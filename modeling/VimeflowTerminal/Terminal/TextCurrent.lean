import Mathlib.Logic.Equiv.List
import VimeflowTerminal.Data.Checked
import VimeflowTerminal.Terminal.TextFinds

/-! A match is looked up again in a buffer of only the rows of the matches that are asked for. Its
logical line can be cut at both ends there. -/

namespace Terminal

open LiteralSearch TextSlice TextLine RetainedTextBuffer TerminalTextPoint

variable (fingerprint : List Char → Nat)

/-! ## The check -/

/-- Whether a line still has the text of a match; there is no result if the slice panics. -/
def LogicalTextLine.holdsMatch (line : LogicalTextLine) (textMatch : TerminalTextMatch) :
  Option Bool :=
  match binarySearchByKey TextSpan.start textMatch.start line.spans with
  | none => some false
  | some startSpan =>
    match binarySearchByKey TextSpan.end textMatch.end line.spans with
    | none => some false
    | some endSpan =>
      if startSpan.byteStart ≤ endSpan.byteEnd then
        (slice line.text startSpan.byteStart endSpan.byteEnd).map fun text =>
          decide (fingerprint text = textMatch.sourceFingerprint)
      else some false

/-- The loop of `contains_match` over the lines. -/
def anyHoldsMatch (textMatch : TerminalTextMatch) : List LogicalTextLine → Option Bool
  | [] => some false
  | line :: lines => do
    if ← line.holdsMatch fingerprint textMatch then some true
    else anyHoldsMatch textMatch lines

def RetainedTextBuffer.containsMatch (buffer : RetainedTextBuffer)
  (textMatch : TerminalTextMatch) : Option Bool :=
  anyHoldsMatch fingerprint textMatch buffer.lines

/-- The first and the last row of matches. -/
def rowRange (range : Option (Nat × Nat)) (textMatch : TerminalTextMatch) : Option (Nat × Nat) :=
  match range with
  | some (startRow, endRow) =>
    some (min startRow textMatch.start.row, max endRow textMatch.end.row)
  | none => some (textMatch.start.row, textMatch.end.row)

/-- A match that was found in the same width and on the same screen. -/
def TerminalTextMatch.scanned (cols : Nat) (activeScreen : Server.ActiveScreen)
  (textMatch : TerminalTextMatch) : Bool :=
  decide (textMatch.scanCols = cols) && decide (textMatch.scanScreen = activeScreen)

/-- `text_matches_are_current` of a terminal with these rows. A panic has no result. -/
def textMatchesAreCurrent (cols : Nat) (activeScreen : Server.ActiveScreen)
  (rows : List ScreenTextRow) (textMatches : List TerminalTextMatch) : Option (List Bool) :=
  if textMatches.isEmpty then some []
  else
    match (textMatches.filter (TerminalTextMatch.scanned cols activeScreen)).foldl rowRange
      none with
    | none => some (textMatches.map fun _ => false)
    | some (startRow, endRow) =>
      let partialRows := screenTextRowsRange rows startRow (min maxRow (endRow + 1))
      let buffer := newSearch cols partialRows startRow
      textMatches.mapM fun textMatch =>
        if textMatch.scanned cols activeScreen then buffer.containsMatch fingerprint textMatch
        else some false

def textMatchIsCurrent (cols : Nat) (activeScreen : Server.ActiveScreen)
  (rows : List ScreenTextRow) (textMatch : TerminalTextMatch) : Option Bool :=
  (textMatchesAreCurrent fingerprint cols activeScreen rows [textMatch]).map fun current =>
    current.head?.getD false

/-- The text of the cells from one point to another. -/
def rangeText (rows : List ScreenTextRow) (start final : TerminalTextPoint) : List Char :=
  joined ((screenCells 0 (screenTextRows rows)).filter fun cell =>
    decide (¬ cell.start.Before start ∧ ¬ final.Before cell.end))

/-! ## Lines of a part of the rows -/

theorem screenCells_append (rowIdx : Nat) (first second : List ScreenTextRow) :
  screenCells rowIdx (first ++ second) =
    screenCells rowIdx first ++ screenCells (rowIdx + first.length) second := by
  induction first generalizing rowIdx with
  | nil => rfl
  | cons row first ih =>
    rw [List.cons_append, screenCells, screenCells, ih, List.append_assoc, List.length_cons,
      Nat.add_right_comm, Nat.add_assoc]

/-- The lines that end in the first rows, and what is open behind these. -/
theorem textLines_append (rowIdx : Nat) (start : List TextCell) (first : List ScreenTextRow) :
  ∃ early rest, (∀ later, textLines rowIdx start (first ++ later) =
      early ++ textLines (rowIdx + first.length) rest later) ∧
    early.flatMap cells ++ rest = start ++ screenCells rowIdx first := by
  induction first generalizing rowIdx start with
  | nil => exact ⟨[], start, fun later => rfl, (List.append_nil start).symm⟩
  | cons row first ih =>
    cases hWrapped : row.softWrapped with
    | true =>
      obtain ⟨early, rest, hLines, hCells⟩ :=
        ih (rowIdx + 1) (start ++ rowCells rowIdx row)
      refine ⟨early, rest, fun later => ?_, ?_⟩
      · rw [List.cons_append, textLines, hWrapped, if_pos rfl, hLines, List.length_cons,
          Nat.add_right_comm, Nat.add_assoc]
      · rw [hCells, screenCells, List.append_assoc]
    | false =>
      obtain ⟨early, rest, hLines, hCells⟩ := ih (rowIdx + 1) []
      refine ⟨⟨start ++ rowCells rowIdx row, true⟩ :: early, rest, fun later => ?_, ?_⟩
      · rw [List.cons_append, textLines, hWrapped, if_neg Bool.false_ne_true, hLines,
          List.length_cons, Nat.add_right_comm, Nat.add_assoc, List.cons_append]
      · rw [List.flatMap_cons, List.append_assoc, hCells, screenCells, List.nil_append,
          List.append_assoc]

variable {rowIdx first stop : Nat} {rows before middle after : List ScreenTextRow} {line : TextLine}
  {start final : TerminalTextPoint} {lines : List LogicalTextLine}

/-- Without the cells in front of it a line is the same but for these. -/
theorem textLines_drop {before start : List TextCell}
  (hLine : line ∈ textLines rowIdx (before ++ start) rows) :
  line.cells = before ∨
    ∃ part ∈ textLines rowIdx start rows, part.ended = line.ended ∧
      (line.cells = before ++ part.cells ∨ line.cells = part.cells) := by
  induction rows generalizing rowIdx start with
  | nil =>
    rw [textLines] at hLine ⊢
    cases start with
    | nil =>
      left
      rw [List.append_nil] at hLine
      cases before with
      | nil => cases hLine
      | cons cell before =>
        obtain rfl := List.mem_singleton.1 hLine
        rfl
    | cons cell start =>
      right
      have hSome : (before ++ cell :: start).isEmpty = false := by
        rw [List.isEmpty_eq_false_iff]
        exact List.append_ne_nil_of_right_ne_nil _ (List.cons_ne_nil _ _)
      rw [hSome, if_neg Bool.false_ne_true] at hLine
      obtain rfl := List.mem_singleton.1 hLine
      exact ⟨_, List.mem_singleton_self _, rfl, .inl rfl⟩
  | cons row rows ih =>
    rw [textLines] at hLine ⊢
    cases hWrapped : row.softWrapped with
    | true =>
      rw [hWrapped, if_pos rfl, List.append_assoc] at hLine
      rw [if_pos rfl]
      exact ih hLine
    | false =>
      rw [hWrapped, if_neg Bool.false_ne_true, List.append_assoc] at hLine
      rw [if_neg Bool.false_ne_true]
      right
      obtain rfl | hLine := List.mem_cons.1 hLine
      · exact ⟨_, List.mem_cons_self, rfl, .inl rfl⟩
      · exact ⟨line, List.mem_cons_of_mem _ hLine, rfl, .inr rfl⟩

theorem mem_textLines_cells {start : List TextCell} (hLine : line ∈ textLines rowIdx start rows)
  {cell : TextCell} (hCell : cell ∈ line.cells) :
  cell ∈ start ∨ cell ∈ screenCells rowIdx rows := by
  have hCells := textLines_cells rowIdx start rows
  rw [← List.mem_append, ← hCells]
  exact List.mem_flatMap.2 ⟨line, hLine, hCell⟩

theorem trimEnd_append (first second : List Char) :
  trimEnd (first ++ second) =
    if (trimEnd second).isEmpty then trimEnd first else first ++ trimEnd second := by
  unfold trimEnd
  rw [List.reverse_append, List.dropWhile_append, List.isEmpty_reverse]
  split
  · rfl
  · rw [List.reverse_append, List.reverse_reverse]

theorem prefix_trimEnd {before kept text : List Char} (hKept : kept ≠ [])
  (hPrefix : before ++ kept <+: trimEnd (before ++ text)) : kept <+: trimEnd text := by
  rw [trimEnd_append] at hPrefix
  split at hPrefix
  case isTrue =>
    have hLength := (hPrefix.trans (trimEnd_isPrefix before)).length_le
    have hPos := List.length_pos_of_ne_nil hKept
    rw [List.length_append] at hLength
    omega
  case isFalse => exact (List.prefix_append_right_inj before).1 hPrefix

namespace TextLine

variable {line part : TextLine} {first stop : Nat} {start final : TerminalTextPoint}

/-- The same cells with the same text in another line. -/
structure SameRun (line part : TextLine) (first stop first' stop' : Nat)
  (start final : TerminalTextPoint) : Prop where
  whole : part.Whole first' stop'
  range : part.HasRange first' stop' start final
  text : part.runText first' stop' = line.runText first stop

/-- A run of cells in a line without the cells in front. -/
theorem sameRun_drop {before : List TextCell} (hFilled : part.Filled)
  (hCells : line.cells = before ++ part.cells) (hEnded : part.ended = line.ended)
  (hWhole : line.Whole first stop) (hRange : line.HasRange first stop start final)
  (hFirst : before.length ≤ first) :
  line.SameRun part first stop (first - before.length) (stop - before.length) start final := by
  have hLt := hWhole.lt
  have hLe := hWhole.le
  rw [hCells, List.length_append] at hLe
  have hTake : line.cells.take stop = before ++ part.cells.take (stop - before.length) := by
    rw [hCells, List.take_append, List.take_of_length_le (by omega)]
  have hText := hWhole.text
  rw [hTake, joined_append] at hText
  have hSucc : stop - before.length - 1 = stop - 1 - before.length := by omega
  refine ⟨⟨by omega, by omega, ?_⟩, ⟨?_, ?_⟩, ?_⟩
  · unfold text at hText ⊢
    rw [hEnded]
    split
    case isTrue hEnd =>
      rw [if_pos hEnd, hCells, joined_append] at hText
      refine prefix_trimEnd ?_ hText
      have hSome : 0 < stop - before.length := by omega
      have hHere : stop - before.length ≤ part.cells.length := by omega
      have hOffset := offset_lt hFilled hSome hHere
      unfold offset at hOffset
      exact List.ne_nil_of_length_pos (by omega)
    case isFalse => exact joined_take_isPrefix _ _
  · rw [← List.getElem?_append_right hFirst, ← hCells]
    exact hRange.start
  · rw [hSucc, ← List.getElem?_append_right (by omega), ← hCells]
    exact hRange.end
  · rw [runText, runText, hTake, List.drop_append, List.drop_eq_nil_of_le hFirst, List.nil_append]

theorem sameRun_cut {kept rest : List TextCell} (hCells : line.cells = kept ++ rest)
  (hWhole : line.Whole first stop) (hRange : line.HasRange first stop start final)
  (hStop : stop ≤ kept.length) :
  line.SameRun ⟨kept, false⟩ first stop first stop start final := by
  have hLt := hWhole.lt
  have hTake : line.cells.take stop = kept.take stop := by
    rw [hCells, List.take_append_of_le_length hStop]
  refine ⟨⟨hLt, hStop, joined_take_isPrefix kept stop⟩, ⟨?_, ?_⟩, ?_⟩
  · rw [← hRange.start, hCells, List.getElem?_append_left (by omega)]
  · rw [← hRange.end, hCells, List.getElem?_append_left (by omega)]
  · rw [runText, runText, hTake]

theorem SameRun.trans {next : TextLine} {first' stop' first'' stop'' : Nat}
  (hFirst : line.SameRun part first stop first' stop' start final)
  (hSecond : part.SameRun next first' stop' first'' stop'' start final) :
  line.SameRun next first stop first'' stop'' start final :=
  ⟨hSecond.whole, hSecond.range, hSecond.text.trans hFirst.text⟩

end TextLine

theorem textLines_filled (hLine : line ∈ textLines rowIdx [] rows) : line.Filled := by
  intro cell hCell
  obtain hNone | hScreen := mem_textLines_cells hLine hCell
  · cases hNone
  · exact (mem_screenCells hScreen).1.text

/-- Without the rows before it. -/
theorem exists_part_drop {rest : List ScreenTextRow}
  (hLine : line ∈ textLines 0 [] (before ++ rest)) (hWhole : line.Whole first stop)
  (hRange : line.HasRange first stop start final) (hStart : before.length ≤ start.row) :
  ∃ part ∈ textLines before.length [] rest, ∃ first' stop',
    line.SameRun part first stop first' stop' start final := by
  obtain ⟨cell, hCell, rfl⟩ := Option.map_eq_some_iff.1 hRange.start
  have hMem := List.mem_of_getElem? hCell
  obtain ⟨early, held, hLines, hCells⟩ := textLines_append 0 [] before
  rw [List.nil_append] at hCells
  rw [Nat.zero_add] at hLines
  -- The cells of the rows before are all above the run.
  have hAbove : ∀ other ∈ screenCells 0 before, other.start.row < cell.start.row := by
    intro other hOther
    have := (mem_screenCells hOther).2.2
    omega
  have hHeld : ∀ other ∈ held, other.start.row < cell.start.row := fun other hOther =>
    hAbove other (hCells ▸ List.mem_append_right _ hOther)
  rw [hLines rest] at hLine
  obtain hEarly | hLate := List.mem_append.1 hLine
  · have hIn : cell ∈ screenCells 0 before := by
      rw [← hCells]
      exact List.mem_append_left _ (List.mem_flatMap.2 ⟨line, hEarly, hMem⟩)
    exact absurd (hAbove cell hIn) (Nat.lt_irrefl _)
  · rw [← List.append_nil held] at hLate
    obtain hOnly | ⟨part, hPart, hEnded, hBoth | hSame⟩ := textLines_drop hLate
    · exact absurd (hHeld cell (hOnly ▸ hMem)) (Nat.lt_irrefl _)
    · have hFirst : held.length ≤ first := by
        by_contra hLess
        rw [hBoth, List.getElem?_append_left (by omega)] at hCell
        exact Nat.lt_irrefl _ (hHeld cell (List.mem_of_getElem? hCell))
      exact ⟨part, hPart, _, _,
        sameRun_drop (textLines_filled hPart) hBoth hEnded hWhole hRange hFirst⟩
    · have hNone : line.cells = [] ++ part.cells := hSame
      exact ⟨part, hPart, _, _, sameRun_drop (textLines_filled hPart) hNone hEnded hWhole
        hRange (Nat.zero_le _)⟩

/-- Without the rows behind it. -/
theorem exists_part_take (hLine : line ∈ textLines rowIdx [] (middle ++ after))
  (hWhole : line.Whole first stop) (hRange : line.HasRange first stop start final)
  (hFinal : final.row < rowIdx + middle.length) :
  ∃ part ∈ textLines rowIdx [] middle, line.SameRun part first stop first stop start final := by
  obtain ⟨last, hLast, rfl⟩ := Option.map_eq_some_iff.1 hRange.end
  obtain ⟨early, held, hLines, -⟩ := textLines_append rowIdx [] middle
  have hMiddle := hLines []
  rw [List.append_nil, textLines] at hMiddle
  rw [hLines after] at hLine
  have hSelf : line.SameRun line first stop first stop start last.end := ⟨hWhole, hRange, rfl⟩
  obtain hEarly | hLate := List.mem_append.1 hLine
  · exact ⟨line, hMiddle ▸ List.mem_append_left _ hEarly, hSelf⟩
  · -- The cells of the rows behind are all below the run.
    have hBelow : ∀ {part : TextLine}, part ∈ textLines (rowIdx + middle.length) [] after →
        last ∉ part.cells := by
      intro part hPart hIn
      obtain hNone | hScreen := mem_textLines_cells hPart hIn
      · cases hNone
      · obtain ⟨hRow, hFrom, -⟩ := mem_screenCells hScreen
        have := hRow.endRow
        omega
    have hCut : ∀ rest, line.cells = held ++ rest → last ∉ rest →
        ∃ part ∈ textLines rowIdx [] middle,
          line.SameRun part first stop first stop start last.end := by
      intro rest hCells hNot
      have hLt := hWhole.lt
      have hStop : stop - 1 < held.length := by
        by_contra hLess
        rw [hCells, List.getElem?_append_right (by omega)] at hLast
        exact hNot (List.mem_of_getElem? hLast)
      have hHeld : held.isEmpty = false := by
        rw [List.isEmpty_eq_false_iff]
        exact List.ne_nil_of_length_pos (by omega)
      rw [hHeld, if_neg Bool.false_ne_true] at hMiddle
      refine ⟨⟨held, false⟩, ?_, sameRun_cut hCells hWhole hRange (by omega)⟩
      rw [hMiddle]
      exact List.mem_append_right _ List.mem_cons_self
    rw [← List.append_nil held] at hLate
    obtain hOnly | ⟨part, hPart, -, hBoth | hSame⟩ := textLines_drop hLate
    · exact hCut [] (by simpa using hOnly) List.not_mem_nil
    · exact hCut part.cells hBoth (hBelow hPart)
    · exact absurd (hSame ▸ List.mem_of_getElem? hLast) (hBelow hPart)

theorem exists_part (hLine : line ∈ textLines 0 [] (before ++ (middle ++ after)))
  (hWhole : line.Whole first stop) (hRange : line.HasRange first stop start final)
  (hStart : before.length ≤ start.row) (hFinal : final.row < before.length + middle.length) :
  ∃ part ∈ textLines before.length [] middle, ∃ first' stop',
    line.SameRun part first stop first' stop' start final := by
  obtain ⟨part, hPart, first', stop', hDropped⟩ := exists_part_drop hLine hWhole hRange hStart
  obtain ⟨cut, hCut, hKept⟩ := exists_part_take hPart hDropped.whole hDropped.range hFinal
  exact ⟨cut, hCut, first', stop', hDropped.trans hKept⟩

/-! ## The text of a range -/

/-- Of cells in order, those of a range are the run from its first to its last cell. -/
theorem filter_range {before run after : List TextCell}
  (hOrdered : Ordered (before ++ (run ++ after)))
  (hWidth : ∀ cell ∈ before ++ (run ++ after), ¬ cell.end.Before cell.start)
  (hStart : run.head?.map TextCell.start = some start)
  (hFinal : run.getLast?.map TextCell.end = some final) :
  (before ++ (run ++ after)).filter (fun cell =>
    decide (¬ cell.start.Before start ∧ ¬ final.Before cell.end)) = run := by
  obtain ⟨head, hHead, rfl⟩ := Option.map_eq_some_iff.1 hStart
  obtain ⟨last, hLast, rfl⟩ := Option.map_eq_some_iff.1 hFinal
  have hHeadMem := List.mem_of_mem_head? hHead
  have hLastMem := List.mem_of_getLast? hLast
  obtain ⟨-, hBehind, hAbove⟩ := List.pairwise_append.1 hOrdered
  obtain ⟨hRun, -, hBelow⟩ := List.pairwise_append.1 hBehind
  have hWidthOf : ∀ cell ∈ run, ¬ cell.end.Before cell.start := fun cell hCell =>
    hWidth cell (List.mem_append_right _ (List.mem_append_left _ hCell))
  have hBefore : ∀ cell ∈ before,
      ¬ decide (¬ cell.start.Before head.start ∧ ¬ last.end.Before cell.end) = true := by
    intro cell hCell
    have hLeft := hAbove cell hCell head (List.mem_append_left _ hHeadMem)
    have hWide := hWidth cell (List.mem_append_left _ hCell)
    rw [decide_eq_true_iff]
    unfold Before at *
    omega
  have hAfter : ∀ cell ∈ after,
      ¬ decide (¬ cell.start.Before head.start ∧ ¬ last.end.Before cell.end) = true := by
    intro cell hCell
    have hRight := hBelow last hLastMem cell hCell
    have hWide := hWidth cell (List.mem_append_right _ (List.mem_append_right _ hCell))
    rw [decide_eq_true_iff]
    unfold Before at *
    omega
  have hInside : ∀ cell ∈ run,
      decide (¬ cell.start.Before head.start ∧ ¬ last.end.Before cell.end) = true := by
    intro cell hCell
    have hFirst : cell = head ∨ head.end.Before cell.start := by
      obtain ⟨rest, rfl⟩ := List.head?_eq_some_iff.1 hHead
      obtain rfl | hRest := List.mem_cons.1 hCell
      · exact Or.inl rfl
      · exact Or.inr (List.rel_of_pairwise_cons hRun hRest)
    have hEnd : cell = last ∨ cell.end.Before last.start := by
      obtain ⟨front, rfl⟩ := List.getLast?_eq_some_iff.1 hLast
      obtain hFront | hOnly := List.mem_append.1 hCell
      · exact Or.inr ((List.pairwise_append.1 hRun).2.2 cell hFront last List.mem_cons_self)
      · exact Or.inl (List.mem_singleton.1 hOnly)
    have hHeadWidth := hWidthOf head hHeadMem
    have hLastWidth := hWidthOf last hLastMem
    have hCellWidth := hWidthOf cell hCell
    rw [decide_eq_true_iff]
    constructor
    · obtain rfl | hFirst := hFirst
      · unfold Before
        omega
      · unfold Before at *
        omega
    · obtain rfl | hEnd := hEnd
      · unfold Before
        omega
      · unfold Before at *
        omega
  rw [List.filter_append, List.filter_append, List.filter_eq_nil_iff.2 hBefore,
    List.filter_eq_self.2 hInside, List.filter_eq_nil_iff.2 hAfter, List.nil_append,
    List.append_nil]

theorem runCells_range (hLt : first < stop) (hLe : stop ≤ line.cells.length)
  (hRange : line.HasRange first stop start final) :
  ((line.cells.take stop).drop first).head?.map TextCell.start = some start ∧
    ((line.cells.take stop).drop first).getLast?.map TextCell.end = some final := by
  have hLength : ¬ (line.cells.take stop).length ≤ first := by
    rw [List.length_take]
    omega
  have hStop : (line.cells.take stop).length = stop := List.length_take_of_le hLe
  rw [List.head?_drop, List.getElem?_take_of_lt hLt, List.getLast?_drop, if_neg hLength,
    List.getLast?_eq_getElem?, hStop, List.getElem?_take_of_lt (by omega)]
  exact ⟨hRange.start, hRange.end⟩

/-- A run of cells is what is in its range on the screen. -/
theorem rangeText_eq (hTails : ∀ row ∈ rows, tailsFollow row.cells = true)
  (hRows : screenTextRows rows = before ++ (middle ++ after))
  (hLine : line ∈ textLines before.length [] middle) (hLt : first < stop)
  (hLe : stop ≤ line.cells.length) (hRange : line.HasRange first stop start final) :
  rangeText rows start final = line.runText first stop := by
  obtain ⟨hHead, hLast⟩ := runCells_range hLt hLe hRange
  obtain ⟨early, late, hLines⟩ := List.append_of_mem hLine
  have hCells := textLines_cells before.length [] middle
  rw [hLines, List.flatMap_append, List.flatMap_cons, List.nil_append] at hCells
  have hSplit : line.cells =
      line.cells.take first ++ ((line.cells.take stop).drop first ++ line.cells.drop stop) := by
    have hTake : line.cells.take first = (line.cells.take stop).take first := by
      rw [List.take_take, Nat.min_eq_left (Nat.le_of_lt hLt)]
    rw [hTake, ← List.append_assoc, List.take_append_drop, List.take_append_drop]
  have hScreen : screenCells 0 (screenTextRows rows) =
      (screenCells 0 before ++ early.flatMap cells ++ line.cells.take first) ++
        ((line.cells.take stop).drop first ++ (line.cells.drop stop ++
          late.flatMap cells ++ screenCells (before.length + middle.length) after)) := by
    rw [hRows, screenCells_append, screenCells_append, Nat.zero_add, ← hCells]
    conv_lhs => rw [hSplit]
    simp only [List.append_assoc]
  have hOrdered : Ordered (screenCells 0 (screenTextRows rows)) :=
    ordered_screenCells fun row hRow => hTails row (mem_screenTextRows hRow)
  have hWidth : ∀ cell ∈ screenCells 0 (screenTextRows rows), ¬ cell.end.Before cell.start := by
    intro cell hCell
    have hIn := (mem_screenCells hCell).1
    have hRow := hIn.endRow
    have hWide := hIn.width
    unfold Before
    omega
  rw [hScreen] at hOrdered hWidth
  rw [rangeText, hScreen, filter_range hOrdered hWidth hHead hLast, runText]

/-! ## A match in a line -/

namespace TextLine

variable {line : TextLine} {fingerprint : List Char → Nat} {textMatch : TerminalTextMatch}

section

variable (hLine : line.OnScreen)
include hLine

theorem OnScreen.spans_apart : line.logical.spans.Pairwise fun first second =>
  first.start ≠ second.start ∧ first.end ≠ second.end := by
  refine (spansOf_pairwise fun first second cell other hLt hCell hOther => ?_).sublist
    (logical_spans_sublist hLine.filled)
  obtain ⟨hFirst, rfl⟩ := List.getElem?_eq_some_iff.1 hCell
  obtain ⟨hSecond, rfl⟩ := List.getElem?_eq_some_iff.1 hOther
  have hBefore := List.pairwise_iff_getElem.1 hLine.ordered _ _ hFirst hSecond hLt
  constructor
  · intro (hStarts : line.cells[first].start = line.cells[second].start)
    rw [← hStarts] at hBefore
    exact hLine.width _ (List.getElem_mem hFirst) hBefore
  · intro (hEnds : line.cells[first].end = line.cells[second].end)
    rw [hEnds] at hBefore
    exact hLine.width _ (List.getElem_mem hSecond) hBefore

theorem OnScreen.start_inj :
  line.logical.spans.Pairwise fun first second => first.start ≠ second.start :=
  hLine.spans_apart.imp And.left

theorem OnScreen.end_inj :
  line.logical.spans.Pairwise fun first second => first.end ≠ second.end :=
  hLine.spans_apart.imp And.right

/-- A line without the first or the last cell of a match does not hold it. -/
theorem holdsMatch_absent
  (hAbsent : (∀ cell ∈ line.cells, cell.start ≠ textMatch.start) ∨
    ∀ cell ∈ line.cells, cell.end ≠ textMatch.end) :
  line.logical.holdsMatch fingerprint textMatch = some false := by
  unfold LogicalTextLine.holdsMatch
  split
  case h_1 => rfl
  case h_2 startSpan hStart =>
    split
    case h_1 => rfl
    case h_2 endSpan hEnd =>
      obtain ⟨hStartMem, hStartKey⟩ := (binarySearchByKey_eq_some_iff hLine.start_inj).1 hStart
      obtain ⟨hEndMem, hEndKey⟩ := (binarySearchByKey_eq_some_iff hLine.end_inj).1 hEnd
      obtain ⟨_, cell, hCell, rfl, -⟩ := (mem_logical_spans hLine.filled).1 hStartMem
      obtain ⟨_, last, hLast, rfl, -⟩ := (mem_logical_spans hLine.filled).1 hEndMem
      obtain hNone | hNone := hAbsent
      · exact absurd hStartKey (hNone cell (List.mem_of_getElem? hCell))
      · exact absurd hEndKey (hNone last (List.mem_of_getElem? hLast))

/-- A line with the run of a match holds it if the text is that of the match. -/
theorem holdsMatch_of_whole {first stop : Nat}
  (hWhole : line.Whole first stop)
  (hRange : line.HasRange first stop textMatch.start textMatch.end)
  (hText : fingerprint (line.runText first stop) = textMatch.sourceFingerprint) :
  line.logical.holdsMatch fingerprint textMatch = some true := by
  obtain ⟨cell, hCell, hCellStart⟩ := Option.map_eq_some_iff.1 hRange.start
  obtain ⟨last, hLast, hLastEnd⟩ := Option.map_eq_some_iff.1 hRange.end
  have hLt := hWhole.lt
  have hSucc : stop - 1 + 1 = stop := by omega
  have hJoined := joined_take_append line.cells (Nat.le_of_lt hLt)
  have hBytes := byteLength_le_of_isPrefix hWhole.text
  have hStartLt := byteLength_take_lt hLine.filled hLt hWhole.le
  have hLastLt := byteLength_take_lt hLine.filled (Nat.sub_lt (by omega) Nat.one_pos) hWhole.le
  have hStart : binarySearchByKey TextSpan.start textMatch.start line.logical.spans =
      some (line.span first cell) :=
    (binarySearchByKey_eq_some_iff hLine.start_inj).2 ⟨(mem_logical_spans hLine.filled).2
      ⟨first, cell, hCell, rfl, fun _ => Nat.lt_of_lt_of_le hStartLt hBytes⟩, hCellStart⟩
  have hEnd : binarySearchByKey TextSpan.end textMatch.end line.logical.spans =
      some (line.span (stop - 1) last) :=
    (binarySearchByKey_eq_some_iff hLine.end_inj).2 ⟨(mem_logical_spans hLine.filled).2
      ⟨stop - 1, last, hLast, rfl, fun _ => Nat.lt_of_lt_of_le hLastLt hBytes⟩, hLastEnd⟩
  have hSlice : slice line.logical.text (line.span first cell).byteStart
      (line.span (stop - 1) last).byteEnd = some (line.runText first stop) := by
    obtain ⟨rest, hRest⟩ := hWhole.text
    have hCut := slice_append (joined (line.cells.take first)) (line.runText first stop) rest
    rw [runText, hJoined, hRest] at hCut
    rw [logical_text, span, span, hSucc]
    exact hCut
  have hOrder : (line.span first cell).byteStart ≤ (line.span (stop - 1) last).byteEnd := by
    rw [span, span, hSucc]
    exact Nat.le_of_lt hStartLt
  unfold LogicalTextLine.holdsMatch
  rw [hStart, hEnd]
  dsimp only
  rw [if_pos hOrder, hSlice, Option.map_some, hText, decide_eq_true rfl]

/-- What a line holds is a run of its cells with the text of the match, or nothing at all. -/
theorem run_of_holdsMatch
  (hHolds : line.logical.holdsMatch fingerprint textMatch = some true) :
  fingerprint [] = textMatch.sourceFingerprint ∨
    ∃ first stop, first < stop ∧ stop ≤ line.cells.length ∧
      line.HasRange first stop textMatch.start textMatch.end ∧
      fingerprint (line.runText first stop) = textMatch.sourceFingerprint := by
  unfold LogicalTextLine.holdsMatch at hHolds
  split at hHolds
  case h_1 => cases hHolds
  case h_2 startSpan hStart =>
    split at hHolds
    case h_1 => cases hHolds
    case h_2 endSpan hEnd =>
      obtain ⟨hStartMem, hStartKey⟩ := (binarySearchByKey_eq_some_iff hLine.start_inj).1 hStart
      obtain ⟨hEndMem, hEndKey⟩ := (binarySearchByKey_eq_some_iff hLine.end_inj).1 hEnd
      obtain ⟨first, cell, hCell, rfl, -⟩ := (mem_logical_spans hLine.filled).1 hStartMem
      obtain ⟨last, lastCell, hLast, rfl, -⟩ := (mem_logical_spans hLine.filled).1 hEndMem
      split at hHolds
      case isFalse => cases hHolds
      case isTrue hOrder =>
        obtain ⟨text, hSlice, hSame⟩ := Option.map_eq_some_iff.1 hHolds
        rw [logical_text] at hSlice
        obtain ⟨before, after, hText, hBefore, hStop⟩ := slice_eq_some hSlice
        have hLastIn := (List.getElem?_eq_some_iff.1 hLast).1
        have hFirstIn := (List.getElem?_eq_some_iff.1 hCell).1
        have hJoined : line.text <+: joined line.cells := text_isPrefix
        have hPrefix : before ++ text <+: joined line.cells :=
          List.IsPrefix.trans ⟨after, hText.symm⟩ hJoined
        have hFront : before = joined (line.cells.take first) :=
          eq_of_byteLength_eq ((List.prefix_append before text).trans hPrefix)
            (joined_take_isPrefix line.cells first) hBefore
        have hWhole : before ++ text = joined (line.cells.take (last + 1)) :=
          eq_of_byteLength_eq hPrefix (joined_take_isPrefix line.cells (last + 1)) hStop
        have hPrint := of_decide_eq_true hSame
        by_cases hLt : first < last + 1
        · refine Or.inr ⟨first, last + 1, hLt, hLastIn, ⟨?_, ?_⟩, ?_⟩
          · rw [hCell, Option.map_some]
            exact congrArg some hStartKey
          · rw [Nat.add_sub_cancel, hLast, Option.map_some]
            exact congrArg some hEndKey
          · have hSplit := joined_take_append line.cells (Nat.le_of_lt hLt)
            rw [← hWhole, ← hFront] at hSplit
            rw [runText, List.append_cancel_left hSplit]
            exact hPrint
        · -- The end comes before the start, so the slice is empty.
          left
          have hBack : last + 1 = first := by
            by_contra hNe
            have hLess := byteLength_take_lt hLine.filled (by omega : last + 1 < first)
              (Nat.le_of_lt hFirstIn)
            exact Nat.not_le_of_lt hLess hOrder
          rw [hBack, hFront] at hWhole
          obtain rfl := List.append_right_eq_self.1 hWhole
          exact hPrint

end

end TextLine

/-! ## A match in a window of rows -/

variable {fingerprint : List Char → Nat} {textMatch : TerminalTextMatch}

theorem anyHoldsMatch_false
  (hNone : ∀ line ∈ lines, line.holdsMatch fingerprint textMatch = some false) :
  anyHoldsMatch fingerprint textMatch lines = some false := by
  induction lines with
  | nil => rfl
  | cons line lines ih =>
    obtain ⟨hLine, hLines⟩ := List.forall_mem_cons.1 hNone
    rw [anyHoldsMatch, hLine]
    exact ih hLines

theorem anyHoldsMatch_true
  (hEach : ∀ line ∈ lines, line.holdsMatch fingerprint textMatch = some false ∨
    line.holdsMatch fingerprint textMatch = some true)
  (hSome : ∃ line ∈ lines, line.holdsMatch fingerprint textMatch = some true) :
  anyHoldsMatch fingerprint textMatch lines = some true := by
  induction lines with
  | nil =>
    obtain ⟨line, hMem, -⟩ := hSome
    cases hMem
  | cons line lines ih =>
    obtain ⟨hLine, hLines⟩ := List.forall_mem_cons.1 hEach
    rw [anyHoldsMatch]
    obtain hFalse | hTrue := hLine
    · rw [hFalse]
      refine ih hLines ?_
      obtain ⟨other, hMem, hHolds⟩ := hSome
      obtain rfl | hMem := List.mem_cons.1 hMem
      · rw [hFalse] at hHolds
        cases hHolds
      · exact ⟨other, hMem, hHolds⟩
    · rw [hTrue]
      rfl

theorem exists_of_anyHoldsMatch (hAny : anyHoldsMatch fingerprint textMatch lines = some true) :
  ∃ line ∈ lines, line.holdsMatch fingerprint textMatch = some true := by
  induction lines with
  | nil => cases hAny
  | cons line lines ih =>
    rw [anyHoldsMatch] at hAny
    obtain ⟨holds, hHolds, hRest⟩ := Option.bind_eq_some_iff.1 hAny
    cases holds with
    | true => exact ⟨line, List.mem_cons_self, hHolds⟩
    | false =>
      obtain ⟨other, hMem, hOther⟩ := ih hRest
      exact ⟨other, List.mem_cons_of_mem _ hMem, hOther⟩

/-- The rows of a window with those before and behind it. -/
theorem exists_window {rows : List ScreenTextRow} {startRow stop : Nat}
  (hStart : startRow < stop) (hIn : startRow < (screenTextRows rows).length) :
  ∃ before middle after, screenTextRows rows = before ++ (middle ++ after) ∧
    before.length = startRow ∧ screenTextRowsRange rows startRow stop = middle ∧
    startRow + middle.length = min stop (screenTextRows rows).length := by
  refine ⟨(screenTextRows rows).take startRow, ((screenTextRows rows).take stop).drop startRow,
    (screenTextRows rows).drop stop, ?_, ?_, screenTextRowsRange_eq rows startRow stop, ?_⟩
  · have hTake : (screenTextRows rows).take startRow =
        ((screenTextRows rows).take stop).take startRow := by
      rw [List.take_take, Nat.min_eq_left (Nat.le_of_lt hStart)]
    rw [hTake, ← List.append_assoc, List.take_append_drop, List.take_append_drop]
  · exact List.length_take_of_le (Nat.le_of_lt hIn)
  · rw [List.length_drop, List.length_take]
    omega

theorem window_lines (cols : Nat) {startRow : Nat} (hStart : startRow ≤ maxRow) :
  (newSearch cols (screenTextRowsRange rows startRow stop) startRow).lines =
    (textLines startRow [] (screenTextRowsRange rows startRow stop)).map logical := by
  have hLength := length_screenTextRows rows
  refine newSearch_lines cols ?_
  rw [screenTextRowsRange_eq, List.length_drop, List.length_take]
  omega

theorem window_tails (hTails : ∀ row ∈ rows, tailsFollow row.cells = true) (startRow stop : Nat) :
  ∀ row ∈ screenTextRowsRange rows startRow stop, tailsFollow row.cells = true := by
  intro row hRow
  rw [screenTextRowsRange] at hRow
  exact hTails row (List.mem_of_mem_take (List.mem_of_mem_drop hRow))

/-- A match of the screen: the run of its cells with their text. -/
structure IsRun (fingerprint : List Char → Nat) (rows : List ScreenTextRow)
  (textMatch : TerminalTextMatch) (line : TextLine) (first stop : Nat) : Prop where
  mem : line ∈ textLines 0 [] (screenTextRows rows)
  whole : line.Whole first stop
  range : line.HasRange first stop textMatch.start textMatch.end
  text : textMatch.sourceFingerprint = fingerprint (line.runText first stop)

section Run

variable {rows : List ScreenTextRow} {line : TextLine} {first stop : Nat}

theorem screenTextRows_tails (hTails : ∀ row ∈ rows, tailsFollow row.cells = true) :
  ∀ row ∈ screenTextRows rows, tailsFollow row.cells = true := fun row hRow =>
  hTails row (mem_screenTextRows hRow)

/-- The rows of a match are those of its first and of its last cell. -/
theorem IsRun.inRows (hTails : ∀ row ∈ rows, tailsFollow row.cells = true)
  (hRun : IsRun fingerprint rows textMatch line first stop) :
  textMatch.start.row ≤ textMatch.end.row ∧
    textMatch.end.row < (screenTextRows rows).length := by
  have hLine := (textLines_onScreen (screenTextRows_tails hTails)).1 line hRun.mem
  have hOrder := not_before_of_lt hLine hRun.whole.lt hRun.range hRun.range
  obtain ⟨last, hLast, hEnd⟩ := Option.map_eq_some_iff.1 hRun.range.end
  obtain hNone | hIn := mem_textLines_cells hRun.mem (List.mem_of_getElem? hLast)
  · cases hNone
  · obtain ⟨hLastRow, -, hBelow⟩ := mem_screenCells hIn
    have hEndRow := hLastRow.endRow
    rw [hEnd] at hEndRow
    unfold Before at hOrder
    omega

variable {startRow endRow : Nat}

/-- In a window that has its rows a match is found again. -/
theorem containsMatch_window (cols : Nat) (hTails : ∀ row ∈ rows, tailsFollow row.cells = true)
  (hRun : IsRun fingerprint rows textMatch line first stop)
  (hStart : startRow ≤ textMatch.start.row) (hEnd : textMatch.end.row < endRow) :
  (newSearch cols (screenTextRowsRange rows startRow endRow)
    startRow).containsMatch fingerprint textMatch = some true := by
  obtain ⟨hOrder, hIn⟩ := hRun.inRows hTails
  have hLength := length_screenTextRows rows
  obtain ⟨before, middle, after, hRows, hBefore, hWindow, hMiddle⟩ :=
    @exists_window rows startRow endRow (by omega) (by omega)
  have hMem := hRun.mem
  rw [hRows] at hMem
  obtain ⟨part, hPart, first', stop', hSame⟩ :=
    exists_part hMem hRun.whole hRun.range (by omega) (by omega)
  rw [hBefore, ← hWindow] at hPart
  have hWindowTails := window_tails hTails startRow endRow
  have hLines := (@textLines_onScreen startRow _ hWindowTails).1
  have hHolds : part.logical.holdsMatch fingerprint textMatch = some true :=
    holdsMatch_of_whole (hLines part hPart) hSame.whole hSame.range
      ((congrArg fingerprint hSame.text).trans hRun.text.symm)
  rw [containsMatch, window_lines cols (by omega)]
  refine anyHoldsMatch_true ?_ ⟨_, List.mem_map_of_mem hPart, hHolds⟩
  intro logical hLogical
  obtain ⟨other, hOther, rfl⟩ := List.mem_map.1 hLogical
  -- No other line has the first cell of the match.
  obtain ⟨cell, hCell, hCellStart⟩ := hSame.range.start_mem
  have hWidth := (hLines part hPart).width cell hCell
  obtain rfl | hAbove | hBelow := textLines_apart hWindowTails hPart hOther
  · exact Or.inr hHolds
  · refine Or.inl (holdsMatch_absent (hLines other hOther) (Or.inl ?_))
    intro next hNext hNextStart
    have hLater := hAbove cell hCell next hNext
    rw [hNextStart, ← hCellStart] at hLater
    exact hWidth hLater
  · refine Or.inl (holdsMatch_absent (hLines other hOther) (Or.inl ?_))
    intro next hNext hNextStart
    have hLater := hBelow next hNext cell hCell
    rw [hCellStart, ← hNextStart] at hLater
    exact (hLines other hOther).width next hNext hLater

/-- A window without its last row does not have the match. -/
theorem containsMatch_beyond (cols : Nat) (hTails : ∀ row ∈ rows, tailsFollow row.cells = true)
  (hStart : startRow ≤ maxRow) (hEnd : endRow ≤ textMatch.end.row) :
  (newSearch cols (screenTextRowsRange rows startRow endRow)
    startRow).containsMatch fingerprint textMatch = some false := by
  have hLines := (@textLines_onScreen startRow _ (window_tails hTails startRow endRow)).1
  rw [containsMatch, window_lines cols hStart]
  refine anyHoldsMatch_false fun logical hLogical => ?_
  obtain ⟨line, hLine, rfl⟩ := List.mem_map.1 hLogical
  refine holdsMatch_absent (hLines line hLine) (Or.inr fun cell hCell hSame => ?_)
  obtain hNone | hIn := mem_textLines_cells hLine hCell
  · cases hNone
  · obtain ⟨hRow, hFrom, hTo⟩ := mem_screenCells hIn
    have hEndRow := hRow.endRow
    rw [hSame] at hEndRow
    rw [screenTextRowsRange_eq, List.length_drop, List.length_take] at hTo
    omega

/-- What a window of any rows has of a match is its text in its range. -/
theorem rangeText_of_containsMatch (cols : Nat)
  (hTails : ∀ row ∈ rows, tailsFollow row.cells = true) (hStart : startRow ≤ maxRow)
  (hContains : (newSearch cols (screenTextRowsRange rows startRow endRow)
    startRow).containsMatch fingerprint textMatch = some true) :
  fingerprint [] = textMatch.sourceFingerprint ∨
    fingerprint (rangeText rows textMatch.start textMatch.end) =
      textMatch.sourceFingerprint := by
  have hLines := (@textLines_onScreen startRow _ (window_tails hTails startRow endRow)).1
  rw [containsMatch, window_lines cols hStart] at hContains
  obtain ⟨logical, hLogical, hHolds⟩ := exists_of_anyHoldsMatch hContains
  obtain ⟨line, hLine, rfl⟩ := List.mem_map.1 hLogical
  obtain hNone | ⟨first, stop, hLt, hLe, hRange, hText⟩ :=
    run_of_holdsMatch (hLines line hLine) hHolds
  · exact Or.inl hNone
  · right
    obtain ⟨cell, hCell, -⟩ := hRange.start_mem
    have hSome : startRow < endRow ∧ startRow < (screenTextRows rows).length := by
      obtain hNone | hIn := mem_textLines_cells hLine hCell
      · cases hNone
      · obtain ⟨-, hFrom, hTo⟩ := mem_screenCells hIn
        rw [screenTextRowsRange_eq, List.length_drop, List.length_take] at hTo
        omega
    obtain ⟨before, middle, after, hRows, hBefore, hWindow, -⟩ :=
      exists_window hSome.1 hSome.2
    rw [hWindow, ← hBefore] at hLine
    rw [rangeText_eq hTails hRows hLine hLt hLe hRange]
    exact hText

end Run

/-! ## Matches asked for together -/

theorem foldl_rowRange_some (startRow endRow : Nat) (textMatches : List TerminalTextMatch) :
  ∃ startRow' endRow', textMatches.foldl rowRange (some (startRow, endRow)) =
      some (startRow', endRow') ∧ startRow' ≤ startRow ∧ endRow ≤ endRow' ∧
    ∀ textMatch ∈ textMatches,
      startRow' ≤ textMatch.start.row ∧ textMatch.end.row ≤ endRow' := by
  induction textMatches generalizing startRow endRow with
  | nil => exact ⟨startRow, endRow, rfl, Nat.le_refl _, Nat.le_refl _, fun _ hMem => nomatch hMem⟩
  | cons head textMatches ih =>
    obtain ⟨startRow', endRow', hFold, hStart, hEnd, hAll⟩ :=
      ih (min startRow head.start.row) (max endRow head.end.row)
    refine ⟨startRow', endRow', hFold, by omega, by omega, ?_⟩
    refine List.forall_mem_cons.2 ⟨⟨by omega, by omega⟩, hAll⟩

theorem foldl_rowRange {textMatches : List TerminalTextMatch} (hSome : textMatches ≠ []) :
  ∃ startRow endRow, textMatches.foldl rowRange none = some (startRow, endRow) ∧
    ∀ textMatch ∈ textMatches,
      startRow ≤ textMatch.start.row ∧ textMatch.end.row ≤ endRow := by
  cases textMatches with
  | nil => exact absurd rfl hSome
  | cons head textMatches =>
    obtain ⟨startRow, endRow, hFold, hStart, hEnd, hAll⟩ :=
      foldl_rowRange_some head.start.row head.end.row textMatches
    exact ⟨startRow, endRow, hFold, List.forall_mem_cons.2 ⟨⟨hStart, hEnd⟩, hAll⟩⟩

/-- What the search tells of a match. -/
theorem isRun_of_mem {cols : Nat} {activeScreen : Server.ActiveScreen} {query : List Char}
  {regex : Option (Char → Char → Bool)}
  (hMem : textMatch ∈ searchTextMatches fingerprint cols rows activeScreen query regex) :
  textMatch.scanned cols activeScreen = true ∧
    ∃ line first stop, IsRun fingerprint rows textMatch line first stop := by
  by_cases hQuery : query = []
  · subst hQuery
    cases hMem
  cases regex with
  | none =>
    rw [searchTextMatches, search] at hMem
    split at hMem <;> cases hMem
  | some same =>
    rw [searchTextMatches_eq fingerprint cols rows activeScreen hQuery] at hMem
    obtain ⟨line, hLine, hFound⟩ := List.mem_flatMap.1 hMem
    obtain ⟨place, hPlace, first, stop, start, final, hWhole, rfl, hStop, hRange, rfl⟩ :=
      (mem_finds (textLines_filled hLine) hQuery).1 hFound
    have hAgree := hWhole.agree_iff.2 ⟨(occurs_of_mem_leftmost hPlace).1, hStop⟩
    have hText := hWhole.runText_eq
    rw [← hAgree.length_eq] at hText
    refine ⟨?_, line, first, stop, hLine, hWhole, hRange, congrArg fingerprint hText⟩
    rw [TerminalTextMatch.scanned, decide_eq_true rfl, decide_eq_true rfl]
    rfl

section Screen

variable {cols : Nat} {rows : List ScreenTextRow} {activeScreen : Server.ActiveScreen}
  {query : List Char} {regex : Option (Char → Char → Bool)}

/-- On the screen that was searched every match is found again, but for those that end in the
last row that a row number reaches. -/
theorem textMatchesAreCurrent_found (hTails : ∀ row ∈ rows, tailsFollow row.cells = true)
  {asked : List TerminalTextMatch}
  (hAsked : ∀ textMatch ∈ asked,
    textMatch ∈ searchTextMatches fingerprint cols rows activeScreen query regex) :
  textMatchesAreCurrent fingerprint cols activeScreen rows asked =
    some (asked.map fun textMatch => decide (textMatch.end.row < maxRow)) := by
  rw [textMatchesAreCurrent]
  split
  case isTrue hEmpty =>
    rw [List.isEmpty_iff.1 hEmpty]
    rfl
  case isFalse hSome =>
    have hAll : asked.filter (TerminalTextMatch.scanned cols activeScreen) = asked :=
      List.filter_eq_self.2 fun textMatch hMem => (isRun_of_mem (hAsked textMatch hMem)).1
    have hNe : asked ≠ [] := fun hNone => hSome (List.isEmpty_iff.2 hNone)
    obtain ⟨startRow, endRow, hFold, hRange⟩ := foldl_rowRange hNe
    rw [hAll, hFold]
    refine Checked.mapM_eq_some_map fun textMatch hMem => ?_
    obtain ⟨hScanned, line, first, stop, hRun⟩ := isRun_of_mem (hAsked textMatch hMem)
    obtain ⟨hOrder, hIn⟩ := hRun.inRows hTails
    obtain ⟨hStart, hEnd⟩ := hRange textMatch hMem
    have hLength := length_screenTextRows rows
    rw [hScanned, if_pos rfl]
    by_cases hLast : textMatch.end.row < maxRow
    · rw [decide_eq_true hLast]
      exact containsMatch_window cols hTails hRun hStart (by omega)
    · rw [decide_eq_false hLast]
      exact containsMatch_beyond cols hTails (by omega) (by omega)

/-- What is current on any screen has its text in its range there. -/
theorem rangeText_of_current (hInjective : Function.Injective fingerprint)
  (hTails : ∀ row ∈ rows, tailsFollow row.cells = true) {laterCols : Nat}
  {laterScreen : Server.ActiveScreen} {laterRows : List ScreenTextRow}
  (hLaterTails : ∀ row ∈ laterRows, tailsFollow row.cells = true)
  {asked : List TerminalTextMatch} {current : List Bool}
  (hCurrent : textMatchesAreCurrent fingerprint laterCols laterScreen laterRows asked =
    some current) {index : Nat} (hAsked : asked[index]? = some textMatch)
  (hMem : textMatch ∈ searchTextMatches fingerprint cols rows activeScreen query regex)
  (hTrue : current[index]? = some true) :
  rangeText laterRows textMatch.start textMatch.end =
    rangeText rows textMatch.start textMatch.end := by
  obtain ⟨-, line, first, stop, hRun⟩ := isRun_of_mem hMem
  obtain ⟨hOrder, hIn⟩ := hRun.inRows hTails
  have hLength := length_screenTextRows rows
  have hAskedMem := List.mem_of_getElem? hAsked
  have hHere : rangeText rows textMatch.start textMatch.end = line.runText first stop := by
    have hAll : screenTextRows rows = [] ++ (screenTextRows rows ++ []) :=
      (List.append_nil _).symm
    exact rangeText_eq hTails hAll hRun.mem hRun.whole.lt hRun.whole.le hRun.range
  have hNotEmpty : line.runText first stop ≠ [] := by
    have hAdd := hRun.whole.offset_add
    have hLess := offset_lt (textLines_filled hRun.mem) hRun.whole.lt hRun.whole.le
    exact List.ne_nil_of_length_pos (by omega)
  rw [textMatchesAreCurrent] at hCurrent
  split at hCurrent
  case isTrue hEmpty =>
    rw [List.isEmpty_iff.1 hEmpty] at hAsked
    cases hAsked
  case isFalse =>
    by_cases hScanned : textMatch.scanned laterCols laterScreen = true
    · have hKept : textMatch ∈ asked.filter
          (TerminalTextMatch.scanned laterCols laterScreen) :=
        List.mem_filter.2 ⟨hAskedMem, hScanned⟩
      obtain ⟨startRow, endRow, hFold, hRange⟩ :=
        foldl_rowRange (List.ne_nil_of_mem hKept)
      obtain ⟨hStart, -⟩ := hRange textMatch hKept
      rw [hFold] at hCurrent
      have hContains := Checked.getElem?_of_mapM hCurrent hAsked hTrue
      rw [hScanned, if_pos rfl] at hContains
      rw [hHere]
      obtain hNone | hSame :=
        rangeText_of_containsMatch laterCols hLaterTails (by omega) hContains
      · exact absurd (hInjective (hNone.trans hRun.text)).symm hNotEmpty
      · exact hInjective (hSame.trans hRun.text)
    · split at hCurrent
      case h_1 =>
        cases hCurrent
        rw [List.getElem?_map, hAsked] at hTrue
        cases hTrue
      case h_2 =>
        have hContains := Checked.getElem?_of_mapM hCurrent hAsked hTrue
        rw [if_neg hScanned] at hContains
        cases hContains

/-- Matches are current as long as the screen is as it was, but for those that end in the last row
that a row number reaches; and what is current on a later screen has the text that was matched
in its range there. -/
theorem textMatches_current (hInjective : Function.Injective fingerprint)
  (hTails : ∀ row ∈ rows, tailsFollow row.cells = true) :
  (∀ asked ⊆ searchTextMatches fingerprint cols rows activeScreen query regex,
    textMatchesAreCurrent fingerprint cols activeScreen rows asked =
      some (asked.map fun textMatch => decide (textMatch.end.row < maxRow))) ∧
  (∀ textMatch ∈ searchTextMatches fingerprint cols rows activeScreen query regex,
    textMatchIsCurrent fingerprint cols activeScreen rows textMatch =
      some (decide (textMatch.end.row < maxRow))) ∧
  ∀ laterCols laterScreen laterRows, (∀ row ∈ laterRows, tailsFollow row.cells = true) →
    ∀ textMatch ∈ searchTextMatches fingerprint cols rows activeScreen query regex,
      (∀ (asked : List TerminalTextMatch) (current : List Bool) (index : Nat),
        textMatchesAreCurrent fingerprint laterCols laterScreen laterRows asked =
          some current → asked[index]? = some textMatch → current[index]? = some true →
        rangeText laterRows textMatch.start textMatch.end =
          rangeText rows textMatch.start textMatch.end) ∧
      (textMatchIsCurrent fingerprint laterCols laterScreen laterRows textMatch = some true →
        rangeText laterRows textMatch.start textMatch.end =
          rangeText rows textMatch.start textMatch.end) := by
  refine ⟨fun asked hAsked => ?_, fun textMatch hMem => ?_, ?_⟩
  · exact textMatchesAreCurrent_found hTails fun textMatch hMem => hAsked hMem
  · have hOne := @textMatchesAreCurrent_found fingerprint cols rows activeScreen query regex hTails
      [textMatch] (List.forall_mem_singleton.2 hMem)
    rw [textMatchIsCurrent, hOne]
    rfl
  · intro laterCols laterScreen laterRows hLaterTails textMatch hMem
    refine ⟨fun asked current index hCurrent hAsked hTrue => ?_, fun hTrue => ?_⟩
    · exact rangeText_of_current hInjective hTails hLaterTails hCurrent hAsked hMem hTrue
    obtain ⟨current, hCurrent, hHead⟩ := Option.map_eq_some_iff.1 hTrue
    have hFirst : current[0]? = some true := by
      cases current with
      | nil => cases hHead
      | cons result current => exact congrArg some hHead
    exact rangeText_of_current hInjective hTails hLaterTails hCurrent rfl hMem hFirst

end Screen

/-- A fingerprint without collisions. -/
def exactFingerprint (text : List Char) : Nat := Encodable.encode (text.map Char.toNat)

theorem exactFingerprint_injective : Function.Injective exactFingerprint := by
  intro first second hSame
  have hCodes := Encodable.encode_injective hSame
  exact List.map_injective_iff.2 (fun _ _ => Char.toNat_inj.1) hCodes

def letterRow : ScreenTextRow := ⟨[⟨.narrow, [0x61]⟩], false, false⟩

theorem textMatches_current_letter :
  textMatchIsCurrent exactFingerprint 1 .primary [letterRow]
    ⟨⟨0, 0⟩, ⟨0, 0⟩, exactFingerprint ['a'], 1, .primary⟩ = some true := by
  have hMem : (⟨⟨0, 0⟩, ⟨0, 0⟩, exactFingerprint ['a'], 1, .primary⟩ : TerminalTextMatch) ∈
      searchTextMatches exactFingerprint 1 [letterRow] .primary ['a']
        (some fun a b => a == b) := by decide +kernel
  exact (textMatches_current exactFingerprint_injective (by decide)).2.1 _ hMem

/-- As many rows as a row number counts, with a letter in the last one. -/
def tallScreen : List ScreenTextRow := List.replicate maxRow ⟨[], false, false⟩ ++ [letterRow]

theorem not_textMatches_current :
  ¬ ∀ (fingerprint : List Char → Nat) (cols : Nat) (rows : List ScreenTextRow)
    (activeScreen : Server.ActiveScreen) (query : List Char)
    (regex : Option (Char → Char → Bool)), Function.Injective fingerprint →
    (∀ row ∈ rows, tailsFollow row.cells = true) →
    ∀ textMatch ∈ searchTextMatches fingerprint cols rows activeScreen query regex,
      textMatchIsCurrent fingerprint cols activeScreen rows textMatch = some true := by
  intro hAll
  have hTails : ∀ row ∈ tallScreen, tailsFollow row.cells = true := by
    intro row hRow
    obtain hBlank | hLetter := List.mem_append.1 hRow
    · rw [(List.mem_replicate.1 hBlank).2]
      rfl
    · rw [List.mem_singleton.1 hLetter]
      rfl
  have hRows : screenTextRows tallScreen = tallScreen := by
    have hLength : tallScreen.length = maxRow + 1 := by
      rw [tallScreen, List.length_append, List.length_replicate]
      rfl
    rw [screenTextRows, screenTextRowsRange, List.drop_zero, hLength, Nat.min_self, ← hLength,
      List.take_length]
  have hNone : ∀ count rowIdx,
      screenCells rowIdx (List.replicate count ⟨[], false, false⟩) = [] := by
    intro count
    induction count with
    | zero => exact fun rowIdx => rfl
    | succ count ih =>
      intro rowIdx
      rw [List.replicate_succ, screenCells, ih]
      rfl
  have hLine : (⟨[⟨['a'], ⟨maxRow, 0⟩, ⟨maxRow, 0⟩⟩], true⟩ : TextLine) ∈
      textLines 0 [] (screenTextRows tallScreen) := by
    obtain ⟨early, held, hLines, hCells⟩ :=
      textLines_append 0 [] (List.replicate maxRow ⟨[], false, false⟩)
    rw [hNone, List.append_nil] at hCells
    obtain rfl := (List.append_eq_nil_iff.1 hCells).2
    rw [hRows, tallScreen, hLines, List.length_replicate, Nat.zero_add]
    exact List.mem_append_right _ List.mem_cons_self
  have hMem : (⟨⟨maxRow, 0⟩, ⟨maxRow, 0⟩, exactFingerprint ['a'], 1, .primary⟩ :
      TerminalTextMatch) ∈ searchTextMatches exactFingerprint 1 tallScreen .primary ['a']
        (some fun a b => a == b) := by
    rw [searchTextMatches_eq exactFingerprint 1 tallScreen .primary (List.cons_ne_nil _ _)]
    refine List.mem_flatMap.2 ⟨_, hLine, ?_⟩
    refine (mem_finds (textLines_filled hLine) (List.cons_ne_nil _ _)).2
      ⟨0, by decide +kernel, 0, 1, ⟨maxRow, 0⟩, ⟨maxRow, 0⟩, ⟨by decide, by decide, ?_⟩, rfl, rfl,
        ⟨rfl, rfl⟩, rfl⟩
    decide +kernel
  have hCurrent := hAll exactFingerprint 1 tallScreen .primary ['a'] (some fun a b => a == b)
    exactFingerprint_injective hTails _ hMem
  have hFound := @textMatchesAreCurrent_found _ _ _ _ _ _ hTails [_]
    (List.forall_mem_singleton.2 hMem)
  rw [textMatchIsCurrent, hFound] at hCurrent
  simp at hCurrent

end Terminal
