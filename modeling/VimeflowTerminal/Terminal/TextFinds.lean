import VimeflowTerminal.Terminal.TextSearch

/-! The finds are whole cells in reading order. An occurrence on cell boundaries can get lost
behind one that is not, since the search goes on at the end of both alike. -/

namespace Terminal

open LiteralSearch TextSlice

/-- `search_text_matches` on the rows of a terminal. -/
def searchTextMatches (fingerprint : List Char → Nat) (cols : Nat) (rows : List ScreenTextRow)
  (activeScreen : Server.ActiveScreen) (query : List Char)
  (regex : Option (Char → Char → Bool)) : List TerminalTextMatch :=
  (RetainedTextBuffer.newSearch cols (screenTextRows rows) 0).search fingerprint query regex
    activeScreen

/-- The matches are in order and apart, each is a run of whole cells that agree with the query,
and every such run is met by one of them. -/
structure Finds (same : Char → Char → Bool) (query : List Char) (lines : List TextLine)
  (found : List TerminalTextMatch) : Prop where
  ordered : found.Pairwise fun first second => first.end.Before second.start
  whole : ∀ textMatch ∈ found, ∃ line ∈ lines, ∃ first stop, line.Whole first stop ∧
    line.HasRange first stop textMatch.start textMatch.end ∧
    Agree same query (line.runText first stop)
  complete : ∀ line ∈ lines, ∀ first stop start final, line.Whole first stop →
    line.HasRange first stop start final → Agree same query (line.runText first stop) →
    ∃ textMatch ∈ found, ¬ textMatch.end.Before start ∧ ¬ final.Before textMatch.start

namespace TextLine

/-- A text of a length is on cell boundaries. -/
def OnCells (line : TextLine) (length place : Nat) : Prop :=
  ∃ first stop, line.Whole first stop ∧ line.offset first = place ∧
    line.offset stop = place + length

/-- No occurrence on cell boundaries is reached from the left by a find of the engine that is not on
them, unless a find that is begins inside it. -/
def Unshadowed (same : Char → Char → Bool) (query : List Char) (line : TextLine) : Prop :=
  ∀ place, Occurs same query line.text place → line.OnCells query.length place →
    ∀ left ∈ leftmost same query line.text 0, ¬ line.OnCells query.length left → left < place →
      place < left + query.length →
      ∃ right ∈ leftmost same query line.text 0, line.OnCells query.length right ∧
        place < right ∧ right < place + query.length

variable {line : TextLine} {first stop : Nat}

theorem Whole.offset_add (hWhole : line.Whole first stop) :
  line.offset first + (line.runText first stop).length = line.offset stop := by
  have hJoined := joined_take_append line.cells (Nat.le_of_lt hWhole.lt)
  rw [offset, offset, runText, ← hJoined, List.length_append]

theorem Whole.exists_range (hWhole : line.Whole first stop) :
  ∃ start final, line.HasRange first stop start final := by
  have hLe := hWhole.le
  have hLt := hWhole.lt
  have hFirst : first < line.cells.length := by omega
  have hLast : stop - 1 < line.cells.length := by omega
  refine ⟨line.cells[first].start, line.cells[stop - 1].end, ?_, ?_⟩
  · rw [List.getElem?_eq_getElem hFirst]
    rfl
  · rw [List.getElem?_eq_getElem hLast]
    rfl

theorem Whole.runText_eq (hWhole : line.Whole first stop) :
  (line.text.drop (line.offset first)).take (line.runText first stop).length =
    line.runText first stop := by
  obtain ⟨rest, hText⟩ := hWhole.text
  rw [← hText, ← joined_take_append line.cells (Nat.le_of_lt hWhole.lt), List.append_assoc, offset,
    List.drop_left]
  exact List.take_left

/-- An occurrence on cell boundaries is a run of whole cells that agrees. -/
theorem Whole.agree_iff (hWhole : line.Whole first stop)
  {same : Char → Char → Bool} {query : List Char} :
  Agree same query (line.runText first stop) ↔
    Occurs same query line.text (line.offset first) ∧
      line.offset stop = line.offset first + query.length := by
  have hAdd := hWhole.offset_add
  rw [occurs_iff]
  constructor
  · intro hAgree
    have hLength := hAgree.length_eq
    rw [hLength, hWhole.runText_eq]
    exact ⟨hAgree, hAdd.symm⟩
  · rintro ⟨hAgree, hStop⟩
    have hLength : (line.runText first stop).length = query.length := by omega
    have hText := hWhole.runText_eq
    rw [hLength] at hText
    rw [← hText]
    exact hAgree

/-- A line as it comes from a screen. -/
structure OnScreen (line : TextLine) : Prop where
  filled : line.Filled
  ordered : Ordered line.cells
  width : ∀ cell ∈ line.cells, ¬ cell.end.Before cell.start

variable {first' stop' : Nat} {start final start' final' : TerminalTextPoint}

theorem before_of_le (hLine : line.OnScreen) (hWhole : line.Whole first stop)
  (hLe : stop ≤ first') (hRange : line.HasRange first stop start final)
  (hRange' : line.HasRange first' stop' start' final') : final.Before start' := by
  obtain ⟨last, hLast, rfl⟩ := Option.map_eq_some_iff.1 hRange.end
  obtain ⟨cell, hCell, rfl⟩ := Option.map_eq_some_iff.1 hRange'.start
  obtain ⟨hLastIn, rfl⟩ := List.getElem?_eq_some_iff.1 hLast
  obtain ⟨hCellIn, rfl⟩ := List.getElem?_eq_some_iff.1 hCell
  have hLt := hWhole.lt
  exact List.pairwise_iff_getElem.1 hLine.ordered _ _ hLastIn hCellIn (by omega)

/-- A run of cells does not end before another that begins inside it. -/
theorem not_before_of_lt (hLine : line.OnScreen) (hLt : first < stop')
  (hRange : line.HasRange first stop start final)
  (hRange' : line.HasRange first' stop' start' final') : ¬ final'.Before start := by
  obtain ⟨last, hLast, rfl⟩ := Option.map_eq_some_iff.1 hRange'.end
  obtain ⟨cell, hCell, rfl⟩ := Option.map_eq_some_iff.1 hRange.start
  obtain ⟨hLastIn, rfl⟩ := List.getElem?_eq_some_iff.1 hLast
  obtain ⟨hCellIn, rfl⟩ := List.getElem?_eq_some_iff.1 hCell
  have hLastWidth := hLine.width _ (List.getElem_mem hLastIn)
  have hCellWidth := hLine.width _ (List.getElem_mem hCellIn)
  obtain rfl | hBehind : first = stop' - 1 ∨ first < stop' - 1 := by omega
  · exact hLastWidth
  · have hBefore := List.pairwise_iff_getElem.1 hLine.ordered _ _ hCellIn hLastIn hBehind
    unfold TerminalTextPoint.Before at *
    omega

/-- Runs meet on the screen when they meet in the text. -/
theorem meet_iff (hLine : line.OnScreen) (hWhole : line.Whole first stop)
  (hWhole' : line.Whole first' stop') (hRange : line.HasRange first stop start final)
  (hRange' : line.HasRange first' stop' start' final') :
  (¬ final'.Before start ∧ ¬ final.Before start') ↔
    line.offset first < line.offset stop' ∧ line.offset first' < line.offset stop := by
  have hFirst := Nat.le_trans (Nat.le_of_lt hWhole.lt) hWhole.le
  have hFirst' := Nat.le_trans (Nat.le_of_lt hWhole'.lt) hWhole'.le
  rw [offset_lt_iff hLine.filled hFirst hWhole'.le, offset_lt_iff hLine.filled hFirst' hWhole.le]
  constructor
  · rintro ⟨hNot, hNot'⟩
    constructor
    · by_contra hLe
      exact hNot (before_of_le hLine hWhole' (by omega) hRange' hRange)
    · by_contra hLe
      exact hNot' (before_of_le hLine hWhole (by omega) hRange hRange')
  · rintro ⟨hLt, hLt'⟩
    exact ⟨not_before_of_lt hLine hLt hRange hRange', not_before_of_lt hLine hLt' hRange' hRange⟩

/-- A find becomes a match if it is a run of whole cells. -/
theorem foundMatch_eq_some_iff (hFilled : line.Filled) {fingerprint : List Char → Nat} {cols : Nat}
  {activeScreen : Server.ActiveScreen} {place length : Nat} {asStr : List Char}
  (hLength : 0 < length) (hPlace : place + length ≤ line.text.length)
  {textMatch : TerminalTextMatch} :
  line.logical.foundMatch fingerprint cols activeScreen
      ⟨byteLength (line.text.take place), byteLength (line.text.take (place + length)), asStr⟩ =
    some textMatch ↔
  ∃ first stop start final, line.Whole first stop ∧ line.offset first = place ∧
    line.offset stop = place + length ∧ line.HasRange first stop start final ∧
    textMatch = ⟨start, final, fingerprint asStr, cols, activeScreen⟩ := by
  have hStart := @search_byteStart line hFilled place (by omega)
  have hEnd := @search_byteEnd line hFilled (place + length) hPlace
  unfold LogicalTextLine.foundMatch
  constructor
  · intro hFound
    obtain ⟨startSpan, hStartSpan, hRest⟩ := Option.bind_eq_some_iff.1 hFound
    obtain ⟨endSpan, hEndSpan, hMatch⟩ := Option.bind_eq_some_iff.1 hRest
    obtain ⟨first, cell, hCell, hFirst, rfl⟩ := hStart.1 hStartSpan
    obtain ⟨last, lastCell, hLastCell, hStop, rfl⟩ := hEnd.1 hEndSpan
    have hLastIn := (List.getElem?_eq_some_iff.1 hLastCell).1
    have hFirstIn := (List.getElem?_eq_some_iff.1 hCell).1
    have hLt : first < last + 1 :=
      lt_of_offset_lt hFilled (Nat.le_of_lt hFirstIn) (by omega)
    refine ⟨first, last + 1, cell.start, lastCell.end, ⟨hLt, hLastIn, ?_⟩, hFirst, hStop,
      ⟨by rw [hCell]; rfl, by rw [Nat.add_sub_cancel, hLastCell]; rfl⟩, ?_⟩
    · exact List.prefix_of_prefix_length_le (joined_take_isPrefix line.cells (last + 1)) text_isPrefix
        (Nat.le_trans (Nat.le_of_eq hStop) hPlace)
    · exact (Option.some.inj hMatch).symm
  · rintro ⟨first, stop, start, final, hWhole, hFirst, hStop, hRange, rfl⟩
    obtain ⟨cell, hCell, rfl⟩ := Option.map_eq_some_iff.1 hRange.start
    obtain ⟨last, hLast, rfl⟩ := Option.map_eq_some_iff.1 hRange.end
    have hLt := hWhole.lt
    have hSucc : stop - 1 + 1 = stop := by omega
    have hStartSpan := hStart.2 ⟨first, cell, hCell, hFirst, rfl⟩
    have hEndSpan := hEnd.2 ⟨stop - 1, last, hLast, by rw [hSucc]; exact hStop, rfl⟩
    rw [hStartSpan, hEndSpan]
    rfl

/-- The matches in a line. -/
def finds (fingerprint : List Char → Nat) (cols : Nat) (activeScreen : Server.ActiveScreen)
  (same : Char → Char → Bool) (query : List Char) (line : TextLine) : List TerminalTextMatch :=
  (findIter same query line.text).filterMap
    (line.logical.foundMatch fingerprint cols activeScreen)

variable {fingerprint : List Char → Nat} {cols : Nat} {activeScreen : Server.ActiveScreen}
  {same : Char → Char → Bool} {query : List Char}

/-- A match is a find on cell boundaries. -/
theorem mem_finds (hFilled : line.Filled) (hQuery : query ≠ []) {textMatch : TerminalTextMatch} :
  textMatch ∈ line.finds fingerprint cols activeScreen same query ↔
    ∃ place ∈ leftmost same query line.text 0, ∃ first stop start final,
      line.Whole first stop ∧ line.offset first = place ∧
      line.offset stop = place + query.length ∧ line.HasRange first stop start final ∧
      textMatch = ⟨start, final, fingerprint ((line.text.drop place).take query.length), cols,
        activeScreen⟩ := by
  have hLength := List.length_pos_of_ne_nil hQuery
  rw [finds, findIter, List.filterMap_map, List.mem_filterMap]
  constructor
  · rintro ⟨place, hPlace, hFound⟩
    have hIn := (occurs_of_mem_leftmost hPlace).1.index_add_length_le hQuery
    exact ⟨place, hPlace, (foundMatch_eq_some_iff hFilled hLength hIn).1 hFound⟩
  · rintro ⟨place, hPlace, hMatch⟩
    have hIn := (occurs_of_mem_leftmost hPlace).1.index_add_length_le hQuery
    exact ⟨place, hPlace, (foundMatch_eq_some_iff hFilled hLength hIn).2 hMatch⟩

theorem finds_ordered (hLine : line.OnScreen) (hQuery : query ≠ []) :
  (line.finds fingerprint cols activeScreen same query).Pairwise fun first second =>
    first.end.Before second.start := by
  have hLength := List.length_pos_of_ne_nil hQuery
  rw [finds, findIter, List.filterMap_map, List.pairwise_filterMap]
  refine (leftmost_pairwise hQuery).imp_of_mem ?_
  intro place place' hPlace hPlace' hLe textMatch hMatch textMatch' hMatch'
  have hIn := (occurs_of_mem_leftmost hPlace).1.index_add_length_le hQuery
  have hIn' := (occurs_of_mem_leftmost hPlace').1.index_add_length_le hQuery
  obtain ⟨first, stop, start, final, hWhole, hFirst, hStop, hRange, rfl⟩ :=
    (foundMatch_eq_some_iff hLine.filled hLength hIn).1 hMatch
  obtain ⟨first', stop', start', final', hWhole', hFirst', hStop', hRange', rfl⟩ :=
    (foundMatch_eq_some_iff hLine.filled hLength hIn').1 hMatch'
  have hBehind : stop ≤ first' := by
    by_contra hLess
    have hFirstIn : stop ≤ line.cells.length := hWhole.le
    have := offset_lt hLine.filled (Nat.lt_of_not_le hLess) hFirstIn
    omega
  exact before_of_le hLine hWhole hBehind hRange hRange'

/-- Each run of whole cells that agrees is met by a match just when none is shadowed. -/
theorem finds_complete_iff (hLine : line.OnScreen) (hQuery : query ≠ []) :
  (∀ first stop start final, line.Whole first stop → line.HasRange first stop start final →
    Agree same query (line.runText first stop) →
    ∃ textMatch ∈ line.finds fingerprint cols activeScreen same query,
      ¬ textMatch.end.Before start ∧ ¬ final.Before textMatch.start) ↔
  line.Unshadowed same query := by
  have hMet : ∀ {first stop start final}, line.Whole first stop →
      line.HasRange first stop start final → line.offset stop = line.offset first + query.length →
      ((∃ textMatch ∈ line.finds fingerprint cols activeScreen same query,
        ¬ textMatch.end.Before start ∧ ¬ final.Before textMatch.start) ↔
      ∃ found ∈ leftmost same query line.text 0, line.OnCells query.length found ∧
        line.offset first < found + query.length ∧
        found < line.offset first + query.length) := by
    intro first stop start final hWhole hRange hStop
    constructor
    · rintro ⟨textMatch, hMem, hMeet⟩
      obtain ⟨found, hFound, first', stop', start', final', hWhole', hFirst', hStop', hRange',
        rfl⟩ := (mem_finds hLine.filled hQuery).1 hMem
      obtain ⟨hLeft, hRight⟩ := (meet_iff hLine hWhole hWhole' hRange hRange').1 hMeet
      exact ⟨found, hFound, ⟨first', stop', hWhole', hFirst', hStop'⟩, by omega, by omega⟩
    · rintro ⟨found, hFound, ⟨first', stop', hWhole', hFirst', hStop'⟩, hLeft, hRight⟩
      obtain ⟨start', final', hRange'⟩ := hWhole'.exists_range
      refine ⟨_, (mem_finds hLine.filled hQuery).2
        ⟨found, hFound, first', stop', start', final', hWhole', hFirst', hStop', hRange', rfl⟩, ?_⟩
      exact (meet_iff hLine hWhole hWhole' hRange hRange').2 ⟨by omega, by omega⟩
  constructor
  · intro hAll place hOccurs hOnCells
    obtain ⟨first, stop, hWhole, rfl, hStop⟩ := hOnCells
    obtain ⟨start, final, hRange⟩ := hWhole.exists_range
    have hAgree := hWhole.agree_iff.2 ⟨hOccurs, hStop⟩
    have hSome := (hMet hWhole hRange hStop).1 (hAll first stop start final hWhole hRange hAgree)
    exact (overlapped_iff hQuery hOccurs ⟨first, stop, hWhole, rfl, hStop⟩).1 hSome
  · intro hClear first stop start final hWhole hRange hAgree
    obtain ⟨hOccurs, hStop⟩ := hWhole.agree_iff.1 hAgree
    have hOnCells : line.OnCells query.length (line.offset first) :=
      ⟨first, stop, hWhole, rfl, hStop⟩
    refine (hMet hWhole hRange hStop).2 ?_
    exact (overlapped_iff hQuery hOccurs hOnCells).2 (hClear _ hOccurs hOnCells)

end TextLine

/-- Lines of a screen come one after the other. -/
theorem textLines_onScreen {rowIdx : Nat} {rows : List ScreenTextRow}
  (hTails : ∀ row ∈ rows, tailsFollow row.cells = true) :
  (∀ line ∈ textLines rowIdx [] rows, line.OnScreen) ∧
    (textLines rowIdx [] rows).Pairwise fun line later =>
      ∀ cell ∈ line.cells, ∀ next ∈ later.cells, cell.end.Before next.start := by
  have hCells := textLines_cells rowIdx [] rows
  rw [List.nil_append] at hCells
  have hOrdered : Ordered (screenCells rowIdx rows) := ordered_screenCells hTails
  rw [← hCells, Ordered, List.pairwise_flatMap] at hOrdered
  obtain ⟨hEach, hLines⟩ := hOrdered
  refine ⟨fun line hLine => ?_, hLines⟩
  have hIn : ∀ cell ∈ line.cells, cell.InRow cell.start.row 0 := by
    intro cell hCell
    have hMem : cell ∈ screenCells rowIdx rows := by
      rw [← hCells]
      exact List.mem_flatMap.2 ⟨line, hLine, hCell⟩
    exact (mem_screenCells hMem).1
  refine ⟨fun cell hCell => (hIn cell hCell).text, hEach line hLine, fun cell hCell hBefore => ?_⟩
  have hRow := (hIn cell hCell).endRow
  have hWidth := (hIn cell hCell).width
  unfold TerminalTextPoint.Before at hBefore
  omega

theorem textLines_apart {rowIdx : Nat} {rows : List ScreenTextRow}
  (hTails : ∀ row ∈ rows, tailsFollow row.cells = true) :
  ∀ ⦃line⦄, line ∈ textLines rowIdx [] rows → ∀ ⦃other⦄, other ∈ textLines rowIdx [] rows →
    line = other ∨ (∀ cell ∈ line.cells, ∀ next ∈ other.cells, cell.end.Before next.start) ∨
      ∀ cell ∈ other.cells, ∀ next ∈ line.cells, cell.end.Before next.start := by
  have hApart := (@textLines_onScreen rowIdx rows hTails).2
  apply List.Pairwise.forall_of_forall_of_flip
  · exact fun line _ => Or.inl rfl
  · exact hApart.imp fun hBefore => Or.inr (Or.inl hBefore)
  · exact hApart.imp fun hBefore => Or.inr (Or.inr hBefore)

theorem TextLine.HasRange.start_mem {line : TextLine} {first stop : Nat}
  {start final : TerminalTextPoint} (hRange : line.HasRange first stop start final) :
  ∃ cell ∈ line.cells, cell.start = start := by
  obtain ⟨cell, hCell, hStart⟩ := Option.map_eq_some_iff.1 hRange.start
  exact ⟨cell, List.mem_of_getElem? hCell, hStart⟩

theorem TextLine.HasRange.end_mem {line : TextLine} {first stop : Nat}
  {start final : TerminalTextPoint} (hRange : line.HasRange first stop start final) :
  ∃ cell ∈ line.cells, cell.end = final := by
  obtain ⟨cell, hCell, hEnd⟩ := Option.map_eq_some_iff.1 hRange.end
  exact ⟨cell, List.mem_of_getElem? hCell, hEnd⟩

theorem mem_screenTextRows {rows : List ScreenTextRow} {row : ScreenTextRow}
  (hMem : row ∈ screenTextRows rows) : row ∈ rows := by
  rw [screenTextRows, screenTextRowsRange, List.drop_zero] at hMem
  exact List.mem_of_mem_take hMem

theorem searchTextMatches_eq (fingerprint : List Char → Nat) (cols : Nat)
  (rows : List ScreenTextRow) (activeScreen : Server.ActiveScreen) {query : List Char}
  (hQuery : query ≠ []) (same : Char → Char → Bool) :
  searchTextMatches fingerprint cols rows activeScreen query (some same) =
    (textLines 0 [] (screenTextRows rows)).flatMap
      (TextLine.finds fingerprint cols activeScreen same query) := by
  have hNotEmpty : query.isEmpty = false := List.isEmpty_eq_false_iff.2 hQuery
  have hRows : 0 + (screenTextRows rows).length ≤ maxRow + 1 := by
    rw [Nat.zero_add]
    exact length_screenTextRows rows
  rw [searchTextMatches, RetainedTextBuffer.search, hNotEmpty, if_neg Bool.false_ne_true,
    newSearch_lines cols hRows, List.flatMap_map]
  refine List.flatMap_congr fun line _ => ?_
  rw [TextLine.logical_text]
  rfl

/-- The search finds what it should just when no line shadows an occurrence on cell boundaries. -/
theorem searchTextMatches_finds_iff (fingerprint : List Char → Nat) (cols : Nat)
  {rows : List ScreenTextRow} (hTails : ∀ row ∈ rows, tailsFollow row.cells = true)
  (activeScreen : Server.ActiveScreen) {query : List Char} (hQuery : query ≠ [])
  (same : Char → Char → Bool) :
  Finds same query (textLines 0 [] (screenTextRows rows))
      (searchTextMatches fingerprint cols rows activeScreen query (some same)) ↔
    ∀ line ∈ textLines 0 [] (screenTextRows rows), line.Unshadowed same query := by
  have hKept : ∀ row ∈ screenTextRows rows, tailsFollow row.cells = true := fun row hRow =>
    hTails row (mem_screenTextRows hRow)
  obtain ⟨hLines, hApart⟩ := @textLines_onScreen 0 _ hKept
  have hComplete := fun line (hLine : line ∈ textLines 0 [] (screenTextRows rows)) =>
    @TextLine.finds_complete_iff line fingerprint cols activeScreen same query (hLines line hLine)
      hQuery
  rw [searchTextMatches_eq fingerprint cols rows activeScreen hQuery same]
  constructor
  · intro hFinds line hLine
    rw [← hComplete line hLine]
    intro first stop start final hWhole hRange hAgree
    obtain ⟨textMatch, hMem, hNot, hNot'⟩ :=
      hFinds.complete line hLine first stop start final hWhole hRange hAgree
    obtain ⟨other, hOther, hFound⟩ := List.mem_flatMap.1 hMem
    obtain ⟨_, _, _, _, _, _, _, _, _, hRange', rfl⟩ :=
      (TextLine.mem_finds (hLines other hOther).filled hQuery).1 hFound
    -- A match of another line lies before or behind all of this one.
    obtain rfl | hBefore | hBehind := textLines_apart hKept hLine hOther
    · exact ⟨_, hFound, hNot, hNot'⟩
    · obtain ⟨last, hLast, rfl⟩ := hRange.end_mem
      obtain ⟨cell, hCell, hStart⟩ := hRange'.start_mem
      exact absurd (hStart ▸ hBefore last hLast cell hCell) hNot'
    · obtain ⟨cell, hCell, rfl⟩ := hRange.start_mem
      obtain ⟨last, hLast, hEnd⟩ := hRange'.end_mem
      exact absurd (hEnd ▸ hBehind last hLast cell hCell) hNot
  · intro hClear
    refine ⟨?_, ?_, ?_⟩
    · rw [List.pairwise_flatMap]
      refine ⟨fun line hLine => TextLine.finds_ordered (hLines line hLine) hQuery, ?_⟩
      refine hApart.imp_of_mem fun {line other} hLine hOther hBefore textMatch hFound
        textMatch' hFound' => ?_
      obtain ⟨_, _, _, _, _, _, _, _, _, hRange, rfl⟩ :=
        (TextLine.mem_finds (hLines line hLine).filled hQuery).1 hFound
      obtain ⟨_, _, _, _, _, _, _, _, _, hRange', rfl⟩ :=
        (TextLine.mem_finds (hLines other hOther).filled hQuery).1 hFound'
      obtain ⟨last, hLast, rfl⟩ := hRange.end_mem
      obtain ⟨cell, hCell, rfl⟩ := hRange'.start_mem
      exact hBefore last hLast cell hCell
    · intro textMatch hMem
      obtain ⟨line, hLine, hFound⟩ := List.mem_flatMap.1 hMem
      obtain ⟨place, hPlace, first, stop, start, final, hWhole, rfl, hStop, hRange, rfl⟩ :=
        (TextLine.mem_finds (hLines line hLine).filled hQuery).1 hFound
      have hOccurs := (occurs_of_mem_leftmost hPlace).1
      exact ⟨line, hLine, first, stop, hWhole, hRange, hWhole.agree_iff.2 ⟨hOccurs, hStop⟩⟩
    · intro line hLine first stop start final hWhole hRange hAgree
      obtain ⟨textMatch, hFound, hMeet⟩ :=
        (hComplete line hLine).2 (hClear line hLine) first stop start final hWhole hRange hAgree
      exact ⟨textMatch, List.mem_flatMap.2 ⟨line, hLine, hFound⟩, hMeet⟩

/-- Two flags in one row. The second half of the first together with the first half of the second
is what the second is. -/
def flagRow : ScreenTextRow where
  cells :=
    [⟨.wide, [0x1f1fa, 0x1f1f8]⟩, ⟨.spacerTail, []⟩, ⟨.wide, [0x1f1f8, 0x1f1f8]⟩, ⟨.spacerTail, []⟩]
  softWrapped := false
  wrapContinuation := false

theorem searchTextMatches_flags :
  Finds (fun a b => a == b) "🇺🇸".toList (textLines 0 [] (screenTextRows [flagRow]))
    (searchTextMatches List.length 4 [flagRow] .primary "🇺🇸".toList
      (some fun a b => a == b)) ↔
  ∀ line ∈ textLines 0 [] (screenTextRows [flagRow]),
    line.Unshadowed (fun a b => a == b) "🇺🇸".toList :=
  searchTextMatches_finds_iff List.length 4 (by decide) .primary (by decide) fun a b => a == b

theorem not_searchTextMatches_finds :
  ¬ ∀ (fingerprint : List Char → Nat) (cols : Nat) (rows : List ScreenTextRow)
    (activeScreen : Server.ActiveScreen) (query : List Char) (same : Char → Char → Bool),
    (∀ row ∈ rows, tailsFollow row.cells = true) → query ≠ [] →
    Finds same query (textLines 0 [] (screenTextRows rows))
      (searchTextMatches fingerprint cols rows activeScreen query (some same)) := by
  intro hAll
  have hFinds := hAll List.length 4 [flagRow] .primary "🇸🇸".toList (fun a b => a == b)
    (by decide) (by decide)
  have hNone : searchTextMatches List.length 4 [flagRow] .primary "🇸🇸".toList
      (some fun a b => a == b) = [] := by decide +kernel
  have hLine : textLines 0 [] (screenTextRows [flagRow]) =
      [⟨[⟨"🇺🇸".toList, ⟨0, 0⟩, ⟨0, 1⟩⟩, ⟨"🇸🇸".toList, ⟨0, 2⟩, ⟨0, 3⟩⟩], true⟩] := by
    decide +kernel
  rw [hNone, hLine] at hFinds
  obtain ⟨textMatch, hMem, -⟩ := hFinds.complete _ List.mem_cons_self 1 2 ⟨0, 2⟩ ⟨0, 3⟩
    ⟨by decide, by decide, by decide +kernel⟩ ⟨by decide +kernel, by decide +kernel⟩
    (by unfold Agree; decide +kernel)
  cases hMem

end Terminal
