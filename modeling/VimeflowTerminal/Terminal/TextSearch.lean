import Mathlib.Data.List.DropRight
import VimeflowTerminal.Data.LiteralSearch
import VimeflowTerminal.Server.AltScreenRead
import VimeflowTerminal.Terminal.RetainedText

/-! A search runs over the joined text of the rows of a logical line and tells its finds as ranges
of cells. -/

namespace Terminal

open LiteralSearch TextSlice LogicalTextLine

/-! ## The search -/

structure TerminalTextMatch where
  start : TerminalTextPoint
  «end» : TerminalTextPoint
  sourceFingerprint : Nat
  scanCols : Nat
  scanScreen : Server.ActiveScreen
  deriving DecidableEq

/-- What the regex engine finds: offsets into the text and the text between them. -/
structure RegexMatch where
  start : Nat
  «end» : Nat
  asStr : List Char
  deriving DecidableEq

/-- `find_iter` of a literal. Under case folding one character still stands for one. -/
def findIter (same : Char → Char → Bool) (query text : List Char) : List RegexMatch :=
  (leftmost same query text 0).map fun index =>
    { start := byteLength (text.take index)
      «end» := byteLength (text.take (index + query.length))
      asStr := (text.drop index).take query.length }

/-- `binary_search_by_key`, for items whose keys increase strictly. -/
def binarySearchByKey {α κ : Type} [DecidableEq κ] (key : α → κ) (wanted : κ) (items : List α) :
  Option α :=
  items.find? fun item => key item = wanted

/-- The cells of a find, if it begins where a cell begins and ends where one ends. -/
def LogicalTextLine.foundMatch (fingerprint : List Char → Nat) (cols : Nat)
  (activeScreen : Server.ActiveScreen) (line : LogicalTextLine) (found : RegexMatch) :
  Option TerminalTextMatch := do
  let startSpan ← binarySearchByKey TextSpan.byteStart found.start line.spans
  let endSpan ← binarySearchByKey TextSpan.byteEnd found.end line.spans
  some
    { start := startSpan.start
      «end» := endSpan.end
      sourceFingerprint := fingerprint found.asStr
      scanCols := cols
      scanScreen := activeScreen }

/-- `search` with the regex of the query: what it takes for the same character, or none if it is
not built. -/
def RetainedTextBuffer.search (fingerprint : List Char → Nat) (buffer : RetainedTextBuffer)
  (query : List Char) (regex : Option (Char → Char → Bool))
  (activeScreen : Server.ActiveScreen) : List TerminalTextMatch :=
  if query.isEmpty then []
  else
    match regex with
    | none => []
    | some same =>
      buffer.lines.flatMap fun line =>
        (findIter same query line.text).filterMap
          (line.foundMatch fingerprint buffer.cols activeScreen)

/-! ## Lines of cells -/

/-- A cell with text: every cell but a spacer. -/
structure TextCell where
  text : List Char
  start : TerminalTextPoint
  «end» : TerminalTextPoint
  deriving DecidableEq

def textCell (rowIdx : Nat) (entry : ScreenTextCell × Nat) : Option TextCell :=
  match entry.1.wide with
  | .spacerTail | .spacerHead => none
  | .narrow =>
    some ⟨terminalCellText entry.1.graphemes, ⟨rowIdx, entry.2⟩, ⟨rowIdx, min maxCol entry.2⟩⟩
  | .wide =>
    some ⟨terminalCellText entry.1.graphemes, ⟨rowIdx, entry.2⟩,
      ⟨rowIdx, min maxCol (entry.2 + 1)⟩⟩

def rowCells (rowIdx : Nat) (row : ScreenTextRow) : List TextCell :=
  (countedCells row).filterMap (textCell rowIdx)

def joined (cells : List TextCell) : List Char := cells.flatMap TextCell.text

/-- The cells of soft-wrapped rows and of the row that ends them, if one does. -/
structure TextLine where
  cells : List TextCell
  ended : Bool
  deriving DecidableEq

/-- A line that has ended loses its blank end. -/
def TextLine.text (line : TextLine) : List Char :=
  if line.ended then trimEnd (joined line.cells) else joined line.cells

/-- The lines of rows behind the cells of a line that is open. -/
def textLines (rowIdx : Nat) (start : List TextCell) : List ScreenTextRow → List TextLine
  | [] => if start.isEmpty then [] else [⟨start, false⟩]
  | row :: rows =>
    if row.softWrapped then textLines (rowIdx + 1) (start ++ rowCells rowIdx row) rows
    else ⟨start ++ rowCells rowIdx row, true⟩ :: textLines (rowIdx + 1) [] rows

/-- The spans of cells behind a text. -/
def spansOf (before : List Char) : List TextCell → List TextSpan
  | [] => []
  | cell :: cells =>
    ⟨byteLength before, byteLength (before ++ cell.text), cell.start, cell.end⟩ ::
      spansOf (before ++ cell.text) cells

def LogicalTextLine.pushText (line : LogicalTextLine) (cell : TextCell) : LogicalTextLine :=
  line.push cell.text cell.start cell.end

def LogicalTextLine.ofCells (cells : List TextCell) : LogicalTextLine :=
  cells.foldl pushText {}

def TextLine.logical (line : TextLine) : LogicalTextLine :=
  if line.ended then (ofCells line.cells).trimmed
  else ofCells line.cells

@[simp] theorem joined_nil : joined [] = [] := rfl

theorem joined_cons (cell : TextCell) (cells : List TextCell) :
  joined (cell :: cells) = cell.text ++ joined cells := rfl

theorem joined_append (first second : List TextCell) :
  joined (first ++ second) = joined first ++ joined second := List.flatMap_append

theorem foldl_pushText (line : LogicalTextLine) (cells : List TextCell) :
  cells.foldl pushText line =
    ⟨line.text ++ joined cells, line.spans ++ spansOf line.text cells⟩ := by
  induction cells generalizing line with
  | nil => simp [spansOf]
  | cons cell cells ih =>
    rw [List.foldl_cons, ih]
    simp [pushText, push, joined_cons, spansOf]

theorem ofCells_eq (cells : List TextCell) :
  ofCells cells = ⟨joined cells, spansOf [] cells⟩ := foldl_pushText {} cells

theorem pushCell_text (rowIdx : Nat) (scan : TextScan) (entry : ScreenTextCell × Nat) :
  pushCell true false rowIdx scan entry =
    { scan with line := (textCell rowIdx entry).elim scan.line scan.line.pushText } := by
  obtain ⟨⟨width, graphemes⟩, col⟩ := entry
  cases width <;> rfl

theorem foldl_pushCell_text (rowIdx : Nat) (cells : List (ScreenTextCell × Nat)) (scan : TextScan) :
  cells.foldl (pushCell true false rowIdx) scan =
    { scan with line :=
        (cells.filterMap (textCell rowIdx)).foldl pushText scan.line } := by
  induction cells generalizing scan with
  | nil => rfl
  | cons entry cells ih =>
    rw [List.foldl_cons, ih, pushCell_text]
    cases hCell : textCell rowIdx entry with
    | none => rw [List.filterMap_cons_none hCell]; rfl
    | some cell => rw [List.filterMap_cons_some hCell]; rfl

/-- The lines of a scan with the one that is open. -/
def TextScan.allLines (scan : TextScan) : List LogicalTextLine :=
  if !scan.line.text.isEmpty || !scan.line.spans.isEmpty then scan.lines ++ [scan.line]
  else scan.lines

theorem allLines_ofCells (lines : List LogicalTextLine) (start : List TextCell)
  (atoms : List TextAtom) :
  TextScan.allLines ⟨lines, ofCells start, atoms⟩ =
    lines ++ (textLines 0 start []).map TextLine.logical := by
  rw [TextScan.allLines, ofCells_eq, textLines]
  cases start with
  | nil => simp [spansOf]
  | cons cell cells => simp [spansOf, TextLine.logical, ofCells_eq]

theorem foldl_pushRow_lines {rowOffset : Nat} (rows : List ScreenTextRow) (index : Nat)
  (lines : List LogicalTextLine) (start : List TextCell) (atoms : List TextAtom)
  (hRows : rowOffset + index + rows.length ≤ maxRow + 1) :
  ((rows.zipIdx index).foldl (pushRow true false rowOffset)
      ⟨lines, ofCells start, atoms⟩).allLines =
    lines ++ (textLines (rowOffset + index) start rows).map TextLine.logical := by
  induction rows generalizing index lines start with
  | nil => exact allLines_ofCells lines start atoms
  | cons row rows ih =>
    rw [List.length_cons] at hRows
    have hRow : min maxRow (rowOffset + index) = rowOffset + index :=
      Nat.min_eq_right (by omega)
    have hCells : (countedCells row).foldl (pushCell true false (rowOffset + index))
        ⟨lines, ofCells start, atoms⟩ =
          ⟨lines, ofCells (start ++ rowCells (rowOffset + index) row),
            atoms⟩ := by
      rw [foldl_pushCell_text, ofCells, ofCells,
        List.foldl_append]
      rfl
    rw [List.zipIdx_cons, List.foldl_cons, pushRow, hRow, hCells, textLines]
    cases row.softWrapped with
    | true => exact ih (index + 1) lines _ (by omega)
    | false =>
      have hRest := ih (index + 1)
        (lines ++
          [(ofCells (start ++ rowCells (rowOffset + index) row)).trimmed])
        [] (by omega)
      rw [List.append_assoc] at hRest
      exact hRest

variable {rows : List ScreenTextRow} {cells : List ScreenTextCell} {rowIdx : Nat} {cell : TextCell}

theorem newSearch_lines (cols : Nat) {rowOffset : Nat}
  (hRows : rowOffset + rows.length ≤ maxRow + 1) :
  (RetainedTextBuffer.newSearch cols rows rowOffset).lines =
    (textLines rowOffset [] rows).map TextLine.logical := by
  have hAll : rows.take (maxRow + 1) = rows := List.take_of_length_le (by omega)
  have hLines := foldl_pushRow_lines rows 0 [] [] [] hRows
  rw [RetainedTextBuffer.newSearch, RetainedTextBuffer.build, hAll]
  exact hLines

/-! ## The order of cells -/

/-- Reading order. -/
def TerminalTextPoint.Before (first second : TerminalTextPoint) : Prop :=
  first.row < second.row ∨ first.row = second.row ∧ first.col < second.col

instance (first second : TerminalTextPoint) : Decidable (first.Before second) :=
  inferInstanceAs (Decidable (_ ∨ _))

/-- Behind a wide cell comes the rest of it, unless the row ends there. -/
def tailsFollow : List ScreenTextCell → Bool
  | cell :: next :: cells =>
    (cell.wide != .wide || next.wide == .spacerTail) && tailsFollow (next :: cells)
  | _ => true

/-- The cells of rows in reading order. -/
def screenCells (rowIdx : Nat) : List ScreenTextRow → List TextCell
  | [] => []
  | row :: rows => rowCells rowIdx row ++ screenCells (rowIdx + 1) rows

/-- A cell ends before the next begins. -/
def Ordered (cells : List TextCell) : Prop :=
  cells.Pairwise fun first second => first.end.Before second.start

theorem tailsFollow_take (hTails : tailsFollow cells = true) (count : Nat) :
  tailsFollow (cells.take count) = true := by
  induction cells generalizing count with
  | nil => rw [List.take_nil]; rfl
  | cons cell cells ih =>
    cases count with
    | zero => rfl
    | succ count =>
      rw [List.take_succ_cons]
      cases cells with
      | nil => rw [List.take_nil]; rfl
      | cons next cells =>
        obtain ⟨hHead, hRest⟩ := Bool.and_eq_true_iff.1 hTails
        cases count with
        | zero => rfl
        | succ count => exact Bool.and_eq_true_iff.2 ⟨hHead, ih hRest (count + 1)⟩

theorem terminalCellText_ne_nil (graphemes : List Nat) : terminalCellText graphemes ≠ [] := by
  unfold terminalCellText
  split
  case isTrue => exact List.cons_ne_nil _ _
  case isFalse hText =>
    intro hNone
    rw [List.map_eq_nil_iff.1 hNone] at hText
    exact hText rfl

/-- A cell has text and lies in its row from its column on. -/
structure TextCell.InRow (rowIdx col : Nat) (cell : TextCell) : Prop where
  text : cell.text ≠ []
  startRow : cell.start.row = rowIdx
  endRow : cell.end.row = rowIdx
  le : col ≤ cell.start.col
  width : cell.start.col ≤ cell.end.col

theorem textCell_inRow {entry : ScreenTextCell × Nat} (hCol : entry.2 ≤ maxCol)
  (hCell : textCell rowIdx entry = some cell) :
  cell.InRow rowIdx entry.2 := by
  unfold textCell at hCell
  split at hCell
  case h_1 => cases hCell
  case h_2 => cases hCell
  case h_3 =>
    cases hCell
    exact ⟨terminalCellText_ne_nil _, rfl, rfl, Nat.le_refl _, by simpa using hCol⟩
  case h_4 =>
    cases hCell
    exact ⟨terminalCellText_ne_nil _, rfl, rfl, Nat.le_refl _, by simp; omega⟩

theorem inRow_of_mem {col : Nat} (hCols : col + cells.length ≤ maxCol + 1)
  (hMem : cell ∈ (cells.zipIdx col).filterMap (textCell rowIdx)) : cell.InRow rowIdx col := by
  obtain ⟨entry, hEntry, hCell⟩ := List.mem_filterMap.1 hMem
  have hFrom := List.le_snd_of_mem_zipIdx hEntry
  have hTo := List.snd_lt_add_of_mem_zipIdx hEntry
  have hCellIn := textCell_inRow (by omega) hCell
  exact { hCellIn with le := Nat.le_trans hFrom hCellIn.le }

/-- Cells with their rests are in order. -/
theorem ordered_cells {col : Nat} (hCols : col + cells.length ≤ maxCol + 1)
  (hTails : tailsFollow cells = true) :
  Ordered ((cells.zipIdx col).filterMap (textCell rowIdx)) := by
  induction cells generalizing col with
  | nil => exact List.Pairwise.nil
  | cons cell cells ih =>
    rw [List.length_cons] at hCols
    have hRestTails : tailsFollow cells = true := by
      cases cells with
      | nil => rfl
      | cons next cells => exact (Bool.and_eq_true_iff.1 hTails).2
    have hRest : Ordered ((cells.zipIdx (col + 1)).filterMap (textCell rowIdx)) :=
      ih (by omega) hRestTails
    rw [List.zipIdx_cons]
    cases hCell : textCell rowIdx (cell, col) with
    | none =>
      rw [List.filterMap_cons_none hCell]
      exact hRest
    | some first =>
      rw [List.filterMap_cons_some hCell]
      refine List.pairwise_cons.2 ⟨?_, hRest⟩
      intro second hMem
      have hSecond := inRow_of_mem (by omega) hMem
      have hHere : (cell, col).2 ≤ maxCol := by
        omega
      have hFirst := textCell_inRow hHere hCell
      refine Or.inr ⟨hFirst.endRow.trans hSecond.startRow.symm, ?_⟩
      have hLe := hSecond.le
      rcases cell with ⟨width, graphemes⟩
      cases width with
      | spacerTail => cases hCell
      | spacerHead => cases hCell
      | narrow =>
        cases hCell
        dsimp only
        omega
      | wide =>
        cases hCell
        -- The next cell is the rest of this one.
        cases cells with
        | nil => cases hMem
        | cons next cells =>
          have hTail : next.wide = .spacerTail := by
            simpa using (Bool.and_eq_true_iff.1 hTails).1
          have hSkip : textCell rowIdx (next, col + 1) = none := by
            unfold textCell
            rw [hTail]
          rw [List.length_cons] at hCols
          rw [List.zipIdx_cons, List.filterMap_cons_none hSkip] at hMem
          have hBehind := (inRow_of_mem (by omega) hMem).le
          dsimp only
          omega

theorem length_countedCells (row : ScreenTextRow) :
  0 + (row.cells.take (maxCol + 1)).length ≤ maxCol + 1 := by
  rw [List.length_take, Nat.zero_add]
  exact Nat.min_le_left _ _

theorem inRow_of_mem_rowCells {row : ScreenTextRow} (hMem : cell ∈ rowCells rowIdx row) :
  cell.InRow rowIdx 0 :=
  inRow_of_mem (length_countedCells row) hMem

theorem mem_screenCells (hMem : cell ∈ screenCells rowIdx rows) :
  cell.InRow cell.start.row 0 ∧ rowIdx ≤ cell.start.row ∧
    cell.start.row < rowIdx + rows.length := by
  induction rows generalizing rowIdx with
  | nil => cases hMem
  | cons row rows ih =>
    rw [List.length_cons]
    obtain hMem | hMem := List.mem_append.1 hMem
    · have hIn := inRow_of_mem_rowCells hMem
      have hRow := hIn.startRow
      exact ⟨hRow.symm ▸ hIn, by omega, by omega⟩
    · obtain ⟨hIn, hFrom, hTo⟩ := ih hMem
      exact ⟨hIn, by omega, by omega⟩

theorem ordered_screenCells (hTails : ∀ row ∈ rows, tailsFollow row.cells = true) :
  Ordered (screenCells rowIdx rows) := by
  induction rows generalizing rowIdx with
  | nil => exact List.Pairwise.nil
  | cons row rows ih =>
    obtain ⟨hRow, hRows⟩ := List.forall_mem_cons.1 hTails
    refine List.pairwise_append.2 ⟨?_, ih hRows, ?_⟩
    · exact ordered_cells (length_countedCells row) (tailsFollow_take hRow _)
    intro first hFirst second hSecond
    have hEnd := (inRow_of_mem_rowCells hFirst).endRow
    have hStart := (mem_screenCells hSecond).2.1
    exact Or.inl (by omega)

/-- The lines hold all cells in reading order. -/
theorem textLines_cells (rowIdx : Nat) (start : List TextCell) (rows : List ScreenTextRow) :
  (textLines rowIdx start rows).flatMap TextLine.cells = start ++ screenCells rowIdx rows := by
  induction rows generalizing rowIdx start with
  | nil =>
    rw [textLines, screenCells, List.append_nil]
    cases start with
    | nil => rfl
    | cons cell start => exact List.append_nil _
  | cons row rows ih =>
    rw [textLines, screenCells]
    cases row.softWrapped with
    | true => simp [ih]
    | false => simp [ih]

/-! ## Spans and cells -/

theorem binarySearchByKey_eq_some_iff {α κ : Type} [DecidableEq κ] {key : α → κ} {wanted : κ}
  {items : List α} (hKeys : items.Pairwise fun first second => key first ≠ key second)
  {item : α} :
  binarySearchByKey key wanted items = some item ↔ item ∈ items ∧ key item = wanted := by
  constructor
  · intro hFound
    exact ⟨List.mem_of_find?_eq_some hFound, by simpa using List.find?_some hFound⟩
  · rintro ⟨hMem, hKey⟩
    induction items with
    | nil => cases hMem
    | cons head items ih =>
      obtain ⟨hHead, hRest⟩ := List.pairwise_cons.1 hKeys
      obtain rfl | hMem := List.mem_cons.1 hMem
      · exact List.find?_cons_of_pos (decide_eq_true hKey)
      · have hOther : ¬ key head = wanted := hKey ▸ hHead item hMem
        have hSkip : binarySearchByKey key wanted (head :: items) =
            binarySearchByKey key wanted items :=
          List.find?_cons_of_neg (by simpa using hOther)
        rw [hSkip, ih hRest hMem]

namespace TextLine

/-- How many characters of a line come before a cell. -/
def offset (line : TextLine) (count : Nat) : Nat := (joined (line.cells.take count)).length

/-- The cells from the first up to before the last, all of whose text is kept. -/
structure Whole (line : TextLine) (first stop : Nat) : Prop where
  lt : first < stop
  le : stop ≤ line.cells.length
  text : joined (line.cells.take stop) <+: line.text

/-- The text of cells of a line. -/
def runText (line : TextLine) (first stop : Nat) : List Char :=
  joined ((line.cells.take stop).drop first)

/-- Where a run of cells begins and ends on the screen. -/
structure HasRange (line : TextLine) (first stop : Nat) (start «end» : TerminalTextPoint) :
  Prop where
  start : line.cells[first]?.map TextCell.start = some start
  «end» : line.cells[stop - 1]?.map TextCell.end = some «end»

/-- Every cell has text, as those of a screen do. -/
def Filled (line : TextLine) : Prop := ∀ cell ∈ line.cells, cell.text ≠ []

/-- The span of a cell. -/
def span (line : TextLine) (index : Nat) (cell : TextCell) : TextSpan where
  byteStart := byteLength (joined (line.cells.take index))
  byteEnd := byteLength (joined (line.cells.take (index + 1)))
  start := cell.start
  «end» := cell.end

variable {line : TextLine}

theorem logical_text : line.logical.text = line.text := by
  unfold logical text
  rw [ofCells_eq]
  split
  · rfl
  · rfl

theorem trimEnd_isPrefix (text : List Char) : trimEnd text <+: text :=
  List.rdropWhile_prefix Detect.isWhitespace text

theorem text_isPrefix : line.text <+: joined line.cells := by
  unfold text
  split
  · exact trimEnd_isPrefix _
  · exact List.prefix_refl _

theorem joined_take_isPrefix (cells : List TextCell) (count : Nat) :
  joined (cells.take count) <+: joined cells := by
  refine ⟨joined (cells.drop count), ?_⟩
  rw [← joined_append, List.take_append_drop]

variable {first stop : Nat}

theorem joined_take_append (cells : List TextCell) (hLe : first ≤ stop) :
  joined (cells.take first) ++ joined ((cells.take stop).drop first) =
    joined (cells.take stop) := by
  have hTake : cells.take first = (cells.take stop).take first := by
    rw [List.take_take, Nat.min_eq_left hLe]
  rw [hTake, ← joined_append, List.take_append_drop]

theorem offset_lt (hFilled : line.Filled) (hLt : first < stop) (hLe : stop ≤ line.cells.length) :
  line.offset first < line.offset stop := by
  have hFirst : first < line.cells.length := by omega
  have hText : joined ((line.cells.take stop).drop first) ≠ [] := by
    have hRun : (line.cells.take stop).drop first =
        line.cells[first] :: (line.cells.take stop).drop (first + 1) := by
      rw [List.drop_eq_getElem_cons (by rw [List.length_take]; omega), List.getElem_take]
    rw [hRun, joined_cons]
    intro hNone
    exact hFilled _ (List.getElem_mem hFirst) (List.append_eq_nil_iff.1 hNone).1
  have hPos := List.length_pos_of_ne_nil hText
  rw [offset, offset, ← joined_take_append line.cells (Nat.le_of_lt hLt), List.length_append]
  omega

theorem lt_of_offset_lt (hFilled : line.Filled) (hLe : first ≤ line.cells.length)
  (hLt : line.offset first < line.offset stop) :
  first < stop := by
  by_contra hNot
  obtain hLess | rfl : stop < first ∨ stop = first := by omega
  · have := offset_lt hFilled hLess hLe
    omega
  · omega

theorem offset_lt_iff (hFilled : line.Filled) {second : Nat} (hFirst : first ≤ line.cells.length)
  (hSecond : second ≤ line.cells.length) :
  line.offset first < line.offset second ↔ first < second :=
  ⟨lt_of_offset_lt hFilled hFirst, fun hLt => offset_lt hFilled hLt hSecond⟩

theorem getElem?_spansOf (before : List Char) (cells : List TextCell) (index : Nat) :
  (spansOf before cells)[index]? = cells[index]?.map fun cell =>
    { byteStart := byteLength (before ++ joined (cells.take index))
      byteEnd := byteLength (before ++ joined (cells.take (index + 1)))
      start := cell.start
      «end» := cell.end } := by
  induction cells generalizing before index with
  | nil => rfl
  | cons cell cells ih =>
    cases index with
    | zero => simp [spansOf, joined_cons]
    | succ index => simp [spansOf, ih, joined_cons]

theorem mem_spansOf {span : TextSpan} :
  span ∈ spansOf [] line.cells ↔
    ∃ index cell, line.cells[index]? = some cell ∧ span = line.span index cell := by
  rw [List.mem_iff_getElem?]
  constructor
  · rintro ⟨index, hSpan⟩
    rw [getElem?_spansOf] at hSpan
    obtain ⟨cell, hCell, rfl⟩ := Option.map_eq_some_iff.1 hSpan
    exact ⟨index, cell, hCell, rfl⟩
  · rintro ⟨index, cell, hCell, rfl⟩
    refine ⟨index, ?_⟩
    rw [getElem?_spansOf, hCell]
    rfl

theorem byteLength_take_lt (hFilled : line.Filled) (hLt : first < stop)
  (hLe : stop ≤ line.cells.length) :
  byteLength (joined (line.cells.take first)) < byteLength (joined (line.cells.take stop)) := by
  refine byteLength_lt_of_isPrefix ⟨_, joined_take_append line.cells (Nat.le_of_lt hLt)⟩ ?_
  exact offset_lt hFilled hLt hLe

/-- What is dropped at the end under a condition that goes on holding is all that it holds of. -/
theorem reverse_dropWhile_reverse {α : Type} {p : α → Bool} {items : List α}
  (hGoesOn : items.Pairwise fun first second => p first = true → p second = true) :
  (items.reverse.dropWhile p).reverse = items.filter fun item => !p item := by
  induction items using List.reverseRecOn with
  | nil => rfl
  | append_singleton items last ih =>
    obtain ⟨hItems, -, hLast⟩ := List.pairwise_append.1 hGoesOn
    rw [List.reverse_append, List.reverse_singleton, List.singleton_append, List.filter_append]
    cases hp : p last with
    | true =>
      rw [List.dropWhile_cons_of_pos hp, ih hItems]
      simp [hp]
    | false =>
      have hNone : ∀ item ∈ items, (!p item) = true := by
        intro item hMem
        rw [Bool.not_eq_true']
        by_contra hSome
        have hLastSome := hLast item hMem last List.mem_cons_self (by simpa using hSome)
        exact Bool.false_ne_true (hp.symm.trans hLastSome)
      have hKept : ¬ p last = true := by
        rw [hp]
        exact Bool.false_ne_true
      rw [List.dropWhile_cons_of_neg hKept, List.filter_eq_self.2 hNone]
      simp [hp]

theorem spansOf_pairwise {Rel : TextSpan → TextSpan → Prop}
  (hRel : ∀ first second cell other, first < second → line.cells[first]? = some cell →
    line.cells[second]? = some other → Rel (line.span first cell) (line.span second other)) :
  (spansOf [] line.cells).Pairwise Rel := by
  rw [List.pairwise_iff_getElem]
  intro first second hFirst hSecond hLt
  have hSpans := getElem?_spansOf [] line.cells
  obtain ⟨cell, hCell, hHere⟩ := Option.map_eq_some_iff.1
    ((hSpans first).symm.trans (List.getElem?_eq_getElem hFirst))
  obtain ⟨other, hOther, hThere⟩ := Option.map_eq_some_iff.1
    ((hSpans second).symm.trans (List.getElem?_eq_getElem hSecond))
  rw [← hHere, ← hThere]
  exact hRel first second cell other hLt hCell hOther

/-- A prefix of the text is the text of the first cells where it is as long. -/
theorem byteLength_joined_eq_iff {place : Nat} (hPlace : place ≤ line.text.length) (count : Nat) :
  byteLength (joined (line.cells.take count)) = byteLength (line.text.take place) ↔
    line.offset count = place := by
  have hTaken : line.text.take place <+: joined line.cells :=
    (List.take_prefix _ _).trans text_isPrefix
  have hLength : (line.text.take place).length = place := List.length_take_of_le hPlace
  constructor
  · intro hSame
    have hEq := eq_of_byteLength_eq (joined_take_isPrefix line.cells count) hTaken hSame
    exact (congrArg List.length hEq).trans hLength
  · intro hOffset
    have hLengths := hOffset.trans hLength.symm
    have hPrefix := List.prefix_of_prefix_length_le (joined_take_isPrefix line.cells count) hTaken
      (Nat.le_of_eq hLengths)
    rw [hPrefix.eq_of_length hLengths]

section

variable (hFilled : line.Filled)
include hFilled

theorem spansOf_byteStart :
  (spansOf [] line.cells).Pairwise fun first second => first.byteStart < second.byteStart := by
  refine spansOf_pairwise fun first second cell other hLt _ hOther => ?_
  have hSecond := (List.getElem?_eq_some_iff.1 hOther).1
  exact byteLength_take_lt hFilled hLt (Nat.le_of_lt hSecond)

theorem logical_spans :
  line.logical.spans = (spansOf [] line.cells).filter fun span =>
    !line.ended || decide (span.byteStart < byteLength line.text) := by
  unfold logical
  rw [ofCells_eq]
  split
  case isFalse hOpen =>
    rw [List.filter_eq_self.2 fun _ _ => by simp [hOpen]]
  case isTrue hEnded =>
    have hGoesOn : (spansOf [] line.cells).Pairwise fun first second =>
        decide (byteLength line.text ≤ first.byteStart) = true →
          decide (byteLength line.text ≤ second.byteStart) = true := by
      refine (spansOf_byteStart hFilled).imp fun hLt hLe => ?_
      rw [decide_eq_true_iff] at hLe ⊢
      omega
    have hText : line.text = trimEnd (joined line.cells) := if_pos hEnded
    have hFilter := reverse_dropWhile_reverse hGoesOn
    rw [trimmed]
    rw [← hText, hFilter]
    refine List.filter_congr fun span _ => ?_
    simp [hEnded, ← decide_not]

theorem logical_spans_sublist :
  line.logical.spans.Sublist (spansOf [] line.cells) := by
  rw [logical_spans hFilled]
  exact List.filter_sublist

/-- The spans of a line are those of the cells that begin in its text. -/
theorem mem_logical_spans {span : TextSpan} :
  span ∈ line.logical.spans ↔
    ∃ index cell, line.cells[index]? = some cell ∧ span = line.span index cell ∧
      (line.ended = true → span.byteStart < byteLength line.text) := by
  rw [logical_spans hFilled, List.mem_filter, mem_spansOf]
  constructor
  · rintro ⟨⟨index, cell, hCell, hSpan⟩, hKept⟩
    refine ⟨index, cell, hCell, hSpan, fun hEnded => ?_⟩
    rw [hEnded] at hKept
    exact of_decide_eq_true hKept
  · rintro ⟨index, cell, hCell, hSpan, hKept⟩
    refine ⟨⟨index, cell, hCell, hSpan⟩, ?_⟩
    cases hEnded : line.ended with
    | false => rfl
    | true => exact decide_eq_true (hKept hEnded)

/-- A find begins with a cell if its first character does. -/
theorem search_byteStart {place : Nat} (hPlace : place < line.text.length)
  {span : TextSpan} :
  binarySearchByKey TextSpan.byteStart (byteLength (line.text.take place))
      line.logical.spans = some span ↔
    ∃ index cell, line.cells[index]? = some cell ∧ line.offset index = place ∧
      span = line.span index cell := by
  have hKeys : line.logical.spans.Pairwise fun first second =>
      first.byteStart ≠ second.byteStart :=
    ((spansOf_byteStart hFilled).imp fun hLt => Nat.ne_of_lt hLt).sublist
      (logical_spans_sublist hFilled)
  rw [binarySearchByKey_eq_some_iff hKeys, mem_logical_spans hFilled]
  constructor
  · rintro ⟨⟨index, cell, hCell, rfl, -⟩, hStart⟩
    exact ⟨index, cell, hCell, (byteLength_joined_eq_iff hPlace.le index).1 hStart, rfl⟩
  · rintro ⟨index, cell, hCell, hOffset, rfl⟩
    have hStart : (line.span index cell).byteStart = byteLength (line.text.take place) :=
      (byteLength_joined_eq_iff hPlace.le index).2 hOffset
    refine ⟨⟨index, cell, hCell, rfl, fun _ => ?_⟩, hStart⟩
    rw [hStart]
    exact byteLength_lt_of_isPrefix (List.take_prefix _ _) (by rw [List.length_take]; omega)

theorem search_byteEnd {place : Nat} (hPlace : place ≤ line.text.length)
  {span : TextSpan} :
  binarySearchByKey TextSpan.byteEnd (byteLength (line.text.take place))
      line.logical.spans = some span ↔
    ∃ index cell, line.cells[index]? = some cell ∧ line.offset (index + 1) = place ∧
      span = line.span index cell := by
  have hEnds : (spansOf [] line.cells).Pairwise fun first second =>
      first.byteEnd ≠ second.byteEnd := by
    refine spansOf_pairwise fun first second cell other hLt _ hOther => Nat.ne_of_lt ?_
    have hSecond := (List.getElem?_eq_some_iff.1 hOther).1
    exact byteLength_take_lt hFilled (Nat.succ_lt_succ hLt) hSecond
  have hKeys := hEnds.sublist (logical_spans_sublist hFilled)
  rw [binarySearchByKey_eq_some_iff hKeys, mem_logical_spans hFilled]
  constructor
  · rintro ⟨⟨index, cell, hCell, rfl, -⟩, hEnd⟩
    exact ⟨index, cell, hCell, (byteLength_joined_eq_iff hPlace (index + 1)).1 hEnd, rfl⟩
  · rintro ⟨index, cell, hCell, hOffset, rfl⟩
    have hEnd : (line.span index cell).byteEnd = byteLength (line.text.take place) :=
      (byteLength_joined_eq_iff hPlace (index + 1)).2 hOffset
    have hIndex := (List.getElem?_eq_some_iff.1 hCell).1
    refine ⟨⟨index, cell, hCell, rfl, fun _ => ?_⟩, hEnd⟩
    have hLess := byteLength_take_lt hFilled (Nat.lt_succ_self index) hIndex
    have hKept := byteLength_le_of_isPrefix (List.take_prefix place line.text)
    rw [← hEnd] at hKept
    exact Nat.lt_of_lt_of_le hLess hKept

end

end TextLine

end Terminal
