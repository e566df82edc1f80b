import VimeflowTerminal.Data.TextSlice
import VimeflowTerminal.Terminal.HistoryRead

/-! The rows of a terminal as logical lines, with the place of every cell in them, and as the
atoms over which the word motions run. -/

namespace Terminal

open TextSlice

structure TerminalTextPoint where
  row : Nat
  col : Nat
  deriving DecidableEq

inductive TextClass where
  | whitespace
  | separator
  | word
  deriving DecidableEq

/-- A cell with text, or the end of a logical line. -/
structure TextAtom where
  point : Option TerminalTextPoint
  endCol : Nat
  textClass : TextClass
  deriving DecidableEq

structure TextSpan where
  byteStart : Nat
  byteEnd : Nat
  start : TerminalTextPoint
  «end» : TerminalTextPoint
  deriving DecidableEq

structure LogicalTextLine where
  text : List Char := []
  spans : List TextSpan := []
  deriving DecidableEq

structure RetainedTextBuffer where
  cols : Nat
  lines : List LogicalTextLine
  atoms : List TextAtom
  deriving DecidableEq

def copyModeWordSeparators : String := "!\"#$%&'()*+,-./:;<=>?@[\\]^`\x7b|\x7d~"

def terminalCellText (graphemes : List Nat) : List Char :=
  if graphemes.isEmpty || graphemes.head? == some kittyUnicodePlaceholder then [' ']
  else graphemes.map charOfCodepoint

def textClass (text : List Char) : TextClass :=
  match text.head? with
  | none => .whitespace
  | some ch =>
    if Detect.isWhitespace ch then .whitespace
    else if ch.toNat < 128 && copyModeWordSeparators.toList.contains ch then .separator
    else .word

/-- The largest column and row that a point counts. -/
def maxCol : Nat := 2 ^ 16 - 1

def maxRow : Nat := 2 ^ 32 - 1

/-- The class of the last atom, if there is one. -/
def classAfter (last : TextClass) (atoms : List TextAtom) : TextClass :=
  (atoms.getLast?.map TextAtom.textClass).getD last

/-- What the loop over the rows has collected. -/
structure TextScan where
  lines : List LogicalTextLine := []
  line : LogicalTextLine := {}
  atoms : List TextAtom := []

def LogicalTextLine.push (line : LogicalTextLine) (text : List Char)
  (start stop : TerminalTextPoint) : LogicalTextLine where
  text := line.text ++ text
  spans := line.spans ++
    [⟨byteLength line.text, byteLength (line.text ++ text), start, stop⟩]

/-- Cut the blank end off a line, with the cells that begin in it. -/
def LogicalTextLine.trimmed (line : LogicalTextLine) : LogicalTextLine :=
  let text := trimEnd line.text
  ⟨text, (line.spans.reverse.dropWhile fun span => byteLength text ≤ span.byteStart).reverse⟩

/-- Append a cell to the line and to the atoms. The rest of a wide cell has no text of its
own, and what is left free before one goes on with the class of the last atom. -/
def pushCell (buildLines buildAtoms : Bool) (rowIdx : Nat) (scan : TextScan)
  (entry : ScreenTextCell × Nat) : TextScan :=
  let (cell, col) := entry
  match cell.wide with
  | .spacerTail => scan
  | .spacerHead =>
    if buildAtoms then
      { scan with
        atoms := scan.atoms ++ [⟨some ⟨rowIdx, col⟩, col, classAfter .whitespace scan.atoms⟩] }
    else scan
  | _ =>
    let width := if cell.wide = .wide then 2 else 1
    let text := terminalCellText cell.graphemes
    let endCol := min maxCol (col + (width - 1))
    { scan with
      line :=
        if buildLines then scan.line.push text ⟨rowIdx, col⟩ ⟨rowIdx, endCol⟩ else scan.line
      atoms :=
        if buildAtoms then scan.atoms ++ [⟨some ⟨rowIdx, col⟩, endCol, textClass text⟩]
        else scan.atoms }

def lineEnd : TextAtom := ⟨none, 0, .whitespace⟩

/-- The cells that a column can name. -/
def countedCells (row : ScreenTextRow) : List (ScreenTextCell × Nat) :=
  (row.cells.take (maxCol + 1)).zipIdx

/-- Append the cells of a row, and end the line unless the row is soft-wrapped. -/
def pushRow (buildLines buildAtoms : Bool) (rowOffset : Nat) (scan : TextScan)
  (entry : ScreenTextRow × Nat) : TextScan :=
  let (row, index) := entry
  let scan := (countedCells row).foldl
    (pushCell buildLines buildAtoms (min maxRow (rowOffset + index))) scan
  if row.softWrapped then scan
  else
    { lines := if buildLines then scan.lines ++ [scan.line.trimmed] else scan.lines
      line := if buildLines then {} else scan.line
      atoms := if buildAtoms then scan.atoms ++ [lineEnd] else scan.atoms }

namespace RetainedTextBuffer

def build (cols : Nat) (rows : List ScreenTextRow) (rowOffset : Nat)
  (buildLines buildAtoms : Bool) : RetainedTextBuffer :=
  let scan := (rows.take (maxRow + 1)).zipIdx.foldl (pushRow buildLines buildAtoms rowOffset) {}
  { cols := cols
    lines :=
      if buildLines && (!scan.line.text.isEmpty || !scan.line.spans.isEmpty) then
        scan.lines ++ [scan.line]
      else scan.lines
    atoms := scan.atoms }

def newSearch (cols : Nat) (rows : List ScreenTextRow) (rowOffset : Nat) : RetainedTextBuffer :=
  build cols rows rowOffset true false

def newWords (cols : Nat) (rows : List ScreenTextRow) (rowOffset : Nat) : RetainedTextBuffer :=
  build cols rows rowOffset false true

end RetainedTextBuffer

/-- The rows from one to another, as far as a row number reaches. -/
def screenTextRowsRange (rows : List ScreenTextRow) (startRow endRowExclusive : Nat) :
  List ScreenTextRow :=
  (rows.take (min endRowExclusive (maxRow + 1))).drop startRow

/-- All rows, as far as a row number reaches. -/
def screenTextRows (rows : List ScreenTextRow) : List ScreenTextRow :=
  screenTextRowsRange rows 0 rows.length

theorem length_screenTextRows (rows : List ScreenTextRow) :
  (screenTextRows rows).length ≤ maxRow + 1 := by
  rw [screenTextRows, screenTextRowsRange, List.drop_zero, List.length_take]
  omega

theorem screenTextRowsRange_eq (rows : List ScreenTextRow) (startRow endRow : Nat) :
  screenTextRowsRange rows startRow endRow =
    ((screenTextRows rows).take endRow).drop startRow := by
  rw [screenTextRows, screenTextRowsRange, screenTextRowsRange, List.drop_zero, List.take_take]
  refine congrArg (List.drop startRow) (List.take_eq_take_iff.2 ?_)
  omega

/-- The atom of a cell. -/
def cellAtom (rowIdx : Nat) (last : TextClass) (entry : ScreenTextCell × Nat) : Option TextAtom :=
  match entry.1.wide with
  | .spacerTail => none
  | .spacerHead => some ⟨some ⟨rowIdx, entry.2⟩, entry.2, last⟩
  | .narrow =>
    some ⟨some ⟨rowIdx, entry.2⟩, min maxCol entry.2,
      textClass (terminalCellText entry.1.graphemes)⟩
  | .wide =>
    some ⟨some ⟨rowIdx, entry.2⟩, min maxCol (entry.2 + 1),
      textClass (terminalCellText entry.1.graphemes)⟩

def cellAtoms (rowIdx : Nat) (last : TextClass) : List (ScreenTextCell × Nat) → List TextAtom
  | [] => []
  | entry :: cells =>
    match cellAtom rowIdx last entry with
    | none => cellAtoms rowIdx last cells
    | some atom => atom :: cellAtoms rowIdx atom.textClass cells

def rowAtoms (rowIdx : Nat) (last : TextClass) (row : ScreenTextRow) : List TextAtom :=
  cellAtoms rowIdx last (countedCells row) ++ if row.softWrapped then [] else [lineEnd]

def screenAtoms (rowIdx : Nat) (last : TextClass) : List ScreenTextRow → List TextAtom
  | [] => []
  | row :: rows =>
    rowAtoms rowIdx last row ++
      screenAtoms (rowIdx + 1) (classAfter last (rowAtoms rowIdx last row)) rows

@[simp] theorem classAfter_nil (last : TextClass) : classAfter last [] = last := rfl

theorem classAfter_append (last : TextClass) (first second : List TextAtom) :
  classAfter last (first ++ second) = classAfter (classAfter last first) second := by
  unfold classAfter
  cases hSecond : second.getLast? with
  | none =>
    rw [List.getLast?_eq_none_iff] at hSecond
    subst hSecond
    simp
  | some atom => simp [List.getLast?_append, hSecond]

theorem classAfter_cons (last : TextClass) (atom : TextAtom) (atoms : List TextAtom) :
  classAfter last (atom :: atoms) = classAfter atom.textClass atoms :=
  classAfter_append last [atom] atoms

theorem pushCell_atoms (buildLines : Bool) (rowIdx : Nat) (scan : TextScan)
  (entry : ScreenTextCell × Nat) :
  (pushCell buildLines true rowIdx scan entry).atoms =
    scan.atoms ++ (cellAtom rowIdx (classAfter .whitespace scan.atoms) entry).toList := by
  obtain ⟨⟨width, graphemes⟩, col⟩ := entry
  cases width with
  | spacerTail => simp [pushCell, cellAtom]
  | spacerHead => simp [pushCell, cellAtom]
  | narrow => simp [pushCell, cellAtom]
  | wide => simp [pushCell, cellAtom]

theorem foldl_pushCell_atoms (buildLines : Bool) (rowIdx : Nat)
  (cells : List (ScreenTextCell × Nat)) (scan : TextScan) :
  (cells.foldl (pushCell buildLines true rowIdx) scan).atoms =
    scan.atoms ++ cellAtoms rowIdx (classAfter .whitespace scan.atoms) cells := by
  induction cells generalizing scan with
  | nil => exact (List.append_nil _).symm
  | cons entry cells ih =>
    rw [List.foldl_cons, ih, pushCell_atoms, cellAtoms]
    cases cellAtom rowIdx (classAfter .whitespace scan.atoms) entry with
    | none => simp
    | some atom => simp [classAfter_append, classAfter_cons]

variable {rowOffset rowIdx : Nat} {rows : List ScreenTextRow} {last : TextClass} {atom : TextAtom}

theorem pushRow_atoms (buildLines : Bool) {index : Nat} (scan : TextScan) (row : ScreenTextRow)
  (hRow : rowOffset + index ≤ maxRow) :
  (pushRow buildLines true rowOffset scan (row, index)).atoms =
    scan.atoms ++ rowAtoms (rowOffset + index) (classAfter .whitespace scan.atoms) row := by
  rw [pushRow, rowAtoms, Nat.min_eq_right hRow]
  cases row.softWrapped with
  | true => simp [foldl_pushCell_atoms]
  | false => simp [foldl_pushCell_atoms]

theorem foldl_pushRow_atoms (buildLines : Bool) (rows : List ScreenTextRow) (index : Nat)
  (scan : TextScan) (hRows : rowOffset + index + rows.length ≤ maxRow + 1) :
  ((rows.zipIdx index).foldl (pushRow buildLines true rowOffset) scan).atoms =
    scan.atoms ++ screenAtoms (rowOffset + index) (classAfter .whitespace scan.atoms) rows := by
  induction rows generalizing index scan with
  | nil => exact (List.append_nil _).symm
  | cons row rows ih =>
    rw [List.length_cons] at hRows
    have hRow : rowOffset + index ≤ maxRow := by omega
    rw [List.zipIdx_cons, List.foldl_cons, ih (index + 1) _ (by omega),
      pushRow_atoms buildLines scan row hRow, screenAtoms, classAfter_append, List.append_assoc,
      Nat.add_assoc]

theorem newWords_atoms (cols : Nat) (hRows : rowOffset + rows.length ≤ maxRow + 1) :
  (RetainedTextBuffer.newWords cols rows rowOffset).atoms =
    screenAtoms rowOffset .whitespace rows := by
  have hAll : rows.take (maxRow + 1) = rows := List.take_of_length_le (by omega)
  have hAtoms := foldl_pushRow_atoms false rows 0 {} hRows
  rw [RetainedTextBuffer.newWords, RetainedTextBuffer.build, hAll]
  exact hAtoms

theorem screenAtoms_append (rowIdx : Nat) (last : TextClass) (first second : List ScreenTextRow) :
  screenAtoms rowIdx last (first ++ second) =
    screenAtoms rowIdx last first ++
      screenAtoms (rowIdx + first.length) (classAfter last (screenAtoms rowIdx last first))
        second := by
  induction first generalizing rowIdx last with
  | nil => rfl
  | cons row first ih =>
    rw [List.cons_append, screenAtoms, screenAtoms, ih, classAfter_append, List.append_assoc,
      List.length_cons, Nat.add_right_comm, Nat.add_assoc]

/-- A row that begins, but for the rest of a wide cell, with a cell of its own. -/
def ScreenTextRow.opensWithText (row : ScreenTextRow) : Bool :=
  ((countedCells row).find? fun entry => entry.1.wide != .spacerTail).any fun entry =>
    entry.1.wide != .spacerHead

theorem cellAtom_point {entry : ScreenTextCell × Nat}
  (hAtom : cellAtom rowIdx last entry = some atom) :
  atom.point = some ⟨rowIdx, entry.2⟩ := by
  unfold cellAtom at hAtom
  split at hAtom
  · cases hAtom
  all_goals
    cases hAtom
    rfl

theorem point_of_mem_cellAtoms {cells : List (ScreenTextCell × Nat)}
  (hMem : atom ∈ cellAtoms rowIdx last cells) : ∃ col, atom.point = some ⟨rowIdx, col⟩ := by
  induction cells generalizing last with
  | nil => cases hMem
  | cons entry cells ih =>
    rw [cellAtoms] at hMem
    cases hAtom : cellAtom rowIdx last entry with
    | none =>
      rw [hAtom] at hMem
      exact ih hMem
    | some first =>
      rw [hAtom] at hMem
      rcases List.mem_cons.1 hMem with rfl | hMem
      · exact ⟨entry.2, cellAtom_point hAtom⟩
      · exact ih hMem

/-- An atom of a screen is the end of a line or belongs to one of the rows. -/
theorem mem_screenAtoms (hMem : atom ∈ screenAtoms rowIdx last rows) :
  atom = lineEnd ∨
    ∃ point, atom.point = some point ∧ rowIdx ≤ point.row ∧ point.row < rowIdx + rows.length := by
  induction rows generalizing rowIdx last with
  | nil => cases hMem
  | cons row rows ih =>
    rw [screenAtoms, rowAtoms, List.mem_append, List.mem_append] at hMem
    rw [List.length_cons]
    obtain (hMem | hMem) | hMem := hMem
    · obtain ⟨col, hPoint⟩ := point_of_mem_cellAtoms hMem
      exact .inr ⟨_, hPoint, Nat.le_refl _, by dsimp only; omega⟩
    · cases hWrapped : row.softWrapped with
      | true => simp [hWrapped] at hMem
      | false => exact .inl (by simpa [hWrapped] using hMem)
    · obtain hEnd | ⟨point, hPoint, hFrom, hTo⟩ := ih hMem
      · exact .inl hEnd
      · exact .inr ⟨point, hPoint, by omega, by omega⟩

theorem getLast?_rowAtoms {row : ScreenTextRow} (hClosed : row.softWrapped = false) :
  (rowAtoms rowIdx last row).getLast? = some lineEnd := by
  rw [rowAtoms, hClosed]
  exact List.getLast?_concat

theorem getLast?_screenAtoms {row : ScreenTextRow} (hLast : rows.getLast? = some row)
  (hClosed : row.softWrapped = false) :
  (screenAtoms rowIdx last rows).getLast? = some lineEnd := by
  obtain ⟨rows, rfl⟩ := List.getLast?_eq_some_iff.1 hLast
  rw [screenAtoms_append, screenAtoms, screenAtoms, List.append_nil, List.getLast?_append,
    getLast?_rowAtoms hClosed, Option.some_or]

/-- Where a row opens with text, what precedes it does not show in its atoms. -/
theorem cellAtoms_opens {rowIdx : Nat} {cells : List (ScreenTextCell × Nat)}
  (hOpens : (cells.find? fun entry => entry.1.wide != .spacerTail).any
    (fun entry => entry.1.wide != .spacerHead) = true) :
  ∃ atom atoms, ∀ last, cellAtoms rowIdx last cells = atom :: atoms := by
  induction cells with
  | nil => cases hOpens
  | cons entry cells ih =>
    obtain ⟨⟨width, graphemes⟩, col⟩ := entry
    cases width with
    | spacerTail => exact ih hOpens
    | spacerHead => cases hOpens
    | narrow => exact ⟨_, _, fun last => rfl⟩
    | wide => exact ⟨_, _, fun last => rfl⟩

theorem screenAtoms_opens {rowIdx : Nat} {row : ScreenTextRow} (rows : List ScreenTextRow)
  (hOpens : row.opensWithText = true) :
  ∃ atom atoms, (∃ col, atom.point = some ⟨rowIdx, col⟩) ∧
    ∀ last, screenAtoms rowIdx last (row :: rows) = atom :: atoms := by
  obtain ⟨atom, cells, hCells⟩ := @cellAtoms_opens rowIdx _ hOpens
  have hPoint : ∃ col, atom.point = some ⟨rowIdx, col⟩ := by
    have hMem : atom ∈ cellAtoms rowIdx .whitespace (countedCells row) := by
      rw [hCells]
      exact List.mem_cons_self
    exact point_of_mem_cellAtoms hMem
  refine ⟨atom, (cells ++ if row.softWrapped then [] else [lineEnd]) ++
    screenAtoms (rowIdx + 1) (classAfter atom.textClass
      (cells ++ if row.softWrapped then [] else [lineEnd])) rows, hPoint, fun last => ?_⟩
  rw [screenAtoms, rowAtoms, hCells, List.cons_append, classAfter_cons, List.cons_append]

end Terminal
