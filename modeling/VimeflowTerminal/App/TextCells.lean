import VimeflowTerminal.Data.TextSlice
import VimeflowTerminal.Detect.Agent

/-! Where the characters of a line are shown: as columns of one long row, and on
the rows of a pane. What a double click selects in a line is found on its
cells, as is the web address that a click opens. -/

namespace App

open TextSlice

/-- The addition of `u16` that stops at the largest value. -/
def saturatingAdd16 (a b : Nat) : Nat := min (a + b) 65535

structure TextCell where
  ch : Char
  startCol : Nat
  endCol : Nat
  deriving DecidableEq

/-- The cells from one to another, both included. -/
structure CellSpan where
  start : Nat
  «end» : Nat
  deriving DecidableEq

def CellSpan.contains (span : CellSpan) (idx : Nat) : Bool := span.start ≤ idx && idx ≤ span.end

/-- The columns of a span, if there are such cells. -/
def CellSpan.columns (cells : List TextCell) (span : CellSpan) : Option (Nat × Nat) :=
  cells[span.start]?.bind fun first => cells[span.end]?.map fun last => (first.startCol, last.endCol)

def safeWebUrl (url : List Char) : Option (List Char) :=
  if "http://".toList.isPrefixOf url || "https://".toList.isPrefixOf url then some url else none

section Cells

variable (width : Char → Nat)

def textCellsFrom (nextCol : Nat) : List Char → List TextCell
  | [] => []
  | ch :: rest =>
    let startCol := if width ch = 0 then nextCol - 1 else nextCol
    let nextCol := if 0 < width ch then saturatingAdd16 nextCol (width ch) else nextCol
    ⟨ch, startCol, nextCol - 1⟩ :: textCellsFrom nextCol rest

def textCells (row : List Char) : List TextCell := textCellsFrom width 0 row

def cellIndexAtColumn (cells : List TextCell) (col : Nat) : Option Nat :=
  cells.findIdx? fun cell => cell.startCol ≤ col && col ≤ cell.endCol

def byteIndexForCell (row : List Char) (cellIdx : Nat) : Nat := byteLength (row.take cellIdx)

def byteIndexAfterCell (row : List Char) (cellIdx : Nat) : Nat :=
  byteLength (row.take (cellIdx + 1))

def startsWithChars (cells : List TextCell) (start : Nat) (expected : List Char) : Bool :=
  expected.zipIdx.all fun entry => cells[start + entry.2]?.any fun cell => cell.ch = entry.1

/-- The scan of an address stops before the next blank. -/
def urlEnd (cells : List TextCell) (last : Nat) : Nat :=
  match hNext : cells[last + 1]? with
  | none => last
  | some cell => if Detect.isWhitespace cell.ch then last else urlEnd cells (last + 1)
termination_by cells.length - last
decreasing_by
  have hLt := (List.getElem?_eq_some_iff.1 hNext).1
  omega

def trailingUrlCloserIsBalanced (cells : List TextCell) (start last : Nat) (opener closer : Char) :
  Bool :=
  let balance := ((cells.take last).drop start).foldl (fun balance cell =>
    if cell.ch = opener then balance + 1
    else if cell.ch = closer then balance - 1
    else balance) (0 : Int)
  0 < balance

def shouldTrimTrailingUrlCell (cells : List TextCell) (start last : Nat) : Bool :=
  match cells[last]?.map TextCell.ch with
  | none => false
  | some ch =>
    if ch ∈ ['"', '\'', '`', '.', ',', ';', ':', '!', '?'] then true
    else if ch = ')' then !trailingUrlCloserIsBalanced cells start last '(' ')'
    else if ch = ']' then !trailingUrlCloserIsBalanced cells start last '[' ']'
    else if ch = '\x7d' then !trailingUrlCloserIsBalanced cells start last '\x7b' '\x7d'
    else false

def trimUrlEnd (cells : List TextCell) (start : Nat) : Nat → Option CellSpan
  | 0 =>
    if start ≤ 0 && shouldTrimTrailingUrlCell cells start 0 then none
    else if start ≤ 0 then some ⟨start, 0⟩ else none
  | last + 1 =>
    if start ≤ last + 1 && shouldTrimTrailingUrlCell cells start (last + 1) then
      trimUrlEnd cells start last
    else if start ≤ last + 1 then some ⟨start, last + 1⟩ else none

def trimUrlEdges (cells : List TextCell) (span : CellSpan) : Option CellSpan :=
  trimUrlEnd cells span.start span.end

def startsUrl (cells : List TextCell) (start : Nat) : Bool :=
  startsWithChars cells start "http://".toList || startsWithChars cells start "https://".toList

theorem le_urlEnd (cells : List TextCell) (last : Nat) : last ≤ urlEnd cells last := by
  fun_induction urlEnd cells last with
  | case1 last hNext => exact Nat.le_refl last
  | case2 last cell hNext hBlank => exact Nat.le_refl last
  | case3 last cell hNext hBlank ih => omega

def urlSpansFrom (cells : List TextCell) (start : Nat) : List CellSpan :=
  if start < cells.length then
    if startsUrl cells start then
      (trimUrlEdges cells ⟨start, urlEnd cells start⟩).toList ++
        urlSpansFrom cells (urlEnd cells start + 1)
    else urlSpansFrom cells (start + 1)
  else []
termination_by cells.length - start
decreasing_by
  · have hLe := le_urlEnd cells start
    omega
  · omega

def urlSpans (cells : List TextCell) : List CellSpan := urlSpansFrom cells 0

def urlSpanAtColumnFrom (cells : List TextCell) (clickedIdx start : Nat) : Option CellSpan :=
  if start < cells.length then
    if startsUrl cells start then
      if start ≤ clickedIdx ∧ clickedIdx ≤ urlEnd cells start then
        (trimUrlEdges cells ⟨start, urlEnd cells start⟩).filter fun span => span.contains clickedIdx
      else urlSpanAtColumnFrom cells clickedIdx (urlEnd cells start + 1)
    else urlSpanAtColumnFrom cells clickedIdx (start + 1)
  else none
termination_by cells.length - start
decreasing_by
  · have hLe := le_urlEnd cells start
    omega
  · omega

def urlSpanAtColumn (cells : List TextCell) (clickedIdx : Nat) : Option CellSpan :=
  urlSpanAtColumnFrom cells clickedIdx 0

/-- The address that a click on a column opens. -/
def urlAtColumn (row : List Char) (col : Nat) : Option (List Char) :=
  let cells := textCells width row
  (cellIndexAtColumn cells col).bind fun clickedIdx =>
    ((urlSpans cells).find? fun span => span.contains clickedIdx).bind fun span =>
      (slice row (byteIndexForCell row span.start) (byteIndexAfterCell row span.end)).bind
        safeWebUrl

/-- Whether an odd number of backslashes stands before a cell. -/
def isEscaped (cells : List TextCell) (idx : Nat) : Bool :=
  ((cells.take idx).reverse.takeWhile fun cell => cell.ch = '\\').length % 2 = 1

/-- The first quoted text with a slash around the clicked cell, for one kind of quote. -/
def quotedSpanFrom (cells : List TextCell) (clickedIdx : Nat) (quote : Char) :
  Option Nat → List (TextCell × Nat) → Option CellSpan
  | _, [] => none
  | start, (cell, idx) :: rest =>
    if cell.ch ≠ quote ∨ isEscaped cells idx then
      quotedSpanFrom cells clickedIdx quote start rest
    else
      match start with
      | none => quotedSpanFrom cells clickedIdx quote (some idx) rest
      | some opening =>
        if opening < clickedIdx ∧ clickedIdx < idx ∧
            ((cells.take idx).drop (opening + 1)).any (fun cell => cell.ch = '/') then
          some ⟨opening + 1, idx - 1⟩
        else quotedSpanFrom cells clickedIdx quote none rest

def quotedPathSpanAtColumn (cells : List TextCell) (clickedIdx : Nat) : Option CellSpan :=
  cells[clickedIdx]?.bind fun clicked =>
    if clicked.ch ∈ ['"', '\'', '`'] then none
    else ['"', '\'', '`'].findSome? fun quote =>
      quotedSpanFrom cells clickedIdx quote none cells.zipIdx

def isWordSeparator (ch : Char) : Bool :=
  Detect.isWhitespace ch ||
    ch ∈ ['|', '(', ')', '[', ']', '\x7b', '\x7d', ',', ';', '!']

def isLeadingTokenWrapper (ch : Char) : Bool :=
  ch ∈ ['(', '[', '\x7b', '<', '"', '\'', '`']

def isTrailingTokenWrapper (ch : Char) : Bool :=
  ch ∈ [')', ']', '\x7d', '>', '"', '\'', '`', '.', ',', ';', ':', '!', '?']

def charIs (cells : List TextCell) (idx : Nat) (accepts : Char → Bool) : Bool :=
  cells[idx]?.any fun cell => accepts cell.ch

def tokenStart (cells : List TextCell) : Nat → Nat
  | 0 => 0
  | start + 1 => if charIs cells start isWordSeparator then start + 1 else tokenStart cells start

def tokenEnd (cells : List TextCell) (last : Nat) : Nat :=
  match hNext : cells[last + 1]? with
  | none => last
  | some cell => if isWordSeparator cell.ch then last else tokenEnd cells (last + 1)
termination_by cells.length - last
decreasing_by
  have hLt := (List.getElem?_eq_some_iff.1 hNext).1
  omega

def skipLeading (cells : List TextCell) (start last : Nat) : Nat :=
  if start ≤ last ∧ charIs cells start isLeadingTokenWrapper then
    skipLeading cells (start + 1) last
  else start
termination_by last + 1 - start
decreasing_by omega

def skipTrailing (cells : List TextCell) (start : Nat) : Nat → Option CellSpan
  | 0 =>
    if start ≤ 0 ∧ charIs cells 0 isTrailingTokenWrapper then none
    else if start ≤ 0 then some ⟨start, 0⟩ else none
  | last + 1 =>
    if start ≤ last + 1 ∧ charIs cells (last + 1) isTrailingTokenWrapper then
      skipTrailing cells start last
    else if start ≤ last + 1 then some ⟨start, last + 1⟩ else none

def trimTokenEdges (cells : List TextCell) (span : CellSpan) : Option CellSpan :=
  let start := skipLeading cells span.start span.end
  let last :=
    if start < span.end ∧ charIs cells span.end (· = '$') ∧
        charIs cells (span.end - 1) isTrailingTokenWrapper then span.end - 1
    else span.end
  skipTrailing cells start last

def tokenSpanAtColumn (cells : List TextCell) (clickedIdx : Nat) : Option CellSpan :=
  cells[clickedIdx]?.bind fun clicked =>
    if isWordSeparator clicked.ch then none
    else
      (trimTokenEdges cells ⟨tokenStart cells clickedIdx, tokenEnd cells clickedIdx⟩).filter
        fun span => span.contains clickedIdx

/-- What a double click on a cell selects: an address, a quoted path or a token. -/
def wordSpan (cells : List TextCell) (clickedIdx : Nat) : Option CellSpan :=
  (urlSpanAtColumn cells clickedIdx).or
    ((quotedPathSpanAtColumn cells clickedIdx).or (tokenSpanAtColumn cells clickedIdx))

def wordBoundsAtColumn (row : List Char) (col : Nat) : Option (Nat × Nat) :=
  let cells := textCells width row
  (cellIndexAtColumn cells col).bind fun clickedIdx =>
    (wordSpan cells clickedIdx).bind (CellSpan.columns cells)

structure VisibleTextCell where
  byteIndex : Nat
  ch : Char
  logicalCol : Nat
  screenRow : Nat
  screenCol : Nat
  deriving DecidableEq

/-- Where the next character of a text is shown. -/
structure VisiblePosition where
  byteIndex : Nat
  screenRow : Nat
  screenCol : Nat
  logicalCol : Nat
  pendingWrap : Bool
  deriving DecidableEq

/-- Go down a row for every width of the pane that the column exceeds. -/
def wrapColumn (paneWidth : Nat) : Nat → Nat → Nat → Nat × Nat
  | 0, row, col => (row, col)
  | steps + 1, row, col =>
    if paneWidth < col then wrapColumn paneWidth steps (saturatingAdd16 row 1) (col - paneWidth)
    else (row, col)

/-- The row and column of the next character, once a pending wrap is made. -/
def VisiblePosition.place (position : VisiblePosition) : Nat × Nat :=
  if position.pendingWrap then (saturatingAdd16 position.screenRow 1, 0)
  else (position.screenRow, position.screenCol)

/-- A character of the line, and where the next one is shown. -/
def visibleStep (paneWidth : Nat) (position : VisiblePosition) (ch : Char) :
  VisiblePosition × VisibleTextCell :=
  let (row, col) := position.place
  let columns := saturatingAdd16 col (width ch)
  -- each step of the loop takes off at least one column
  let (nextRow, nextCol) := wrapColumn paneWidth columns row columns
  let isFull := 0 < width ch ∧ nextCol = paneWidth
  (⟨position.byteIndex + ch.utf8Size, nextRow, if isFull then paneWidth - 1 else nextCol,
      saturatingAdd16 position.logicalCol (width ch), isFull⟩,
    ⟨position.byteIndex, ch, position.logicalCol, row, col⟩)

def visibleCellsFrom (paneWidth : Nat) (position : VisiblePosition) :
  List Char → List VisibleTextCell
  | [] => []
  | ch :: rest =>
    if ch = '\n' then
      visibleCellsFrom paneWidth
        ⟨position.byteIndex + ch.utf8Size, saturatingAdd16 position.screenRow 1, 0, 0, false⟩ rest
    else
      (visibleStep width paneWidth position ch).2 ::
        visibleCellsFrom paneWidth (visibleStep width paneWidth position ch).1 rest

def visibleTextCells (text : List Char) (paneWidth : Nat) : List VisibleTextCell :=
  if paneWidth = 0 then [] else visibleCellsFrom width paneWidth ⟨0, 0, 0, 0, false⟩ text

/-- Whether a cell of the screen belongs to a character. -/
def VisibleTextCell.covers (cell : VisibleTextCell) (targetRow targetCol : Nat) : Bool :=
  cell.screenRow = targetRow &&
    if width cell.ch = 0 then decide (targetCol = cell.screenCol)
    else decide (cell.screenCol ≤ targetCol ∧
      targetCol < saturatingAdd16 cell.screenCol (width cell.ch))

def logicalCellForVisibleCell (text : List Char) (paneWidth targetRow targetCol : Nat) :
  Option VisibleTextCell :=
  (visibleTextCells width text paneWidth).find? fun cell =>
    VisibleTextCell.covers width cell targetRow targetCol

end Cells

end App
