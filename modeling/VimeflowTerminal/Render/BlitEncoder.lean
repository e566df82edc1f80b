import VimeflowTerminal.Data.Utf8

/-! Frames as terminal bytes. The first frame, and a frame of another size, is
written cell by cell; any other is compared with the frame before it and only
the cells that changed are written. What is written is kept as the list of the
writes. How many columns a symbol takes is a parameter. -/

namespace Render

structure CellData where
  symbol : String
  fg : UInt32
  bg : UInt32
  modifier : UInt16
  skip : Bool
  hyperlink : Option Nat
  deriving DecidableEq, Repr, Inhabited

structure CursorState where
  x : Nat
  y : Nat
  visible : Bool
  shape : Nat
  deriving DecidableEq

structure FrameData where
  cells : List CellData
  width : Nat
  height : Nat
  cursor : Option CursorState
  hyperlinks : List String
  graphics : List UInt8
  deriving DecidableEq

/-- `cells[row * width + col]`. -/
def FrameData.cell (frame : FrameData) (row col : Nat) : CellData :=
  frame.cells[row * frame.width + col]!

def cellHyperlinkUri (frame : FrameData) (cell : CellData) : Option String := do
  let index ← cell.hyperlink
  frame.hyperlinks[index]?

def sanitizedHyperlinkUri (uri : String) : Option String :=
  let sanitized := String.ofList
    (uri.toList.filter fun ch => ch != '\x1b' && ch != '\x07' && !Utf8.isControl ch)
  if sanitized.isEmpty then none else some sanitized

def sanitizedFrameHyperlinks (frame : FrameData) : List (Option String) :=
  frame.hyperlinks.map sanitizedHyperlinkUri

def sanitizedCellHyperlinkUri (sanitizedHyperlinks : List (Option String)) (cell : CellData) :
  Option String := do
  let index ← cell.hyperlink
  (sanitizedHyperlinks[index]?).join

theorem sanitizedCellHyperlinkUri_frame (frame : FrameData) (cell : CellData) :
  sanitizedCellHyperlinkUri (sanitizedFrameHyperlinks frame) cell =
    (cellHyperlinkUri frame cell).bind sanitizedHyperlinkUri := by
  unfold sanitizedCellHyperlinkUri cellHyperlinkUri sanitizedFrameHyperlinks
  cases hLink : cell.hyperlink with
  | none => rfl
  | some index =>
    cases hUri : frame.hyperlinks[index]? <;> simp [hUri]

/-- A link that is sent holds no character that could end its sequence. -/
theorem sanitizedHyperlinkUri_spec {uri sanitized : String}
  (hSome : sanitizedHyperlinkUri uri = some sanitized) :
  sanitized.toList ≠ [] ∧
    ∀ ch ∈ sanitized.toList, (ch != '\x1b' && ch != '\x07') = true := by
  unfold sanitizedHyperlinkUri at hSome
  simp only at hSome
  split at hSome
  · cases hSome
  rename_i hNonempty
  cases hSome
  refine ⟨?_, ?_⟩
  · intro hNil
    refine hNonempty ?_
    rw [String.isEmpty_iff, ← String.toList_inj]
    exact hNil
  · intro ch hMem
    rw [String.toList_ofList, List.mem_filter, Bool.and_eq_true] at hMem
    exact hMem.2.1

section WellFormed

variable (symbolWidth : String → Nat)

def cellWidth (cell : CellData) : Nat := symbolWidth cell.symbol

/-- The cell lies under the second column of the symbol before it. -/
def FrameData.continuation (frame : FrameData) (row : Nat) : Nat → Bool
  | 0 => false
  | col + 1 => cellWidth symbolWidth (frame.cell row col) == 2

/-- Every symbol is one column wide, or two columns wide and followed by a
continuation cell in the same row. -/
structure FrameData.WellFormed (frame : FrameData) : Prop where
  length_cells : frame.cells.length = frame.width * frame.height
  symbols : ∀ row < frame.height, ∀ col < frame.width,
    cellWidth symbolWidth (frame.cell row col) = 1 ∨
    cellWidth symbolWidth (frame.cell row col) = 2 ∧ col + 1 < frame.width ∧
      cellWidth symbolWidth (frame.cell row (col + 1)) ≤ 1 ∨
    cellWidth symbolWidth (frame.cell row col) = 0 ∧ frame.continuation symbolWidth row col = true

/-- No cell is marked as not to be drawn, save under a wide symbol. -/
def FrameData.Unskipped (frame : FrameData) : Prop :=
  ∀ row < frame.height, ∀ col < frame.width,
    frame.continuation symbolWidth row col = false → (frame.cell row col).skip = false

variable {symbolWidth} {frame : FrameData} {row col : Nat}

theorem FrameData.WellFormed.width_le (hFrame : frame.WellFormed symbolWidth)
  (hRow : row < frame.height) (hCol : col < frame.width) :
  cellWidth symbolWidth (frame.cell row col) ≤ 2 := by
  rcases hFrame.symbols row hRow col hCol with hOne | ⟨hTwo, -⟩ | ⟨hZero, -⟩ <;> omega

theorem FrameData.WellFormed.wide (hFrame : frame.WellFormed symbolWidth)
  (hRow : row < frame.height) (hCol : col < frame.width)
  (hWide : cellWidth symbolWidth (frame.cell row col) = 2) :
  col + 1 < frame.width ∧ cellWidth symbolWidth (frame.cell row (col + 1)) ≤ 1 := by
  rcases hFrame.symbols row hRow col hCol with hOne | ⟨-, hNext⟩ | ⟨hZero, -⟩
  · omega
  · exact hNext
  · omega

end WellFormed

/-- One write: a control sequence, the symbol of a cell, or the graphics of a
frame. The bytes sent are those of the writes one after the other. -/
inductive Output where
  | control (sequence : String)
  | symbol (text : String)
  | graphics (bytes : List UInt8)
  deriving DecidableEq

def reversedModifier : UInt16 := 0x40

/-- Without the leading `ESC [` and the trailing `m`. -/
def colorToSgrFg (val : UInt32) : String :=
  match (val >>> 24).toNat with
  | 0x00 =>
    match (val &&& 0xFF).toNat with
    | 0x00 => "39"
    | 0x01 => "30"
    | 0x02 => "31"
    | 0x03 => "32"
    | 0x04 => "33"
    | 0x05 => "34"
    | 0x06 => "35"
    | 0x07 => "36"
    | 0x08 => "37"
    | 0x09 => "90"
    | 0x0A => "91"
    | 0x0B => "92"
    | 0x0C => "93"
    | 0x0D => "94"
    | 0x0E => "95"
    | 0x0F => "96"
    | 0x10 => "97"
    | _ => "39"
  | 0x01 =>
    let index := (val &&& 0xFF).toNat
    s!"38;5;{index}"
  | 0x02 =>
    let r := ((val >>> 16) &&& 0xFF).toNat
    let g := ((val >>> 8) &&& 0xFF).toNat
    let b := (val &&& 0xFF).toNat
    s!"38;2;{r};{g};{b}"
  | _ => "39"

def colorToSgrBg (val : UInt32) : String :=
  match (val >>> 24).toNat with
  | 0x00 =>
    match (val &&& 0xFF).toNat with
    | 0x00 => "49"
    | 0x01 => "40"
    | 0x02 => "41"
    | 0x03 => "42"
    | 0x04 => "43"
    | 0x05 => "44"
    | 0x06 => "45"
    | 0x07 => "46"
    | 0x08 => "47"
    | 0x09 => "100"
    | 0x0A => "101"
    | 0x0B => "102"
    | 0x0C => "103"
    | 0x0D => "104"
    | 0x0E => "105"
    | 0x0F => "106"
    | 0x10 => "107"
    | _ => "49"
  | 0x01 =>
    let index := (val &&& 0xFF).toNat
    s!"48;5;{index}"
  | 0x02 =>
    let r := ((val >>> 16) &&& 0xFF).toNat
    let g := ((val >>> 8) &&& 0xFF).toNat
    let b := (val &&& 0xFF).toNat
    s!"48;2;{r};{g};{b}"
  | _ => "49"

def underlineStyleFromModifier (modifier : UInt16) : Nat :=
  ((modifier &&& 0xF000) >>> 12).toNat

def modifierToSgrParts (val : UInt16) : List String :=
  let part (bit : UInt16) (text : String) : List String := if val &&& bit != 0 then [text] else []
  let underlined :=
    match underlineStyleFromModifier val with
    | 2 => "4:2"
    | 3 => "4:3"
    | 4 => "4:4"
    | 5 => "4:5"
    | _ => "4"
  part 0x01 "1" ++ part 0x02 "2" ++ part 0x04 "3" ++ part 0x08 underlined ++ part 0x10 "5" ++
    part 0x20 "6" ++ part reversedModifier "7" ++ part 0x80 "8" ++ part 0x100 "9"

/-- The parameters of the style of a cell. The leading `0` drops every style set before. -/
def sgrParts (fg bg : UInt32) (modifier : UInt16) : List String :=
  "0" :: (modifierToSgrParts modifier ++ [colorToSgrFg fg, colorToSgrBg bg])

def buildSgr (fg bg : UInt32) (modifier : UInt16) : String :=
  "\x1b[" ++ String.intercalate ";" (sgrParts fg bg modifier) ++ "m"

def writeHyperlinkIfChanged (active requested : Option String) : Option String × List Output :=
  let requested := requested.bind sanitizedHyperlinkUri
  if active = requested then (active, [])
  else
    let closed := if active.isSome then [.control "\x1b]8;;\x1b\\"] else []
    let opened :=
      match requested with
      | some uri => [.control s!"\x1b]8;;{uri}\x1b\\"]
      | none => []
    (requested, closed ++ opened)

def closeHyperlink (active : Option String) : List Output :=
  if active.isSome then [.control "\x1b]8;;\x1b\\"] else []

/-- Columns and rows are counted from 1 in the sequence. -/
def writeCursorPosition (position : Nat × Nat) : Output :=
  .control s!"\x1b[{position.2 + 1};{position.1 + 1}H"

section Cells

variable (symbolWidth : String → Nat)

structure AllCellsScan where
  toSkip : Nat
  activeHyperlink : Option String
  written : List Output

def writeAllCellsStep (frame : FrameData) (row : Nat) (s : AllCellsScan) (col : Nat) :
  AllCellsScan :=
  if 0 < s.toSkip then { s with toSkip := s.toSkip - 1 }
  else
    let cell := frame.cell row col
    if cell.skip then s
    else
      let sgr := buildSgr cell.fg cell.bg cell.modifier
      let link := writeHyperlinkIfChanged s.activeHyperlink (cellHyperlinkUri frame cell)
      { toSkip := cellWidth symbolWidth cell - 1
        activeHyperlink := link.1
        written := s.written ++ ([writeCursorPosition (col, row)] ++ [.control sgr] ++ link.2 ++
          [.symbol cell.symbol]) }

def writeAllCellsRow (frame : FrameData) (s : AllCellsScan) (row : Nat) : AllCellsScan :=
  (List.range frame.width).foldl (writeAllCellsStep symbolWidth frame row) { s with toSkip := 0 }

def writeAllCells (frame : FrameData) : List Output :=
  let s := (List.range frame.height).foldl (writeAllCellsRow symbolWidth frame) ⟨0, none, []⟩
  s.written ++ closeHyperlink s.activeHyperlink ++ [.control "\x1b[0m"]

/-- The style and the link that are in force. -/
structure Pen where
  lastSgr : String
  activeHyperlink : Option String

def writeCell (cursorPosition : Option (Nat × Nat)) (cell : CellData) (pen : Pen)
  (frame : FrameData) : Pen × List Output :=
  if cell.skip then (pen, [])
  else
    let moved := cursorPosition.toList.map writeCursorPosition
    let sgr := buildSgr cell.fg cell.bg cell.modifier
    let styled := if sgr ≠ pen.lastSgr then [.control sgr] else []
    let link := writeHyperlinkIfChanged pen.activeHyperlink (cellHyperlinkUri frame cell)
    (⟨sgr, link.1⟩, moved ++ styled ++ link.2 ++ [.symbol cell.symbol])

/-- The mark that a cell is not to be drawn is not compared. -/
def cellsVisuallyEqual (sanitizedHyperlinks : List (Option String)) (cell : CellData)
  (prevSanitizedHyperlinks : List (Option String)) (prevCell : CellData) : Bool :=
  cell.symbol == prevCell.symbol && cell.fg == prevCell.fg && cell.bg == prevCell.bg &&
    cell.modifier == prevCell.modifier &&
    sanitizedCellHyperlinkUri sanitizedHyperlinks cell ==
      sanitizedCellHyperlinkUri prevSanitizedHyperlinks prevCell

def isAscii (text : String) : Bool := text.toList.all fun ch => ch.toNat < 0x80

structure ChangedScan where
  invalidated : Nat
  toSkip : Nat
  nextInlineCol : Option Nat
  pen : Pen
  written : List Output

/-- The cell is to be written: it differs from the one before it, or the symbol
that stood over it is gone, and no symbol just written covers it. -/
def cellToWrite (frame prev : FrameData) (row : Nat) (s : ChangedScan) (col : Nat) : Bool :=
  let cell := frame.cell row col
  let prevCell := prev.cells[row * frame.width + col]!
  !cell.skip &&
    (!cellsVisuallyEqual (sanitizedFrameHyperlinks frame) cell
      (sanitizedFrameHyperlinks prev) prevCell || decide (0 < s.invalidated)) &&
    s.toSkip == 0

def writeChangedCell (frame : FrameData) (row : Nat) (s : ChangedScan) (col : Nat) : ChangedScan :=
  let cell := frame.cell row col
  let cursorPosition :=
    if s.nextInlineCol ≠ some col ∨ 0 < s.invalidated then some (col, row) else none
  let cellWrites := writeCell cursorPosition cell s.pen frame
  { s with
    pen := cellWrites.1
    written := s.written ++ cellWrites.2
    -- columns are below 65535, so the saturating addition is exact
    nextInlineCol :=
      if isAscii cell.symbol && cellWidth symbolWidth cell == 1 then some (col + 1) else none }

def writeChangedStep (frame prev : FrameData) (row : Nat) (s : ChangedScan) (col : Nat) :
  ChangedScan :=
  let cell := frame.cell row col
  let prevCell := prev.cells[row * frame.width + col]!
  let affectedWidth := max (cellWidth symbolWidth cell) (cellWidth symbolWidth prevCell)
  let drawn :=
    if cellToWrite frame prev row s col then writeChangedCell symbolWidth frame row s col else s
  { drawn with
    toSkip := cellWidth symbolWidth cell - 1
    invalidated := max affectedWidth s.invalidated - 1 }

def writeChangedRow (frame prev : FrameData) (s : ChangedScan) (row : Nat) : ChangedScan :=
  (List.range frame.width).foldl (writeChangedStep symbolWidth frame prev row)
    { s with invalidated := 0, toSkip := 0, nextInlineCol := none }

def writeChangedCells (frame prev : FrameData) : List Output :=
  let s := (List.range frame.height).foldl (writeChangedRow symbolWidth frame prev)
    ⟨0, 0, none, ⟨"", none⟩, []⟩
  s.written ++ closeHyperlink s.pen.activeHyperlink ++
    if s.pen.lastSgr.isEmpty then [] else [.control "\x1b[0m"]

end Cells

structure HostCursorState where
  position : Nat × Nat
  visible : Bool
  shape : Nat
  deriving DecidableEq

def normalizeCursorShape (shape : Nat) : Nat := if shape ≤ 6 then shape else 0

def defaultHiddenCursorPosition (frame : FrameData) : Nat × Nat :=
  (frame.width - 1, frame.height - 1)

def clampCursorPosition (frame : FrameData) (x y : Nat) : Nat × Nat :=
  (min x (frame.width - 1), min y (frame.height - 1))

/-- The host cursor, and the last position at which one was visible. A frame
without a cursor parks it there. -/
def resolveHostCursorState (frame : FrameData) (lastVisibleCursor : Option (Nat × Nat)) :
  HostCursorState × Option (Nat × Nat) :=
  match frame.cursor with
  | some cursor =>
    let position := clampCursorPosition frame cursor.x cursor.y
    if cursor.visible then
      (⟨position, true, normalizeCursorShape cursor.shape⟩, some position)
    else (⟨position, false, normalizeCursorShape cursor.shape⟩, lastVisibleCursor)
  | none =>
    let position :=
      match lastVisibleCursor with
      | some (x, y) => clampCursorPosition frame x y
      | none => defaultHiddenCursorPosition frame
    (⟨position, false, 0⟩, lastVisibleCursor)

def writeCursorVisibility (visible : Bool) : Output :=
  if visible then .control "\x1b[?25h" else .control "\x1b[?25l"

/-- The shape is written only when it is not the last one. -/
def writeHostCursorState (cursor : HostCursorState) (lastShape : Nat) : Nat × List Output :=
  let shaped := if cursor.shape ≠ lastShape then [.control s!"\x1b[{cursor.shape} q"] else []
  (cursor.shape, [writeCursorPosition cursor.position] ++ shaped ++
    [writeCursorVisibility cursor.visible])

def writeImeAnchorCursorState (cursor : HostCursorState) : List Output :=
  [writeCursorPosition cursor.position, writeCursorVisibility cursor.visible]

structure EncodedBlit where
  bytes : List Output
  full : Bool
  nextLastVisibleCursor : Option (Nat × Nat)
  nextLastCursorShape : Nat
  deriving DecidableEq

structure BlitEncoder where
  lastFrame : Option FrameData
  lastVisibleCursor : Option (Nat × Nat)
  lastCursorShape : Nat
  deriving DecidableEq

def syncOutputEnd : Output := .control "\x1b[?2026l"

/-- Where the writes last end the synchronized output. -/
def finalSyncOutputEnd (outputs : List Output) : Option Nat :=
  (List.range outputs.length).reverse.find? fun i => outputs[i]? == some syncOutputEnd

section Encoder

-- whether the cursor is placed again after the frame depends on the platform
variable (symbolWidth : String → Nat) (repeatImeAnchor : Bool)

/-- The frame has no previous frame of its own size to be compared with. -/
def sizeChanged (frame : FrameData) : Option FrameData → Bool
  | none => true
  | some prev => prev.width != frame.width || prev.height != frame.height

def writeCells (frame : FrameData) (prev : Option FrameData) (clearBeforeFullRedraw : Bool) :
  List Output :=
  let cleared : List Output := if clearBeforeFullRedraw then [.control "\x1b[2J"] else []
  match prev with
  | some old =>
    if sizeChanged frame (some old) then cleared ++ writeAllCells symbolWidth frame
    else writeChangedCells symbolWidth frame old
  | none => cleared ++ writeAllCells symbolWidth frame

def hostCursor (frame : FrameData) (lastVisibleCursor : Option (Nat × Nat))
  (suppressVisibleCursor : Bool) : HostCursorState :=
  let cursor := (resolveHostCursorState frame lastVisibleCursor).1
  { cursor with visible := cursor.visible && !suppressVisibleCursor }

/-- `blit_frame_to_with_cursor_memory_and_clear_policy`. -/
def blitFrame (frame : FrameData) (prev : Option FrameData) (lastVisibleCursor : Option (Nat × Nat))
  (lastCursorShape : Nat) (clearBeforeFullRedraw suppressVisibleCursor : Bool) : EncodedBlit :=
  let cursor := hostCursor frame lastVisibleCursor suppressVisibleCursor
  let cursorWrites := writeHostCursorState cursor lastCursorShape
  { bytes := [.control "\x1b[?2026h", .control "\x1b[?25l", .control "\x1b]8;;\x1b\\"] ++
      writeCells symbolWidth frame prev clearBeforeFullRedraw ++ cursorWrites.2 ++
      [syncOutputEnd] ++ if repeatImeAnchor then writeImeAnchorCursorState cursor else []
    full := sizeChanged frame prev
    nextLastVisibleCursor := (resolveHostCursorState frame lastVisibleCursor).2
    nextLastCursorShape := cursorWrites.1 }

namespace BlitEncoder

def new : BlitEncoder := ⟨none, none, 0⟩

def encodeInner (encoder : BlitEncoder) (frame : FrameData) (repaint suppressVisibleCursor : Bool) :
  EncodedBlit :=
  let prev := if repaint then none else encoder.lastFrame
  let full := repaint || sizeChanged frame prev
  let clearBeforeFullRedraw := encoder.lastFrame.isNone
  { blitFrame symbolWidth repeatImeAnchor frame prev encoder.lastVisibleCursor
      encoder.lastCursorShape clearBeforeFullRedraw suppressVisibleCursor with full := full }

def encode (encoder : BlitEncoder) (frame : FrameData) (repaint : Bool) : EncodedBlit :=
  encoder.encodeInner symbolWidth repeatImeAnchor frame repaint false

def commit (_encoder : BlitEncoder) (frame : FrameData) (encoded : EncodedBlit) : BlitEncoder where
  lastVisibleCursor := encoded.nextLastVisibleCursor
  lastCursorShape := encoded.nextLastCursorShape
  lastFrame := some frame

def isCurrent (encoder : BlitEncoder) (frame : FrameData) : Bool :=
  encoder.lastFrame == some frame

end BlitEncoder

end Encoder

end Render
