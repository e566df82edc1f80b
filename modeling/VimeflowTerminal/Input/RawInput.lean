import VimeflowTerminal.Data.Search
import VimeflowTerminal.Data.Utf8
import VimeflowTerminal.Input.Parse

/-! The bytes that a host terminal sends, taken apart: where the first key, mouse
report, paste or reply in a buffer ends, and what it is. -/

namespace Input

open Text Search

/-- A parse finds something or nothing, or it slices a text inside of a character
and panics. -/
inductive Parsed (α : Type) where
  | panicked
  | nothing
  | found (value : α)
  deriving DecidableEq

namespace Parsed

variable {α β : Type}

def ofOption : Option α → Parsed α
  | some value => .found value
  | none => .nothing

def bind (parsed : Parsed α) (next : α → Parsed β) : Parsed β :=
  match parsed with
  | .panicked => .panicked
  | .nothing => .nothing
  | .found value => next value

/-- The second parse where the first one finds nothing. -/
def orElse (first second : Parsed α) : Parsed α :=
  match first with
  | .nothing => second
  | first => first

instance : Monad Parsed where
  pure := .found
  bind := bind

end Parsed

inductive DefaultColorKind where
  | foreground
  | background
  deriving DecidableEq

inductive HostAppearance where
  | dark
  | light
  deriving DecidableEq

structure RgbColor where
  r : UInt8
  g : UInt8
  b : UInt8
  deriving DecidableEq

def hexValue (ch : Char) : Option Nat :=
  if ch.isDigit then some (ch.toNat - '0'.toNat)
  else if 'a' ≤ ch ∧ ch ≤ 'f' then some (ch.toNat - 'a'.toNat + 10)
  else if 'A' ≤ ch ∧ ch ≤ 'F' then some (ch.toNat - 'A'.toNat + 10)
  else none

/-- One to four hexadecimal digits, scaled to a byte. -/
def parseHexComponent (component : List Char) : Option UInt8 := do
  if component.isEmpty || component.length > 4 then none
  else
    let digits ← component.mapM hexValue
    let value := digits.foldl (fun value digit => value * 16 + digit) 0
    let max := 2 ^ (component.length * 4) - 1
    some (UInt8.ofNat ((value * 255 + max / 2) / max))

/-- `hex.len()`. -/
def byteLength (text : List Char) : Nat := (text.map Char.utf8Size).sum

/-- Slice at a byte offset, which has to be between characters. -/
def splitAtByte (text : List Char) (offset : Nat) : Parsed (List Char × List Char) :=
  match text with
  | [] => if offset = 0 then .found ([], []) else .panicked
  | ch :: rest =>
    if offset = 0 then .found ([], ch :: rest)
    else if offset < ch.utf8Size then .panicked
    else do
      let (before, after) ← splitAtByte rest (offset - ch.utf8Size)
      pure (ch :: before, after)

def parseRgbColor (value : List Char) : Parsed RgbColor :=
  match stripPrefixList "rgb:".toList value with
  | some rgb =>
    match rgb.splitOn '/' with
    | [red, green, blue] => .ofOption do
        let r ← parseHexComponent red
        let g ← parseHexComponent green
        let b ← parseHexComponent blue
        some { r, g, b }
    | _ => .nothing
  | none =>
    match stripPrefixList ['#'] value with
    | none => .nothing
    | some hex =>
      let digits := byteLength hex / 3
      if digits = 0 ∨ 4 < digits ∨ byteLength hex ≠ digits * 3 then .nothing
      else do
        let (red, rest) ← splitAtByte hex digits
        let r ← .ofOption (parseHexComponent red)
        let (green, blue) ← splitAtByte rest digits
        let g ← .ofOption (parseHexComponent green)
        let b ← .ofOption (parseHexComponent blue)
        pure { r, g, b }

/-- What stands before the end of a control string. -/
def stripStringEnd (body : List Char) : Option (List Char) :=
  (stripSuffixList "\x1b\\".toList body).or (stripSuffixList ['\x07'] body)

def parseDefaultColorResponse (sequence : List Char) : Parsed (DefaultColorKind × RgbColor) := do
  let body ← .ofOption ((stripPrefixList "\x1b]".toList sequence).bind stripStringEnd)
  let (command, value) ← .ofOption (splitOnceList ';' body)
  if command = "10".toList then do
    let color ← parseRgbColor value
    pure (.foreground, color)
  else if command = "11".toList then do
    let color ← parseRgbColor value
    pure (.background, color)
  else .nothing

def parsePaletteColorResponse (sequence : List Char) : Parsed (Nat × RgbColor) := do
  let body ← .ofOption ((stripPrefixList "\x1b]4;".toList sequence).bind stripStringEnd)
  let (index, value) ← .ofOption (splitOnceList ';' body)
  let index ← .ofOption (parseNumber u8Limit index)
  let color ← parseRgbColor value
  pure (index, color)

/-- The dark report of the host's colour scheme. -/
def ghosttyColorSchemeDarkReport : List Char := "\x1b[?997;1n".toList

def ghosttyColorSchemeLightReport : List Char := "\x1b[?997;2n".toList

def parseHostColorSchemeReport (sequence : List Char) : Option HostAppearance :=
  if sequence = ghosttyColorSchemeDarkReport then some .dark
  else if sequence = ghosttyColorSchemeLightReport then some .light
  else none

/-- The form `CSI 6 ; height ; width t`, which gives the height first. -/
def parseHostCellSizeReport (sequence : List Char) : Option (Nat × Nat) := do
  let text ← (stripPrefixList "\x1b[".toList sequence).bind (stripSuffixList ['t'])
  match text.splitOn ';' with
  | [six, height, width] => do
    let heightPx ← parseNumber u32Limit height
    let widthPx ← parseNumber u32Limit width
    if six ≠ ['6'] ∨ widthPx = 0 ∨ heightPx = 0 then none else some (widthPx, heightPx)
  | _ => none

inductive MouseButton where
  | left
  | middle
  | right
  deriving DecidableEq

inductive MouseEventKind where
  | down (button : MouseButton)
  | up (button : MouseButton)
  | drag (button : MouseButton)
  | moved
  | scrollUp
  | scrollDown
  | scrollLeft
  | scrollRight
  deriving DecidableEq

structure MouseEvent where
  kind : MouseEventKind
  column : Nat
  row : Nat
  modifiers : KeyModifiers
  deriving DecidableEq

def parseMouseCb (cb : Nat) : Option (MouseEventKind × KeyModifiers) := do
  let buttonNumber := (cb &&& 3) ||| ((cb &&& 192) >>> 4)
  let dragging := cb &&& 32 = 32
  let kind ←
    match buttonNumber, decide dragging with
    | 0, false => some (.down .left)
    | 1, false => some (.down .middle)
    | 2, false => some (.down .right)
    | 0, true => some (.drag .left)
    | 1, true => some (.drag .middle)
    | 2, true => some (.drag .right)
    | 3, false => some (.up .left)
    -- A drag of another button is kept as a motion.
    | 3, true | 4, true | 5, true | 8, true | 9, true => some .moved
    | 4, false => some .scrollUp
    | 5, false => some .scrollDown
    | 6, false => some .scrollLeft
    | 7, false => some .scrollRight
    | _, _ => none
  some (kind, { KeyModifiers.empty with
    shift := cb.testBit 2, alt := cb.testBit 3, control := cb.testBit 4 })

/-- A release names the button as a press does. -/
def releasedKind : MouseEventKind → MouseEventKind
  | .down button => .up button
  | kind => kind

/-- The form `CSI < cb ; column ; row M`, or `m` for a release. -/
def parseSgrMouse (sequence : List Char) : Option MouseEvent := do
  let body ← stripPrefixList "\x1b[<".toList sequence
  let finalChar ← body.getLast?
  if finalChar ≠ 'M' ∧ finalChar ≠ 'm' then none
  else
    let parts := body.dropLast.splitOn ';'
    let cb ← (parts[0]?).bind (parseNumber u8Limit)
    let column ← ((parts[1]?).bind (parseNumber u16Limit)).bind checkedPred
    let row ← ((parts[2]?).bind (parseNumber u16Limit)).bind checkedPred
    let (kind, modifiers) ← parseMouseCb cb
    let kind := if finalChar = 'm' then releasedKind kind else kind
    some { kind, column, row, modifiers }

def ESC : UInt8 := 0x1b

/-- The bytes of a text that is ASCII. -/
def ascii (text : String) : List UInt8 := text.toList.map fun ch => UInt8.ofNat ch.toNat

def bracketedPasteStart : List UInt8 := ascii "\x1b[200~"

def bracketedPasteEnd : List UInt8 := ascii "\x1b[201~"

inductive ControlStringFamily where
  | osc
  | stTerminated
  | hostReplyCsi
  | orphanedSgrMouseTail
  deriving DecidableEq

def stStringTerminator (buffer : List UInt8) : Option Nat :=
  (findSubsequence (ascii "\x1b\\") buffer).map (· + 2)

/-- The end at the first byte of some kind. -/
def firstByteEnd (isEnd : UInt8 → Bool) (buffer : List UInt8) : Option Nat :=
  (buffer.findIdx? isEnd).map (· + 1)

def earlierEnd : Option Nat → Option Nat → Option Nat
  | some st, some bel => some (min st bel)
  | some st, none => some st
  | none, some bel => some bel
  | none, none => none

def isBel (byte : UInt8) : Bool := byte = 7

def oscStringTerminator (buffer : List UInt8) : Option Nat :=
  earlierEnd (stStringTerminator buffer) (firstByteEnd isBel buffer)

def isMouseFinal (byte : UInt8) : Bool := byte = 0x4d || byte = 0x6d

def controlStringTerminatorForFamily (buffer : List UInt8) : ControlStringFamily → Option Nat
  | .osc => oscStringTerminator buffer
  | .stTerminated => stStringTerminator buffer
  | .hostReplyCsi => none
  | .orphanedSgrMouseTail => firstByteEnd isMouseFinal buffer

/-- The family of the control string that the buffer starts with. -/
def controlStringFamily (buffer : List UInt8) : Option ControlStringFamily :=
  if ascii "\x1b]" <+: buffer then some .osc
  else if ascii "\x1bP" <+: buffer ∨ ascii "\x1b_" <+: buffer ∨ ascii "\x1b^" <+: buffer ∨
      ascii "\x1bX" <+: buffer then some .stTerminated
  else none

/-- The bytes that end a control sequence, from `@` to the tilde. -/
def isCsiFinal (byte : UInt8) : Bool := 0x40 ≤ byte && byte ≤ 0x7e

def findCsiFinal (buffer : List UInt8) (finals : UInt8 → Bool) : Option Nat :=
  ((buffer.drop 2).findIdx? finals).map (· + 3)

def utf8CharWidth (first : UInt8) : Option Nat :=
  if first < 0x80 then some 1
  else if first &&& 0xe0 = 0xc0 then some 2
  else if first &&& 0xf0 = 0xe0 then some 3
  else if first &&& 0xf8 = 0xf0 then some 4
  else none

def firstCompleteUtf8CharLen (buffer : List UInt8) : Option Nat := do
  let first ← buffer.head?
  let width ← utf8CharWidth first
  if buffer.length < width then none
  else
    let _ ← Utf8.decode (buffer.take width)
    some width

/-- Whether a mouse report follows: `none` is no answer, an inner `none` a sequence
that is no text. -/
def mouseAnswer (bytes : List UInt8) : Option (Option Nat) :=
  match Utf8.decode bytes with
  | none => some none
  | some mouseSequence => if (parseSgrMouse mouseSequence).isSome then some (some 1) else none

/-- Whether the first of two escapes stands alone, because a mouse report follows. -/
def escapeBeforeMouse (buffer : List UInt8) : Option (Option Nat) :=
  if ascii "\x1b\x1b[<" <+: buffer then
    (findCsiFinal buffer.tail isMouseFinal).bind fun mouseLen =>
      mouseAnswer (buffer.tail.take mouseLen)
  else none

/-- The end of a sequence that starts with one escape. -/
def singleEscapeSequenceLen (buffer : List UInt8) : Option Nat :=
  if ascii "\x1b[" <+: buffer then
    if ascii "\x1b[<" <+: buffer then findCsiFinal buffer isMouseFinal
    else findCsiFinal buffer isCsiFinal
  else
    match controlStringFamily buffer with
    | some family => controlStringTerminatorForFamily buffer family
    | none =>
      if ascii "\x1bO" <+: buffer then if 3 ≤ buffer.length then some 3 else none
      else (firstCompleteUtf8CharLen buffer.tail).map (1 + ·)

def completeEscapeSequenceLen : List UInt8 → Option Nat
  | [] => none
  | first :: rest =>
    if rest = [] then none
    else
      match escapeBeforeMouse (first :: rest) with
      | some len => len
      | none =>
        if ascii "\x1b\x1b" <+: first :: rest then (completeEscapeSequenceLen rest).map (· + 1)
        else singleEscapeSequenceLen (first :: rest)

inductive RawInputEvent where
  | text (commit : List Char)
  | key (key : TerminalKey)
  | paste (content : List Char)
  | mouse (event : MouseEvent)
  | outerFocusGained
  | outerFocusLost
  | hostDefaultColor (kind : DefaultColorKind) (color : RgbColor)
  | hostPaletteColors (colors : List (Nat × RgbColor))
  | hostColorSchemeChanged (appearance : HostAppearance)
  | hostCellSizeReport (widthPx heightPx : Nat)
  | unsupported
  deriving DecidableEq

/-- The event of a complete escape sequence. -/
def escapeSequenceEvent (bytes : List UInt8) (sequence : List Char) : Parsed RawInputEvent :=
  Parsed.orElse (do
    let (kind, color) ← parseDefaultColorResponse sequence
    pure (.hostDefaultColor kind color)) <|
  Parsed.orElse (do
    let color ← parsePaletteColorResponse sequence
    pure (.hostPaletteColors [color])) <|
  if sequence = "\x1b[I".toList then .found .outerFocusGained
  else if sequence = "\x1b[O".toList then .found .outerFocusLost
  else
    match parseHostColorSchemeReport sequence with
    | some appearance => .found (.hostColorSchemeChanged appearance)
    | none =>
      match parseHostCellSizeReport sequence with
      | some (widthPx, heightPx) => .found (.hostCellSizeReport widthPx heightPx)
      | none =>
        match parseSgrMouse sequence with
        | some mouse => .found (.mouse mouse)
        | none =>
          match parseTerminalKeySequence sequence with
          | some key => .found (.key (key.withVtBytes bytes))
          | none => .found .unsupported

/-- The event of one character. -/
def characterEvent (isUppercase : Char → Bool) (bytes : List UInt8) (text : List Char) :
  Parsed RawInputEvent := do
  let key ← .ofOption (parseTerminalKeySequence text)
  pure (.key ((key.withTextCommit isUppercase).withVtBytes bytes))

/-- How far the first event in the buffer goes, if it is all there. -/
def firstEventLen (buffer : List UInt8) : Option Nat :=
  if bracketedPasteStart <+: buffer then
    (findSubsequence bracketedPasteEnd buffer).map (· + bracketedPasteEnd.length)
  else if buffer.head? = some ESC then completeEscapeSequenceLen buffer
  else firstCompleteUtf8CharLen buffer

/-- The event that such bytes are. -/
def eventOfBytes (isUppercase : Char → Bool) (bytes : List UInt8) : Parsed RawInputEvent := do
  if bracketedPasteStart <+: bytes then
    let inner := (bytes.drop bracketedPasteStart.length).take
      (bytes.length - bracketedPasteEnd.length - bracketedPasteStart.length)
    let content ← .ofOption (Utf8.decode inner)
    pure (.paste content)
  else
    let text ← .ofOption (Utf8.decode bytes)
    if bytes.head? = some ESC then escapeSequenceEvent bytes text
    else characterEvent isUppercase bytes text

/-- The first event in the buffer with its length. -/
def extractOneEvent (isUppercase : Char → Bool) (buffer : List UInt8) :
  Parsed (RawInputEvent × Nat) := do
  let consumed ← .ofOption (firstEventLen buffer)
  let event ← eventOfBytes isUppercase (buffer.take consumed)
  pure (event, consumed)

end Input
