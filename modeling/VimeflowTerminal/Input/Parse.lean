import VimeflowTerminal.Data.Text
import VimeflowTerminal.Input.Key

/-! How a key is read from one complete sequence of a host terminal: the CSI u
form, the modify-other-keys form and the older forms. -/

namespace Input

open Text

def u8Limit : Nat := 2 ^ 8

def u16Limit : Nat := 2 ^ 16

def u32Limit : Nat := 2 ^ 32

/-- `text.parse::<T>().ok()` for an unsigned type of the given limit. -/
def parseNumber (limit : Nat) (text : List Char) : Option Nat :=
  parseUnsigned limit (String.ofList text)

def checkedPred (number : Nat) : Option Nat := if number = 0 then none else some (number - 1)

def keyModifiersFromU8 (modifier : Nat) : KeyModifiers where
  shift := modifier.testBit 0
  alt := modifier.testBit 1
  control := modifier.testBit 2
  super := modifier.testBit 3
  hyper := modifier.testBit 4
  «meta» := modifier.testBit 5

def splitModifierAndEvent (input : List Char) : List Char × Option (List Char) :=
  match splitOnceList ':' input with
  | some (modifier, event) => if modifier.isEmpty then (input, none) else (modifier, some event)
  | none => (input, none)

def parseKittyEventType (value : Option (List Char)) : Option KeyEventKind :=
  match value.getD ['1'] with
  | ['1'] => some .press
  | ['2'] => some .repeat
  | ['3'] => some .release
  | _ => none

def isKittyFunctionalCodepoint (codepoint : Nat) : Bool :=
  57358 ≤ codepoint && codepoint ≤ 57454

/-- The keys with a fixed code of their own. -/
def kittyFunctionalKeys : List (Nat × KeyCode) :=
  [(8, .backspace), (127, .backspace), (9, .tab), (13, .enter), (57414, .enter), (27, .esc),
    (57358, .capsLock), (57359, .scrollLock), (57360, .numLock), (57361, .printScreen),
    (57362, .pause), (57363, .menu), (57399, .char '0'), (57400, .char '1'), (57401, .char '2'),
    (57402, .char '3'), (57403, .char '4'), (57404, .char '5'), (57405, .char '6'),
    (57406, .char '7'), (57407, .char '8'), (57408, .char '9'), (57409, .char '.'),
    (57410, .char '/'), (57411, .char '*'), (57412, .char '-'), (57413, .char '+'),
    (57415, .char '='), (57416, .char ','), (57417, .left), (57418, .right), (57419, .up),
    (57420, .down), (57421, .pageUp), (57422, .pageDown), (57423, .home), (57424, .«end»),
    (57425, .insert), (57426, .delete), (57427, .keypadBegin), (57428, .media .play),
    (57429, .media .pause), (57430, .media .playPause), (57431, .media .reverse),
    (57432, .media .stop), (57433, .media .fastForward), (57434, .media .rewind),
    (57435, .media .trackNext), (57436, .media .trackPrevious), (57437, .media .record),
    (57438, .media .lowerVolume), (57439, .media .raiseVolume), (57440, .media .muteVolume),
    (57441, .modifier .leftShift), (57442, .modifier .leftControl), (57443, .modifier .leftAlt),
    (57444, .modifier .leftSuper), (57445, .modifier .leftHyper), (57446, .modifier .leftMeta),
    (57447, .modifier .rightShift), (57448, .modifier .rightControl),
    (57449, .modifier .rightAlt), (57450, .modifier .rightSuper), (57451, .modifier .rightHyper),
    (57452, .modifier .rightMeta), (57453, .modifier .isoLevel3Shift),
    (57454, .modifier .isoLevel5Shift)]

def kittyCodepointToKeycode (codepoint : Nat) : Option KeyCode :=
  match kittyFunctionalKeys.lookup codepoint with
  | some code => some code
  | none =>
    if 57376 ≤ codepoint ∧ codepoint ≤ 57398 then
      some (.f (UInt8.ofNat (codepoint - 57376 + 13)))
    else if isKittyFunctionalCodepoint codepoint then none
    else (charFromU32 codepoint).map .char

/-- The first alternate of a CSI u key, if it is a number. -/
def shiftedField (fields : List (List Char)) : Option UInt32 := do
  let field ← fields.head?
  if field.isEmpty then none
  else (parseNumber u32Limit field).map UInt32.ofNat

/-- The form `CSI code:shifted ; modifier:event ; text u`. -/
def parseKittyKeySequence (data : List Char) : Option TerminalKey := do
  let body ← (stripPrefixList "\x1b[".toList data).bind (stripSuffixList ['u'])
  let fields := body.splitOn ';'
  let keyPart ← fields.head?
  let modifierPart := (fields[1]?).getD ['1']
  let associatedText := fields[2]?
  if fields.length > 3 then none
  else
    let (modifierText, eventType) := splitModifierAndEvent modifierPart
    let modifier ← (parseNumber u8Limit modifierText).bind checkedPred
    let keyFields := keyPart.splitOn ':'
    let codepoint ← (keyFields.head?).bind (parseNumber u32Limit)
    let textMatches ←
      match associatedText with
      | none => some true
      | some text => (parseNumber u32Limit text).map fun text => decide (text = codepoint)
    if !textMatches then none
    else
      let code ← kittyCodepointToKeycode codepoint
      let kind ← parseKittyEventType eventType
      let key := (TerminalKey.new code (keyModifiersFromU8 modifier)).withKind kind
      match shiftedField keyFields.tail with
      | some shifted => some (key.withShiftedCodepoint shifted)
      | none => some key

/-- The form `CSI 27 ; modifier ; code ~`. -/
def parseModifyOtherKeysSequence (data : List Char) : Option TerminalKey := do
  let body ← (stripPrefixList "\x1b[27;".toList data).bind (stripSuffixList ['~'])
  let (modifierPart, codepointPart) ← splitOnceList ';' body
  let modifier ← (parseNumber u8Limit modifierPart).bind checkedPred
  let codepoint ← parseNumber u32Limit codepointPart
  let code ← kittyCodepointToKeycode codepoint
  some (TerminalKey.new code (keyModifiersFromU8 modifier))

/-- The last letter of the form `CSI 1 ; modifier:event letter`. -/
def letterKeys : List (Char × KeyCode) :=
  [('A', .up), ('B', .down), ('C', .right), ('D', .left), ('H', .home), ('F', .«end»),
    ('P', .f 1), ('Q', .f 2), ('R', .f 3), ('S', .f 4)]

/-- The number of the form `CSI number ; modifier:event ~`. -/
def tildeKeys : List (List Char × KeyCode) :=
  [("2".toList, .insert), ("3".toList, .delete), ("5".toList, .pageUp), ("6".toList, .pageDown),
    ("15".toList, .f 5), ("17".toList, .f 6), ("18".toList, .f 7), ("19".toList, .f 8),
    ("20".toList, .f 9), ("21".toList, .f 10), ("23".toList, .f 11), ("24".toList, .f 12)]

/-- A key with the modifiers and the event type of an xterm form. -/
def xtermKey (code : Option KeyCode) (modifierAndEvent : List Char) : Option TerminalKey := do
  let (modifierText, eventType) := splitModifierAndEvent modifierAndEvent
  let modifier ← (parseNumber u8Limit modifierText).bind checkedPred
  let code ← code
  let kind ← parseKittyEventType eventType
  some ((TerminalKey.new code (keyModifiersFromU8 modifier)).withKind kind)

def parseXtermTildeSequence (body : List Char) : Option TerminalKey := do
  let tildeBody ← stripSuffixList ['~'] body
  let (codePart, modifierPart) ← splitOnceList ';' tildeBody
  xtermKey (tildeKeys.lookup codePart) modifierPart

def parseXtermModifiedSpecialSequence (data : List Char) : Option TerminalKey := do
  let body ← stripPrefixList "\x1b[".toList data
  match stripPrefixList "1;".toList body with
  | some letterBody => do
    let suffix ← letterBody.getLast?
    if suffix.isAlpha then xtermKey (letterKeys.lookup suffix) letterBody.dropLast
    else parseXtermTildeSequence body
  | none => parseXtermTildeSequence body

/-- The older sequences that are one key each. -/
def legacySpecialKeys : List (List Char × KeyCode × KeyModifiers) :=
  [("\x1b\x1b[A".toList, .up, .ALT), ("\x1b\x1b[B".toList, .down, .ALT),
    ("\x1b\x1b[C".toList, .right, .ALT), ("\x1b\x1b[D".toList, .left, .ALT),
    ("\x1b[A".toList, .up, .empty), ("\x1bOA".toList, .up, .empty),
    ("\x1b[B".toList, .down, .empty), ("\x1bOB".toList, .down, .empty),
    ("\x1b[C".toList, .right, .empty), ("\x1bOC".toList, .right, .empty),
    ("\x1b[D".toList, .left, .empty), ("\x1bOD".toList, .left, .empty),
    ("\x1b[H".toList, .home, .empty), ("\x1bOH".toList, .home, .empty),
    ("\x1b[1~".toList, .home, .empty), ("\x1b[7~".toList, .home, .empty),
    ("\x1b[F".toList, .«end», .empty), ("\x1bOF".toList, .«end», .empty),
    ("\x1b[4~".toList, .«end», .empty), ("\x1b[8~".toList, .«end», .empty),
    ("\x1b[5~".toList, .pageUp, .empty), ("\x1b[6~".toList, .pageDown, .empty),
    ("\x1b[2~".toList, .insert, .empty), ("\x1b[3~".toList, .delete, .empty),
    ("\x1bOp".toList, .char '0', .empty), ("\x1bOq".toList, .char '1', .empty),
    ("\x1bOr".toList, .char '2', .empty), ("\x1bOs".toList, .char '3', .empty),
    ("\x1bOt".toList, .char '4', .empty), ("\x1bOu".toList, .char '5', .empty),
    ("\x1bOv".toList, .char '6', .empty), ("\x1bOw".toList, .char '7', .empty),
    ("\x1bOx".toList, .char '8', .empty), ("\x1bOy".toList, .char '9', .empty),
    ("\x1bOn".toList, .char '.', .empty), ("\x1bOl".toList, .char ',', .empty),
    ("\x1bOm".toList, .char '-', .empty), ("\x1bOk".toList, .char '+', .empty),
    ("\x1bOj".toList, .char '*', .empty), ("\x1bOo".toList, .char '/', .empty),
    ("\x1bOM".toList, .enter, .empty),
    ("\x1bOP".toList, .f 1, .empty), ("\x1b[11~".toList, .f 1, .empty),
    ("\x1bOQ".toList, .f 2, .empty), ("\x1b[12~".toList, .f 2, .empty),
    ("\x1bOR".toList, .f 3, .empty), ("\x1b[13~".toList, .f 3, .empty),
    ("\x1bOS".toList, .f 4, .empty), ("\x1b[14~".toList, .f 4, .empty),
    ("\x1b[15~".toList, .f 5, .empty), ("\x1b[17~".toList, .f 6, .empty),
    ("\x1b[18~".toList, .f 7, .empty), ("\x1b[19~".toList, .f 8, .empty),
    ("\x1b[20~".toList, .f 9, .empty), ("\x1b[21~".toList, .f 10, .empty),
    ("\x1b[23~".toList, .f 11, .empty), ("\x1b[24~".toList, .f 12, .empty),
    ("\x1b[Z".toList, .backTab, .SHIFT)]

def parseLegacySpecialSequence (data : List Char) : Option TerminalKey :=
  match legacySpecialKeys.lookup data with
  | some (code, modifiers) => some (TerminalKey.new code modifiers)
  | none => parseXtermModifiedSpecialSequence data

def parseLegacyCtrlChar (ch : Char) : Option TerminalKey :=
  let control (ch : Char) := TerminalKey.new (.char ch) .CONTROL
  let number := ch.toNat
  if number = 0 then some (control ' ')
  else if number ≤ 26 then (charFromU32 (number + 96)).map control
  else
    match number with
    | 27 => some (control '[')
    | 28 => some (control '\\')
    | 29 => some (control ']')
    | 30 => some (control '^')
    | 31 => some (control '_')
    | _ => none

/-- The keys that are one control character, alone or after an escape. -/
def legacyControlKeys : List (List Char × KeyCode × KeyModifiers) :=
  [(['\r'], .enter, .empty), (['\t'], .tab, .empty), (['\x1b'], .esc, .empty),
    (['\x1b', '\x7f'], .backspace, .ALT), (['\x7f'], .backspace, .empty)]

def parseLegacyCharacter (data : List Char) : Option TerminalKey :=
  match data with
  | ['\x1b', ch] => some (TerminalKey.new (.char ch) { KeyModifiers.ALT with shift := ch.isUpper })
  | '\x1b' :: _ => none
  | [ch] =>
    (parseLegacyCtrlChar ch).or
      (some (TerminalKey.new (.char ch) { KeyModifiers.empty with shift := ch.isUpper }))
  | _ => none

def parseLegacyKeySequence (data : List Char) : Option TerminalKey :=
  match parseLegacySpecialSequence data with
  | some key => some key
  | none =>
    match legacyControlKeys.lookup data with
    | some (code, modifiers) => some (TerminalKey.new code modifiers)
    | none => parseLegacyCharacter data

def parseTerminalKeySequence (data : List Char) : Option TerminalKey :=
  (parseKittyKeySequence data).or
    ((parseModifyOtherKeysSequence data).or (parseLegacyKeySequence data))

end Input
