import VimeflowTerminal.Input.ClientEvents
import VimeflowTerminal.Input.Encode
import VimeflowTerminal.Input.RawInputFramer
import VimeflowTerminal.Input.Win32InputMode

/-! Key records become bytes for the framers or events, and the pump puts both in order. Mouse and
focus records are left out. -/

namespace Input

open Search Streaming

def windowsKeyModifiers (controlKeyState : Nat) : KeyModifiers :=
  let rightAltPressed := controlKeyState.testBit 0
  let leftAltPressed := controlKeyState.testBit 1
  let rightCtrlPressed := controlKeyState.testBit 2
  let leftCtrlPressed := controlKeyState.testBit 3
  let altGr := rightAltPressed && leftCtrlPressed && !rightCtrlPressed
  { KeyModifiers.empty with
    shift := controlKeyState.testBit 4
    control := !altGr && (leftCtrlPressed || rightCtrlPressed)
    -- Right Alt is AltGr rather than a terminal Alt prefix.
    alt := leftAltPressed || rightAltPressed && !altGr }

def windowsVirtualKeyToKeyCode (vk : Nat) (modifiers : KeyModifiers) : Option ClientKeyCode :=
  match vk with
  | 0x08 => some .backspace
  | 0x09 => some (if modifiers.shift then .backTab else .tab)
  | 0x0d => some .enter
  | 0x1b => some .esc
  | 0x21 => some .pageUp
  | 0x22 => some .pageDown
  | 0x23 => some .end
  | 0x24 => some .home
  | 0x25 => some .left
  | 0x26 => some .up
  | 0x27 => some .right
  | 0x28 => some .down
  | 0x2d => some .insert
  | 0x2e => some .delete
  | vk => if 0x70 ≤ vk ∧ vk ≤ 0x87 then some (.f (UInt8.ofNat (vk - 0x6f))) else none

/-- A character that can be typed. -/
def printable (codepoint : Nat) : Option Char :=
  (charFromU32 codepoint).filter fun ch => !Utf8.isControl ch

def windowsVirtualKeyToCharCode (vk unicode : Nat) (modifiers : KeyModifiers) :
  Option ClientKeyCode :=
  match printable unicode with
  | some ch => some (.char ch)
  | none =>
    if 0x30 ≤ vk ∧ vk ≤ 0x39 then (charFromU32 vk).map .char
    else if 0x41 ≤ vk ∧ vk ≤ 0x5a then
      if modifiers.shift && !modifiers.control then (charFromU32 vk).map .char
      else (charFromU32 (vk + 32)).map .char
    else none

def windowsUnicodeControlToKeyCode (unicode : Nat) : Option ClientKeyCode :=
  match unicode with
  | 0x00 => some (.char ' ')
  | 0x1b => some (.char '[')
  | 0x1c => some (.char '\\')
  | 0x1d => some (.char ']')
  | 0x1e => some (.char '^')
  | 0x1f => some (.char '-')
  | _ => none

namespace WindowsKeyRecord

def isAltCode (key : WindowsKeyRecord) : Bool :=
  key.virtualKeyCode = 0x12 && !key.keyDown && key.unicode ≠ 0

def canEmitEvent (key : WindowsKeyRecord) : Bool :=
  key.keyDown || key.isAltCode || key.virtualKeyCode ≠ 0

def isModifierOnly (key : WindowsKeyRecord) : Bool :=
  [0x10, 0x11, 0x12, 0xa0, 0xa1, 0xa2, 0xa3, 0xa4, 0xa5].contains key.virtualKeyCode &&
    key.unicode = 0

def semanticKeyKind (key : WindowsKeyRecord) (isAltCode : Bool) (repeatIdx : Nat) : ClientKeyKind :=
  if isAltCode then .press
  else if !key.keyDown then .release
  else if 0 < repeatIdx then .repeat
  else .press

/-- A physical Escape has a scan code. One without may introduce a report and stays in the
framer. -/
def isRawEscape (key : WindowsKeyRecord) : Bool :=
  let modifiers := windowsKeyModifiers key.controlKeyState
  if !key.keyDown || max key.repeatCount 1 ≠ 1 || modifiers.alt then false
  else
    let bareEscape := modifiers.isEmpty &&
      (key.virtualKeyCode = 0x1b && key.virtualScanCode = 0 ||
        key.virtualKeyCode = 0 && key.unicode = 0x1b)
    let ctrlBracket := decide (key.virtualKeyCode = 0xdb) && key.unicode = 0x1b &&
      modifiers = KeyModifiers.CONTROL
    bareEscape || ctrlBracket

end WindowsKeyRecord

inductive PlatformInputItem
  | bytes (bytes : List UInt8)
  | semantic (event : ClientInputEvent)
  | pasteAwareBytes (pasteBytes rawBytes win32PasteBytes : List UInt8)
  | pasteAwareKey (bytes win32PasteBytes : List UInt8) (events : List ClientInputEvent)

/-- The high halves of characters whose low half is to come, for keys and for pastes, and the
buffer of the framer of records. -/
structure WindowsInputMapper where
  pendingHighSurrogate : Option Nat
  pendingPasteHighSurrogate : Option Nat
  win32Input : List UInt8
  deriving DecidableEq

def utf16UnitToCharWithPending (pendingHighSurrogate : Option Nat) (unit : Nat) :
  Option Char × Option Nat :=
  if unit = 0 then (none, pendingHighSurrogate)
  else if 0xd800 ≤ unit ∧ unit ≤ 0xdbff then (none, some unit)
  else if 0xdc00 ≤ unit ∧ unit ≤ 0xdfff then
    (pendingHighSurrogate.bind fun high =>
      charFromU32 (0x10000 + ((high - 0xd800) * 0x400 + (unit - 0xdc00))), none)
  else (charFromU32 unit, none)

namespace WindowsInputMapper

def utf16UnitToChar (mapper : WindowsInputMapper) (unit : Nat) :
  Option Char × WindowsInputMapper :=
  let (ch, pending) := utf16UnitToCharWithPending mapper.pendingHighSurrogate unit
  (ch, { mapper with pendingHighSurrogate := pending })

def clearPendingHighSurrogate (mapper : WindowsInputMapper) : WindowsInputMapper :=
  { mapper with pendingHighSurrogate := none }

def syntheticUtf16UnitToBytes (mapper : WindowsInputMapper) (unit : Nat) :
  Option (List UInt8) × WindowsInputMapper :=
  let (ch, mapper) := mapper.utf16UnitToChar unit
  (ch.map String.utf8EncodeChar, mapper)

def pastePayloadBytesForKey (mapper : WindowsInputMapper) (key : WindowsKeyRecord) :
  Option (List UInt8) × WindowsInputMapper :=
  if key.unicode = 0 then (none, mapper)
  else if !key.keyDown then (some [], mapper)
  else
    let (ch, pending) := utf16UnitToCharWithPending mapper.pendingPasteHighSurrogate key.unicode
    (ch.map fun ch => (List.replicate (max key.repeatCount 1) (String.utf8EncodeChar ch)).flatten,
      { mapper with pendingPasteHighSurrogate := pending })

/-- Shift with Tab or Enter on a key without a virtual code. -/
def syntheticModifiedKeyEvent (mapper : WindowsInputMapper) (key : WindowsKeyRecord)
  (kind : ClientKeyKind) : Option (List UInt8 × ClientInputEvent) × WindowsInputMapper :=
  let modifiers := windowsKeyModifiers key.controlKeyState
  let code : Option ClientKeyCode :=
    if !modifiers.shift then none
    else if key.unicode = 0x09 then some .backTab
    else if key.unicode = 0x0d then some .enter
    else none
  match code with
  | none => (none, mapper)
  | some code =>
    (some ([UInt8.ofNat key.unicode],
      .key code modifiers.bits kind 1 none .synthesized),
      { mapper with pendingHighSurrogate := none, pendingPasteHighSurrogate := none })

def synthesizedKey (code : ClientKeyCode) (modifiers : KeyModifiers) (kind : ClientKeyKind)
  (generatedText : Option String) : ClientInputEvent :=
  .key code modifiers.bits kind 1 generatedText .synthesized

/-- The code of a key with a virtual code that has no meaning of its own. -/
def translateCharCode (mapper : WindowsInputMapper) (key : WindowsKeyRecord)
  (kind : ClientKeyKind) : Option ClientInputEvent × WindowsInputMapper :=
  let modifiers := windowsKeyModifiers key.controlKeyState
  let mapper := if key.unicode = 0 then mapper.clearPendingHighSurrogate else mapper
  let control := if modifiers.control then windowsUnicodeControlToKeyCode key.unicode else none
  match control with
  | some code =>
    (some (synthesizedKey code modifiers kind none), mapper.clearPendingHighSurrogate)
  | none =>
    let (ch, mapper) := mapper.utf16UnitToChar key.unicode
    let typed := (ch.filter fun ch => !Utf8.isControl ch).map ClientKeyCode.char
    let code := typed.or
      (windowsVirtualKeyToCharCode key.virtualKeyCode key.unicode modifiers)
    let generatedText := fun code : ClientKeyCode =>
      match code with
      | .char _ => (printable key.unicode).map String.singleton
      | _ => none
    (code.map fun code => synthesizedKey code modifiers kind (generatedText code), mapper)

/-- A key whose unit is no text of its own. -/
def translateKeyCode (mapper : WindowsInputMapper) (key : WindowsKeyRecord)
  (kind : ClientKeyKind) : Option ClientInputEvent × WindowsInputMapper :=
  let modifiers := windowsKeyModifiers key.controlKeyState
  if modifiers.control && key.unicode = 0x0a &&
      (key.virtualKeyCode = 0x4a || key.virtualScanCode = 0x24) then
    (some (synthesizedKey (.char 'j') modifiers kind none), mapper.clearPendingHighSurrogate)
  else
    match windowsVirtualKeyToKeyCode key.virtualKeyCode modifiers with
    | some code =>
      (some (synthesizedKey code modifiers kind none), mapper.clearPendingHighSurrogate)
    | none => mapper.translateCharCode key kind

def translateSemanticKeyEvent (mapper : WindowsInputMapper) (key : WindowsKeyRecord)
  (kind : ClientKeyKind) : Option ClientInputEvent × WindowsInputMapper :=
  if key.virtualKeyCode = 0 then
    match mapper.utf16UnitToChar key.unicode with
    | (none, mapper) => (none, mapper)
    | (some codepoint, mapper) =>
      if Utf8.isControl codepoint then mapper.translateKeyCode key kind
      else (some (.textCommit [codepoint]), mapper)
  else mapper.translateKeyCode key kind

/-- The record itself becomes the source of its event. -/
def withNativeRecord (key : WindowsKeyRecord) : ClientInputEvent → ClientInputEvent
  | .key code modifiers kind _ _ _ =>
    .key code modifiers kind (UInt16.ofNat (max key.repeatCount 1)) none (.windowsConsole key)
  | event => event

def carriesNativeRecord (key : WindowsKeyRecord) : Bool :=
  key.repeatCount ≠ 0 && key.virtualKeyCode ≠ 0 && key.virtualKeyCode ≠ 0x03 &&
    !(key.virtualKeyCode = 0xe5 || key.virtualKeyCode = 0xe7) && !key.isAltCode &&
    !(0xd800 ≤ key.unicode && key.unicode ≤ 0xdfff)

/-- One event for each repetition. -/
def translateRepeated (mapper : WindowsInputMapper) (key : WindowsKeyRecord) :
  List Nat → List ClientInputEvent × WindowsInputMapper
  | [] => ([], mapper)
  | repeatIdx :: rest =>
    let kind := key.semanticKeyKind key.isAltCode repeatIdx
    let (event, mapper) := mapper.translateSemanticKeyEvent key kind
    let (events, mapper) := mapper.translateRepeated key rest
    (event.toList ++ events, mapper)

def translateSemanticKeyEvents (mapper : WindowsInputMapper) (key : WindowsKeyRecord) :
  List ClientInputEvent × WindowsInputMapper :=
  if !key.canEmitEvent then ([], mapper)
  else if key.isModifierOnly then ([], mapper)
  else
    let (modified, mapper) :=
      if key.virtualKeyCode = 0 then mapper.syntheticModifiedKeyEvent key .press
      else (none, mapper)
    match modified with
    | some (_, event) => ([event], mapper)
    | none =>
      if carriesNativeRecord key then
        let kind := key.semanticKeyKind key.isAltCode 0
        let (event, mapper) := mapper.translateSemanticKeyEvent key kind
        ((event.map (withNativeRecord key)).toList, mapper)
      else mapper.translateRepeated key (List.range (max key.repeatCount 1))

def win32InputModeKeyRecordRawBytes (mapper : WindowsInputMapper) (record : WindowsKeyRecord) :
  Option (List UInt8) × WindowsInputMapper :=
  if record.isRawEscape then (some [0x1b], mapper)
  else if record.virtualScanCode ≠ 0 then (none, mapper)
  else if !record.keyDown || max record.repeatCount 1 ≠ 1 ||
      windowsKeyModifiers record.controlKeyState ≠ KeyModifiers.empty then (none, mapper)
  else if record.virtualKeyCode ≠ 0 && (record.unicode < 0x20 || record.unicode = 0x7f) then
    (none, mapper)
  else mapper.syntheticUtf16UnitToBytes record.unicode

/-- The items of what the framer of records gives out. -/
def win32Items (mapper : WindowsInputMapper) :
  List WindowsWin32InputModeItem → List PlatformInputItem × WindowsInputMapper
  | [] => ([], mapper)
  | .bytes bytes :: rest =>
    let (items, mapper) := mapper.win32Items rest
    (.bytes bytes :: items, mapper)
  | .key bytes record :: rest =>
    let (payload, mapper) := mapper.pastePayloadBytesForKey record
    let win32PasteBytes := payload.getD []
    match mapper.win32InputModeKeyRecordRawBytes record with
    | (some rawBytes, mapper) =>
      let (items, mapper) := mapper.win32Items rest
      (.pasteAwareBytes bytes rawBytes win32PasteBytes :: items, mapper)
    | (none, mapper) =>
      let (events, mapper) := mapper.translateSemanticKeyEvents record
      let (items, mapper) := mapper.win32Items rest
      (.pasteAwareKey bytes win32PasteBytes events :: items, mapper)

def translateWin32InputModeBytes (mapper : WindowsInputMapper) (bytes : List UInt8) :
  List PlatformInputItem × WindowsInputMapper :=
  let (items, win32Input) := WindowsWin32InputModeFramer.push mapper.win32Input bytes
  win32Items { mapper with win32Input } items

/-- `idle`, or `flush_timeout` of the framer of records. -/
def idle (mapper : WindowsInputMapper) : List PlatformInputItem × WindowsInputMapper :=
  (if mapper.win32Input = [] then [] else [.bytes mapper.win32Input],
    { mapper with win32Input := [] })

def withPendingWin32Flush (mapper : WindowsInputMapper) (items : List PlatformInputItem) :
  List PlatformInputItem × WindowsInputMapper :=
  let (pending, mapper) := mapper.idle
  (pending ++ items, mapper)

/-- The repetitions of a key without a virtual code, and whether one of them is a modified key. -/
def translateUnits (mapper : WindowsInputMapper) (key : WindowsKeyRecord) :
  List Nat → (List PlatformInputItem × Bool) × WindowsInputMapper
  | [] => (([], false), mapper)
  | repeatIdx :: rest =>
    match mapper.syntheticModifiedKeyEvent key (key.semanticKeyKind false repeatIdx) with
    | (some (bytes, event), mapper) =>
      let ((items, _), mapper) := mapper.translateUnits key rest
      ((.pasteAwareKey bytes bytes [event] :: items, true), mapper)
    | (none, mapper) =>
      let (bytes, mapper) := mapper.syntheticUtf16UnitToBytes key.unicode
      let (first, mapper) :=
        match bytes with
        | some bytes => mapper.translateWin32InputModeBytes bytes
        | none => ([], mapper)
      let ((items, flush), mapper) := mapper.translateUnits key rest
      ((first ++ items, flush), mapper)

def translateKey (mapper : WindowsInputMapper) (key : WindowsKeyRecord) :
  List PlatformInputItem × WindowsInputMapper :=
  if !key.canEmitEvent then ([], mapper)
  else if key.isRawEscape then mapper.translateWin32InputModeBytes [0x1b]
  else if key.virtualKeyCode = 0 then
    let ((items, flush), mapper) := mapper.translateUnits key (List.range (max key.repeatCount 1))
    if flush then mapper.withPendingWin32Flush items else (items, mapper)
  else
    let (events, mapper) := mapper.translateSemanticKeyEvents key
    let (payload, mapper) := mapper.pastePayloadBytesForKey key
    let items :=
      match payload with
      | some bytes => [.pasteAwareKey bytes bytes events]
      | none => events.map .semantic
    mapper.withPendingWin32Flush items

end WindowsInputMapper

def RawInputByteFramer.hasPendingBracketedPaste (framer : RawInputByteFramer) : Bool :=
  decide (bracketedPasteStart <+: framer.buffer) &&
    (findSubsequence bracketedPasteEnd framer.buffer).isNone

structure WindowsInputPump where
  framer : RawInputByteFramer
  pasteFromWin32KeyRecords : Bool
  deriving DecidableEq

namespace WindowsInputPump

variable (isUppercase : Char → Bool)

def processRawEvents (pump : WindowsInputPump) (events : List RawInputEvent) :
  List ClientInputEvent × WindowsInputPump :=
  let isPaste := fun event : RawInputEvent =>
    match event with
    | .paste _ => true
    | _ => false
  (events.filterMap windowsClientInputEventFromRaw,
    if events.any isPaste then { pump with pasteFromWin32KeyRecords := false } else pump)

/-- Chunks of the framer as events. -/
def processChunks (pump : WindowsInputPump)
  (chunks : Option (List (List UInt8) × RawInputByteFramer)) :
  Option (List ClientInputEvent × WindowsInputPump) := do
  let (chunks, framer) ← chunks
  let events ← eventsFromChunks isUppercase chunks
  some ({ pump with framer }.processRawEvents events)

def pushBytes (pump : WindowsInputPump) (bytes : List UInt8) :
  Option (List ClientInputEvent × WindowsInputPump) :=
  pump.processChunks isUppercase (pump.framer.push isUppercase bytes)

/-- `idle`, with which an event that is not made of bytes is kept in order. -/
def idle (pump : WindowsInputPump) : Option (List ClientInputEvent × WindowsInputPump) :=
  pump.processChunks isUppercase (pump.framer.flushTimeout isUppercase)

/-- `process`. A panic has no result. -/
def process (pump : WindowsInputPump) :
  PlatformInputItem → Option (List ClientInputEvent × WindowsInputPump)
  | .bytes bytes => pump.pushBytes isUppercase bytes
  | .semantic event =>
    (pump.idle isUppercase).map fun (events, pump) => (events ++ [event], pump)
  | .pasteAwareBytes pasteBytes rawBytes win32PasteBytes => do
    let pendingPaste := pump.framer.hasPendingBracketedPaste
    let decodeWin32Record := pump.pasteFromWin32KeyRecords || !pendingPaste
    let bytes :=
      if decodeWin32Record then if pendingPaste then win32PasteBytes else rawBytes
      else pasteBytes
    let (chunks, framer) ← pump.framer.push isUppercase bytes
    let pump :=
      if decodeWin32Record && framer.hasPendingBracketedPaste then
        { pump with pasteFromWin32KeyRecords := true }
      else pump
    pump.processChunks isUppercase (some (chunks, framer))
  | .pasteAwareKey bytes win32PasteBytes events =>
    if pump.framer.hasPendingBracketedPaste then
      pump.pushBytes isUppercase
        (if pump.pasteFromWin32KeyRecords then win32PasteBytes else bytes)
    else
      (pump.idle isUppercase).map fun (output, pump) => (output ++ events, pump)

/-- Items one after the other. -/
def processAll (pump : WindowsInputPump) :
  List PlatformInputItem → Option (List ClientInputEvent × WindowsInputPump)
  | [] => some ([], pump)
  | item :: items => do
    let (first, pump) ← pump.process isUppercase item
    let (rest, pump) ← pump.processAll items
    some (first ++ rest, pump)

end WindowsInputPump

/-- The mapper and the pump of the reader loop. -/
structure WindowsInput where
  mapper : WindowsInputMapper
  pump : WindowsInputPump
  deriving DecidableEq

namespace WindowsInput

/-- Both as they start: doubled escapes are split on Windows. -/
def fresh : WindowsInput where
  mapper := ⟨none, none, []⟩
  pump := ⟨RawInputByteFramer.withHostInputPolicy false, false⟩

/-- One key record through the mapper and the pump. -/
def translate (isUppercase : Char → Bool) (input : WindowsInput) (key : WindowsKeyRecord) :
  Option (List ClientInputEvent × WindowsInput) :=
  let (items, mapper) := input.mapper.translateKey key
  (input.pump.processAll isUppercase items).map fun (events, pump) => (events, ⟨mapper, pump⟩)

def translateAll (isUppercase : Char → Bool) (input : WindowsInput) :
  List WindowsKeyRecord → Option (List ClientInputEvent × WindowsInput)
  | [] => some ([], input)
  | key :: keys => do
    let (first, input) ← input.translate isUppercase key
    let (rest, input) ← input.translateAll isUppercase keys
    some (first ++ rest, input)

end WindowsInput

end Input
