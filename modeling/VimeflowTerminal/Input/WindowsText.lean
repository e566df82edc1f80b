import Mathlib
import VimeflowTerminal.Input.KeyRoundTrip
import VimeflowTerminal.Input.WindowsPump
import VimeflowTerminal.Transition.Run

/-! A text comes as key records of its UTF-16 units. The halves of a character are put together in
two registers, one for keys and one for pastes. -/

namespace Input

open Search Utf8 WindowsInputMapper WindowsWin32InputModeFramer WindowsInputPump KeyModifiers WindowsKeyRecord

/-! ## Texts as key records -/

/-- How a unit comes: without a virtual key or as VK_PACKET, without modifiers, and with or
without the record of its release. -/
structure KeyMode where
  packet : Bool
  release : Bool
  scanCode : Nat
  controlKeyState : Nat
  noModifiers : windowsKeyModifiers controlKeyState = empty

namespace KeyMode

def record (mode : KeyMode) (unit : Nat) (keyDown : Bool) : WindowsKeyRecord where
  keyDown
  repeatCount := 1
  virtualKeyCode := if mode.packet then 0xe7 else 0
  virtualScanCode := mode.scanCode
  unicode := unit
  controlKeyState := mode.controlKeyState

def records (mode : KeyMode) (unit : Nat) : List WindowsKeyRecord :=
  mode.record unit true :: if mode.release then [mode.record unit false] else []

end KeyMode

/-- The UTF-16 units of a character. -/
def utf16Units (ch : Char) : List Nat :=
  if ch.toNat < 0x10000 then [ch.toNat]
  else [0xd800 + (ch.toNat - 0x10000) / 0x400, 0xdc00 + (ch.toNat - 0x10000) % 0x400]

/-- A character with the modes of its units. One that has a single unit needs no second mode. -/
structure TypedChar where
  ch : Char
  notControl : isControl ch = false
  first : KeyMode
  second : KeyMode

namespace TypedChar

def records (typed : TypedChar) : List WindowsKeyRecord :=
  match utf16Units typed.ch with
  | [high, low] => typed.first.records high ++ typed.second.records low
  | units => units.flatMap typed.first.records

/-- The register of pastes after a unit. -/
def unitRegister (register : Option Nat) (mode : KeyMode) (unit : Nat) : Option Nat :=
  if mode.packet then (utf16UnitToCharWithPending register unit).2 else register

/-- The register of pastes after a character. -/
def register (register : Option Nat) (typed : TypedChar) : Option Nat :=
  match utf16Units typed.ch with
  | [high, low] => unitRegister (unitRegister register typed.first high) typed.second low
  | units => units.foldl (unitRegister · typed.first) register

/-- A low half that comes as VK_PACKET finds its high half in the register of pastes. -/
def Carried (register : Option Nat) (typed : TypedChar) : Prop :=
  match utf16Units typed.ch with
  | [high, _] =>
    typed.second.packet = true → unitRegister register typed.first high = some high
  | _ => True

end TypedChar

/-- The bytes of a marker, each without a virtual key. -/
def markerRecords (mode : KeyMode) (marker : List UInt8) : List WindowsKeyRecord :=
  marker.flatMap fun byte => { mode with packet := false }.records byte.toNat

/-- What comes one after the other: text, and pastes of text between their markers. -/
inductive Segment
  | typed (text : List TypedChar)
  | pasted (start finish : KeyMode) (text : List TypedChar)

namespace Segment

def text : Segment → List TypedChar
  | .typed text => text
  | .pasted _ _ text => text

def records : Segment → List WindowsKeyRecord
  | .typed text => text.flatMap TypedChar.records
  | .pasted start finish text =>
    markerRecords start bracketedPasteStart ++
      (text.flatMap TypedChar.records ++ markerRecords finish bracketedPasteEnd)

def register (register : Option Nat) (segment : Segment) : Option Nat :=
  segment.text.foldl TypedChar.register register

end Segment

/-- The text of an event if it is a press or a commit; a release has none. -/
def spoken : ClientInputEvent → Option (List Char)
  | .key _ _ .release _ _ _ => some []
  | .key (.char ch) _ .press _ _ _ => some [ch]
  | .textCommit text => some text
  | _ => none

/-- The text of events that are all presses, commits and releases. -/
def spokenText : List ClientInputEvent → Option (List Char)
  | [] => some []
  | event :: events => do
    let first ← spoken event
    let rest ← spokenText events
    some (first ++ rest)

def pasteText : ClientInputEvent → Option (List Char)
  | .paste text => some text
  | _ => none

/-- The events are the segment: its characters as presses and commits, or as the one paste. -/
def Segment.Spelled (events : List ClientInputEvent) : Segment → Prop
  | .typed text => spokenText events = some (text.map TypedChar.ch)
  | .pasted _ _ text => events.filterMap pasteText = [text.map TypedChar.ch]

/-- Behind a history the segment comes out as it is. -/
def Delivers (isUppercase : Char → Bool) (history : List Segment) (segment : Segment) : Prop :=
  ∃ before input events after,
    WindowsInput.fresh.translateAll isUppercase (history.flatMap Segment.records) =
      some (before, input) ∧
    input.translateAll isUppercase segment.records = some (events, after) ∧
    segment.Spelled events

/-! ## Units -/

/-- The unit of no control character. -/
def Printing (unit : Nat) : Prop := 32 ≤ unit ∧ (unit < 127 ∨ 160 ≤ unit)

theorem toNat_of_charFromU32 {codepoint : Nat} {ch : Char}
  (hChar : charFromU32 codepoint = some ch) :
  ch.toNat = codepoint := by
  unfold charFromU32 at hChar
  split at hChar
  case isTrue hValid =>
    cases hChar
    rfl
  case isFalse => cases hChar

variable {unit : Nat} {early late : List Char} {events : List ClientInputEvent}

theorem utf16Unit_pending (hUnit : Printing unit) (first second : Option Nat) :
  (utf16UnitToCharWithPending first unit).2 = (utf16UnitToCharWithPending second unit).2 := by
  have hZero : unit ≠ 0 := by
    have := hUnit.1
    omega
  unfold utf16UnitToCharWithPending
  rw [if_neg hZero, if_neg hZero]
  split
  · rfl
  · split <;> rfl

theorem utf16Unit_notControl (hUnit : Printing unit) {pending : Option Nat} {ch : Char}
  (hChar : (utf16UnitToCharWithPending pending unit).1 = some ch) : isControl ch = false := by
  rw [isControl_iff]
  obtain ⟨hLow, hHigh⟩ := hUnit
  unfold utf16UnitToCharWithPending at hChar
  rw [if_neg (by omega)] at hChar
  split at hChar
  · cases hChar
  split at hChar
  · obtain ⟨high, -, hChar⟩ := Option.bind_eq_some_iff.1 hChar
    have := toNat_of_charFromU32 hChar
    omega
  · have := toNat_of_charFromU32 hChar
    omega

/-- A unit that gives no character is no character by itself. -/
theorem printable_none {pending : Option Nat}
  (hNone : (utf16UnitToCharWithPending pending unit).1 = none) (hUnit : Printing unit) :
  printable unit = none := by
  obtain ⟨hLow, -⟩ := hUnit
  have hInvalid : 0xd800 ≤ unit → unit ≤ 0xdfff → printable unit = none := by
    intro hFrom hTo
    have hNot : ¬ unit.isValidChar := by
      rintro (hBelow | ⟨hAbove, -⟩) <;> omega
    rw [printable, charFromU32, dif_neg hNot]
    rfl
  unfold utf16UnitToCharWithPending at hNone
  rw [if_neg (by omega)] at hNone
  split at hNone
  · exact hInvalid (by omega) (by omega)
  split at hNone
  · exact hInvalid (by omega) (by omega)
  · rw [printable, show charFromU32 unit = none from hNone]
    rfl

/-! ## Records in the mapper -/

namespace WindowsInputMapper

/-- Records one after the other. -/
def translateKeys (mapper : WindowsInputMapper) :
  List WindowsKeyRecord → List PlatformInputItem × WindowsInputMapper
  | [] => ([], mapper)
  | key :: keys =>
    let (first, mapper) := mapper.translateKey key
    let (rest, mapper) := mapper.translateKeys keys
    (first ++ rest, mapper)

theorem translateKeys_cons (mapper : WindowsInputMapper) (key : WindowsKeyRecord)
  (keys : List WindowsKeyRecord) :
  mapper.translateKeys (key :: keys) =
    ((mapper.translateKey key).1 ++ ((mapper.translateKey key).2.translateKeys keys).1,
      ((mapper.translateKey key).2.translateKeys keys).2) := rfl

theorem translateKeys_append (mapper : WindowsInputMapper) (first second : List WindowsKeyRecord) :
  mapper.translateKeys (first ++ second) =
    ((mapper.translateKeys first).1 ++ ((mapper.translateKeys first).2.translateKeys second).1,
      ((mapper.translateKeys first).2.translateKeys second).2) := by
  induction first generalizing mapper with
  | nil => rfl
  | cons key first ih =>
    rw [List.cons_append, translateKeys_cons, translateKeys_cons, ih, List.append_assoc]

/-- The items do not depend on the pump. -/
theorem translateAll_eq {isUppercase : Char → Bool} (input : WindowsInput)
  (keys : List WindowsKeyRecord) :
  input.translateAll isUppercase keys =
    (input.pump.processAll isUppercase (input.mapper.translateKeys keys).1).map
      fun (events, pump) => (events, ⟨(input.mapper.translateKeys keys).2, pump⟩) := by
  induction keys generalizing input with
  | nil => rfl
  | cons key keys ih =>
    have hFirst : input.translate isUppercase key =
        (input.pump.processAll isUppercase (input.mapper.translateKey key).1).map
          fun (events, pump) => (events, ⟨(input.mapper.translateKey key).2, pump⟩) := rfl
    rw [WindowsInput.translateAll, hFirst, translateKeys_cons,
      processAll_append]
    cases input.pump.processAll isUppercase (input.mapper.translateKey key).1 with
    | none => rfl
    | some done =>
      obtain ⟨events, pump⟩ := done
      simp only [Option.map_some, Option.bind_eq_bind, Option.bind_some, ih]
      cases pump.processAll isUppercase
        ((input.mapper.translateKey key).2.translateKeys keys).1 <;> rfl

/-- Bytes without an escape go through the framer of records one by one. -/
theorem push_text {bytes : List UInt8} (hBytes : ESC ∉ bytes) :
  push [] bytes =
    (bytes.map fun byte => .bytes [byte], []) := by
  have hRun : reader.run bytes =
      some (bytes.map fun byte => .bytes [byte], []) := by
    induction bytes with
    | nil => rfl
    | cons byte bytes ih =>
      rw [List.mem_cons, not_or] at hBytes
      have hText : ¬ byte = ESC := fun hSame => hBytes.1 hSame.symm
      have hNext : nextItem (byte :: bytes) =
          some (.bytes [byte], bytes) := by
        cases bytes with
        | nil => exact if_neg hText
        | cons second rest => exact if_neg fun hStart => hText hStart.1
      rw [Streaming.Reader.run_eq, reader_step_some hNext]
      simp only [ih hBytes.2]
      rfl
  have hPush := push_eq [] bytes
  rw [Streaming.Reader.push] at hPush
  exact (Option.some.inj (hPush.symm.trans hRun))

theorem win32Items_bytes (mapper : WindowsInputMapper) (pieces : List (List UInt8)) :
  mapper.win32Items (pieces.map .bytes) = (pieces.map .bytes, mapper) := by
  induction pieces with
  | nil => rfl
  | cons piece pieces ih => rw [List.map_cons, win32Items, ih, List.map_cons]

variable {unit : Nat} {mode : KeyMode}

theorem record_isRawEscape (mode : KeyMode) (hUnit : Printing unit) (keyDown : Bool) :
  (mode.record unit keyDown).isRawEscape = false := by
  have hEscape : unit ≠ 0x1b := by
    have := hUnit.1
    omega
  have hKey : (mode.record unit keyDown).virtualKeyCode ≠ 0x1b ∧
      (mode.record unit keyDown).virtualKeyCode ≠ 0xdb := by
    unfold KeyMode.record
    dsimp only
    split <;> decide
  have hUnicode : (mode.record unit keyDown).unicode ≠ 0x1b := hEscape
  unfold isRawEscape
  simp [hKey.1, hKey.2, hUnicode]

theorem syntheticModifiedKeyEvent_record (mapper : WindowsInputMapper) (mode : KeyMode)
  (unit : Nat) (keyDown : Bool) (kind : ClientKeyKind) :
  mapper.syntheticModifiedKeyEvent (mode.record unit keyDown) kind = (none, mapper) := by
  have hShift : (windowsKeyModifiers (mode.record unit keyDown).controlKeyState).shift = false :=
    congrArg shift mode.noModifiers
  unfold syntheticModifiedKeyEvent
  dsimp only
  rw [hShift]
  rfl

/-- A unit without a virtual key is put together in the register of keys. -/
theorem translateKey_direct (mapper : WindowsInputMapper) (hMode : mode.packet = false)
  (hUnit : Printing unit) :
  mapper.translateKey (mode.record unit true) =
    match utf16UnitToCharWithPending mapper.pendingHighSurrogate unit with
      | (some ch, pending) =>
        { mapper with pendingHighSurrogate := pending }.translateWin32InputModeBytes
          (String.utf8EncodeChar ch)
      | (none, pending) => ([], { mapper with pendingHighSurrogate := pending }) := by
  have hKey : (mode.record unit true).virtualKeyCode = 0 := by
    rw [KeyMode.record, hMode]
    rfl
  have hEmit : (mode.record unit true).canEmitEvent = true := rfl
  have hRange : List.range (max (mode.record unit true).repeatCount 1) = [0] := rfl
  have hUnicode : (mode.record unit true).unicode = unit := rfl
  rw [translateKey, hEmit, record_isRawEscape mode hUnit, if_neg (by decide),
    if_neg Bool.false_ne_true, if_pos hKey, hRange, translateUnits,
    syntheticModifiedKeyEvent_record]
  simp only [translateUnits, syntheticUtf16UnitToBytes, utf16UnitToChar, hUnicode]
  generalize utf16UnitToCharWithPending mapper.pendingHighSurrogate unit = result
  obtain ⟨ch, pending⟩ := result
  cases ch <;> simp

theorem translateKey_direct_release (mapper : WindowsInputMapper) (hMode : mode.packet = false)
  (unit : Nat) :
  mapper.translateKey (mode.record unit false) = ([], mapper) := by
  have hKey : (mode.record unit false).virtualKeyCode = 0 := by
    rw [KeyMode.record, hMode]
    rfl
  have hEmit : (mode.record unit false).canEmitEvent = false := by
    unfold canEmitEvent isAltCode
    simp [KeyMode.record, hMode]
  rw [translateKey, hEmit, if_pos (by decide)]

/-- The event of a unit that comes as VK_PACKET. -/
def packetEvent (ch : Option Char) (unit : Nat) (kind : ClientKeyKind) : Option ClientInputEvent :=
  let code := ((ch.filter fun ch => !isControl ch).map ClientKeyCode.char).or
    (windowsVirtualKeyToCharCode 0xe7 unit empty)
  code.map fun code => synthesizedKey code empty kind
    (match code with
    | .char _ => (printable unit).map String.singleton
    | _ => none)

theorem translateCharCode_packet (mapper : WindowsInputMapper) (hMode : mode.packet = true)
  (hUnit : Printing unit) (keyDown : Bool) (kind : ClientKeyKind) :
  mapper.translateCharCode (mode.record unit keyDown) kind =
    (packetEvent (utf16UnitToCharWithPending mapper.pendingHighSurrogate unit).1 unit kind,
      { mapper with pendingHighSurrogate :=
          (utf16UnitToCharWithPending mapper.pendingHighSurrogate unit).2 }) := by
  have hKey : (mode.record unit keyDown).virtualKeyCode = 0xe7 := if_pos hMode
  have hUnicode : (mode.record unit keyDown).unicode = unit := rfl
  have hModifiers : windowsKeyModifiers (mode.record unit keyDown).controlKeyState =
      empty := mode.noModifiers
  have hZero : unit ≠ 0 := by
    have := hUnit.1
    omega
  unfold translateCharCode
  rw [hUnicode, hModifiers, hKey, if_neg hZero]
  rfl

theorem translateSemanticKeyEvents_packet (mapper : WindowsInputMapper)
  (hMode : mode.packet = true) (hUnit : Printing unit) (keyDown : Bool) :
  mapper.translateSemanticKeyEvents (mode.record unit keyDown) =
    ((packetEvent (utf16UnitToCharWithPending mapper.pendingHighSurrogate unit).1 unit
        (if keyDown then .press else .release)).toList,
      { mapper with pendingHighSurrogate :=
          (utf16UnitToCharWithPending mapper.pendingHighSurrogate unit).2 }) := by
  have hKey : (mode.record unit keyDown).virtualKeyCode = 0xe7 := if_pos hMode
  have hModifiers : windowsKeyModifiers (mode.record unit keyDown).controlKeyState =
      empty := mode.noModifiers
  have hAlt : (mode.record unit keyDown).isAltCode = false := by
    rw [isAltCode, hKey]
    rfl
  have hEmit : (mode.record unit keyDown).canEmitEvent = true := by
    rw [canEmitEvent, hKey]
    simp
  have hModifier : (mode.record unit keyDown).isModifierOnly = false := by
    rw [isModifierOnly, hKey]
    rfl
  have hNative : carriesNativeRecord (mode.record unit keyDown) = false := by
    rw [carriesNativeRecord, hKey]
    simp
  have hRange : List.range (max (mode.record unit keyDown).repeatCount 1) = [0] := rfl
  have hKind : (mode.record unit keyDown).semanticKeyKind false 0 =
      if keyDown then .press else .release := by
    cases keyDown <;> rfl
  have hCode : ∀ kind, mapper.translateSemanticKeyEvent (mode.record unit keyDown) kind =
      mapper.translateCharCode (mode.record unit keyDown) kind := by
    intro kind
    rw [translateSemanticKeyEvent, if_neg (by rw [hKey]; decide), translateKeyCode, hModifiers,
      hKey]
    rfl
  rw [translateSemanticKeyEvents, hEmit, hModifier, if_neg (by decide), if_neg Bool.false_ne_true,
    if_neg (by rw [hKey]; decide), hNative, hRange]
  simp only [Bool.false_eq_true, if_false, translateRepeated, hAlt, hKind, hCode,
    translateCharCode_packet mapper hMode hUnit, List.append_nil]

theorem packetEvent_none (hNone : printable unit = none) (kind : ClientKeyKind) :
  packetEvent none unit kind = none := by
  have hCode : windowsVirtualKeyToCharCode 0xe7 unit empty = none := by
    rw [windowsVirtualKeyToCharCode, hNone]
    rfl
  simp only [packetEvent, hCode, Option.filter_none, Option.map_none, Option.or_none]

theorem packetEvent_some {ch : Char} (hControl : isControl ch = false) (unit : Nat)
  (kind : ClientKeyKind) :
  packetEvent (some ch) unit kind =
    some (synthesizedKey (.char ch) empty kind
      ((printable unit).map String.singleton)) := by
  have hTyped : (some ch).filter (fun ch => !isControl ch) = some ch := by
    rw [Option.filter_some, hControl]
    rfl
  simp only [packetEvent, hTyped, Option.map_some, Option.some_or]

theorem packetEvent_release (ch : Option Char) (unit : Nat) :
  spokenText (packetEvent ch unit .release).toList = some [] := by
  unfold packetEvent
  cases ((ch.filter fun ch => !isControl ch).map ClientKeyCode.char).or
      (windowsVirtualKeyToCharCode 0xe7 unit empty) with
  | none => rfl
  | some code => rfl

theorem packetEvent_pasteText (ch : Option Char) (unit : Nat) (kind : ClientKeyKind) :
  (packetEvent ch unit kind).toList.filterMap pasteText = [] := by
  unfold packetEvent
  cases ((ch.filter fun ch => !isControl ch).map ClientKeyCode.char).or
      (windowsVirtualKeyToCharCode 0xe7 unit empty) with
  | none => rfl
  | some code => rfl

/-- A character for a paste goes with the events of its key. -/
def packetItems (pasted : Option Char) (events : List ClientInputEvent) : List PlatformInputItem :=
  match pasted with
  | some ch => [.pasteAwareKey (String.utf8EncodeChar ch) (String.utf8EncodeChar ch) events]
  | none => events.map .semantic

/-- A pressed VK_PACKET: a key with its bytes if the register of pastes completes it, else only
the event. -/
theorem translateKey_packet (mapper : WindowsInputMapper) (hMode : mode.packet = true)
  (hUnit : Printing unit) (hBuffer : mapper.win32Input = []) :
  mapper.translateKey (mode.record unit true) =
    (packetItems (utf16UnitToCharWithPending mapper.pendingPasteHighSurrogate unit).1
        (packetEvent (utf16UnitToCharWithPending mapper.pendingHighSurrogate unit).1 unit
          .press).toList,
      { pendingHighSurrogate := (utf16UnitToCharWithPending mapper.pendingHighSurrogate unit).2
        pendingPasteHighSurrogate :=
          (utf16UnitToCharWithPending mapper.pendingPasteHighSurrogate unit).2
        win32Input := [] }) := by
  have hKey : (mode.record unit true).virtualKeyCode = 0xe7 := if_pos hMode
  have hEmit : (mode.record unit true).canEmitEvent = true := rfl
  have hUnicode : (mode.record unit true).unicode = unit := rfl
  have hZero : ¬ unit = 0 := by
    have := hUnit.1
    omega
  have hDown : (!(mode.record unit true).keyDown) = false := rfl
  have hOnce : ∀ ch : Char, (List.replicate (max (mode.record unit true).repeatCount 1)
      (String.utf8EncodeChar ch)).flatten = String.utf8EncodeChar ch :=
    fun ch => List.append_nil (String.utf8EncodeChar ch)
  rw [translateKey, hEmit, record_isRawEscape mode hUnit, if_neg (by decide),
    if_neg Bool.false_ne_true, if_neg (by rw [hKey]; decide),
    translateSemanticKeyEvents_packet mapper hMode hUnit]
  obtain ⟨high, pasteHigh, buffer⟩ := mapper
  obtain rfl : buffer = [] := hBuffer
  simp only [pastePayloadBytesForKey, hUnicode, hZero, if_false, hDown, Bool.false_eq_true, hOnce,
    if_true]
  cases (utf16UnitToCharWithPending pasteHigh unit).1 <;> rfl

theorem translateKey_packet_release (mapper : WindowsInputMapper) (hMode : mode.packet = true)
  (hUnit : Printing unit) (hBuffer : mapper.win32Input = []) :
  mapper.translateKey (mode.record unit false) =
    ([.pasteAwareKey [] []
      (packetEvent (utf16UnitToCharWithPending mapper.pendingHighSurrogate unit).1 unit
        .release).toList],
      { mapper with pendingHighSurrogate :=
          (utf16UnitToCharWithPending mapper.pendingHighSurrogate unit).2 }) := by
  have hKey : (mode.record unit false).virtualKeyCode = 0xe7 := if_pos hMode
  have hEmit : (mode.record unit false).canEmitEvent = true := by
    rw [canEmitEvent, hKey]
    simp
  have hZero : ¬ (mode.record unit false).unicode = 0 := by
    have hLow := hUnit.1
    show unit ≠ 0
    omega
  rw [translateKey, hEmit, record_isRawEscape mode hUnit, if_neg (by decide),
    if_neg Bool.false_ne_true, if_neg (by rw [hKey]; decide),
    translateSemanticKeyEvents_packet mapper hMode hUnit]
  obtain ⟨high, pasteHigh, buffer⟩ := mapper
  obtain rfl : buffer = [] := hBuffer
  simp only [pastePayloadBytesForKey, hZero, if_false]
  rfl

end WindowsInputMapper

/-! ## What items come to -/

section Items

variable (isUppercase : Char → Bool)

/-- Outside a paste the items give presses and commits of the text. -/
def Speaks (items : List PlatformInputItem) (text : List Char) : Prop :=
  ∀ pump : WindowsInputPump, pump.Quiet → ∃ events after,
    pump.processAll isUppercase items = some (events, after) ∧ after.Quiet ∧
      spokenText events = some text

/-- In a paste the items put the text behind what is there. -/
def Appends (items : List PlatformInputItem) (text : List Char) : Prop :=
  ∀ (pump : WindowsInputPump) (bytes : List UInt8), pump.InPaste bytes → ∃ events after,
    pump.processAll isUppercase items = some (events, after) ∧
      after.InPaste (bytes ++ encode text) ∧ events.filterMap pasteText = []

end Items

variable {isUppercase : Char → Bool}

theorem spokenText_append {first second : List ClientInputEvent}
  (hFirst : spokenText first = some early) (hSecond : spokenText second = some late) :
  spokenText (first ++ second) = some (early ++ late) := by
  induction first generalizing early with
  | nil =>
    cases hFirst
    exact hSecond
  | cons event first ih =>
    obtain ⟨here, hHere, hRest⟩ := Option.bind_eq_some_iff.1 hFirst
    obtain ⟨rest, hLater, hSame⟩ := Option.bind_eq_some_iff.1 hRest
    cases hSame
    rw [List.cons_append, spokenText, hHere, ih hLater, List.append_assoc]
    rfl

theorem Speaks.append {first second : List PlatformInputItem}
  (hFirst : Speaks isUppercase first early) (hSecond : Speaks isUppercase second late) :
  Speaks isUppercase (first ++ second) (early ++ late) := by
  intro pump hQuiet
  obtain ⟨events, middle, hRun, hMiddle, hText⟩ := hFirst pump hQuiet
  obtain ⟨more, after, hLater, hAfter, hMore⟩ := hSecond middle hMiddle
  exact ⟨events ++ more, after, processAll_both hRun hLater, hAfter,
    spokenText_append hText hMore⟩

theorem Appends.append {first second : List PlatformInputItem}
  (hFirst : Appends isUppercase first early) (hSecond : Appends isUppercase second late) :
  Appends isUppercase (first ++ second) (early ++ late) := by
  intro pump bytes hPaste
  obtain ⟨events, middle, hRun, hMiddle, hNone⟩ := hFirst pump bytes hPaste
  obtain ⟨more, after, hLater, hAfter, hMore⟩ := hSecond middle _ hMiddle
  refine ⟨events ++ more, after, processAll_both hRun hLater, ?_, ?_⟩
  · rw [encode_append, ← List.append_assoc]
    exact hAfter
  · rw [List.filterMap_append, hNone, hMore, List.append_nil]

theorem speaks_nil : Speaks isUppercase [] [] := fun pump hQuiet => ⟨[], pump, rfl, hQuiet, rfl⟩

theorem appends_nil : Appends isUppercase [] [] := fun pump bytes hPaste =>
  ⟨[], pump, rfl, by rw [encode_nil, List.append_nil]; exact hPaste, rfl⟩

/-- The bytes of a character, one by one. -/
def charPieces (ch : Char) : List PlatformInputItem :=
  ((String.utf8EncodeChar ch).map fun byte => [byte]).map .bytes

theorem flatten_pieces (bytes : List UInt8) : (bytes.map fun byte => [byte]).flatten = bytes := by
  induction bytes with
  | nil => rfl
  | cons byte bytes ih => rw [List.map_cons, List.flatten_cons, ih, List.singleton_append]

theorem speaks_char {ch : Char} (hControl : isControl ch = false) :
  Speaks isUppercase (charPieces ch) [ch] := by
  intro pump hQuiet
  obtain ⟨modifiers, count, text, source, after, hRun, hAfter⟩ :=
    hQuiet.typed hControl (flatten_pieces (String.utf8EncodeChar ch))
  exact ⟨_, after, hRun, hAfter, rfl⟩

theorem appends_char {ch : Char} (hControl : isControl ch = false) :
  Appends isUppercase (charPieces ch) [ch] := by
  intro pump bytes hPaste
  have hPieces : ESC ∉ ((String.utf8EncodeChar ch).map fun byte => [byte]).flatten := by
    rw [flatten_pieces]
    exact not_mem_escape hControl
  obtain ⟨after, hRun, hAfter⟩ := hPaste.pieces hPieces
  refine ⟨[], after, hRun, ?_, rfl⟩
  rw [flatten_pieces] at hAfter
  rw [encode_cons, encode_nil, List.append_nil]
  exact hAfter

theorem speaks_key (data win32Data : List UInt8) {text : List Char}
  (hText : spokenText events = some text) :
  Speaks isUppercase [.pasteAwareKey data win32Data events] text := by
  intro pump hQuiet
  refine ⟨events, pump, ?_, hQuiet, hText⟩
  rw [processAll, hQuiet.key]
  simp [processAll]

theorem appends_key {text : List Char} (hText : ESC ∉ encode text)
  (events : List ClientInputEvent) :
  Appends isUppercase [.pasteAwareKey (encode text) (encode text) events] text := by
  intro pump bytes hPaste
  obtain ⟨after, hRun, hAfter⟩ := hPaste.key hText events
  refine ⟨[], after, ?_, hAfter, rfl⟩
  rw [processAll, hRun]
  simp [processAll]

theorem speaks_semantic {text : List Char} (hText : spokenText events = some text) :
  Speaks isUppercase (events.map .semantic) text := fun pump hQuiet =>
  ⟨events, pump, processAll_semantic hQuiet.semantic events, hQuiet, hText⟩

theorem appends_semantic (hNone : events.filterMap pasteText = []) :
  Appends isUppercase (events.map .semantic) [] := by
  intro pump bytes hPaste
  refine ⟨events, pump, processAll_semantic hPaste.semantic events, ?_, hNone⟩
  rw [encode_nil, List.append_nil]
  exact hPaste

/-! ## Units in the mapper and the pump -/

/-- The character that a unit completes on its way to a paste. -/
def pastedChar (pending register : Option Nat) (mode : KeyMode) (unit : Nat) : Option Char :=
  (utf16UnitToCharWithPending (if mode.packet then register else pending) unit).1

theorem translateWin32InputModeBytes_char {mapper : WindowsInputMapper}
  (hBuffer : mapper.win32Input = []) {ch : Char} (hControl : isControl ch = false) :
  mapper.translateWin32InputModeBytes (String.utf8EncodeChar ch) = (charPieces ch, mapper) := by
  have hPieces : ((String.utf8EncodeChar ch).map fun byte =>
      WindowsWin32InputModeItem.bytes [byte]) =
      ((String.utf8EncodeChar ch).map fun byte => [byte]).map .bytes := by
    rw [List.map_map]
    rfl
  obtain ⟨high, pasteHigh, buffer⟩ := mapper
  obtain rfl : buffer = [] := hBuffer
  simp only [translateWin32InputModeBytes,
    push_text (not_mem_escape hControl), hPieces,
    win32Items_bytes]
  rfl

/-- The mapper after a unit. -/
def afterUnit (mapper : WindowsInputMapper) (mode : KeyMode) (unit : Nat) : WindowsInputMapper where
  pendingHighSurrogate := (utf16UnitToCharWithPending mapper.pendingHighSurrogate unit).2
  pendingPasteHighSurrogate := TypedChar.unitRegister mapper.pendingPasteHighSurrogate mode unit
  win32Input := []

theorem spokenText_packetEvent (hUnit : Printing unit) (pending : Option Nat) :
  spokenText (packetEvent (utf16UnitToCharWithPending pending unit).1 unit
    .press).toList = some (utf16UnitToCharWithPending pending unit).1.toList := by
  cases hChar : (utf16UnitToCharWithPending pending unit).1 with
  | none =>
    rw [packetEvent_none (printable_none hChar hUnit)]
    rfl
  | some ch =>
    rw [packetEvent_some (utf16Unit_notControl hUnit hChar)]
    rfl

theorem translateKey_press (isUppercase : Char → Bool) (mapper : WindowsInputMapper)
  (hBuffer : mapper.win32Input = []) (mode : KeyMode) (hUnit : Printing unit) :
  ∃ items, mapper.translateKey (mode.record unit true) = (items, afterUnit mapper mode unit) ∧
    Speaks isUppercase items
      (utf16UnitToCharWithPending mapper.pendingHighSurrogate unit).1.toList ∧
    Appends isUppercase items
      (pastedChar mapper.pendingHighSurrogate mapper.pendingPasteHighSurrogate mode
        unit).toList := by
  cases hMode : mode.packet with
  | false =>
    have hAfter : { mapper with pendingHighSurrogate :=
        (utf16UnitToCharWithPending mapper.pendingHighSurrogate unit).2 } =
          afterUnit mapper mode unit := by
      rw [afterUnit, TypedChar.unitRegister, hMode, hBuffer]
      rfl
    rw [translateKey_direct mapper hMode hUnit, pastedChar, hMode, ← hAfter]
    simp only [Bool.false_eq_true, if_false]
    cases hDecoded : utf16UnitToCharWithPending mapper.pendingHighSurrogate unit with
    | mk found pending =>
      cases found with
      | none => exact ⟨[], rfl, speaks_nil, appends_nil⟩
      | some ch =>
        have hControl := utf16Unit_notControl hUnit (congrArg Prod.fst hDecoded)
        have hFed : { mapper with pendingHighSurrogate := pending }.win32Input = [] := hBuffer
        refine ⟨charPieces ch, ?_, speaks_char hControl, appends_char hControl⟩
        exact translateWin32InputModeBytes_char hFed hControl
  | true =>
    have hText := spokenText_packetEvent hUnit mapper.pendingHighSurrogate
    rw [translateKey_packet mapper hMode hUnit hBuffer, afterUnit,
      TypedChar.unitRegister, hMode, pastedChar, hMode]
    simp only [if_true]
    cases hChar : (utf16UnitToCharWithPending mapper.pendingPasteHighSurrogate unit).1 with
    | none =>
      exact ⟨_, rfl, speaks_semantic hText,
        appends_semantic (packetEvent_pasteText _ _ _)⟩
    | some ch =>
      have hOne : String.utf8EncodeChar ch = encode [ch] := by
        rw [encode_cons, encode_nil, List.append_nil]
      have hEscape : ESC ∉ encode [ch] := by
        rw [← hOne]
        exact not_mem_escape (utf16Unit_notControl hUnit hChar)
      refine ⟨_, rfl, speaks_key _ _ hText, ?_⟩
      have hKey := @appends_key isUppercase [ch] hEscape (packetEvent
        (utf16UnitToCharWithPending mapper.pendingHighSurrogate unit).1 unit .press).toList
      rw [← hOne] at hKey
      exact hKey

/-- A release changes nothing and has no text. -/
theorem translateKey_release (isUppercase : Char → Bool) (mapper : WindowsInputMapper)
  (mode : KeyMode) (hUnit : Printing unit) :
  ∃ items, (afterUnit mapper mode unit).translateKey (mode.record unit false) =
      (items, afterUnit mapper mode unit) ∧
    Speaks isUppercase items [] ∧ Appends isUppercase items [] := by
  cases hMode : mode.packet with
  | false =>
    exact ⟨[], translateKey_direct_release _ hMode unit, speaks_nil,
      appends_nil⟩
  | true =>
    have hSame : { afterUnit mapper mode unit with pendingHighSurrogate :=
        (utf16UnitToCharWithPending (afterUnit mapper mode unit).pendingHighSurrogate unit).2 } =
          afterUnit mapper mode unit := by
      rw [utf16Unit_pending hUnit _ mapper.pendingHighSurrogate]
      rfl
    have hEscape : ESC ∉ encode [] := by
      rw [encode_nil]
      exact List.not_mem_nil
    rw [translateKey_packet_release _ hMode hUnit rfl, hSame]
    exact ⟨_, rfl, speaks_key _ _ (packetEvent_release _ _),
      @appends_key isUppercase [] hEscape _⟩

/-- What the records of a unit do, whichever way they come. -/
theorem translateKeys_unit (isUppercase : Char → Bool) (mapper : WindowsInputMapper)
  (hBuffer : mapper.win32Input = []) (mode : KeyMode) (hUnit : Printing unit) :
  ∃ items, mapper.translateKeys (mode.records unit) = (items, afterUnit mapper mode unit) ∧
    Speaks isUppercase items
      (utf16UnitToCharWithPending mapper.pendingHighSurrogate unit).1.toList ∧
    Appends isUppercase items
      (pastedChar mapper.pendingHighSurrogate mapper.pendingPasteHighSurrogate mode
        unit).toList := by
  obtain ⟨pressed, hPress, hSpeaks, hAppends⟩ :=
    translateKey_press isUppercase mapper hBuffer mode hUnit
  obtain ⟨released, hRelease, hSilent, hNothing⟩ :=
    translateKey_release isUppercase mapper mode hUnit
  rw [KeyMode.records, translateKeys_cons, hPress]
  cases mode.release with
  | false =>
    refine ⟨pressed, ?_, hSpeaks, hAppends⟩
    simp [translateKeys]
  | true =>
    have hBoth := hSpeaks.append hSilent
    have hAll := hAppends.append hNothing
    rw [List.append_nil] at hBoth hAll
    refine ⟨pressed ++ released, ?_, hBoth, hAll⟩
    simp only [if_true, translateKeys_cons, hRelease,
      translateKeys, List.append_nil]

/-! ## Characters -/

/-- A register holds the high half of a character, if anything. -/
def HighRegister (register : Option Nat) : Prop :=
  ∀ high, register = some high → 0xd800 ≤ high ∧ high ≤ 0xdbff

theorem utf16Unit_char {ch : Char} (hControl : isControl ch = false) (hSmall : ch.toNat < 0x10000)
  (pending : Option Nat) : utf16UnitToCharWithPending pending ch.toNat = (some ch, none) := by
  have hRange := (isControl_iff ch).1 hControl
  have hValid : ch.toNat < 0xd800 ∨ 0xdfff < ch.toNat ∧ ch.toNat < 0x110000 := ch.valid
  unfold utf16UnitToCharWithPending
  rw [if_neg (by omega), if_neg (by omega), if_neg (by omega), charFromU32_toNat]

theorem utf16Unit_high (hFrom : 0xd800 ≤ unit) (hTo : unit ≤ 0xdbff) (pending : Option Nat) :
  utf16UnitToCharWithPending pending unit = (none, some unit) := by
  unfold utf16UnitToCharWithPending
  rw [if_neg (by omega), if_pos ⟨hFrom, hTo⟩]

theorem utf16Unit_low (hFrom : 0xdc00 ≤ unit) (hTo : unit ≤ 0xdfff) (pending : Option Nat) :
  utf16UnitToCharWithPending pending unit =
    (pending.bind fun high =>
      charFromU32 (0x10000 + ((high - 0xd800) * 0x400 + (unit - 0xdc00))), none) := by
  unfold utf16UnitToCharWithPending
  rw [if_neg (by omega), if_neg (by omega), if_pos ⟨hFrom, hTo⟩]

theorem utf16Units_cases {ch : Char} (hControl : isControl ch = false) :
  (utf16Units ch = [ch.toNat] ∧ ch.toNat < 0x10000 ∧ Printing ch.toNat) ∨
  ∃ high low, utf16Units ch = [high, low] ∧ 0xd800 ≤ high ∧ high ≤ 0xdbff ∧ 0xdc00 ≤ low ∧
    low ≤ 0xdfff ∧ ch.toNat = 0x10000 + ((high - 0xd800) * 0x400 + (low - 0xdc00)) := by
  have hValid : ch.toNat < 0xd800 ∨ 0xdfff < ch.toNat ∧ ch.toNat < 0x110000 := ch.valid
  unfold utf16Units
  split
  case isTrue hSmall => exact Or.inl ⟨rfl, hSmall, (isControl_iff ch).1 hControl⟩
  case isFalse hLarge =>
    exact Or.inr ⟨_, _, rfl, by omega, by omega, by omega, by omega, by omega⟩

theorem charFromU32_halves {ch : Char} {high low : Nat}
  (hWhole : ch.toNat = 0x10000 + ((high - 0xd800) * 0x400 + (low - 0xdc00))) :
  charFromU32 (0x10000 + ((high - 0xd800) * 0x400 + (low - 0xdc00))) = some ch := by
  rw [← hWhole, charFromU32_toNat]

theorem high_of_charFromU32 {ch : Char} {high low found : Nat} (hHigh : 0xd800 ≤ high)
  (hFound : 0xd800 ≤ found)
  (hWhole : ch.toNat = 0x10000 + ((high - 0xd800) * 0x400 + (low - 0xdc00)))
  (hChar : charFromU32 (0x10000 + ((found - 0xd800) * 0x400 + (low - 0xdc00))) = some ch) :
  found = high := by
  have hCode := toNat_of_charFromU32 hChar
  omega

theorem HighRegister.unitRegister {register : Option Nat} (hRegister : HighRegister register)
  (mode : KeyMode) (unit : Nat) : HighRegister (TypedChar.unitRegister register mode unit) := by
  unfold TypedChar.unitRegister
  split
  case isFalse => exact hRegister
  case isTrue =>
    unfold utf16UnitToCharWithPending
    split
    · exact hRegister
    split
    case isTrue hHigh =>
      intro high hSome
      cases hSome
      exact hHigh
    case isFalse => split <;> exact fun high hSome => nomatch hSome

theorem HighRegister.register {register : Option Nat} (hRegister : HighRegister register)
  (typed : TypedChar) : HighRegister (typed.register register) := by
  unfold TypedChar.register
  obtain ⟨hUnits, -, -⟩ | ⟨high, low, hUnits, -⟩ := utf16Units_cases typed.notControl
  · rw [hUnits]
    exact hRegister.unitRegister typed.first _
  · rw [hUnits]
    exact (hRegister.unitRegister typed.first high).unitRegister typed.second low

namespace TypedChar

/-- What of a character reaches a paste. -/
def arrived (register : Option Nat) (typed : TypedChar) : Option Char :=
  match utf16Units typed.ch with
  | [high, low] =>
    pastedChar (some high) (unitRegister register typed.first high) typed.second low
  | _ => some typed.ch

theorem arrived_iff {register : Option Nat} (hRegister : HighRegister register)
  (typed : TypedChar) : typed.arrived register = some typed.ch ↔ typed.Carried register := by
  unfold arrived Carried
  obtain ⟨hUnits, -, -⟩ | ⟨high, low, hUnits, hHigh, hHighTo, hLow, hLowTo, hWhole⟩ :=
    utf16Units_cases typed.notControl
  · rw [hUnits]
    exact iff_of_true rfl trivial
  · rw [hUnits]
    simp only [pastedChar, utf16Unit_low hLow hLowTo]
    cases typed.second.packet with
    | false =>
      refine iff_of_true ?_ fun hPacket => nomatch hPacket
      rw [if_neg Bool.false_ne_true, Option.bind_some, charFromU32_halves hWhole]
    | true =>
      rw [if_pos rfl]
      constructor
      · intro hArrived _
        obtain ⟨found, hFound, hChar⟩ := Option.bind_eq_some_iff.1 hArrived
        obtain ⟨hFrom, -⟩ := hRegister.unitRegister typed.first high found hFound
        rw [hFound, high_of_charFromU32 hHigh hFrom hWhole hChar]
      · intro hCarried
        rw [hCarried rfl, Option.bind_some, charFromU32_halves hWhole]

/-- What of a text reaches a paste. -/
def arrivedText (register : Option Nat) : List TypedChar → List Char
  | [] => []
  | typed :: text => (typed.arrived register).toList ++ arrivedText (typed.register register) text

theorem length_arrivedText_le (register : Option Nat) (text : List TypedChar) :
  (arrivedText register text).length ≤ text.length := by
  induction text generalizing register with
  | nil => exact Nat.le_refl 0
  | cons typed text ih =>
    have hRest := ih (typed.register register)
    rw [arrivedText, List.length_append, List.length_cons]
    cases typed.arrived register with
    | none => exact Nat.le_succ_of_le (by simpa using hRest)
    | some ch =>
      rw [Option.toList_some, List.length_singleton]
      omega

/-- A whole text arrives just when each of its characters does. -/
theorem arrivedText_iff {register : Option Nat} (hRegister : HighRegister register)
  (text : List TypedChar) :
  arrivedText register text = text.map ch ↔
    Transition.AllowedAlong TypedChar.register Carried register text := by
  induction text generalizing register with
  | nil => exact iff_of_true rfl trivial
  | cons typed text ih =>
    rw [Transition.AllowedAlong, ← ih (hRegister.register typed),
      ← arrived_iff hRegister, arrivedText, List.map_cons]
    cases hArrived : typed.arrived register with
    | none =>
      refine iff_of_false ?_ fun hBoth => nomatch hBoth.1
      intro hSame
      have hLess := length_arrivedText_le (typed.register register) text
      have hLength := congrArg List.length hSame
      simp only [Option.toList_none, List.nil_append, List.length_cons, List.length_map]
        at hLength
      omega
    | some found =>
      rw [Option.toList_some, List.singleton_append, List.cons.injEq, Option.some.injEq]

end TypedChar

/-- A mapper between characters, with what is left in the register of pastes. -/
def mapperBetween (register : Option Nat) : WindowsInputMapper := ⟨none, register, []⟩

/-- What the records of a character do. -/
theorem translateKeys_typed (isUppercase : Char → Bool) (register : Option Nat)
  (typed : TypedChar) :
  ∃ items, (mapperBetween register).translateKeys typed.records =
      (items, mapperBetween (typed.register register)) ∧
    Speaks isUppercase items [typed.ch] ∧
    Appends isUppercase items (typed.arrived register).toList := by
  unfold TypedChar.records TypedChar.register TypedChar.arrived
  obtain ⟨hUnits, hSmall, hUnit⟩ | ⟨high, low, hUnits, hHigh, hHighTo, hLow, hLowTo, hWhole⟩ :=
    utf16Units_cases typed.notControl
  · obtain ⟨items, hRun, hSpeaks, hAppends⟩ := translateKeys_unit isUppercase
      (mapperBetween register) rfl typed.first hUnit
    rw [hUnits]
    simp only [List.flatMap_singleton, List.foldl_cons, List.foldl_nil]
    refine ⟨items, ?_, ?_, ?_⟩
    · rw [hRun, afterUnit, utf16Unit_char typed.notControl hSmall]
      rfl
    · rw [utf16Unit_char typed.notControl hSmall] at hSpeaks
      exact hSpeaks
    · rw [pastedChar, utf16Unit_char typed.notControl hSmall] at hAppends
      exact hAppends
  · have hHighPrints : Printing high := ⟨by omega, by omega⟩
    have hLowPrints : Printing low := ⟨by omega, by omega⟩
    obtain ⟨first, hFirst, hSilent, hNothing⟩ := translateKeys_unit isUppercase
      (mapperBetween register) rfl typed.first hHighPrints
    obtain ⟨second, hSecond, hSpeaks, hAppends⟩ := translateKeys_unit isUppercase
      (afterUnit (mapperBetween register) typed.first high) rfl typed.second hLowPrints
    have hKept : (afterUnit (mapperBetween register) typed.first high).pendingHighSurrogate =
        some high := by
      rw [afterUnit, utf16Unit_high hHigh hHighTo]
    rw [hKept] at hSpeaks hAppends
    rw [utf16Unit_high hHigh hHighTo] at hSilent
    have hDropped : pastedChar (mapperBetween register).pendingHighSurrogate
        (mapperBetween register).pendingPasteHighSurrogate typed.first high = none := by
      rw [pastedChar, utf16Unit_high hHigh hHighTo]
    rw [hDropped] at hNothing
    rw [utf16Unit_low hLow hLowTo, Option.bind_some, charFromU32_halves hWhole] at hSpeaks
    rw [hUnits]
    refine ⟨first ++ second, ?_, hSilent.append hSpeaks, hNothing.append hAppends⟩
    rw [translateKeys_append, hFirst]
    simp only [hSecond]
    rw [afterUnit, utf16Unit_low hLow hLowTo]
    rfl

theorem translateKeys_text (isUppercase : Char → Bool) (register : Option Nat)
  (text : List TypedChar) :
  ∃ items, (mapperBetween register).translateKeys (text.flatMap TypedChar.records) =
      (items, mapperBetween (text.foldl TypedChar.register register)) ∧
    Speaks isUppercase items (text.map TypedChar.ch) ∧
    Appends isUppercase items (TypedChar.arrivedText register text) := by
  induction text generalizing register with
  | nil => exact ⟨[], rfl, speaks_nil, appends_nil⟩
  | cons typed text ih =>
    obtain ⟨first, hFirst, hSpeaks, hAppends⟩ := translateKeys_typed isUppercase register typed
    obtain ⟨rest, hRest, hMore, hBehind⟩ := ih (typed.register register)
    refine ⟨first ++ rest, ?_, hSpeaks.append hMore, hAppends.append hBehind⟩
    rw [List.flatMap_cons, translateKeys_append, hFirst]
    simp only [hRest, List.foldl_cons]

/-! ## Markers -/

/-- A byte that a marker may have. -/
def MarkerByte (byte : UInt8) : Prop := byte = ESC ∨ 32 ≤ byte.toNat ∧ byte.toNat < 127

instance (byte : UInt8) : Decidable (MarkerByte byte) := inferInstanceAs (Decidable (_ ∨ _))

theorem utf16Unit_byte (byte : UInt8) (hByte : 32 ≤ byte.toNat ∧ byte.toNat < 127) :
  ∃ ch, utf16UnitToCharWithPending none byte.toNat = (some ch, none) ∧
    String.utf8EncodeChar ch = [byte] := by
  have hAll : ∀ byte : UInt8, 32 ≤ byte.toNat ∧ byte.toNat < 127 →
      (utf16UnitToCharWithPending none byte.toNat).1.map String.utf8EncodeChar = some [byte] ∧
        (utf16UnitToCharWithPending none byte.toNat).2 = none :=
    forall_byte (by decide +kernel)
  obtain ⟨hChar, hNone⟩ := hAll byte hByte
  obtain ⟨ch, hFound, hEncoded⟩ := Option.map_eq_some_iff.1 hChar
  exact ⟨ch, Prod.ext hFound hNone, hEncoded⟩

section

variable (register : Option Nat)

/-- The press of a byte of a marker. -/
theorem translateKey_byte (buffer : List UInt8) (mode : KeyMode)
  (hMode : mode.packet = false) {byte : UInt8} (hByte : MarkerByte byte) :
  (⟨none, register, buffer⟩ : WindowsInputMapper).translateKey (mode.record byte.toNat true) =
    (⟨none, register, buffer⟩ : WindowsInputMapper).translateWin32InputModeBytes [byte] := by
  obtain rfl | hPrints := hByte
  · have hRaw : (mode.record ESC.toNat true).isRawEscape = true := by
      have hModifiers : windowsKeyModifiers (mode.record ESC.toNat true).controlKeyState =
          empty := mode.noModifiers
      have hKey : (mode.record ESC.toNat true).virtualKeyCode = 0 := by
        rw [KeyMode.record, hMode]
        rfl
      unfold isRawEscape
      rw [hModifiers, hKey]
      rfl
    have hEmit : (mode.record ESC.toNat true).canEmitEvent = true := rfl
    rw [translateKey, hEmit, hRaw, if_neg (by decide), if_pos rfl]
    rfl
  · obtain ⟨ch, hChar, hEncoded⟩ := utf16Unit_byte byte hPrints
    rw [translateKey_direct _ hMode ⟨hPrints.1, Or.inl hPrints.2⟩]
    simp only [hChar, hEncoded]

theorem translateKeys_byte (buffer : List UInt8) (mode : KeyMode)
  (hMode : mode.packet = false) {byte : UInt8} (hByte : MarkerByte byte)
  {pieces : List (List UInt8)} {kept : List UInt8}
  (hPush : push buffer [byte] = (pieces.map .bytes, kept)) :
  (⟨none, register, buffer⟩ : WindowsInputMapper).translateKeys (mode.records byte.toNat) =
    (pieces.map .bytes, ⟨none, register, kept⟩) := by
  rw [KeyMode.records, translateKeys_cons,
    translateKey_byte register buffer mode hMode hByte,
    translateWin32InputModeBytes, hPush]
  simp only [win32Items_bytes]
  cases mode.release with
  | false => simp [translateKeys]
  | true =>
    simp [translateKeys_cons, translateKeys,
      translateKey_direct_release _ hMode]

/-- A marker goes through the framer of records in pieces. -/
theorem translateKeys_marker (buffer : List UInt8) (mode : KeyMode)
  {marker : List UInt8} (hBytes : ∀ byte ∈ marker, MarkerByte byte)
  {pieces : List (List UInt8)} {kept : List UInt8}
  (hPush : pushAll buffer (marker.map fun byte => [byte]) =
    (pieces.map .bytes, kept)) :
  (⟨none, register, buffer⟩ : WindowsInputMapper).translateKeys (markerRecords mode marker) =
    (pieces.map .bytes, ⟨none, register, kept⟩) := by
  induction marker generalizing buffer pieces with
  | nil =>
    obtain ⟨hNone, rfl⟩ := Prod.mk.inj hPush
    obtain rfl := List.map_eq_nil_iff.1 hNone.symm
    rfl
  | cons byte marker ih =>
    obtain ⟨hByte, hRest⟩ := List.forall_mem_cons.1 hBytes
    rw [List.map_cons, pushAll] at hPush
    obtain ⟨hPieces, hKept⟩ := Prod.mk.inj hPush
    obtain ⟨first, rest, rfl, hFirst, hLater⟩ := List.map_eq_append_iff.1 hPieces.symm
    have hHere : push buffer [byte] =
        (first.map .bytes, (push buffer [byte]).2) :=
      Prod.ext hFirst.symm rfl
    have hBehind := ih (push buffer [byte]).2 hRest
      (Prod.ext hLater.symm hKept)
    have hOne := translateKeys_byte register buffer { mode with packet := false } rfl hByte hHere
    rw [markerRecords, List.flatMap_cons, translateKeys_append, hOne]
    rw [markerRecords] at hBehind
    simp only [hBehind, List.map_append]

theorem translateKeys_start (mode : KeyMode) :
  (mapperBetween register).translateKeys (markerRecords mode bracketedPasteStart) =
    ((bracketedPasteStart.map fun byte => [byte]).map .bytes, mapperBetween register) :=
  translateKeys_marker register [] mode (by decide +kernel) (by decide +kernel)

theorem translateKeys_finish (mode : KeyMode) :
  (mapperBetween register).translateKeys (markerRecords mode bracketedPasteEnd) =
    ((bracketedPasteEnd.map fun byte => [byte]).map .bytes, mapperBetween register) :=
  translateKeys_marker register [] mode (by decide +kernel) (by decide +kernel)

end

/-! ## Segments -/

/-- The text of a paste as it arrives. -/
def Segment.Result (register : Option Nat) (events : List ClientInputEvent) : Segment → Prop
  | .typed text => spokenText events = some (text.map TypedChar.ch)
  | .pasted _ _ text => events.filterMap pasteText = [TypedChar.arrivedText register text]

theorem translateAll_segment (isUppercase : Char → Bool) (register : Option Nat)
  {pump : WindowsInputPump} (hQuiet : pump.Quiet) (segment : Segment) :
  ∃ events after,
    (WindowsInput.mk (mapperBetween register) pump).translateAll isUppercase segment.records =
      some (events, ⟨mapperBetween (segment.register register), after⟩) ∧
    after.Quiet ∧ segment.Result register events := by
  cases segment with
  | typed text =>
    obtain ⟨items, hKeys, hSpeaks, -⟩ := translateKeys_text isUppercase register text
    obtain ⟨events, after, hRun, hAfter, hText⟩ := hSpeaks pump hQuiet
    refine ⟨events, after, ?_, hAfter, hText⟩
    rw [translateAll_eq, Segment.records]
    simp only [hKeys, hRun, Option.map_some]
    rfl
  | pasted start finish text =>
    obtain ⟨items, hKeys, -, hAppends⟩ := translateKeys_text isUppercase register text
    obtain ⟨inside, hStart, hInside⟩ :=
      @Quiet.start isUppercase _ hQuiet _ (flatten_pieces bracketedPasteStart)
    obtain ⟨events, filled, hText, hFilled, hNone⟩ := hAppends inside [] hInside
    rw [List.nil_append] at hFilled
    obtain ⟨after, hFinish, hAfter⟩ :=
      @InPaste.finish isUppercase _ _ hFilled _
        (flatten_pieces bracketedPasteEnd)
    refine ⟨events ++ [.paste (TypedChar.arrivedText register text)], after, ?_, hAfter, ?_⟩
    · have hAll := processAll_both hStart
        (processAll_both hText hFinish)
      rw [translateAll_eq, Segment.records]
      simp only [translateKeys_append, translateKeys_start, hKeys,
        translateKeys_finish, hAll, Option.map_some, List.nil_append]
      rfl
    · rw [Segment.Result, List.filterMap_append, hNone]
      rfl

namespace WindowsInput

theorem translateAll_append (isUppercase : Char → Bool) (input : WindowsInput)
  (first second : List WindowsKeyRecord) :
  input.translateAll isUppercase (first ++ second) =
    (input.translateAll isUppercase first).bind fun (early, middle) =>
      (middle.translateAll isUppercase second).map fun (late, after) =>
        (early ++ late, after) := by
  induction first generalizing input with
  | nil => simp [translateAll]
  | cons key first ih =>
    rw [List.cons_append, translateAll, translateAll]
    cases input.translate isUppercase key with
    | none => rfl
    | some done =>
      obtain ⟨events, middle⟩ := done
      simp only [ih, Option.bind_eq_bind, Option.bind_some]
      cases middle.translateAll isUppercase first with
      | none => rfl
      | some rest =>
        obtain ⟨late, last⟩ := rest
        simp only [Option.bind_some, Option.map_eq_bind]
        cases last.translateAll isUppercase second <;> simp

end WindowsInput

theorem translateAll_history (isUppercase : Char → Bool) (register : Option Nat)
  {pump : WindowsInputPump} (hQuiet : pump.Quiet) (history : List Segment) :
  ∃ events after,
    (WindowsInput.mk (mapperBetween register) pump).translateAll isUppercase
        (history.flatMap Segment.records) =
      some (events, ⟨mapperBetween (history.foldl Segment.register register), after⟩) ∧
    after.Quiet := by
  induction history generalizing register pump with
  | nil => exact ⟨[], pump, rfl, hQuiet⟩
  | cons segment history ih =>
    obtain ⟨early, middle, hFirst, hMiddle, -⟩ :=
      translateAll_segment isUppercase register hQuiet segment
    obtain ⟨late, after, hRest, hAfter⟩ := ih (segment.register register) hMiddle
    refine ⟨early ++ late, after, ?_, hAfter⟩
    rw [List.flatMap_cons, WindowsInput.translateAll_append, hFirst, Option.bind_some]
    simp only [hRest, Option.map_some, List.foldl_cons]

theorem HighRegister.foldl {register : Option Nat} (hRegister : HighRegister register)
  (history : List Segment) : HighRegister (history.foldl Segment.register register) := by
  have hText : ∀ (text : List TypedChar) (register : Option Nat), HighRegister register →
      HighRegister (text.foldl TypedChar.register register) := by
    intro text
    induction text with
    | nil => exact fun register hHigh => hHigh
    | cons typed text ih => exact fun register hHigh => ih _ (hHigh.register typed)
  induction history generalizing register with
  | nil => exact hRegister
  | cons segment history ih => exact ih (hText segment.text register hRegister)

/-- Each low half of the paste that comes as VK_PACKET finds its own high half in the register
of pastes. -/
def Segment.Reassembles (register : Option Nat) : Segment → Prop
  | .typed _ => True
  | .pasted _ _ text =>
    Transition.AllowedAlong TypedChar.register TypedChar.Carried register text

/-- Text is delivered as it is outside a paste, and in a paste just when its halves that come
as VK_PACKET are put together. -/
theorem delivers_iff (isUppercase : Char → Bool) (history : List Segment) (segment : Segment) :
  Delivers isUppercase history segment ↔
    segment.Reassembles (history.foldl Segment.register none) := by
  have hFresh : WindowsInput.fresh.pump.Quiet :=
    ⟨RawInputByteFramer.fresh_withHostInputPolicy false, rfl⟩
  have hNone : HighRegister none := by
    intro high hSome
    cases hSome
  have hRegister := hNone.foldl history
  obtain ⟨before, pump, hHistory, hQuiet⟩ :=
    translateAll_history isUppercase none hFresh history
  obtain ⟨events, after, hRun, -, hResult⟩ :=
    translateAll_segment isUppercase (history.foldl Segment.register none) hQuiet segment
  have hSame : WindowsInput.fresh = ⟨mapperBetween none, WindowsInput.fresh.pump⟩ := rfl
  rw [← hSame] at hHistory
  have hDelivers : Delivers isUppercase history segment ↔ segment.Spelled events := by
    constructor
    · rintro ⟨_, _, _, _, hBefore, hInput, hText⟩
      obtain ⟨rfl, rfl⟩ := Prod.mk.inj (Option.some.inj (hHistory.symm.trans hBefore))
      obtain ⟨rfl, rfl⟩ := Prod.mk.inj (Option.some.inj (hRun.symm.trans hInput))
      exact hText
    · exact fun hText => ⟨before, _, events, _, hHistory, hRun, hText⟩
  rw [hDelivers]
  cases segment with
  | typed text => exact iff_of_true hResult trivial
  | pasted start finish text =>
    have hPaste : events.filterMap pasteText =
        [TypedChar.arrivedText (history.foldl Segment.register none) text] := hResult
    rw [Segment.Spelled, hPaste, List.cons.injEq, and_iff_left rfl]
    exact TypedChar.arrivedText_iff hRegister text

/-- A mode without modifiers. -/
def plainMode (packet : Bool) : KeyMode where
  packet
  release := false
  scanCode := 0
  controlKeyState := 0
  noModifiers := by decide

/-- A paste of an emoji whose low half alone comes as VK_PACKET. -/
def mixedPaste : Segment :=
  .pasted (plainMode false) (plainMode false)
    [{ ch := '😀', notControl := by decide, first := plainMode false, second := plainMode true }]

theorem not_delivers_mixedPaste :
  ¬ ∀ (isUppercase : Char → Bool) (history : List Segment) (segment : Segment),
    Delivers isUppercase history segment := by
  intro hAll
  obtain ⟨before, input, events, after, hBefore, hRun, hText⟩ := hAll Char.isUpper [] mixedPaste
  cases hBefore
  have hCase : ((WindowsInput.fresh.translateAll Char.isUpper mixedPaste.records).map
      fun done => done.1.filterMap pasteText) = some [[]] := by decide +kernel
  rw [hRun] at hCase
  have hPaste : events.filterMap pasteText = [['😀']] := hText
  rw [Option.map_some, hPaste] at hCase
  cases hCase

end Input
