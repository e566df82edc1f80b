import VimeflowTerminal.Input.RawInput

/-! A client on Windows sends its input as events, and the server makes them into raw events again.
Which keybinding a key matches is asked on both sides. -/

namespace Input

inductive ClientKeyKind where
  | press
  | «repeat»
  | release
  deriving DecidableEq

namespace ClientKeyKind

def fromCrossterm : KeyEventKind → ClientKeyKind
  | .press => .press
  | .repeat => .repeat
  | .release => .release

def toCrossterm : ClientKeyKind → KeyEventKind
  | .press => .press
  | .repeat => .repeat
  | .release => .release

theorem toCrossterm_fromCrossterm (kind : KeyEventKind) :
  (fromCrossterm kind).toCrossterm = kind := by
  cases kind <;> rfl

end ClientKeyKind

inductive ClientKeyCode where
  | backspace
  | enter
  | left
  | right
  | up
  | down
  | home
  | «end»
  | pageUp
  | pageDown
  | tab
  | backTab
  | delete
  | insert
  | esc
  | char (ch : Char)
  | f (n : UInt8)
  | null
  deriving DecidableEq

namespace ClientKeyCode

def fromCrossterm : KeyCode → Option ClientKeyCode
  | .backspace => some .backspace
  | .enter => some .enter
  | .left => some .left
  | .right => some .right
  | .up => some .up
  | .down => some .down
  | .home => some .home
  | .end => some .end
  | .pageUp => some .pageUp
  | .pageDown => some .pageDown
  | .tab => some .tab
  | .backTab => some .backTab
  | .delete => some .delete
  | .insert => some .insert
  | .esc => some .esc
  | .char ch => some (.char ch)
  | .f n => some (.f n)
  | .null => some .null
  | _ => none

def toCrossterm : ClientKeyCode → KeyCode
  | .backspace => .backspace
  | .enter => .enter
  | .left => .left
  | .right => .right
  | .up => .up
  | .down => .down
  | .home => .home
  | .end => .end
  | .pageUp => .pageUp
  | .pageDown => .pageDown
  | .tab => .tab
  | .backTab => .backTab
  | .delete => .delete
  | .insert => .insert
  | .esc => .esc
  | .char ch => .char ch
  | .f n => .f n
  | .null => .null

theorem toCrossterm_of_fromCrossterm {code : KeyCode} {wire : ClientKeyCode}
  (hCode : fromCrossterm code = some wire) : wire.toCrossterm = code := by
  cases code <;> cases hCode <;> rfl

end ClientKeyCode

inductive ClientMouseButton where
  | left
  | right
  | middle
  deriving DecidableEq

namespace ClientMouseButton

def fromCrossterm : MouseButton → ClientMouseButton
  | .left => .left
  | .right => .right
  | .middle => .middle

def toCrossterm : ClientMouseButton → MouseButton
  | .left => .left
  | .right => .right
  | .middle => .middle

theorem toCrossterm_fromCrossterm (button : MouseButton) :
  (fromCrossterm button).toCrossterm = button := by
  cases button <;> rfl

end ClientMouseButton

inductive ClientMouseKind where
  | down (button : ClientMouseButton)
  | up (button : ClientMouseButton)
  | drag (button : ClientMouseButton)
  | moved
  | scrollUp
  | scrollDown
  | scrollLeft
  | scrollRight
  deriving DecidableEq

namespace ClientMouseKind

def fromCrossterm : MouseEventKind → Option ClientMouseKind
  | .down button => some (.down (.fromCrossterm button))
  | .up button => some (.up (.fromCrossterm button))
  | .drag button => some (.drag (.fromCrossterm button))
  | .moved => some .moved
  | .scrollUp => some .scrollUp
  | .scrollDown => some .scrollDown
  | .scrollLeft => some .scrollLeft
  | .scrollRight => some .scrollRight

def toCrossterm : ClientMouseKind → MouseEventKind
  | .down button => .down button.toCrossterm
  | .up button => .up button.toCrossterm
  | .drag button => .drag button.toCrossterm
  | .moved => .moved
  | .scrollUp => .scrollUp
  | .scrollDown => .scrollDown
  | .scrollLeft => .scrollLeft
  | .scrollRight => .scrollRight

theorem toCrossterm_of_fromCrossterm {kind : MouseEventKind} {wire : ClientMouseKind}
  (hKind : fromCrossterm kind = some wire) : wire.toCrossterm = kind := by
  cases kind <;> cases hKind <;>
    simp only [toCrossterm, ClientMouseButton.toCrossterm_fromCrossterm]

end ClientMouseKind

/-- The source of a key: what the bytes of the key tell, or the record of the console. -/
inductive ClientKeySource where
  | synthesized
  | vt (bytes : List UInt8)
  | windowsConsole (record : WindowsKeyRecord)
  deriving DecidableEq

inductive ClientInputEvent where
  | key (code : ClientKeyCode) (modifiers : UInt8) (kind : ClientKeyKind) (repeatCount : UInt16)
      (generatedText : Option String) (source : ClientKeySource)
  | textCommit (text : List Char)
  | mouse (kind : ClientMouseKind) (column row : Nat) (modifiers : UInt8)
  | paste (text : List Char)
  | focusGained
  | focusLost
  deriving DecidableEq

/-- The source of the key that the server makes. -/
def ClientKeySource.apply (key : TerminalKey) : ClientKeySource → TerminalKey
  | .synthesized => key
  | .vt bytes => key.withVtBytes bytes
  | .windowsConsole record => key.withWindowsRecord record

def ClientInputEvent.toRawInputEvent : ClientInputEvent → RawInputEvent
  | .key code modifiers kind repeatCount generatedText source =>
    let key := (TerminalKey.new code.toCrossterm (.fromBitsTruncate modifiers)).withGeneratedText
      generatedText
    .key (((source.apply key).withRepeatCount repeatCount).withKind kind.toCrossterm)
  | .textCommit text => .text text
  | .mouse kind column row modifiers =>
    .mouse ⟨kind.toCrossterm, column, row, .fromBitsTruncate modifiers⟩
  | .paste text => .paste text
  | .focusGained => .outerFocusGained
  | .focusLost => .outerFocusLost

namespace TerminalKey

def vtBytes (key : TerminalKey) : Option (List UInt8) :=
  match key.source with
  | .vt bytes => some bytes
  | .synthesized | .windowsConsole .. => none

def windowsRecord (key : TerminalKey) : Option WindowsKeyRecord :=
  match key.source with
  | .windowsConsole record _ => some record
  | .synthesized | .vt _ => none

end TerminalKey

def windowsClientInputEventFromRaw : RawInputEvent → Option ClientInputEvent
  | .text text => some (.textCommit text)
  | .key key =>
    (ClientKeyCode.fromCrossterm key.code).map fun code =>
      let source : ClientKeySource :=
        match key.vtBytes with
        | some bytes => .vt bytes
        | none =>
          match key.windowsRecord with
          | some record => .windowsConsole record
          | none => .synthesized
      .key code key.modifiers.bits (.fromCrossterm key.kind) key.repeatCount key.generatedText
        source
  | .mouse event =>
    (ClientMouseKind.fromCrossterm event.kind).map fun kind =>
      .mouse kind event.column event.row event.modifiers.bits
  | .paste text => some (.paste text)
  | .outerFocusGained => some .focusGained
  | .outerFocusLost => some .focusLost
  | .hostDefaultColor .. | .hostPaletteColors _ | .hostColorSchemeChanged _
  | .hostCellSizeReport .. | .unsupported => none

/-- A key with the modifiers it is bound with. -/
abbrev KeyCombo := KeyCode × KeyModifiers

def normalizeKeyCombo : KeyCombo → KeyCombo
  | (.tab, modifiers) =>
    if modifiers.shift then (.backTab, { modifiers with shift := false }) else (.tab, modifiers)
  | (.backTab, modifiers) => (.backTab, { modifiers with shift := false })
  | combo => combo

def isShiftedPunctuation (ch : Char) : Bool := "!@#$%^&*()_+\x7b\x7d|:\"<>?~".toList.contains ch

def shiftedCharMatchesExpected (actualCode : KeyCode) (shiftedCodepoint : Option UInt32)
  (expectedCode : KeyCode) : Bool :=
  match expectedCode with
  | .char expected =>
    shiftedCodepoint.bind (fun codepoint => charFromU32 codepoint.toNat) = some expected ||
      decide (actualCode = .char expected) && isShiftedPunctuation expected
  | _ => false

def keyCodesMatch (actual : KeyCode) (actualModifiers : KeyModifiers) (expected : KeyCode)
  (expectedModifiers : KeyModifiers) (shiftedCodepoint : Option UInt32) : Bool :=
  match actual, expected with
  | .char actual, .char expected =>
    if actual.isAlpha && expected.isAlpha then
      decide (actual = expected) || actualModifiers.shift && expectedModifiers.shift &&
        decide (actual.toLower = expected.toLower)
    else
      decide (actual = expected) ||
        shiftedCharMatchesExpected (.char actual) shiftedCodepoint (.char expected)
  | actual, expected => actual = expected

/-- A terminal that only sends the upper-case letter. -/
def legacyShiftedAsciiLetterMatches (actualCode : KeyCode) (actualModifiers : KeyModifiers)
  (expectedCode : KeyCode) (expectedModifiers : KeyModifiers) : Bool :=
  match actualCode, expectedCode with
  | .char actual, .char expected =>
    !actualModifiers.shift && actual.isUpper && expected.isLower &&
      decide (actual.toLower = expected) &&
      decide ({ actualModifiers with shift := true } = expectedModifiers)
  | _, _ => false

def keyPartsMatchCombo (code : KeyCode) (modifiers : KeyModifiers)
  (shiftedCodepoint : Option UInt32) (combo : KeyCombo) : Bool :=
  let (actualCode, actualModifiers) := normalizeKeyCombo (code, modifiers)
  let (expectedCode, expectedModifiers) := normalizeKeyCombo combo
  decide (actualModifiers = expectedModifiers) &&
      keyCodesMatch actualCode actualModifiers expectedCode expectedModifiers shiftedCodepoint ||
    actualModifiers.shift && decide ({ actualModifiers with shift := false } = expectedModifiers) &&
      shiftedCharMatchesExpected actualCode shiftedCodepoint expectedCode ||
    legacyShiftedAsciiLetterMatches actualCode actualModifiers expectedCode expectedModifiers

def terminalKeyMatchesCombo (key : TerminalKey) (combo : KeyCombo) : Bool :=
  keyPartsMatchCombo key.code key.modifiers key.shiftedCodepoint combo

/-- Whether the event is a key that the binding is for. -/
def RawInputEvent.matchesCombo (combo : KeyCombo) : RawInputEvent → Bool
  | .key terminalKey => terminalKeyMatchesCombo terminalKey combo
  | _ => false

namespace TerminalKey

/-- What every constructor of a key keeps. -/
structure WellFormed (key : TerminalKey) : Prop where
  released : key.kind = .release → key.repeatCount = 1 ∧ key.generatedText = none
  repeated : key.repeatCount ≠ 0
  physical : ∀ record physicalKey, key.source = .windowsConsole record physicalKey →
    physicalKey = record.physicalKeyId

theorem max_one {count : UInt16} (hCount : count ≠ 0) : max count 1 = count := by
  change (if count ≤ 1 then 1 else count) = count
  split
  case isFalse => rfl
  case isTrue hLe =>
    have hZero : count.toNat ≠ 0 := fun hZero => hCount (UInt16.toNat_inj.1 hZero)
    have hOne : count.toNat ≤ 1 := UInt16.le_iff_toNat_le.1 hLe
    exact UInt16.toNat_inj.1 (Nat.le_antisymm (Nat.one_le_iff_ne_zero.2 hZero) hOne)

theorem max_one_ne_zero (count : UInt16) : max count 1 ≠ 0 := by
  by_cases hCount : count = 0
  · rw [hCount]
    decide
  · rwa [max_one hCount]

theorem wellFormed_new (code : KeyCode) (modifiers : KeyModifiers) :
  (new code modifiers).WellFormed where
  released := nofun
  repeated := by simp [new]
  physical := nofun

namespace WellFormed

variable {key : TerminalKey} (hKey : key.WellFormed)
include hKey

theorem withKind (kind : KeyEventKind) : (key.withKind kind).WellFormed := by
  unfold TerminalKey.withKind
  split
  case isTrue => exact ⟨fun _ => ⟨rfl, rfl⟩, by simp, hKey.physical⟩
  case isFalse hKind => exact ⟨fun hRelease => absurd hRelease hKind, hKey.repeated, hKey.physical⟩

theorem withRepeatCount (count : UInt16) : (key.withRepeatCount count).WellFormed where
  released hRelease := ⟨if_pos hRelease, (hKey.released hRelease).2⟩
  repeated := by
    simp only [TerminalKey.withRepeatCount]
    split
    · decide
    · exact max_one_ne_zero count
  physical := hKey.physical

theorem withGeneratedText (text : Option String) : (key.withGeneratedText text).WellFormed where
  released hRelease := ⟨(hKey.released hRelease).1, if_pos hRelease⟩
  repeated := hKey.repeated
  physical := hKey.physical

theorem withVtBytes (bytes : List UInt8) : (key.withVtBytes bytes).WellFormed :=
  ⟨hKey.released, hKey.repeated, nofun⟩

theorem withWindowsRecord (record : WindowsKeyRecord) :
  (key.withWindowsRecord record).WellFormed where
  released hRelease := ⟨if_pos hRelease, (hKey.released hRelease).2⟩
  repeated := by
    simp only [TerminalKey.withWindowsRecord]
    split
    · decide
    · exact max_one_ne_zero _
  physical := by
    rintro _ _ hSource
    cases hSource
    rfl

theorem apply (source : ClientKeySource) : (source.apply key).WellFormed := by
  cases source with
  | synthesized => exact hKey
  | vt bytes => exact hKey.withVtBytes bytes
  | windowsConsole record => exact hKey.withWindowsRecord record

end WellFormed

end TerminalKey

theorem ClientKeySource.shiftedCodepoint_apply (source : ClientKeySource) (key : TerminalKey) :
  (source.apply key).shiftedCodepoint = key.shiftedCodepoint := by
  cases source <;> rfl

theorem TerminalKey.shiftedCodepoint_withKind (key : TerminalKey) (kind : KeyEventKind) :
  (key.withKind kind).shiftedCodepoint = key.shiftedCodepoint := by
  unfold TerminalKey.withKind
  split <;> rfl

/-- What comes from the wire is well formed and has no shifted alternate. -/
theorem ClientInputEvent.toRawInputEvent_key {wire : ClientInputEvent} {key : TerminalKey}
  (hRaw : wire.toRawInputEvent = .key key) : key.WellFormed ∧ key.shiftedCodepoint = none := by
  cases wire with
  | key code modifiers kind repeatCount generatedText source =>
    cases hRaw
    refine ⟨((((TerminalKey.wellFormed_new _ _).withGeneratedText generatedText).apply
      source).withRepeatCount repeatCount).withKind kind.toCrossterm, ?_⟩
    rw [TerminalKey.shiftedCodepoint_withKind, TerminalKey.withRepeatCount,
      ClientKeySource.shiftedCodepoint_apply]
    rfl
  | textCommit | mouse | paste | focusGained | focusLost => cases hRaw

/-- A well-formed key without a shifted alternate comes back. -/
theorem TerminalKey.WellFormed.comes_back {key : TerminalKey} (hKey : key.WellFormed)
  (hShifted : key.shiftedCodepoint = none) {wire : ClientInputEvent}
  (hWire : windowsClientInputEventFromRaw (.key key) = some wire) :
  wire.toRawInputEvent = .key key := by
  obtain ⟨code, hCode, rfl⟩ := Option.map_eq_some_iff.1 hWire
  obtain ⟨keyCode, modifiers, kind, repeatCount, shifted, text, source⟩ := key
  cases hShifted
  have hCount : max repeatCount 1 = repeatCount := max_one hKey.repeated
  have hPhysical := hKey.physical
  have hReleased := hKey.released
  simp only [ClientInputEvent.toRawInputEvent, RawInputEvent.key.injEq,
    ClientKeyCode.toCrossterm_of_fromCrossterm hCode, KeyModifiers.fromBitsTruncate_bits,
    ClientKeyKind.toCrossterm_fromCrossterm]
  have hEnd : ∀ made : TerminalKey, made = ⟨keyCode, modifiers, .press, made.repeatCount, none,
      text, source⟩ → (made.withRepeatCount repeatCount).withKind kind =
        ⟨keyCode, modifiers, kind, repeatCount, none, text, source⟩ := by
    rintro made hMade
    rw [hMade]
    cases kind with
    | press | «repeat» => simp [TerminalKey.withRepeatCount, TerminalKey.withKind, hCount]
    | release =>
      obtain ⟨rfl, rfl⟩ := hReleased rfl
      rfl
  refine hEnd _ ?_
  cases source with
  | synthesized | vt => rfl
  | windowsConsole record physicalKey =>
    cases hPhysical record physicalKey rfl
    rfl

namespace RawInputEvent

/-- If the wire takes the event, the server gets the same one, and it matches the keybindings
that it matches on the client. -/
def RoundTrips (event : RawInputEvent) : Prop :=
  ∀ wire, windowsClientInputEventFromRaw event = some wire →
    wire.toRawInputEvent = event ∧
      ∀ combo, wire.toRawInputEvent.matchesCombo combo = event.matchesCombo combo

/-- No key that the wire takes has a shifted alternate or is ill formed. -/
def Survives : RawInputEvent → Prop
  | .key terminalKey => ClientKeyCode.fromCrossterm terminalKey.code = none ∨
      terminalKey.shiftedCodepoint = none ∧ terminalKey.WellFormed
  | _ => True

theorem comes_back {event : RawInputEvent} (hEvent : event.Survives) {wire : ClientInputEvent}
  (hWire : windowsClientInputEventFromRaw event = some wire) :
  wire.toRawInputEvent = event := by
  cases event with
  | key key =>
    rcases hEvent with hCode | ⟨hShifted, hKey⟩
    · rw [windowsClientInputEventFromRaw, hCode] at hWire
      cases hWire
    · exact hKey.comes_back hShifted hWire
  | mouse event =>
    obtain ⟨kind, hKind, rfl⟩ := Option.map_eq_some_iff.1 hWire
    simp only [ClientInputEvent.toRawInputEvent, KeyModifiers.fromBitsTruncate_bits,
      ClientMouseKind.toCrossterm_of_fromCrossterm hKind]
  | text | paste | outerFocusGained | outerFocusLost =>
    cases hWire
    rfl
  | hostDefaultColor | hostPaletteColors | hostColorSchemeChanged | hostCellSizeReport
  | unsupported => cases hWire

theorem roundTrips_iff (event : RawInputEvent) : event.RoundTrips ↔ event.Survives := by
  constructor
  · intro hTrips
    cases event with
    | key key =>
      cases hCode : ClientKeyCode.fromCrossterm key.code with
      | none => exact Or.inl hCode
      | some code =>
        have hRaw := (hTrips _ (by rw [windowsClientInputEventFromRaw, hCode]; rfl)).1
        obtain ⟨hKey, hShifted⟩ := ClientInputEvent.toRawInputEvent_key hRaw
        exact Or.inr ⟨hShifted, hKey⟩
    | text | mouse | paste | outerFocusGained | outerFocusLost | hostDefaultColor
    | hostPaletteColors | hostColorSchemeChanged | hostCellSizeReport | unsupported => trivial
  · intro hEvent wire hWire
    have hSame := comes_back hEvent hWire
    exact ⟨hSame, fun combo => by rw [hSame]⟩

/-- Shift and `1`, as a terminal reports it that tells the shifted alternate. -/
def shiftedOne : List UInt8 := ascii "\x1b[49:33;2u"

/-- A binding for `!` matches on the client and not on the server. -/
theorem shifted_alternate_is_lost :
  ∃ event wire, eventOfBytes (fun _ => false) shiftedOne = .found event ∧
    windowsClientInputEventFromRaw event = some wire ∧
    event.matchesCombo (.char '!', .empty) = true ∧
    wire.toRawInputEvent.matchesCombo (.char '!', .empty) = false ∧ ¬ event.RoundTrips := by
  refine ⟨.key ⟨.char '1', .SHIFT, .press, 1, some 33, none, .vt shiftedOne⟩, _,
    by decide +kernel, rfl, by decide +kernel, by decide +kernel, ?_⟩
  intro hTrips
  exact absurd (hTrips _ rfl).1 (by decide +kernel)

end RawInputEvent

end Input
