import Mathlib
import VimeflowTerminal.Input.Encode
import VimeflowTerminal.Input.Parse

/-! What is read from the bytes that a key is encoded as, for a program that has
asked for all keys with their event types. -/

namespace Input

open Text TerminalKey

/-- The bytes read as one key sequence. -/
def readKey (bytes : List UInt8) : Option TerminalKey :=
  (Utf8.decode bytes).bind parseTerminalKeySequence

@[simp] theorem readKey_encode (text : List Char) :
  readKey (Utf8.encode text) = parseTerminalKeySequence text := by
  simp [readKey]

/-! ## Numbers -/

theorem not_mem_decimal {c : Char} (hDigit : c.isDigit = false) (number : Nat) :
  c ∉ decimal number := by
  intro hMem
  have hIs := Nat.isDigit_of_mem_toDigits (by omega) (by omega) hMem
  rw [hDigit] at hIs
  exact absurd hIs (by decide)

variable {number codepoint : Nat} {code : KeyCode} {ch : Char} {key : TerminalKey} {flags : UInt16}
  {n : UInt8} {mods : KeyModifiers}

@[simp] theorem parseNumber_decimal {limit : Nat} (hBelow : number < limit) :
  parseNumber limit (decimal number) = some number := parseUnsigned_toDigits hBelow

theorem decimal_ne_nil (number : Nat) : decimal number ≠ [] := Nat.toDigits_ne_nil

theorem xtermModifier_pos (mods : KeyModifiers) : 0 < xtermModifier mods := by
  unfold xtermModifier
  omega

theorem kittyModifier_bounds (mods : KeyModifiers) :
  0 < kittyModifier mods ∧ kittyModifier mods < u8Limit := by
  obtain ⟨shift, control, alt, super, hyper, metaKey⟩ := mods
  cases shift <;> cases control <;> cases alt <;> cases super <;> cases hyper <;> cases metaKey <;>
    decide

theorem modifiers_kittyModifier (mods : KeyModifiers) :
  keyModifiersFromU8 (kittyModifier mods - 1) = mods := by
  obtain ⟨shift, control, alt, super, hyper, metaKey⟩ := mods
  cases shift <;> cases control <;> cases alt <;> cases super <;> cases hyper <;> cases metaKey <;>
    decide

/-- The modifiers that xterm has. -/
def xtermModifiers (mods : KeyModifiers) : KeyModifiers :=
  { mods with super := false, hyper := false, «meta» := false }

theorem xtermModifier_lt (mods : KeyModifiers) : xtermModifier mods < u8Limit := by
  have hKitty := (kittyModifier_bounds mods).2
  unfold kittyModifier at hKitty
  omega

theorem modifiers_xtermModifier (mods : KeyModifiers) :
  keyModifiersFromU8 (xtermModifier mods - 1) = xtermModifiers mods := by
  obtain ⟨shift, control, alt, super, hyper, metaKey⟩ := mods
  cases shift <;> cases control <;> cases alt <;> cases super <;> cases hyper <;> cases metaKey <;>
    decide

/-! ## The modifier field -/

/-- The number an event kind is written as. -/
def eventNumber : KeyEventKind → Nat
  | .press => 1
  | .repeat => 2
  | .release => 3

theorem parseKittyEventType_eventNumber (kind : KeyEventKind) :
  parseKittyEventType (some (decimal (eventNumber kind))) = some kind := by
  cases kind <;> decide

theorem splitModifierAndEvent_event (modifier event : Nat) :
  splitModifierAndEvent (decimal modifier ++ ':' :: decimal event) =
    (decimal modifier, some (decimal event)) := by
  rw [splitModifierAndEvent, splitOnceList_append _ (not_mem_decimal (by decide) modifier)]
  simp [decimal_ne_nil]

theorem splitModifierAndEvent_plain (modifier : Nat) :
  splitModifierAndEvent (decimal modifier) = (decimal modifier, none) := by
  rw [splitModifierAndEvent, splitOnceList_none (not_mem_decimal (by decide) modifier)]

theorem checkedPred_pos (hPos : 0 < number) : checkedPred number = some (number - 1) := by
  rw [checkedPred, if_neg (by omega)]

/-! ## The CSI u form -/

/-- The first field of the form: the code with an alternate one. -/
def keyField (codepoint : Nat) (shifted : Option Nat) : List Char :=
  decimal codepoint ++ optionalField ':' shifted

theorem keyField_no_semicolon (codepoint : Nat) (shifted : Option Nat) :
  ';' ∉ keyField codepoint shifted := by
  have hCode := not_mem_decimal (c := ';') (by decide) codepoint
  cases shifted with
  | none => simpa [keyField, optionalField] using hCode
  | some shifted =>
    have hShifted := not_mem_decimal (c := ';') (by decide) shifted
    simp [keyField, optionalField, hCode, hShifted]

theorem splitOn_keyField (codepoint : Nat) (shifted : Option Nat) :
  (keyField codepoint shifted).splitOn ':' =
    decimal codepoint :: (shifted.map decimal).toList := by
  have hCode := not_mem_decimal (c := ':') (by decide) codepoint
  cases shifted with
  | none =>
    simp [keyField, optionalField, List.splitOn_eq_singleton hCode]
  | some shifted =>
    have hShifted := not_mem_decimal (c := ':') (by decide) shifted
    rw [keyField, optionalField, List.splitOn_append_cons_self, List.splitOn_eq_singleton hCode,
      List.splitOn_eq_singleton hShifted]
    rfl

theorem shiftedField_decimal (shifted : Option UInt32) :
  shiftedField ((shifted.map UInt32.toNat).map decimal).toList = shifted := by
  cases shifted with
  | none => rfl
  | some shifted =>
    have hBelow : shifted.toNat < u32Limit := shifted.toNat_lt
    simp [shiftedField, decimal_ne_nil, parseNumber_decimal hBelow]

/-- A sequence of the form without associated text. -/
def csiUSequence (codepoint : Nat) (shifted : Option Nat) (modifier event : Nat) : List Char :=
  "\x1b[".toList ++
    (keyField codepoint shifted ++ ';' :: (decimal modifier ++ ':' :: decimal event)) ++ ['u']

theorem splitOn_csiU (codepoint : Nat) (shifted : Option Nat) (modifier event : Nat) :
  (keyField codepoint shifted ++ ';' :: (decimal modifier ++ ':' :: decimal event)).splitOn ';' =
    [keyField codepoint shifted, decimal modifier ++ ':' :: decimal event] := by
  have hModifier := not_mem_decimal (c := ';') (by decide) modifier
  have hEvent := not_mem_decimal (c := ';') (by decide) event
  have hSecond : ';' ∉ decimal modifier ++ ':' :: decimal event := by
    simp [hModifier, hEvent]
  rw [List.splitOn_append_cons_self,
    List.splitOn_eq_singleton (keyField_no_semicolon codepoint shifted),
    List.splitOn_eq_singleton hSecond]
  rfl

/-- A key with what its CSI u form says. -/
def csiUKey (code : KeyCode) (mods : KeyModifiers) (kind : KeyEventKind)
  (shifted : Option UInt32) : TerminalKey :=
  { new code mods with kind, shiftedCodepoint := shifted }

theorem parse_csiUSequence (hBelow : codepoint < u32Limit)
  (hCode : kittyCodepointToKeycode codepoint = some code) (shifted : Option UInt32)
  (mods : KeyModifiers) (kind : KeyEventKind) :
  parseTerminalKeySequence
      (csiUSequence codepoint (shifted.map UInt32.toNat) (kittyModifier mods)
        (eventNumber kind)) =
    some (csiUKey code mods kind shifted) := by
  obtain ⟨hPos, hModifier⟩ := kittyModifier_bounds mods
  have hKitty : parseKittyKeySequence
      (csiUSequence codepoint (shifted.map UInt32.toNat) (kittyModifier mods)
        (eventNumber kind)) = some (csiUKey code mods kind shifted) := by
    rw [parseKittyKeySequence, csiUSequence, List.append_assoc, stripPrefixList_append]
    simp only [Option.bind_eq_bind, Option.bind_some, stripSuffixList_append, splitOn_csiU,
      List.head?_cons, List.getElem?_cons_succ, List.getElem?_cons_zero, List.getElem?_nil,
      Option.getD_some, List.length_cons, List.length_nil, splitModifierAndEvent_event,
      parseNumber_decimal hModifier, checkedPred_pos hPos, splitOn_keyField,
      parseNumber_decimal hBelow, hCode, parseKittyEventType_eventNumber, List.tail_cons,
      shiftedField_decimal, modifiers_kittyModifier]
    cases kind <;> cases shifted <;> rfl
  rw [parseTerminalKeySequence, hKitty, Option.some_or]

/-! ## Codes -/

/-- A character that has no other meaning as a code. -/
def isPlainKittyChar (ch : Char) : Prop :=
  ch.toNat ∉ [8, 9, 13, 27, 127] ∧ ¬ (57358 ≤ ch.toNat ∧ ch.toNat ≤ 57454)

theorem charFromU32_toNat (ch : Char) : charFromU32 ch.toNat = some ch := by
  have hValid : ch.toNat.isValidChar := ch.valid
  rw [charFromU32, dif_pos hValid]
  rfl

theorem kittyCodepointToKeycode_char (hPlain : isPlainKittyChar ch) :
  kittyCodepointToKeycode ch.toNat = some (.char ch) := by
  obtain ⟨hControl, hPrivate⟩ := hPlain
  have hTable : kittyFunctionalKeys.all (fun key =>
      decide (key.1 ∈ [8, 9, 13, 27, 127] ∨ 57358 ≤ key.1 ∧ key.1 ≤ 57454)) = true := by decide
  have hLookup : kittyFunctionalKeys.lookup ch.toNat = none := by
    rw [List.lookup_eq_none_iff]
    intro key hMem
    have hKey := of_decide_eq_true (List.all_eq_true.1 hTable key hMem)
    simp only [bne_iff_ne, ne_eq]
    intro hEq
    rw [← hEq] at hKey
    exact hKey.elim hControl hPrivate
  have hNotFunction : ¬ (57376 ≤ ch.toNat ∧ ch.toNat ≤ 57398) := by omega
  have hNotFunctional : isKittyFunctionalCodepoint ch.toNat = false := by
    simp only [isKittyFunctionalCodepoint, Bool.and_eq_false_iff, decide_eq_false_iff_not]
    omega
  rw [kittyCodepointToKeycode, hLookup]
  simp only [hNotFunction, hNotFunctional, charFromU32_toNat, if_false, Bool.false_eq_true,
    Option.map_some]

/-- A lower-case letter is beside the codes with another meaning. -/
theorem toNat_toLower (hUpper : ch.isUpper = true) :
  97 ≤ ch.toLower.toNat ∧ ch.toLower.toNat ≤ 122 := by
  simp only [Char.isUpper, decide_eq_true_eq] at hUpper
  have hLow : 65 ≤ ch.toNat := hUpper.1
  have hHigh : ch.toNat ≤ 90 := hUpper.2
  have hEq : ch.toLower.toNat = ch.toNat + 32 := by
    rw [Char.toLower, dif_pos hUpper]
    show (ch.val + 32).toNat = ch.val.toNat + 32
    rw [UInt32.toNat_add]
    show (ch.toNat + 32) % 4294967296 = ch.toNat + 32
    omega
  omega

theorem isPlainKittyChar_canonical (hPlain : isPlainKittyChar ch) (mods : KeyModifiers) :
  isPlainKittyChar (canonicalKittyChar ch mods) := by
  unfold canonicalKittyChar
  split
  case isTrue hUpper =>
    rw [Bool.and_eq_true] at hUpper
    have hRange := toNat_toLower hUpper.2
    refine ⟨?_, by omega⟩
    simp only [List.mem_cons, List.not_mem_nil, or_false]
    omega
  case isFalse => exact hPlain

/-- The code a key is read back as. -/
def canonicalCode (key : TerminalKey) : KeyCode :=
  match key.code with
  | .char ch => .char (canonicalKittyChar ch key.modifiers)
  | code => code

/-- The characters of the keys that are meant. -/
def plainCode : KeyCode → Prop
  | .char ch => isPlainKittyChar ch
  | _ => True

theorem csiUCodepoint_code {shifted : Option UInt32} (hPlain : plainCode key.code)
  (hForm : csiUCodepoint key flags = some (codepoint, shifted)) :
  codepoint < u32Limit ∧ kittyCodepointToKeycode codepoint = some (canonicalCode key) := by
  unfold csiUCodepoint at hForm
  unfold canonicalCode
  cases hCode : key.code with
  | char ch =>
    rw [hCode] at hForm hPlain
    obtain ⟨rfl, -⟩ := Prod.mk.inj (Option.some.inj hForm)
    refine ⟨UInt32.toNat_lt _, ?_⟩
    exact kittyCodepointToKeycode_char (isPlainKittyChar_canonical hPlain key.modifiers)
  | _ =>
    rw [hCode] at hForm
    cases hForm <;> exact ⟨by decide, rfl⟩

/-! ## The xterm forms -/

theorem xtermKey_decimal (code : KeyCode) (mods : KeyModifiers) :
  xtermKey (some code) (decimal (xtermModifier mods)) =
    some (new code (xtermModifiers mods)) := by
  simp only [xtermKey, splitModifierAndEvent_plain, parseNumber_decimal (xtermModifier_lt mods),
    checkedPred_pos (xtermModifier_pos mods), modifiers_xtermModifier, Option.bind_eq_bind,
    Option.bind_some]
  rfl

theorem legacySpecialKeys_lookup_none {data : List Char} (hMem : ';' ∈ data) :
  legacySpecialKeys.lookup data = none := by
  have hTable : legacySpecialKeys.all (fun key => !key.1.contains ';') = true := by decide
  rw [List.lookup_eq_none_iff]
  intro key hKey
  have hNot := List.all_eq_true.1 hTable key hKey
  simp only [bne_iff_ne, ne_eq]
  rintro rfl
  simp [hMem] at hNot

/-- A sequence of an xterm form is read as nothing else. -/
theorem parse_xtermSequence {digits rest : List Char} {last : Char} (hDigits : ';' ∉ digits)
  (hNot27 : digits ≠ "27".toList) (hLast : last ≠ 'u') {key : TerminalKey}
  (hKey : parseXtermModifiedSpecialSequence
    ("\x1b[".toList ++ (digits ++ ';' :: (rest ++ [last]))) = some key) :
  parseTerminalKeySequence ("\x1b[".toList ++ (digits ++ ';' :: (rest ++ [last]))) =
    some key := by
  have hKitty : parseKittyKeySequence
      ("\x1b[".toList ++ (digits ++ ';' :: (rest ++ [last]))) = none := by
    have hSplit : digits ++ ';' :: (rest ++ [last]) = (digits ++ ';' :: rest) ++ [last] := by simp
    rw [parseKittyKeySequence, stripPrefixList_append, Option.bind_some, hSplit,
      stripSuffixList_none _ hLast.symm]
    rfl
  have hModify : parseModifyOtherKeysSequence
      ("\x1b[".toList ++ (digits ++ ';' :: (rest ++ [last]))) = none := by
    have hPrefix : ¬ "\x1b[27;".toList <+:
        "\x1b[".toList ++ (digits ++ ';' :: (rest ++ [last])) := by
      intro hPrefix
      have hTail : "27".toList ++ [';'] <+: digits ++ ';' :: (rest ++ [last]) :=
        (List.cons_prefix_cons.1 (List.cons_prefix_cons.1 hPrefix).2).2
      exact hNot27 (eq_of_prefix_separator hTail (by decide) hDigits).symm
    rw [parseModifyOtherKeysSequence, stripPrefixList, if_neg hPrefix]
    rfl
  have hMem : ';' ∈ "\x1b[".toList ++ (digits ++ ';' :: (rest ++ [last])) := by simp
  rw [parseTerminalKeySequence, hKitty, hModify, Option.none_or, Option.none_or,
    parseLegacyKeySequence, parseLegacySpecialSequence, legacySpecialKeys_lookup_none hMem]
  simp only [hKey]

theorem parse_letterSequence {letter : Char} (hLetter : letterKeys.lookup letter = some code)
  (hAlpha : letter.isAlpha = true) (hLast : letter ≠ 'u') (mods : KeyModifiers) :
  parseTerminalKeySequence (letterSequence (xtermModifier mods) letter) =
    some (new code (xtermModifiers mods)) := by
  have hBody : stripPrefixList "1;".toList ("1".toList ++
      ';' :: (decimal (xtermModifier mods) ++ [letter])) =
        some (decimal (xtermModifier mods) ++ [letter]) := stripPrefixList_append "1;".toList _
  have hXterm : parseXtermModifiedSpecialSequence ("\x1b[".toList ++ ("1".toList ++
      ';' :: (decimal (xtermModifier mods) ++ [letter]))) =
        some (new code (xtermModifiers mods)) := by
    rw [parseXtermModifiedSpecialSequence, stripPrefixList_append]
    simp only [Option.bind_eq_bind, Option.bind_some, hBody, List.getLast?_append,
      List.getLast?_singleton, Option.some_or, hAlpha, if_true, List.dropLast_concat, hLetter,
      xtermKey_decimal]
  have hEq : letterSequence (xtermModifier mods) letter = "\x1b[".toList ++ ("1".toList ++
      ';' :: (decimal (xtermModifier mods) ++ [letter])) := by
    rw [letterSequence, List.append_assoc]
    rfl
  rw [hEq]
  exact parse_xtermSequence (by decide) (by decide) hLast hXterm

theorem parse_tildeSequence (hCode : tildeKeys.lookup (decimal number) = some code)
  (mods : KeyModifiers) :
  parseTerminalKeySequence (tildeSequence number (xtermModifier mods)) =
    some (new code (xtermModifiers mods)) := by
  have hDigits := not_mem_decimal (c := ';') (by decide) number
  have hOther : decimal number ≠ "1".toList ∧ decimal number ≠ "27".toList := by
    constructor
    · intro hEq
      have hNone : tildeKeys.lookup "1".toList = none := by decide
      rw [hEq, hNone] at hCode
      cases hCode
    · intro hEq
      have hNone : tildeKeys.lookup "27".toList = none := by decide
      rw [hEq, hNone] at hCode
      cases hCode
  have hLetter : stripPrefixList "1;".toList
      (decimal number ++ ';' :: (decimal (xtermModifier mods) ++ ['~'])) = none := by
    refine if_neg fun hPrefix => hOther.1 ?_
    have hOne : "1".toList = decimal number := eq_of_prefix_separator hPrefix (by decide) hDigits
    exact hOne.symm
  have hXterm : parseXtermModifiedSpecialSequence ("\x1b[".toList ++ (decimal number ++
      ';' :: (decimal (xtermModifier mods) ++ ['~']))) =
        some (new code (xtermModifiers mods)) := by
    have hSplit : decimal number ++ ';' :: (decimal (xtermModifier mods) ++ ['~']) =
        (decimal number ++ ';' :: decimal (xtermModifier mods)) ++ ['~'] := by simp
    rw [parseXtermModifiedSpecialSequence, stripPrefixList_append]
    simp only [Option.bind_eq_bind, Option.bind_some, hLetter]
    rw [parseXtermTildeSequence, hSplit, stripSuffixList_append]
    simp only [Option.bind_eq_bind, Option.bind_some, splitOnceList_append _ hDigits, hCode,
      xtermKey_decimal]
  have hEq : tildeSequence number (xtermModifier mods) = "\x1b[".toList ++ (decimal number ++
      ';' :: (decimal (xtermModifier mods) ++ ['~'])) := by
    simp [tildeSequence]
  rw [hEq]
  exact parse_xtermSequence hDigits hOther.2 (by decide) hXterm

/-! ## What is encoded -/

/-- Flags that ask for all keys with their event types, without associated text. -/
structure ReportsEvents (flags : UInt16) : Prop where
  events : hasFlag flags KITTY_FLAG_REPORT_EVENT_TYPES = true
  allKeys : hasFlag flags KITTY_FLAG_REPORT_ALL_KEYS = true
  noText : hasFlag flags KITTY_FLAG_REPORT_ASSOCIATED_TEXT = false

section

variable (hFlags : ReportsEvents flags)
include hFlags

theorem kittyEventSuffix_eq (key : TerminalKey) :
  kittyEventSuffix key flags = some (eventNumber key.kind) := by
  rw [kittyEventSuffix, hFlags.events]
  cases key.kind <;> rfl

theorem tryEncodeCsiU_eq (key : TerminalKey) :
  tryEncodeCsiU key flags = (csiUCodepoint key flags).map fun (codepoint, shifted) =>
    csiUSequence codepoint (shifted.map UInt32.toNat) (kittyModifier key.modifiers)
      (eventNumber key.kind) := by
  have hPrefers : prefersLegacy key flags = false := by
    simp [prefersLegacy, hFlags.allKeys]
  rw [tryEncodeCsiU, hPrefers]
  simp only [Bool.false_eq_true, if_false, hFlags.noText, kittyEventSuffix_eq hFlags]
  cases csiUCodepoint key flags with
  | none => rfl
  | some form => simp [csiUSequence, keyField, optionalField]

theorem encodeTerminalKey_eq (hText : key.generatedText = none) :
  encodeTerminalKey key (.kitty flags) =
    match (tryEncodeCsiU key flags).map Utf8.encode with
      | some bytes => bytes
      | none => encodeRest key (.kitty flags) true := by
  have hEvents : (KeyboardProtocol.kitty flags).reportsEventTypes = true := hFlags.events
  have hAll : (KeyboardProtocol.kitty flags).reportsAllKeys = true := hFlags.allKeys
  have hFirst : ((KeyboardProtocol.kitty flags).reportsAllKeys ||
      decide (key.kind = .release) && (KeyboardProtocol.kitty flags).reportsEventTypes) = true := by
    rw [hAll, Bool.true_or]
  have hKept : (decide (key.kind = .release) &&
      !(KeyboardProtocol.kitty flags).reportsEventTypes) = false := by
    rw [hEvents, Bool.not_true, Bool.and_false]
  rw [encodeTerminalKey, hText, ite_self]
  dsimp only
  rw [hFirst, hKept]
  rfl

/-- A key without a CSI u form is left to the older encodings, which have no
release. -/
theorem encodeTerminalKey_rest (hText : key.generatedText = none)
  (hForm : csiUCodepoint key flags = none) :
  encodeTerminalKey key (.kitty flags) =
    if key.kind = .release then [] else encodeLegacy key := by
  have hEvents : (KeyboardProtocol.kitty flags).reportsEventTypes = true := hFlags.events
  have hNoChar : encodeTextInput key = none := by
    unfold encodeTextInput textCharForKey
    unfold csiUCodepoint at hForm
    cases hCode : key.code with
    | char ch =>
      rw [hCode] at hForm
      cases hForm
    | _ => simp
  rw [encodeTerminalKey_eq hFlags hText, tryEncodeCsiU_eq hFlags, hForm]
  simp only [Option.map_none, encodeRest, hNoChar, if_true, hEvents, Bool.and_true]
  simp

end

/-! ## Keys without a CSI u form -/

/-- The text of bytes that are all ASCII. -/
def asciiText (bytes : List UInt8) : List Char := bytes.map fun byte => Char.ofNat byte.toNat

theorem readKey_ascii {bytes : List UInt8} (hAscii : Utf8.encode (asciiText bytes) = bytes) :
  readKey bytes = parseTerminalKeySequence (asciiText bytes) := by
  conv_lhs => rw [← hAscii]
  exact readKey_encode _

theorem readKey_nil : readKey [] = none := by
  rw [readKey_ascii (by decide)]
  decide

/-- The function keys that have an encoding. -/
def functionKeys : List UInt8 := [1, 2, 3, 4, 5, 6, 7, 8, 9, 10, 11, 12]

theorem readKey_encodeFKey :
  functionKeys.all (fun n =>
    decide (readKey (encodeFKey n) = some (new (.f n) .empty))) = true := by
  simp only [functionKeys, List.all_cons, List.all_nil, Bool.and_true, Bool.and_eq_true,
    decide_eq_true_eq]
  refine ⟨?_, ?_, ?_, ?_, ?_, ?_, ?_, ?_, ?_, ?_, ?_, ?_⟩ <;>
    exact (readKey_ascii (by decide)).trans (by decide)

theorem parse_encodeModifiedSpecial (hMem : n ∈ functionKeys)
  (hModified : ¬ xtermModifier mods ≤ 1) :
  ∃ sequence, encodeModifiedSpecial (.f n) mods = some sequence ∧
    parseTerminalKeySequence sequence = some (new (.f n) (xtermModifiers mods)) := by
  have hLetter : ∀ letter code, letterKeys.lookup letter = some code → letter.isAlpha = true →
      letter ≠ 'u' → parseTerminalKeySequence (letterSequence (xtermModifier mods) letter) =
        some (new code (xtermModifiers mods)) :=
    fun _ _ hLookup hAlpha hLast => parse_letterSequence hLookup hAlpha hLast mods
  have hTilde : ∀ number code, tildeKeys.lookup (decimal number) = some code →
      parseTerminalKeySequence (tildeSequence number (xtermModifier mods)) =
        some (new code (xtermModifiers mods)) :=
    fun _ _ hLookup => parse_tildeSequence hLookup mods
  simp only [functionKeys, List.mem_cons, List.not_mem_nil, or_false] at hMem
  unfold encodeModifiedSpecial
  simp only [hModified, if_false]
  rcases hMem with rfl | rfl | rfl | rfl | rfl | rfl | rfl | rfl | rfl | rfl | rfl | rfl
  · exact ⟨_, rfl, hLetter 'P' _ (by decide) (by decide) (by decide)⟩
  · exact ⟨_, rfl, hLetter 'Q' _ (by decide) (by decide) (by decide)⟩
  · exact ⟨_, rfl, hLetter 'R' _ (by decide) (by decide) (by decide)⟩
  · exact ⟨_, rfl, hLetter 'S' _ (by decide) (by decide) (by decide)⟩
  · exact ⟨_, rfl, hTilde 15 _ (by decide)⟩
  · exact ⟨_, rfl, hTilde 17 _ (by decide)⟩
  · exact ⟨_, rfl, hTilde 18 _ (by decide)⟩
  · exact ⟨_, rfl, hTilde 19 _ (by decide)⟩
  · exact ⟨_, rfl, hTilde 20 _ (by decide)⟩
  · exact ⟨_, rfl, hTilde 21 _ (by decide)⟩
  · exact ⟨_, rfl, hTilde 23 _ (by decide)⟩
  · exact ⟨_, rfl, hTilde 24 _ (by decide)⟩

theorem encodeModifiedSpecial_plain (code : KeyCode) (hPlain : xtermModifier mods ≤ 1) :
  encodeModifiedSpecial code mods = none :=
  if_pos hPlain

theorem xtermModifiers_plain (hPlain : xtermModifier mods ≤ 1) :
  xtermModifiers mods = .empty ∧ mods.alt = false := by
  obtain ⟨shift, control, alt, super, hyper, metaKey⟩ := mods
  simp only [xtermModifier] at hPlain
  cases shift <;> cases control <;> cases alt <;> simp_all [xtermModifiers, KeyModifiers.empty]

theorem encodeLegacyInner_f (hCode : key.code = .f n) : encodeLegacyInner key = encodeFKey n := by
  rw [encodeLegacyInner, hCode]

/-- A function key is read back as a press with the modifiers of xterm. -/
theorem readKey_functionKey (hCode : key.code = .f n) (hMem : n ∈ functionKeys) :
  readKey (encodeLegacy key) =
    some (new (.f n) (xtermModifiers key.modifiers)) := by
  unfold encodeLegacy
  by_cases hPlain : xtermModifier key.modifiers ≤ 1
  case pos =>
    obtain ⟨hMods, hAlt⟩ := xtermModifiers_plain hPlain
    have hRead := of_decide_eq_true (List.all_eq_true.1 readKey_encodeFKey n hMem)
    have hNone := encodeModifiedSpecial_plain (.f n) hPlain
    simp only [hCode, hNone, ite_self, hAlt, Bool.false_eq_true, if_false,
      encodeLegacyInner_f hCode, hRead, hMods]
  case neg =>
    obtain ⟨sequence, hSequence, hParse⟩ := parse_encodeModifiedSpecial hMem hPlain
    have hHeld : key.modifiers.isEmpty = false := by
      by_contra hEmpty
      have hEq : key.modifiers = .empty := by
        simpa [KeyModifiers.isEmpty] using hEmpty
      exact hPlain (by rw [hEq]; decide)
    simp only [hHeld, Bool.false_eq_true, if_false, hCode, hSequence, readKey_encode, hParse]

/-- Back tab is read back as a press with shift, or as nothing. -/
theorem readKey_backTab (hCode : key.code = .backTab) :
  readKey (encodeLegacy key) =
    if key.modifiers.alt then none else some (new .backTab .SHIFT) := by
  have hNone : (if key.modifiers.isEmpty then none
      else encodeModifiedSpecial key.code key.modifiers) = none := by
    rw [hCode]
    simp [encodeModifiedSpecial]
  have hInner : ∀ mods, encodeLegacyInner (key.withModifiers mods) = [27, 91, 90] := by
    intro mods
    simp [encodeLegacyInner, withModifiers, hCode]
  have hPlain : encodeLegacyInner key = [27, 91, 90] := by
    simp [encodeLegacyInner, hCode]
  rw [encodeLegacy, hNone]
  simp only [hInner, hPlain]
  cases key.modifiers.alt with
  | true =>
    rw [if_pos rfl, if_pos rfl, readKey_ascii (by decide)]
    decide
  | false =>
    rw [if_neg (by simp), if_neg (by simp), readKey_ascii (by decide)]
    decide

/-- The keys that no encoding has. -/
def hasNoEncoding : KeyCode → Bool
  | .f n => !functionKeys.contains n
  | .null | .capsLock | .scrollLock | .numLock | .printScreen | .pause | .menu | .keypadBegin
  | .media _ | .modifier _ => true
  | _ => false

theorem hasNoEncoding_f : hasNoEncoding (.f n) = true ↔ n ∉ functionKeys := by
  show (!functionKeys.contains n) = true ↔ n ∉ functionKeys
  rw [Bool.not_eq_true', ← Bool.not_eq_true, List.contains_iff_mem]

theorem encodeModifiedSpecial_noEncoding (hCode : hasNoEncoding code = true) (mods : KeyModifiers) :
  encodeModifiedSpecial code mods = none := by
  by_cases hPlain : xtermModifier mods ≤ 1
  case pos => exact encodeModifiedSpecial_plain code hPlain
  case neg =>
    simp only [encodeModifiedSpecial, hPlain, if_false]
    split <;> first | rfl | exact absurd hCode (by decide)

theorem encodeLegacyInner_noEncoding (hCode : hasNoEncoding key.code = true) :
  encodeLegacyInner key = [] := by
  unfold encodeLegacyInner
  cases hKey : key.code with
  | f n =>
    rw [hKey] at hCode
    show encodeFKey n = []
    unfold encodeFKey
    split <;> first | rfl | exact absurd hCode (by decide)
  | _ =>
    first
    | rfl
    | (rw [hKey] at hCode; cases hCode)

/-- What is left of a key without an encoding is at most an escape. -/
theorem readKey_noEncoding (hCode : hasNoEncoding key.code = true) :
  readKey (encodeLegacy key) =
    if key.modifiers.alt then some (new .esc .empty) else none := by
  have hInner : ∀ mods, encodeLegacyInner (key.withModifiers mods) = [] :=
    fun mods => encodeLegacyInner_noEncoding (show hasNoEncoding (key.withModifiers mods).code from hCode)
  rw [encodeLegacy, encodeModifiedSpecial_noEncoding hCode, ite_self]
  simp only [hInner, encodeLegacyInner_noEncoding hCode]
  cases key.modifiers.alt with
  | true =>
    rw [if_pos rfl, if_pos rfl, readKey_ascii (by decide)]
    decide
  | false =>
    rw [if_neg (by simp), if_neg (by simp), readKey_ascii (by decide)]
    decide

/-! ## The round trip -/

/-- The event is read back from its bytes, a shifted letter as the key's own
character with the shifted one beside it. -/
def RoundTrips (key : TerminalKey) (flags : UInt16) : Prop :=
  ∃ read, readKey (encodeTerminalKey key (.kitty flags)) = some read ∧
    read.code = canonicalCode key ∧ read.modifiers = key.modifiers ∧ read.kind = key.kind ∧
    ∀ ch, key.code = .char ch → read.shiftedCodepoint = alternateShiftedCodepoint key flags

/-- Whether the encoding of a key has room for all of the event. A function key
and back tab have none for the event type, and none for the modifiers that xterm
lacks. -/
def keepsEvent (key : TerminalKey) : Prop :=
  match key.code with
  | .char _ | .enter | .tab | .backspace | .esc | .left | .right | .up | .down | .pageUp
  | .pageDown | .home | .«end» | .insert | .delete => True
  | .f n => n ∈ functionKeys ∧ key.kind = .press ∧ xtermModifiers key.modifiers = key.modifiers
  | .backTab => key.kind = .press ∧ key.modifiers = .SHIFT
  | _ => False

theorem roundTrips_csiU (hFlags : ReportsEvents flags) (hText : key.generatedText = none)
  (hPlain : plainCode key.code) {shifted : Option UInt32}
  (hForm : csiUCodepoint key flags = some (codepoint, shifted)) :
  RoundTrips key flags := by
  obtain ⟨hBelow, hCode⟩ := csiUCodepoint_code hPlain hForm
  have hBytes : encodeTerminalKey key (.kitty flags) =
      Utf8.encode (csiUSequence codepoint (shifted.map UInt32.toNat)
        (kittyModifier key.modifiers) (eventNumber key.kind)) := by
    rw [encodeTerminalKey_eq hFlags hText, tryEncodeCsiU_eq hFlags, hForm]
    rfl
  have hRead := parse_csiUSequence hBelow hCode shifted key.modifiers key.kind
  refine ⟨csiUKey (canonicalCode key) key.modifiers key.kind shifted, ?_, rfl, rfl, rfl, ?_⟩
  · rw [hBytes, readKey_encode, hRead]
  intro ch hChar
  rw [csiUCodepoint, hChar] at hForm
  exact (Prod.mk.inj (Option.some.inj hForm)).2.symm

/-- What a key without a CSI u form is read back as. -/
theorem roundTrips_rest (hFlags : ReportsEvents flags) (hText : key.generatedText = none)
  (hForm : csiUCodepoint key flags = none) {read : Option TerminalKey}
  (hRead : readKey (encodeLegacy key) = read) :
  RoundTrips key flags ↔ ∃ key', read = some key' ∧ key.kind ≠ .release ∧
    key'.code = key.code ∧ key'.modifiers = key.modifiers ∧ key'.kind = key.kind := by
  have hNoChar : ∀ ch, key.code ≠ .char ch := by
    intro ch hChar
    rw [csiUCodepoint, hChar] at hForm
    cases hForm
  have hCode : canonicalCode key = key.code := by
    unfold canonicalCode
    split
    case h_1 ch hChar => exact absurd hChar (hNoChar ch)
    case h_2 => rfl
  unfold RoundTrips
  rw [encodeTerminalKey_rest hFlags hText hForm, hCode]
  by_cases hRelease : key.kind = .release
  case pos =>
    rw [if_pos hRelease, readKey_nil]
    simp [hRelease]
  case neg =>
    rw [if_neg hRelease, hRead]
    constructor
    · rintro ⟨key', hEq, hParts, hMods, hKind, -⟩
      exact ⟨key', hEq, hRelease, hParts, hMods, hKind⟩
    · rintro ⟨key', hEq, -, hParts, hMods, hKind⟩
      exact ⟨key', hEq, hParts, hMods, hKind, fun ch hChar => absurd hChar (hNoChar ch)⟩

theorem keepsEvent_csiU {form : Nat × Option UInt32} (hForm : csiUCodepoint key flags = some form) :
  keepsEvent key := by
  unfold csiUCodepoint at hForm
  unfold keepsEvent
  cases hCode : key.code <;> rw [hCode] at hForm <;> trivial

theorem roundTrips_functionKey (hFlags : ReportsEvents flags) (hText : key.generatedText = none)
  (hForm : csiUCodepoint key flags = none) (hCode : key.code = .f n) (hMem : n ∈ functionKeys) :
  RoundTrips key flags ↔ keepsEvent key := by
  have hKeeps : keepsEvent key ↔ n ∈ functionKeys ∧ key.kind = .press ∧
      xtermModifiers key.modifiers = key.modifiers := by rw [keepsEvent, hCode]
  rw [hKeeps, roundTrips_rest hFlags hText hForm (readKey_functionKey hCode hMem), hCode]
  constructor
  · rintro ⟨key', hEq, -, -, hMods, hKind⟩
    cases hEq
    exact ⟨hMem, hKind.symm, hMods⟩
  · rintro ⟨-, hKind, hMods⟩
    refine ⟨_, rfl, ?_, rfl, hMods, hKind.symm⟩
    rw [hKind]
    decide

theorem roundTrips_backTab (hFlags : ReportsEvents flags) (hText : key.generatedText = none)
  (hForm : csiUCodepoint key flags = none) (hCode : key.code = .backTab) :
  RoundTrips key flags ↔ keepsEvent key := by
  have hKeeps : keepsEvent key ↔ key.kind = .press ∧ key.modifiers = .SHIFT := by
    rw [keepsEvent, hCode]
  rw [hKeeps, roundTrips_rest hFlags hText hForm (readKey_backTab hCode), hCode]
  constructor
  · rintro ⟨key', hEq, -, -, hMods, hKind⟩
    split at hEq
    · cases hEq
    · cases hEq
      exact ⟨hKind.symm, hMods.symm⟩
  · rintro ⟨hKind, hMods⟩
    refine ⟨new .backTab .SHIFT, ?_, ?_, rfl, hMods.symm, hKind.symm⟩
    · rw [hMods]
      rfl
    · rw [hKind]
      decide

theorem roundTrips_noEncoding (hFlags : ReportsEvents flags) (hText : key.generatedText = none)
  (hForm : csiUCodepoint key flags = none) (hCode : hasNoEncoding key.code = true) :
  RoundTrips key flags ↔ keepsEvent key := by
  rw [roundTrips_rest hFlags hText hForm (readKey_noEncoding hCode)]
  refine iff_of_false ?_ ?_
  · rintro ⟨key', hEq, -, hParts, -⟩
    split at hEq
    · cases hEq
      rw [← hParts] at hCode
      cases hCode
    · cases hEq
  · intro hKeeps
    unfold keepsEvent at hKeeps
    cases hKey : key.code with
    | f n =>
      rw [hKey] at hCode hKeeps
      exact hasNoEncoding_f.1 hCode hKeeps.1
    | _ =>
      rw [hKey] at hCode hKeeps
      first | exact hKeeps | cases hCode

/-- For a program that has asked for all keys with their event types, a key event
is read back as it was exactly when its encoding has room for it: a function key or
a back tab that is repeated or released, or held with a modifier its older form
lacks, loses that. -/
theorem roundTrips_iff_keepsEvent {flags : UInt16} (hFlags : ReportsEvents flags)
  {key : TerminalKey} (hText : key.generatedText = none) (hPlain : plainCode key.code) :
  RoundTrips key flags ↔ keepsEvent key := by
  cases hForm : csiUCodepoint key flags with
  | some form => exact iff_of_true (roundTrips_csiU hFlags hText hPlain hForm) (keepsEvent_csiU hForm)
  | none =>
    cases hCode : key.code with
    | f n =>
      by_cases hMem : n ∈ functionKeys
      case pos => exact roundTrips_functionKey hFlags hText hForm hCode hMem
      case neg =>
        have hNo : hasNoEncoding key.code = true := by
          rw [hCode]
          exact hasNoEncoding_f.2 hMem
        exact roundTrips_noEncoding hFlags hText hForm hNo
    | backTab => exact roundTrips_backTab hFlags hText hForm hCode
    | _ =>
      first
      | (rw [csiUCodepoint, hCode] at hForm; cases hForm; done)
      | exact roundTrips_noEncoding hFlags hText hForm (by rw [hCode]; rfl)

/-- The flags for disambiguated codes, event types and all keys. -/
def eventFlags : UInt16 := 11

theorem reportsEvents_eventFlags : ReportsEvents eventFlags := ⟨by decide, by decide, by decide⟩

/-- A released left arrow, held with super, is read back. -/
theorem roundTrips_releasedLeft :
  let key := (new .left { KeyModifiers.empty with super := true }).withKind .release
  RoundTrips key eventFlags ↔ keepsEvent key :=
  roundTrips_iff_keepsEvent reportsEvents_eventFlags rfl trivial

/-- The release of a function key has no bytes at all. -/
theorem releasedFunctionKey_lost :
  let key := (new (.f 1) .empty).withKind .release
  encodeTerminalKey key (.kitty eventFlags) = [] ∧ ¬ RoundTrips key eventFlags := by
  have hEmpty : encodeTerminalKey ((new (.f 1) .empty).withKind .release)
      (.kitty eventFlags) = [] := by decide
  refine ⟨hEmpty, ?_⟩
  rintro ⟨read, hRead, -⟩
  rw [hEmpty, readKey_nil] at hRead
  cases hRead

end Input
