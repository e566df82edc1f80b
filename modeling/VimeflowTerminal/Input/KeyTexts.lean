import Mathlib
import VimeflowTerminal.Input.RawInput

/-! What a text looks like that the key parser takes. -/

namespace Input

open Text

theorem mem_keys_of_lookup {α β : Type} [BEq α] [LawfulBEq α] {key : α} {value : β}
  {entries : List (α × β)} (hLookup : entries.lookup key = some value) :
  key ∈ entries.map Prod.fst := by
  obtain ⟨before, after, rfl, -⟩ := List.lookup_eq_some_iff.1 hLookup
  simp

/-- A character that ends a control sequence. -/
def isCsiFinalChar (ch : Char) : Bool := '@' ≤ ch && ch ≤ '~'

/-- A control sequence with a number first and a final character last. -/
def IsCsiKeyText (text : List Char) : Prop :=
  ∃ body last, text = "\x1b[".toList ++ (body ++ [last]) ∧ isCsiFinalChar last = true ∧
    body.head? ≠ some '<' ∧ body ≠ []

theorem parseNumber_mouse (limit : Nat) (rest : List Char) :
  parseNumber limit ('<' :: rest) = none := by
  rw [parseNumber, parseUnsigned, String.toList_ofList]
  show List.foldlM (pushDigit limit) 0 ('<' :: rest) = none
  rw [List.foldlM_cons]
  have hFirst : pushDigit limit 0 '<' = none := by simp [pushDigit, Char.isDigit]
  rw [hFirst]
  rfl

theorem head?_splitOn_mouse {separator : Char} (hSeparator : '<' ≠ separator) (rest : List Char) :
  ∃ more, (('<' :: rest).splitOn separator).head? = some ('<' :: more) := by
  rw [List.splitOn_cons_eq_if_modifyHead, if_neg (by simpa using hSeparator)]
  cases hSplit : rest.splitOn separator with
  | nil => exact absurd hSplit (List.splitOn_ne_nil separator rest)
  | cons field fields => exact ⟨field, rfl⟩

variable {text : List Char} {key : TerminalKey}

theorem csiKeyText_of_kitty (hKey : parseKittyKeySequence text = some key) : IsCsiKeyText text := by
  obtain ⟨body, hBody, hFields⟩ := Option.bind_eq_some_iff.1 hKey
  obtain ⟨inner, hInner, hSuffix⟩ := Option.bind_eq_some_iff.1 hBody
  obtain ⟨keyPart, hKeyPart, hRest⟩ := Option.bind_eq_some_iff.1 hFields
  replace hKeyPart : (body.splitOn ';').head? = some keyPart := hKeyPart
  simp only at hRest
  split at hRest
  case isTrue => cases hRest
  case isFalse =>
    obtain ⟨modifier, -, hRest⟩ := Option.bind_eq_some_iff.1 hRest
    obtain ⟨codepoint, hCodepoint, -⟩ := Option.bind_eq_some_iff.1 hRest
    obtain ⟨field, hField, hNumber⟩ := Option.bind_eq_some_iff.1 hCodepoint
    refine ⟨body, 'u', ?_, by decide, fun hMouse => ?_, ?_⟩
    · rw [eq_append_of_stripPrefixList hInner, eq_append_of_stripSuffixList hSuffix]
    · obtain ⟨rest, rfl⟩ := List.head?_eq_some_iff.1 hMouse
      obtain ⟨more, hMore⟩ := head?_splitOn_mouse (show '<' ≠ ';' by decide) rest
      obtain rfl := Option.some.inj (hMore.symm.trans hKeyPart)
      obtain ⟨digits, hDigits⟩ := head?_splitOn_mouse (show '<' ≠ ':' by decide) more
      obtain rfl := Option.some.inj (hDigits.symm.trans hField)
      rw [parseNumber_mouse] at hNumber
      cases hNumber
    · rintro rfl
      obtain rfl : [] = keyPart := Option.some.inj hKeyPart
      obtain rfl : [] = field := Option.some.inj hField
      cases hNumber

theorem csiKeyText_of_modifyOtherKeys (hKey : parseModifyOtherKeysSequence text = some key) :
  IsCsiKeyText text := by
  obtain ⟨body, hBody, -⟩ := Option.bind_eq_some_iff.1 hKey
  obtain ⟨inner, hInner, hSuffix⟩ := Option.bind_eq_some_iff.1 hBody
  refine ⟨"27;".toList ++ body, '~', ?_, by decide, by simp, by simp⟩
  rw [eq_append_of_stripPrefixList hInner, eq_append_of_stripSuffixList hSuffix]
  simp

theorem csiKeyText_of_tilde {text body : List Char} {key : TerminalKey}
  (hBody : text = "\x1b[".toList ++ body) (hKey : parseXtermTildeSequence body = some key) :
  IsCsiKeyText text := by
  obtain ⟨tildeBody, hTilde, hSplit⟩ := Option.bind_eq_some_iff.1 hKey
  obtain ⟨⟨codePart, modifierPart⟩, hParts, hXterm⟩ := Option.bind_eq_some_iff.1 hSplit
  have hCode : (tildeKeys.lookup codePart).isSome = true := by
    obtain ⟨modifier, -, hRest⟩ := Option.bind_eq_some_iff.1 hXterm
    obtain ⟨code, hCode, -⟩ := Option.bind_eq_some_iff.1 hRest
    rw [hCode]
    rfl
  have hStart : codePart ≠ [] ∧ codePart.head? ≠ some '<' := by
    constructor
    · rintro rfl
      exact absurd hCode (by decide)
    · intro hMouse
      obtain ⟨rest, rfl⟩ := List.head?_eq_some_iff.1 hMouse
      exact absurd hCode (by simp [tildeKeys, List.lookup_cons])
  refine ⟨codePart ++ ';' :: modifierPart, '~', ?_, by decide, ?_, by simp⟩
  · rw [hBody, eq_append_of_stripSuffixList hTilde, eq_append_of_splitOnceList hParts]
  · rw [List.head?_append_of_ne_nil _ hStart.1]
    exact hStart.2

theorem isCsiFinalChar_of_isAlpha {ch : Char} (hAlpha : ch.isAlpha = true) :
  isCsiFinalChar ch = true := by
  simp only [Char.isAlpha, Char.isUpper, Char.isLower, Bool.or_eq_true, Bool.and_eq_true,
    decide_eq_true_eq, ge_iff_le, UInt32.le_iff_toNat_le] at hAlpha
  simp only [isCsiFinalChar, Bool.and_eq_true, decide_eq_true_eq, Char.le_def,
    UInt32.le_iff_toNat_le]
  have hFirst : ('@'.val).toNat = 64 := rfl
  have hLast : ('~'.val).toNat = 126 := rfl
  have hUpper : ('A'.val).toNat = 65 := rfl
  have hUpperLast : ('Z'.val).toNat = 90 := rfl
  have hLower : ('a'.val).toNat = 97 := rfl
  have hLowerLast : ('z'.val).toNat = 122 := rfl
  omega

theorem csiKeyText_of_xterm (hKey : parseXtermModifiedSpecialSequence text = some key) :
  IsCsiKeyText text := by
  obtain ⟨body, hBody, hRest⟩ := Option.bind_eq_some_iff.1 hKey
  have hText := eq_append_of_stripPrefixList hBody
  split at hRest
  case h_2 => exact csiKeyText_of_tilde hText hRest
  case h_1 letterBody hLetter =>
    obtain ⟨suffix, hSuffix, hKeyRest⟩ := Option.bind_eq_some_iff.1 hRest
    split at hKeyRest
    case isFalse => exact csiKeyText_of_tilde hText hKeyRest
    case isTrue hAlpha =>
      refine ⟨"1;".toList ++ letterBody.dropLast, suffix, ?_, ?_, by simp, by simp⟩
      · rw [hText, eq_append_of_stripPrefixList hLetter, List.append_assoc,
          List.dropLast_append_getLast? suffix hSuffix]
      · exact isCsiFinalChar_of_isAlpha hAlpha

/-- What the key parser takes: one character, one character after an escape, an older
sequence or a control sequence. -/
theorem keyText_cases (hKey : (parseTerminalKeySequence text).isSome = true) :
  (∃ ch, text = [ch]) ∨ (∃ ch, text = ['\x1b', ch]) ∨
    text ∈ legacySpecialKeys.map Prod.fst ∨ IsCsiKeyText text := by
  unfold parseTerminalKeySequence at hKey
  cases hKitty : parseKittyKeySequence text with
  | some key => exact Or.inr (Or.inr (Or.inr (csiKeyText_of_kitty hKitty)))
  | none =>
    cases hModify : parseModifyOtherKeysSequence text with
    | some key => exact Or.inr (Or.inr (Or.inr (csiKeyText_of_modifyOtherKeys hModify)))
    | none =>
      rw [hKitty, hModify, Option.none_or, Option.none_or, parseLegacyKeySequence] at hKey
      cases hSpecial : parseLegacySpecialSequence text with
      | some key =>
        refine Or.inr (Or.inr ?_)
        unfold parseLegacySpecialSequence at hSpecial
        split at hSpecial
        case h_1 code modifiers hLookup =>
          exact Or.inl (mem_keys_of_lookup hLookup)
        case h_2 => exact Or.inr (csiKeyText_of_xterm hSpecial)
      | none =>
        rw [hSpecial] at hKey
        simp only at hKey
        split at hKey
        case h_1 code modifiers hLookup =>
          have hShort : (legacyControlKeys.map Prod.fst).all (fun keys =>
              keys.length = 1 || keys = ['\x1b', '\x7f']) = true := by decide
          have hText := List.all_eq_true.1 hShort text (mem_keys_of_lookup hLookup)
          simp only [Bool.or_eq_true, decide_eq_true_eq] at hText
          rcases hText with hOne | rfl
          · exact Or.inl (List.length_eq_one_iff.1 hOne)
          · exact Or.inr (Or.inl ⟨_, rfl⟩)
        case h_2 =>
          unfold parseLegacyCharacter at hKey
          split at hKey
          case h_1 => exact Or.inr (Or.inl ⟨_, rfl⟩)
          case h_2 => cases hKey
          case h_3 => exact Or.inl ⟨_, rfl⟩
          case h_4 => cases hKey

end Input
