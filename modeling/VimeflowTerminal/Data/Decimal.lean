import VimeflowTerminal.Data.Text

/-! A number as its digits are written, the bytes of the digits and how a field of digits is read.
-/

namespace Text

def digitBytes (digits : List Char) : List UInt8 :=
  digits.map fun ch => UInt8.ofNat ch.toNat

/-- A number as it is written. One without digits is left out. -/
structure Digits where
  chars : List Char
  isDigit : ∀ d ∈ chars, d.isDigit = true

namespace Digits

def value (digits : Digits) : Nat := Nat.ofDigitChars 10 digits.chars 0

def bytes (digits : Digits) : List UInt8 := digitBytes digits.chars

end Digits

/-- Read a number in bytes. A byte outside ASCII is no digit, so how it is decoded does not
matter. -/
def parseUnsignedBytes (limit : Nat) (bytes : List UInt8) : Option Nat :=
  parseUnsigned limit (String.ofList (bytes.map fun byte => Char.ofNat byte.toNat))

theorem digit_byte {ch : Char} (hDigit : ch.isDigit = true) :
  Char.ofNat (UInt8.ofNat ch.toNat).toNat = ch ∧ 0x30 ≤ UInt8.ofNat ch.toNat ∧
    UInt8.ofNat ch.toNat ≤ 0x39 := by
  have hRange : 48 ≤ ch.toNat ∧ ch.toNat ≤ 57 := Char.isDigit_iff_toNat.1 hDigit
  have hNat : (UInt8.ofNat ch.toNat).toNat = ch.toNat := by
    rw [UInt8.toNat_ofNat']
    omega
  rw [UInt8.le_iff_toNat_le, UInt8.le_iff_toNat_le, hNat, Char.ofNat_toNat]
  exact ⟨rfl, hRange⟩

theorem byte_of_digit {byte : UInt8} (hLow : 0x30 ≤ byte) (hHigh : byte ≤ 0x39) :
  (Char.ofNat byte.toNat).isDigit = true ∧ UInt8.ofNat (Char.ofNat byte.toNat).toNat = byte := by
  have hRange : 48 ≤ byte.toNat ∧ byte.toNat ≤ 57 :=
    ⟨UInt8.le_iff_toNat_le.1 hLow, UInt8.le_iff_toNat_le.1 hHigh⟩
  have hValid : byte.toNat.isValidChar := Or.inl (by omega)
  have hNat : (Char.ofNat byte.toNat).toNat = byte.toNat := by
    rw [Char.ofNat, dif_pos hValid]
    rfl
  rw [Char.isDigit_iff_toNat, hNat]
  exact ⟨hRange, UInt8.ofNat_toNat⟩

theorem digitBytes_bounds {digits : List Char} (hDigits : ∀ d ∈ digits, d.isDigit = true) :
  ∀ byte ∈ digitBytes digits, 0x30 ≤ byte ∧ byte ≤ 0x39 := by
  intro byte hMem
  obtain ⟨ch, hDigit, rfl⟩ := List.mem_map.1 hMem
  exact (digit_byte (hDigits ch hDigit)).2

theorem chars_of_digitBytes {digits : List Char} (hDigits : ∀ d ∈ digits, d.isDigit = true) :
  (digitBytes digits).map (fun byte => Char.ofNat byte.toNat) = digits := by
  rw [digitBytes, List.map_map]
  refine (List.map_congr_left fun ch hMem => ?_).trans (List.map_id _)
  exact (digit_byte (hDigits ch hMem)).1

theorem exists_digits {bytes : List UInt8} (hBytes : ∀ byte ∈ bytes, 0x30 ≤ byte ∧ byte ≤ 0x39) :
  ∃ digits : Digits, digits.bytes = bytes := by
  refine ⟨⟨bytes.map fun byte => Char.ofNat byte.toNat, fun d hMem => ?_⟩, ?_⟩
  · obtain ⟨byte, hByte, rfl⟩ := List.mem_map.1 hMem
    exact (byte_of_digit (hBytes byte hByte).1 (hBytes byte hByte).2).1
  rw [Digits.bytes, digitBytes, List.map_map]
  refine (List.map_congr_left fun byte hMem => ?_).trans (List.map_id _)
  exact (byte_of_digit (hBytes byte hMem).1 (hBytes byte hMem).2).2

theorem Digits.bounds (digits : Digits) : ∀ byte ∈ digits.bytes, 0x30 ≤ byte ∧ byte ≤ 0x39 :=
  digitBytes_bounds digits.isDigit

/-- A field of digits is read if there are any and their value is below the limit. -/
theorem parseUnsignedBytes_eq_some_iff {limit number : Nat} (hLimit : 0 < limit) (digits : Digits) :
  parseUnsignedBytes limit digits.bytes = some number ↔
    digits.chars ≠ [] ∧ digits.value < limit ∧ number = digits.value := by
  rw [parseUnsignedBytes, Digits.bytes, chars_of_digitBytes digits.isDigit]
  by_cases hNone : digits.chars = []
  case pos =>
    rw [hNone]
    exact iff_of_false (by simp [parseUnsigned]) fun hSome => hSome.1 rfl
  case neg =>
    rw [parseUnsigned_digits hLimit digits.isDigit hNone, Option.ite_none_right_eq_some,
      Option.some.injEq, and_iff_right hNone]
    exact and_congr_right fun _ => eq_comm

theorem isDigit_toDigits (number : Nat) : ∀ d ∈ Nat.toDigits 10 number, d.isDigit = true :=
  fun _ hMem => Nat.isDigit_of_mem_toDigits (by decide) (by decide) hMem

/-- The digits of a number. -/
def Digits.ofNat (number : Nat) : Digits := ⟨Nat.toDigits 10 number, isDigit_toDigits number⟩

theorem Digits.value_ofNat (number : Nat) : (Digits.ofNat number).value = number :=
  Nat.ofDigitChars_ten_toDigits

theorem mem_intercalate {α : Type*} {separator : α} {parts : List (List α)} {a : α}
  (hMem : a ∈ [separator].intercalate parts) : a = separator ∨ ∃ part ∈ parts, a ∈ part := by
  induction parts with
  | nil => simp at hMem
  | cons part parts ih =>
    cases parts with
    | nil => exact Or.inr ⟨part, List.mem_cons_self, by simpa using hMem⟩
    | cons next parts =>
      rw [List.intercalate_cons_cons, List.append_assoc, List.mem_append] at hMem
      rcases hMem with hHere | hLater
      · exact Or.inr ⟨part, List.mem_cons_self, hHere⟩
      rcases List.mem_cons.1 hLater with hSeparator | hRest
      · exact Or.inl hSeparator
      rcases ih hRest with hSeparator | ⟨later, hMem, hIn⟩
      · exact Or.inl hSeparator
      · exact Or.inr ⟨later, List.mem_cons_of_mem _ hMem, hIn⟩

/-- The parts of a text have its symbols but the separator. -/
theorem mem_splitOn {α : Type*} [DecidableEq α] {separator : α} {text part : List α} {a : α}
  (hPart : part ∈ text.splitOn separator) (hMem : a ∈ part) : a ∈ text ∧ a ≠ separator := by
  induction text generalizing part with
  | nil =>
    rw [List.splitOn_nil, List.mem_singleton] at hPart
    subst hPart
    cases hMem
  | cons b text ih =>
    rw [List.splitOn_cons_eq_if_modifyHead] at hPart
    split at hPart
    case isTrue =>
      rcases List.mem_cons.1 hPart with rfl | hPart
      · cases hMem
      · exact ⟨List.mem_cons_of_mem _ (ih hPart hMem).1, (ih hPart hMem).2⟩
    case isFalse hOther =>
      obtain ⟨first, rest, hSplit⟩ :=
        List.exists_cons_of_ne_nil (List.splitOn_ne_nil separator text)
      rw [hSplit, List.modifyHead_cons] at hPart
      rw [hSplit] at ih
      rcases List.mem_cons.1 hPart with rfl | hPart
      · rcases List.mem_cons.1 hMem with rfl | hMem
        · exact ⟨List.mem_cons_self, by simpa using hOther⟩
        · have hIn := ih List.mem_cons_self hMem
          exact ⟨List.mem_cons_of_mem _ hIn.1, hIn.2⟩
      · have hIn := ih (List.mem_cons_of_mem _ hPart) hMem
        exact ⟨List.mem_cons_of_mem _ hIn.1, hIn.2⟩

end Text
