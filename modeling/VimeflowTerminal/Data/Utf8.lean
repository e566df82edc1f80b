import Mathlib.Data.List.Basic

/-! The bytes of a text, and the text of bytes that are one. -/

namespace Utf8

/-- `char::is_control`, the general category Cc. -/
def isControl (ch : Char) : Bool := ch.toNat < 32 || 127 ≤ ch.toNat && ch.toNat < 160

def encode (text : List Char) : List UInt8 := text.flatMap String.utf8EncodeChar

/-- `str::from_utf8(bytes).ok()`. -/
def decode (bytes : List UInt8) : Option (List Char) :=
  (ByteArray.utf8Decode? bytes.toByteArray).map Array.toList

@[simp] theorem encode_nil : encode [] = [] := rfl

@[simp] theorem encode_cons (ch : Char) (text : List Char) :
  encode (ch :: text) = String.utf8EncodeChar ch ++ encode text := List.flatMap_cons

@[simp] theorem encode_append (first second : List Char) :
  encode (first ++ second) = encode first ++ encode second := List.flatMap_append

theorem toByteArray_encode (text : List Char) : (encode text).toByteArray = text.utf8Encode := by
  simp [encode, List.utf8Encode]

@[simp] theorem decode_encode (text : List Char) : decode (encode text) = some text := by
  have hDecode : ByteArray.utf8Decode? text.utf8Encode = some text.toArray :=
    List.utf8Decode?_utf8Encode
  rw [decode, toByteArray_encode, hDecode]
  simp

variable {text : List Char} {before behind : List UInt8}

theorem encode_of_decode {bytes : List UInt8} (hDecode : decode bytes = some text) :
  bytes = encode text := by
  obtain ⟨chars, hChars, rfl⟩ := Option.map_eq_some_iff.1 hDecode
  have hSome : (ByteArray.utf8Decode? bytes.toByteArray).isSome := by rw [hChars]; rfl
  have hBytes := ByteArray.utf8Encode_get_utf8Decode? (h := hSome)
  simp only [hChars, Option.get_some] at hBytes
  rw [← toByteArray_encode] at hBytes
  exact (List.toByteArray_inj.1 hBytes).symm

theorem forall_byte {P : UInt8 → Prop} (hAll : ∀ number : Fin 256, P (UInt8.ofFin number))
  (byte : UInt8) : P byte := by
  have hByte := hAll byte.toFin
  simpa using hByte

theorem not_ascii_of_lead (byte : UInt8) :
  ¬ (byte &&& 0x1f ||| 0xc0) < 0x80 ∧ ¬ (byte &&& 0x0f ||| 0xe0) < 0x80 ∧
    ¬ (byte &&& 0x07 ||| 0xf0) < 0x80 := by
  revert byte
  exact forall_byte (by decide +kernel)

/-- A byte below 0x80 is a character of its own. -/
theorem utf8EncodeChar_of_ascii {ch : Char} {first : UInt8} {rest : List UInt8}
  (hBytes : String.utf8EncodeChar ch = first :: rest) (hAscii : first < 0x80) : rest = [] := by
  rcases ch.utf8Size_eq with hSize | hSize | hSize | hSize
  · rw [String.utf8EncodeChar_eq_singleton hSize] at hBytes
    exact (List.cons.inj hBytes).2.symm
  · rw [String.utf8EncodeChar_eq_cons_cons hSize] at hBytes
    obtain ⟨rfl, -⟩ := List.cons.inj hBytes
    exact absurd hAscii (not_ascii_of_lead _).1
  · rw [String.utf8EncodeChar_eq_cons_cons_cons hSize] at hBytes
    obtain ⟨rfl, -⟩ := List.cons.inj hBytes
    exact absurd hAscii (not_ascii_of_lead _).2.1
  · rw [String.utf8EncodeChar_eq_cons_cons_cons_cons hSize] at hBytes
    obtain ⟨rfl, -⟩ := List.cons.inj hBytes
    exact absurd hAscii (not_ascii_of_lead _).2.2

theorem eq_cons_utf8EncodeChar (ch : Char) :
  ∃ first rest, String.utf8EncodeChar ch = first :: rest ∧ first.IsUTF8FirstByte ∧
    ∀ byte ∈ rest, ¬ byte.IsUTF8FirstByte := by
  cases hBytes : String.utf8EncodeChar ch with
  | nil => exact absurd hBytes String.utf8EncodeChar_ne_nil
  | cons first rest =>
    refine ⟨first, rest, rfl, ?_, fun byte hByte hFirst => ?_⟩
    · have hZero : 0 < (String.utf8EncodeChar ch).length := by rw [hBytes]; simp
      have hFirst := (@UInt8.isUTF8FirstByte_getElem_utf8EncodeChar ch 0 hZero).2 rfl
      simpa only [hBytes, List.getElem_cons_zero] using hFirst
    · obtain ⟨index, hIndex, rfl⟩ := List.getElem_of_mem hByte
      have hBound : index + 1 < (String.utf8EncodeChar ch).length := by
        rw [hBytes, List.length_cons]
        omega
      have hLater : (String.utf8EncodeChar ch)[index + 1] = rest[index] := by
        simp only [hBytes, List.getElem_cons_succ]
      rw [← hLater] at hFirst
      exact absurd (UInt8.isUTF8FirstByte_getElem_utf8EncodeChar.1 hFirst) (Nat.succ_ne_zero _)

/-- No character is the beginning of another one. -/
theorem prefix_unique {first second : Char}
  (hPrefix : String.utf8EncodeChar first <+: String.utf8EncodeChar second) : first = second := by
  obtain ⟨rest, hRest⟩ := hPrefix
  have hBytes : ([first].utf8Encode ++ rest.toByteArray) = (encode [second]).toByteArray := by
    rw [← toByteArray_encode, ← List.toByteArray_append]
    simp [hRest]
  have hDecode := decode_encode [second]
  rw [decode, ← hBytes, ByteArray.utf8Decode?_utf8Encode_singleton_append, Option.map_map,
    Option.map_eq_some_iff] at hDecode
  obtain ⟨chars, -, hEq⟩ := hDecode
  simp only [Function.comp_apply, Array.toList_append, List.cons_append, List.nil_append,
    List.cons.injEq] at hEq
  exact hEq.1

/-- Bytes that no character starts with. -/
def StartsNoChar (bytes : List UInt8) : Prop :=
  ∀ ch, ¬ String.utf8EncodeChar ch <+: bytes

theorem startsNoChar_cons {first : UInt8}
  (hFirst : ∀ ch, (String.utf8EncodeChar ch).head? ≠ some first)
  (rest : List UInt8) : StartsNoChar (first :: rest) := by
  intro ch hPrefix
  obtain ⟨lead, more, hBytes, -, -⟩ := eq_cons_utf8EncodeChar ch
  rw [hBytes, List.cons_prefix_cons] at hPrefix
  refine hFirst ch ?_
  rw [hBytes, hPrefix.1]
  rfl

/-- Part of a character before the next one. -/
theorem startsNoChar_of_truncated {ch : Char} {part rest : List UInt8} (hPart : part ≠ [])
  (hPrefix : part <+: String.utf8EncodeChar ch) (hProper : part ≠ String.utf8EncodeChar ch)
  (hRest : ∀ byte, rest.head? = some byte → byte.IsUTF8FirstByte) :
  StartsNoChar (part ++ rest) := by
  intro other hOther
  rcases Nat.lt_or_ge part.length (String.utf8EncodeChar other).length with hLong | hShort
  case inl =>
    -- The character goes on where the next one begins.
    obtain ⟨more, hMore⟩ : part <+: String.utf8EncodeChar other :=
      List.prefix_of_prefix_length_le (List.prefix_append part rest) hOther
        (Nat.le_of_lt hLong)
    obtain ⟨lead, tail, hBytes, -, hTail⟩ := eq_cons_utf8EncodeChar other
    cases part with
    | nil => exact hPart rfl
    | cons first part =>
      rw [hBytes, List.cons_append, List.cons.injEq] at hMore
      cases more with
      | nil =>
        rw [hBytes, List.length_cons, List.length_cons, ← hMore.2, List.append_nil] at hLong
        omega
      | cons next more =>
        have hNext : rest.head? = some next := by
          rw [hBytes, ← hMore.2, ← hMore.1, ← List.cons_append, List.prefix_append_right_inj]
            at hOther
          obtain ⟨last, rfl⟩ := hOther
          rfl
        refine hTail next ?_ (hRest next hNext)
        rw [← hMore.2]
        exact List.mem_append_right _ (List.mem_cons_self ..)
  case inr =>
    have hInPart : String.utf8EncodeChar other <+: part :=
      List.prefix_of_prefix_length_le hOther (List.prefix_append part rest) hShort
    obtain rfl := prefix_unique (hInPart.trans hPrefix)
    exact hProper (hPrefix.eq_of_length_le hInPart.length_le)

/-- A text may be cut where a character begins. -/
theorem encode_split (hBytes : encode text = before ++ behind)
  (hBehind : ∀ byte, behind.head? = some byte → byte.IsUTF8FirstByte) :
  ∃ first second, text = first ++ second ∧ before = encode first ∧ behind = encode second := by
  induction text generalizing before with
  | nil =>
    obtain ⟨rfl, rfl⟩ := List.append_eq_nil_iff.1 hBytes.symm
    exact ⟨[], [], rfl, rfl, rfl⟩
  | cons ch text ih =>
    rw [encode_cons] at hBytes
    by_cases hNil : before = []
    case pos =>
      subst hNil
      exact ⟨[], ch :: text, rfl, rfl, by rw [encode_cons, hBytes, List.nil_append]⟩
    case neg =>
      rcases List.append_eq_append_iff.1 hBytes with ⟨more, rfl, hRest⟩ | ⟨more, hChar, rfl⟩
      · obtain ⟨first, second, rfl, rfl, rfl⟩ := ih hRest
        exact ⟨ch :: first, second, rfl, by rw [encode_cons], rfl⟩
      -- The cut would be in the character, where none begins.
      cases more with
      | nil =>
        rw [List.append_nil] at hChar
        exact ⟨[ch], text, rfl, by simp [hChar], rfl⟩
      | cons byte more =>
        obtain ⟨lead, rest, hLead, -, hRest⟩ := eq_cons_utf8EncodeChar ch
        obtain ⟨first, before, rfl⟩ := List.exists_cons_of_ne_nil hNil
        rw [hLead, List.cons_append, List.cons.injEq] at hChar
        refine absurd (hBehind byte rfl) (hRest byte ?_)
        rw [hChar.2]
        simp

/-- What follows ASCII bytes in a text is a text. -/
theorem exists_encode_of_ascii_append (hBytes : encode text = before ++ behind)
  (hBefore : ∀ byte ∈ before, byte < 0x80) :
  ∃ rest, behind = encode rest := by
  induction before generalizing text with
  | nil => exact ⟨text, hBytes.symm⟩
  | cons first before ih =>
    cases text with
    | nil => cases hBytes
    | cons ch text =>
      obtain ⟨lead, rest, hLead, -, -⟩ := eq_cons_utf8EncodeChar ch
      rw [encode_cons, hLead, List.cons_append, List.cons_append, List.cons.injEq] at hBytes
      obtain ⟨rfl, hRest⟩ := hBytes
      obtain rfl := utf8EncodeChar_of_ascii hLead (hBefore lead (List.mem_cons_self ..))
      exact ih hRest fun byte hByte => hBefore byte (List.mem_cons_of_mem _ hByte)

theorem utf8EncodeChar_ascii {byte : UInt8} (hAscii : byte < 0x80) :
  String.utf8EncodeChar (Char.ofNat byte.toNat) = [byte] := by
  have hAll : ∀ byte : UInt8, byte < 0x80 →
      String.utf8EncodeChar (Char.ofNat byte.toNat) = [byte] := forall_byte (by decide +kernel)
  exact hAll byte hAscii

/-- A text may be cut behind an ASCII byte. -/
theorem decode_of_ascii_end {byte : UInt8} (hBytes : encode text = before ++ byte :: behind)
  (hAscii : byte < 0x80) :
  ∃ first, before ++ [byte] = encode first := by
  have hFirst : byte.IsUTF8FirstByte := by
    obtain ⟨lead, rest, hLead, hByte, -⟩ := eq_cons_utf8EncodeChar (Char.ofNat byte.toNat)
    rw [utf8EncodeChar_ascii hAscii] at hLead
    obtain ⟨rfl, -⟩ := List.cons.inj hLead
    exact hByte
  obtain ⟨first, second, -, hBefore, -⟩ := encode_split hBytes fun other hOther => by
    cases hOther
    exact hFirst
  exact ⟨first ++ [Char.ofNat byte.toNat], by simp [hBefore, utf8EncodeChar_ascii hAscii]⟩

end Utf8
