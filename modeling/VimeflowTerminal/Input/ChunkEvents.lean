import VimeflowTerminal.Input.ExactLength
import VimeflowTerminal.Input.KeyTexts
import VimeflowTerminal.Input.MalformedInput

/-! Which of the chunks that the framer hands on are one event each. -/

namespace Input

open Search Streaming Utf8

theorem utf8CharWidth_lead (byte : UInt8) :
  utf8CharWidth (byte &&& 0x1f ||| 0xc0) = some 2 ∧
    utf8CharWidth (byte &&& 0x0f ||| 0xe0) = some 3 ∧
      utf8CharWidth (byte &&& 0x07 ||| 0xf0) = some 4 := by
  have hAll : ∀ byte : UInt8, utf8CharWidth (byte &&& 0x1f ||| 0xc0) = some 2 ∧
      utf8CharWidth (byte &&& 0x0f ||| 0xe0) = some 3 ∧
        utf8CharWidth (byte &&& 0x07 ||| 0xf0) = some 4 := forall_byte (by decide +kernel)
  exact hAll byte

variable {ch : Char} {isUppercase : Char → Bool}

theorem utf8CharWidth_of_utf8EncodeChar {first : UInt8} {rest : List UInt8}
  (hBytes : String.utf8EncodeChar ch = first :: rest) :
  utf8CharWidth first = some ch.utf8Size := by
  rcases ch.utf8Size_eq with hSize | hSize | hSize | hSize
  · rw [String.utf8EncodeChar_eq_singleton hSize] at hBytes
    obtain ⟨rfl, -⟩ := List.cons.inj hBytes
    have hSmall := Char.utf8Size_eq_one_iff.1 hSize
    have hAscii : ch.val.toUInt8 < 0x80 := by
      rw [UInt32.le_iff_toNat_le] at hSmall
      rw [UInt8.lt_iff_toNat_lt, UInt32.toNat_toUInt8]
      have hBound : (127 : UInt32).toNat = 127 := rfl
      have hLimit : (0x80 : UInt8).toNat = 128 := rfl
      omega
    rw [utf8CharWidth, if_pos hAscii, hSize]
  · rw [String.utf8EncodeChar_eq_cons_cons hSize] at hBytes
    obtain ⟨rfl, -⟩ := List.cons.inj hBytes
    rw [(utf8CharWidth_lead _).1, hSize]
  · rw [String.utf8EncodeChar_eq_cons_cons_cons hSize] at hBytes
    obtain ⟨rfl, -⟩ := List.cons.inj hBytes
    rw [(utf8CharWidth_lead _).2.1, hSize]
  · rw [String.utf8EncodeChar_eq_cons_cons_cons_cons hSize] at hBytes
    obtain ⟨rfl, -⟩ := List.cons.inj hBytes
    rw [(utf8CharWidth_lead _).2.2, hSize]

theorem firstCompleteUtf8CharLen_utf8EncodeChar (ch : Char) :
  firstCompleteUtf8CharLen (String.utf8EncodeChar ch) =
    some (String.utf8EncodeChar ch).length := by
  obtain ⟨first, rest, hBytes, -, -⟩ := eq_cons_utf8EncodeChar ch
  have hLength : (first :: rest).length = ch.utf8Size := by
    rw [← hBytes, String.length_utf8EncodeChar]
  have hDecode : decode (first :: rest) = some [ch] := by
    rw [← decode_encode [ch], encode_cons, encode_nil, List.append_nil, hBytes]
  simp only [firstCompleteUtf8CharLen, hBytes, List.head?_cons, Option.bind_eq_bind,
    Option.bind_some, utf8CharWidth_of_utf8EncodeChar hBytes, hLength, Nat.lt_irrefl, if_false]
  rw [← hLength, List.take_length, hDecode]
  rfl

theorem escapeSequenceEvent_ne_nothing (bytes : List UInt8) (sequence : List Char) :
  escapeSequenceEvent bytes sequence ≠ .nothing := by
  have hOrElse : ∀ {α : Type} {first second : Parsed α}, second ≠ .nothing →
      Parsed.orElse first second ≠ .nothing := by
    intro α first second hSecond
    cases first with
    | panicked => simp [Parsed.orElse]
    | found value => simp [Parsed.orElse]
    | nothing => exact hSecond
  refine hOrElse (hOrElse ?_)
  split
  · simp
  split
  · simp
  split
  · simp
  split
  · simp
  split
  · simp
  · split <;> simp

/-- A complete sequence that is text is an event. -/
theorem extractOneEvent_escape {isUppercase : Char → Bool} {buffer : List UInt8} {len : Nat}
  {text : List Char} (hLen : firstEventLen buffer = some len)
  (hPaste : ¬ bracketedPasteStart <+: buffer) (hEscape : buffer.head? = some ESC)
  (hText : buffer.take len = encode text) : extractOneEvent isUppercase buffer ≠ .nothing := by
  obtain ⟨hPos, -, -⟩ := settled_firstEventLen buffer len hLen
  have hHead : (encode text).head? = some ESC := by
    rw [← hText, List.head?_take, if_neg (by omega), hEscape]
  have hNotPaste : ¬ bracketedPasteStart <+: encode text := by
    rw [← hText]
    exact fun hPrefix => hPaste (hPrefix.trans (List.take_prefix _ _))
  have hEvent : eventOfBytes isUppercase (encode text) = escapeSequenceEvent (encode text) text := by
    rw [eventOfBytes, if_neg hNotPaste, decode_encode]
    show (if (encode text).head? = some ESC then _ else _) = _
    rw [if_pos hHead]
  rw [extractOneEvent, hLen]
  show Parsed.bind (eventOfBytes isUppercase (buffer.take len)) _ ≠ _
  rw [hText, hEvent]
  cases hSequence : escapeSequenceEvent (encode text) text with
  | panicked => simp [Parsed.bind]
  | nothing => exact absurd hSequence (escapeSequenceEvent_ne_nothing _ _)
  | found event => simp [Parsed.bind, pure]

/-- A complete paste in a text is an event. -/
theorem extractOneEvent_paste_text {text : List Char} {index : Nat}
  (hPaste : bracketedPasteStart <+: encode text)
  (hEnd : findSubsequence bracketedPasteEnd (encode text) = some index) :
  extractOneEvent isUppercase (encode text) ≠ .nothing := by
  obtain ⟨bytes, hBytes⟩ := hPaste
  rw [← hBytes, findSubsequence_skip_start] at hEnd
  obtain ⟨inner, hInner, rfl⟩ := Option.map_eq_some_iff.1 hEnd
  obtain ⟨body, rest, rfl, rfl⟩ := findSubsequence_spec hInner
  obtain ⟨content, hContent⟩ := exists_encode_of_ascii_append hBytes.symm (by decide +kernel)
  obtain ⟨first, -, -, hBody, -⟩ := encode_split hContent.symm fun byte hByte => by
    obtain rfl : ESC = byte := Option.some.inj hByte
    decide
  rw [← hBytes, extractOneEvent_paste hInner, hBody, decode_encode]
  simp

/-- One character that is no escape is an event. -/
theorem extractOneEvent_char (hKey : (parseTerminalKeySequence [ch]).isSome = true)
  (hEscape : encode [ch] ≠ [ESC]) :
  extractOneEvent isUppercase (encode [ch]) ≠ .nothing := by
  have hBytes : encode [ch] = String.utf8EncodeChar ch := by
    rw [encode_cons, encode_nil, List.append_nil]
  obtain ⟨first, rest, hChar, -, -⟩ := eq_cons_utf8EncodeChar ch
  have hHead : (encode [ch]).head? ≠ some ESC := by
    intro hHead
    rw [hBytes, hChar] at hHead hEscape
    obtain rfl : first = ESC := Option.some.inj hHead
    obtain rfl := utf8EncodeChar_of_ascii hChar (by decide)
    exact hEscape rfl
  have hPaste := not_prefix_of_head? hHead (show bracketedPasteStart.head? = some ESC by decide)
  have hLen : firstEventLen (encode [ch]) = some (encode [ch]).length := by
    rw [firstEventLen, if_neg hPaste, if_neg hHead, hBytes, firstCompleteUtf8CharLen_utf8EncodeChar]
  obtain ⟨key, hFound⟩ := Option.isSome_iff_exists.1 hKey
  have hEvent : eventOfBytes isUppercase (encode [ch]) =
      .found (.key ((key.withTextCommit isUppercase).withVtBytes (encode [ch]))) := by
    rw [eventOfBytes, if_neg hPaste, decode_encode]
    show (if (encode [ch]).head? = some ESC then _ else _) = _
    rw [if_neg hHead, characterEvent, hFound]
    rfl
  rw [extractOneEvent, hLen]
  show Parsed.bind (eventOfBytes isUppercase (List.take _ (encode [ch]))) _ ≠ _
  rw [List.take_length, hEvent]
  simp [Parsed.bind, pure]

/-- The key texts that do not count as complete. -/
def incompleteKeyTexts : List (List UInt8) := [[ESC, ESC], ascii "\x1b[", ascii "\x1bO"]

theorem encode_escape_cons (text : List Char) : encode ('\x1b' :: text) = ESC :: encode text := by
  rw [encode_cons, utf8EncodeChar_escape]
  rfl

/-- The bytes after an escape that begin something longer. -/
def escapeIntroducers : List UInt8 := ascii "[O\x1b]P_^X"

theorem firstEventLen_escapedChar {first : UInt8} (hFirst : first ∉ escapeIntroducers)
  (rest : List UInt8) :
  firstEventLen (ESC :: first :: rest) =
    (firstCompleteUtf8CharLen (first :: rest)).map (1 + ·) := by
  have hNot : ∀ {byte : UInt8} {more : List UInt8}, byte ∈ escapeIntroducers →
      ¬ ESC :: byte :: more <+: ESC :: first :: rest := by
    intro byte more hByte hPrefix
    obtain rfl := (List.cons_prefix_cons.1 (List.cons_prefix_cons.1 hPrefix).2).1
    exact hFirst hByte
  have hPaste : ¬ bracketedPasteStart <+: ESC :: first :: rest := hNot (by decide)
  have hDouble : ¬ ascii "\x1b\x1b" <+: ESC :: first :: rest := hNot (by decide)
  have hCsi : ¬ ascii "\x1b[" <+: ESC :: first :: rest := hNot (by decide)
  have hSs3 : ¬ ascii "\x1bO" <+: ESC :: first :: rest := hNot (by decide)
  have hOsc : ¬ ascii "\x1b]" <+: ESC :: first :: rest := hNot (by decide)
  have hDcs : ¬ ascii "\x1bP" <+: ESC :: first :: rest := hNot (by decide)
  have hApc : ¬ ascii "\x1b_" <+: ESC :: first :: rest := hNot (by decide)
  have hPm : ¬ ascii "\x1b^" <+: ESC :: first :: rest := hNot (by decide)
  have hSos : ¬ ascii "\x1bX" <+: ESC :: first :: rest := hNot (by decide)
  have hFamily : controlStringFamily (ESC :: first :: rest) = none := by
    simp only [controlStringFamily, hOsc, hDcs, hApc, hPm, hSos, or_self, if_false]
  rw [firstEventLen, if_neg hPaste, if_pos List.head?_cons, completeEscapeSequenceLen,
    if_neg (by simp), escapeBeforeMouse_single hDouble]
  simp only [hDouble, if_false, singleEscapeSequenceLen, hCsi, hFamily, hSs3, List.tail_cons]

/-- One character after an escape is an event, the beginning of a control string or no
complete sequence. -/
theorem escapedChar_cases (hString : incompleteControlString (encode ['\x1b', ch]) = none)
  (hNothing : extractOneEvent isUppercase (encode ['\x1b', ch]) = .nothing) :
  encode ['\x1b', ch] ∈ incompleteKeyTexts := by
  obtain ⟨first, rest, hBytes, -, -⟩ := eq_cons_utf8EncodeChar ch
  have hEncode : encode ['\x1b', ch] = ESC :: first :: rest := by
    rw [encode_escape_cons, encode_cons, encode_nil, List.append_nil, hBytes]
  by_cases hFirst : first ∈ escapeIntroducers
  case pos =>
    have hAscii : ∀ byte ∈ escapeIntroducers, byte < 0x80 := by decide +kernel
    obtain rfl := utf8EncodeChar_of_ascii hBytes (hAscii first hFirst)
    have hCases : ∀ byte ∈ escapeIntroducers, [ESC, byte] ∈ incompleteKeyTexts ∨
        incompleteControlString [ESC, byte] ≠ none := by decide +kernel
    rw [hEncode] at hString ⊢
    exact (hCases first hFirst).resolve_right fun hNot => hNot hString
  case neg =>
    have hLen : firstEventLen (encode ['\x1b', ch]) = some (encode ['\x1b', ch]).length := by
      rw [hEncode, firstEventLen_escapedChar hFirst, ← hBytes,
        firstCompleteUtf8CharLen_utf8EncodeChar, Option.map_some, List.length_cons,
        Nat.add_comm]
    have hPaste : ¬ bracketedPasteStart <+: encode ['\x1b', ch] := by
      rw [hEncode]
      intro hPrefix
      have hSecond := (List.cons_prefix_cons.1 (List.cons_prefix_cons.1 hPrefix).2).1
      exact hFirst (hSecond ▸ by decide)
    have hEvent := @extractOneEvent_escape isUppercase _ _ _ hLen hPaste
      (by rw [hEncode]; rfl) List.take_length
    exact absurd hNothing hEvent

theorem ascii_of_isCsiFinal {byte : UInt8} (hFinal : isCsiFinal byte = true) : byte < 0x80 := by
  have hAll : ∀ byte : UInt8, isCsiFinal byte = true → byte < 0x80 := forall_byte (by decide +kernel)
  exact hAll byte hFinal

theorem utf8EncodeChar_of_isCsiFinalChar (hFinal : isCsiFinalChar ch = true) :
  ∃ byte, String.utf8EncodeChar ch = [byte] ∧ isCsiFinal byte = true := by
  simp only [isCsiFinalChar, Bool.and_eq_true, decide_eq_true_eq, Char.le_def,
    UInt32.le_iff_toNat_le] at hFinal
  have hFirst : ('@'.val).toNat = 64 := rfl
  have hLast : ('~'.val).toNat = 126 := rfl
  have hSmall : (127 : UInt32).toNat = 127 := rfl
  have hSize : ch.utf8Size = 1 := by
    rw [Char.utf8Size_eq_one_iff, UInt32.le_iff_toNat_le]
    omega
  refine ⟨ch.val.toUInt8, String.utf8EncodeChar_eq_singleton hSize, ?_⟩
  simp only [isCsiFinal, Bool.and_eq_true, decide_eq_true_eq, UInt8.le_iff_toNat_le,
    UInt32.toNat_toUInt8]
  have hLow : (0x40 : UInt8).toNat = 64 := rfl
  have hHigh : (0x7e : UInt8).toNat = 126 := rfl
  omega

/-- A complete control sequence is an event, a paste apart that has no end. -/
theorem csiKeyText_event {text : List Char} (hCsi : IsCsiKeyText text)
  (hPaste : bracketedPasteStart <+: encode text →
    findSubsequence bracketedPasteEnd (encode text) ≠ none) :
  extractOneEvent isUppercase (encode text) ≠ .nothing := by
  by_cases hStart : bracketedPasteStart <+: encode text
  case pos =>
    obtain ⟨index, hEnd⟩ := Option.ne_none_iff_exists'.1 (hPaste hStart)
    exact extractOneEvent_paste_text hStart hEnd
  case neg =>
    obtain ⟨body, last, rfl, hLast, hMouse, hBody⟩ := hCsi
    obtain ⟨final, hFinalBytes, hFinal⟩ := utf8EncodeChar_of_isCsiFinalChar hLast
    obtain ⟨head, tail, rfl⟩ := List.exists_cons_of_ne_nil hBody
    obtain ⟨first, rest, hFirst, -, -⟩ := eq_cons_utf8EncodeChar head
    have hNotMouse : first ≠ 0x3c := by
      rintro rfl
      obtain rfl := utf8EncodeChar_of_ascii hFirst (by decide)
      refine hMouse (congrArg some (prefix_unique ?_))
      rw [hFirst]
      decide
    have hIntro : encode "\x1b[".toList = [ESC, 0x5b] := by decide
    have hEncode : encode ("\x1b[".toList ++ (head :: tail ++ [last])) =
        ESC :: 0x5b :: first :: (rest ++ encode tail ++ [final]) := by
      rw [encode_append, hIntro, encode_append, encode_cons, encode_cons, encode_nil, hFirst,
        hFinalBytes]
      simp
    rw [hEncode] at hStart
    have hSome : ((first :: (rest ++ encode tail ++ [final])).findIdx? isCsiFinal).isSome := by
      rw [List.findIdx?_isSome]
      simp [hFinal]
    obtain ⟨index, hIndex⟩ := Option.isSome_iff_exists.1 hSome
    obtain ⟨before, byte, behind, hSplit, hLength, hByte⟩ := findIdx?_spec hIndex
    have hLen : firstEventLen (encode ("\x1b[".toList ++ (head :: tail ++ [last]))) =
        some (index + 3) := by
      have hDouble : ¬ ascii "\x1b\x1b" <+: ESC :: 0x5b :: first ::
          (rest ++ encode tail ++ [final]) := by
        intro hPrefix
        exact absurd (List.cons_prefix_cons.1 (List.cons_prefix_cons.1 hPrefix).2).1 (by decide)
      have hCsiPrefix : ascii "\x1b[" <+: ESC :: 0x5b :: first ::
          (rest ++ encode tail ++ [final]) := List.prefix_append (ascii "\x1b[") _
      have hNoMouse : ¬ ascii "\x1b[<" <+: ESC :: 0x5b :: first ::
          (rest ++ encode tail ++ [final]) := by
        intro hPrefix
        have hThird := (List.cons_prefix_cons.1 (List.cons_prefix_cons.1
          (List.cons_prefix_cons.1 hPrefix).2).2).1
        exact hNotMouse hThird.symm
      rw [hEncode, firstEventLen, if_neg hStart, if_pos List.head?_cons,
        completeEscapeSequenceLen, if_neg (by simp), escapeBeforeMouse_single hDouble]
      simp only [hDouble, if_false, singleEscapeSequenceLen, hCsiPrefix, if_true, hNoMouse]
      show ((first :: (rest ++ encode tail ++ [final])).findIdx? isCsiFinal).map (· + 3) = _
      rw [hIndex]
      rfl
    have hWhole : encode ("\x1b[".toList ++ (head :: tail ++ [last])) =
        (ESC :: 0x5b :: before) ++ byte :: behind := by
      rw [hEncode, hSplit]
      rfl
    obtain ⟨part, hPart⟩ := decode_of_ascii_end hWhole (ascii_of_isCsiFinal hByte)
    refine @extractOneEvent_escape isUppercase _ _ part hLen (by rw [hEncode]; exact hStart)
      (by rw [hEncode]; rfl) ?_
    rw [← hPart, hWhole, List.append_cons, ← hLength]
    exact List.take_left' (by simp)

/-- A key text that is no event is one of a few beginnings. -/
theorem keyText_event {buffer : List UInt8} (hKey : isKeyText buffer = true)
  (hEscape : buffer ≠ [ESC]) (hString : incompleteControlString buffer = none)
  (hPaste : bracketedPasteStart <+: buffer → findSubsequence bracketedPasteEnd buffer ≠ none)
  (hNothing : extractOneEvent isUppercase buffer = .nothing) : buffer ∈ incompleteKeyTexts := by
  unfold isKeyText at hKey
  cases hDecode : decode buffer with
  | none => rw [hDecode] at hKey; cases hKey
  | some text =>
    rw [hDecode, Option.bind_some] at hKey
    obtain rfl := encode_of_decode hDecode
    rcases keyText_cases hKey with ⟨ch, rfl⟩ | ⟨ch, rfl⟩ | hLegacy | hCsi
    · exact absurd hNothing (extractOneEvent_char hKey hEscape)
    · exact escapedChar_cases hString hNothing
    · have hWhole : (legacySpecialKeys.map Prod.fst).all (fun text =>
          decide (firstEventLen (encode text) = some (encode text).length) &&
            decide (¬ bracketedPasteStart <+: encode text) &&
              decide ((encode text).head? = some ESC)) = true := by decide +kernel
      have hText := List.all_eq_true.1 hWhole text hLegacy
      simp only [Bool.and_eq_true, decide_eq_true_eq] at hText
      obtain ⟨⟨hLen, hNotPaste⟩, hHead⟩ := hText
      exact absurd hNothing (extractOneEvent_escape hLen hNotPaste hHead List.take_length)
    · exact absurd hNothing (csiKeyText_event hCsi hPaste)

end Input
