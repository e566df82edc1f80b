import VimeflowTerminal.Input.RawInput

/-! Once all of an event is in the buffer, its length does not change as more bytes
come, and it lies within the buffer. -/

namespace Input

open Search

/-- A length that is settled lies within the buffer and stays what it is. -/
def Settled (length : List UInt8 → Option Nat) (buffer : List UInt8) : Prop :=
  ∀ len, length buffer = some len →
    0 < len ∧ len ≤ buffer.length ∧ ∀ more, length (buffer ++ more) = some len

/-- An end that only comes with more bytes lies among them. -/
def Late (length : List UInt8 → Option Nat) (buffer : List UInt8) : Prop :=
  ∀ more len, length buffer = none → length (buffer ++ more) = some len → buffer.length < len

theorem settled_stStringTerminator (buffer : List UInt8) : Settled stStringTerminator buffer := by
  intro len hLen
  obtain ⟨index, hIndex, rfl⟩ := Option.map_eq_some_iff.1 hLen
  have hBound := findSubsequence_bound hIndex
  have hTwo : (ascii "\x1b\\").length = 2 := by decide
  refine ⟨by omega, by omega, fun more => ?_⟩
  rw [stStringTerminator, findSubsequence_append hIndex]
  rfl

theorem late_stStringTerminator (buffer : List UInt8) : Late stStringTerminator buffer := by
  intro more len hNone hFound
  obtain ⟨index, hIndex, rfl⟩ := Option.map_eq_some_iff.1 hFound
  have hTwo : (ascii "\x1b\\").length = 2 := by decide
  have hLate := findSubsequence_late (by decide) (Option.map_eq_none_iff.1 hNone) hIndex
  omega

theorem settled_firstByteEnd (isEnd : UInt8 → Bool) (buffer : List UInt8) :
  Settled (firstByteEnd isEnd) buffer := by
  intro len hLen
  obtain ⟨index, hIndex, rfl⟩ := Option.map_eq_some_iff.1 hLen
  have hBound := findIdx?_bound hIndex
  refine ⟨by omega, by omega, fun more => ?_⟩
  rw [firstByteEnd, findIdx?_append hIndex more]
  rfl

theorem late_firstByteEnd (isEnd : UInt8 → Bool) (buffer : List UInt8) :
  Late (firstByteEnd isEnd) buffer := by
  intro more len hNone hFound
  obtain ⟨index, hIndex, rfl⟩ := Option.map_eq_some_iff.1 hFound
  rw [List.findIdx?_append, Option.map_eq_none_iff.1 hNone, Option.none_or,
    Option.map_eq_some_iff] at hIndex
  obtain ⟨after, -, rfl⟩ := hIndex
  omega

variable {buffer : List UInt8} {len : Nat} {isUppercase : Char → Bool}

/-- The earlier of two ends is settled: one that comes later lies behind it. -/
theorem settled_earlierEnd {first second : List UInt8 → Option Nat}
  (hFirst : Settled first buffer) (hFirstLate : Late first buffer)
  (hSecond : Settled second buffer) (hSecondLate : Late second buffer) :
  Settled (fun bytes => earlierEnd (first bytes) (second bytes)) buffer := by
  intro len hLen
  replace hLen : earlierEnd (first buffer) (second buffer) = some len := hLen
  cases hFirstCase : first buffer with
  | some one =>
    obtain ⟨hOnePos, hOneBound, hOneMore⟩ := hFirst one hFirstCase
    cases hSecondCase : second buffer with
    | some two =>
      obtain ⟨hTwoPos, hTwoBound, hTwoMore⟩ := hSecond two hSecondCase
      rw [hFirstCase, hSecondCase] at hLen
      obtain rfl := Option.some.inj hLen
      refine ⟨by omega, by omega, fun more => ?_⟩
      simp only [hOneMore more, hTwoMore more, earlierEnd]
    | none =>
      rw [hFirstCase, hSecondCase] at hLen
      obtain rfl := Option.some.inj hLen
      refine ⟨hOnePos, hOneBound, fun more => ?_⟩
      cases hLater : second (buffer ++ more) with
      | none => simp only [hOneMore more, hLater, earlierEnd]
      | some two =>
        have hLate := hSecondLate more two hSecondCase hLater
        simp only [hOneMore more, hLater, earlierEnd, Nat.min_eq_left (by omega : one ≤ two)]
  | none =>
    cases hSecondCase : second buffer with
    | some two =>
      obtain ⟨hTwoPos, hTwoBound, hTwoMore⟩ := hSecond two hSecondCase
      rw [hFirstCase, hSecondCase] at hLen
      obtain rfl := Option.some.inj hLen
      refine ⟨hTwoPos, hTwoBound, fun more => ?_⟩
      cases hLater : first (buffer ++ more) with
      | none => simp only [hTwoMore more, hLater, earlierEnd]
      | some one =>
        have hLate := hFirstLate more one hFirstCase hLater
        simp only [hTwoMore more, hLater, earlierEnd, Nat.min_eq_right (by omega : two ≤ one)]
    | none =>
      rw [hFirstCase, hSecondCase] at hLen
      cases hLen

theorem settled_oscStringTerminator (buffer : List UInt8) : Settled oscStringTerminator buffer :=
  settled_earlierEnd (settled_stStringTerminator buffer) (late_stStringTerminator buffer)
    (settled_firstByteEnd isBel buffer) (late_firstByteEnd isBel buffer)

theorem settled_controlString (family : ControlStringFamily) (buffer : List UInt8) :
  Settled (controlStringTerminatorForFamily · family) buffer := by
  cases family with
  | osc => exact settled_oscStringTerminator buffer
  | stTerminated => exact settled_stStringTerminator buffer
  | hostReplyCsi => intro len hLen; cases hLen
  | orphanedSgrMouseTail => exact settled_firstByteEnd isMouseFinal buffer

theorem settled_findCsiFinal (finals : UInt8 → Bool) (buffer : List UInt8) :
  Settled (findCsiFinal · finals) buffer := by
  intro len hLen
  obtain ⟨index, hIndex, rfl⟩ := Option.map_eq_some_iff.1 hLen
  have hBound := findIdx?_bound hIndex
  rw [List.length_drop] at hBound
  refine ⟨by omega, by omega, fun more => ?_⟩
  simp only [findCsiFinal, List.drop_append_of_le_length (by omega : 2 ≤ buffer.length),
    findIdx?_append hIndex more, Option.map_some]

theorem take_append_of_le (hLen : len ≤ buffer.length) (more : List UInt8) :
  (buffer ++ more).take len = buffer.take len :=
  List.take_append_of_le_length hLen

theorem utf8CharWidth_pos {first : UInt8} {width : Nat} (hWidth : utf8CharWidth first = some width) :
  0 < width := by
  unfold utf8CharWidth at hWidth
  split at hWidth
  · cases hWidth
    decide
  split at hWidth
  · cases hWidth
    decide
  split at hWidth
  · cases hWidth
    decide
  split at hWidth
  · cases hWidth
    decide
  · cases hWidth

theorem settled_firstCompleteUtf8CharLen (buffer : List UInt8) :
  Settled firstCompleteUtf8CharLen buffer := by
  intro len hLen
  cases buffer with
  | nil => cases hLen
  | cons first rest =>
    simp only [firstCompleteUtf8CharLen, List.head?_cons, Option.bind_eq_bind, Option.bind_some,
      Option.bind_eq_some_iff] at hLen
    obtain ⟨width, hWidth, hRest⟩ := hLen
    split at hRest
    case isTrue => cases hRest
    case isFalse hLong =>
      obtain ⟨text, hText, hEq⟩ := Option.bind_eq_some_iff.1 hRest
      obtain rfl := Option.some.inj hEq
      refine ⟨utf8CharWidth_pos hWidth, by omega, fun more => ?_⟩
      have hStill : ¬ (first :: rest ++ more).length < width := by
        rw [List.length_append]
        omega
      have hTake : (first :: rest ++ more).take width = (first :: rest).take width :=
        take_append_of_le (Nat.not_lt.1 hLong) more
      rw [List.cons_append] at hTake hStill
      simp only [firstCompleteUtf8CharLen, List.cons_append, List.head?_cons,
        Option.bind_eq_bind, Option.bind_some, hWidth, hStill, if_false, hTake, hText]

theorem controlStringFamily_append (hLong : 2 ≤ buffer.length) (more : List UInt8) :
  controlStringFamily (buffer ++ more) = controlStringFamily buffer := by
  have hSame : ∀ start : List UInt8, start.length = 2 →
      (start <+: buffer ++ more ↔ start <+: buffer) :=
    fun start hStart => prefix_append_iff (by omega) more
  unfold controlStringFamily
  simp only [hSame (ascii "\x1b]") (by decide), hSame (ascii "\x1bP") (by decide),
    hSame (ascii "\x1b_") (by decide), hSame (ascii "\x1b^") (by decide),
    hSame (ascii "\x1bX") (by decide)]

theorem settled_singleEscapeSequenceLen (hLong : 2 ≤ buffer.length) :
  Settled singleEscapeSequenceLen buffer := by
  intro len hLen
  have hSame : ∀ (start : List UInt8) (more : List UInt8), start.length = 2 →
      (start <+: buffer ++ more ↔ start <+: buffer) :=
    fun start more hStart => prefix_append_iff (by omega) more
  unfold singleEscapeSequenceLen at hLen ⊢
  simp only [hSame (ascii "\x1b[") _ (by decide), hSame (ascii "\x1bO") _ (by decide),
    controlStringFamily_append hLong]
  by_cases hCsi : ascii "\x1b[" <+: buffer
  case pos =>
    simp only [hCsi, if_true] at hLen ⊢
    have hThree : 3 ≤ buffer.length := by
      by_contra hShort
      have hNone : ∀ finals, findCsiFinal buffer finals = none := by
        intro finals
        simp [findCsiFinal, List.drop_eq_nil_of_le (by omega : buffer.length ≤ 2)]
      simp only [hNone, ite_self] at hLen
      cases hLen
    have hMouse : ∀ more, (ascii "\x1b[<" <+: buffer ++ more ↔ ascii "\x1b[<" <+: buffer) :=
      fun more => prefix_append_iff (by rw [show (ascii "\x1b[<").length = 3 by decide]; omega) more
    simp only [hMouse]
    split at hLen
    case isTrue hYes =>
      simp only [hYes, if_true]
      exact settled_findCsiFinal isMouseFinal buffer len hLen
    case isFalse hNo =>
      simp only [hNo, if_false]
      exact settled_findCsiFinal isCsiFinal buffer len hLen
  case neg =>
    simp only [hCsi, if_false] at hLen ⊢
    cases hFamily : controlStringFamily buffer with
    | some family =>
      rw [hFamily] at hLen
      exact settled_controlString family buffer len hLen
    | none =>
      rw [hFamily] at hLen
      by_cases hSs3 : ascii "\x1bO" <+: buffer
      case pos =>
        simp only [hSs3, if_true] at hLen ⊢
        split at hLen
        case isTrue hThree =>
          cases hLen
          refine ⟨by omega, hThree, fun more => ?_⟩
          rw [if_pos (by rw [List.length_append]; omega)]
        case isFalse => cases hLen
      case neg =>
        simp only [hSs3, if_false] at hLen ⊢
        obtain ⟨width, hWidth, rfl⟩ := Option.map_eq_some_iff.1 hLen
        obtain ⟨hPos, hBound, hMore⟩ :=
          settled_firstCompleteUtf8CharLen buffer.tail width hWidth
        rw [List.length_tail] at hBound
        refine ⟨by omega, by omega, fun more => ?_⟩
        cases buffer with
        | nil => simp at hLong
        | cons first rest =>
          have hTail := hMore more
          simp only [List.tail_cons, List.cons_append] at hTail ⊢
          rw [hTail]
          rfl

theorem escapeBeforeMouse_append {answer : Option Nat}
  (hAnswer : escapeBeforeMouse buffer = some answer) (more : List UInt8) :
  escapeBeforeMouse (buffer ++ more) = some answer := by
  unfold escapeBeforeMouse at hAnswer ⊢
  split at hAnswer
  case isFalse => cases hAnswer
  case isTrue hPrefix =>
    have hLong := hPrefix.length_le
    have hFour : (ascii "\x1b\x1b[<").length = 4 := by decide
    obtain ⟨mouseLen, hMouse, hRest⟩ := Option.bind_eq_some_iff.1 hAnswer
    obtain ⟨-, hBound, hMore⟩ := settled_findCsiFinal isMouseFinal buffer.tail mouseLen hMouse
    have hLater : findCsiFinal (buffer.tail ++ more) isMouseFinal = some mouseLen := hMore more
    have hTail : (buffer ++ more).tail = buffer.tail ++ more :=
      List.tail_append_of_ne_nil (List.ne_nil_of_length_pos (by omega))
    rw [if_pos (List.prefix_append_of_prefix hPrefix), hTail, hLater, Option.bind_some,
      take_append_of_le hBound]
    exact hRest

/-- An escape that stands alone is one byte. -/
theorem escapeBeforeMouse_one (hLen : escapeBeforeMouse buffer = some (some len)) : len = 1 := by
  unfold escapeBeforeMouse at hLen
  split at hLen
  case isFalse => cases hLen
  case isTrue =>
    obtain ⟨mouseLen, -, hAnswer⟩ := Option.bind_eq_some_iff.1 hLen
    unfold mouseAnswer at hAnswer
    split at hAnswer
    · cases hAnswer
    split at hAnswer
    · exact (Option.some.inj (Option.some.inj hAnswer)).symm
    · cases hAnswer

theorem escapeBeforeMouse_single (hNot : ¬ ascii "\x1b\x1b" <+: buffer) :
  escapeBeforeMouse buffer = none := by
  have hNoMouse : ¬ ascii "\x1b\x1b[<" <+: buffer := by
    intro hPrefix
    exact hNot ((show ascii "\x1b\x1b" <+: ascii "\x1b\x1b[<" by decide).trans hPrefix)
  rw [escapeBeforeMouse, if_neg hNoMouse]

theorem completeEscapeSequenceLen_mouse (rest : List UInt8) :
  completeEscapeSequenceLen (0x1b :: 0x5b :: 0x3c :: rest) =
    findCsiFinal (0x1b :: 0x5b :: 0x3c :: rest) isMouseFinal := by
  have hNot : ¬ ascii "\x1b\x1b" <+: 0x1b :: 0x5b :: 0x3c :: rest :=
    mt (prefix_append_iff (show (ascii "\x1b\x1b").length ≤ [0x1b, 0x5b, 0x3c].length by decide)
      rest).1 (by decide)
  have hCsi : ascii "\x1b[" <+: 0x1b :: 0x5b :: 0x3c :: rest :=
    (prefix_append_iff (show (ascii "\x1b[").length ≤ [0x1b, 0x5b, 0x3c].length by decide)
      rest).2 (by decide)
  have hMouse : ascii "\x1b[<" <+: 0x1b :: 0x5b :: 0x3c :: rest :=
    (prefix_append_iff (show (ascii "\x1b[<").length ≤ [0x1b, 0x5b, 0x3c].length by decide)
      rest).2 (by decide)
  rw [completeEscapeSequenceLen, if_neg (by simp), escapeBeforeMouse_single hNot]
  simp only [hNot, if_false, singleEscapeSequenceLen, hCsi, hMouse, if_true]

/-- A doubled escape before more of a sequence that is complete stays one. -/
theorem escapeBeforeMouse_none_append {first : UInt8} {rest : List UInt8}
  (hNone : escapeBeforeMouse (first :: rest) = none)
  (hRest : completeEscapeSequenceLen rest = some len) (more : List UInt8) :
  escapeBeforeMouse (first :: rest ++ more) = none := by
  by_cases hPrefix : ascii "\x1b\x1b[<" <+: first :: rest ++ more
  case neg => rw [escapeBeforeMouse, if_neg hPrefix]
  case pos =>
    have hText : ascii "\x1b\x1b[<" = [0x1b, 0x1b, 0x5b, 0x3c] := by decide
    rw [hText, List.cons_append, List.cons_prefix_cons] at hPrefix
    obtain ⟨rfl, hTail⟩ := hPrefix
    match rest, hRest, hTail, hNone with
    | [], hRest, _, _ => cases hRest
    | [a], hRest, _, _ => cases hRest
    | [a, b], hRest, hTail, _ =>
      simp only [List.cons_append, List.cons_prefix_cons] at hTail
      obtain ⟨rfl, rfl, -⟩ := hTail
      have hShort : completeEscapeSequenceLen [0x1b, 0x5b] = none := by decide
      rw [hShort] at hRest
      cases hRest
    | a :: b :: c :: rest, hRest, hTail, hNone =>
      simp only [List.cons_append, List.cons_prefix_cons] at hTail
      obtain ⟨rfl, rfl, rfl, -⟩ := hTail
      rw [completeEscapeSequenceLen_mouse] at hRest
      obtain ⟨-, hBound, hMore⟩ := settled_findCsiFinal isMouseFinal _ len hRest
      have hLater : findCsiFinal (0x1b :: 0x5b :: 0x3c :: rest ++ more) isMouseFinal =
        some len := hMore more
      have hTake := take_append_of_le hBound more
      have hYes : ascii "\x1b\x1b[<" <+: 0x1b :: 0x1b :: 0x5b :: 0x3c :: rest :=
        (prefix_append_iff
          (show (ascii "\x1b\x1b[<").length ≤ [0x1b, 0x1b, 0x5b, 0x3c].length by decide)
          rest).2 (by decide)
      rw [escapeBeforeMouse, if_pos hYes, List.tail_cons, hRest, Option.bind_some] at hNone
      rw [escapeBeforeMouse, if_pos (List.prefix_append_of_prefix hYes), List.cons_append,
        List.tail_cons, hLater, Option.bind_some, hTake, hNone]

theorem settled_completeEscapeSequenceLen (buffer : List UInt8) :
  Settled completeEscapeSequenceLen buffer := by
  induction buffer with
  | nil => intro len hLen; cases hLen
  | cons first rest ih =>
    intro len hLen
    unfold completeEscapeSequenceLen at hLen
    split at hLen
    case isTrue => cases hLen
    case isFalse hRest =>
      have hLong : 2 ≤ (first :: rest).length := by
        have hPos := List.length_pos_iff.2 hRest
        rw [List.length_cons]
        omega
      have hMoreRest : ∀ more, rest ++ more ≠ [] := fun more => by simp [hRest]
      have hSame : ∀ more,
          (ascii "\x1b\x1b" <+: first :: (rest ++ more) ↔ ascii "\x1b\x1b" <+: first :: rest) :=
        prefix_append_iff (show (ascii "\x1b\x1b").length ≤ (first :: rest).length from hLong)
      cases hBefore : escapeBeforeMouse (first :: rest) with
      | some answer =>
        rw [hBefore] at hLen
        obtain rfl : answer = some len := hLen
        obtain rfl := escapeBeforeMouse_one hBefore
        refine ⟨by omega, by omega, fun more => ?_⟩
        have hStill := escapeBeforeMouse_append hBefore more
        rw [List.cons_append] at hStill ⊢
        rw [completeEscapeSequenceLen, if_neg (hMoreRest more), hStill]
      | none =>
        rw [hBefore] at hLen
        simp only at hLen
        split at hLen
        case isTrue hDouble =>
          obtain ⟨inner, hInner, rfl⟩ := Option.map_eq_some_iff.1 hLen
          obtain ⟨hPos, hBound, hMore⟩ := ih inner hInner
          refine ⟨by omega, by rw [List.length_cons]; omega, fun more => ?_⟩
          have hStill := escapeBeforeMouse_none_append hBefore hInner more
          rw [List.cons_append] at hStill ⊢
          rw [completeEscapeSequenceLen, if_neg (hMoreRest more), hStill]
          simp only [hSame more, hDouble, if_true, hMore more, Option.map_some]
        case isFalse hNotDouble =>
          obtain ⟨hPos, hBound, hMore⟩ := settled_singleEscapeSequenceLen hLong len hLen
          refine ⟨hPos, hBound, fun more => ?_⟩
          have hNot := mt (hSame more).1 hNotDouble
          have hSingle := hMore more
          rw [List.cons_append] at hSingle ⊢
          rw [completeEscapeSequenceLen, if_neg (hMoreRest more),
            escapeBeforeMouse_single hNot]
          simp only [hNot, if_false, hSingle]

/-- A complete prefix that starts no paste does not start one with more bytes. -/
theorem not_paste_append (hNot : ¬ bracketedPasteStart <+: buffer)
  (hLen : (if buffer.head? = some ESC then completeEscapeSequenceLen buffer
    else firstCompleteUtf8CharLen buffer) = some len) (more : List UInt8) :
  ¬ bracketedPasteStart <+: buffer ++ more := by
  intro hPaste
  have hText : bracketedPasteStart = [0x1b, 0x5b, 0x32, 0x30, 0x30, 0x7e] := by decide
  by_cases hLong : bracketedPasteStart.length ≤ buffer.length
  case pos => exact hNot ((prefix_append_iff hLong more).1 hPaste)
  case neg =>
    -- What is there of the start is no sequence yet.
    have hPart : buffer <+: bracketedPasteStart :=
      List.prefix_of_prefix_length_le (List.prefix_append buffer more) hPaste (by omega)
    have hParts : bracketedPasteStart.inits.all (fun part =>
        part = bracketedPasteStart ||
          (if part.head? = some ESC then completeEscapeSequenceLen part
            else firstCompleteUtf8CharLen part) = none) = true := by decide
    have hBuffer := List.all_eq_true.1 hParts buffer ((List.mem_inits _ _).2 hPart)
    simp only [Bool.or_eq_true, decide_eq_true_eq] at hBuffer
    rcases hBuffer with rfl | hNone
    · exact hLong (Nat.le_refl _)
    · rw [hNone] at hLen
      cases hLen

theorem settled_firstEventLen (buffer : List UInt8) : Settled firstEventLen buffer := by
  intro len hLen
  unfold firstEventLen at hLen ⊢
  split at hLen
  case isTrue hPaste =>
    obtain ⟨index, hIndex, rfl⟩ := Option.map_eq_some_iff.1 hLen
    have hBound := findSubsequence_bound hIndex
    have hSix : bracketedPasteEnd.length = 6 := by decide
    refine ⟨by omega, by omega, fun more => ?_⟩
    rw [if_pos (List.prefix_append_of_prefix hPaste), findSubsequence_append hIndex]
    rfl
  case isFalse hNot =>
    have hNotMore := not_paste_append hNot hLen
    have hHead : ∀ more, 0 < buffer.length → (buffer ++ more).head? = buffer.head? := by
      intro more hPos
      rw [List.head?_append_of_ne_nil _ (List.ne_nil_of_length_pos hPos)]
    split at hLen
    case isTrue hEscape =>
      obtain ⟨hPos, hBound, hMore⟩ := settled_completeEscapeSequenceLen buffer len hLen
      refine ⟨hPos, hBound, fun more => ?_⟩
      rw [if_neg (hNotMore more), hHead more (by omega), if_pos hEscape]
      exact hMore more
    case isFalse hChar =>
      obtain ⟨hPos, hBound, hMore⟩ := settled_firstCompleteUtf8CharLen buffer len hLen
      refine ⟨hPos, hBound, fun more => ?_⟩
      rw [if_neg (hNotMore more), hHead more (by omega), if_neg hChar]
      exact hMore more

/-- An event is found in the bytes of its length. -/
theorem extractOneEvent_found_iff {event : RawInputEvent} {consumed : Nat} :
  extractOneEvent isUppercase buffer = .found (event, consumed) ↔
    firstEventLen buffer = some consumed ∧
      eventOfBytes isUppercase (buffer.take consumed) = .found event := by
  cases hLen : firstEventLen buffer with
  | none =>
    rw [extractOneEvent, hLen]
    exact iff_of_false (fun hFound => by cases hFound) fun hBoth => by cases hBoth.1
  | some len =>
    rw [extractOneEvent, hLen]
    change Parsed.bind (eventOfBytes isUppercase (buffer.take len)) _ = _ ↔ _
    constructor
    · intro hFound
      cases hEvent : eventOfBytes isUppercase (buffer.take len) with
      | panicked => rw [hEvent] at hFound; cases hFound
      | nothing => rw [hEvent] at hFound; cases hFound
      | found value =>
        rw [hEvent] at hFound
        obtain ⟨rfl, rfl⟩ := Prod.mk.inj (Parsed.found.inj hFound)
        exact ⟨rfl, hEvent⟩
    · rintro ⟨hSame, hEvent⟩
      cases hSame
      rw [hEvent]
      rfl

theorem extractOneEvent_bounds {event : RawInputEvent} {consumed : Nat}
  (hFound : extractOneEvent isUppercase buffer = .found (event, consumed)) :
  0 < consumed ∧ consumed ≤ buffer.length := by
  obtain ⟨hPos, hBound, -⟩ :=
    settled_firstEventLen buffer consumed (extractOneEvent_found_iff.1 hFound).1
  exact ⟨hPos, hBound⟩

/-- An event that is found, and a panic, do not depend on what comes after. -/
theorem extractOneEvent_append (hSome : extractOneEvent isUppercase buffer ≠ .nothing)
  (more : List UInt8) :
  extractOneEvent isUppercase (buffer ++ more) = extractOneEvent isUppercase buffer := by
  cases hLen : firstEventLen buffer with
  | none =>
    rw [extractOneEvent, hLen] at hSome
    exact absurd rfl hSome
  | some len =>
    obtain ⟨-, hBound, hMore⟩ := settled_firstEventLen buffer len hLen
    rw [extractOneEvent, extractOneEvent, hMore more, hLen]
    show Parsed.bind (eventOfBytes isUppercase ((buffer ++ more).take len)) _ =
      Parsed.bind (eventOfBytes isUppercase (buffer.take len)) _
    rw [take_append_of_le hBound]

end Input
