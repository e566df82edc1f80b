import VimeflowTerminal.Input.EventLength

/-! The bytes of an event, cut off at its length, are an event of that length again.
The only bytes that are not are escapes that stand before a mouse report. -/

namespace Input

open Search

/-- A length is found in the bytes that it measures. -/
def Exact (length : List UInt8 → Option Nat) (buffer : List UInt8) : Prop :=
  ∀ len, length buffer = some len → length (buffer.take len) = some len

theorem exact_stStringTerminator (buffer : List UInt8) : Exact stStringTerminator buffer := by
  intro len hLen
  obtain ⟨index, hIndex, rfl⟩ := Option.map_eq_some_iff.1 hLen
  have hTake := findSubsequence_take (by decide) hIndex
  rw [show (ascii "\x1b\\").length = 2 by decide] at hTake
  rw [stStringTerminator, hTake]
  rfl

theorem exact_firstByteEnd (isEnd : UInt8 → Bool) (buffer : List UInt8) :
  Exact (firstByteEnd isEnd) buffer := by
  intro len hLen
  obtain ⟨index, hIndex, rfl⟩ := Option.map_eq_some_iff.1 hLen
  rw [firstByteEnd, findIdx?_take hIndex]
  rfl

theorem Settled.take {length : List UInt8 → Option Nat} {buffer : List UInt8}
  (hSettled : ∀ bytes, Settled length bytes) (len : Nat) :
  length (buffer.take len) = none ∨ length (buffer.take len) = length buffer := by
  cases hTake : length (buffer.take len) with
  | none => exact Or.inl rfl
  | some found =>
    obtain ⟨-, -, hMore⟩ := hSettled _ found hTake
    have hWhole := hMore (buffer.drop len)
    rw [List.take_append_drop] at hWhole
    exact Or.inr hWhole.symm

variable {buffer : List UInt8} {len : Nat}

theorem exact_earlierEnd {first second : List UInt8 → Option Nat} (hFirst : Exact first buffer)
  (hFirstSettled : ∀ bytes, Settled first bytes) (hSecond : Exact second buffer)
  (hSecondSettled : ∀ bytes, Settled second bytes) :
  Exact (fun bytes => earlierEnd (first bytes) (second bytes)) buffer := by
  intro len hLen
  replace hLen : earlierEnd (first buffer) (second buffer) = some len := hLen
  show earlierEnd (first (buffer.take len)) (second (buffer.take len)) = some len
  -- The end that comes first is in the part; the other one may be or not.
  have hFirstTake := @Settled.take _ buffer hFirstSettled len
  have hSecondTake := @Settled.take _ buffer hSecondSettled len
  cases hOne : first buffer with
  | none =>
    cases hTwo : second buffer with
    | none =>
      rw [hOne, hTwo] at hLen
      cases hLen
    | some two =>
      rw [hOne, hTwo] at hLen
      obtain rfl := Option.some.inj hLen
      have hNone : first (buffer.take two) = none := by simpa [hOne] using hFirstTake
      rw [hNone, hSecond two hTwo]
      rfl
  | some one =>
    cases hTwo : second buffer with
    | none =>
      rw [hOne, hTwo] at hLen
      obtain rfl := Option.some.inj hLen
      have hNone : second (buffer.take one) = none := by simpa [hTwo] using hSecondTake
      rw [hNone, hFirst one hOne]
      rfl
    | some two =>
      rw [hOne, hTwo] at hLen
      obtain rfl := Option.some.inj hLen
      rcases Nat.le_total one two with hLe | hLe
      · rw [Nat.min_eq_left hLe] at hSecondTake ⊢
        rw [hFirst one hOne]
        rcases hSecondTake with hNone | hSame
        · rw [hNone]
          rfl
        · rw [hSame, hTwo, earlierEnd, Nat.min_eq_left hLe]
      · rw [Nat.min_eq_right hLe] at hFirstTake ⊢
        rw [hSecond two hTwo]
        rcases hFirstTake with hNone | hSame
        · rw [hNone]
          rfl
        · rw [hSame, hOne, earlierEnd, Nat.min_eq_right hLe]

theorem exact_controlString (family : ControlStringFamily) (buffer : List UInt8) :
  Exact (controlStringTerminatorForFamily · family) buffer := by
  cases family with
  | osc =>
    exact exact_earlierEnd (exact_stStringTerminator buffer) settled_stStringTerminator
      (exact_firstByteEnd isBel buffer) (settled_firstByteEnd isBel)
  | stTerminated => exact exact_stStringTerminator buffer
  | hostReplyCsi => intro len hLen; cases hLen
  | orphanedSgrMouseTail => exact exact_firstByteEnd isMouseFinal buffer

theorem exact_findCsiFinal (finals : UInt8 → Bool) (buffer : List UInt8) :
  Exact (findCsiFinal · finals) buffer := by
  intro len hLen
  obtain ⟨index, hIndex, rfl⟩ := Option.map_eq_some_iff.1 hLen
  show findCsiFinal (buffer.take (index + 3)) finals = _
  rw [findCsiFinal, List.drop_take, show index + 3 - 2 = index + 1 by omega, findIdx?_take hIndex]
  rfl

theorem exact_firstCompleteUtf8CharLen (buffer : List UInt8) :
  Exact firstCompleteUtf8CharLen buffer := by
  intro len hLen
  obtain ⟨hPos, hBound, -⟩ := settled_firstCompleteUtf8CharLen buffer len hLen
  obtain ⟨first, hFirst, hRest⟩ := Option.bind_eq_some_iff.1 hLen
  obtain ⟨width, hWidth, hDecode⟩ := Option.bind_eq_some_iff.1 hRest
  split at hDecode
  case isTrue => cases hDecode
  case isFalse hLong =>
    obtain ⟨text, hText, hEq⟩ := Option.bind_eq_some_iff.1 hDecode
    obtain rfl := Option.some.inj hEq
    have hHead : (buffer.take width).head? = some first := by
      rw [List.head?_take, if_neg (by omega), hFirst]
    have hLength : ¬ (buffer.take width).length < width := by
      rw [List.length_take]
      omega
    simp only [firstCompleteUtf8CharLen, hHead, Option.bind_eq_bind, Option.bind_some, hWidth,
      hLength, if_false, List.take_take, Nat.min_self, hText]

theorem prefix_take_iff {start : List UInt8} (hLen : start.length ≤ len) :
  start <+: buffer.take len ↔ start <+: buffer := by
  rw [List.prefix_take_iff]
  exact ⟨fun hBoth => hBoth.1, fun hPrefix => ⟨hPrefix, hLen⟩⟩

theorem controlStringFamily_take (hTwo : 2 ≤ len) (hBound : len ≤ buffer.length) :
  controlStringFamily (buffer.take len) = controlStringFamily buffer := by
  have hLength : 2 ≤ (buffer.take len).length := by
    rw [List.length_take]
    omega
  have hWhole := controlStringFamily_append hLength (buffer.drop len)
  rw [List.take_append_drop] at hWhole
  exact hWhole.symm

theorem controlStringFamily_cases {family : ControlStringFamily}
  (hFamily : controlStringFamily buffer = some family) :
  buffer.head? = some ESC ∧ (family = .osc ∨ family = .stTerminated) := by
  have hHead : ∀ {first second : UInt8}, [first, second] <+: buffer → buffer.head? = some first := by
    rintro first second ⟨rest, rfl⟩
    rfl
  unfold controlStringFamily at hFamily
  split at hFamily
  case isTrue hOsc => exact ⟨hHead hOsc, Or.inl (Option.some.inj hFamily).symm⟩
  case isFalse =>
    split at hFamily
    case isTrue hString =>
      refine ⟨?_, Or.inr (Option.some.inj hFamily).symm⟩
      rcases hString with hString | hString | hString | hString <;> exact hHead hString
    case isFalse => cases hFamily

/-- A control string is longer than its escape. -/
theorem two_le_controlString {family : ControlStringFamily}
  (hFamily : controlStringFamily buffer = some family)
  (hLen : controlStringTerminatorForFamily buffer family = some len) : 2 ≤ len := by
  obtain ⟨hHead, hCases⟩ := controlStringFamily_cases hFamily
  have hSt : ∀ {len}, stStringTerminator buffer = some len → 2 ≤ len := by
    intro len hLen
    obtain ⟨index, -, rfl⟩ := Option.map_eq_some_iff.1 hLen
    omega
  have hBel : ∀ {len}, firstByteEnd isBel buffer = some len → 2 ≤ len := by
    intro len hLen
    obtain ⟨index, hIndex, rfl⟩ := Option.map_eq_some_iff.1 hLen
    cases index with
    | succ index => omega
    | zero =>
      cases buffer with
      | nil => cases hHead
      | cons first rest =>
        obtain rfl : first = ESC := Option.some.inj hHead
        rw [List.findIdx?_cons, if_neg (by decide)] at hIndex
        simp at hIndex
  rcases hCases with rfl | rfl
  · replace hLen : oscStringTerminator buffer = some len := hLen
    unfold oscStringTerminator earlierEnd at hLen
    split at hLen
    case h_1 st bel hStFound hBelFound =>
      cases hLen
      exact Nat.le_min.2 ⟨hSt hStFound, hBel hBelFound⟩
    case h_2 st hStFound hNone => exact hSt (hStFound.trans hLen)
    case h_3 bel hNone hBelFound => exact hBel (hBelFound.trans hLen)
    case h_4 => cases hLen
  · exact hSt hLen

theorem exact_singleEscapeSequenceLen (hLong : 2 ≤ buffer.length) :
  ∀ len, singleEscapeSequenceLen buffer = some len →
    2 ≤ len ∧ singleEscapeSequenceLen (buffer.take len) = some len := by
  intro len hLen
  unfold singleEscapeSequenceLen at hLen
  split at hLen
  case isTrue hCsi =>
    have hThree : 3 ≤ len := by
      have hFinals : ∀ finals, findCsiFinal buffer finals = some len → 3 ≤ len := by
        intro finals hFound
        obtain ⟨index, -, rfl⟩ := Option.map_eq_some_iff.1 hFound
        omega
      split at hLen
      · exact hFinals _ hLen
      · exact hFinals _ hLen
    have hCsiTake : ascii "\x1b[" <+: buffer.take len :=
      (prefix_take_iff (show (ascii "\x1b[").length ≤ len from Nat.le_of_succ_le hThree)).2 hCsi
    have hMouse : ascii "\x1b[<" <+: buffer.take len ↔ ascii "\x1b[<" <+: buffer :=
      prefix_take_iff (show (ascii "\x1b[<").length ≤ len from hThree)
    refine ⟨by omega, ?_⟩
    rw [singleEscapeSequenceLen, if_pos hCsiTake]
    split at hLen
    case isTrue hYes =>
      rw [if_pos (hMouse.2 hYes)]
      exact exact_findCsiFinal isMouseFinal buffer len hLen
    case isFalse hNo =>
      rw [if_neg (mt hMouse.1 hNo)]
      exact exact_findCsiFinal isCsiFinal buffer len hLen
  case isFalse hCsi =>
    have hCsiTake : ∀ len, ¬ ascii "\x1b[" <+: buffer.take len :=
      fun len hPrefix => hCsi (hPrefix.trans (List.take_prefix len buffer))
    split at hLen
    case h_1 family hFamily =>
      obtain ⟨-, hBound, -⟩ := settled_controlString family buffer len hLen
      have hTwo := two_le_controlString hFamily hLen
      refine ⟨hTwo, ?_⟩
      rw [singleEscapeSequenceLen, if_neg (hCsiTake len), controlStringFamily_take hTwo hBound,
        hFamily]
      exact exact_controlString family buffer len hLen
    case h_2 hFamily =>
      split at hLen
      case isTrue hSs3 =>
        split at hLen
        case isTrue hThree =>
          cases hLen
          have hSs3Take : ascii "\x1bO" <+: buffer.take 3 :=
            (prefix_take_iff (by decide)).2 hSs3
          refine ⟨by omega, ?_⟩
          rw [singleEscapeSequenceLen, if_neg (hCsiTake 3),
            controlStringFamily_take (by omega) hThree, hFamily]
          simp only [hSs3Take, if_true, List.length_take]
          exact if_pos (by omega)
        case isFalse => cases hLen
      case isFalse hSs3 =>
        obtain ⟨width, hWidth, rfl⟩ := Option.map_eq_some_iff.1 hLen
        obtain ⟨hPos, hBound, -⟩ := settled_firstCompleteUtf8CharLen buffer.tail width hWidth
        rw [List.length_tail] at hBound
        have hSs3Take : ¬ ascii "\x1bO" <+: buffer.take (1 + width) :=
          fun hPrefix => hSs3 (hPrefix.trans (List.take_prefix _ buffer))
        refine ⟨by omega, ?_⟩
        rw [singleEscapeSequenceLen, if_neg (hCsiTake _),
          controlStringFamily_take (by omega) (by omega), hFamily]
        simp only [hSs3Take, if_false]
        have hTail : (buffer.take (1 + width)).tail = buffer.tail.take width := by
          cases buffer with
          | nil => simp
          | cons first rest => rw [Nat.add_comm, List.take_succ_cons, List.tail_cons,
              List.tail_cons]
        rw [hTail, exact_firstCompleteUtf8CharLen buffer.tail width hWidth]
        rfl

/-- Escapes that stand before two more and a mouse report. -/
def StrandsEscapes (buffer : List UInt8) : Prop :=
  ∃ more rest, buffer = List.replicate (more + 1) ESC ++ rest ∧
    escapeBeforeMouse rest = some (some 1)

theorem StrandsEscapes.cons {buffer : List UInt8} (hStrands : StrandsEscapes buffer) :
  StrandsEscapes (ESC :: buffer) := by
  obtain ⟨more, rest, rfl, hMouse⟩ := hStrands
  exact ⟨more + 1, rest, by rw [List.replicate_succ (n := more + 1), List.cons_append], hMouse⟩

theorem escapeBeforeMouse_take {first : UInt8} {rest : List UInt8}
  (hNone : escapeBeforeMouse (first :: rest) = none) (len : Nat) :
  escapeBeforeMouse (first :: rest.take len) = none := by
  cases hTake : escapeBeforeMouse (first :: rest.take len) with
  | none => rfl
  | some answer =>
    have hWhole := escapeBeforeMouse_append hTake (rest.drop len)
    rw [List.cons_append, List.take_append_drop, hNone] at hWhole
    cases hWhole

/-- The bytes of an escape sequence are one, unless its first escape or all of its escapes
stand before a mouse report. -/
theorem exact_completeEscapeSequenceLen (buffer : List UInt8) :
  ∀ len, completeEscapeSequenceLen buffer = some len →
    completeEscapeSequenceLen (buffer.take len) = some len ∨
      escapeBeforeMouse buffer = some (some 1) ∨ StrandsEscapes buffer := by
  induction buffer with
  | nil => intro len hLen; cases hLen
  | cons first rest ih =>
    intro len hLen
    rw [completeEscapeSequenceLen] at hLen
    split at hLen
    case isTrue => cases hLen
    case isFalse hRest =>
      split at hLen
      case h_1 answer hBefore =>
        subst hLen
        obtain rfl := escapeBeforeMouse_one hBefore
        exact Or.inr (Or.inl hBefore)
      case h_2 hNone =>
        split at hLen
        case isTrue hDouble =>
          obtain ⟨inner, hInner, rfl⟩ := Option.map_eq_some_iff.1 hLen
          obtain ⟨hPos, -, -⟩ := settled_completeEscapeSequenceLen rest inner hInner
          obtain rfl : ESC = first := (List.cons_prefix_cons.1 hDouble).1
          rcases ih inner hInner with hTake | hMouse | hStrands
          · have hTaken : rest.take inner ≠ [] := by
              intro hNil
              rw [hNil] at hTake
              cases hTake
            have hDoubleTake : ascii "\x1b\x1b" <+: ESC :: rest.take inner := by
              rw [← List.take_succ_cons]
              exact (prefix_take_iff (Nat.succ_le_succ hPos)).2 hDouble
            refine Or.inl ?_
            rw [List.take_succ_cons, completeEscapeSequenceLen, if_neg hTaken,
              escapeBeforeMouse_take hNone inner]
            simp only [hDoubleTake, if_true, hTake, Option.map_some]
          · exact Or.inr (Or.inr ⟨0, rest, rfl, hMouse⟩)
          · exact Or.inr (Or.inr hStrands.cons)
        case isFalse hSingle =>
          have hLong : 2 ≤ (first :: rest).length := by
            have hPos := List.length_pos_iff.2 hRest
            rw [List.length_cons]
            omega
          obtain ⟨hTwo, hTake⟩ := exact_singleEscapeSequenceLen hLong len hLen
          obtain ⟨fewer, rfl⟩ : ∃ fewer, len = fewer + 2 := ⟨len - 2, by omega⟩
          have hNotDouble : ¬ ascii "\x1b\x1b" <+: (first :: rest).take (fewer + 2) :=
            fun hPrefix => hSingle (hPrefix.trans (List.take_prefix _ _))
          have hTaken : rest.take (fewer + 1) ≠ [] := by
            cases rest with
            | nil => exact absurd rfl hRest
            | cons second rest => simp
          refine Or.inl ?_
          rw [List.take_succ_cons] at hNotDouble hTake ⊢
          rw [completeEscapeSequenceLen, if_neg hTaken, escapeBeforeMouse_single hNotDouble]
          simp only [hNotDouble, if_false]
          exact hTake

/-- The bytes of an event are an event, but for escapes before a mouse report. -/
theorem exact_firstEventLen (hLen : firstEventLen buffer = some len) :
  firstEventLen (buffer.take len) = some len ∨ buffer.take len = [ESC] ∨
    StrandsEscapes buffer := by
  obtain ⟨hPos, hBound, -⟩ := settled_firstEventLen buffer len hLen
  have hHead : (buffer.take len).head? = buffer.head? := by
    rw [List.head?_take, if_neg (by omega)]
  unfold firstEventLen at hLen
  split at hLen
  case isTrue hPaste =>
    obtain ⟨index, hIndex, rfl⟩ := Option.map_eq_some_iff.1 hLen
    have hStart : bracketedPasteStart.length = 6 := by decide
    have hEnd : bracketedPasteEnd.length = 6 := by decide
    have hPasteTake : bracketedPasteStart <+: buffer.take (index + bracketedPasteEnd.length) :=
      (prefix_take_iff (by omega)).2 hPaste
    refine Or.inl ?_
    rw [firstEventLen, if_pos hPasteTake, findSubsequence_take (by decide) hIndex]
    rfl
  case isFalse hNotPaste =>
    have hNotPasteTake : ¬ bracketedPasteStart <+: buffer.take len :=
      fun hPrefix => hNotPaste (hPrefix.trans (List.take_prefix _ _))
    rw [firstEventLen, if_neg hNotPasteTake, hHead]
    split at hLen
    case isTrue hEscape =>
      rw [if_pos hEscape]
      rcases exact_completeEscapeSequenceLen buffer len hLen with hTake | hMouse | hStrands
      · exact Or.inl hTake
      · refine Or.inr (Or.inl ?_)
        cases buffer with
        | nil => cases hEscape
        | cons first rest =>
          obtain rfl : first = ESC := Option.some.inj hEscape
          have hRest : rest ≠ [] := by
            rintro rfl
            cases hLen
          rw [completeEscapeSequenceLen, if_neg hRest, hMouse] at hLen
          obtain rfl : 1 = len := Option.some.inj hLen
          rfl
      · exact Or.inr (Or.inr hStrands)
    case isFalse hChar =>
      rw [if_neg hChar]
      exact Or.inl (exact_firstCompleteUtf8CharLen buffer len hLen)

end Input
