import VimeflowTerminal.Input.WaitingFramer

/-! Bytes that are neither a character nor a paste stop the framer: what comes behind
them is not handed on. -/

namespace Input

open Search Streaming Utf8

variable {byte : UInt8} {buffer : List UInt8} {isUppercase : Char → Bool}

theorem isUTF8FirstByte_of_utf8CharWidth (hWidth : (utf8CharWidth byte).isSome = true) :
  byte.IsUTF8FirstByte := by
  have hAll : ∀ byte : UInt8, (utf8CharWidth byte).isSome = true → byte.IsUTF8FirstByte :=
    forall_byte (by decide +kernel)
  exact hAll byte hWidth

theorem utf8EncodeChar_escape : String.utf8EncodeChar '\x1b' = [ESC] := by decide

theorem head?_ne_of_not_isUTF8FirstByte (hByte : ¬ byte.IsUTF8FirstByte) (ch : Char) :
  (String.utf8EncodeChar ch).head? ≠ some byte := by
  obtain ⟨first, rest, hBytes, hFirst, -⟩ := eq_cons_utf8EncodeChar ch
  rw [hBytes, List.head?_cons]
  rintro ⟨⟩
  exact hByte hFirst

theorem firstCompleteUtf8CharLen_some {len : Nat}
  (hLen : firstCompleteUtf8CharLen buffer = some len) :
  (∃ ch, String.utf8EncodeChar ch <+: buffer) ∧
    ∀ byte, buffer.head? = some byte → byte.IsUTF8FirstByte := by
  obtain ⟨hPos, -, -⟩ := settled_firstCompleteUtf8CharLen buffer len hLen
  obtain ⟨first, hFirst, hRest⟩ := Option.bind_eq_some_iff.1 hLen
  obtain ⟨width, hWidth, hDecode⟩ := Option.bind_eq_some_iff.1 hRest
  refine ⟨?_, fun byte hByte => ?_⟩
  · split at hDecode
    case isTrue => cases hDecode
    case isFalse hLong =>
      obtain ⟨text, hText, hEq⟩ := Option.bind_eq_some_iff.1 hDecode
      obtain rfl := Option.some.inj hEq
      have hBytes := encode_of_decode hText
      cases text with
      | nil =>
        have hNil := congrArg List.length hBytes
        rw [List.length_take, encode_nil, List.length_nil] at hNil
        omega
      | cons ch text =>
        refine ⟨ch, List.IsPrefix.trans ?_ (List.take_prefix width buffer)⟩
        rw [hBytes, encode_cons]
        exact List.prefix_append _ _
  · obtain rfl := Option.some.inj (hFirst.symm.trans hByte)
    exact isUTF8FirstByte_of_utf8CharWidth (by rw [hWidth]; rfl)

theorem head?_ne_escape_of_startsNoChar (hNo : StartsNoChar buffer) : buffer.head? ≠ some ESC := by
  intro hHead
  cases buffer with
  | nil => cases hHead
  | cons first rest =>
    cases hHead
    refine hNo '\x1b' ?_
    rw [utf8EncodeChar_escape]
    exact List.prefix_append [ESC] rest

theorem not_prefix_of_head? {start : List UInt8} (hHead : buffer.head? ≠ some ESC)
  (hStart : start.head? = some ESC) : ¬ start <+: buffer := by
  rintro ⟨rest, rfl⟩
  cases start with
  | nil => cases hStart
  | cons first start => exact hHead hStart

theorem extractOneEvent_startsNoChar (hNo : StartsNoChar buffer) :
  extractOneEvent isUppercase buffer = .nothing := by
  have hHead := head?_ne_escape_of_startsNoChar hNo
  have hLen : firstEventLen buffer = none := by
    rw [firstEventLen, if_neg (not_prefix_of_head? hHead (by decide)), if_neg hHead]
    cases hChar : firstCompleteUtf8CharLen buffer with
    | none => rfl
    | some len =>
      obtain ⟨⟨ch, hPrefix⟩, -⟩ := firstCompleteUtf8CharLen_some hChar
      exact absurd hPrefix (hNo ch)
  rw [extractOneEvent, hLen]
  rfl

/-- An end only begins where it has its escape. -/
theorem not_bracketedPasteEnd_start {body rest : List UInt8} (hBody : body ≠ [])
  (hNo : ¬ bracketedPasteEnd <+: body) :
  ¬ bracketedPasteEnd <+: body ++ (bracketedPasteEnd ++ rest) := by
  intro hPrefix
  by_cases hLong : bracketedPasteEnd.length ≤ body.length
  case pos => exact hNo ((prefix_append_iff hLong _).1 hPrefix)
  case neg =>
    obtain ⟨part, hPart⟩ : body <+: bracketedPasteEnd :=
      List.prefix_of_prefix_length_le (List.prefix_append _ _) hPrefix (by omega)
    have hOnce : bracketedPasteEnd.inits.all (fun first =>
        first = [] || first = bracketedPasteEnd ||
          decide ((bracketedPasteEnd.drop first.length).head? ≠ some ESC)) = true := by decide
    have hFirst := List.all_eq_true.1 hOnce body ((List.mem_inits _ _).2 ⟨part, hPart⟩)
    simp only [Bool.or_eq_true, decide_eq_true_eq] at hFirst
    rcases hFirst with (hNil | rfl) | hHead
    · exact hBody hNil
    · exact hLong (Nat.le_refl _)
    · -- What the body leaves of the end would be the next end.
      obtain ⟨more, hMore⟩ := hPrefix
      rw [← hPart, List.append_assoc, List.append_cancel_left_eq, hPart] at hMore
      rw [← hPart, List.drop_left] at hHead
      cases part with
      | nil =>
        rw [List.append_nil] at hPart
        exact hLong (by rw [hPart])
      | cons first part =>
        have hEscape : some first = some ESC := congrArg List.head? hMore
        exact hHead hEscape

theorem findSubsequence_bracketedPasteEnd {body : List UInt8}
  (hNo : ¬ bracketedPasteEnd <:+: body) (rest : List UInt8) :
  findSubsequence bracketedPasteEnd (body ++ (bracketedPasteEnd ++ rest)) = some body.length := by
  induction body with
  | nil =>
    rw [List.nil_append]
    exact if_pos (List.prefix_append _ _)
  | cons first body ih =>
    have hNotHere : ¬ bracketedPasteEnd <+: first :: body := fun hPrefix => hNo hPrefix.isInfix
    have hNotLater : ¬ bracketedPasteEnd <:+: body := fun hInfix => hNo (hInfix.trans
      (List.suffix_cons first body).isInfix)
    have hSkip := @not_bracketedPasteEnd_start _ rest (by simp) hNotHere
    rw [List.cons_append] at hSkip ⊢
    rw [findSubsequence, if_neg hSkip, ih hNotLater]
    rfl

theorem findSubsequence_skip_start (bytes : List UInt8) :
  findSubsequence bracketedPasteEnd (bracketedPasteStart ++ bytes) =
    (findSubsequence bracketedPasteEnd bytes).map (· + bracketedPasteStart.length) := by
  rw [show bracketedPasteStart = [0x1b, 0x5b, 0x32, 0x30, 0x30, 0x7e] by decide,
    show bracketedPasteEnd = [0x1b, 0x5b, 0x32, 0x30, 0x31, 0x7e] by decide]
  simp [findSubsequence, List.cons_prefix_cons, Function.comp_def]

/-- A paste is an event if its body is text. -/
theorem extractOneEvent_paste {isUppercase : Char → Bool} {body rest : List UInt8}
  (hEnd : findSubsequence bracketedPasteEnd (body ++ (bracketedPasteEnd ++ rest)) =
    some body.length) :
  extractOneEvent isUppercase (bracketedPasteStart ++ (body ++ (bracketedPasteEnd ++ rest))) =
    match decode body with
      | none => .nothing
      | some content =>
        .found (.paste content, (bracketedPasteStart ++ body ++ bracketedPasteEnd).length) := by
  have hLen : firstEventLen (bracketedPasteStart ++ (body ++ (bracketedPasteEnd ++ rest))) =
      some (bracketedPasteStart ++ body ++ bracketedPasteEnd).length := by
    rw [firstEventLen, if_pos (List.prefix_append _ _), findSubsequence_skip_start, hEnd]
    simp only [Option.map_some, List.length_append, Option.some.injEq]
    omega
  have hTake : (bracketedPasteStart ++ (body ++ (bracketedPasteEnd ++ rest))).take
      (bracketedPasteStart ++ body ++ bracketedPasteEnd).length =
        bracketedPasteStart ++ body ++ bracketedPasteEnd := by
    rw [← List.append_assoc, ← List.append_assoc, List.take_left]
  have hInner : ((bracketedPasteStart ++ body ++ bracketedPasteEnd).drop
      bracketedPasteStart.length).take
        ((bracketedPasteStart ++ body ++ bracketedPasteEnd).length -
          bracketedPasteEnd.length - bracketedPasteStart.length) = body := by
    rw [List.append_assoc, List.drop_left, List.length_append, List.length_append]
    exact List.take_left' (by omega)
  have hPrefix : bracketedPasteStart <+: bracketedPasteStart ++ body ++ bracketedPasteEnd := by
    rw [List.append_assoc]
    exact List.prefix_append _ _
  rw [extractOneEvent, hLen]
  show Parsed.bind (eventOfBytes isUppercase (List.take _ _)) _ = _
  rw [hTake, eventOfBytes, if_pos hPrefix]
  simp only [hInner]
  cases decode body with
  | none => rfl
  | some content => rfl

/-- Bytes that no event can be read from: a byte that begins no character, part of a
character, or a whole paste that is no text. -/
inductive MalformedUnit : List UInt8 → Prop
  | invalidLead {first : UInt8} (hFirst : ∀ ch, (String.utf8EncodeChar ch).head? ≠ some first) :
      MalformedUnit [first]
  | truncated {ch : Char} {part : List UInt8} (hPart : part ≠ [])
      (hPrefix : part <+: String.utf8EncodeChar ch) (hProper : part ≠ String.utf8EncodeChar ch) :
      MalformedUnit part
  | paste {body : List UInt8} (hEnd : ¬ bracketedPasteEnd <:+: body) (hBody : decode body = none) :
      MalformedUnit (bracketedPasteStart ++ (body ++ bracketedPasteEnd))

/-- Events one after the other, each with its bytes. An escape stands alone before
another one, or before a mouse report. -/
inductive WellFormedInput (isUppercase : Char → Bool) (splitCoalescedEscape : Bool) :
  List (List UInt8) → Prop
  | nil : WellFormedInput isUppercase splitCoalescedEscape []
  | event {chunk : List UInt8} {chunks : List (List UInt8)} {event : RawInputEvent}
      (hWhole : ¬ (splitCoalescedEscape = true ∧ ascii "\x1b\x1b" <+: chunk))
      (hEvent : extractOneEvent isUppercase chunk = .found (event, chunk.length))
      (hRest : WellFormedInput isUppercase splitCoalescedEscape chunks) :
      WellFormedInput isUppercase splitCoalescedEscape (chunk :: chunks)
  | escape {chunks : List (List UInt8)}
      (hAlone : splitCoalescedEscape = true ∧ chunks.flatten.head? = some ESC ∨
        escapeBeforeMouse (ESC :: chunks.flatten) = some (some 1))
      (hRest : WellFormedInput isUppercase splitCoalescedEscape chunks) :
      WellFormedInput isUppercase splitCoalescedEscape ([ESC] :: chunks)

theorem isUTF8FirstByte_of_found (hSome : extractOneEvent isUppercase buffer ≠ .nothing)
  (hByte : buffer.head? = some byte) : byte.IsUTF8FirstByte := by
  by_cases hEscape : buffer.head? = some ESC
  case pos =>
    obtain rfl := Option.some.inj (hEscape.symm.trans hByte)
    decide
  case neg =>
    cases hLen : firstEventLen buffer with
    | none =>
      rw [extractOneEvent, hLen] at hSome
      exact absurd rfl hSome
    | some len =>
      rw [firstEventLen, if_neg (not_prefix_of_head? hEscape (by decide)), if_neg hEscape]
        at hLen
      exact (firstCompleteUtf8CharLen_some hLen).2 byte hByte

theorem WellFormedInput.head {split : Bool} {chunks : List (List UInt8)}
  (hChunks : WellFormedInput isUppercase split chunks) :
  ∀ byte, chunks.flatten.head? = some byte → byte.IsUTF8FirstByte := by
  intro byte hByte
  cases hChunks with
  | nil => cases hByte
  | @event chunk chunks event hWhole hEvent hRest =>
    have hPos := (extractOneEvent_bounds hEvent).1
    have hNil : chunk ≠ [] := List.ne_nil_of_length_pos hPos
    rw [List.flatten_cons, List.head?_append_of_ne_nil _ hNil] at hByte
    exact isUTF8FirstByte_of_found (by rw [hEvent]; simp) hByte
  | escape hAlone hRest =>
    obtain rfl : ESC = byte := Option.some.inj hByte
    decide

/-- With well-formed input behind it, a malformed unit is no event. -/
theorem MalformedUnit.nothing {isUppercase : Char → Bool} {unit rest : List UInt8}
  (hUnit : MalformedUnit unit)
  (hRest : ∀ byte, rest.head? = some byte → byte.IsUTF8FirstByte) :
  ¬ ascii "\x1b\x1b" <+: unit ++ rest ∧
    extractOneEvent isUppercase (unit ++ rest) = .nothing := by
  have hNoChar : ∀ {bytes : List UInt8}, StartsNoChar bytes →
      ¬ ascii "\x1b\x1b" <+: bytes ∧ extractOneEvent isUppercase bytes = .nothing := fun hNo =>
    ⟨not_prefix_of_head? (head?_ne_escape_of_startsNoChar hNo) (by decide),
      extractOneEvent_startsNoChar hNo⟩
  cases hUnit with
  | invalidLead hFirst => exact hNoChar (startsNoChar_cons hFirst rest)
  | truncated hPart hPrefix hProper =>
    exact hNoChar (startsNoChar_of_truncated hPart hPrefix hProper hRest)
  | @paste body hEnd hBody =>
    rw [List.append_assoc, List.append_assoc]
    have hFind := findSubsequence_bracketedPasteEnd hEnd rest
    refine ⟨fun hDouble => ?_, by rw [extractOneEvent_paste hFind, hBody]⟩
    have hStart := (prefix_append_iff
      (show (ascii "\x1b\x1b").length ≤ bracketedPasteStart.length by decide) _).1 hDouble
    exact absurd hStart (by decide)

namespace RawInputByteFramer

theorem chunkStep_event {isUppercase : Char → Bool} {framer : RawInputByteFramer}
  {chunk rest : List UInt8} {event : RawInputEvent}
  (hWhole : ¬ (framer.splitCoalescedEscape = true ∧ ascii "\x1b\x1b" <+: chunk))
  (hEvent : extractOneEvent isUppercase chunk = .found (event, chunk.length))
  (hBuffer : framer.buffer = chunk ++ rest) :
  framer.chunkStep isUppercase =
    .next [chunk] { framer.noteEvent event with buffer := rest } := by
  have hSome : extractOneEvent isUppercase chunk ≠ .nothing := by simp [hEvent]
  have hNot : ¬ (framer.splitCoalescedEscape ∧ ascii "\x1b\x1b" <+: framer.buffer) := by
    rw [hBuffer, doubledEscape_append hSome]
    exact hWhole
  rw [chunkStep_extract hNot, hBuffer, extractOneEvent_append hSome, hEvent]
  simp only [List.take_left, List.drop_left]

theorem noteEvent_splitCoalescedEscape (framer : RawInputByteFramer) (event : RawInputEvent) :
  (framer.noteEvent event).splitCoalescedEscape = framer.splitCoalescedEscape := by
  cases event <;> simp only [noteEvent]
  split <;> rfl

theorem chunkStep_escape {isUppercase : Char → Bool} {framer : RawInputByteFramer}
  {rest : List UInt8} (hAlone : framer.splitCoalescedEscape = true ∧ rest.head? = some ESC ∨
    escapeBeforeMouse (ESC :: rest) = some (some 1)) (hBuffer : framer.buffer = ESC :: rest) :
  ∃ after, framer.chunkStep isUppercase = .next [[ESC]] after ∧ after.buffer = rest ∧
    after.splitCoalescedEscape = framer.splitCoalescedEscape := by
  by_cases hSplit : framer.splitCoalescedEscape ∧ ascii "\x1b\x1b" <+: framer.buffer
  case pos =>
    refine ⟨_, chunkStep_split hSplit, ?_, rfl⟩
    rw [hBuffer]
    rfl
  case neg =>
    have hMouse : escapeBeforeMouse (ESC :: rest) = some (some 1) := by
      refine hAlone.resolve_left fun hBoth => hSplit ⟨hBoth.1, ?_⟩
      rw [hBuffer]
      cases rest with
      | nil => cases hBoth.2
      | cons first rest =>
        obtain rfl : first = ESC := Option.some.inj hBoth.2
        exact List.prefix_append (ascii "\x1b\x1b") rest
    have hPrefix : ascii "\x1b\x1b[<" <+: ESC :: rest := by
      by_contra hNot
      rw [escapeBeforeMouse, if_neg hNot] at hMouse
      cases hMouse
    obtain ⟨more, hMore⟩ := hPrefix
    have hPaste : ¬ bracketedPasteStart <+: ESC :: rest := by
      rw [← hMore]
      intro hStart
      have hTwo := List.prefix_of_prefix_length_le
        ((show ascii "\x1b[" <+: bracketedPasteStart by decide).trans hStart)
        (List.prefix_append (ascii "\x1b\x1b[<") more) (by decide)
      exact absurd hTwo (by decide)
    have hNil : rest ≠ [] := by
      rintro rfl
      have hLength := congrArg List.length hMore
      simp [ascii] at hLength
    have hLen : firstEventLen (ESC :: rest) = some 1 := by
      rw [firstEventLen, if_neg hPaste, if_pos List.head?_cons, completeEscapeSequenceLen,
        if_neg hNil, hMouse]
    obtain ⟨event, hEvent⟩ : ∃ event, eventOfBytes isUppercase [ESC] = .found event := ⟨_, rfl⟩
    refine ⟨{ framer.noteEvent event with buffer := rest }, ?_, rfl,
      noteEvent_splitCoalescedEscape framer event⟩
    have hFound : extractOneEvent isUppercase (ESC :: rest) = .found (event, 1) := by
      rw [extractOneEvent, hLen]
      show Parsed.bind (eventOfBytes isUppercase ((ESC :: rest).take 1)) _ = _
      rw [show (ESC :: rest).take 1 = [ESC] from rfl, hEvent]
      rfl
    rw [chunkStep_extract hSplit, hBuffer, hFound]
    rfl

/-- Well-formed input at the front is handed on event by event. -/
theorem run_wellFormed {isUppercase : Char → Bool} {chunks : List (List UInt8)}
  {framer : RawInputByteFramer} {rest : List UInt8}
  (hChunks : WellFormedInput isUppercase framer.splitCoalescedEscape chunks)
  (hFraming : framer.Framing) (hBuffer : framer.buffer = chunks.flatten ++ rest) :
  ∃ middle : RawInputByteFramer, middle.Framing ∧ middle.buffer = rest ∧
    middle.splitCoalescedEscape = framer.splitCoalescedEscape ∧
    (reader isUppercase).run framer =
      ((reader isUppercase).run middle).map fun (later, last) => (chunks ++ later, last) := by
  have hStep : ∀ {framer after : RawInputByteFramer} {chunk : List UInt8}, framer.Framing →
      framer.chunkStep isUppercase = .next [chunk] after →
      after.Framing ∧ (reader isUppercase).run framer =
        ((reader isUppercase).run after).map fun (later, last) => (chunk :: later, last) := by
    intro framer after chunk hFraming hNext
    have hRound : (reader isUppercase).step framer = .next [chunk] after := by
      rw [← hNext]
      exact drainStep_framing isUppercase hFraming
    refine ⟨chunkStep_good hFraming hNext, ?_⟩
    rw [Reader.run_eq, hRound]
    rfl
  generalize hPolicy : framer.splitCoalescedEscape = split at hChunks
  induction hChunks generalizing framer with
  | nil => exact ⟨framer, hFraming, hBuffer, hPolicy, by simp⟩
  | @event chunk chunks event hWhole hEvent hRest ih =>
    rw [List.flatten_cons, List.append_assoc] at hBuffer
    have hNext := chunkStep_event (hPolicy ▸ hWhole) hEvent hBuffer
    obtain ⟨hAfter, hRun⟩ := hStep hFraming hNext
    obtain ⟨middle, hMiddle, hLeft, hSplit, hLater⟩ :=
      ih hAfter rfl ((noteEvent_splitCoalescedEscape framer event).trans hPolicy)
    refine ⟨middle, hMiddle, hLeft, hSplit, ?_⟩
    rw [hRun, hLater, Option.map_map]
    rfl
  | @escape chunks hAlone hRest ih =>
    have hAloneMore : framer.splitCoalescedEscape = true ∧
        (chunks.flatten ++ rest).head? = some ESC ∨
          escapeBeforeMouse (ESC :: (chunks.flatten ++ rest)) = some (some 1) := by
      rcases hAlone with ⟨hOn, hHead⟩ | hMouse
      · refine Or.inl ⟨hPolicy.trans hOn, ?_⟩
        rw [List.head?_append, hHead]
        rfl
      · exact Or.inr (escapeBeforeMouse_append hMouse rest)
    obtain ⟨after, hNext, hBehind, hSame⟩ := chunkStep_escape hAloneMore hBuffer
    obtain ⟨hAfter, hRun⟩ := hStep hFraming hNext
    obtain ⟨middle, hMiddle, hLeft, hSplit, hLater⟩ := ih hAfter hBehind (hSame.trans hPolicy)
    refine ⟨middle, hMiddle, hLeft, hSplit, ?_⟩
    rw [hRun, hLater, Option.map_map]
    rfl

/-- Framing input that comes in pieces is framing it at once. -/
theorem pushAll_eq_push {isUppercase : Char → Bool} {datas : List (List UInt8)}
  {framer : RawInputByteFramer} (hFraming : framer.Framing)
  (hDrained : framer.Drained isUppercase) :
  framer.pushAll isUppercase datas = framer.push isUppercase datas.flatten := by
  induction datas generalizing framer with
  | nil =>
    have hStep : (reader isUppercase).step framer = .wait framer := drainStep_of_drained hDrained
    have hFed : (reader isUppercase).feed [] framer = framer := by simp [reader, extend]
    rw [pushAll, List.flatten_nil, push, Reader.push, hFed, Reader.run_eq, hStep]
  | cons data datas ih =>
    rw [pushAll, List.flatten_cons, push, push,
      (stable_reader isUppercase).push_append hFraming]
    cases hFirst : (reader isUppercase).push data framer with
    | none => rfl
    | some result =>
      have hMiddle := (stable_reader isUppercase).push_good hFraming hFirst
      simp only [Option.bind_some, ih hMiddle (drained_run hFirst)]
      rfl

/-- The events of the units are among those that the pieces of input give. -/
def Delivers (isUppercase : Char → Bool) (framer : RawInputByteFramer)
  (datas units : List (List UInt8)) : Prop :=
  ∃ chunks after events expected,
    framer.pushAll isUppercase datas = some (chunks, after) ∧
      eventsFromChunks isUppercase chunks = some events ∧
      eventsFromChunks isUppercase units = some expected ∧ expected.Sublist events

end RawInputByteFramer

theorem eventsFromChunks_append {first second : List (List UInt8)}
  {early late : List RawInputEvent} (hFirst : eventsFromChunks isUppercase first = some early)
  (hSecond : eventsFromChunks isUppercase second = some late) :
  eventsFromChunks isUppercase (first ++ second) = some (early ++ late) := by
  induction first generalizing early with
  | nil =>
    cases hFirst
    exact hSecond
  | cons chunk chunks ih =>
    rw [eventsFromChunks] at hFirst
    rw [List.cons_append, eventsFromChunks]
    split at hFirst
    case h_1 => cases hFirst
    case h_2 => exact ih hFirst
    case h_3 event =>
      obtain ⟨rest, hRest, rfl⟩ := Option.map_eq_some_iff.1 hFirst
      simp only [ih hRest, Option.map_some, List.cons_append]

/-- Each unit of well-formed input is one event. -/
theorem WellFormedInput.events {split : Bool} {chunks : List (List UInt8)}
  (hChunks : WellFormedInput isUppercase split chunks) :
  ∃ events, eventsFromChunks isUppercase chunks = some events ∧
    events.length = chunks.length := by
  induction hChunks with
  | nil => exact ⟨[], rfl, rfl⟩
  | @event chunk chunks event hWhole hEvent hRest ih =>
    obtain ⟨events, hEvents, hLength⟩ := ih
    have hFound : chunkEvent isUppercase chunk = .found event := by
      have hNotEscape : chunk ≠ [ESC] := by
        rintro rfl
        cases hEvent
      rw [chunkEvent, if_neg hNotEscape, hEvent]
      rfl
    exact ⟨event :: events, by rw [eventsFromChunks, hFound, hEvents]; rfl, by simp [hLength]⟩
  | escape hAlone hRest ih =>
    obtain ⟨events, hEvents, hLength⟩ := ih
    exact ⟨_ :: events, by rw [eventsFromChunks, chunkEvent, if_pos rfl, hEvents]; rfl,
      by simp [hLength]⟩

namespace RawInputByteFramer

/-- What comes behind a malformed unit is not delivered: all events are, exactly when
none comes behind it. -/
theorem delivers_around_malformed_iff {isUppercase : Char → Bool} {framer : RawInputByteFramer}
  {before behind datas : List (List UInt8)} {unit : List UInt8} (hFresh : framer.Fresh)
  (hBefore : WellFormedInput isUppercase framer.splitCoalescedEscape before)
  (hUnit : MalformedUnit unit)
  (hBehind : WellFormedInput isUppercase framer.splitCoalescedEscape behind)
  (hDatas : datas.flatten = before.flatten ++ unit ++ behind.flatten) :
  framer.Delivers isUppercase datas (before ++ behind) ↔ behind = [] := by
  have hDrained : framer.Drained isUppercase :=
    drained_empty hFresh.buffer (Or.inr (by rw [hFresh.discardUntil]; simp))
  have hFed : (extend datas.flatten framer).Framing :=
    ⟨hFresh.discardUntil, hFresh.loneEscape⟩
  have hBuffer : (extend datas.flatten framer).buffer =
      before.flatten ++ (unit ++ behind.flatten) := by
    rw [extend, hFresh.buffer, hDatas, List.nil_append, List.append_assoc]
  obtain ⟨middle, hMiddle, hLeft, hSplit, hRun⟩ :=
    @run_wellFormed isUppercase before (extend datas.flatten framer) _ hBefore hFed hBuffer
  have hStop : (reader isUppercase).step middle = .wait middle := by
    obtain ⟨hNotDouble, hNothing⟩ := @MalformedUnit.nothing isUppercase _ _ hUnit hBehind.head
    rw [← hLeft] at hNotDouble hNothing
    show middle.drainStep isUppercase = .wait middle
    rw [drainStep_framing isUppercase hMiddle,
      chunkStep_extract fun hBoth => hNotDouble hBoth.2, hNothing]
  have hPushed : framer.pushAll isUppercase datas = some (before, middle) := by
    have hPush : framer.push isUppercase datas.flatten =
        (reader isUppercase).run (extend datas.flatten framer) := rfl
    rw [pushAll_eq_push hFresh.toFraming hDrained, hPush, hRun, Reader.run_eq, hStop]
    simp
  obtain ⟨early, hEarly, hEarlyLength⟩ := hBefore.events
  obtain ⟨late, hLate, hLateLength⟩ := hBehind.events
  constructor
  · rintro ⟨chunks, after, events, expected, hChunks, hEvents, hExpected, hSublist⟩
    obtain ⟨rfl, -⟩ := Prod.mk.inj (Option.some.inj (hPushed.symm.trans hChunks))
    obtain rfl := Option.some.inj (hEarly.symm.trans hEvents)
    obtain rfl := Option.some.inj ((eventsFromChunks_append hEarly hLate).symm.trans hExpected)
    have hShort := hSublist.length_le
    rw [List.length_append] at hShort
    exact List.length_eq_zero_iff.1 (by omega)
  · rintro rfl
    exact ⟨before, middle, early, early, hPushed, hEarly, by rw [List.append_nil, hEarly],
      List.Sublist.refl early⟩

/-- A byte that begins no character, before a key. -/
theorem delivers_around_malformed_invalidLead :
  (withHostInputPolicy true).Delivers Char.isUpper [[0xff], [0x61]] ([] ++ [[0x61]]) ↔
    [[(0x61 : UInt8)]] = [] :=
  delivers_around_malformed_iff (fresh_withHostInputPolicy true) .nil
    (.invalidLead (head?_ne_of_not_isUTF8FirstByte (by decide)))
    (.event (by decide) (show extractOneEvent Char.isUpper [0x61] = .found (_, 1) from rfl) .nil)
    rfl

/-- The key behind the byte is held back. -/
theorem not_delivers_around_malformed :
  WellFormedInput Char.isUpper false [[0x61]] ∧ MalformedUnit [0xff] ∧
    ¬ (withHostInputPolicy true).Delivers Char.isUpper [[0xff, 0x61]] [[0x61]] := by
  refine ⟨.event (by decide)
    (show extractOneEvent Char.isUpper [0x61] = .found (_, 1) from rfl) .nil,
    .invalidLead (head?_ne_of_not_isUTF8FirstByte (by decide)), ?_⟩
  rintro ⟨chunks, after, events, expected, hChunks, hEvents, hExpected, hSublist⟩
  have hPushed : (withHostInputPolicy true).pushAll Char.isUpper [[0xff, 0x61]] =
      some ([], { withHostInputPolicy true with buffer := [0xff, 0x61] }) := by decide
  obtain ⟨rfl, -⟩ := Prod.mk.inj (Option.some.inj (hPushed.symm.trans hChunks))
  cases hEvents
  obtain rfl := List.sublist_nil.1 hSublist
  exact absurd (congrArg (Option.map List.length) hExpected) (by decide)

end RawInputByteFramer

end Input
