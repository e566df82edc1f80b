import VimeflowTerminal.Input.ChunkEvents

/-! A server takes the chunks of a framer apart again. Every chunk is one event there,
unless escapes were stranded before a mouse report or a timeout let a beginning go. -/

namespace Input

open Search Streaming Utf8

/-- The event takes the whole chunk; a lone escape is a key. -/
def OneEvent (isUppercase : Char → Bool) (chunk : List UInt8) (event : RawInputEvent) : Prop :=
  chunkEvent isUppercase chunk = .found event ∧
    (chunk ≠ [ESC] → extractOneEvent isUppercase chunk = .found (event, chunk.length))

theorem oneEvent_escape (isUppercase : Char → Bool) : ∃ event, OneEvent isUppercase [ESC] event :=
  ⟨_, by rw [chunkEvent, if_pos rfl], fun hNot => absurd rfl hNot⟩

variable {isUppercase : Char → Bool}

theorem oneEvent_of_extract {chunk : List UInt8} {event : RawInputEvent}
  (hEvent : extractOneEvent isUppercase chunk = .found (event, chunk.length)) :
  OneEvent isUppercase chunk event := by
  have hNotEscape : chunk ≠ [ESC] := by
    rintro rfl
    cases hEvent
  refine ⟨?_, fun _ => hEvent⟩
  rw [chunkEvent, if_neg hNotEscape, hEvent]
  rfl

theorem not_oneEvent {chunk : List UInt8} (hEscape : chunk ≠ [ESC])
  (hLen : firstEventLen chunk = none) : ¬ ∃ event, OneEvent isUppercase chunk event := by
  rintro ⟨event, -, hEvent⟩
  have hFound := hEvent hEscape
  rw [extractOneEvent, hLen] at hFound
  cases hFound

theorem completeEscapeSequenceLen_escapes (count : Nat) :
  completeEscapeSequenceLen (List.replicate count ESC) = none := by
  induction count with
  | zero => rfl
  | succ count ih =>
    cases count with
    | zero => rfl
    | succ count =>
      have hBefore : escapeBeforeMouse (List.replicate (count + 2) ESC) = none := by
        refine if_neg fun hPrefix => ?_
        have hByte := List.eq_of_mem_replicate
          (hPrefix.subset (show 0x5b ∈ ascii "\x1b\x1b[<" by decide))
        exact absurd hByte (by decide)
      have hDouble : ascii "\x1b\x1b" <+: List.replicate (count + 2) ESC :=
        ⟨List.replicate count ESC, rfl⟩
      rw [List.replicate_succ] at hBefore hDouble ⊢
      rw [completeEscapeSequenceLen, if_neg (by simp), hBefore]
      simp only [hDouble, if_true, ih, Option.map_none]

/-- Escapes before a mouse report are taken off together, all but the last one. -/
theorem completeEscapeSequenceLen_stranded {rest : List UInt8}
  (hMouse : escapeBeforeMouse rest = some (some 1)) (count : Nat) :
  completeEscapeSequenceLen (List.replicate count ESC ++ rest) = some (count + 1) := by
  have hPrefix : ascii "\x1b\x1b[<" <+: rest := by
    by_contra hNot
    rw [escapeBeforeMouse, if_neg hNot] at hMouse
    cases hMouse
  obtain ⟨behind, hBehind⟩ := hPrefix
  induction count with
  | zero =>
    rw [List.replicate_zero, List.nil_append]
    cases rest with
    | nil => cases hMouse
    | cons first rest =>
      have hRest : rest ≠ [] := by
        rintro rfl
        have hLength := congrArg List.length hBehind
        simp [ascii] at hLength
      rw [completeEscapeSequenceLen, if_neg hRest, hMouse]
  | succ count ih =>
    rw [List.replicate_succ, List.cons_append]
    have hHead : ∃ more, List.replicate count ESC ++ rest = ESC :: ESC :: more := by
      rw [← hBehind]
      cases count with
      | zero => exact ⟨_, rfl⟩
      | succ count =>
        cases count with
        | zero => exact ⟨_, rfl⟩
        | succ count => exact ⟨_, rfl⟩
    obtain ⟨more, hMore⟩ := hHead
    rw [hMore] at ih ⊢
    have hBefore : escapeBeforeMouse (ESC :: ESC :: ESC :: more) = none := by
      refine if_neg fun hPrefix => ?_
      have hThird := (List.cons_prefix_cons.1 (List.cons_prefix_cons.1
        (List.cons_prefix_cons.1 hPrefix).2).2).1
      exact absurd hThird (by decide)
    have hDouble : ascii "\x1b\x1b" <+: ESC :: ESC :: ESC :: more :=
      List.prefix_append (ascii "\x1b\x1b") _
    rw [completeEscapeSequenceLen, if_neg (by simp), hBefore]
    simp only [hDouble, if_true, ih, Option.map_some]

/-- What is taken off in front of a mouse report is not an event. -/
theorem stranded_event {buffer : List UInt8} (hStrands : StrandsEscapes buffer) :
  ∃ count, firstEventLen buffer = some (count + 2) ∧
    buffer.take (count + 2) = List.replicate (count + 2) ESC ∧
    ¬ bracketedPasteStart <+: buffer ∧ buffer.head? = some ESC := by
  obtain ⟨count, rest, rfl, hMouse⟩ := hStrands
  have hLen := completeEscapeSequenceLen_stranded hMouse (count + 1)
  have hPrefix : ascii "\x1b\x1b[<" <+: rest := by
    by_contra hNot
    rw [escapeBeforeMouse, if_neg hNot] at hMouse
    cases hMouse
  obtain ⟨behind, rfl⟩ := hPrefix
  have hTake : (List.replicate (count + 1) ESC ++ (ascii "\x1b\x1b[<" ++ behind)).take (count + 2) =
      List.replicate (count + 2) ESC := by
    have hSplit : List.replicate (count + 1) ESC ++ (ascii "\x1b\x1b[<" ++ behind) =
        List.replicate (count + 2) ESC ++ (ascii "\x1b[<" ++ behind) := by
      rw [show ascii "\x1b\x1b[<" = [ESC] ++ ascii "\x1b[<" by decide, List.replicate_succ' (n := count + 1)]
      simp
    rw [hSplit]
    exact List.take_left' List.length_replicate
  have hHead : (List.replicate (count + 1) ESC ++ (ascii "\x1b\x1b[<" ++ behind)).head? =
      some ESC := rfl
  have hPaste : ¬ bracketedPasteStart <+:
      List.replicate (count + 1) ESC ++ (ascii "\x1b\x1b[<" ++ behind) := by
    intro hStart
    have hSecond : ∃ more, List.replicate (count + 1) ESC ++ (ascii "\x1b\x1b[<" ++ behind) =
        ESC :: ESC :: more := by
      cases count with
      | zero => exact ⟨_, rfl⟩
      | succ count => exact ⟨_, rfl⟩
    obtain ⟨more, hMore⟩ := hSecond
    rw [hMore] at hStart
    have hByte := (List.cons_prefix_cons.1 (List.cons_prefix_cons.1 hStart).2).1
    exact absurd hByte (by decide)
  refine ⟨count, ?_, hTake, hPaste, hHead⟩
  rw [firstEventLen, if_neg hPaste, if_pos hHead, hLen]

theorem not_oneEvent_escapes (count : Nat) :
  ¬ ∃ event, OneEvent isUppercase (List.replicate (count + 2) ESC) event := by
  refine not_oneEvent (fun hEq => ?_) ?_
  · have hLength := congrArg List.length hEq
    simp at hLength
  have hPaste : ¬ bracketedPasteStart <+: List.replicate (count + 2) ESC := by
    intro hPrefix
    have hByte := List.eq_of_mem_replicate
      (hPrefix.subset (show 0x5b ∈ bracketedPasteStart by decide))
    exact absurd hByte (by decide)
  rw [firstEventLen, if_neg hPaste, if_pos (by rfl), completeEscapeSequenceLen_escapes]

namespace RawInputByteFramer

/-- The next chunk is made of escapes that stand before a mouse report. -/
def StrandsEscapes (framer : RawInputByteFramer) : Prop :=
  framer.discardUntil = none ∧ framer.splitCoalescedEscape = false ∧
    Input.StrandsEscapes framer.buffer

variable {framer after : RawInputByteFramer} {buffer : List UInt8} {isUppercase : Char → Bool}
  {chunks : List (List UInt8)}

theorem StrandsEscapes.head (hStrands : framer.StrandsEscapes) :
  framer.buffer.head? = some ESC := by
  obtain ⟨-, -, -, hHead⟩ := stranded_event hStrands.2.2
  exact hHead.2

theorem doubledEscape_of_stranded (hStrands : Input.StrandsEscapes buffer) :
  ascii "\x1b\x1b" <+: buffer := by
  obtain ⟨count, -, hTake, -⟩ := stranded_event hStrands
  have hPrefix : List.replicate (count + 2) ESC <+: buffer := by
    rw [← hTake]
    exact List.take_prefix _ _
  exact List.IsPrefix.trans ⟨List.replicate count ESC, rfl⟩ hPrefix

theorem extractOneEvent_stranded (hStrands : Input.StrandsEscapes buffer) :
  extractOneEvent isUppercase buffer ≠ .nothing := by
  obtain ⟨count, hLen, hTake, hPaste, hHead⟩ := stranded_event hStrands
  have hText : List.replicate (count + 2) ESC = encode (List.replicate (count + 2) '\x1b') := by
    rw [encode, List.flatMap_replicate, utf8EncodeChar_escape]
    simp
  exact extractOneEvent_escape hLen hPaste hHead (hTake.trans hText)

theorem chunkStep_pieces_iff {pieces : List (List UInt8)} (hNone : framer.discardUntil = none)
  (hNext : framer.chunkStep isUppercase = .next pieces after) :
  (∀ piece ∈ pieces, ∃ event, OneEvent isUppercase piece event) ↔ ¬ framer.StrandsEscapes := by
  obtain ⟨hSplit, rfl, -⟩ | ⟨hSplit, event, consumed, hEvent, rfl, -⟩ := chunkStep_cases hNext
  · refine iff_of_true (fun piece hPiece => ?_) fun hStrands => ?_
    · rw [List.mem_singleton.1 hPiece]
      exact oneEvent_escape isUppercase
    · rw [hStrands.2.1] at hSplit
      cases hSplit.1
  · obtain ⟨hLen, hBytes⟩ := extractOneEvent_found_iff.1 hEvent
    rw [List.forall_mem_singleton]
    constructor
    · rintro hOne ⟨-, -, hStrands⟩
      obtain ⟨count, hCount, hTake, -⟩ := stranded_event hStrands
      obtain rfl := Option.some.inj (hCount.symm.trans hLen)
      rw [hTake] at hOne
      exact not_oneEvent_escapes count hOne
    · intro hNot
      rcases exact_firstEventLen hLen with hExact | hEscape | hStrands
      · refine ⟨event, oneEvent_of_extract (extractOneEvent_found_iff.2 ?_)⟩
        have hLength : (framer.buffer.take consumed).length = consumed :=
          List.length_take_of_le (extractOneEvent_bounds hEvent).2
        rw [hLength, List.take_take, Nat.min_self]
        exact ⟨hExact, hBytes⟩
      · rw [hEscape]
        exact oneEvent_escape isUppercase
      · refine absurd ⟨hNone, Bool.eq_false_iff.2 fun hOn => hSplit ⟨hOn, ?_⟩, hStrands⟩ hNot
        exact doubledEscape_of_stranded hStrands

theorem discardComplete_head {rest : List UInt8}
  (hTail : discardCompleteOrphanedSgrMouseTail buffer = some rest) :
  buffer.head? ≠ some ESC := by
  intro hHead
  obtain ⟨terminatorLen, hEnd, hRest⟩ := Option.bind_eq_some_iff.1 hTail
  obtain ⟨hPos, -, -⟩ := settled_controlString .orphanedSgrMouseTail buffer terminatorLen hEnd
  split at hRest
  case isTrue => cases hRest
  case isFalse =>
    obtain ⟨sequence, hDecode, hParse⟩ := Option.bind_eq_some_iff.1 hRest
    obtain ⟨mouse, hMouse, -⟩ := Option.bind_eq_some_iff.1 hParse
    obtain ⟨body, hBody, -⟩ := Option.bind_eq_some_iff.1 hMouse
    have hBytes := encode_of_decode hDecode
    rw [Text.eq_append_of_stripPrefixList hBody, encode_append,
      show encode "\x1b[<".toList = [ESC, 0x5b, 0x3c] by decide] at hBytes
    have hSecond := congrArg (fun bytes => bytes.tail.head?) hBytes
    simp only [List.tail_cons, List.head?_take, hHead, if_neg (Nat.pos_iff_ne_zero.1 hPos)]
      at hSecond
    replace hSecond : some ESC = some 0x5b := hSecond
    exact absurd hSecond (by decide)

/-- A round hands on stranded escapes or a chunk that is one event. -/
theorem drainStep_pieces_iff {pieces : List (List UInt8)}
  (hNext : framer.drainStep isUppercase = .next pieces after) :
  (∀ piece ∈ pieces, ∃ event, OneEvent isUppercase piece event) ↔ ¬ framer.StrandsEscapes := by
  have hPending : ∀ {framer : RawInputByteFramer},
      framer.pendingStep isUppercase = .next pieces after →
      ((∀ piece ∈ pieces, ∃ event, OneEvent isUppercase piece event) ↔
        ¬ framer.StrandsEscapes) := by
    intro framer hNext
    unfold pendingStep at hNext
    cases hDiscard : framer.discardUntil with
    | none =>
      rw [hDiscard] at hNext
      exact chunkStep_pieces_iff hDiscard hNext
    | some family =>
      rw [hDiscard] at hNext
      rw [(discardStep_next hNext).1]
      refine iff_of_true (by simp) fun hStrands => ?_
      rw [hStrands.1] at hDiscard
      cases hDiscard
  unfold drainStep at hNext
  split at hNext
  case isFalse => exact hPending hNext
  case isTrue =>
    split at hNext
    case isTrue => cases hNext
    case isFalse =>
      split at hNext
      case h_1 buffer hTail =>
        obtain ⟨rfl, -⟩ := Step.next.inj hNext
        refine iff_of_true (by simp) fun hStrands => ?_
        exact discardComplete_head hTail hStrands.head
      case h_2 => exact @hPending { framer with loneEscapeRecentlyFlushed := false } hNext

theorem drainStep_wait_clean (hWait : framer.drainStep isUppercase = .wait after) :
  ¬ framer.StrandsEscapes := by
  intro hStrands
  have hNone := hStrands.1
  have hPending : ∀ lone, RawInputByteFramer.pendingStep isUppercase
      { framer with loneEscapeRecentlyFlushed := lone } ≠ .wait after := by
    intro lone hWait
    rw [pendingStep] at hWait
    simp only [hNone] at hWait
    rw [chunkStep] at hWait
    split at hWait
    · cases hWait
    split at hWait
    · cases hWait
    case h_2 hNothing => exact extractOneEvent_stranded hStrands.2.2 hNothing
    · cases hWait
  unfold drainStep at hWait
  split at hWait
  case isFalse => exact hPending _ hWait
  case isTrue =>
    split at hWait
    case isTrue hStarts => exact head?_of_incomplete hStarts hStrands.head
    case isFalse =>
      split at hWait
      case h_1 => cases hWait
      case h_2 => exact hPending _ hWait

theorem push_pieces_iff {data : List UInt8}
  (hPush : framer.push isUppercase data = some (chunks, after)) :
  (∀ chunk ∈ chunks, ∃ event, OneEvent isUppercase chunk event) ↔
    ∀ visited, (reader isUppercase).Visits (extend data framer) visited →
      ¬ visited.StrandsEscapes :=
  Reader.run_pieces_iff (fun hNext => drainStep_pieces_iff hNext)
    (fun hWait => drainStep_wait_clean hWait) hPush

/-- What a timeout lets go is the beginning of a longer sequence, not held for the reply
of the host that it may begin. -/
def FlushesBeginning (framer : RawInputByteFramer) : Prop :=
  framer.discardUntil = none ∧ framer.buffer ∈ incompleteKeyTexts ∧
    ¬ (framer.buffer = ascii "\x1b[" ∧ 0 < framer.hostCellSizeRepliesAwaited ∧
      framer.heldPendingHostReplyEsc = false)

theorem expireKey_beginning (hBuffer : framer.buffer ∈ incompleteKeyTexts) :
  framer.expireKey.1 = [framer.buffer] := by
  have hKey : ∀ bytes ∈ incompleteKeyTexts, bytes ≠ [ESC] ∧ isKeyText bytes = true := by decide
  obtain ⟨hEscape, hText⟩ := hKey _ hBuffer
  rw [expireKey, if_neg hEscape, if_pos hText]

theorem expireReply_beginning {framer : RawInputByteFramer}
  (hBuffer : framer.buffer ∈ incompleteKeyTexts) :
  framer.expireReply.1 = [framer.buffer] := by
  have hReply : ∀ bytes ∈ incompleteKeyTexts,
      startsWithIncompleteHostCellSizeReport bytes = false ∧
        startsWithIncompleteHostColorSchemeReport bytes = false ∧
          incompleteControlString bytes = none := by decide
  obtain ⟨hCell, hScheme, hString⟩ := hReply _ hBuffer
  rw [expireReply, hCell, hScheme, hString]
  simp only [Bool.false_eq_true, and_false, if_false]
  exact expireKey_beginning hBuffer

/-- Such a beginning is handed on as it is. -/
theorem expire_beginning (hFlushes : framer.FlushesBeginning) :
  framer.expire.1 = [framer.buffer] := by
  obtain ⟨hNone, hBuffer, hHeld⟩ := hFlushes
  have hOther : ∀ bytes ∈ incompleteKeyTexts, bytes ≠ [] ∧ ¬ ascii "[<" <+: bytes ∧
      startsWithIncompleteSgrMouseSequence bytes = false ∧ ¬ bracketedPasteStart <+: bytes ∧
        startsWithIncompleteDefaultColorResponse bytes = false := by decide
  obtain ⟨hSome, hTail, hMouse, hPaste, hColor⟩ := hOther _ hBuffer
  rw [expire, hNone]
  simp only [expirePending, hSome, hTail, hMouse, hPaste, hColor, Bool.false_eq_true, and_false,
    false_and, if_false]
  split
  case isTrue hReply =>
    have hOn : framer.heldPendingHostReplyEsc = true := by
      cases hPending : framer.heldPendingHostReplyEsc with
      | true => rfl
      | false => exact absurd ⟨hReply.2, hReply.1, hPending⟩ hHeld
    rw [if_pos hOn]
    exact @expireReply_beginning framer.forgetCellSizeReply hBuffer
  case isFalse => exact expireReply_beginning hBuffer

theorem expireKey_pieces {chunk : List UInt8} (hChunk : chunk ∈ framer.expireKey.1) :
  chunk = [ESC] ∨ chunk = framer.buffer ∧ framer.buffer ≠ [ESC] ∧ isKeyText framer.buffer := by
  unfold expireKey at hChunk
  split at hChunk
  case isTrue =>
    split at hChunk
    · cases hChunk
    · exact Or.inl (List.mem_singleton.1 hChunk)
  case isFalse hEscape =>
    split at hChunk
    case isTrue hKey => exact Or.inr ⟨List.mem_singleton.1 hChunk, hEscape, hKey⟩
    case isFalse =>
      split at hChunk <;> cases hChunk

theorem expireReply_pieces {chunk : List UInt8} (hChunk : chunk ∈ framer.expireReply.1) :
  chunk = [ESC] ∨ chunk = framer.buffer ∧ framer.buffer ≠ [ESC] ∧ isKeyText framer.buffer ∧
    incompleteControlString framer.buffer = none := by
  unfold expireReply at hChunk
  split at hChunk
  case isTrue => cases hChunk
  case isFalse =>
    split at hChunk
    case isTrue => cases hChunk
    case isFalse =>
      split at hChunk
      case h_1 => cases hChunk
      case h_2 hString =>
        rcases expireKey_pieces hChunk with hEscape | ⟨hSame, hNot, hKey⟩
        · exact Or.inl hEscape
        · exact Or.inr ⟨hSame, hNot, hKey, hString⟩

/-- The chunk of a timeout: an escape, or a buffer that is the text of a key. -/
theorem expirePending_pieces {framer : RawInputByteFramer} {chunk : List UInt8}
  (hChunk : chunk ∈ framer.expirePending.1) :
  chunk = [ESC] ∨ chunk = framer.buffer ∧ framer.buffer ≠ [ESC] ∧ isKeyText framer.buffer ∧
    incompleteControlString framer.buffer = none ∧ framer.buffer ≠ [] ∧
      ¬ (framer.loneEscapeRecentlyFlushed ∧ ascii "[<" <+: framer.buffer) ∧
        (bracketedPasteStart <+: framer.buffer →
          findSubsequence bracketedPasteEnd framer.buffer ≠ none) ∧
        ¬ (framer.buffer = ascii "\x1b[" ∧ 0 < framer.hostCellSizeRepliesAwaited ∧
          framer.heldPendingHostReplyEsc = false) := by
  unfold expirePending at hChunk
  split at hChunk
  case isTrue => cases hChunk
  case isFalse hSome =>
    split at hChunk
    case isTrue => cases hChunk
    case isFalse hTail =>
      split at hChunk
      case isTrue => cases hChunk
      case isFalse =>
        split at hChunk
        case isTrue => cases hChunk
        case isFalse hPaste =>
          have hEnd : bracketedPasteStart <+: framer.buffer →
              findSubsequence bracketedPasteEnd framer.buffer ≠ none :=
            fun hStart hNone => hPaste ⟨hStart, hNone⟩
          split at hChunk
          case isTrue => cases hChunk
          case isFalse =>
            split at hChunk
            case isTrue hReply =>
              split at hChunk
              case isFalse => cases hChunk
              case isTrue hHeld =>
                rcases expireReply_pieces hChunk with hEscape | ⟨hSame, hNot, hKey, hString⟩
                · exact Or.inl hEscape
                refine Or.inr ⟨hSame, hNot, hKey, hString, hSome, hTail, hEnd, ?_⟩
                rintro ⟨-, -, hOff⟩
                rw [hOff] at hHeld
                cases hHeld
            case isFalse hReply =>
              rcases expireReply_pieces hChunk with hEscape | ⟨hSame, hNot, hKey, hString⟩
              · exact Or.inl hEscape
              refine Or.inr ⟨hSame, hNot, hKey, hString, hSome, hTail, hEnd, ?_⟩
              rintro ⟨hCsi, hPos, -⟩
              exact hReply ⟨hPos, hCsi⟩

theorem eq_bracket_of_incomplete {buffer : List UInt8}
  (hStarts : startsWithIncompleteOrphanedSgrMouseTail buffer = true) (hSome : buffer ≠ [])
  (hTail : ¬ ascii "[<" <+: buffer) : buffer = [0x5b] := by
  unfold startsWithIncompleteOrphanedSgrMouseTail at hStarts
  split at hStarts
  case isTrue => cases hStarts
  case isFalse =>
    simp only [Bool.or_eq_true, Bool.and_eq_true, decide_eq_true_eq] at hStarts
    rcases hStarts with ⟨-, hPrefix⟩ | ⟨hWhole, -⟩
    · have hInits : (ascii "[<").inits.all (fun part =>
          part = [] || part = [0x5b] || decide (ascii "[<" <+: part)) = true := by decide
      have hPart := List.all_eq_true.1 hInits buffer ((List.mem_inits _ _).2 hPrefix)
      simp only [Bool.or_eq_true, decide_eq_true_eq] at hPart
      exact (hPart.resolve_right hTail).resolve_left hSome
    · exact absurd hWhole hTail

theorem expire_pieces_iff (hWaiting : framer.Waiting isUppercase) :
  (∀ chunk ∈ framer.expire.1, ∃ event, OneEvent isUppercase chunk event) ↔
    ¬ framer.FlushesBeginning := by
  constructor
  · intro hAll hFlushes
    have hEvent := hAll framer.buffer (by rw [expire_beginning hFlushes]; exact List.mem_singleton_self _)
    have hNoEvent : ∀ bytes ∈ incompleteKeyTexts, bytes ≠ [ESC] ∧ firstEventLen bytes = none := by
      decide
    obtain ⟨hEscape, hLen⟩ := hNoEvent _ hFlushes.2.1
    exact not_oneEvent hEscape hLen hEvent
  · intro hNot chunk hChunk
    unfold expire at hChunk
    cases hDiscard : framer.discardUntil with
    | some family => rw [hDiscard] at hChunk; cases hChunk
    | none =>
      rw [hDiscard] at hChunk
      rcases expirePending_pieces hChunk with
        rfl | ⟨rfl, hEscape, hKey, hString, hSome, hTail, hPaste, hHeld⟩
      · exact oneEvent_escape isUppercase
      cases hLone : framer.loneEscapeRecentlyFlushed with
      | true =>
        have hBracket := eq_bracket_of_incomplete (hWaiting.loneEscape hLone) hSome
          fun hPrefix => hTail ⟨hLone, hPrefix⟩
        rw [hBracket]
        exact ⟨_, oneEvent_of_extract
          (show extractOneEvent isUppercase [0x5b] = .found (_, 1) from rfl)⟩
      | false =>
        obtain ⟨-, hNothing⟩ := hWaiting.pending hLone hDiscard
        exact absurd ⟨hDiscard, keyText_event hKey hEscape hString hPaste hNothing, hHeld⟩ hNot

/-- A call that neither strands escapes nor lets the beginning of a sequence go. -/
def CleanCall (isUppercase : Char → Bool) (framer : RawInputByteFramer) : Op → Prop
  | .push data => ∀ visited, (reader isUppercase).Visits (extend data framer) visited →
      ¬ visited.StrandsEscapes
  | .flushTimeout => ¬ framer.FlushesBeginning
  | _ => True

/-- All calls of a run are clean. -/
def CleanRun (isUppercase : Char → Bool) (framer : RawInputByteFramer) : List Op → Prop
  | [] => True
  | op :: ops => framer.CleanCall isUppercase op ∧
      ∀ chunks middle, framer.apply isUppercase op = some (chunks, middle) →
        CleanRun isUppercase middle ops

theorem apply_pieces_iff {op : Op} (hWaiting : framer.Waiting isUppercase)
  (hApply : framer.apply isUppercase op = some (chunks, after)) :
  (∀ chunk ∈ chunks, ∃ event, OneEvent isUppercase chunk event) ↔
    framer.CleanCall isUppercase op := by
  cases op with
  | push data => exact push_pieces_iff hApply
  | flushTimeout =>
    replace hApply : framer.flushTimeout isUppercase = some (chunks, after) := hApply
    rw [flushTimeout_of_drained hWaiting.toDrained] at hApply
    obtain ⟨rfl, -⟩ := Prod.mk.inj (Option.some.inj hApply)
    exact expire_pieces_iff hWaiting
  | hostColorQuerySent =>
    obtain ⟨rfl, -⟩ := Prod.mk.inj (Option.some.inj hApply)
    exact iff_of_true (by simp) trivial
  | hostCellSizeQuerySent =>
    obtain ⟨rfl, -⟩ := Prod.mk.inj (Option.some.inj hApply)
    exact iff_of_true (by simp) trivial
  | enableHostColorSchemeChangeTracking =>
    obtain ⟨rfl, -⟩ := Prod.mk.inj (Option.some.inj hApply)
    exact iff_of_true (by simp) trivial

theorem applyAll_pieces_iff {ops : List Op} {last : RawInputByteFramer}
  (hWaiting : framer.Waiting isUppercase)
  (hApply : framer.applyAll isUppercase ops = some (chunks, last)) :
  (∀ chunk ∈ chunks, ∃ event, OneEvent isUppercase chunk event) ↔
    framer.CleanRun isUppercase ops := by
  induction ops generalizing framer chunks with
  | nil =>
    obtain ⟨rfl, -⟩ := Prod.mk.inj (Option.some.inj hApply)
    exact iff_of_true (by simp) trivial
  | cons op ops ih =>
    obtain ⟨⟨first, middle⟩, hFirst, hRest⟩ := Option.bind_eq_some_iff.1 hApply
    obtain ⟨⟨rest, last'⟩, hLater, hEq⟩ := Option.map_eq_some_iff.1 hRest
    cases hEq
    rw [List.forall_mem_append, apply_pieces_iff hWaiting hFirst,
      ih (waiting_apply hWaiting hFirst) hLater]
    refine and_congr_right fun _ => ⟨fun hClean others other hOther => ?_, fun hAll => ?_⟩
    · obtain ⟨-, rfl⟩ := Prod.mk.inj (Option.some.inj (hFirst.symm.trans hOther))
      exact hClean
    · exact hAll first middle hFirst

end RawInputByteFramer

/-- Chunks that are one event each give their events in order. -/
theorem eventsFromChunks_forall₂_iff {chunks : List (List UInt8)} :
  (∃ events, eventsFromChunks isUppercase chunks = some events ∧
    List.Forall₂ (OneEvent isUppercase) chunks events) ↔
      ∀ chunk ∈ chunks, ∃ event, OneEvent isUppercase chunk event := by
  induction chunks with
  | nil => exact iff_of_true ⟨[], rfl, .nil⟩ (by simp)
  | cons chunk chunks ih =>
    rw [List.forall_mem_cons, ← ih]
    constructor
    · rintro ⟨events, hEvents, hAll⟩
      cases hAll with
      | @cons _ event _ events hOne hRest =>
        rw [eventsFromChunks, hOne.1] at hEvents
        obtain ⟨others, hOthers, hEq⟩ := Option.map_eq_some_iff.1 hEvents
        obtain ⟨-, rfl⟩ := List.cons.inj hEq
        exact ⟨⟨event, hOne⟩, others, hOthers, hRest⟩
    · rintro ⟨⟨event, hOne⟩, events, hEvents, hAll⟩
      refine ⟨event :: events, ?_, .cons hOne hAll⟩
      rw [eventsFromChunks, hOne.1, hEvents]
      rfl

namespace RawInputByteFramer

/-- In every run of a new framer, each chunk is exactly one event that takes the whole
chunk, exactly when every call of the run is clean. -/
theorem chunks_one_event_iff {isUppercase : Char → Bool} {preserve : Bool} {ops : List Op}
  {last : RawInputByteFramer} {chunks : List (List UInt8)}
  (hApply : (withHostInputPolicy preserve).applyAll isUppercase ops = some (chunks, last)) :
  (∃ events, eventsFromChunks isUppercase chunks = some events ∧
    List.Forall₂ (OneEvent isUppercase) chunks events) ↔
      (withHostInputPolicy preserve).CleanRun isUppercase ops := by
  rw [eventsFromChunks_forall₂_iff]
  exact applyAll_pieces_iff (waiting_empty rfl rfl) hApply

/-- An arrow key in two pieces. -/
theorem chunks_one_event_arrow :
  (∃ events, eventsFromChunks Char.isUpper [ascii "\x1b[A"] = some events ∧
    List.Forall₂ (OneEvent Char.isUpper) [ascii "\x1b[A"] events) ↔
      (withHostInputPolicy true).CleanRun Char.isUpper
        [.push (ascii "\x1b["), .push (ascii "A")] := by
  have hApply : (withHostInputPolicy true).applyAll Char.isUpper
      [.push (ascii "\x1b["), .push (ascii "A")] =
        some ([ascii "\x1b[A"], withHostInputPolicy true) := by decide
  exact chunks_one_event_iff hApply

/-- The key with Alt that an escape and a bracket are after a timeout gets lost. -/
theorem not_chunks_one_event :
  (∃ last, (withHostInputPolicy true).applyAll Char.isUpper
      [.push (ascii "\x1b["), .flushTimeout] = some ([ascii "\x1b["], last)) ∧
    eventsFromChunks Char.isUpper [ascii "\x1b["] = some [] ∧
    ¬ ∃ events, eventsFromChunks Char.isUpper [ascii "\x1b["] = some events ∧
      List.Forall₂ (OneEvent Char.isUpper) [ascii "\x1b["] events := by
  have hDropped : eventsFromChunks Char.isUpper [ascii "\x1b["] = some [] := by decide
  refine ⟨⟨withHostInputPolicy true, by decide⟩, hDropped, ?_⟩
  rintro ⟨events, hEvents, hAll⟩
  obtain rfl := Option.some.inj (hDropped.symm.trans hEvents)
  cases hAll

end RawInputByteFramer

end Input
