import VimeflowTerminal.Input.RawInputFramer

/-! Between two calls the framer has taken off all that it can, and what it discards
is gone. Every call leaves it so. -/

namespace Input

open Search Streaming

namespace RawInputByteFramer

/-- What a framer that discards a tail has left of it. -/
def TailDropped (framer : RawInputByteFramer) : ControlStringFamily → Prop
  | .hostReplyCsi =>
    framer.buffer = [] ∧ framer.discardedTailBytes < MAX_DISCARDED_CONTROL_TAIL_BYTES
  | .orphanedSgrMouseTail => framer.buffer = []
  | .osc => controlStringTerminatorForFamily framer.buffer .osc = none
  | .stTerminated => controlStringTerminatorForFamily framer.buffer .stTerminated = none

/-- Nothing can be taken off the buffer. -/
structure Drained (isUppercase : Char → Bool) (framer : RawInputByteFramer) : Prop where
  loneEscape : framer.loneEscapeRecentlyFlushed = true →
    startsWithIncompleteOrphanedSgrMouseTail framer.buffer = true
  discard : framer.loneEscapeRecentlyFlushed = false → ∀ family,
    framer.discardUntil = some family → framer.TailDropped family
  pending : framer.loneEscapeRecentlyFlushed = false → framer.discardUntil = none →
    ¬ (framer.splitCoalescedEscape = true ∧ ascii "\x1b\x1b" <+: framer.buffer) ∧
      extractOneEvent isUppercase framer.buffer = .nothing

variable {isUppercase : Char → Bool} {framer after : RawInputByteFramer} {buffer : List UInt8}
  {family : ControlStringFamily} {chunks : List (List UInt8)}

theorem drained_empty (hBuffer : framer.buffer = [])
  (hTail : framer.discardedTailBytes < MAX_DISCARDED_CONTROL_TAIL_BYTES ∨
    framer.discardUntil ≠ some .hostReplyCsi) : framer.Drained isUppercase where
  loneEscape _ := by rw [hBuffer]; decide
  discard _ family hFamily := by
    cases family with
    | hostReplyCsi => exact ⟨hBuffer, hTail.resolve_right (absurd hFamily)⟩
    | orphanedSgrMouseTail => exact hBuffer
    | osc => rw [TailDropped, hBuffer]; rfl
    | stTerminated => rw [TailDropped, hBuffer]; rfl
  pending _ _ := by
    rw [hBuffer]
    exact ⟨fun hBoth => absurd hBoth.2 (by decide), rfl⟩

theorem discardHostReplyCsiTail_pending {discardedTailBytes : Nat}
  (hPending : (discardHostReplyCsiTail buffer discardedTailBytes).done = false) :
  (discardHostReplyCsiTail buffer discardedTailBytes).buffer = [] ∧
    (discardHostReplyCsiTail buffer discardedTailBytes).discardedTailBytes <
      MAX_DISCARDED_CONTROL_TAIL_BYTES := by
  unfold discardHostReplyCsiTail at hPending ⊢
  dsimp only at hPending ⊢
  split at hPending
  case h_1 => cases hPending
  case h_2 =>
    simp only [decide_eq_false_iff_not, not_le] at hPending
    exact ⟨List.drop_eq_nil_of_le (by omega), hPending⟩

theorem discardOrphanedSgrMouseTail_pending {discardedTailBytes : Nat}
  (hPending : (discardOrphanedSgrMouseTail buffer discardedTailBytes).done = false) :
  (discardOrphanedSgrMouseTail buffer discardedTailBytes).buffer = [] := by
  unfold discardOrphanedSgrMouseTail at hPending ⊢
  dsimp only at hPending ⊢
  split at hPending
  case h_1 => cases hPending
  case h_2 => rfl

theorem applyDiscarded_wait {discarded : Discarded}
  (hWait : framer.applyDiscarded discarded = .wait after) :
  discarded.done = false ∧ after = { framer with
    buffer := discarded.buffer, discardedTailBytes := discarded.discardedTailBytes } := by
  unfold applyDiscarded at hWait
  split at hWait
  case isTrue => cases hWait
  case isFalse hMore => exact ⟨Bool.eq_false_iff.2 hMore, (Step.wait.inj hWait).symm⟩

theorem discardStep_wait (hWait : framer.discardStep family = .wait after) :
  after.TailDropped family ∧
    after.loneEscapeRecentlyFlushed = framer.loneEscapeRecentlyFlushed ∧
    after.discardUntil = framer.discardUntil := by
  cases family with
  | osc =>
    simp only [discardStep] at hWait
    split at hWait
    case h_1 hNone =>
      obtain rfl := Step.wait.inj hWait
      exact ⟨hNone, rfl, rfl⟩
    case h_2 => cases hWait
  | stTerminated =>
    simp only [discardStep] at hWait
    split at hWait
    case h_1 hNone =>
      obtain rfl := Step.wait.inj hWait
      exact ⟨hNone, rfl, rfl⟩
    case h_2 => cases hWait
  | hostReplyCsi =>
    obtain ⟨hPending, rfl⟩ := applyDiscarded_wait hWait
    exact ⟨discardHostReplyCsiTail_pending hPending, rfl, rfl⟩
  | orphanedSgrMouseTail =>
    obtain ⟨hPending, rfl⟩ := applyDiscarded_wait hWait
    exact ⟨discardOrphanedSgrMouseTail_pending hPending, rfl, rfl⟩

/-- Where the loop stops, nothing can be taken off. -/
theorem drained_of_wait (hWait : framer.drainStep isUppercase = .wait after) :
  after.Drained isUppercase := by
  have hPending : ∀ framer : RawInputByteFramer, framer.loneEscapeRecentlyFlushed = false →
      framer.pendingStep isUppercase = .wait after → after.Drained isUppercase := by
    intro framer hLone hWait
    unfold pendingStep at hWait
    split at hWait
    case h_1 family hFamily =>
      obtain ⟨hTail, hLoneAfter, hAfter⟩ := discardStep_wait hWait
      refine ⟨fun hFlushed => ?_, fun _ other hOther => ?_, fun _ hNone => ?_⟩
      · rw [hLoneAfter, hLone] at hFlushed
        cases hFlushed
      · rw [hAfter, hFamily] at hOther
        cases hOther
        exact hTail
      · rw [hAfter, hFamily] at hNone
        cases hNone
    case h_2 hNone =>
      obtain rfl := chunkStep_wait hWait
      refine ⟨fun hFlushed => ?_, fun _ family hFamily => ?_, fun _ _ => ?_⟩
      · rw [hLone] at hFlushed
        cases hFlushed
      · rw [hNone] at hFamily
        cases hFamily
      · by_cases hSplit : after.splitCoalescedEscape ∧ ascii "\x1b\x1b" <+: after.buffer
        · rw [chunkStep_split hSplit] at hWait
          cases hWait
        · refine ⟨hSplit, ?_⟩
          rw [chunkStep_extract hSplit] at hWait
          cases hEvent : extractOneEvent isUppercase after.buffer with
          | nothing => rfl
          | panicked => rw [hEvent] at hWait; cases hWait
          | found event => rw [hEvent] at hWait; cases hWait
  unfold drainStep at hWait
  split at hWait
  case isFalse hLone => exact hPending framer (Bool.eq_false_iff.2 hLone) hWait
  case isTrue hLone =>
    split at hWait
    case isTrue hStarts =>
      obtain rfl := Step.wait.inj hWait
      refine ⟨fun _ => hStarts, fun hNot => ?_, fun hNot => ?_⟩ <;>
        exact absurd hLone (Bool.eq_false_iff.1 hNot)
    case isFalse =>
      split at hWait
      case h_1 => cases hWait
      case h_2 => exact hPending _ rfl hWait

theorem drainStep_of_drained (hDrained : framer.Drained isUppercase) :
  framer.drainStep isUppercase = .wait framer := by
  unfold drainStep
  cases hLone : framer.loneEscapeRecentlyFlushed with
  | true => rw [if_pos rfl, if_pos (hDrained.loneEscape hLone)]
  | false =>
    rw [if_neg Bool.false_ne_true, pendingStep]
    cases hDiscard : framer.discardUntil with
    | none =>
      obtain ⟨hSplit, hNothing⟩ := hDrained.pending hLone hDiscard
      simp only
      rw [chunkStep_extract hSplit, hNothing]
    | some family =>
      have hTail := hDrained.discard hLone family hDiscard
      cases family with
      | osc =>
        replace hTail : controlStringTerminatorForFamily framer.buffer .osc = none := hTail
        simp only [discardStep, hTail]
      | stTerminated =>
        replace hTail : controlStringTerminatorForFamily framer.buffer .stTerminated = none :=
          hTail
        simp only [discardStep, hTail]
      | hostReplyCsi =>
        obtain ⟨hBuffer, hBound⟩ := hTail
        simp [discardStep, applyDiscarded, discardHostReplyCsiTail, hBuffer, Nat.not_le.2 hBound]
        rw [← hBuffer]
      | orphanedSgrMouseTail =>
        replace hTail : framer.buffer = [] := hTail
        simp [discardStep, applyDiscarded, discardOrphanedSgrMouseTail, hTail]
        rw [← hTail]

theorem drained_run (hRun : (reader isUppercase).run framer = some (chunks, after)) :
  after.Drained isUppercase := by
  obtain ⟨before, hWait⟩ := Reader.run_waits hRun
  exact drained_of_wait hWait

theorem flushTimeout_of_drained (hDrained : framer.Drained isUppercase) :
  framer.flushTimeout isUppercase = some framer.expire := by
  have hStep : (reader isUppercase).step framer = .wait framer := drainStep_of_drained hDrained
  rw [flushTimeout, drainAvailableChunks, Reader.run_eq, hStep]
  rfl

/-- The framers differ in what they know of replies at most. -/
structure SameInput (framer after : RawInputByteFramer) : Prop where
  buffer : after.buffer = framer.buffer
  discardUntil : after.discardUntil = framer.discardUntil
  discardedTailBytes : after.discardedTailBytes = framer.discardedTailBytes
  loneEscape : after.loneEscapeRecentlyFlushed = framer.loneEscapeRecentlyFlushed
  splitCoalescedEscape : after.splitCoalescedEscape = framer.splitCoalescedEscape

theorem Drained.congr {isUppercase : Char → Bool} {framer after : RawInputByteFramer}
  (hSame : framer.SameInput after) (hDrained : framer.Drained isUppercase) :
  after.Drained isUppercase := by
  obtain ⟨hBuffer, hDiscard, hTail, hLone, hSplit⟩ := hSame
  refine ⟨fun hFlushed => ?_, fun hNot family hFamily => ?_, fun hNot hNone => ?_⟩
  · rw [hBuffer]
    exact hDrained.loneEscape (hLone ▸ hFlushed)
  · have hDropped := hDrained.discard (hLone ▸ hNot) family (hDiscard ▸ hFamily)
    cases family <;> simpa only [TailDropped, hBuffer, hTail] using hDropped
  · rw [hBuffer, hSplit]
    exact hDrained.pending (hLone ▸ hNot) (hDiscard ▸ hNone)

/-- What a timeout may make of a framer that discards nothing. -/
inductive Expired (framer : RawInputByteFramer) : RawInputByteFramer → Prop
  | held {after : RawInputByteFramer} (hSame : framer.SameInput after) : Expired framer after
  | cleared {after : RawInputByteFramer} (hBuffer : after.buffer = [])
      (hDiscard : after.discardUntil = none) : Expired framer after
  | discarding {after : RawInputByteFramer} (hBuffer : after.buffer = [])
      (hTail : after.discardedTailBytes < MAX_DISCARDED_CONTROL_TAIL_BYTES ∨
        after.discardUntil ≠ some .hostReplyCsi)
      (hLone : after.loneEscapeRecentlyFlushed = false ∨
        framer.buffer.head? = some ESC ∧
          after.loneEscapeRecentlyFlushed = framer.loneEscapeRecentlyFlushed) :
      Expired framer after

theorem Expired.of_same {middle : RawInputByteFramer} (hSame : framer.SameInput middle)
  (hExpired : middle.Expired after) :
  framer.Expired after := by
  cases hExpired with
  | held hAfter =>
    exact .held ⟨hAfter.buffer.trans hSame.buffer, hAfter.discardUntil.trans hSame.discardUntil,
      hAfter.discardedTailBytes.trans hSame.discardedTailBytes,
      hAfter.loneEscape.trans hSame.loneEscape,
      hAfter.splitCoalescedEscape.trans hSame.splitCoalescedEscape⟩
  | cleared hBuffer hDiscard => exact .cleared hBuffer hDiscard
  | discarding hBuffer hTail hLone =>
    rw [hSame.buffer, hSame.loneEscape] at hLone
    exact .discarding hBuffer hTail hLone

theorem head?_of_start {first : UInt8} {start : List UInt8} (hPrefix : first :: start <+: buffer) :
  buffer.head? = some first := by
  obtain ⟨rest, rfl⟩ := hPrefix
  rfl

theorem head?_of_incompleteControlString (hFamily : incompleteControlString buffer = some family) :
  buffer.head? = some ESC := by
  unfold incompleteControlString at hFamily
  split at hFamily
  case h_1 => cases hFamily
  case h_2 found hFound =>
    unfold controlStringFamily at hFound
    split at hFound
    case isTrue hOsc => exact head?_of_start hOsc
    case isFalse =>
      split at hFound
      case isTrue hString =>
        rcases hString with hString | hString | hString | hString <;>
          exact head?_of_start hString
      case isFalse => cases hFound

theorem expired_startDiscard (family : ControlStringFamily)
  (hHead : framer.buffer.head? = some ESC) : framer.Expired (framer.startDiscard family) :=
  .discarding rfl (Or.inl (show 0 < MAX_DISCARDED_CONTROL_TAIL_BYTES by decide))
    (Or.inr ⟨hHead, rfl⟩)

theorem expired_expireKey (hNone : framer.discardUntil = none) :
  framer.Expired framer.expireKey.2 := by
  unfold expireKey
  split
  case isTrue =>
    split
    · exact .held ⟨rfl, rfl, rfl, rfl, rfl⟩
    · exact .cleared rfl hNone
  case isFalse =>
    split
    · exact .cleared rfl hNone
    split
    · exact .held ⟨rfl, rfl, rfl, rfl, rfl⟩
    · exact .cleared rfl hNone

theorem sameInput_forgetCellSizeReply (framer : RawInputByteFramer) :
  framer.SameInput framer.forgetCellSizeReply := ⟨rfl, rfl, rfl, rfl, rfl⟩

theorem expired_expireReply (hNone : framer.discardUntil = none) :
  framer.Expired framer.expireReply.2 := by
  unfold expireReply
  split
  case isTrue hReport =>
    have hHead : framer.buffer.head? = some ESC := by
      have hStarts := hReport.2
      unfold startsWithIncompleteHostCellSizeReport at hStarts
      split at hStarts
      case isTrue hPrefix => exact head?_of_start hPrefix
      case isFalse => cases hStarts
    exact .of_same (sameInput_forgetCellSizeReply framer) (expired_startDiscard _ hHead)
  case isFalse =>
    split
    case isTrue hReport =>
      have hPrefix : ascii "\x1b[?" <+: framer.buffer := by
        unfold startsWithIncompleteHostColorSchemeReport at hReport
        simp only [Bool.and_eq_true, decide_eq_true_eq] at hReport
        exact hReport.1.1
      exact expired_startDiscard _ (head?_of_start hPrefix)
    case isFalse =>
      split
      case h_1 family hFamily =>
        exact expired_startDiscard _ (head?_of_incompleteControlString hFamily)
      case h_2 => exact expired_expireKey hNone

theorem discardMouseTail_ne_hostReplyCsi (framer : RawInputByteFramer) :
  framer.discardMouseTail.discardUntil ≠ some .hostReplyCsi := by
  unfold discardMouseTail
  split <;> simp

theorem expired_discardMouseTail (framer : RawInputByteFramer)
  (hHead : framer.buffer.head? = some ESC) : framer.Expired framer.discardMouseTail :=
  .discarding rfl (Or.inr (discardMouseTail_ne_hostReplyCsi framer)) (Or.inr ⟨hHead, rfl⟩)

theorem not_isMouseFinal_of_digit {byte : UInt8} (hDigit : isDigitOrSemicolon byte = true) :
  isMouseFinal byte = false := by
  cases hFinal : isMouseFinal byte with
  | false => rfl
  | true =>
    simp only [isMouseFinal, Bool.or_eq_true, decide_eq_true_eq] at hFinal
    rcases hFinal with rfl | rfl <;> exact absurd hDigit (by decide)

/-- The tail of a mouse report that is incomplete has no end. -/
theorem not_isMouseFinal_of_incomplete
  (hStarts : startsWithIncompleteOrphanedSgrMouseTail buffer = true) :
  ∀ byte ∈ buffer, isMouseFinal byte = false := by
  have hStart : ∀ byte ∈ ascii "[<", isMouseFinal byte = false := by decide +kernel
  unfold startsWithIncompleteOrphanedSgrMouseTail at hStarts
  split at hStarts
  case isTrue => cases hStarts
  case isFalse =>
    simp only [Bool.or_eq_true, Bool.and_eq_true, decide_eq_true_eq, List.all_eq_true] at hStarts
    intro byte hByte
    rcases hStarts with ⟨-, hPrefix⟩ | ⟨⟨rest, rfl⟩, hDigits⟩
    · exact hStart byte (hPrefix.subset hByte)
    rcases List.mem_append.1 hByte with hFirst | hRest
    · exact hStart byte hFirst
    · exact not_isMouseFinal_of_digit (hDigits byte hRest)

theorem discardCompleteOrphanedSgrMouseTail_incomplete
  (hStarts : startsWithIncompleteOrphanedSgrMouseTail buffer = true) :
  discardCompleteOrphanedSgrMouseTail buffer = none := by
  have hEnd : controlStringTerminatorForFamily buffer .orphanedSgrMouseTail = none := by
    rw [controlStringTerminatorForFamily, firstByteEnd, Option.map_eq_none_iff,
      List.findIdx?_eq_none_iff]
    exact not_isMouseFinal_of_incomplete hStarts
  rw [discardCompleteOrphanedSgrMouseTail, hEnd]
  rfl

/-- After an escape that a timeout has flushed, no sequence begins in the buffer. -/
theorem head?_of_incomplete (hStarts : startsWithIncompleteOrphanedSgrMouseTail buffer = true) :
  buffer.head? ≠ some ESC := by
  unfold startsWithIncompleteOrphanedSgrMouseTail at hStarts
  split at hStarts
  case isTrue => cases hStarts
  case isFalse =>
    simp only [Bool.or_eq_true, Bool.and_eq_true, decide_eq_true_eq] at hStarts
    rcases hStarts with ⟨-, hPrefix⟩ | ⟨⟨rest, rfl⟩, -⟩
    · cases buffer with
      | nil => simp
      | cons first rest =>
        have hFirst : first = 0x5b := (List.cons_prefix_cons.1 hPrefix).1
        rw [List.head?_cons, hFirst]
        decide
    · rw [show ascii "[<" = [0x5b, 0x3c] by decide, List.cons_append, List.head?_cons]
      decide

theorem expired_expirePending (hDrained : framer.Drained isUppercase)
  (hNone : framer.discardUntil = none) :
  framer.Expired framer.expirePending.2 := by
  unfold expirePending
  split
  case isTrue => exact .held ⟨rfl, rfl, rfl, rfl, rfl⟩
  case isFalse =>
    split
    case isTrue hTail =>
      have hIncomplete := discardCompleteOrphanedSgrMouseTail_incomplete
        (hDrained.loneEscape hTail.1)
      rw [discardOrBufferOrphanedSgrMouseTail, hIncomplete]
      refine .discarding rfl (Or.inr ?_) (Or.inl rfl)
      exact discardMouseTail_ne_hostReplyCsi framer
    case isFalse =>
      split
      case isTrue hMouse =>
        simp only [startsWithIncompleteSgrMouseSequence, Bool.and_eq_true,
          decide_eq_true_eq] at hMouse
        exact expired_discardMouseTail framer (head?_of_start hMouse.1)
      case isFalse =>
        split
        · exact .held ⟨rfl, rfl, rfl, rfl, rfl⟩
        split
        · exact .held ⟨rfl, rfl, rfl, rfl, rfl⟩
        split
        · split
          · exact .of_same (sameInput_forgetCellSizeReply framer) (expired_expireReply hNone)
          · exact .held ⟨rfl, rfl, rfl, rfl, rfl⟩
        · exact expired_expireReply hNone

/-- A framer between two calls: all is taken off that can be, and no tail is discarded
right after an escape. -/
structure Waiting (isUppercase : Char → Bool) (framer : RawInputByteFramer) : Prop
  extends Drained isUppercase framer where
  lone : framer.loneEscapeRecentlyFlushed = true → framer.discardUntil = none

theorem waiting_empty (hBuffer : framer.buffer = []) (hNone : framer.discardUntil = none) :
  framer.Waiting isUppercase where
  toDrained := drained_empty hBuffer (Or.inr (by rw [hNone]; simp))
  lone _ := hNone

theorem Waiting.lone_of_discard (hWaiting : framer.Waiting isUppercase)
  (hDiscard : framer.discardUntil = some family) : framer.loneEscapeRecentlyFlushed = false := by
  cases hLone : framer.loneEscapeRecentlyFlushed with
  | false => rfl
  | true =>
    rw [hWaiting.lone hLone] at hDiscard
    cases hDiscard

theorem tailDropped_string (hFamily : family = .osc ∨ family = .stTerminated)
  (hBuffer : framer.buffer = [] ∨ framer.buffer = [ESC]) : framer.TailDropped family := by
  rcases hFamily with rfl | rfl <;> rcases hBuffer with hBuffer | hBuffer <;>
    rw [TailDropped, hBuffer] <;> rfl

theorem waiting_expireDiscard (hWaiting : framer.Waiting isUppercase)
  (hDiscard : framer.discardUntil = some family) :
  (framer.expireDiscard family).Waiting isUppercase := by
  have hLone := hWaiting.lone_of_discard hDiscard
  have hString : ∀ {family}, family = .osc ∨ family = .stTerminated →
      framer.discardUntil = some family → ∀ discardedTailBytes, RawInputByteFramer.Waiting isUppercase
        { framer with
          buffer := if framer.buffer.getLast? = some ESC then [ESC] else [], discardedTailBytes } := by
    intro family hFamily hDiscard discardedTailBytes
    have hNotLone : framer.loneEscapeRecentlyFlushed ≠ true := by simp [hLone]
    refine ⟨⟨fun hFlushed => absurd hFlushed hNotLone, fun _ other hOther => ?_,
      fun _ hNone => ?_⟩, fun hFlushed => absurd hFlushed hNotLone⟩
    · obtain rfl := Option.some.inj (hDiscard.symm.trans hOther)
      refine tailDropped_string hFamily ?_
      split
      · exact Or.inr rfl
      · exact Or.inl rfl
    · replace hNone : framer.discardUntil = none := hNone
      rw [hDiscard] at hNone
      cases hNone
  cases family with
  | hostReplyCsi => exact hWaiting
  | orphanedSgrMouseTail => exact waiting_empty rfl rfl
  | osc =>
    simp only [expireDiscard]
    split
    · exact hString (Or.inl rfl) hDiscard _
    · exact waiting_empty rfl rfl
  | stTerminated =>
    simp only [expireDiscard]
    split
    · exact hString (Or.inr rfl) hDiscard _
    · exact waiting_empty rfl rfl

theorem waiting_expire (hWaiting : framer.Waiting isUppercase) :
  framer.expire.2.Waiting isUppercase := by
  unfold expire
  cases hDiscard : framer.discardUntil with
  | some family => exact waiting_expireDiscard hWaiting hDiscard
  | none =>
    cases expired_expirePending hWaiting.toDrained hDiscard with
    | held hSame =>
      refine ⟨hWaiting.toDrained.congr hSame, fun hLone => ?_⟩
      rw [hSame.discardUntil]
      exact hWaiting.lone (hSame.loneEscape ▸ hLone)
    | cleared hBuffer hNone => exact waiting_empty hBuffer hNone
    | discarding hBuffer hTail hLone =>
      refine ⟨drained_empty hBuffer hTail, fun hFlushed => ?_⟩
      rcases hLone with hLone | ⟨hHead, hLone⟩
      · rw [hLone] at hFlushed
        cases hFlushed
      · exact absurd hHead (head?_of_incomplete (hWaiting.loneEscape (hLone ▸ hFlushed)))

theorem discardStep_next {pieces : List (List UInt8)}
  (hNext : framer.discardStep family = .next pieces after) :
  pieces = [] ∧ after = { framer.endDiscard with buffer := after.buffer } := by
  have hApplied : ∀ discarded, framer.applyDiscarded discarded = .next pieces after →
      pieces = [] ∧ after = { framer.endDiscard with buffer := after.buffer } := by
    intro discarded hNext
    unfold applyDiscarded at hNext
    split at hNext
    · obtain ⟨rfl, rfl⟩ := Step.next.inj hNext
      exact ⟨rfl, rfl⟩
    · cases hNext
  cases family with
  | hostReplyCsi => exact hApplied _ hNext
  | orphanedSgrMouseTail => exact hApplied _ hNext
  | osc =>
    simp only [discardStep] at hNext
    split at hNext
    · cases hNext
    · obtain ⟨rfl, rfl⟩ := Step.next.inj hNext
      exact ⟨rfl, rfl⟩
  | stTerminated =>
    simp only [discardStep] at hNext
    split at hNext
    · cases hNext
    · obtain ⟨rfl, rfl⟩ := Step.next.inj hNext
      exact ⟨rfl, rfl⟩

theorem chunkStep_lone {pieces : List (List UInt8)}
  (hNext : framer.chunkStep isUppercase = .next pieces after) :
  after.loneEscapeRecentlyFlushed = framer.loneEscapeRecentlyFlushed := by
  unfold chunkStep at hNext
  split at hNext
  · obtain ⟨-, rfl⟩ := Step.next.inj hNext
    rfl
  split at hNext
  · cases hNext
  · cases hNext
  · obtain ⟨-, rfl⟩ := Step.next.inj hNext
    exact noteEvent_lone framer _

/-- One round of the loop, whether it goes on or waits. -/
def StepsTo (isUppercase : Char → Bool) (framer after : RawInputByteFramer) : Prop :=
  framer.drainStep isUppercase = .wait after ∨
    ∃ pieces, framer.drainStep isUppercase = .next pieces after

theorem pendingStep_lone (hStep : framer.pendingStep isUppercase = .wait after ∨
    ∃ pieces, framer.pendingStep isUppercase = .next pieces after) :
  after.loneEscapeRecentlyFlushed = framer.loneEscapeRecentlyFlushed := by
  unfold pendingStep at hStep
  cases hDiscard : framer.discardUntil with
  | some family =>
    rw [hDiscard] at hStep
    rcases hStep with hWait | ⟨pieces, hNext⟩
    · exact (discardStep_wait hWait).2.1
    · rw [(discardStep_next hNext).2]
      rfl
  | none =>
    rw [hDiscard] at hStep
    rcases hStep with hWait | ⟨pieces, hNext⟩
    · rw [chunkStep_wait hWait]
    · exact chunkStep_lone hNext

/-- No round of the loop starts to discard or flushes an escape. -/
theorem StepsTo.lone (hStep : framer.StepsTo isUppercase after)
  (hLone : framer.loneEscapeRecentlyFlushed = true → framer.discardUntil = none) :
  after.loneEscapeRecentlyFlushed = true → after.discardUntil = none := by
  intro hAfter
  unfold StepsTo drainStep at hStep
  cases hFlushed : framer.loneEscapeRecentlyFlushed with
  | false =>
    rw [hFlushed, if_neg Bool.false_ne_true] at hStep
    rw [pendingStep_lone hStep, hFlushed] at hAfter
    cases hAfter
  | true =>
    rw [hFlushed, if_pos rfl] at hStep
    by_cases hStarts : startsWithIncompleteOrphanedSgrMouseTail framer.buffer = true
    · rw [if_pos hStarts] at hStep
      rcases hStep with hWait | ⟨pieces, hNext⟩
      · obtain rfl := Step.wait.inj hWait
        exact hLone hFlushed
      · cases hNext
    · rw [if_neg hStarts] at hStep
      cases hTail : discardCompleteOrphanedSgrMouseTail framer.buffer with
      | some buffer =>
        rw [hTail] at hStep
        rcases hStep with hWait | ⟨pieces, hNext⟩
        · cases hWait
        · obtain ⟨-, rfl⟩ := Step.next.inj hNext
          cases hAfter
      | none =>
        rw [hTail] at hStep
        have hSame := pendingStep_lone hStep
        rw [hSame] at hAfter
        cases hAfter

theorem waiting_run (hLone : framer.loneEscapeRecentlyFlushed = true → framer.discardUntil = none)
  (hRun : (reader isUppercase).run framer = some (chunks, after)) :
  after.Waiting isUppercase where
  toDrained := drained_run hRun
  lone := by
    refine @Reader.run_preserves _ _ _ (reader isUppercase)
      (fun state => state.loneEscapeRecentlyFlushed = true → state.discardUntil = none)
      (fun {state after} hState hWait => ?_) (fun {state pieces after} hState hNext => ?_) _ _ _
      hLone hRun
    · exact StepsTo.lone (Or.inl hWait) hState
    · exact StepsTo.lone (Or.inr ⟨pieces, hNext⟩) hState

theorem Waiting.congr {isUppercase : Char → Bool} {framer after : RawInputByteFramer}
  (hSame : framer.SameInput after) (hWaiting : framer.Waiting isUppercase) :
  after.Waiting isUppercase where
  toDrained := hWaiting.toDrained.congr hSame
  lone hLone := by
    rw [hSame.discardUntil]
    exact hWaiting.lone (hSame.loneEscape ▸ hLone)

theorem waiting_apply {op : Op} (hWaiting : framer.Waiting isUppercase)
  (hApply : framer.apply isUppercase op = some (chunks, after)) : after.Waiting isUppercase := by
  cases op with
  | push data =>
    have hLone : (extend data framer).loneEscapeRecentlyFlushed = true →
        (extend data framer).discardUntil = none := hWaiting.lone
    exact waiting_run hLone hApply
  | flushTimeout =>
    replace hApply : framer.flushTimeout isUppercase = some (chunks, after) := hApply
    rw [flushTimeout_of_drained hWaiting.toDrained] at hApply
    obtain rfl := (Prod.mk.inj (Option.some.inj hApply)).2
    exact waiting_expire hWaiting
  | hostColorQuerySent =>
    obtain rfl := (Prod.mk.inj (Option.some.inj hApply)).2
    exact @Waiting.congr _ framer _ ⟨rfl, rfl, rfl, rfl, rfl⟩ hWaiting
  | hostCellSizeQuerySent =>
    obtain rfl := (Prod.mk.inj (Option.some.inj hApply)).2
    exact @Waiting.congr _ framer _ ⟨rfl, rfl, rfl, rfl, rfl⟩ hWaiting
  | enableHostColorSchemeChangeTracking =>
    obtain rfl := (Prod.mk.inj (Option.some.inj hApply)).2
    exact @Waiting.congr _ framer _ ⟨rfl, rfl, rfl, rfl, rfl⟩ hWaiting

theorem Reachable.waiting (hReachable : Reachable isUppercase framer) :
  framer.Waiting isUppercase := by
  induction hReachable with
  | start preserve => exact waiting_empty rfl rfl
  | apply _ hApply ih => exact waiting_apply ih hApply

end RawInputByteFramer

end Input
