import VimeflowTerminal.Data.BoundedTail
import VimeflowTerminal.Input.MalformedInput

/-! The rest of a control string whose beginning a timeout has dropped is dropped
too. What stands behind the tail has to come through, however the input is cut. -/

namespace Input

open Search Streaming BoundedTail

/-- A byte between the introducer and the end of a reply. -/
def isCsiParameter (byte : UInt8) : Bool := 0x20 ≤ byte && byte ≤ 0x3f

/-- The bytes behind the tail, once it has ended: after its terminator, at a byte that it
cannot have, or at its bound. -/
def behindTail (family : ControlStringFamily) (bound : Nat) (stream : List UInt8) :
  Option (List UInt8) :=
  match family with
  | .hostReplyCsi => behind isCsiParameter isCsiFinal bound stream
  | .orphanedSgrMouseTail => behind isDigitOrSemicolon isMouseFinal bound stream
  | .osc => (controlStringTerminatorForFamily stream .osc).map stream.drop
  | .stTerminated => (controlStringTerminatorForFamily stream .stTerminated).map stream.drop

namespace RawInputByteFramer

/-- The bytes that the tail may still have. -/
def tailBound (framer : RawInputByteFramer) : Nat :=
  MAX_DISCARDED_CONTROL_TAIL_BYTES - framer.discardedTailBytes

/-- The framer as if it had never discarded anything. -/
def idle (framer : RawInputByteFramer) : RawInputByteFramer := framer.endDiscard.clear

/-- What is handed on and what is still in the buffer. -/
def delivered (result : List (List UInt8) × RawInputByteFramer) : List (List UInt8) × List UInt8 :=
  (result.1, result.2.buffer)

/-- After some reads only the tail is gone: nothing comes out before it has ended, and then
what stands behind it is delivered as if nothing had been there, all of it and the same way
for all cuts. -/
structure DropsOnlyTail (isUppercase : Char → Bool) (framer : RawInputByteFramer)
  (family : ControlStringFamily) (reads : List (List UInt8)) : Prop where
  tail : behindTail family framer.tailBound (framer.buffer ++ reads.flatten) = none →
    ∃ after, framer.pushAll isUppercase reads = some ([], after)
  behind : ∀ rest, behindTail family framer.tailBound (framer.buffer ++ reads.flatten) = some rest →
    (framer.pushAll isUppercase reads).map delivered =
      (framer.idle.push isUppercase rest).map delivered
  bytes : ∀ rest, behindTail family framer.tailBound (framer.buffer ++ reads.flatten) = some rest →
    ∀ chunks after, framer.pushAll isUppercase reads = some (chunks, after) →
      chunks.flatten ++ after.buffer = rest

/-- A read goes beyond the bound of a mouse report's tail, which has no end before it. -/
def Overruns (framer : RawInputByteFramer) (family : ControlStringFamily) (stream : List UInt8) :
  Prop :=
  family = .orphanedSgrMouseTail ∧ framer.tailBound < stream.length ∧
    ∀ byte ∈ stream.take framer.tailBound, isDigitOrSemicolon byte = true

/-- A discard is under way. -/
structure Armed (framer : RawInputByteFramer) (family : ControlStringFamily) : Prop where
  discardUntil : framer.discardUntil = some family
  loneEscape : framer.loneEscapeRecentlyFlushed = false
  dropped : framer.TailDropped family

variable {isUppercase : Char → Bool} {framer after : RawInputByteFramer}
  {family : ControlStringFamily} {data rest : List UInt8} {discardedTailBytes : Nat}

theorem Waiting.armed (hWaiting : framer.Waiting isUppercase)
  (hDiscard : framer.discardUntil = some family) : framer.Armed family where
  discardUntil := hDiscard
  loneEscape := hWaiting.lone_of_discard hDiscard
  dropped := hWaiting.discard (hWaiting.lone_of_discard hDiscard) family hDiscard

theorem framing_idle (hArmed : framer.Armed family) : framer.idle.Framing :=
  ⟨rfl, hArmed.loneEscape⟩

theorem drained_idle (isUppercase : Char → Bool) (framer : RawInputByteFramer) :
  framer.idle.Drained isUppercase :=
  drained_empty rfl (Or.inr (by simp [idle, clear, endDiscard]))

/-- What a read does to a framer that discards a tail: the tail goes on, it ends in the
read, or the read goes beyond the bound and is lost. -/
inductive Reads (isUppercase : Char → Bool) (framer : RawInputByteFramer)
  (family : ControlStringFamily) (data : List UInt8) : Prop
  | onward (after : RawInputByteFramer) (hArmed : after.Armed family)
      (hIdle : after.idle = framer.idle)
      (hPush : framer.push isUppercase data = some ([], after))
      (hTail : ∀ more, behindTail family framer.tailBound (framer.buffer ++ data ++ more) =
        behindTail family after.tailBound (after.buffer ++ more))
      (hBound : family = .orphanedSgrMouseTail →
        data.length ≤ framer.tailBound ∧ after.tailBound = framer.tailBound - data.length ∧
          ∀ byte ∈ data, isDigitOrSemicolon byte = true)
  | ends (rest : List UInt8)
      (hTail : behindTail family framer.tailBound (framer.buffer ++ data) = some rest)
      (hPush : framer.push isUppercase data = framer.idle.push isUppercase rest)
      (hStop : family = .orphanedSgrMouseTail →
        ∃ byte ∈ data.take framer.tailBound, isDigitOrSemicolon byte = false)
  | lost (hLost : framer.Overruns family data)
      (hPush : framer.push isUppercase data = some ([], framer.idle))

theorem push_of_wait (hWait : drainStep isUppercase (extend data framer) = .wait after) :
  framer.push isUppercase data = some ([], after) := by
  have hStep : (reader isUppercase).step (extend data framer) = .wait after := hWait
  rw [push, Reader.push]
  show (reader isUppercase).run (extend data framer) = _
  rw [Reader.run_eq, hStep]

theorem push_of_next (hNext : drainStep isUppercase (extend data framer) =
    .next [] { framer.idle with buffer := rest }) :
  framer.push isUppercase data = framer.idle.push isUppercase rest := by
  have hStep : (reader isUppercase).step (extend data framer) =
      .next [] { framer.idle with buffer := rest } := hNext
  have hFed : (reader isUppercase).feed rest framer.idle = { framer.idle with buffer := rest } := rfl
  rw [push, push, Reader.push, Reader.push, hFed]
  show (reader isUppercase).run (extend data framer) = _
  rw [Reader.run_eq, hStep]
  simp

theorem drainStep_armed {isUppercase : Char → Bool} {framer : RawInputByteFramer}
  {family : ControlStringFamily} (hArmed : framer.Armed family) (data : List UInt8) :
  drainStep isUppercase (extend data framer) = discardStep (extend data framer) family := by
  have hLone : (extend data framer).loneEscapeRecentlyFlushed = false := hArmed.loneEscape
  have hDiscard : (extend data framer).discardUntil = some family := hArmed.discardUntil
  rw [drainStep, hLone, if_neg Bool.false_ne_true, pendingStep, hDiscard]

theorem reads_string (hFamily : family = .osc ∨ family = .stTerminated)
  (hArmed : framer.Armed family) (data : List UInt8) :
  framer.Reads isUppercase family data := by
  have hStep := @drainStep_armed isUppercase _ _ hArmed data
  cases hEnd : controlStringTerminatorForFamily (framer.buffer ++ data) family with
  | none =>
    have hWait : drainStep isUppercase (extend data framer) = .wait (extend data framer) := by
      rw [hStep]
      rcases hFamily with rfl | rfl <;> simp only [discardStep, extend, hEnd]
    refine .onward (extend data framer) ⟨hArmed.discardUntil, hArmed.loneEscape, ?_⟩ rfl
      (push_of_wait hWait) (fun more => rfl) ?_
    · rcases hFamily with rfl | rfl <;> exact hEnd
    · rcases hFamily with rfl | rfl <;> intro hMouse <;> cases hMouse
  | some len =>
    refine .ends ((framer.buffer ++ data).drop len) ?_ (push_of_next ?_) ?_
    · rcases hFamily with rfl | rfl <;> simp only [behindTail, hEnd, Option.map_some]
    · rw [hStep]
      rcases hFamily with rfl | rfl <;> simp only [discardStep, extend, hEnd] <;> rfl
    · rcases hFamily with rfl | rfl <;> intro hMouse <;> cases hMouse

theorem push_of_done {discarded : Discarded} (hStep : drainStep isUppercase (extend data framer) =
    (extend data framer).applyDiscarded discarded) (hDone : discarded.done = true) :
  framer.push isUppercase data = framer.idle.push isUppercase discarded.buffer := by
  refine push_of_next ?_
  rw [hStep, applyDiscarded, if_pos hDone]
  rfl

theorem push_of_pending {discarded : Discarded}
  (hStep : drainStep isUppercase (extend data framer) =
    (extend data framer).applyDiscarded discarded) (hPending : discarded.done = false) :
  framer.push isUppercase data = some ([], { framer with
    buffer := discarded.buffer, discardedTailBytes := discarded.discardedTailBytes }) := by
  refine push_of_wait ?_
  rw [hStep, applyDiscarded, if_neg (by rw [hPending]; exact Bool.false_ne_true)]
  rfl

theorem take_inspected (data : List UInt8) (bound : Nat) :
  data.take (min data.length bound) = data.take bound := by
  rw [Nat.min_comm, ← List.take_take, List.take_length]

theorem discardHostReplyCsiTail_of_some {index : Nat}
  (hIndex : (data.take (MAX_DISCARDED_CONTROL_TAIL_BYTES - discardedTailBytes)).findIdx?
    (fun byte => !isCsiParameter byte) = some index) :
  discardHostReplyCsiTail data discardedTailBytes =
    { done := true
      buffer := data.drop (if (data[index]?).any isCsiFinal then index + 1 else index)
      discardedTailBytes } := by
  rw [← take_inspected] at hIndex
  replace hIndex : (data.take (min data.length
      (MAX_DISCARDED_CONTROL_TAIL_BYTES - discardedTailBytes))).findIdx?
      (fun byte => !(0x20 ≤ byte && byte ≤ 0x3f)) = some index := hIndex
  simp only [discardHostReplyCsiTail, hIndex]

theorem discardHostReplyCsiTail_of_none
  (hIndex : (data.take (MAX_DISCARDED_CONTROL_TAIL_BYTES - discardedTailBytes)).findIdx?
    (fun byte => !isCsiParameter byte) = none) :
  discardHostReplyCsiTail data discardedTailBytes =
    let inspected := min data.length (MAX_DISCARDED_CONTROL_TAIL_BYTES - discardedTailBytes)
    { done := decide (MAX_DISCARDED_CONTROL_TAIL_BYTES ≤ discardedTailBytes + inspected)
      buffer := data.drop inspected
      discardedTailBytes := discardedTailBytes + inspected } := by
  rw [← take_inspected] at hIndex
  replace hIndex : (data.take (min data.length
      (MAX_DISCARDED_CONTROL_TAIL_BYTES - discardedTailBytes))).findIdx?
      (fun byte => !(0x20 ≤ byte && byte ≤ 0x3f)) = none := hIndex
  simp only [discardHostReplyCsiTail, hIndex]

theorem discardOrphanedSgrMouseTail_of_some {index : Nat}
  (hIndex : (data.take (MAX_DISCARDED_CONTROL_TAIL_BYTES - discardedTailBytes)).findIdx?
    (fun byte => !isDigitOrSemicolon byte) = some index) :
  discardOrphanedSgrMouseTail data discardedTailBytes =
    { done := true
      buffer := data.drop (if (data[index]?).any isMouseFinal then index + 1 else index)
      discardedTailBytes } := by
  rw [← take_inspected] at hIndex
  simp only [discardOrphanedSgrMouseTail, hIndex]

theorem discardOrphanedSgrMouseTail_of_none
  (hIndex : (data.take (MAX_DISCARDED_CONTROL_TAIL_BYTES - discardedTailBytes)).findIdx?
    (fun byte => !isDigitOrSemicolon byte) = none) :
  discardOrphanedSgrMouseTail data discardedTailBytes =
    let inspected := min data.length (MAX_DISCARDED_CONTROL_TAIL_BYTES - discardedTailBytes)
    { done := decide (inspected < data.length)
      buffer := []
      discardedTailBytes := discardedTailBytes + inspected } := by
  rw [← take_inspected] at hIndex
  simp only [discardOrphanedSgrMouseTail, hIndex]

theorem belongs_of_findIdx? {belongs : UInt8 → Bool} {bytes : List UInt8}
  (hIndex : bytes.findIdx? (fun byte => !belongs byte) = none) :
  ∀ byte ∈ bytes, belongs byte = true := by
  intro byte hByte
  simpa using List.findIdx?_eq_none_iff.1 hIndex byte hByte

theorem reads_hostReplyCsi (hArmed : framer.Armed .hostReplyCsi) (data : List UInt8) :
  framer.Reads isUppercase .hostReplyCsi data := by
  obtain ⟨hBuffer, hBelow⟩ := hArmed.dropped
  have hStep : drainStep isUppercase (extend data framer) = (extend data framer).applyDiscarded
      (discardHostReplyCsiTail data framer.discardedTailBytes) := by
    rw [drainStep_armed hArmed, discardStep]
    simp only [extend, hBuffer, List.nil_append]
  cases hIndex : (data.take framer.tailBound).findIdx? fun byte => !isCsiParameter byte with
  | some index =>
    rw [discardHostReplyCsiTail_of_some hIndex] at hStep
    refine .ends _ ?_ (push_of_done hStep rfl) (fun hMouse => by cases hMouse)
    rw [hBuffer]
    exact behind_of_findIdx? hIndex
  | none =>
    rw [discardHostReplyCsiTail_of_none hIndex] at hStep
    have hBelongs := belongs_of_findIdx? hIndex
    by_cases hLong : framer.tailBound ≤ data.length
    case pos =>
      have hInspected : min data.length
          (MAX_DISCARDED_CONTROL_TAIL_BYTES - framer.discardedTailBytes) = framer.tailBound :=
        Nat.min_eq_right hLong
      refine .ends (data.drop framer.tailBound) ?_ ?_ (fun hMouse => by cases hMouse)
      · rw [hBuffer]
        exact behind_of_bound hLong hBelongs
      have hPush := push_of_done hStep ?_
      · rw [hPush]
        simp only [hInspected]
      · simp only [hInspected, tailBound, decide_eq_true_eq]
        omega
    case neg =>
      have hShort : data.length < framer.tailBound := Nat.lt_of_not_le hLong
      have hInspected : min data.length
          (MAX_DISCARDED_CONTROL_TAIL_BYTES - framer.discardedTailBytes) = data.length :=
        Nat.min_eq_left hShort.le
      rw [List.take_of_length_le hShort.le] at hBelongs
      simp only [tailBound] at hShort
      have hPending : decide (MAX_DISCARDED_CONTROL_TAIL_BYTES ≤
          framer.discardedTailBytes + data.length) = false := by
        rw [decide_eq_false_iff_not]
        omega
      simp only [hInspected, List.drop_length] at hStep
      refine .onward { framer with
          buffer := [], discardedTailBytes := framer.discardedTailBytes + data.length }
        ⟨hArmed.discardUntil, hArmed.loneEscape, rfl, ?_⟩ rfl
        (push_of_pending hStep hPending) (fun more => ?_) (fun hMouse => by cases hMouse)
      · show framer.discardedTailBytes + data.length < MAX_DISCARDED_CONTROL_TAIL_BYTES
        omega
      rw [hBuffer]
      simp only [behindTail, tailBound, List.nil_append, Nat.sub_add_eq]
      exact behind_through hBelongs (by omega) more

theorem reads_orphanedSgrMouseTail (hArmed : framer.Armed .orphanedSgrMouseTail)
  (data : List UInt8) :
  framer.Reads isUppercase .orphanedSgrMouseTail data := by
  have hBuffer : framer.buffer = [] := hArmed.dropped
  have hStep : drainStep isUppercase (extend data framer) = (extend data framer).applyDiscarded
      (discardOrphanedSgrMouseTail data framer.discardedTailBytes) := by
    rw [drainStep_armed hArmed, discardStep]
    simp only [extend, hBuffer, List.nil_append]
  cases hIndex : (data.take framer.tailBound).findIdx? fun byte => !isDigitOrSemicolon byte with
  | some index =>
    rw [discardOrphanedSgrMouseTail_of_some hIndex] at hStep
    refine .ends _ ?_ (push_of_done hStep rfl) (fun _ => ?_)
    · rw [hBuffer]
      exact behind_of_findIdx? hIndex
    · obtain ⟨hBelow, hByte, -⟩ := List.findIdx?_eq_some_iff_getElem.1 hIndex
      exact ⟨_, List.getElem_mem hBelow, by simpa using hByte⟩
  | none =>
    rw [discardOrphanedSgrMouseTail_of_none hIndex] at hStep
    have hBelongs := belongs_of_findIdx? hIndex
    by_cases hLong : framer.tailBound < data.length
    case pos =>
      -- The source clears the whole buffer, not only what it has inspected.
      refine .lost ⟨rfl, hLong, hBelongs⟩ ?_
      rw [push_of_done hStep (decide_eq_true (Nat.lt_of_le_of_lt (Nat.min_le_right _ _) hLong))]
      have hPushed := @pushAll_eq_push isUppercase [] _ (framing_idle hArmed)
        (drained_idle isUppercase framer)
      exact hPushed.symm
    case neg =>
      have hShort : data.length ≤ framer.tailBound := Nat.le_of_not_lt hLong
      have hInspected : min data.length
          (MAX_DISCARDED_CONTROL_TAIL_BYTES - framer.discardedTailBytes) = data.length :=
        Nat.min_eq_left hShort
      rw [List.take_of_length_le hShort] at hBelongs
      simp only [hInspected, Nat.lt_irrefl, decide_false] at hStep
      have hBound : MAX_DISCARDED_CONTROL_TAIL_BYTES -
          (framer.discardedTailBytes + data.length) = framer.tailBound - data.length :=
        Nat.sub_add_eq _ _ _
      refine .onward { framer with
          buffer := [], discardedTailBytes := framer.discardedTailBytes + data.length }
        ⟨hArmed.discardUntil, hArmed.loneEscape, rfl⟩ rfl
        (push_of_pending hStep rfl) (fun more => ?_) (fun _ => ⟨hShort, hBound, hBelongs⟩)
      rw [hBuffer, List.nil_append]
      simp only [behindTail, tailBound, List.nil_append, Nat.sub_add_eq]
      exact behind_through hBelongs hShort more

theorem reads_armed {isUppercase : Char → Bool} {framer : RawInputByteFramer}
  {family : ControlStringFamily} (hArmed : framer.Armed family) (data : List UInt8) :
  framer.Reads isUppercase family data := by
  cases family with
  | osc => exact reads_string (Or.inl rfl) hArmed data
  | stTerminated => exact reads_string (Or.inr rfl) hArmed data
  | hostReplyCsi => exact reads_hostReplyCsi hArmed data
  | orphanedSgrMouseTail => exact reads_orphanedSgrMouseTail hArmed data

theorem behindTail_append {bound : Nat} {stream : List UInt8}
  (hRest : behindTail family bound stream = some rest) (more : List UInt8) :
  behindTail family bound (stream ++ more) = some (rest ++ more) := by
  have hString : ∀ family, (controlStringTerminatorForFamily stream family).map stream.drop =
      some rest → (controlStringTerminatorForFamily (stream ++ more) family).map
        (stream ++ more).drop = some (rest ++ more) := by
    intro family hRest
    obtain ⟨len, hLen, rfl⟩ := Option.map_eq_some_iff.1 hRest
    obtain ⟨-, hBound, hMore⟩ := settled_controlString family stream len hLen
    have hLater : controlStringTerminatorForFamily (stream ++ more) family = some len := hMore more
    rw [hLater, Option.map_some, List.drop_append_of_le_length hBound]
  cases family with
  | hostReplyCsi => exact behind_append hRest more
  | orphanedSgrMouseTail => exact behind_append hRest more
  | osc => exact hString .osc hRest
  | stTerminated => exact hString .stTerminated hRest

/-- Without more input the tail goes on, or its bound is reached. -/
theorem behindTail_armed (hArmed : framer.Armed family)
  (hRest : behindTail family framer.tailBound framer.buffer = some rest) :
  rest = [] ∧ framer.buffer = [] := by
  cases family with
  | osc =>
    rw [behindTail, show controlStringTerminatorForFamily framer.buffer .osc = none from
      hArmed.dropped] at hRest
    cases hRest
  | stTerminated =>
    rw [behindTail, show controlStringTerminatorForFamily framer.buffer .stTerminated = none from
      hArmed.dropped] at hRest
    cases hRest
  | hostReplyCsi =>
    obtain ⟨hBuffer, hBelow⟩ := hArmed.dropped
    obtain ⟨bound, hBound⟩ : ∃ bound, framer.tailBound = bound + 1 :=
      ⟨framer.tailBound - 1, by simp only [tailBound]; omega⟩
    rw [hBuffer, hBound] at hRest
    cases hRest
  | orphanedSgrMouseTail =>
    have hBuffer : framer.buffer = [] := hArmed.dropped
    rw [hBuffer] at hRest
    cases hBound : framer.tailBound with
    | zero =>
      rw [hBound] at hRest
      exact ⟨(Option.some.inj hRest).symm, hBuffer⟩
    | succ bound =>
      rw [hBound] at hRest
      cases hRest

theorem overruns_append_left {stream : List UInt8} (hOver : framer.Overruns family stream)
  (more : List UInt8) :
  framer.Overruns family (stream ++ more) := by
  obtain ⟨hFamily, hLong, hDigits⟩ := hOver
  refine ⟨hFamily, by rw [List.length_append]; omega, ?_⟩
  rw [List.take_append_of_le_length hLong.le]
  exact hDigits

/-- Beyond the bytes that are read, the bound is what is left of it. -/
theorem overruns_onward {more : List UInt8} (hBound : family = .orphanedSgrMouseTail →
    data.length ≤ framer.tailBound ∧ after.tailBound = framer.tailBound - data.length ∧
      ∀ byte ∈ data, isDigitOrSemicolon byte = true) :
  framer.Overruns family (data ++ more) ↔ after.Overruns family more := by
  constructor
  · rintro ⟨hFamily, hLong, hDigits⟩
    obtain ⟨hFits, hLeft, -⟩ := hBound hFamily
    rw [List.length_append] at hLong
    refine ⟨hFamily, by omega, fun byte hByte => hDigits byte ?_⟩
    rw [List.take_append, ← hLeft]
    exact List.mem_append_right _ hByte
  · rintro ⟨hFamily, hLong, hDigits⟩
    obtain ⟨hFits, hLeft, hData⟩ := hBound hFamily
    refine ⟨hFamily, by rw [List.length_append]; omega, fun byte hByte => ?_⟩
    rw [List.take_append, ← hLeft] at hByte
    rcases List.mem_append.1 hByte with hFirst | hLater
    · exact hData byte (List.mem_of_mem_take hFirst)
    · exact hDigits byte hLater

theorem pushAll_onward (hPush : framer.push isUppercase data = some ([], after))
  (reads : List (List UInt8)) :
  framer.pushAll isUppercase (data :: reads) = after.pushAll isUppercase reads := by
  rw [pushAll, hPush, Option.bind_some]
  simp

theorem pushAll_ends (hArmed : framer.Armed family)
  (hPush : framer.push isUppercase data = framer.idle.push isUppercase rest)
  (reads : List (List UInt8)) :
  framer.pushAll isUppercase (data :: reads) =
    framer.idle.push isUppercase (rest ++ reads.flatten) := by
  have hAll := @pushAll_eq_push isUppercase (rest :: reads) _ (framing_idle hArmed)
    (drained_idle isUppercase framer)
  rw [List.flatten_cons] at hAll
  rw [← hAll, pushAll, pushAll, hPush]

/-- The tail of any number of reads that stay within the bound. -/
theorem pushAll_armed {isUppercase : Char → Bool} {reads : List (List UInt8)}
  {framer : RawInputByteFramer} {family : ControlStringFamily} (hArmed : framer.Armed family)
  (hWithin : ¬ framer.Overruns family reads.flatten) :
  (behindTail family framer.tailBound (framer.buffer ++ reads.flatten) = none →
    ∃ after, framer.pushAll isUppercase reads = some ([], after)) ∧
  ∀ rest, behindTail family framer.tailBound (framer.buffer ++ reads.flatten) = some rest →
    (framer.pushAll isUppercase reads).map delivered =
      (framer.idle.push isUppercase rest).map delivered := by
  induction reads generalizing framer with
  | nil =>
    rw [List.flatten_nil, List.append_nil]
    refine ⟨fun _ => ⟨framer, rfl⟩, fun rest hRest => ?_⟩
    obtain ⟨rfl, hBuffer⟩ := behindTail_armed hArmed hRest
    have hIdle := @pushAll_eq_push isUppercase [] _ (framing_idle hArmed)
      (drained_idle isUppercase framer)
    rw [List.flatten_nil] at hIdle
    rw [← hIdle]
    simp [pushAll, delivered, hBuffer, idle, clear]
  | cons data reads ih =>
    rw [List.flatten_cons] at hWithin ⊢
    cases @reads_armed isUppercase _ _ hArmed data with
    | onward after hAfter hIdle hPush hTail hBound =>
      rw [overruns_onward hBound] at hWithin
      rw [← List.append_assoc, hTail, pushAll_onward hPush, ← hIdle]
      exact ih hAfter hWithin
    | ends rest hTail hPush hStop =>
      rw [← List.append_assoc, behindTail_append hTail, pushAll_ends hArmed hPush]
      constructor
      · intro hNone
        cases hNone
      · intro all hAll
        rw [Option.some.inj hAll]
    | lost hLost hPush => exact absurd (overruns_append_left hLost _) hWithin

theorem dropsOnlyTail_of_within {reads : List (List UInt8)} (hArmed : framer.Armed family)
  (hWithin : ¬ framer.Overruns family reads.flatten) :
  framer.DropsOnlyTail isUppercase family reads := by
  obtain ⟨hTail, hBehind⟩ := @pushAll_armed isUppercase _ _ _ hArmed hWithin
  refine ⟨hTail, hBehind, fun rest hRest chunks after hPush => ?_⟩
  have hSame := hBehind rest hRest
  rw [hPush, Option.map_some] at hSame
  obtain ⟨⟨others, last⟩, hOthers, hEq⟩ := Option.map_eq_some_iff.1 hSame.symm
  replace hEq : (others, last.buffer) = (chunks, after.buffer) := hEq
  obtain ⟨rfl, hBuffer⟩ := Prod.mk.inj hEq
  have hBytes := (push_bytes (framing_idle hArmed) hOthers).2
  rw [← hBuffer]
  exact hBytes

theorem DropsOnlyTail.of_onward {reads : List (List UInt8)} (hIdle : after.idle = framer.idle)
  (hPush : framer.push isUppercase data = some ([], after))
  (hTail : ∀ more, behindTail family framer.tailBound (framer.buffer ++ data ++ more) =
    behindTail family after.tailBound (after.buffer ++ more))
  (hDrops : framer.DropsOnlyTail isUppercase family (data :: reads)) :
  after.DropsOnlyTail isUppercase family reads := by
  obtain ⟨hNone, hBehind, hBytes⟩ := hDrops
  rw [List.flatten_cons, ← List.append_assoc, hTail] at hNone hBehind hBytes
  rw [pushAll_onward hPush] at hNone hBehind hBytes
  rw [← hIdle] at hBehind
  exact ⟨hNone, hBehind, hBytes⟩

/-- A read that goes beyond the bound loses bytes behind the tail. -/
theorem exists_not_dropsOnlyTail {isUppercase : Char → Bool} {reads : List (List UInt8)}
  {framer : RawInputByteFramer} {family : ControlStringFamily} (hArmed : framer.Armed family)
  (hOver : framer.Overruns family reads.flatten) :
  ∃ seen, seen <+: reads ∧ ¬ framer.DropsOnlyTail isUppercase family seen := by
  induction reads generalizing framer with
  | nil => exact absurd hOver.2.1 (Nat.not_lt_zero _)
  | cons data reads ih =>
    rw [List.flatten_cons] at hOver
    cases @reads_armed isUppercase _ _ hArmed data with
    | onward after hAfter hIdle hPush hTail hBound =>
      obtain ⟨seen, hSeen, hNot⟩ := ih hAfter ((overruns_onward hBound).1 hOver)
      refine ⟨data :: seen, List.cons_prefix_cons.2 ⟨rfl, hSeen⟩, fun hDrops => hNot ?_⟩
      exact hDrops.of_onward hIdle hPush hTail
    | ends rest hTail hPush hStop =>
      obtain ⟨byte, hByte, hNotDigit⟩ := hStop hOver.1
      have hDigit := hOver.2.2 byte ((List.prefix_append data reads.flatten).take _ |>.subset hByte)
      rw [hDigit] at hNotDigit
      cases hNotDigit
    | lost hLost hPush =>
      obtain ⟨rfl, hLong, hDigits⟩ := hLost
      have hBuffer : framer.buffer = [] := hArmed.dropped
      refine ⟨[data], List.cons_prefix_cons.2 ⟨rfl, List.nil_prefix⟩, fun hDrops => ?_⟩
      have hRest : behindTail .orphanedSgrMouseTail framer.tailBound
          (framer.buffer ++ [data].flatten) = some (data.drop framer.tailBound) := by
        rw [hBuffer, List.flatten_singleton]
        exact behind_of_bound hLong.le hDigits
      have hBytes := hDrops.bytes _ hRest [] framer.idle (pushAll_onward hPush [])
      have hLength := congrArg List.length hBytes
      simp [idle, clear] at hLength
      omega

/-- A timeout has dropped the first three bytes of a mouse report. -/
def mouseStartDropped : RawInputByteFramer :=
  { withHostInputPolicy true with
    discardUntil := some .orphanedSgrMouseTail
    discardedTailBytes := 3 }

theorem reachable_mouseStartDropped : Reachable Char.isUpper mouseStartDropped := by
  have hPush : (withHostInputPolicy true).apply Char.isUpper (.push (ascii "\x1b[<")) =
      some ([], { withHostInputPolicy true with buffer := ascii "\x1b[<" }) := by decide
  have hFlush : RawInputByteFramer.apply Char.isUpper
      { withHostInputPolicy true with buffer := ascii "\x1b[<" } .flushTimeout =
        some ([], mouseStartDropped) := by decide
  exact .apply (.apply (.start true) hPush) hFlush

end RawInputByteFramer

end Input
