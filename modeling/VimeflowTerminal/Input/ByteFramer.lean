import VimeflowTerminal.Data.Streaming
import VimeflowTerminal.Input.EventLength

/-! The bytes of a host terminal arrive in arbitrary pieces; the framer hands on one
chunk per event. -/

namespace Input

open Search Streaming

def HOST_COLOR_QUERY_REPLIES : Nat := 258

def MAX_ORPHANED_SGR_MOUSE_TAIL_BYTES : Nat := 32

def MAX_DISCARDED_CONTROL_TAIL_BYTES : Nat := 128

/-- A framer with what it knows of replies that are on their way. What an upper-case
character is comes from outside. -/
structure RawInputByteFramer where
  buffer : List UInt8
  discardUntil : Option ControlStringFamily
  discardedTailBytes : Nat
  loneEscapeRecentlyFlushed : Bool
  hostColorRepliesAwaited : Nat
  hostCellSizeRepliesAwaited : Nat
  heldPendingHostReplyEsc : Bool
  hostColorSchemeChangeTracking : Bool
  splitCoalescedEscape : Bool
  deriving DecidableEq

def isDigitOrSemicolon (byte : UInt8) : Bool := 0x30 ≤ byte && byte ≤ 0x39 || byte = 0x3b

def startsWithIncompleteOrphanedSgrMouseTail (buffer : List UInt8) : Bool :=
  if buffer.length > MAX_ORPHANED_SGR_MOUSE_TAIL_BYTES then false
  else
    decide (buffer.length < 3) && decide (buffer <+: ascii "[<") ||
      decide (ascii "[<" <+: buffer) && (buffer.drop 2).all isDigitOrSemicolon

/-- What is left when a whole mouse report without its escape is taken off. -/
def discardCompleteOrphanedSgrMouseTail (buffer : List UInt8) : Option (List UInt8) := do
  let terminatorLen ← controlStringTerminatorForFamily buffer .orphanedSgrMouseTail
  if terminatorLen > MAX_ORPHANED_SGR_MOUSE_TAIL_BYTES then none
  else
    let sequence ← Utf8.decode (ESC :: buffer.take terminatorLen)
    let _ ← parseSgrMouse sequence
    some (buffer.drop terminatorLen)

/-- The result of discarding: whether that is over, what is left and how many
bytes have been discarded. -/
structure Discarded where
  done : Bool
  buffer : List UInt8
  discardedTailBytes : Nat

def discardHostReplyCsiTail (buffer : List UInt8) (discardedTailBytes : Nat) : Discarded :=
  let remaining := MAX_DISCARDED_CONTROL_TAIL_BYTES - discardedTailBytes
  let inspected := min buffer.length remaining
  match (buffer.take inspected).findIdx? fun byte => !(0x20 ≤ byte && byte ≤ 0x3f) with
  | some index =>
    let final := (buffer[index]?).any isCsiFinal
    { done := true, buffer := buffer.drop (if final then index + 1 else index), discardedTailBytes }
  | none =>
    let discardedTailBytes := discardedTailBytes + inspected
    { done := decide (MAX_DISCARDED_CONTROL_TAIL_BYTES ≤ discardedTailBytes)
      buffer := buffer.drop inspected
      discardedTailBytes }

def discardOrphanedSgrMouseTail (buffer : List UInt8) (discardedTailBytes : Nat) : Discarded :=
  let remaining := MAX_DISCARDED_CONTROL_TAIL_BYTES - discardedTailBytes
  let inspected := min buffer.length remaining
  match (buffer.take inspected).findIdx? fun byte => !isDigitOrSemicolon byte with
  | some index =>
    let final := (buffer[index]?).any isMouseFinal
    { done := true, buffer := buffer.drop (if final then index + 1 else index), discardedTailBytes }
  | none =>
    { done := decide (inspected < buffer.length)
      buffer := []
      discardedTailBytes := discardedTailBytes + inspected }

namespace RawInputByteFramer

/-- `with_host_input_policy`: a framer that has seen nothing. -/
def withHostInputPolicy (preserveLegacyDoubledEscapeInput : Bool) : RawInputByteFramer where
  buffer := []
  discardUntil := none
  discardedTailBytes := 0
  loneEscapeRecentlyFlushed := false
  hostColorRepliesAwaited := 0
  hostCellSizeRepliesAwaited := 0
  heldPendingHostReplyEsc := false
  hostColorSchemeChangeTracking := false
  splitCoalescedEscape := !preserveLegacyDoubledEscapeInput

def hostColorQuerySent (framer : RawInputByteFramer) : RawInputByteFramer :=
  { framer with
    hostColorRepliesAwaited := HOST_COLOR_QUERY_REPLIES
    heldPendingHostReplyEsc := false }

/-- What an event tells about the replies that are on their way. -/
def noteEvent (framer : RawInputByteFramer) (event : RawInputEvent) : RawInputByteFramer :=
  let framer :=
    match event with
    | .hostDefaultColor .. | .hostPaletteColors _ =>
      { framer with hostColorRepliesAwaited := framer.hostColorRepliesAwaited - 1 }
    | .hostCellSizeReport .. =>
      { framer with hostCellSizeRepliesAwaited := framer.hostCellSizeRepliesAwaited - 1 }
    | .hostColorSchemeChanged _ =>
      if framer.hostColorSchemeChangeTracking then framer.hostColorQuerySent else framer
    | _ => framer
  { framer with heldPendingHostReplyEsc := false }

def endDiscard (framer : RawInputByteFramer) : RawInputByteFramer :=
  { framer with discardUntil := none, discardedTailBytes := 0 }

/-- Go on with what a discard has left. -/
def applyDiscarded (framer : RawInputByteFramer) (discarded : Discarded) :
  Step RawInputByteFramer (List UInt8) :=
  if discarded.done then .next [] { framer.endDiscard with buffer := discarded.buffer }
  else
    .wait { framer with
      buffer := discarded.buffer, discardedTailBytes := discarded.discardedTailBytes }

/-- One round of the loop that drops a tail. -/
def discardStep (framer : RawInputByteFramer) (family : ControlStringFamily) :
  Step RawInputByteFramer (List UInt8) :=
  match family with
  | .hostReplyCsi =>
    framer.applyDiscarded (discardHostReplyCsiTail framer.buffer framer.discardedTailBytes)
  | .orphanedSgrMouseTail =>
    framer.applyDiscarded (discardOrphanedSgrMouseTail framer.buffer framer.discardedTailBytes)
  | .osc | .stTerminated =>
    match controlStringTerminatorForFamily framer.buffer family with
    | none => .wait framer
    | some terminatorLen =>
      .next [] { framer.endDiscard with buffer := framer.buffer.drop terminatorLen }

/-- One round of the loop that takes a chunk off the buffer. -/
def chunkStep (isUppercase : Char → Bool) (framer : RawInputByteFramer) :
  Step RawInputByteFramer (List UInt8) :=
  if framer.splitCoalescedEscape ∧ ascii "\x1b\x1b" <+: framer.buffer then
    .next [[ESC]] { framer with buffer := framer.buffer.drop 1 }
  else
    match extractOneEvent isUppercase framer.buffer with
    | .panicked => .fail
    | .nothing => .wait framer
    | .found (event, consumed) =>
      .next [framer.buffer.take consumed]
        { framer.noteEvent event with buffer := framer.buffer.drop consumed }

/-- One round after the check for the tail of a mouse report. -/
def pendingStep (isUppercase : Char → Bool) (framer : RawInputByteFramer) :
  Step RawInputByteFramer (List UInt8) :=
  match framer.discardUntil with
  | some family => framer.discardStep family
  | none => framer.chunkStep isUppercase

/-- One round of the loop in `drain_available_chunks`. -/
def drainStep (isUppercase : Char → Bool) (framer : RawInputByteFramer) :
  Step RawInputByteFramer (List UInt8) :=
  if framer.loneEscapeRecentlyFlushed then
    if startsWithIncompleteOrphanedSgrMouseTail framer.buffer then .wait framer
    else
      match discardCompleteOrphanedSgrMouseTail framer.buffer with
      | some buffer => .next [] { framer with buffer, loneEscapeRecentlyFlushed := false }
      | none => pendingStep isUppercase { framer with loneEscapeRecentlyFlushed := false }
  else framer.pendingStep isUppercase

def extend (data : List UInt8) (framer : RawInputByteFramer) : RawInputByteFramer :=
  { framer with buffer := framer.buffer ++ data }

/-- Twice the bytes that are there, and once more while a tail is discarded. -/
def pendingWork (framer : RawInputByteFramer) : Nat :=
  2 * framer.buffer.length + if framer.discardUntil.isSome then 1 else 0

@[simp] theorem noteEvent_discardUntil (framer : RawInputByteFramer) (event : RawInputEvent) :
  (framer.noteEvent event).discardUntil = framer.discardUntil := by
  cases event <;> simp only [noteEvent]
  split <;> rfl

@[simp] theorem noteEvent_lone (framer : RawInputByteFramer) (event : RawInputEvent) :
  (framer.noteEvent event).loneEscapeRecentlyFlushed = framer.loneEscapeRecentlyFlushed := by
  cases event <;> simp only [noteEvent]
  split <;> rfl

/-- A round of the loop goes on with less in the buffer, or no more to discard. -/
def Advances (framer : RawInputByteFramer) (step : Step RawInputByteFramer (List UInt8)) : Prop :=
  ∀ pieces after, step = .next pieces after → after.pendingWork < framer.pendingWork

variable {framer after : RawInputByteFramer} {isUppercase : Char → Bool}
  {pieces : List (List UInt8)}

theorem chunkStep_advances (isUppercase : Char → Bool) (hDiscard : framer.discardUntil = none) :
  framer.Advances (framer.chunkStep isUppercase) := by
  intro pieces after hNext
  unfold chunkStep at hNext
  split at hNext
  case isTrue hSplit =>
    obtain ⟨-, rfl⟩ := Step.next.inj hNext
    have hLong := hSplit.2.length_le
    have hTwo : (ascii "\x1b\x1b").length = 2 := by decide
    simp only [pendingWork, List.length_drop, hDiscard]
    omega
  case isFalse =>
    split at hNext
    case h_1 => cases hNext
    case h_2 => cases hNext
    case h_3 event consumed hFound =>
      obtain ⟨-, rfl⟩ := Step.next.inj hNext
      obtain ⟨hPos, hBound⟩ := extractOneEvent_bounds hFound
      simp only [pendingWork, List.length_drop, noteEvent_discardUntil, hDiscard]
      omega

theorem discardCompleteOrphanedSgrMouseTail_length {buffer rest : List UInt8}
  (hRest : discardCompleteOrphanedSgrMouseTail buffer = some rest) :
  rest.length < buffer.length := by
  obtain ⟨terminatorLen, hEnd, hTail⟩ := Option.bind_eq_some_iff.1 hRest
  obtain ⟨hPos, hBound, -⟩ := settled_controlString .orphanedSgrMouseTail buffer terminatorLen hEnd
  split at hTail
  case isTrue => cases hTail
  case isFalse =>
    obtain ⟨sequence, -, hParse⟩ := Option.bind_eq_some_iff.1 hTail
    obtain ⟨mouse, -, hEq⟩ := Option.bind_eq_some_iff.1 hParse
    cases hEq
    rw [List.length_drop]
    omega

theorem discardHostReplyCsiTail_length (buffer : List UInt8) (discardedTailBytes : Nat) :
  (discardHostReplyCsiTail buffer discardedTailBytes).buffer.length ≤ buffer.length := by
  unfold discardHostReplyCsiTail
  dsimp only
  split <;> simp only [List.length_drop] <;> omega

theorem discardOrphanedSgrMouseTail_length (buffer : List UInt8) (discardedTailBytes : Nat) :
  (discardOrphanedSgrMouseTail buffer discardedTailBytes).buffer.length ≤ buffer.length := by
  unfold discardOrphanedSgrMouseTail
  dsimp only
  split <;> simp

theorem applyDiscarded_advances {discarded : Discarded} (hDiscard : framer.discardUntil.isSome)
  (hLength : discarded.buffer.length ≤ framer.buffer.length) :
  framer.Advances (framer.applyDiscarded discarded) := by
  intro pieces after hNext
  unfold applyDiscarded at hNext
  split at hNext
  case isTrue =>
    obtain ⟨-, rfl⟩ := Step.next.inj hNext
    simp only [pendingWork, endDiscard, hDiscard, if_true, Option.isSome_none]
    simp only [Bool.false_eq_true, if_false]
    omega
  case isFalse => cases hNext

theorem discardStep_advances {family : ControlStringFamily}
  (hDiscard : framer.discardUntil = some family) :
  framer.Advances (framer.discardStep family) := by
  have hSome : framer.discardUntil.isSome := by rw [hDiscard]; rfl
  have hString : ∀ family, framer.Advances
      (match controlStringTerminatorForFamily framer.buffer family with
      | none => .wait framer
      | some terminatorLen =>
        .next [] { framer.endDiscard with buffer := framer.buffer.drop terminatorLen }) := by
    intro family pieces after hNext
    split at hNext
    · cases hNext
    obtain ⟨-, rfl⟩ := Step.next.inj hNext
    simp only [pendingWork, endDiscard, hSome, if_true, List.length_drop, Option.isSome_none]
    simp only [Bool.false_eq_true, if_false]
    omega
  cases family with
  | hostReplyCsi =>
    exact applyDiscarded_advances hSome (discardHostReplyCsiTail_length _ _)
  | orphanedSgrMouseTail =>
    exact applyDiscarded_advances hSome (discardOrphanedSgrMouseTail_length _ _)
  | osc => exact hString .osc
  | stTerminated => exact hString .stTerminated

theorem pendingStep_advances (isUppercase : Char → Bool) (framer : RawInputByteFramer) :
  framer.Advances (framer.pendingStep isUppercase) := by
  unfold pendingStep
  split
  case h_1 family hDiscard => exact discardStep_advances hDiscard
  case h_2 hDiscard => exact chunkStep_advances isUppercase hDiscard

theorem drainStep_advances (isUppercase : Char → Bool) (framer : RawInputByteFramer) :
  framer.Advances (framer.drainStep isUppercase) := by
  unfold drainStep
  split
  case isFalse => exact pendingStep_advances isUppercase framer
  case isTrue =>
    split
    · intro pieces after hNext
      cases hNext
    split
    case h_1 buffer hBuffer =>
      intro pieces after hNext
      obtain ⟨-, rfl⟩ := Step.next.inj hNext
      have hShorter := discardCompleteOrphanedSgrMouseTail_length hBuffer
      simp only [pendingWork]
      omega
    case h_2 =>
      exact pendingStep_advances isUppercase { framer with loneEscapeRecentlyFlushed := false }

/-- `drain_available_chunks` as a reader. -/
def reader (isUppercase : Char → Bool) : Reader UInt8 RawInputByteFramer (List UInt8) where
  feed := extend
  step := drainStep isUppercase
  measure := pendingWork
  feed_append xs ys framer := by simp [extend, List.append_assoc]
  decreases hNext := drainStep_advances isUppercase _ _ _ hNext

/-- `push`: the chunks that are complete now, and the framer after them. A panic
has no result. -/
def push (isUppercase : Char → Bool) (framer : RawInputByteFramer) (data : List UInt8) :
  Option (List (List UInt8) × RawInputByteFramer) :=
  (reader isUppercase).push data framer

/-- Nothing is being discarded. A framer that is only pushed to stays so. -/
structure Framing (framer : RawInputByteFramer) : Prop where
  discardUntil : framer.discardUntil = none
  loneEscape : framer.loneEscapeRecentlyFlushed = false

theorem drainStep_framing (isUppercase : Char → Bool) (hFraming : framer.Framing) :
  framer.drainStep isUppercase = framer.chunkStep isUppercase := by
  simp only [drainStep, hFraming.loneEscape, Bool.false_eq_true, if_false, pendingStep,
    hFraming.discardUntil]

theorem noteEvent_extend (framer : RawInputByteFramer) (event : RawInputEvent) (data : List UInt8) :
  (extend data framer).noteEvent event = extend data (framer.noteEvent event) := by
  cases event with
  | hostColorSchemeChanged appearance =>
    unfold noteEvent
    cases hTracking : framer.hostColorSchemeChangeTracking <;> simp [extend, hTracking, hostColorQuerySent]
  | _ => rfl

/-- A lone escape at the end of the buffer is neither a chunk nor half of two. -/
theorem doubledEscape_append {buffer : List UInt8}
  (hSome : extractOneEvent isUppercase buffer ≠ .nothing) (data : List UInt8) :
  ascii "\x1b\x1b" <+: buffer ++ data ↔ ascii "\x1b\x1b" <+: buffer := by
  have hTwo : (ascii "\x1b\x1b").length = 2 := by decide
  by_cases hLong : 2 ≤ buffer.length
  case pos => exact prefix_append_iff (by omega) data
  case neg =>
    refine ⟨fun hDouble => absurd ?_ hSome, List.prefix_append_of_prefix⟩
    have hPart : buffer <+: ascii "\x1b\x1b" :=
      List.prefix_of_prefix_length_le (List.prefix_append buffer data) hDouble (by omega)
    have hParts : (ascii "\x1b\x1b").inits.all (fun part =>
        decide (part.length = 2) || decide (firstEventLen part = none)) = true := by decide
    have hBuffer := List.all_eq_true.1 hParts buffer ((List.mem_inits _ _).2 hPart)
    simp only [Bool.or_eq_true, decide_eq_true_eq] at hBuffer
    have hNone : firstEventLen buffer = none := hBuffer.resolve_left (by omega)
    rw [extractOneEvent, hNone]
    rfl

theorem chunkStep_split
  (hSplit : framer.splitCoalescedEscape ∧ ascii "\x1b\x1b" <+: framer.buffer) :
  framer.chunkStep isUppercase = .next [[ESC]] { framer with buffer := framer.buffer.drop 1 } := by
  rw [chunkStep, if_pos hSplit]

theorem chunkStep_extract
  (hNot : ¬ (framer.splitCoalescedEscape ∧ ascii "\x1b\x1b" <+: framer.buffer)) :
  framer.chunkStep isUppercase =
    match extractOneEvent isUppercase framer.buffer with
      | .panicked => .fail
      | .nothing => .wait framer
      | .found (event, consumed) =>
        .next [framer.buffer.take consumed]
          { framer.noteEvent event with buffer := framer.buffer.drop consumed } := by
  rw [chunkStep, if_neg hNot]

/-- A chunk is the first of two escapes, or the first event. -/
theorem chunkStep_cases (hNext : framer.chunkStep isUppercase = .next pieces after) :
  ((framer.splitCoalescedEscape ∧ ascii "\x1b\x1b" <+: framer.buffer) ∧ pieces = [[ESC]] ∧
    after = { framer with buffer := framer.buffer.drop 1 }) ∨
  ¬ (framer.splitCoalescedEscape ∧ ascii "\x1b\x1b" <+: framer.buffer) ∧ ∃ event consumed,
    extractOneEvent isUppercase framer.buffer = .found (event, consumed) ∧
    pieces = [framer.buffer.take consumed] ∧
    after = { framer.noteEvent event with buffer := framer.buffer.drop consumed } := by
  by_cases hSplit : framer.splitCoalescedEscape ∧ ascii "\x1b\x1b" <+: framer.buffer
  case pos =>
    rw [chunkStep_split hSplit] at hNext
    obtain ⟨rfl, rfl⟩ := Step.next.inj hNext
    exact .inl ⟨hSplit, rfl, rfl⟩
  case neg =>
    rw [chunkStep_extract hSplit] at hNext
    cases hEvent : extractOneEvent isUppercase framer.buffer with
    | nothing => rw [hEvent] at hNext; cases hNext
    | panicked => rw [hEvent] at hNext; cases hNext
    | found found =>
      rw [hEvent] at hNext
      obtain ⟨rfl, rfl⟩ := Step.next.inj hNext
      exact .inr ⟨hSplit, found.1, found.2, rfl, rfl, rfl⟩

theorem chunkStep_wait (hWait : framer.chunkStep isUppercase = .wait after) : after = framer := by
  unfold chunkStep at hWait
  split at hWait
  · cases hWait
  split at hWait
  · cases hWait
  · exact (Step.wait.inj hWait).symm
  · cases hWait

theorem chunkStep_fail (hFail : framer.chunkStep isUppercase = .fail) (data : List UInt8) :
  chunkStep isUppercase (extend data framer) = .fail := by
  by_cases hSplit : framer.splitCoalescedEscape ∧ ascii "\x1b\x1b" <+: framer.buffer
  case pos =>
    rw [chunkStep_split hSplit] at hFail
    cases hFail
  case neg =>
    rw [chunkStep_extract hSplit] at hFail
    cases hEvent : extractOneEvent isUppercase framer.buffer with
    | nothing => rw [hEvent] at hFail; cases hFail
    | found event => rw [hEvent] at hFail; cases hFail
    | panicked =>
      have hSome : extractOneEvent isUppercase framer.buffer ≠ .nothing := by simp [hEvent]
      have hSame := doubledEscape_append hSome data
      rw [chunkStep_extract (by rw [extend, hSame]; exact hSplit)]
      simp only [extend, extractOneEvent_append hSome data, hEvent]

theorem chunkStep_next (hNext : framer.chunkStep isUppercase = .next pieces after)
  (data : List UInt8) :
  chunkStep isUppercase (extend data framer) = .next pieces (extend data after) := by
  obtain ⟨hSplit, rfl, rfl⟩ | ⟨hSplit, event, consumed, hEvent, rfl, rfl⟩ := chunkStep_cases hNext
  · have hLong := hSplit.2.length_le
    have hTwo : (ascii "\x1b\x1b").length = 2 := by decide
    have hDrop : (framer.buffer ++ data).drop 1 = framer.buffer.drop 1 ++ data :=
      List.drop_append_of_le_length (by omega)
    have hSplitMore : (extend data framer).splitCoalescedEscape ∧
        ascii "\x1b\x1b" <+: (extend data framer).buffer :=
      ⟨hSplit.1, List.prefix_append_of_prefix hSplit.2⟩
    rw [chunkStep_split hSplitMore]
    simp only [extend, hDrop]
  · have hSome : extractOneEvent isUppercase framer.buffer ≠ .nothing := by simp [hEvent]
    have hSame := doubledEscape_append hSome data
    have hBound := (extractOneEvent_bounds hEvent).2
    have hTake := take_append_of_le hBound data
    have hDrop : (framer.buffer ++ data).drop consumed = framer.buffer.drop consumed ++ data :=
      List.drop_append_of_le_length hBound
    rw [chunkStep_extract (by rw [extend, hSame]; exact hSplit)]
    simp only [noteEvent_extend]
    simp only [extend, extractOneEvent_append hSome data, hEvent, hTake, hDrop]

/-- The chunk and what is left are what was there. -/
theorem chunkStep_bytes (hNext : framer.chunkStep isUppercase = .next pieces after) :
  pieces.flatten ++ after.buffer = framer.buffer := by
  obtain ⟨⟨-, rest, hRest⟩, rfl, rfl⟩ | ⟨-, event, consumed, -, rfl, rfl⟩ := chunkStep_cases hNext
  · rw [← hRest, show ascii "\x1b\x1b" = [ESC, ESC] by decide]
    rfl
  · simp

theorem chunkStep_good (hFraming : framer.Framing)
  (hNext : framer.chunkStep isUppercase = .next pieces after) : after.Framing := by
  obtain ⟨hDiscard, hLone⟩ := hFraming
  obtain ⟨-, -, rfl⟩ | ⟨-, event, consumed, -, -, rfl⟩ := chunkStep_cases hNext
  · exact ⟨hDiscard, hLone⟩
  · exact ⟨by simp [hDiscard], by simp [hLone]⟩

theorem stable_reader (isUppercase : Char → Bool) : (reader isUppercase).Stable Framing where
  feed _ hFraming := ⟨hFraming.discardUntil, hFraming.loneEscape⟩
  wait := by
    intro framer after hFraming hWait
    replace hWait : framer.drainStep isUppercase = .wait after := hWait
    rw [drainStep_framing isUppercase hFraming] at hWait
    exact chunkStep_wait hWait
  fail := by
    intro framer data hFraming hFail
    replace hFail : framer.drainStep isUppercase = .fail := hFail
    rw [drainStep_framing isUppercase hFraming] at hFail
    have hFed : (extend data framer).Framing := ⟨hFraming.discardUntil, hFraming.loneEscape⟩
    show drainStep isUppercase (extend data framer) = .fail
    rw [drainStep_framing isUppercase hFed]
    exact chunkStep_fail hFail data
  next := by
    intro framer pieces after hFraming hNext
    replace hNext : framer.drainStep isUppercase = .next pieces after := hNext
    rw [drainStep_framing isUppercase hFraming] at hNext
    refine ⟨chunkStep_good hFraming hNext, fun data => ?_⟩
    have hFed : (extend data framer).Framing := ⟨hFraming.discardUntil, hFraming.loneEscape⟩
    show drainStep isUppercase (extend data framer) = .next pieces (extend data after)
    rw [drainStep_framing isUppercase hFed]
    exact chunkStep_next hNext data

/-- One push after another, with the chunks of all of them. -/
def pushAll (isUppercase : Char → Bool) (framer : RawInputByteFramer) :
  List (List UInt8) → Option (List (List UInt8) × RawInputByteFramer)
  | [] => some ([], framer)
  | data :: datas =>
    (framer.push isUppercase data).bind fun (first, middle) =>
      (pushAll isUppercase middle datas).map fun (rest, last) => (first ++ rest, last)

/-- A framer before its first push: nothing pending and nothing discarded. -/
structure Fresh (framer : RawInputByteFramer) : Prop extends Framing framer where
  buffer : framer.buffer = []

theorem fresh_withHostInputPolicy (preserve : Bool) : (withHostInputPolicy preserve).Fresh :=
  { discardUntil := rfl, loneEscape := rfl, buffer := rfl }

theorem push_bytes {data : List UInt8} {chunks : List (List UInt8)} (hFraming : framer.Framing)
  (hPush : framer.push isUppercase data = some (chunks, after)) :
  after.Framing ∧ chunks.flatten ++ after.buffer = framer.buffer ++ data := by
  have hStable := stable_reader isUppercase
  refine ⟨hStable.push_good hFraming hPush, ?_⟩
  have hFed : (extend data framer).Framing := hStable.feed data hFraming
  have hStep : ∀ {state pieces next}, state.Framing →
      (reader isUppercase).step state = .next pieces next →
      pieces.flatten ++ next.buffer = state.buffer := by
    intro state pieces next hGood hNext
    replace hNext : state.drainStep isUppercase = .next pieces next := hNext
    rw [drainStep_framing isUppercase hGood] at hNext
    exact chunkStep_bytes hNext
  exact hStable.run_content rfl (fun _ _ => List.flatten_append) hStep hFed hPush

theorem pushAll_bytes {datas : List (List UInt8)} {chunks : List (List UInt8)}
  (hFraming : framer.Framing) (hPush : framer.pushAll isUppercase datas = some (chunks, after)) :
  after.Framing ∧ chunks.flatten ++ after.buffer = framer.buffer ++ datas.flatten := by
  induction datas generalizing framer chunks with
  | nil =>
    cases hPush
    exact ⟨hFraming, by simp⟩
  | cons data datas ih =>
    obtain ⟨⟨first, middle⟩, hFirst, hRest⟩ := Option.bind_eq_some_iff.1 hPush
    obtain ⟨⟨rest, last⟩, hLater, hEq⟩ := Option.map_eq_some_iff.1 hRest
    cases hEq
    obtain ⟨hMiddle, hFirstBytes⟩ := push_bytes hFraming hFirst
    obtain ⟨hLast, hRestBytes⟩ := ih hMiddle hLater
    refine ⟨hLast, ?_⟩
    rw [List.flatten_append, List.append_assoc, hRestBytes, ← List.append_assoc, hFirstBytes,
      List.flatten_cons, List.append_assoc]

/-- However the input is cut into pushes, the chunks and the framer in the end are the
same, and while nothing is discarded no byte is lost. -/
theorem push_chunking {isUppercase : Char → Bool} {start framer : RawInputByteFramer}
  {datas : List (List UInt8)} {emitted : List (List UInt8)} (hFresh : start.Fresh)
  (hPushed : start.pushAll isUppercase datas = some (emitted, framer)) :
  (∀ xs ys, (framer.push isUppercase xs).bind (fun (first, middle) =>
      (middle.push isUppercase ys).map fun (second, last) => (first ++ second, last)) =
    framer.push isUppercase (xs ++ ys)) ∧
  (framer.discardUntil = none → emitted.flatten ++ framer.buffer = datas.flatten) := by
  obtain ⟨hFraming, hBytes⟩ := pushAll_bytes hFresh.toFraming hPushed
  refine ⟨fun xs ys => ((stable_reader isUppercase).push_append hFraming xs ys).symm, fun _ => ?_⟩
  rw [hBytes, hFresh.buffer, List.nil_append]

/-- After half of an arrow key has been pushed in two pieces. -/
theorem push_chunking_halfArrow :
  let framer : RawInputByteFramer := { withHostInputPolicy true with buffer := [ESC, 0x5b] }
  (∀ xs ys, (framer.push Char.isUpper xs).bind (fun (first, middle) =>
      (middle.push Char.isUpper ys).map fun (second, last) => (first ++ second, last)) =
    framer.push Char.isUpper (xs ++ ys)) ∧
  (framer.discardUntil = none → [].flatten ++ framer.buffer = [[ESC], [0x5b]].flatten) := by
  have hPushed : (withHostInputPolicy true).pushAll Char.isUpper [[ESC], [0x5b]] =
      some ([], { withHostInputPolicy true with buffer := [ESC, 0x5b] }) := by decide
  exact push_chunking (fresh_withHostInputPolicy true) hPushed

end RawInputByteFramer

end Input
