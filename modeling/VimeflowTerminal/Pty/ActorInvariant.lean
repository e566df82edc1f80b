import VimeflowTerminal.Pty.ActorHandoff

/-! What callers and actor keep between them when the handoff calls follow one
another and no rollback gives up on an actor that is still there. -/

namespace Pty

open Transition

namespace System

variable {event : ActorEvent}

/-- The handoff commands ahead of the actor, first the one it is in. -/
def handoffs (s : System) : List PtyIoControlCommand :=
  (s.activity.begun.map PtyIoControlCommand.beginHandoff).toList ++ pendingHandoffs s.controlQueue

def view (s : System) : HandoffView :=
  { calls := s.calls, handoffs := s.handoffs, closing := closing s.controlQueue
    state := s.runner.state, accepting := s.accepting, lastHandoff := s.lastHandoff }

/-- The writes that have bytes in them. -/
def nonempty (writes : List Bytes) : List Bytes := writes.filter fun bytes => !bytes.isEmpty

@[simp] theorem nonempty_append (first second : List Bytes) :
  nonempty (first ++ second) = nonempty first ++ nonempty second := by
  simp [nonempty]

/-- The accepted writes are the user's writes queued so far and those still on
the data queue, and the PTY has a beginning of what was queued. -/
structure Recorded (s : System) : Prop where
  accepted : userWrites s.runner.enqueued ++ nonempty s.dataQueue = nonempty s.accepted
  delivered : s.runner.writeFailed = false →
    s.runner.output <+: s.runner.enqueued.flatMap QueuedWrite.tagged

/-- The actor has not left its loop. -/
structure Working (s : System) : Prop where
  flow : s.runner.Flow
  state : s.runner.state ≠ .released
  quietQueue : s.runner.state = .quiesced → s.dataQueue = []
  quietWrites : s.runner.state = .quiesced →
    ∀ write ∈ s.runner.pendingWrites, write.source ≠ .userInput
  drained : s.activity.drained = true → s.dataQueue = []
  fresh : ∀ call ∈ s.calls, call.id < s.nextCall
  status : HandoffStatus s.view

structure Inv (s : System) : Prop where
  recorded : s.Recorded
  working : s.activity.stopped = false → s.Working

/-! ## The actor -/

variable {s s' : System} {calls : List HandoffCall} {id : Nat} {command : PtyIoControlCommand}

theorem Works.view (h : s.Works event s') : s'.view = s.view := by
  simp only [System.view, handoffs, h.calls, h.begun, h.controlQueue, h.state, h.accepting,
    h.lastHandoff]

theorem Works.working (h : s.Works event s') (hWorking : s.Working) : s'.Working where
  flow := h.flow hWorking.flow
  state := by
    rw [h.state]
    exact hWorking.state
  quietQueue := fun hState => by
    rw [h.dataQueue]
    exact hWorking.quietQueue (h.state ▸ hState)
  quietWrites := fun hState write hMem hUser =>
    hWorking.quietWrites (h.state ▸ hState) write (h.pendingWrites write hMem hUser) hUser
  drained := fun hDrained => by
    rw [h.dataQueue]
    rcases h.drained hDrained with hDrained | hEmpty
    · exact hWorking.drained hDrained
    · exact hEmpty
  fresh := by
    rw [h.calls, h.nextCall]
    exact hWorking.fresh
  status := h.view ▸ hWorking.status

theorem Working.recorded (h : s.Working)
  (hAccepted : userWrites s.runner.enqueued ++ nonempty s.dataQueue = nonempty s.accepted) :
  s.Recorded :=
  ⟨hAccepted, fun hIntact => ⟨s.runner.unwritten, h.flow.written hIntact⟩⟩

theorem Works.inv (h : s.Works event s') (hInv : s.Inv) (hGoing : s.activity.stopped = false) :
  s'.Inv := by
  have hWorking := h.working (hInv.working hGoing)
  refine ⟨hWorking.recorded ?_, fun _ => hWorking⟩
  rw [h.userWrites, h.dataQueue, h.accepted]
  exact hInv.recorded.accepted

/-- A user's write goes from the data queue to the pending writes. -/
theorem inv_takesUserWrite {bytes : Bytes} {rest : List Bytes} (hInv : s.Inv)
  (hGoing : s.activity.stopped = false) (hQueue : s.dataQueue = bytes :: rest) :
  Inv
    { s with
      dataQueue := rest
      runner := s.runner.enqueueWrite { source := .userInput, bytes } } := by
  have hWorking := hInv.working hGoing
  have hNotQuiet : s.runner.state ≠ .quiesced := fun hState => by
    have hEmpty := hWorking.quietQueue hState
    rw [hQueue] at hEmpty
    cases hEmpty
  have hAdds := s.runner.enqueueWrite_enqueues { source := .userInput, bytes }
  have hState : (s.runner.enqueueWrite { source := .userInput, bytes }).state ≠ .quiesced := by
    rw [hAdds.state]
    exact hNotQuiet
  have hAfter : Working
      { s with
        dataQueue := rest
        runner := s.runner.enqueueWrite { source := .userInput, bytes } } :=
    { flow := hAdds.flow hWorking.flow
      state := by
        rw [hAdds.state]
        exact hWorking.state
      quietQueue := fun hQuiet => absurd hQuiet hState
      quietWrites := fun hQuiet => absurd hQuiet hState
      drained := fun hDrained => by
        have hEmpty := hWorking.drained hDrained
        rw [hQueue] at hEmpty
        cases hEmpty
      fresh := hWorking.fresh
      status := by
        have hStatus := hWorking.status
        rw [view, ← hAdds.state] at hStatus
        exact hStatus }
  refine ⟨hAfter.recorded ?_, fun _ => hAfter⟩
  rw [← hInv.recorded.accepted, hAdds.enqueued, hQueue, userWrites_append, List.append_assoc]
  congr 1
  cases bytes with
  | nil => rfl
  | cons byte more => rfl

theorem answerCalls_fresh {next : Nat} {ok : Bool} (hFresh : ∀ call ∈ calls, call.id < next) :
  ∀ call ∈ answerCalls calls id ok, call.id < next := by
  intro call hMem
  obtain ⟨before, hBefore, rfl⟩ := List.mem_map.1 hMem
  have hLess := hFresh before hBefore
  split <;> exact hLess

/-- The actor takes a command. -/
theorem inv_takesCommand {rest : List PtyIoControlCommand} (hInv : s.Inv)
  (hActivity : s.activity = .looping .receiveControl)
  (hQueue : s.controlQueue = command :: rest) :
  Inv ({ s with controlQueue := rest }.handleControlCommand command) := by
  have hWorking := hInv.working (by rw [hActivity]; rfl)
  have hStatus := hWorking.status
  have hHandoffs : s.handoffs = pendingHandoffs (command :: rest) := by
    rw [handoffs, hActivity, hQueue]
    rfl
  have hView : s.view = { s.view with
      handoffs := pendingHandoffs (command :: rest), closing := closing (command :: rest) } := by
    rw [view, hHandoffs, hQueue]
  rw [hView] at hStatus
  obtain ⟨hAccepted, hDelivered⟩ := hInv.recorded
  cases command with
  | beginHandoff id =>
    have hAfter : Working ({ s with controlQueue := rest }.handleControlCommand (.beginHandoff id)) :=
      { flow := hWorking.flow, state := hWorking.state, quietQueue := hWorking.quietQueue
        quietWrites := hWorking.quietWrites, drained := fun h => absurd h Bool.false_ne_true
        fresh := hWorking.fresh, status := hStatus }
    exact ⟨⟨hAccepted, hDelivered⟩, fun _ => hAfter⟩
  | duplicateForHandoff =>
    have hAfter : Working ({ s with controlQueue := rest }.handleControlCommand .duplicateForHandoff) :=
      { hWorking with
        status := by
          show HandoffStatus { s.view with handoffs := _, closing := _ }
          rw [handoffs, hActivity]
          exact hStatus }
    exact ⟨⟨hAccepted, hDelivered⟩, fun _ => hAfter⟩
  | foregroundProcessGroup =>
    have hAfter : Working
        ({ s with controlQueue := rest }.handleControlCommand .foregroundProcessGroup) :=
      { hWorking with
        status := by
          show HandoffStatus { s.view with handoffs := _, closing := _ }
          rw [handoffs, hActivity]
          exact hStatus }
    exact ⟨⟨hAccepted, hDelivered⟩, fun _ => hAfter⟩
  | rollbackHandoff id =>
    have hEq : { s with controlQueue := rest }.handleControlCommand (.rollbackHandoff id) =
        { s with
          controlQueue := rest, runner := { s.runner with state := .running } }.reply id true :=
      if_neg hWorking.state
    have hAfter : Working
        ({ s with
          controlQueue := rest, runner := { s.runner with state := .running } }.reply id true) :=
      { flow := { hWorking.flow with }
        state := by simp [reply]
        quietQueue := fun h => nomatch h
        quietWrites := fun h => nomatch h
        drained := hWorking.drained
        fresh := answerCalls_fresh hWorking.fresh
        status := by
          rw [view, handoffs, reply, hActivity]
          exact hStatus.answerRollback rfl }
    rw [hEq]
    exact ⟨⟨hAccepted, hDelivered⟩, fun _ => hAfter⟩
  | releaseAfterCommit =>
    exact ⟨⟨hAccepted, hDelivered⟩, fun h => absurd h.symm Bool.false_ne_true⟩
  | shutdown =>
    exact ⟨⟨hAccepted, hDelivered⟩, fun h => absurd h.symm Bool.false_ne_true⟩

/-- The actor ends its handoff step and answers. -/
theorem inv_finishBegin {ok : Bool} {state : ActorState} (hInv : s.Inv)
  (hBegun : s.activity.begun = some id) (hState : state ≠ .released)
  (hOk : ok = true → state = .quiesced) (hQuiet : state = .quiesced → s.dataQueue = [] ∧
    ∀ write ∈ s.runner.pendingWrites, write.source ≠ .userInput) :
  Inv ({ s with runner := { s.runner with state } }.finishBegin id ok) := by
  have hGoing : s.activity.stopped = false := by
    cases hActivity : s.activity with
    | beginning reply stage => rfl
    | looping stage => rfl
    | exiting => simp [hActivity, Activity.begun] at hBegun
    | gone => simp [hActivity, Activity.begun] at hBegun
  have hWorking := hInv.working hGoing
  have hHandoffs : s.view.handoffs = .beginHandoff id :: pendingHandoffs s.controlQueue := by
    rw [view, handoffs, hBegun]
    rfl
  have hStatus := hWorking.status.answerBegin hHandoffs ok hOk
  have hAfter : Working ({ s with runner := { s.runner with state } }.finishBegin id ok) :=
    { flow := { hWorking.flow with }
      state := hState
      quietQueue := fun h => (hQuiet h).1
      quietWrites := fun h => (hQuiet h).2
      drained := fun h => absurd h Bool.false_ne_true
      fresh := answerCalls_fresh hWorking.fresh
      status := hStatus }
  exact ⟨⟨hInv.recorded.accepted, hInv.recorded.delivered⟩, fun _ => hAfter⟩

theorem Inv.actorMove (hInv : s.Inv) (hMove : s.ActorMove event s')
  (hGoing : s.activity.stopped = false) : s'.Inv := by
  have hWorking := hInv.working hGoing
  cases hMove with
  | works h => exact h.inv hInv hGoing
  | takesCommand hActivity hQueue => exact inv_takesCommand hInv hActivity hQueue
  | takesData hActivity hQueue =>
    have hAfter := inv_takesUserWrite hInv hGoing hQueue
    have hRunning : s.runner.state = .running := by
      cases hState : s.runner.state with
      | running => rfl
      | quiesced => simp [hWorking.quietQueue hState] at hQueue
      | released => exact absurd hState hWorking.state
    rw [PtyIoActorRunner.handleDataCommand, if_pos hRunning]
    exact hAfter
  | drainsData hActivity hQueue =>
    rw [PtyIoActorRunner.drainPreQuiesceCommand, if_pos hWorking.state]
    exact inv_takesUserWrite hInv hGoing hQueue
  | failsBegin hBegun h =>
    have hAfter := h.inv hInv hGoing
    have hLater := hAfter.working (h.going hGoing)
    exact inv_finishBegin hAfter (h.begun.trans hBegun) hLater.state (fun h => nomatch h)
      fun hState => ⟨hLater.quietQueue hState, hLater.quietWrites hState⟩
  | quiesces hActivity hPending =>
    refine inv_finishBegin hInv (by rw [hActivity]; rfl) (by decide) (fun _ => rfl) fun _ => ?_
    exact ⟨hWorking.drained (by rw [hActivity]; rfl), by simp [hPending]⟩
  | leaves hActivity h =>
    have hAfter := (h.inv hInv hGoing).recorded
    exact ⟨⟨hAfter.accepted, hAfter.delivered⟩, fun h => absurd h.symm Bool.false_ne_true⟩
  | drops hActivity =>
    exact ⟨⟨hInv.recorded.accepted, hInv.recorded.delivered⟩,
      fun h => absurd h.symm Bool.false_ne_true⟩

/-- An actor that has left its loop only drops its queues. -/
theorem actorStep_stopped (hStep : s.actorStep event = some s')
  (hStopped : s.activity.stopped = true) :
  s' = { s with activity := .gone } := by
  unfold actorStep at hStep
  split at hStep
  case h_1 hActivity => simp [hActivity, Activity.stopped] at hStopped
  case h_2 hActivity => simp [hActivity, Activity.stopped] at hStopped
  case h_3 =>
    split at hStep
    case isTrue => exact (Option.some.inj hStep).symm
    case isFalse => cases hStep
  case h_4 => cases hStep

theorem Inv.actorStep (hInv : s.Inv) (hStep : s.actorStep event = some s') : s'.Inv := by
  cases hStopped : s.activity.stopped with
  | false => exact hInv.actorMove (actorStep_move hStep) hStopped
  | true =>
    rw [actorStep_stopped hStep hStopped]
    exact ⟨⟨hInv.recorded.accepted, hInv.recorded.delivered⟩,
      fun h => absurd h.symm Bool.false_ne_true⟩

/-! ## The callers -/

theorem acceptWrite_inv (hInv : s.Inv) (hAccepting : s.accepting = true) (bytes : Bytes) :
  (s.acceptWrite bytes).Inv := by
  have hAccepted : userWrites s.runner.enqueued ++ nonempty (s.dataQueue ++ [bytes]) =
      nonempty (s.accepted ++ [bytes]) := by
    rw [nonempty_append, nonempty_append, ← List.append_assoc, hInv.recorded.accepted]
  refine ⟨⟨hAccepted, hInv.recorded.delivered⟩, fun hGoing => ?_⟩
  have hWorking := hInv.working hGoing
  obtain ⟨hRunning, hNone⟩ := hWorking.status.gate hAccepting
  have hNotQuiet : s.runner.state ≠ .quiesced := fun hState => by
    rw [view, hState] at hRunning
    cases hRunning
  have hNotBegun : s.activity.drained = false := by
    cases hActivity : s.activity with
    | beginning id stage =>
      refine absurd ?_ (hNone id)
      rw [view, handoffs, hActivity]
      exact List.mem_cons_self
    | looping stage => rfl
    | exiting => rfl
    | gone => rfl
  exact
    { flow := hWorking.flow
      state := hWorking.state
      quietQueue := fun hState => absurd hState hNotQuiet
      quietWrites := hWorking.quietWrites
      drained := fun hDrained => absurd (hNotBegun.symm.trans hDrained) Bool.false_ne_true
      fresh := hWorking.fresh
      status := hWorking.status }

theorem tryWriteUserInput_inv (hInv : s.Inv) (bytes : Bytes) : (s.tryWriteUserInput bytes).Inv := by
  unfold tryWriteUserInput
  split
  case isTrue => exact hInv
  case isFalse hAccepting =>
    split
    case isTrue => exact hInv
    case isFalse =>
      split
      case isTrue => exact acceptWrite_inv hInv (by simpa using hAccepting) bytes
      case isFalse => exact hInv

theorem Inv.setShared (hInv : s.Inv) (reserved : Nat) (controls : SharedPtyControls) :
  Inv { s with reserved, controls } :=
  ⟨⟨hInv.recorded.accepted, hInv.recorded.delivered⟩, fun hGoing =>
    { hInv.working hGoing with status := (hInv.working hGoing).status }⟩

theorem sendReserved_inv {bytes : Bytes} (hInv : s.Inv) (hStep : s.sendReserved bytes = some s') :
  s'.Inv := by
  have hLess := hInv.setShared (s.reserved - 1) s.controls
  simp only [sendReserved] at hStep
  split at hStep
  case isTrue => cases hStep
  case isFalse =>
    split at hStep
    case isTrue =>
      cases hStep
      exact hLess
    case isFalse hAccepting =>
      cases hStep
      exact acceptWrite_inv hLess (by simpa using hAccepting) bytes

theorem handoffs_send (command : PtyIoControlCommand) :
  handoffs { s with controlQueue := s.controlQueue ++ [command] } =
    if closing s.controlQueue then s.handoffs else s.handoffs ++ pendingHandoffs [command] := by
  rw [handoffs, pendingHandoffs_append, handoffs]
  split
  · rfl
  · rw [List.append_assoc]

theorem sendControl_inv (hInv : s.Inv) (hNone : pendingHandoffs [command] = [])
  (hOpen : command.closes = false) :
  (s.sendControl command).Inv := by
  unfold sendControl
  split
  case isTrue => exact hInv
  case isFalse =>
    refine ⟨⟨hInv.recorded.accepted, hInv.recorded.delivered⟩, fun hGoing => ?_⟩
    have hWorking := hInv.working hGoing
    have hView : view { s with controlQueue := s.controlQueue ++ [command] } = s.view := by
      simp only [view, handoffs_send, hNone, List.append_nil, ite_self, closing_append, hOpen,
        Bool.or_false]
    exact { hWorking with status := hView ▸ hWorking.status }

theorem closeWith_inv (hInv : s.Inv) (hCloses : command.closes = true) :
  (s.closeWith command).Inv := by
  unfold closeWith sendControl
  split
  case isTrue hGone =>
    have hGone : s.activity = .gone := hGone
    refine ⟨⟨hInv.recorded.accepted, hInv.recorded.delivered⟩, fun hGoing => ?_⟩
    rw [hGone] at hGoing
    cases hGoing
  case isFalse =>
    refine ⟨⟨hInv.recorded.accepted, hInv.recorded.delivered⟩, fun hGoing => ?_⟩
    have hWorking := hInv.working hGoing
    have hNone : pendingHandoffs [command] = [] := by
      cases command <;> first | rfl | cases hCloses
    have hView : view { s with
        accepting := false, controlQueue := s.controlQueue ++ [command] } =
          { s.view with accepting := false, closing := true } := by
      have hHandoffs := handoffs_send (s := { s with accepting := false }) command
      rw [hNone, List.append_nil, ite_self] at hHandoffs
      simp only [view, closing_append, hCloses, Bool.or_true]
      rw [hHandoffs]
      rfl
    exact { hWorking with status := hView ▸ hWorking.status.close }

/-- A handoff call that is the only one sends its command. -/
theorem startCall_working {operation : HandoffOperation} {command : Nat → PtyIoControlCommand}
  (hWorking : s.Working) (calls : List HandoffCall) (hCalls : calls = []) (accepting : Bool)
  (hOpen : (command s.nextCall).closes = false) (hStatus : HandoffStatus
    { s.view with
      calls := [{ id := s.nextCall, operation, reply := none }]
      handoffs :=
        if s.view.closing then s.view.handoffs
        else s.view.handoffs ++ pendingHandoffs [command s.nextCall]
      accepting
      lastHandoff := none }) :
  ({ s with calls, accepting }.startCall operation command).Working where
  flow := hWorking.flow
  state := hWorking.state
  quietQueue := hWorking.quietQueue
  quietWrites := hWorking.quietWrites
  drained := hWorking.drained
  fresh := by
    intro call hMem
    rw [startCall, hCalls, List.nil_append] at hMem
    obtain rfl := List.mem_singleton.1 hMem
    exact Nat.lt_succ_self _
  status := by
    have hView : ({ s with calls, accepting }.startCall operation command).view =
        { s.view with
          calls := [{ id := s.nextCall, operation, reply := none }]
          handoffs :=
            if s.view.closing then s.view.handoffs
            else s.view.handoffs ++ pendingHandoffs [command s.nextCall]
          accepting
          lastHandoff := none } := by
      have hClosing : closing (s.controlQueue ++ [command s.nextCall]) = closing s.controlQueue := by
        rw [closing_append, hOpen, Bool.or_false]
      simp only [view, startCall, hCalls, List.nil_append, hClosing]
      exact congrArg (fun handoffs => HandoffView.mk _ handoffs _ _ _ _)
        (handoffs_send (s := s) (command s.nextCall))
    rw [hView]
    exact hStatus

theorem beginHandoff_inv (hInv : s.Inv) (hCalls : s.calls = []) : s.beginHandoff.Inv := by
  unfold beginHandoff
  split
  case isTrue hGone =>
    refine ⟨⟨hInv.recorded.accepted, hInv.recorded.delivered⟩, fun hGoing => ?_⟩
    replace hGoing : s.activity.stopped = false := hGoing
    rw [hGone] at hGoing
    cases hGoing
  case isFalse =>
    refine ⟨⟨hInv.recorded.accepted, hInv.recorded.delivered⟩, fun hGoing => ?_⟩
    have hWorking := hInv.working hGoing
    exact startCall_working hWorking s.calls hCalls false rfl
      (hWorking.status.beginCall hCalls s.nextCall)

theorem rollbackHandoff_working (hWorking : s.Working) (hGoing : s.activity.stopped = false)
  (calls : List HandoffCall) (hCalls : calls = [])
  (hStale : Stale s.nextCall s.accepting s.handoffs)
  (hAccepting : s.accepting = true → s.runner.state = .running) (afterBegin : Bool) :
  ({ s with calls }.rollbackHandoff afterBegin).Working := by
  have hHere : s.activity ≠ .gone := fun hGone => by
    rw [hGone] at hGoing
    cases hGoing
  rw [rollbackHandoff, if_neg hHere]
  have hStatus := HandoffStatus.rollback (v := s.view) hStale hAccepting afterBegin
  exact startCall_working hWorking calls hCalls s.accepting rfl hStatus

theorem rollbackHandoff_recorded (hRecorded : s.Recorded) (afterBegin : Bool) :
  (s.rollbackHandoff afterBegin).Recorded := by
  unfold rollbackHandoff
  split <;> exact ⟨hRecorded.accepted, hRecorded.delivered⟩

theorem rollbackHandoff_activity (s : System) (afterBegin : Bool) :
  (s.rollbackHandoff afterBegin).activity = s.activity := by
  unfold rollbackHandoff
  split <;> rfl

theorem rollbackHandoff_inv (hInv : s.Inv) (hCalls : s.calls = []) :
  (s.rollbackHandoff false).Inv := by
  refine ⟨rollbackHandoff_recorded hInv.recorded false, fun hGoing => ?_⟩
  rw [rollbackHandoff_activity] at hGoing
  have hWorking := hInv.working hGoing
  have hAccepting : s.accepting = true → s.runner.state = .running := fun h =>
    (hWorking.status.gate h).1
  have hNone : s.handoffs = [] := by
    cases hWorking.status with
    | settled _ hHandoffs => exact hHandoffs
    | _ => simp_all [view]
  exact rollbackHandoff_working hWorking hGoing s.calls hCalls (Or.inl hNone) hAccepting false

theorem endOnlyCall {call only : HandoffCall}
  (hFind : (calls.find? fun call => call.id = id) = some call) (hOnly : calls = [only]) :
  call = only ∧ (calls.filter fun call => call.id ≠ id) = [] := by
  have hMem := List.mem_of_find?_eq_some hFind
  have hId : call.id = id := by simpa using List.find?_some hFind
  rw [hOnly] at hMem
  obtain rfl := List.mem_singleton.1 hMem
  exact ⟨rfl, by simp [hOnly, hId]⟩

/-- The last result of a call that ends without another command. -/
theorem settle_working (hWorking : s.Working) (hCalls : calls = []) (hHandoffs : s.handoffs = [])
  {accepting : Bool} {lastHandoff : Option HandoffResult}
  (hState : s.runner.state = .running ∧ accepting = true ∨
    s.runner.state = .quiesced ∧ accepting = false)
  (hBegan : lastHandoff = some .began → s.runner.state = .quiesced)
  (hEnded : lastHandoff = some .beginFailed ∨ lastHandoff = some .rolledBack →
    s.runner.state = .running) :
  Working { s with calls, accepting, lastHandoff } where
  flow := hWorking.flow
  state := hWorking.state
  quietQueue := hWorking.quietQueue
  quietWrites := hWorking.quietWrites
  drained := hWorking.drained
  fresh := by simp [hCalls]
  status := by
    refine .settled hCalls hHandoffs ?_ hBegan hEnded
    rcases hState with ⟨hState, hAccepting⟩ | ⟨hState, hAccepting⟩
    · exact Or.inl ⟨hState, Or.inl hAccepting⟩
    · exact Or.inr ⟨hState, hAccepting⟩

theorem answered_working (hWorking : s.Working) (hGoing : s.activity.stopped = false)
  (hStep : s.answered id = some s') : s'.Working := by
  obtain ⟨call, hFind, hStep⟩ := Option.bind_eq_some_iff.1 hStep
  obtain ⟨ok, hReply, hStep⟩ := Option.bind_eq_some_iff.1 hStep
  have hCallsView : s.view.calls = s.calls := rfl
  have hUnanswered : ∀ {other operation}, s.calls = [⟨other, operation, none⟩] → False := by
    intro other operation hCalls
    obtain ⟨rfl, -⟩ := endOnlyCall hFind hCalls
    cases hReply
  cases hWorking.status with
  | settled hCalls =>
    rw [← hCallsView, hCalls] at hFind
    cases hFind
  | beginQueued other hCalls => exact (hUnanswered hCalls).elim
  | beginLost other hCalls => exact (hUnanswered hCalls).elim
  | rollbackQueued other afterBegin stale hCalls => exact (hUnanswered hCalls).elim
  | rollbackLost other afterBegin hCalls => exact (hUnanswered hCalls).elim
  | beginDone other ok' hCalls hHandoffs hState hAccepting hLast =>
    obtain ⟨rfl, hEnded⟩ := endOnlyCall hFind hCalls
    obtain rfl := Option.some.inj hReply
    cases ok' with
    | true =>
      obtain rfl := Option.some.inj hStep
      exact settle_working hWorking hEnded hHandoffs (Or.inr ⟨hState rfl, hAccepting⟩)
        (fun _ => hState rfl) (by simp)
    | false =>
      obtain rfl := Option.some.inj hStep
      exact rollbackHandoff_working hWorking hGoing _ hEnded (Or.inl hHandoffs)
        (fun h => absurd (hAccepting.symm.trans h) Bool.false_ne_true) true
  | rollbackDone other afterBegin hCalls hHandoffs hState hLast =>
    obtain ⟨rfl, hEnded⟩ := endOnlyCall hFind hCalls
    obtain rfl := Option.some.inj hReply
    obtain rfl := Option.some.inj hStep
    refine settle_working hWorking hEnded hHandoffs (Or.inl ⟨hState, rfl⟩) ?_ (fun _ => hState)
    cases afterBegin <;> intro h <;> cases h

theorem timesOut_working (hWorking : s.Working) (hGoing : s.activity.stopped = false)
  (hStep : s.timesOut id = some s')
  (hBegin : ∀ call ∈ s.calls, call.id = id → call.operation = .begin) : s'.Working := by
  obtain ⟨call, hFind, hStep⟩ := Option.bind_eq_some_iff.1 hStep
  have hCallsView : s.view.calls = s.calls := rfl
  have hOperation : call.operation = .begin :=
    hBegin call (List.mem_of_find?_eq_some hFind) (by simpa using List.find?_some hFind)
  have hNotRollback : ∀ {other afterBegin reply},
      s.calls = [⟨other, .rollback afterBegin, reply⟩] → False := by
    intro other afterBegin reply hCalls
    obtain ⟨rfl, -⟩ := endOnlyCall hFind hCalls
    cases hOperation
  simp only [hOperation] at hStep
  cases hStep
  have hRolls : ∀ {other : Nat} {reply : Option Bool}, s.calls = [⟨other, .begin, reply⟩] →
      s.accepting = false → Stale s.nextCall s.accepting s.handoffs →
      ((s.endCall id).rollbackHandoff true).Working := by
    intro other reply hCalls hAccepting hStale
    obtain ⟨-, hEnded⟩ := endOnlyCall hFind hCalls
    exact rollbackHandoff_working hWorking hGoing _ hEnded hStale
      (fun h => absurd (hAccepting.symm.trans h) Bool.false_ne_true) true
  cases hWorking.status with
  | settled hCalls =>
    rw [← hCallsView, hCalls] at hFind
    cases hFind
  | beginQueued other hCalls hHandoffs hAccepting =>
    have hOther : other ≠ s.nextCall := by
      have hLess := hWorking.fresh _ (by rw [← hCallsView, hCalls]; exact List.mem_cons_self)
      exact Nat.ne_of_lt hLess
    exact hRolls hCalls hAccepting (Or.inr ⟨hAccepting, other, hOther, hHandoffs⟩)
  | beginLost other hCalls hHandoffs hClosing hAccepting =>
    exact hRolls hCalls hAccepting (Or.inl hHandoffs)
  | beginDone other ok hCalls hHandoffs hState hAccepting =>
    exact hRolls hCalls hAccepting (Or.inl hHandoffs)
  | rollbackQueued other afterBegin stale hCalls => exact (hNotRollback hCalls).elim
  | rollbackLost other afterBegin hCalls => exact (hNotRollback hCalls).elim
  | rollbackDone other afterBegin hCalls => exact (hNotRollback hCalls).elim

theorem answered_recorded (hRecorded : s.Recorded) (hStep : s.answered id = some s') :
  s'.Recorded ∧ s'.activity = s.activity := by
  obtain ⟨call, -, hStep⟩ := Option.bind_eq_some_iff.1 hStep
  obtain ⟨ok, -, hStep⟩ := Option.bind_eq_some_iff.1 hStep
  obtain ⟨hAccepted, hDelivered⟩ := hRecorded
  have hEnded : (s.endCall id).Recorded := ⟨hAccepted, hDelivered⟩
  split at hStep
  case h_1 =>
    cases hStep
    exact ⟨⟨hAccepted, hDelivered⟩, rfl⟩
  case h_2 =>
    cases hStep
    exact ⟨rollbackHandoff_recorded hEnded true, rollbackHandoff_activity _ true⟩
  case h_3 =>
    cases hStep
    exact ⟨⟨hAccepted, hDelivered⟩, rfl⟩
  case h_4 =>
    cases hStep
    exact ⟨⟨hAccepted, hDelivered⟩, rfl⟩

theorem timesOut_recorded (hRecorded : s.Recorded) (hStep : s.timesOut id = some s') :
  s'.Recorded ∧ s'.activity = s.activity := by
  obtain ⟨call, -, hStep⟩ := Option.bind_eq_some_iff.1 hStep
  obtain ⟨hAccepted, hDelivered⟩ := hRecorded
  have hEnded : (s.endCall id).Recorded := ⟨hAccepted, hDelivered⟩
  split at hStep
  case h_1 =>
    cases hStep
    exact ⟨rollbackHandoff_recorded hEnded true, rollbackHandoff_activity _ true⟩
  case h_2 =>
    cases hStep
    exact ⟨⟨hAccepted, hDelivered⟩, rfl⟩

end System

/-- The condition: handoff calls follow one another, none begins a handoff that
another holds, and a rollback is given up only when the actor has left. -/
def Orderly (s : System) : Label → Prop
  | .beginHandoff => s.calls = [] ∧ s.lastHandoff ≠ some .began
  | .rollbackHandoff => s.calls = []
  | .timesOut id => s.activity.stopped = false →
      ∀ call ∈ s.calls, call.id = id → call.operation = .begin
  | _ => True

namespace System

/-- Every orderly step keeps the invariant. -/
theorem Inv.step {s s' : System} {label : Label} (hInv : s.Inv)
  (hStep : Pty.step s label = some s') (hOrderly : Orderly s label) : s'.Inv := by
  cases label with
  | tryWriteUserInput bytes =>
    cases hStep
    exact tryWriteUserInput_inv hInv bytes
  | reserve =>
    simp only [Pty.step, reserve] at hStep
    split at hStep
    case isFalse => cases hStep
    case isTrue =>
      cases hStep
      exact hInv.setShared _ _
  | sendReserved bytes => exact sendReserved_inv hInv hStep
  | writeTerminalResponse response =>
    cases hStep
    unfold writeTerminalResponse
    split
    · exact hInv
    split
    · exact hInv
    · exact hInv.setShared _ _
  | resize size terminalResponses =>
    cases hStep
    exact hInv.setShared _ _
  | nudgeChildRedrawAfterHandoff size =>
    cases hStep
    exact hInv.setShared _ _
  | duplicateForHandoff =>
    cases hStep
    exact sendControl_inv hInv rfl rfl
  | foregroundProcessGroupId =>
    cases hStep
    exact sendControl_inv hInv rfl rfl
  | beginHandoff =>
    cases hStep
    exact beginHandoff_inv hInv hOrderly.1
  | rollbackHandoff =>
    cases hStep
    exact rollbackHandoff_inv hInv hOrderly
  | answered id =>
    obtain ⟨hRecorded, hActivity⟩ := answered_recorded hInv.recorded hStep
    refine ⟨hRecorded, fun hGoing => ?_⟩
    rw [hActivity] at hGoing
    exact answered_working (hInv.working hGoing) hGoing hStep
  | timesOut id =>
    obtain ⟨hRecorded, hActivity⟩ := timesOut_recorded hInv.recorded hStep
    refine ⟨hRecorded, fun hGoing => ?_⟩
    rw [hActivity] at hGoing
    exact timesOut_working (hInv.working hGoing) hGoing hStep (hOrderly hGoing)
  | releaseAfterCommit =>
    cases hStep
    exact closeWith_inv hInv rfl
  | shutdown =>
    cases hStep
    exact closeWith_inv hInv rfl
  | actor event => exact hInv.actorStep hStep

/-- A freshly spawned actor. -/
theorem inv_spawned (initiallyQuiesced : Bool) : (System.spawned initiallyQuiesced).Inv := by
  refine ⟨⟨rfl, fun _ => List.nil_prefix⟩, fun _ => ?_⟩
  have hStatus : HandoffStatus (System.spawned initiallyQuiesced).view := by
    cases initiallyQuiesced with
    | false =>
      exact .settled rfl rfl (Or.inl ⟨rfl, Or.inl rfl⟩) (by simp [view, spawned])
        (by simp [view, spawned])
    | true =>
      exact .settled rfl rfl (Or.inr ⟨rfl, rfl⟩) (by simp [view, spawned])
        (by simp [view, spawned])
  exact
    { flow := ⟨fun _ => rfl, by simp [spawned], fun _ => rfl, by simp [spawned]⟩
      state := by cases initiallyQuiesced <;> decide
      quietQueue := fun _ => rfl
      quietWrites := fun _ => by simp [spawned]
      drained := fun _ => rfl
      fresh := by simp [spawned]
      status := hStatus }

end System

end Pty
