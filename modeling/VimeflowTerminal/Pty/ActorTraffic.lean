import VimeflowTerminal.Pty.ActorInvariant

/-! The steps that make no handoff call and do not end the actor: they leave an
actor between calls in the state in which they find it. -/

namespace Pty

/-- Input, controls, queries and the steps of the actor. -/
def Label.isTraffic : Label → Bool
  | .beginHandoff => false
  | .rollbackHandoff => false
  | .answered _ => false
  | .timesOut _ => false
  | .releaseAfterCommit => false
  | .shutdown => false
  | _ => true

namespace System

variable {event : ActorEvent}

theorem rollbackHandoff_runner (s : System) (afterBegin : Bool) :
  (s.rollbackHandoff afterBegin).runner = s.runner := by
  unfold rollbackHandoff
  split <;> rfl

variable {s t : System} {label : Label}

theorem answered_runner {id : Nat} (hStep : s.answered id = some t) : t.runner = s.runner := by
  obtain ⟨call, -, hStep⟩ := Option.bind_eq_some_iff.1 hStep
  obtain ⟨ok, -, hStep⟩ := Option.bind_eq_some_iff.1 hStep
  split at hStep
  case h_2 =>
    cases hStep
    exact rollbackHandoff_runner _ true
  all_goals
    cases hStep
    rfl

theorem timesOut_runner {id : Nat} (hStep : s.timesOut id = some t) : t.runner = s.runner := by
  obtain ⟨call, -, hStep⟩ := Option.bind_eq_some_iff.1 hStep
  split at hStep
  case h_1 =>
    cases hStep
    exact rollbackHandoff_runner _ true
  case h_2 =>
    cases hStep
    rfl

theorem sendControl_runner (s : System) (command : PtyIoControlCommand) :
  (s.sendControl command).runner = s.runner := by
  unfold sendControl
  split <;> rfl

/-- A caller that makes no handoff call queues one control command at most. -/
structure Sends (s t : System) : Prop where
  runner : t.runner = s.runner
  activity : t.activity = s.activity
  calls : t.calls = s.calls
  lastHandoff : t.lastHandoff = s.lastHandoff
  closing : closing s.controlQueue = false → Pty.closing t.controlQueue = false

theorem Sends.refl (s : System) : s.Sends s := ⟨rfl, rfl, rfl, rfl, id⟩

theorem sends_sendControl (s : System) {command : PtyIoControlCommand}
  (hCommand : command.closes = false) : s.Sends (s.sendControl command) := by
  unfold sendControl
  split
  · exact .refl s
  · refine ⟨rfl, rfl, rfl, rfl, fun hOpen => ?_⟩
    rw [closing_append, hOpen, hCommand]
    rfl

theorem step_sends (hStep : Pty.step s label = some t) (hTraffic : label.isTraffic = true)
  (hCaller : ∀ event, label ≠ .actor event) : s.Sends t := by
  cases label with
  | tryWriteUserInput bytes =>
    cases hStep
    unfold tryWriteUserInput
    repeat' split
    all_goals exact ⟨rfl, rfl, rfl, rfl, id⟩
  | reserve =>
    simp only [Pty.step, reserve] at hStep
    split at hStep
    case isTrue =>
      cases hStep
      exact ⟨rfl, rfl, rfl, rfl, id⟩
    case isFalse => cases hStep
  | sendReserved bytes =>
    simp only [Pty.step, sendReserved] at hStep
    split at hStep
    case isTrue => cases hStep
    case isFalse =>
      split at hStep
      all_goals
        cases hStep
        exact ⟨rfl, rfl, rfl, rfl, id⟩
  | writeTerminalResponse response =>
    cases hStep
    unfold writeTerminalResponse
    repeat' split
    all_goals exact ⟨rfl, rfl, rfl, rfl, id⟩
  | resize | nudgeChildRedrawAfterHandoff =>
    cases hStep
    exact ⟨rfl, rfl, rfl, rfl, id⟩
  | duplicateForHandoff | foregroundProcessGroupId =>
    cases hStep
    exact sends_sendControl s rfl
  | actor event => exact absurd rfl (hCaller event)
  | _ => cases hTraffic

/-- The callers do not touch the runner. -/
theorem step_runner (hStep : Pty.step s label = some t) (hCaller : ∀ event, label ≠ .actor event) :
  t.runner = s.runner := by
  cases label with
  | beginHandoff =>
    cases hStep
    unfold beginHandoff
    split <;> rfl
  | rollbackHandoff =>
    cases hStep
    exact rollbackHandoff_runner s false
  | answered id => exact answered_runner hStep
  | timesOut id => exact timesOut_runner hStep
  | releaseAfterCommit | shutdown =>
    cases hStep
    exact sendControl_runner _ _
  | _ => exact (step_sends hStep rfl hCaller).runner

theorem handleControlCommand_queue (s : System) (command : PtyIoControlCommand) :
  (s.handleControlCommand command).controlQueue = s.controlQueue := by
  cases command with
  | rollbackHandoff id =>
    rw [handleControlCommand]
    split <;> rfl
  | _ => rfl

theorem ActorMove.closing (h : s.ActorMove event t) (hOpen : closing s.controlQueue = false) :
  Pty.closing t.controlQueue = false := by
  cases h with
  | works h =>
    rw [h.controlQueue]
    exact hOpen
  | takesCommand hActivity hQueue =>
    rw [hQueue, closing_cons, Bool.or_eq_false_iff] at hOpen
    rw [handleControlCommand_queue]
    exact hOpen.2
  | failsBegin _ h =>
    rw [finishBegin, reply, h.controlQueue]
    exact hOpen
  | leaves _ h =>
    rw [h.controlQueue]
    exact hOpen
  | _ => exact hOpen

section

variable (hOpen : closing s.controlQueue = false)
include hOpen

theorem rollbackHandoff_closing (afterBegin : Bool) :
  closing (s.rollbackHandoff afterBegin).controlQueue = false := by
  unfold rollbackHandoff
  split
  · exact hOpen
  · rw [startCall, closing_append, hOpen]
    rfl

theorem beginHandoff_closing :
  closing s.beginHandoff.controlQueue = false := by
  unfold beginHandoff
  split
  · exact hOpen
  · rw [startCall, closing_append, hOpen]
    rfl

end

/-- Only its owner tells an actor to end. -/
theorem step_closing (hStep : Pty.step s label = some t)
  (hLabel : label ≠ .releaseAfterCommit ∧ label ≠ .shutdown)
  (hOpen : closing s.controlQueue = false) : closing t.controlQueue = false := by
  cases label with
  | releaseAfterCommit => exact absurd rfl hLabel.1
  | shutdown => exact absurd rfl hLabel.2
  | beginHandoff =>
    cases hStep
    exact beginHandoff_closing hOpen
  | rollbackHandoff =>
    cases hStep
    exact rollbackHandoff_closing hOpen false
  | answered id =>
    obtain ⟨call, -, hStep⟩ := Option.bind_eq_some_iff.1 hStep
    obtain ⟨ok, -, hStep⟩ := Option.bind_eq_some_iff.1 hStep
    split at hStep
    case h_2 =>
      cases hStep
      exact rollbackHandoff_closing (s := s.endCall id) hOpen true
    all_goals
      cases hStep
      exact hOpen
  | timesOut id =>
    obtain ⟨call, -, hStep⟩ := Option.bind_eq_some_iff.1 hStep
    split at hStep
    case h_1 =>
      cases hStep
      exact rollbackHandoff_closing (s := s.endCall id) hOpen true
    case h_2 =>
      cases hStep
      exact hOpen
  | actor event =>
    cases hStopped : s.activity.stopped with
    | false => exact (actorStep_move hStep).closing hOpen
    | true =>
      rw [actorStep_stopped hStep hStopped]
      exact hOpen
  | _ => exact (step_sends hStep rfl (by simp)).closing hOpen

theorem handleControlCommand_calls (s : System) (command : PtyIoControlCommand) :
  (s.handleControlCommand command).calls = s.calls ∨
    ∃ id ok, (s.handleControlCommand command).calls = answerCalls s.calls id ok := by
  cases command with
  | rollbackHandoff id =>
    rw [handleControlCommand]
    split
    · exact Or.inr ⟨id, false, rfl⟩
    · exact Or.inr ⟨id, true, rfl⟩
  | _ => exact Or.inl rfl

theorem ActorMove.calls (h : s.ActorMove event t) :
  t.calls = s.calls ∨ ∃ id ok, t.calls = answerCalls s.calls id ok := by
  cases h with
  | works h => exact Or.inl h.calls
  | takesCommand => exact handleControlCommand_calls _ _
  | @failsBegin t id _ h =>
    refine Or.inr ⟨id, false, ?_⟩
    rw [← h.calls]
    rfl
  | @quiesces id => exact Or.inr ⟨id, true, rfl⟩
  | leaves _ h => exact Or.inl h.calls
  | _ => exact Or.inl rfl

/-- Traffic only puts answers on reply channels. -/
theorem step_calls (hTraffic : label.isTraffic = true) (hStep : Pty.step s label = some t) :
  t.calls = s.calls ∨ ∃ id ok, t.calls = answerCalls s.calls id ok := by
  cases label with
  | actor event =>
    cases hStopped : s.activity.stopped with
    | false => exact (actorStep_move hStep).calls
    | true =>
      rw [actorStep_stopped hStep hStopped]
      exact Or.inl rfl
  | _ => exact Or.inl (step_sends hStep hTraffic (by simp)).calls

/-- What traffic leaves as it is. -/
structure Undisturbed (s t : System) : Prop where
  calls : t.calls = s.calls
  lastHandoff : t.lastHandoff = s.lastHandoff
  stopped : s.activity.stopped = true → t.activity.stopped = true
  state : t.activity.stopped = false → t.runner.state = s.runner.state

theorem Undisturbed.refl (s : System) : s.Undisturbed s := ⟨rfl, rfl, id, fun _ => rfl⟩

theorem Works.undisturbed {s t : System} (h : s.Works event t)
  (hGoing : s.activity.stopped = false) : s.Undisturbed t where
  calls := h.calls
  lastHandoff := h.lastHandoff
  stopped := fun hStopped => absurd (hGoing.symm.trans hStopped) Bool.false_ne_true
  state := fun _ => h.state

theorem takesCommand_undisturbed {command : PtyIoControlCommand} {rest : List PtyIoControlCommand}
  (hNone : pendingHandoffs (command :: rest) = []) :
  s.Undisturbed ({ s with controlQueue := rest }.handleControlCommand command) := by
  cases command with
  | beginHandoff id => cases hNone
  | rollbackHandoff id => cases hNone
  | duplicateForHandoff => exact ⟨rfl, rfl, id, fun _ => rfl⟩
  | foregroundProcessGroup => exact ⟨rfl, rfl, id, fun _ => rfl⟩
  | releaseAfterCommit => exact ⟨rfl, rfl, fun _ => rfl, fun h => absurd h.symm Bool.false_ne_true⟩
  | shutdown => exact ⟨rfl, rfl, fun _ => rfl, fun h => absurd h.symm Bool.false_ne_true⟩

theorem actorMove_undisturbed (hMove : s.ActorMove event t) (hGoing : s.activity.stopped = false)
  (hHandoffs : s.handoffs = []) : s.Undisturbed t := by
  obtain ⟨hBegun, hPending⟩ := List.append_eq_nil_iff.1 hHandoffs
  have hNotBegun : s.activity.begun = none := by
    cases hCase : s.activity.begun with
    | none => rfl
    | some id => simp [hCase] at hBegun
  cases hMove with
  | works h => exact h.undisturbed hGoing
  | takesCommand hActivity hQueue =>
    rw [hQueue] at hPending
    exact takesCommand_undisturbed hPending
  | takesData hActivity hQueue =>
    refine ⟨rfl, rfl, id, fun _ => ?_⟩
    unfold PtyIoActorRunner.handleDataCommand
    split
    · exact (PtyIoActorRunner.enqueueWrite_enqueues _ _).state
    · rfl
  | drainsData hActivity =>
    rw [hActivity] at hNotBegun
    cases hNotBegun
  | failsBegin hSome =>
    rw [hNotBegun] at hSome
    cases hSome
  | quiesces hActivity =>
    rw [hActivity] at hNotBegun
    cases hNotBegun
  | leaves hActivity h =>
    have hSame := h.undisturbed hGoing
    exact ⟨hSame.calls, hSame.lastHandoff, fun _ => rfl,
      fun h => absurd h.symm Bool.false_ne_true⟩
  | drops => exact ⟨rfl, rfl, fun _ => rfl, fun _ => rfl⟩

theorem Sends.undisturbed (h : s.Sends t) : s.Undisturbed t where
  calls := h.calls
  lastHandoff := h.lastHandoff
  stopped := fun hStopped => h.activity ▸ hStopped
  state := fun _ => by rw [h.runner]

/-- Traffic leaves an actor between calls in its state. -/
theorem step_undisturbed (hTraffic : label.isTraffic = true)
  (hHandoffs : s.activity.stopped = false → s.handoffs = []) (hStep : Pty.step s label = some t) :
  s.Undisturbed t := by
  cases label with
  | actor event =>
    cases hStopped : s.activity.stopped with
    | false => exact actorMove_undisturbed (actorStep_move hStep) hStopped (hHandoffs hStopped)
    | true =>
      rw [actorStep_stopped hStep hStopped]
      exact ⟨rfl, rfl, fun _ => rfl, fun h => absurd h.symm Bool.false_ne_true⟩
  | _ => exact (step_sends hStep hTraffic (by simp)).undisturbed

end System

end Pty
