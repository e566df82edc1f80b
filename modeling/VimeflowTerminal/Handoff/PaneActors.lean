import VimeflowTerminal.Handoff.Live

/-! What either server knows of the actor of a pane at the points of its handoff,
and that the traffic of the pane leaves it so. -/

namespace Handoff

open Pty (HandoffCall Orderly closing)

/-- The actor reads the pane's output and writes its input. -/
def Unpaused (actor : Pty.System) : Prop :=
  actor.activity.stopped = false ∧ actor.runner.state = .running

/-- No handoff call is in progress. -/
structure Between (actor : Pty.System) : Prop where
  inv : actor.Inv
  calls : actor.calls = []

variable {actor : Pty.System} {label : Pty.Label}

theorem Between.handoffs (h : Between actor) (hGoing : actor.activity.stopped = false) :
  actor.handoffs = [] := by
  have hCalls : actor.view.calls = [] := h.calls
  cases (h.inv.working hGoing).status with
  | settled _ hHandoffs => exact hHandoffs
  | _ => simp_all

/-- Between calls there is only traffic. -/
theorem Between.traffic {after : Pty.System} (h : Between actor)
  (hLabel : isPaneLabel label = true) (hStep : Pty.step actor label = some after) :
  label.isTraffic = true := by
  cases label with
  | answered id =>
    obtain ⟨call, hFind, -⟩ := Option.bind_eq_some_iff.1 hStep
    rw [h.calls] at hFind
    cases hFind
  | timesOut id =>
    obtain ⟨call, hFind, -⟩ := Option.bind_eq_some_iff.1 hStep
    rw [h.calls] at hFind
    cases hFind
  | _ => exact hLabel

theorem orderly_of_traffic (hTraffic : label.isTraffic = true) : Orderly actor label := by
  cases label <;> trivial

theorem Between.step {actor after : Pty.System} {label : Pty.Label} (h : Between actor)
  (hLabel : isPaneLabel label = true) (hStep : Pty.step actor label = some after) :
  Between after ∧ actor.Undisturbed after := by
  have hTraffic := h.traffic hLabel hStep
  have hSame := Pty.System.step_undisturbed hTraffic h.handoffs hStep
  exact ⟨⟨h.inv.step hStep (orderly_of_traffic hTraffic), hSame.calls.trans h.calls⟩, hSame⟩

theorem isPaneLabel_open (hLabel : isPaneLabel label = true) :
  label ≠ .releaseAfterCommit ∧ label ≠ .shutdown := by
  constructor
  · rintro rfl
    cases hLabel
  · rintro rfl
    cases hLabel

/-- The actor can be paused. -/
structure Free (actor : Pty.System) : Prop extends Between actor where
  last : actor.lastHandoff ≠ some .began
  opened : closing actor.controlQueue = false

/-- The actor is paused, and may have been told to end. -/
structure Released (actor : Pty.System) : Prop extends Between actor where
  last : actor.lastHandoff = some .began

/-- The actor is paused. -/
structure Held (actor : Pty.System) : Prop extends Released actor where
  opened : closing actor.controlQueue = false

/-- The source waits for the actor to pause. -/
structure Waiting (actor : Pty.System) : Prop where
  inv : actor.Inv
  opened : closing actor.controlQueue = false

/-- The actor has left, or runs again and takes input. -/
structure Resumed (actor : Pty.System) : Prop extends Between actor where
  last : actor.activity.stopped = true ∨ actor.lastHandoff = some .rolledBack
  opened : closing actor.controlQueue = false

/-- The source waits for the actor to go on. -/
structure RollsBack (actor : Pty.System) : Prop extends Waiting actor where
  call : (∃ id reply, actor.calls = [{ id, operation := .rollback false, reply }]) ∨
    actor.calls = [] ∧
      (actor.activity.stopped = true ∨ actor.lastHandoff = some .rolledBack)

theorem Released.not_unpaused (h : Released actor) : ¬Unpaused actor := by
  rintro ⟨hGoing, hRunning⟩
  obtain ⟨-, -, hState, -⟩ := (h.inv.working hGoing).status.settled_of_last h.last
  have hQuiesced : actor.runner.state = .quiesced := hState rfl
  rw [hRunning] at hQuiesced
  cases hQuiesced

/-- An actor whose last call ended the handoff has left, or runs and takes input. -/
theorem accepts_of_last (hInv : actor.Inv) (hOpened : closing actor.controlQueue = false)
  (hLast : actor.lastHandoff = some .beginFailed ∨ actor.lastHandoff = some .rolledBack) :
  actor.activity.stopped = true ∨ Unpaused actor ∧ actor.accepting = true := by
  cases hStopped : actor.activity.stopped with
  | true => exact Or.inl rfl
  | false =>
    obtain ⟨hRunning, hAccepting⟩ :=
      (hInv.working hStopped).status.resumed_of_last hLast hOpened
    exact Or.inr ⟨⟨hStopped, hRunning⟩, hAccepting⟩

theorem Resumed.accepts (h : Resumed actor) :
  actor.activity.stopped = true ∨ Unpaused actor ∧ actor.accepting = true := by
  rcases h.last with hStopped | hLast
  · exact Or.inl hStopped
  · exact accepts_of_last h.inv h.opened (Or.inr hLast)

section Traffic

variable {actor after : Pty.System} {label : Pty.Label}

theorem Free.step (h : Free actor) (hLabel : isPaneLabel label = true)
  (hStep : Pty.step actor label = some after) : Free after := by
  obtain ⟨hBetween, hSame⟩ := h.toBetween.step hLabel hStep
  exact
    { hBetween with
      last := hSame.lastHandoff ▸ h.last
      opened := Pty.System.step_closing hStep (isPaneLabel_open hLabel) h.opened }

theorem Released.step (h : Released actor) (hLabel : isPaneLabel label = true)
  (hStep : Pty.step actor label = some after) : Released after := by
  obtain ⟨hBetween, hSame⟩ := h.toBetween.step hLabel hStep
  exact { hBetween with last := hSame.lastHandoff.trans h.last }

theorem Held.step (h : Held actor) (hLabel : isPaneLabel label = true)
  (hStep : Pty.step actor label = some after) : Held after :=
  { h.toReleased.step hLabel hStep with
    opened := Pty.System.step_closing hStep (isPaneLabel_open hLabel) h.opened }

theorem Resumed.step (h : Resumed actor) (hLabel : isPaneLabel label = true)
  (hStep : Pty.step actor label = some after) : Resumed after := by
  obtain ⟨hBetween, hSame⟩ := h.toBetween.step hLabel hStep
  exact
    { hBetween with
      last := h.last.imp hSame.stopped fun hLast => hSame.lastHandoff.trans hLast
      opened := Pty.System.step_closing hStep (isPaneLabel_open hLabel) h.opened }

theorem Waiting.step (h : Waiting actor) (hLabel : isPaneLabel label = true)
  (hOrderly : Orderly actor label) (hStep : Pty.step actor label = some after) : Waiting after :=
  ⟨h.inv.step hStep hOrderly,
    Pty.System.step_closing hStep (isPaneLabel_open hLabel) h.opened⟩

theorem RollsBack.step (h : RollsBack actor) (hLabel : isPaneLabel label = true)
  (hOrderly : Orderly actor label) (hStep : Pty.step actor label = some after) :
  RollsBack after := by
  refine ⟨h.toWaiting.step hLabel hOrderly hStep, ?_⟩
  rcases h.call with ⟨id, reply, hCalls⟩ | ⟨hCalls, hLast⟩
  case inr =>
    have hBefore : Resumed actor := ⟨⟨h.inv, hCalls⟩, hLast, h.opened⟩
    have hAfter := hBefore.step hLabel hStep
    exact Or.inr ⟨hAfter.calls, hAfter.last⟩
  case inl =>
    by_cases hTraffic : label.isTraffic = true
    case pos =>
      refine Or.inl ⟨id, ?_⟩
      rcases Pty.System.step_calls hTraffic hStep with hSame | ⟨other, ok, hAnswered⟩
      · exact ⟨reply, hSame.trans hCalls⟩
      by_cases hId : id = other
      · exact ⟨some ok, by rw [hAnswered, hCalls]; simp [Pty.answerCalls, hId]⟩
      · exact ⟨reply, by rw [hAnswered, hCalls]; simp [Pty.answerCalls, hId]⟩
    case neg =>
      cases label with
      | answered other =>
        obtain ⟨call, hFind, hStep⟩ := Option.bind_eq_some_iff.1 hStep
        obtain ⟨ok, hReply, hStep⟩ := Option.bind_eq_some_iff.1 hStep
        obtain ⟨rfl, hEnded⟩ := Pty.System.endOnlyCall hFind hCalls
        obtain rfl : reply = some ok := hReply
        cases ok with
        | true =>
          cases hStep
          exact Or.inr ⟨hEnded, Or.inr rfl⟩
        | false =>
          cases hStep
          refine Or.inr ⟨hEnded, Or.inl ?_⟩
          cases hStopped : actor.activity.stopped with
          | true => exact hStopped
          | false =>
            -- An actor that is still there takes every rollback.
            have hViewCalls : actor.view.calls = actor.calls := rfl
            cases (h.inv.working hStopped).status with
            | _ => simp_all
      | timesOut other =>
        obtain ⟨call, hFind, hStep⟩ := Option.bind_eq_some_iff.1 hStep
        obtain ⟨rfl, hEnded⟩ := Pty.System.endOnlyCall hFind hCalls
        cases hStep
        refine Or.inr ⟨hEnded, Or.inl ?_⟩
        cases hStopped : actor.activity.stopped with
        | true => exact hStopped
        | false =>
          have hId := by simpa using List.find?_some hFind
          have hBegin := hOrderly hStopped _ (List.mem_of_find?_eq_some hFind) hId
          cases hBegin
      | _ => exact absurd hLabel hTraffic

end Traffic

section Commands

variable {actor : Pty.System}

theorem Free.waiting (h : Free actor) : Waiting actor.beginHandoff :=
  ⟨Pty.System.beginHandoff_inv h.inv h.calls, Pty.System.beginHandoff_closing h.opened⟩

theorem Waiting.held (h : Waiting actor) (hCalls : actor.calls = [])
  (hLast : actor.lastHandoff = some .began) : Held actor :=
  ⟨⟨⟨h.inv, hCalls⟩, hLast⟩, h.opened⟩

theorem Held.rollback (h : Held actor) : RollsBack (actor.rollbackHandoff false) := by
  refine ⟨⟨Pty.System.rollbackHandoff_inv h.inv h.calls,
    Pty.System.rollbackHandoff_closing h.opened false⟩, ?_⟩
  unfold Pty.System.rollbackHandoff
  split
  case isTrue hGone => exact Or.inr ⟨h.calls, Or.inl (by rw [hGone]; rfl)⟩
  case isFalse => exact Or.inl ⟨_, _, by rw [Pty.System.startCall, h.calls]; rfl⟩

theorem RollsBack.resumed (h : RollsBack actor) (hCalls : actor.calls = []) : Resumed actor := by
  refine ⟨⟨h.inv, hCalls⟩, ?_, h.opened⟩
  rcases h.call with ⟨id, reply, hOne⟩ | ⟨-, hLast⟩
  · rw [hCalls] at hOne
    cases hOne
  · exact hLast

theorem Released.release (h : Released actor) : Released (actor.closeWith .releaseAfterCommit) := by
  refine ⟨⟨Pty.System.closeWith_inv h.inv rfl, ?_⟩, ?_⟩
  · unfold Pty.System.closeWith Pty.System.sendControl
    split <;> exact h.calls
  · unfold Pty.System.closeWith Pty.System.sendControl
    split <;> exact h.last

end Commands

end Handoff
