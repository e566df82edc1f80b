import VimeflowTerminal.Pty.ActorFlow

/-! Where a handoff call stands between its caller, the control queue and the
actor, for callers that make one handoff call at a time and hear from the
actor before they give up on a rollback. -/

namespace Pty

open PtyIoControlCommand

/-- The handoff commands the actor still comes to: it leaves at the first
command to release or to shut down. -/
def pendingHandoffs : List PtyIoControlCommand → List PtyIoControlCommand
  | [] => []
  | .beginHandoff id :: rest => .beginHandoff id :: pendingHandoffs rest
  | .rollbackHandoff id :: rest => .rollbackHandoff id :: pendingHandoffs rest
  | .releaseAfterCommit :: _ => []
  | .shutdown :: _ => []
  | .duplicateForHandoff :: rest => pendingHandoffs rest
  | .foregroundProcessGroup :: rest => pendingHandoffs rest

def PtyIoControlCommand.closes : PtyIoControlCommand → Bool
  | .releaseAfterCommit => true
  | .shutdown => true
  | _ => false

/-- The queue holds a command that ends the actor. -/
def closing (queue : List PtyIoControlCommand) : Bool := queue.any closes

@[simp] theorem closing_cons (command : PtyIoControlCommand) (rest : List PtyIoControlCommand) :
  closing (command :: rest) = (command.closes || closing rest) :=
  rfl

theorem pendingHandoffs_append (queue : List PtyIoControlCommand) (command : PtyIoControlCommand) :
  pendingHandoffs (queue ++ [command]) =
    if closing queue then pendingHandoffs queue
    else pendingHandoffs queue ++ pendingHandoffs [command] := by
  induction queue with
  | nil => rfl
  | cons first rest ih =>
    rw [List.cons_append]
    by_cases hClosing : closing rest = true
    · rw [if_pos hClosing] at ih
      cases first <;> simp [pendingHandoffs, closes, hClosing, ih]
    · rw [if_neg hClosing] at ih
      cases first <;> simp [pendingHandoffs, closes, hClosing, ih]

@[simp] theorem closing_append (queue : List PtyIoControlCommand) (command : PtyIoControlCommand) :
  closing (queue ++ [command]) = (closing queue || command.closes) := by
  simp [closing]

/-- What the callers and the actor know of the handoff. -/
structure HandoffView where
  calls : List HandoffCall
  handoffs : List PtyIoControlCommand
  closing : Bool
  state : ActorState
  accepting : Bool
  lastHandoff : Option HandoffResult

/-- A handoff step whose caller has gone on to its rollback. -/
def Stale (id : Nat) (accepting : Bool) (stale : List PtyIoControlCommand) : Prop :=
  stale = [] ∨ accepting = false ∧ ∃ begun, begun ≠ id ∧ stale = [.beginHandoff begun]

/-- Where the one handoff call stands. -/
inductive HandoffStatus (v : HandoffView) : Prop where
  | settled (hCalls : v.calls = []) (hHandoffs : v.handoffs = [])
      (hState : v.state = .running ∧ (v.accepting = true ∨ v.closing = true) ∨
        v.state = .quiesced ∧ v.accepting = false)
      (hBegan : v.lastHandoff = some .began → v.state = .quiesced)
      (hEnded : v.lastHandoff = some .beginFailed ∨ v.lastHandoff = some .rolledBack →
        v.state = .running)
  | beginQueued (id : Nat) (hCalls : v.calls = [{ id, operation := .begin, reply := none }])
      (hHandoffs : v.handoffs = [.beginHandoff id]) (hAccepting : v.accepting = false)
      (hLast : v.lastHandoff = none)
  | beginLost (id : Nat) (hCalls : v.calls = [{ id, operation := .begin, reply := none }])
      (hHandoffs : v.handoffs = []) (hClosing : v.closing = true) (hAccepting : v.accepting = false)
      (hLast : v.lastHandoff = none)
  | beginDone (id : Nat) (ok : Bool)
      (hCalls : v.calls = [{ id, operation := .begin, reply := some ok }])
      (hHandoffs : v.handoffs = []) (hState : ok = true → v.state = .quiesced)
      (hAccepting : v.accepting = false) (hLast : v.lastHandoff = none)
  | rollbackQueued (id : Nat) (afterBegin : Bool) (stale : List PtyIoControlCommand)
      (hCalls : v.calls = [{ id, operation := .rollback afterBegin, reply := none }])
      (hHandoffs : v.handoffs = stale ++ [.rollbackHandoff id]) (hStale : Stale id v.accepting stale)
      (hAccepting : v.accepting = true → v.state = .running) (hLast : v.lastHandoff = none)
  | rollbackLost (id : Nat) (afterBegin : Bool)
      (hCalls : v.calls = [{ id, operation := .rollback afterBegin, reply := none }])
      (hStale : Stale id v.accepting v.handoffs) (hClosing : v.closing = true)
      (hAccepting : v.accepting = true → v.state = .running) (hLast : v.lastHandoff = none)
  | rollbackDone (id : Nat) (afterBegin : Bool)
      (hCalls : v.calls = [{ id, operation := .rollback afterBegin, reply := some true }])
      (hHandoffs : v.handoffs = []) (hState : v.state = .running) (hLast : v.lastHandoff = none)

/-- The answer of the actor on a reply channel. -/
def answerCalls (calls : List HandoffCall) (id : Nat) (ok : Bool) : List HandoffCall :=
  calls.map fun call => if call.id = id then { call with reply := some ok } else call

namespace HandoffStatus

variable {v : HandoffView}

section

variable (h : HandoffStatus v)
include h

/-- While input is accepted the actor runs and no handoff step is ahead. -/
theorem gate (hAccepting : v.accepting = true) :
  v.state = .running ∧ ∀ id, .beginHandoff id ∉ v.handoffs := by
  have hStaleNone : ∀ {id stale}, Stale id v.accepting stale → stale = [] := by
    intro id stale hStale
    rcases hStale with hNil | ⟨hNot, _⟩
    · exact hNil
    · rw [hAccepting] at hNot
      cases hNot
  cases h with
  | settled hCalls hHandoffs hState =>
    refine ⟨?_, by simp [hHandoffs]⟩
    rcases hState with ⟨hState, _⟩ | ⟨_, hNot⟩
    · exact hState
    · rw [hAccepting] at hNot
      cases hNot
  | rollbackQueued id afterBegin stale hCalls hHandoffs hStale hRunning =>
    exact ⟨hRunning hAccepting, by simp [hHandoffs, hStaleNone hStale]⟩
  | rollbackLost id afterBegin hCalls hStale hClosing hRunning =>
    exact ⟨hRunning hAccepting, by simp [hStaleNone hStale]⟩
  | rollbackDone id afterBegin hCalls hHandoffs hState => exact ⟨hState, by simp [hHandoffs]⟩
  | beginQueued id hCalls hHandoffs hNot =>
    rw [hAccepting] at hNot
    cases hNot
  | beginLost id hCalls hHandoffs hClosing hNot =>
    rw [hAccepting] at hNot
    cases hNot
  | beginDone id ok hCalls hHandoffs hState hNot =>
    rw [hAccepting] at hNot
    cases hNot

/-- The actor ends its handoff step. -/
theorem answerBegin {id : Nat} {rest : List PtyIoControlCommand}
  (hHandoffs : v.handoffs = .beginHandoff id :: rest) {state : ActorState} (ok : Bool)
  (hState : ok = true → state = .quiesced) :
  HandoffStatus { v with calls := answerCalls v.calls id ok, handoffs := rest, state } := by
  have hNotAccepting : v.accepting = false := by
    cases hCase : v.accepting with
    | false => rfl
    | true => exact absurd (by simp [hHandoffs]) ((h.gate hCase).2 id)
  cases h with
  | settled hCalls hNil => simp [hNil] at hHandoffs
  | beginQueued id' hCalls hOne hAccepting hLast =>
    rw [hOne] at hHandoffs
    obtain ⟨hId, rfl⟩ := List.cons.inj hHandoffs
    obtain rfl := beginHandoff.inj hId
    refine .beginDone id' ok ?_ rfl hState hAccepting hLast
    simp [answerCalls, hCalls]
  | beginLost id' hCalls hNil => simp [hNil] at hHandoffs
  | beginDone id' ok' hCalls hNil => simp [hNil] at hHandoffs
  | rollbackQueued id' afterBegin stale hCalls hQueue hStale hRunning hLast =>
    rcases hStale with rfl | ⟨-, begun, hOther, rfl⟩
    · simp [hQueue] at hHandoffs
    rw [hQueue] at hHandoffs
    obtain ⟨hId, rfl⟩ := List.cons.inj hHandoffs
    obtain rfl := beginHandoff.inj hId
    refine .rollbackQueued id' afterBegin [] ?_ rfl (Or.inl rfl) ?_ hLast
    · simp [answerCalls, hCalls, Ne.symm hOther]
    · intro hAccepting
      exact absurd hAccepting (by simp [hNotAccepting])
  | rollbackLost id' afterBegin hCalls hStale hClosing hRunning hLast =>
    rcases hStale with hNil | ⟨-, begun, hOther, hOne⟩
    · simp [hNil] at hHandoffs
    rw [hOne] at hHandoffs
    obtain ⟨hId, rfl⟩ := List.cons.inj hHandoffs
    obtain rfl := beginHandoff.inj hId
    refine .rollbackLost id' afterBegin ?_ (Or.inl rfl) hClosing ?_ hLast
    · simp [answerCalls, hCalls, Ne.symm hOther]
    · intro hAccepting
      exact absurd hAccepting (by simp [hNotAccepting])
  | rollbackDone id' afterBegin hCalls hNil => simp [hNil] at hHandoffs

/-- The actor takes a rollback. -/
theorem answerRollback {id : Nat} {rest : List PtyIoControlCommand}
  (hHandoffs : v.handoffs = .rollbackHandoff id :: rest) :
  HandoffStatus
    { v with calls := answerCalls v.calls id true, handoffs := rest, state := .running } := by
  cases h with
  | settled hCalls hNil => simp [hNil] at hHandoffs
  | beginQueued id' hCalls hOne => simp [hOne] at hHandoffs
  | beginLost id' hCalls hNil => simp [hNil] at hHandoffs
  | beginDone id' ok' hCalls hNil => simp [hNil] at hHandoffs
  | rollbackQueued id' afterBegin stale hCalls hQueue hStale hRunning hLast =>
    rcases hStale with rfl | ⟨-, begun, hOther, rfl⟩
    · rw [hQueue] at hHandoffs
      obtain ⟨hId, rfl⟩ := List.cons.inj hHandoffs
      obtain rfl := rollbackHandoff.inj hId
      refine .rollbackDone id' afterBegin ?_ rfl rfl hLast
      simp [answerCalls, hCalls]
    · simp [hQueue] at hHandoffs
  | rollbackLost id' afterBegin hCalls hStale =>
    rcases hStale with hNil | ⟨-, begun, hOther, hOne⟩
    · simp [hNil] at hHandoffs
    · simp [hOne] at hHandoffs
  | rollbackDone id' afterBegin hCalls hNil => simp [hNil] at hHandoffs

/-- The gate is closed and the actor told to end. -/
theorem close :
  HandoffStatus { v with accepting := false, closing := true } := by
  have hStaleFalse : ∀ {id stale}, Stale id v.accepting stale → Stale id false stale := by
    intro id stale hStale
    rcases hStale with hNil | ⟨_, hBegun⟩
    · exact Or.inl hNil
    · exact Or.inr ⟨rfl, hBegun⟩
  cases h with
  | settled hCalls hHandoffs hState hBegan hEnded =>
    refine .settled hCalls hHandoffs ?_ hBegan hEnded
    rcases hState with ⟨hState, _⟩ | ⟨hState, _⟩
    · exact Or.inl ⟨hState, Or.inr rfl⟩
    · exact Or.inr ⟨hState, rfl⟩
  | beginQueued id hCalls hHandoffs hAccepting hLast =>
    exact .beginQueued id hCalls hHandoffs rfl hLast
  | beginLost id hCalls hHandoffs hClosing hAccepting hLast =>
    exact .beginLost id hCalls hHandoffs rfl rfl hLast
  | beginDone id ok hCalls hHandoffs hState hAccepting hLast =>
    exact .beginDone id ok hCalls hHandoffs hState rfl hLast
  | rollbackQueued id afterBegin stale hCalls hHandoffs hStale hRunning hLast =>
    exact .rollbackQueued id afterBegin stale hCalls hHandoffs (hStaleFalse hStale) (by simp) hLast
  | rollbackLost id afterBegin hCalls hStale hClosing hRunning hLast =>
    exact .rollbackLost id afterBegin hCalls (hStaleFalse hStale) rfl (by simp) hLast
  | rollbackDone id afterBegin hCalls hHandoffs hState hLast =>
    exact .rollbackDone id afterBegin hCalls hHandoffs hState hLast

/-- A caller begins a handoff. -/
theorem beginCall (hCalls : v.calls = []) (id : Nat) :
  HandoffStatus
    { v with
      calls := [{ id, operation := .begin, reply := none }]
      handoffs := if v.closing then v.handoffs else v.handoffs ++ [.beginHandoff id]
      accepting := false
      lastHandoff := none } := by
  have hNone : v.handoffs = [] := by
    cases h with
    | settled hCalls hHandoffs => exact hHandoffs
    | _ => simp_all
  cases hClosing : v.closing with
  | true => exact .beginLost id rfl (by simp [hNone]) rfl rfl rfl
  | false => exact .beginQueued id rfl (by simp [hNone]) rfl rfl

end

end HandoffStatus

theorem HandoffStatus.settled_of_last {v : HandoffView} {result : HandoffResult}
  (h : HandoffStatus v) (hLast : v.lastHandoff = some result) :
  v.handoffs = [] ∧
    (v.state = .running ∧ (v.accepting = true ∨ v.closing = true) ∨
      v.state = .quiesced ∧ v.accepting = false) ∧
    (result = .began → v.state = .quiesced) ∧
    (result = .beginFailed ∨ result = .rolledBack → v.state = .running) := by
  cases h with
  | settled hCalls hHandoffs hState hBegan hEnded =>
    refine ⟨hHandoffs, hState, fun h => hBegan (h ▸ hLast), fun h => hEnded ?_⟩
    rcases h with rfl | rfl
    · exact Or.inl hLast
    · exact Or.inr hLast
  | _ => simp_all

/-- After a handoff that failed or was taken back the actor runs and takes input. -/
theorem HandoffStatus.resumed_of_last {v : HandoffView} (h : HandoffStatus v)
  (hLast : v.lastHandoff = some .beginFailed ∨ v.lastHandoff = some .rolledBack)
  (hOpen : v.closing = false) : v.state = .running ∧ v.accepting = true := by
  cases h with
  | settled _ _ hState _ hEnded =>
    have hRunning := hEnded hLast
    simp_all
  | _ => simp_all

theorem HandoffStatus.rollback {v : HandoffView} {id : Nat} (hStale : Stale id v.accepting v.handoffs)
  (hAccepting : v.accepting = true → v.state = .running) (afterBegin : Bool) :
  HandoffStatus
    { v with
      calls := [{ id, operation := .rollback afterBegin, reply := none }]
      handoffs := if v.closing then v.handoffs else v.handoffs ++ [.rollbackHandoff id]
      lastHandoff := none } := by
  cases hClosing : v.closing with
  | true => exact .rollbackLost id afterBegin rfl (by simpa using hStale) rfl hAccepting rfl
  | false => exact .rollbackQueued id afterBegin v.handoffs rfl (by simp) hStale hAccepting rfl

end Pty
