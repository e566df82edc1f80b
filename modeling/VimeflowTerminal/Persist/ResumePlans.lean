import VimeflowTerminal.Persist.RestoredSession
import VimeflowTerminal.Terminal.Bookkeeping

/-! Which of the restored panes resume the agent session they were saved with. A
session is reserved by the first pane that comes back with it. -/

namespace Terminal

open Detect AgentResume

namespace TerminalState

/-! ## Terminals keep their pending plans -/

theorem ignores_plan : IgnoresArbitration pendingAgentResumePlan :=
  ⟨⟨fun _ _ => rfl, fun _ _ => rfl⟩, fun _ _ _ => rfl, fun _ _ _ _ _ _ => rfl⟩

/-- A detection leaves the pending plan alone. -/
theorem detection_plan (s : TerminalState) (detection : ScreenDetection) (now clock : Instant) :
  (s.setDetectedStateWithScreenSignalsAt detection now clock).1.pendingAgentResumePlan =
    s.pendingAgentResumePlan := by
  have hFinish : ∀ (t : TerminalState) (previous : Previous) (changed released : Bool),
      (t.finish previous now changed released).1.pendingAgentResumePlan =
        t.pendingAgentResumePlan := by
    intro t previous changed released
    obtain ⟨_, _, hEq⟩ := t.recomputeEffectiveState_eq previous now
    rw [finish_fst, hEq]
  unfold setDetectedStateWithScreenSignalsAt
  split
  · rw [hFinish]
    split <;> rfl
  split
  · exact hFinish ..
  · rw [hFinish]
    exact ignores_plan.applied s (fun _ _ _ _ => rfl) (fun _ _ => rfl) (fun _ _ _ _ _ => rfl) ..

end TerminalState

end Terminal

namespace Persist

open Layout Workspaces Terminal AgentResume

theorem withSavedIdentity_plan (terminal : TerminalState) (label : Option String)
  (session : Option PersistedAgentSession) :
  (withSavedIdentity terminal label session).pendingAgentResumePlan =
    terminal.pendingAgentResumePlan := by
  have hLabel : (label.elim terminal terminal.setManualLabel).pendingAgentResumePlan =
      terminal.pendingAgentResumePlan := by
    cases label with
    | none => rfl
    | some label => simp only [Option.elim_some, TerminalState.setManualLabel]
  cases session with
  | none => exact hLabel
  | some session => exact hLabel

theorem withInitialRestoreAgent_plan (terminal : TerminalState) (plan : Option AgentResumePlan)
  (now : Instant) : (withInitialRestoreAgent terminal plan now).pendingAgentResumePlan =
    terminal.pendingAgentResumePlan := by
  unfold withInitialRestoreAgent
  split
  next => rfl
  next => exact terminal.detection_plan _ now now

theorem deferredTerminal_plan (saved : Option PaneSnapshot)
  (session : Option PersistedAgentSession) (plan : AgentResumePlan) (now : Instant) :
  (deferredTerminal saved session plan now).pendingAgentResumePlan = some plan := by
  unfold deferredTerminal
  rw [withInitialRestoreAgent_plan]
  split
  · exact withSavedIdentity_plan _ _ _
  · exact withSavedIdentity_plan _ _ _
  · exact withSavedIdentity_plan _ _ _

/-- A pane that has a runtime carries no plan. -/
theorem startedTerminal_plan (saved : Option PaneSnapshot)
  (session : Option PersistedAgentSession) (plan : Option AgentResumePlan) (wasImported : Bool)
  (now : Instant) :
  (startedTerminal saved session plan wasImported now).pendingAgentResumePlan = none := by
  unfold startedTerminal
  rw [withInitialRestoreAgent_plan]
  split <;> cases wasImported <;> refine (withSavedIdentity_plan _ _ _).trans ?_ <;> split <;> rfl

theorem startedTerminal_session (saved : Option PaneSnapshot) (wasImported : Bool) (now : Instant) :
  (startedTerminal saved none none wasImported now).persistedAgentSession = none := by
  unfold startedTerminal
  cases saved.bind (·.launchArgv) <;> cases saved.bind (·.label) <;>
    cases saved.bind (·.agentName) <;> cases savedManagedAgent saved <;> cases wasImported <;> rfl

/-! ## The panes of a session, one after the other -/

/-- The loops over workspaces, tabs and panes as one sequence of panes. Between two panes neither
a session is reserved nor a terminal id drawn. -/
inductive PaneRun (ctx : RestoreContext) (start : RestoreState) :
  List PaneOutcome → RestoreState → Prop where
  | zero : PaneRun ctx start [] start
  | idle {outcomes : List PaneOutcome} {st : RestoreState} (prior : PaneRun ctx start outcomes st)
      (st' : RestoreState) (hReserved : st'.resumedAgentSessions = st.resumedAgentSessions)
      (hTerminals : st'.ids.nextTerminalId = st.ids.nextTerminalId) :
      PaneRun ctx start outcomes st'
  | pane {outcomes : List PaneOutcome} {st st' : RestoreState}
      (prior : PaneRun ctx start outcomes st) {snap : TabSnapshot} {reverse : FinMap PaneId Nat}
      {id : PaneId} {outcome : PaneOutcome} (step : PaneStep ctx snap reverse id st outcome st') :
      PaneRun ctx start (outcomes ++ [outcome]) st'

section Runs

variable {ctx : RestoreContext} {start : RestoreState} {outcomes : List PaneOutcome}
  {st : RestoreState}

theorem PaneRun.restorePanes (run : PaneRun ctx start outcomes st) (snap : TabSnapshot)
  (reverse : FinMap PaneId Nat) (ids : List PaneId) :
  PaneRun ctx start (outcomes ++ (restorePanes ctx snap reverse ids st).1)
    (restorePanes ctx snap reverse ids st).2 := by
  induction ids generalizing outcomes st with
  | nil =>
    rw [Persist.restorePanes, List.append_nil]
    exact run
  | cons id ids ih =>
    have hNext := ih (run.pane (restorePane_step ctx snap reverse id st))
    rw [List.append_assoc] at hNext
    exact hNext

theorem PaneRun.restoreTab (run : PaneRun ctx start outcomes st) (snap : TabSnapshot)
  (number : Nat) : PaneRun ctx start (outcomes ++ (restoreTab ctx snap number st).outcomes)
    (restoreTab ctx snap number st).state := by
  obtain ⟨-, hDrawn⟩ := collectIds_remapInner snap.layout st.ids ∅
  have hTerminals : (restoreNodeRemapped snap.layout st.ids).2.1.nextTerminalId =
      st.ids.nextTerminalId := by
    have hNext := congrArg IdCounters.nextTerminalId hDrawn
    exact hNext
  exact (run.idle { st with ids := (restoreNodeRemapped snap.layout st.ids).2.1 } rfl
    hTerminals).restorePanes snap _ _

theorem PaneRun.tabs (snap : WorkspaceSnapshot) (migrated : FinMap Nat Nat)
  (entries : List (TabSnapshot × Nat)) {build : WorkspaceBuild}
  (run : PaneRun ctx start (outcomes ++ build.outcomes) build.state) :
  PaneRun ctx start
    (outcomes ++ (entries.foldl (addRestoredTab ctx snap migrated) build).outcomes)
    (entries.foldl (addRestoredTab ctx snap migrated) build).state := by
  induction entries generalizing build with
  | nil => exact run
  | cons entry entries ih =>
    refine ih ?_
    obtain ⟨hOutcomes, hState⟩ := addRestoredTab_state ctx snap migrated build entry
    rw [hOutcomes, hState, ← List.append_assoc]
    exact run.restoreTab entry.1 _

theorem PaneRun.restoreWorkspace (run : PaneRun ctx start outcomes st) (snap : WorkspaceSnapshot) :
  PaneRun ctx start (outcomes ++ (restoreWorkspace ctx snap st).outcomes)
    (restoreWorkspace ctx snap st).state := by
  have hTerminals : (restoredWorkspaceId snap st.ids).2.nextTerminalId =
      st.ids.nextTerminalId := by
    unfold restoredWorkspaceId
    split
    · rfl
    · rfl
  have hStart : PaneRun ctx start (outcomes ++ (firstBuild snap st).outcomes)
      (firstBuild snap st).state := by
    show PaneRun ctx start (outcomes ++ []) _
    rw [List.append_nil]
    exact run.idle _ rfl hTerminals
  exact hStart.tabs snap _ _

theorem PaneRun.workspaces (snaps : List WorkspaceSnapshot) {session : RestoredSession}
  (run : PaneRun ctx start session.outcomes session.state) :
  PaneRun ctx start (snaps.foldl (addRestoredWorkspace ctx) session).outcomes
    (snaps.foldl (addRestoredWorkspace ctx) session).state := by
  induction snaps generalizing session with
  | nil => exact run
  | cons snap snaps ih =>
    refine ih ?_
    obtain ⟨-, hOutcomes, hState⟩ := addRestoredWorkspace_keeps ctx session snap
    rw [hOutcomes, hState]
    exact run.restoreWorkspace snap

theorem run_of_restore (ctx : RestoreContext) (snapshot : SessionSnapshot) (ids : IdCounters)
  (importedPanes : Finset Nat) :
  PaneRun ctx ⟨ids, ∅, importedPanes, 0⟩
    (restoreWithImports ctx snapshot ids importedPanes).outcomes
    (restoreWithImports ctx snapshot ids importedPanes).state :=
  PaneRun.workspaces snapshot.workspaces .zero

end Runs

/-! ## Reservations -/

/-- The dedupe key of the session a pane was saved with, if the session can be resumed. -/
def PaneOutcome.sessionKey (outcome : PaneOutcome) : Option String :=
  (outcome.session.bind (restorePlanForSnapshot true)).map (·.dedupeKey)

/-- The dedupe key of the plan a pane came back with. -/
def PaneOutcome.resumeKey (outcome : PaneOutcome) : Option String :=
  outcome.terminal.bind fun terminal => terminal.2.pendingAgentResumePlan.map (·.dedupeKey)

/-- The dedupe key that a pane keeps reserved. -/
def PaneOutcome.heldKey (outcome : PaneOutcome) : Option String :=
  if outcome.survived then outcome.startup.reservedAgentSession else none

def heldKeys (outcomes : List PaneOutcome) : List String := outcomes.filterMap PaneOutcome.heldKey

/-- The three starts of a pane: nothing to resume, a session reserved before, or a session that
the pane reserves. -/
inductive Startup (outcome : PaneOutcome) (before : List String) (after : Finset String) : Prop where
  | plain (hKey : outcome.sessionKey = none) (hStartup : outcome.startup = ⟨none, false, none⟩)
      (hAfter : ∀ key, key ∈ after ↔ key ∈ before)
  | duplicate (key : String) (hKey : outcome.sessionKey = some key) (hHeld : key ∈ before)
      (hStartup : outcome.startup = ⟨none, true, none⟩)
      (hAfter : ∀ key, key ∈ after ↔ key ∈ before)
  | reserving (plan : AgentResumePlan) (hKey : outcome.sessionKey = some plan.dedupeKey)
      (hFree : plan.dedupeKey ∉ before)
      (hStartup : outcome.startup = ⟨some plan, false, some plan.dedupeKey⟩)
      (hAfter : ∀ key, key ∈ after ↔ key = plan.dedupeKey ∨ key ∈ before)

theorem Startup.restorePlan_of_duplicate {outcome : PaneOutcome} {before : List String}
  {after : Finset String} (hStartup : Startup outcome before after)
  (hDuplicate : outcome.startup.duplicateAgentSession = true) :
  outcome.startup.restorePlan = none := by
  cases hStartup with
  | plain _ hEq _ => rw [hEq]
  | duplicate _ _ _ hEq _ => rw [hEq]
  | reserving plan _ _ hEq _ =>
    rw [hEq] at hDuplicate
    cases hDuplicate

/-- What is known of a pane and the panes before it. -/
structure Settled (before : List PaneOutcome) (outcome : PaneOutcome) : Prop where
  startup : ∃ reserved, Startup outcome (heldKeys before) reserved
  pending : ∀ terminal, outcome.terminal = some terminal →
    terminal.2.pendingAgentResumePlan = outcome.pendingPlan
  deferred : ∀ plan, outcome.pendingPlan = some plan → outcome.survived = true
  session : outcome.startup.duplicateAgentSession = true → ∀ terminal,
    outcome.terminal = some terminal → terminal.2.persistedAgentSession = none

/-- The reserved sessions are those of the panes that came back with one, and no two panes hold
the same. -/
structure Reservations (outcomes : List PaneOutcome) (st : RestoreState) : Prop where
  nodup : (heldKeys outcomes).Nodup
  reserved : ∀ key, key ∈ st.resumedAgentSessions ↔ key ∈ heldKeys outcomes
  settled : ∀ before outcome after, outcomes = before ++ outcome :: after →
    Settled before outcome

section Reservations

variable {ctx : RestoreContext} (hResume : ctx.resumeAgentsOnRestore = true) {snap : TabSnapshot}
  {reverse : FinMap PaneId Nat} {id : PaneId} {st st' : RestoreState} {outcome : PaneOutcome}

include hResume

theorem startup_of_step (step : PaneStep ctx snap reverse id st outcome st') {before : List String}
  (hReserved : ∀ key, key ∈ st.resumedAgentSessions ↔ key ∈ before) :
  Startup outcome before (reserved ctx outcome st) := by
  have hStartup := step.startup
  unfold reserved
  rw [hResume] at hStartup ⊢
  unfold paneRestoreStartup at hStartup ⊢
  cases hPlan : outcome.session.bind (restorePlanForSnapshot true) with
  | none =>
    simp only [hPlan] at hStartup
    exact .plain (by rw [PaneOutcome.sessionKey, hPlan]; rfl) hStartup hReserved
  | some plan =>
    have hKey : outcome.sessionKey = some plan.dedupeKey := by
      rw [PaneOutcome.sessionKey, hPlan]
      rfl
    simp only [hPlan] at hStartup
    dsimp only
    by_cases hHeld : plan.dedupeKey ∈ st.resumedAgentSessions
    · rw [if_pos hHeld] at hStartup ⊢
      exact .duplicate plan.dedupeKey hKey ((hReserved _).1 hHeld) hStartup hReserved
    rw [if_neg hHeld] at hStartup ⊢
    refine .reserving plan hKey (fun hMem => hHeld ((hReserved _).2 hMem)) hStartup ?_
    intro key
    rw [Finset.mem_insert, hReserved]

omit hResume in
theorem survived_of_terminal {terminal : TerminalId × TerminalState}
  (hTerminal : outcome.terminal = some terminal) : outcome.survived = true := by
  rw [PaneOutcome.survived, hTerminal, Option.isSome_some]

theorem settled_of_step (step : PaneStep ctx snap reverse id st outcome st')
  {before : List PaneOutcome}
  (hReserved : ∀ key, key ∈ st.resumedAgentSessions ↔ key ∈ heldKeys before) :
  Settled before outcome := by
  have hStartup := startup_of_step hResume step hReserved
  refine ⟨⟨_, hStartup⟩, ?_, ?_, ?_⟩
  · intro terminal hTerminal
    cases step.exit with
    | deferred plan hPlan hDeferred _ =>
      rw [hDeferred] at hTerminal
      cases hTerminal
      exact (deferredTerminal_plan _ _ _ _).trans hPlan.symm
    | started hPlan _ hStarted _ =>
      rw [hStarted] at hTerminal
      cases hTerminal
      exact (startedTerminal_plan _ _ _ _ _).trans hPlan.symm
    | failed _ _ hFailed _ =>
      rw [hFailed] at hTerminal
      cases hTerminal
  · intro plan hPlan
    cases step.exit with
    | deferred _ _ hDeferred _ => exact survived_of_terminal hDeferred
    | started hNone _ _ _ =>
      rw [hNone] at hPlan
      cases hPlan
    | failed hNone _ _ _ =>
      rw [hNone] at hPlan
      cases hPlan
  · intro hDuplicate terminal hTerminal
    have hNoPlan := hStartup.restorePlan_of_duplicate hDuplicate
    have hNoSession : outcome.restoredSession = none := by
      rw [PaneOutcome.restoredSession, hDuplicate]
      rfl
    cases step.exit with
    | deferred plan hPlan _ _ =>
      unfold PaneOutcome.pendingPlan at hPlan
      rw [hNoPlan, ite_self] at hPlan
      cases hPlan
    | started _ _ hStarted _ =>
      rw [hStarted, hNoSession, hNoPlan] at hTerminal
      cases hTerminal
      exact startedTerminal_session _ _ (ctx.now outcome.paneId)
    | failed _ _ hFailed _ =>
      rw [hFailed] at hTerminal
      cases hTerminal

/-- A pane holds nothing and leaves the reservations as they were, or it holds a free key. -/
theorem held_of_step (step : PaneStep ctx snap reverse id st outcome st') {before : List String}
  (hReserved : ∀ key, key ∈ st.resumedAgentSessions ↔ key ∈ before) :
  (outcome.heldKey = none ∧ ∀ key, key ∈ st'.resumedAgentSessions ↔ key ∈ before) ∨
    ∃ held, outcome.heldKey = some held ∧ held ∉ before ∧
      ∀ key, key ∈ st'.resumedAgentSessions ↔ key = held ∨ key ∈ before := by
  have hStartup := startup_of_step hResume step hReserved
  have hUnreserved : outcome.startup.reservedAgentSession = none →
      (∀ key, key ∈ reserved ctx outcome st ↔ key ∈ before) →
      outcome.heldKey = none ∧ ∀ key, key ∈ st'.resumedAgentSessions ↔ key ∈ before := by
    intro hNone hSame
    refine ⟨by rw [PaneOutcome.heldKey, hNone, ite_self], ?_⟩
    cases step.exit with
    | deferred _ _ _ hAfter =>
      rw [hAfter]
      exact hSame
    | started _ _ _ hAfter =>
      rw [hAfter]
      exact hSame
    | failed _ _ _ hAfter =>
      rw [hAfter, hNone]
      exact hSame
  cases hStartup with
  | plain _ hEq hSame => exact Or.inl (hUnreserved (by rw [hEq]) hSame)
  | duplicate _ _ _ hEq hSame => exact Or.inl (hUnreserved (by rw [hEq]) hSame)
  | reserving plan _ hFree hEq hMore =>
    have hHolds : outcome.survived = true → outcome.heldKey = some plan.dedupeKey := by
      intro hSurvived
      rw [PaneOutcome.heldKey, hSurvived, hEq]
      rfl
    cases step.exit with
    | deferred _ _ hTerminal hAfter =>
      refine Or.inr ⟨plan.dedupeKey, hHolds (survived_of_terminal hTerminal), hFree, ?_⟩
      rw [hAfter]
      exact hMore
    | started _ _ hTerminal hAfter =>
      refine Or.inr ⟨plan.dedupeKey, hHolds (survived_of_terminal hTerminal), hFree, ?_⟩
      rw [hAfter]
      exact hMore
    | failed _ _ hTerminal hAfter =>
      refine Or.inl ⟨?_, ?_⟩
      · rw [PaneOutcome.heldKey, PaneOutcome.survived, hTerminal]
        rfl
      intro key
      rw [hAfter, hEq]
      show key ∈ (reserved ctx outcome st).erase plan.dedupeKey ↔ key ∈ before
      rw [Finset.mem_erase, hMore]
      constructor
      · rintro ⟨hOther, rfl | hMem⟩
        · exact absurd rfl hOther
        · exact hMem
      · intro hMem
        exact ⟨fun hEq => hFree (hEq ▸ hMem), Or.inr hMem⟩

theorem Reservations.pane {outcomes : List PaneOutcome} (h : Reservations outcomes st)
  (step : PaneStep ctx snap reverse id st outcome st') :
  Reservations (outcomes ++ [outcome]) st' := by
  have hSettled := settled_of_step hResume step h.reserved
  have hKeys : heldKeys (outcomes ++ [outcome]) = heldKeys outcomes ++ outcome.heldKey.toList := by
    rw [heldKeys, heldKeys, List.filterMap_append]
    cases hHeld : outcome.heldKey with
    | none => simp [hHeld]
    | some key => simp [hHeld]
  have hAll : ∀ before other after, outcomes ++ [outcome] = before ++ other :: after →
      Settled before other := by
    intro before other after hSplit
    rcases List.eq_nil_or_concat after with rfl | ⟨after, last, rfl⟩
    · obtain ⟨rfl, hLast⟩ := List.append_inj' hSplit rfl
      cases hLast
      exact hSettled
    · rw [List.concat_eq_append, ← List.cons_append, ← List.append_assoc] at hSplit
      exact h.settled before other after (List.append_inj' hSplit rfl).1
  rcases held_of_step hResume step h.reserved with ⟨hNone, hSame⟩ | ⟨held, hHeld, hFree, hMore⟩
  · rw [hNone, Option.toList_none, List.append_nil] at hKeys
    refine ⟨hKeys ▸ h.nodup, ?_, hAll⟩
    rw [hKeys]
    exact hSame
  · rw [hHeld, Option.toList_some] at hKeys
    refine ⟨?_, ?_, hAll⟩
    · rw [hKeys]
      refine List.nodup_append.2 ⟨h.nodup, List.nodup_singleton _, ?_⟩
      rintro key hMem _ hLast rfl
      exact hFree (List.mem_singleton.1 hLast ▸ hMem)
    · intro key
      rw [hMore, hKeys, List.mem_append, List.mem_singleton, or_comm]

/-- The reservations along the whole restoration. -/
theorem reservations_of_run {start : RestoreState} {outcomes : List PaneOutcome}
  (hStart : start.resumedAgentSessions = ∅) (run : PaneRun ctx start outcomes st) :
  Reservations outcomes st := by
  induction run with
  | zero =>
    refine ⟨List.nodup_nil, ?_, ?_⟩
    · intro key
      rw [hStart]
      simp [heldKeys]
    · intro before outcome after hSplit
      exact absurd hSplit.symm (by simp)
  | idle _ st' hReserved _ ih => exact ⟨ih.nodup, by rw [hReserved]; exact ih.reserved, ih.settled⟩
  | pane _ step ih => exact ih.pane hResume step

end Reservations

section Keys

variable {before outcomes : List PaneOutcome} {outcome : PaneOutcome} {st : RestoreState}

/-- A pane that holds a session resumes it, unless its runtime was handed over. -/
theorem resumeKey_eq (h : Settled before outcome) :
  outcome.resumeKey = if outcome.wasImported then none else outcome.heldKey := by
  obtain ⟨after, hStartup⟩ := h.startup
  have hNoPlan : outcome.pendingPlan = none → outcome.resumeKey = none := by
    intro hNone
    unfold PaneOutcome.resumeKey
    cases hTerminal : outcome.terminal with
    | none => rfl
    | some terminal =>
      rw [Option.bind_some, h.pending terminal hTerminal, hNone]
      rfl
  cases hImported : outcome.wasImported with
  | true => exact hNoPlan (by rw [PaneOutcome.pendingPlan, hImported]; rfl)
  | false =>
    have hPending : outcome.pendingPlan = outcome.startup.restorePlan := by
      rw [PaneOutcome.pendingPlan, hImported]
      rfl
    have hUnreserved : outcome.startup.restorePlan = none →
        outcome.startup.reservedAgentSession = none → outcome.resumeKey = outcome.heldKey := by
      intro hPlan hReserved
      rw [hNoPlan (hPending.trans hPlan), PaneOutcome.heldKey, hReserved, ite_self]
    cases hStartup with
    | plain _ hEq _ => exact hUnreserved (by rw [hEq]) (by rw [hEq])
    | duplicate _ _ _ hEq _ => exact hUnreserved (by rw [hEq]) (by rw [hEq])
    | reserving plan _ _ hEq _ =>
      have hPlan : outcome.pendingPlan = some plan := by rw [hPending, hEq]
      have hSurvived := h.deferred plan hPlan
      obtain ⟨terminal, hTerminal⟩ := Option.isSome_iff_exists.1 hSurvived
      have hResumes : outcome.resumeKey = some plan.dedupeKey := by
        rw [PaneOutcome.resumeKey, hTerminal, Option.bind_some,
          h.pending terminal hTerminal, hPlan]
        rfl
      have hHolds : outcome.heldKey = some plan.dedupeKey := by
        rw [PaneOutcome.heldKey, hSurvived, hEq]
        rfl
      exact hResumes.trans hHolds.symm

/-- A held key is the key of the pane's own saved session. -/
theorem sessionKey_of_held (h : Settled before outcome) {key : String}
  (hHeld : outcome.heldKey = some key) :
  outcome.sessionKey = some key ∧ outcome.survived = true := by
  obtain ⟨after, hStartup⟩ := h.startup
  unfold PaneOutcome.heldKey at hHeld
  split at hHeld
  next hSurvived =>
    refine ⟨?_, hSurvived⟩
    cases hStartup with
    | plain _ hEq _ =>
      rw [hEq] at hHeld
      cases hHeld
    | duplicate _ _ _ hEq _ =>
      rw [hEq] at hHeld
      cases hHeld
    | reserving plan hKey _ hEq _ =>
      rw [hEq] at hHeld
      exact hKey.trans hHeld
  next => cases hHeld

section

variable (h : Reservations outcomes st)
include h

theorem Reservations.settled_of_mem (hMem : outcome ∈ outcomes) :
  ∃ before, Settled before outcome := by
  obtain ⟨before, after, hSplit⟩ := List.append_of_mem hMem
  exact ⟨before, h.settled before outcome after hSplit⟩

/-- Each key is given to one pane at most. -/
theorem Reservations.nodup_resumeKeys :
  (outcomes.filterMap PaneOutcome.resumeKey).Nodup := by
  have hEq : outcomes.filterMap PaneOutcome.resumeKey =
      (outcomes.filter fun outcome => !outcome.wasImported).filterMap PaneOutcome.heldKey := by
    rw [List.filterMap_filter]
    refine List.filterMap_congr fun outcome hMem => ?_
    obtain ⟨before, hSettled⟩ := h.settled_of_mem hMem
    rw [resumeKey_eq hSettled]
    cases outcome.wasImported <;> rfl
  rw [hEq]
  exact (List.filter_sublist.filterMap _).nodup h.nodup

/-- A suppressed pane gets neither a plan nor a session. -/
theorem Reservations.suppressed (hMem : outcome ∈ outcomes)
  (hDuplicate : outcome.startup.duplicateAgentSession = true)
  {terminal : TerminalId × TerminalState} (hTerminal : outcome.terminal = some terminal) :
  terminal.2.pendingAgentResumePlan = none ∧ terminal.2.persistedAgentSession = none := by
  obtain ⟨before, hSettled⟩ := h.settled_of_mem hMem
  refine ⟨?_, hSettled.session hDuplicate terminal hTerminal⟩
  rw [hSettled.pending terminal hTerminal]
  obtain ⟨after, hStartup⟩ := hSettled.startup
  rw [PaneOutcome.pendingPlan, hStartup.restorePlan_of_duplicate hDuplicate, ite_self]

/-- A key without a plan: its panes failed, were handed over, or came after one that was. -/
theorem Reservations.without_plan {key : String}
  (hNone : key ∉ outcomes.filterMap PaneOutcome.resumeKey) {after : List PaneOutcome}
  (hSplit : outcomes = before ++ outcome :: after) (hKey : outcome.sessionKey = some key) :
  outcome.survived = false ∨ outcome.wasImported = true ∨
    outcome.startup.duplicateAgentSession = true ∧ ∃ earlier ∈ before,
      earlier.sessionKey = some key ∧ earlier.wasImported = true ∧ earlier.survived = true := by
  have hNot : ∀ other ∈ outcomes, other.wasImported = false → other.heldKey ≠ some key := by
    intro other hMem hFresh hHeld
    obtain ⟨front, hSettled⟩ := h.settled_of_mem hMem
    refine hNone (List.mem_filterMap.2 ⟨other, hMem, ?_⟩)
    rw [resumeKey_eq hSettled, hFresh]
    exact hHeld
  have hMem : outcome ∈ outcomes := hSplit ▸ List.mem_append_right _ List.mem_cons_self
  obtain ⟨after', hStartup⟩ := (h.settled before outcome after hSplit).startup
  cases hStartup with
  | plain hPlain _ _ =>
    rw [hPlain] at hKey
    cases hKey
  | duplicate held hHeldKey hHeld hEq _ =>
    obtain rfl : held = key := Option.some.inj (hHeldKey.symm.trans hKey)
    obtain ⟨earlier, hEarlier, hHolds⟩ := List.mem_filterMap.1 hHeld
    have hEarlierMem : earlier ∈ outcomes := hSplit ▸ List.mem_append_left _ hEarlier
    obtain ⟨front, hSettled⟩ := h.settled_of_mem hEarlierMem
    obtain ⟨hSame, hSurvived⟩ := sessionKey_of_held hSettled hHolds
    refine Or.inr (Or.inr ⟨by rw [hEq], earlier, hEarlier, hSame, ?_, hSurvived⟩)
    by_contra hFresh
    exact hNot earlier hEarlierMem (Bool.eq_false_iff.2 hFresh) hHolds
  | reserving plan hPlanKey _ hEq _ =>
    cases hImported : outcome.wasImported with
    | true => exact Or.inr (Or.inl rfl)
    | false =>
      refine Or.inl (Bool.eq_false_iff.2 fun hSurvived => ?_)
      refine hNot outcome hMem hImported ?_
      rw [PaneOutcome.heldKey, hSurvived, hEq]
      exact hPlanKey.symm.trans hKey

end

end Keys

/-! ## The terminals of the restored panes -/

/-- The terminals made for the panes, in order. -/
def madeTerminals (outcomes : List PaneOutcome) : List (TerminalId × TerminalState) :=
  outcomes.filterMap (·.terminal)

variable {ctx : RestoreContext}

/-- Terminal ids are drawn one after the other. -/
theorem terminalIds_of_run {start st : RestoreState} {outcomes : List PaneOutcome}
  (run : PaneRun ctx start outcomes st) :
  (madeTerminals outcomes).map (·.1.counter) =
      List.range' start.ids.nextTerminalId (madeTerminals outcomes).length ∧
    st.ids.nextTerminalId = start.ids.nextTerminalId + (madeTerminals outcomes).length := by
  induction run with
  | zero => exact ⟨rfl, rfl⟩
  | idle _ st' _ hTerminals ih => exact ⟨ih.1, hTerminals.trans ih.2⟩
  | @pane outcomes st st' prior snap reverse id outcome step ih =>
    obtain ⟨hIds, hNext⟩ := ih
    have hLast : ∀ terminal, outcome.terminal = some terminal →
        terminal.1.counter = st.ids.nextTerminalId := by
      intro terminal hTerminal
      cases step.exit with
      | deferred _ _ hMade _ =>
        rw [hMade] at hTerminal
        cases hTerminal
        rfl
      | started _ _ hMade _ =>
        rw [hMade] at hTerminal
        cases hTerminal
        rfl
      | failed _ _ hMade _ =>
        rw [hMade] at hTerminal
        cases hTerminal
    have hCount := step.nextTerminalId
    unfold madeTerminals at hIds hNext ⊢
    rw [List.filterMap_append]
    cases hTerminal : outcome.terminal with
    | none =>
      rw [hTerminal] at hCount
      simpa [hTerminal] using ⟨hIds, hCount.trans hNext⟩
    | some terminal =>
      rw [hTerminal] at hCount
      have hSingle : [outcome].filterMap (·.terminal) = [terminal] := by simp [hTerminal]
      rw [hSingle, List.map_append, List.length_append, hIds, List.map_singleton,
        hLast terminal hTerminal, hNext, hCount, hNext]
      exact ⟨List.range'_append_1.symm ▸ rfl, rfl⟩

/-- Every pane of the tabs is attached to the terminal made for it, and without tabs none is
made. -/
structure Attached (tabs : List Tab) (terminals : List (TerminalId × TerminalState))
  (outcomes : List PaneOutcome) : Prop where
  made : terminals = madeTerminals outcomes
  noTab : tabs = [] → terminals = []
  panes : ∀ tab ∈ tabs, ∀ id pane, tab.panes.lookup id = some pane →
    ∃ outcome ∈ outcomes, outcome.paneId = id ∧
      ∃ terminal, outcome.terminal = some (pane.attachedTerminalId, terminal)

theorem exists_outcome_of_restoredPanes {outcomes : List PaneOutcome}
  (hNodup : (outcomes.map (·.paneId)).Nodup) {id : PaneId} {pane : PaneState}
  (hLookup : (restoredPanes outcomes).lookup id = some pane) :
  ∃ outcome ∈ outcomes, outcome.paneId = id ∧
    ∃ terminal, outcome.terminal = some (pane.attachedTerminalId, terminal) := by
  have hKeys : ((outcomes.filterMap PaneOutcome.restoredPane).map Prod.fst).Nodup := by
    rw [fst_restoredPanes]
    exact hNodup.sublist (List.filter_sublist.map _)
  obtain ⟨outcome, hMem, hPane⟩ := List.mem_filterMap.1 ((FinMap.lookup_ofPairs_iff hKeys).1 hLookup)
  obtain ⟨⟨terminalId, terminal⟩, hTerminal, hEq⟩ := Option.map_eq_some_iff.1 hPane
  cases hEq
  exact ⟨outcome, hMem, rfl, terminal, hTerminal⟩

theorem Attached.addRestoredTab {snap : WorkspaceSnapshot} {migrated : FinMap Nat Nat}
  {build : WorkspaceBuild} (h : Attached build.tabs build.terminals build.outcomes)
  (entry : TabSnapshot × Nat) :
  Attached (addRestoredTab ctx snap migrated build entry).tabs
    (addRestoredTab ctx snap migrated build entry).terminals
    (addRestoredTab ctx snap migrated build entry).outcomes := by
  have hPaneIds := (restoreTab_outcomes ctx entry.1 (savedTabNumber snap entry.2) build.state).1
  have hNodup : ((restoreTab ctx entry.1 (savedTabNumber snap entry.2)
      build.state).outcomes.map (·.paneId)).Nodup := hPaneIds ▸ nodup_freshIds _ _
  have hOlder : ∀ tab ∈ build.tabs, ∀ id pane, tab.panes.lookup id = some pane →
      ∃ outcome ∈ build.outcomes ++ (restoreTab ctx entry.1 (savedTabNumber snap entry.2)
        build.state).outcomes, outcome.paneId = id ∧
          ∃ terminal, outcome.terminal = some (pane.attachedTerminalId, terminal) := by
    intro tab hTab id pane hLookup
    obtain ⟨outcome, hMem, hFound⟩ := h.panes tab hTab id pane hLookup
    exact ⟨outcome, List.mem_append_left _ hMem, hFound⟩
  have hMade : ∀ new : List PaneOutcome, madeTerminals (build.outcomes ++ new) =
      build.terminals ++ madeTerminals new := by
    intro new
    rw [madeTerminals, List.filterMap_append, h.made]
    rfl
  unfold Persist.addRestoredTab
  rcases restoreTab_cases ctx entry.1 (savedTabNumber snap entry.2) build.state with
    ⟨hNone, hTab⟩ | ⟨tab, reverse, hTab, hRebuilt, -⟩
  · have hEmpty : madeTerminals (restoreTab ctx entry.1 (savedTabNumber snap entry.2)
        build.state).outcomes = [] := by
      refine List.filterMap_eq_nil_iff.2 fun outcome hMem => ?_
      by_contra hSome
      obtain ⟨terminal, hTerminal⟩ := Option.ne_none_iff_exists'.1 hSome
      have hKey := AList.mem_keys.1 (AList.lookup_isSome.1 (by
        rw [lookup_restoredPanes hNodup hMem hTerminal]; rfl))
      rw [hNone] at hKey
      cases hKey
    simp only [hTab]
    exact ⟨by rw [hMade, hEmpty, List.append_nil], h.noTab, hOlder⟩
  · simp only [hTab]
    refine ⟨(hMade _).symm, fun hNil => absurd hNil (by simp), ?_⟩
    intro other hMem id pane hLookup
    rcases List.mem_append.1 hMem with hOld | hNew
    · exact hOlder other hOld id pane hLookup
    rw [List.mem_singleton.1 hNew, hRebuilt.paneMap] at hLookup
    obtain ⟨outcome, hOutcome, hFound⟩ := exists_outcome_of_restoredPanes hNodup hLookup
    exact ⟨outcome, List.mem_append_right _ hOutcome, hFound⟩

theorem attached_lastBuild (ctx : RestoreContext) (snap : WorkspaceSnapshot) (st : RestoreState) :
  Attached (lastBuild ctx snap st).tabs (lastBuild ctx snap st).terminals
    (lastBuild ctx snap st).outcomes := by
  refine List.foldlRecOn snap.tabs.zipIdx _
    (motive := fun build : WorkspaceBuild => Attached build.tabs build.terminals build.outcomes)
    ⟨rfl, fun _ => rfl, fun _ hNone => nomatch hNone⟩ fun build hBuild entry _ => ?_
  exact hBuild.addRestoredTab entry

/-- The terminals of a session, and the panes attached to them. -/
structure SessionAttached (session : RestoredSession) : Prop where
  terminals : session.terminals = FinMap.ofPairs (madeTerminals session.outcomes)
  panes : ∀ ws ∈ session.workspaces, ∀ tab ∈ ws.tabs, ∀ id pane,
    tab.panes.lookup id = some pane → ∃ outcome ∈ session.outcomes, outcome.paneId = id ∧
      ∃ terminal, outcome.terminal = some (pane.attachedTerminalId, terminal)

theorem SessionAttached.addRestoredWorkspace {session : RestoredSession}
  (h : SessionAttached session) (snap : WorkspaceSnapshot) :
  SessionAttached (addRestoredWorkspace ctx session snap) := by
  have hBuild := attached_lastBuild ctx snap session.state
  have hMade : madeTerminals (session.outcomes ++ (lastBuild ctx snap session.state).outcomes) =
      madeTerminals session.outcomes ++ (lastBuild ctx snap session.state).terminals := by
    rw [madeTerminals, List.filterMap_append, hBuild.made]
    rfl
  have hOlder : ∀ ws ∈ session.workspaces, ∀ tab ∈ ws.tabs, ∀ id pane,
      tab.panes.lookup id = some pane →
      ∃ outcome ∈ session.outcomes ++ (lastBuild ctx snap session.state).outcomes,
        outcome.paneId = id ∧
          ∃ terminal, outcome.terminal = some (pane.attachedTerminalId, terminal) := by
    intro ws hWs tab hTab id pane hLookup
    obtain ⟨outcome, hMem, hFound⟩ := h.panes ws hWs tab hTab id pane hLookup
    exact ⟨outcome, List.mem_append_left _ hMem, hFound⟩
  unfold Persist.addRestoredWorkspace
  rw [restoreWorkspace_eq]
  cases hTabs : (lastBuild ctx snap session.state).tabs with
  | nil =>
    refine ⟨?_, hOlder⟩
    show session.terminals = FinMap.ofPairs (madeTerminals (_ ++ _))
    rw [hMade, hBuild.noTab hTabs, List.append_nil, h.terminals]
  | cons first rest =>
    refine ⟨?_, ?_⟩
    · show (lastBuild ctx snap session.state).terminals.foldl _ session.terminals =
        FinMap.ofPairs (madeTerminals (_ ++ _))
      rw [hMade, h.terminals, FinMap.ofPairs, FinMap.ofPairs, List.foldl_append]
    · intro ws hWs tab hTab id pane hLookup
      rcases List.mem_append.1 hWs with hOld | hNew
      · exact hOlder ws hOld tab hTab id pane hLookup
      rw [List.mem_singleton.1 hNew] at hTab
      obtain ⟨outcome, hMem, hFound⟩ := hBuild.panes tab hTab id pane hLookup
      exact ⟨outcome, List.mem_append_right _ hMem, hFound⟩

theorem sessionAttached_restore (ctx : RestoreContext) (snapshot : SessionSnapshot)
  (ids : IdCounters) (importedPanes : Finset Nat) :
  SessionAttached (restoreWithImports ctx snapshot ids importedPanes) := by
  refine List.foldlRecOn snapshot.workspaces _ (motive := SessionAttached)
    ⟨rfl, fun _ hNone => nomatch hNone⟩ fun session hSession snap _ => ?_
  exact hSession.addRestoredWorkspace snap

/-! ## Restoring with resume enabled -/

/-- Each session is resumed in one pane at most, and a suppressed pane gets neither a plan nor a
session. If nobody resumes a session, its panes failed to start, were handed over live, or were
suppressed because of an earlier one that was. -/
theorem resume_plans_restored {ctx : RestoreContext} (hResume : ctx.resumeAgentsOnRestore = true)
  (snapshot : SessionSnapshot) (ids : IdCounters) (importedPanes : Finset Nat) :
  let restored := restoreWithImports ctx snapshot ids importedPanes
  (∀ ws ∈ restored.workspaces, ∀ tab ∈ ws.tabs, ∀ id pane, tab.panes.lookup id = some pane →
    ∃ outcome ∈ restored.outcomes, outcome.paneId = id ∧ ∃ terminal,
      outcome.terminal = some (pane.attachedTerminalId, terminal) ∧
        restored.terminals.lookup pane.attachedTerminalId = some terminal) ∧
  (restored.outcomes.filterMap PaneOutcome.resumeKey).Nodup ∧
  (∀ outcome ∈ restored.outcomes, outcome.startup.duplicateAgentSession = true →
    ∀ terminal, outcome.terminal = some terminal →
      terminal.2.pendingAgentResumePlan = none ∧ terminal.2.persistedAgentSession = none) ∧
  ∀ key, key ∉ restored.outcomes.filterMap PaneOutcome.resumeKey →
    ∀ before outcome after, restored.outcomes = before ++ outcome :: after →
      outcome.sessionKey = some key →
        outcome.survived = false ∨ outcome.wasImported = true ∨
          outcome.startup.duplicateAgentSession = true ∧ ∃ earlier ∈ before,
            earlier.sessionKey = some key ∧ earlier.wasImported = true ∧
              earlier.survived = true := by
  have run := run_of_restore ctx snapshot ids importedPanes
  have hReservations := reservations_of_run hResume rfl run
  have hAttached := sessionAttached_restore ctx snapshot ids importedPanes
  have hCounters := (terminalIds_of_run run).1
  refine ⟨?_, hReservations.nodup_resumeKeys,
    fun outcome hMem hDuplicate terminal hTerminal =>
      hReservations.suppressed hMem hDuplicate hTerminal,
    fun key hNone before outcome after hSplit hKey =>
      hReservations.without_plan hNone hSplit hKey⟩
  intro ws hWs tab hTab id pane hLookup
  obtain ⟨outcome, hMem, hId, terminal, hTerminal⟩ :=
    hAttached.panes ws hWs tab hTab id pane hLookup
  refine ⟨outcome, hMem, hId, terminal, hTerminal, ?_⟩
  have hNodup : ((madeTerminals
      (restoreWithImports ctx snapshot ids importedPanes).outcomes).map Prod.fst).Nodup := by
    have hDistinct := hCounters ▸ List.nodup_range'
    exact List.Nodup.of_map TerminalId.counter (by rw [List.map_map]; exact hDistinct)
  rw [hAttached.terminals]
  exact FinMap.lookup_ofPairs hNodup (List.mem_filterMap.2 ⟨outcome, hMem, hTerminal⟩)

/-- A pane that ran a session of Claude. -/
def claudePane : PaneSnapshot where
  label := none
  agentName := none
  managedAgentKind := none
  agentSession := some ⟨"herdr:claude", "claude", .id, "s1"⟩
  launchArgv := none

/-- Two panes side by side that ran the same session. -/
def sharedSession : WorkspaceSnapshot where
  id := none
  customName := none
  worktreeSpace := none
  publicPaneNumbers := ∅
  nextPublicPaneNumber := 0
  publicTabNumbers := []
  nextPublicTabNumber := 0
  tabs := [{ plainTab (.split .horizontal (1 / 2) (.pane 1) (.pane 2)) with
    panes := FinMap.ofPairs [(1, claudePane), (2, claudePane)] }]
  activeTab := 0

def resuming : RestoreContext := { everythingStarts with resumeAgentsOnRestore := true }

def handedOver : RestoredSession :=
  restoreWithImports resuming ⟨[sharedSession], none, 0⟩ IdCounters.initial {1}

/-- The first pane was handed over live, so the second one starts without a plan. -/
theorem shared_session_not_resumed : ¬ ∀ ctx : RestoreContext, ctx.resumeAgentsOnRestore = true →
  ∀ snapshot ids importedPanes key,
    let restored := restoreWithImports ctx snapshot ids importedPanes
    key ∉ restored.outcomes.filterMap PaneOutcome.resumeKey →
      ∀ outcome ∈ restored.outcomes, outcome.sessionKey = some key →
        outcome.wasImported = true ∨ outcome.survived = false := by
  intro hAll
  have hKeys : ∀ outcome ∈ handedOver.outcomes,
      outcome.sessionKey = some "herdr:claude\x00claude\x00Id\x00s1" := by
    with_unfolding_all decide
  have hNone : handedOver.outcomes.filterMap PaneOutcome.resumeKey = [] := by
    with_unfolding_all decide
  have hStarted : ¬ ∀ outcome ∈ handedOver.outcomes,
      outcome.wasImported = true ∨ outcome.survived = false := by
    with_unfolding_all decide
  refine hStarted fun outcome hMem => hAll resuming rfl ⟨[sharedSession], none, 0⟩
    IdCounters.initial {1} "herdr:claude\x00claude\x00Id\x00s1" ?_ outcome hMem
    (hKeys outcome hMem)
  show _ ∉ handedOver.outcomes.filterMap PaneOutcome.resumeKey
  rw [hNone]
  exact List.not_mem_nil

/-- The second pane is suppressed, and gets neither the plan nor the session. -/
theorem resume_plans_handedOver : (handedOver.outcomes.filterMap PaneOutcome.resumeKey).Nodup ∧
  (∃ outcome ∈ handedOver.outcomes, outcome.startup.duplicateAgentSession = true) ∧
  ∀ outcome ∈ handedOver.outcomes, outcome.startup.duplicateAgentSession = true →
    ∀ terminal, outcome.terminal = some terminal →
      terminal.2.pendingAgentResumePlan = none ∧ terminal.2.persistedAgentSession = none := by
  have hResume : resuming.resumeAgentsOnRestore = true := rfl
  obtain ⟨-, hNodup, hSuppressed, -⟩ :=
    resume_plans_restored hResume ⟨[sharedSession], none, 0⟩ IdCounters.initial {1}
  exact ⟨hNodup, by with_unfolding_all decide, hSuppressed⟩

end Persist
