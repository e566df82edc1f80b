import VimeflowTerminal.App.TaskTimers

/-! The tasks whose timers may be left over: what reconciling does to a launch, what the
expiry of metadata leaves of its deadline, and what the resumes leave of theirs. -/

namespace App.AppLoop

open Layout Workspaces Terminal Deadlines TerminalState

variable {s : AppLoop} {now : Instant} {needsRender : Bool}

theorem later_nextManagedAgentDeadline : Later now s.nextManagedAgentDeadline ↔
  ∀ id, Later now ((s.terminals.lookup id).bind (·.nextManagedAgentDeadline)) := by
  unfold nextManagedAgentDeadline
  rw [later_earliest]
  constructor
  · intro hLater id
    cases hLookup : s.terminals.lookup id with
    | none => exact later_none
    | some terminal =>
      have hEntry := (@FinMap.mem_entries_iff _ _ _ _ ⟨id, terminal⟩).2 hLookup
      exact hLater _ (List.mem_map_of_mem hEntry)
  · intro hLater d hMem
    obtain ⟨⟨id, terminal⟩, hEntry, rfl⟩ := List.mem_map.1 hMem
    have hHere := hLater id
    rwa [FinMap.mem_entries_iff.1 hEntry] at hHere

theorem nextManagedAgentDeadline_congr {a b : Option TerminalState}
  (hSame : a.map (·.managedAgent) = b.map (·.managedAgent)) :
  a.bind (·.nextManagedAgentDeadline) = b.bind (·.nextManagedAgentDeadline) := by
  cases a with
  | none => rw [Option.map_eq_none_iff.1 hSame.symm]
  | some terminal =>
    obtain ⟨other, rfl, hManaged⟩ := Option.map_eq_some_iff.1 hSame.symm
    simp only [Option.bind_some, TerminalState.nextManagedAgentDeadline, hManaged]

/-- A launch that is due is over after it has been reconciled. -/
theorem later_reconcileManagedAgentAt (terminal : TerminalState) :
  Later now (terminal.reconcileManagedAgentAt now false).1.nextManagedAgentDeadline := by
  have hCleared : Later now terminal.clearAgentName.nextManagedAgentDeadline := later_none
  unfold reconcileManagedAgentAt
  split
  next hNone =>
    unfold TerminalState.nextManagedAgentDeadline
    rw [hNone]
    exact later_none
  next managed hManaged =>
    obtain ⟨kind, phase⟩ := managed
    cases phase with
    | active =>
      dsimp only
      split
      · exact hCleared
      unfold TerminalState.nextManagedAgentDeadline
      rw [hManaged]
      exact later_none
    | pending readyAfter deadline previousObserved =>
      dsimp only
      split
      · exact hCleared
      unfold reconcilePendingAgent
      split
      · exact hCleared
      next hOpen =>
        have hDeadline : now < deadline := not_le.1 hOpen
        split
        · exact later_none
        split
        · exact later_some.2 (by simpa using hDeadline)
        next hNotReady =>
          have hReady : ∀ ready, readyAfter = some ready → now < ready := by
            intro ready hSome
            rw [hSome] at hNotReady
            simpa using hNotReady
          have hBoth : now < min (readyAfter.getD deadline) deadline := by
            refine lt_min ?_ hDeadline
            cases hSome : readyAfter with
            | none => exact hDeadline
            | some ready => exact hReady ready hSome
          split
          · exact later_some.2 hBoth
          unfold TerminalState.nextManagedAgentDeadline
          rw [hManaged]
          exact later_some.2 hBoth

/-- A launch past its own deadline is given up. -/
theorem managedAgent_reconcileManagedAgentAt {terminal : TerminalState}
  (hDue : Due now terminal.managedAgentLaunchDeadline) :
  (terminal.reconcileManagedAgentAt now false).1.managedAgent = none := by
  unfold managedAgentLaunchDeadline at hDue
  unfold reconcileManagedAgentAt
  cases hManaged : terminal.managedAgent with
  | none => exact hManaged
  | some managed =>
    obtain ⟨kind, phase⟩ := managed
    rw [hManaged] at hDue
    cases phase with
    | active => exact absurd hDue not_due_none
    | pending readyAfter deadline previousObserved =>
      dsimp only
      split
      · rfl
      unfold reconcilePendingAgent
      rw [if_pos (due_some.1 hDue)]
      rfl

theorem due_nextManagedAgentDeadline {terminal : TerminalState}
  (hDue : Due now terminal.managedAgentLaunchDeadline) :
  Due now terminal.nextManagedAgentDeadline := by
  unfold managedAgentLaunchDeadline at hDue
  unfold TerminalState.nextManagedAgentDeadline
  split at hDue
  next =>
    exact due_some.2 ((min_le_right _ _).trans (due_some.1 hDue))
  next => exact absurd hDue not_due_none

section Last

variable (around : Surroundings now)

theorem OnlyMetadata.keeps {t : AppLoop} (hOnly : OnlyMetadata now s t) :
  Keeps now needsRender s t := by
  have hManaged : ∀ id, (t.terminals.lookup id).map (·.managedAgent) =
      (s.terminals.lookup id).map (·.managedAgent) := by
    intro id
    have hLaunch := congrArg (Option.map Prod.fst) (hOnly.launches id)
    rwa [Option.map_map, Option.map_map] at hLaunch
  have hRest := hOnly.rest
  intro timer hLater
  cases timer with
  | pendingAgentNotification =>
    apply later_nextPending.2
    intro paneId pending hLookup
    rcases hOnly.pending paneId pending hLookup with hBefore | hAfter
    · exact later_nextPending.1 hLater paneId pending hBefore
    · exact hAfter
  | managedAgent =>
    apply later_nextManagedAgentDeadline.2
    intro id
    rw [nextManagedAgentDeadline_congr (hManaged id)]
    exact later_nextManagedAgentDeadline.1 hLater id
  | gitRefresh =>
    have hGit : t.gitRefreshDeadline = s.gitRefreshDeadline := by
      rw [hRest]
      exact gitRefreshDeadline_allSeen hOnly.workspaces
    change Later now t.gitRefreshDeadline
    rw [hGit]
    exact hLater
  | _ =>
    rw [hRest]
    exact hLater

theorem expireDueMetadata_of_due (hDue : Due now s.agentMetadataDeadline) :
  ∃ d, s.expireDueMetadata around = s.expireMetadataAt around d := by
  obtain ⟨d, hDeadline, hDue⟩ := due_iff.1 hDue
  refine ⟨d, ?_⟩
  unfold expireDueMetadata
  rw [hDeadline]
  exact if_pos hDue

theorem expireDueMetadata_of_later (hLater : Later now s.agentMetadataDeadline) :
  s.expireDueMetadata around = s := by
  unfold expireDueMetadata
  split
  · rfl
  next d hDeadline => exact if_neg (not_le.2 (hLater d hDeadline))

/-- The expiry keeps the other timers later; its own is later exactly if what no pane
shows had been settled. -/
theorem expireDueMetadata_spec :
  let t := s.expireDueMetadata around
  OnlyMetadata now s { t with agentMetadataDeadline := s.agentMetadataDeadline } ∧
    (Later now t.agentMetadataDeadline ↔
      (Due now s.agentMetadataDeadline → s.UnshownMetadataSettled now)) := by
  by_cases hDue : Due now s.agentMetadataDeadline
  · obtain ⟨d, hExpired⟩ := expireDueMetadata_of_due around hDue
    obtain ⟨hOnly, hLater⟩ := @expireMetadataAt_spec s now around d
    rw [hExpired]
    refine ⟨hOnly, hLater.trans ?_⟩
    exact ⟨fun hSettled _ => hSettled, fun hSettled => hSettled hDue⟩
  · rw [expireDueMetadata_of_later around (not_due_iff.1 hDue)]
    refine ⟨OnlyMetadata.refl, ?_⟩
    exact ⟨fun _ hNow => absurd hNow hDue, fun _ => not_due_iff.1 hDue⟩

theorem keeps_expireDueMetadata {timer : Timer} (hOther : timer ≠ .agentMetadata)
  (hLater : Later now (s.deadline now needsRender timer)) :
  Later now ((s.expireDueMetadata around).deadline now needsRender timer) := by
  have hKept := (@expireDueMetadata_spec s now around).1.keeps timer hLater
  cases timer with
  | agentMetadata => contradiction
  | _ => exact hKept

variable {candidate : PendingAgentResumeCandidate}

theorem candidate_eq_some {tab : Tab} {paneId : PaneId} :
  s.pendingAgentResumeCandidate tab paneId = some candidate ↔
    tab.terminalId paneId = some candidate.terminalId ∧
      candidate.terminalId ∉ s.terminalRuntimes ∧
      s.planOf candidate.terminalId = some candidate.plan ∧ candidate.paneId = paneId := by
  unfold pendingAgentResumeCandidate
  constructor
  · intro hSome
    obtain ⟨terminalId, hTerminal, hSome⟩ := Option.bind_eq_some_iff.1 hSome
    split at hSome
    next => cases hSome
    next hIdle =>
      obtain ⟨plan, hPlan, hSome⟩ := Option.bind_eq_some_iff.1 hSome
      cases hSome
      exact ⟨hTerminal, hIdle, hPlan, rfl⟩
  · rintro ⟨hTerminal, hIdle, hPlan, rfl⟩
    simp [hTerminal, hIdle, hPlan]

/-- The candidates come from the panes on view, whatever the terminals are. -/
theorem mem_pendingAgentResumeCandidates :
  candidate ∈ s.pendingAgentResumeCandidates ↔
    ¬(s.terminalArea.width = 0 ∨ s.terminalArea.height = 0) ∧
    ∃ ws wsIdx, (ws, wsIdx) ∈ s.workspaces.zipIdx ∧ ∃ tab tabIdx, (tab, tabIdx) ∈ ws.tabs.zipIdx ∧
      candidate.paneId ∈ s.pendingAgentResumePaneIds wsIdx tabIdx ws tab ∧
      s.pendingAgentResumeCandidate tab candidate.paneId = some candidate := by
  unfold pendingAgentResumeCandidates
  split
  next hHidden => simp [hHidden]
  next hShown =>
    simp only [List.mem_flatMap, List.mem_filterMap, Prod.exists]
    constructor
    · rintro ⟨ws, wsIdx, hWs, tab, tabIdx, hTab, paneId, hPane, hSome⟩
      obtain rfl := (candidate_eq_some.1 hSome).2.2.2
      exact ⟨hShown, ws, wsIdx, hWs, tab, tabIdx, hTab, hPane, hSome⟩
    · rintro ⟨-, ws, wsIdx, hWs, tab, tabIdx, hTab, hPane, hSome⟩
      exact ⟨ws, wsIdx, hWs, tab, tabIdx, hTab, candidate.paneId, hPane, hSome⟩

theorem candidate_idle (hMem : candidate ∈ s.pendingAgentResumeCandidates) :
  candidate.terminalId ∉ s.terminalRuntimes ∧
    s.planOf candidate.terminalId = some candidate.plan := by
  obtain ⟨_, _, _, _, tab, _, _, _, hSome⟩ := mem_pendingAgentResumeCandidates.1 hMem
  obtain ⟨_, hIdle, hPlan, _⟩ := candidate_eq_some.1 hSome
  exact ⟨hIdle, hPlan⟩

theorem not_pending_or_empty :
  (!s.hasPendingAgentResumes || s.pendingAgentResumeCandidates.isEmpty) = true ↔
    s.pendingAgentResumeCandidates = [] := by
  rw [Bool.or_eq_true, List.isEmpty_iff]
  constructor
  · rintro (hNone | hEmpty)
    · apply List.eq_nil_iff_forall_not_mem.2
      intro candidate hMem
      obtain ⟨terminal, hLookup, hPlan⟩ := Option.bind_eq_some_iff.1 (candidate_idle hMem).2
      have hHas : s.hasPendingAgentResumes = true :=
        List.any_eq_true.2 ⟨⟨candidate.terminalId, terminal⟩, FinMap.mem_entries_iff.2 hLookup, by
          rw [hPlan]
          rfl⟩
      rw [hHas] at hNone
      cases hNone
    · exact hEmpty
  · exact Or.inr

theorem resumeResult_ne_none {allowEmptyTheme : Bool} {id : TerminalId}
  {candidates : List PendingAgentResumeCandidate}
  (hResult : s.resumeResult around allowEmptyTheme candidates id ≠ none) :
  ∃ candidate ∈ candidates, candidate.terminalId = id := by
  obtain ⟨start, hStart⟩ := Option.ne_none_iff_exists'.1 hResult
  obtain ⟨candidate, hMem, hSome⟩ := List.exists_of_findSome?_eq_some hStart
  refine ⟨candidate, hMem, ?_⟩
  by_contra hOther
  rw [if_neg hOther] at hSome
  cases hSome

section Started

variable {allowEmptyTheme : Bool}

/-- A candidate is left over exactly if nothing came of the attempts for its terminal. -/
theorem candidates_startEach_eq_nil :
  (s.startEach around allowEmptyTheme
    s.pendingAgentResumeCandidates).pendingAgentResumeCandidates = [] ↔
  ∀ candidate ∈ s.pendingAgentResumeCandidates,
    s.resumeResult around allowEmptyTheme s.pendingAgentResumeCandidates
      candidate.terminalId ≠ none := by
  have hOnly := @onlyShells_startEach s now around allowEmptyTheme s.pendingAgentResumeCandidates
  have hResumed := fun id => @resumed_startEach s now around allowEmptyTheme
    s.pendingAgentResumeCandidates id
  have hStill := fun id => @startEach_running s now around allowEmptyTheme
    s.pendingAgentResumeCandidates id
  set t := s.startEach around allowEmptyTheme s.pendingAgentResumeCandidates
  constructor
  · intro hEmpty candidate hMem hNone
    obtain ⟨hIdle, hPlan⟩ := candidate_idle hMem
    have hAfter := hResumed candidate.terminalId hIdle
    rw [hNone] at hAfter
    obtain ⟨hStillIdle, hLookup⟩ := hAfter
    obtain ⟨hShown, ws, wsIdx, hWs, tab, tabIdx, hTab, hPane, hSome⟩ :=
      mem_pendingAgentResumeCandidates.1 hMem
    have hLeft : candidate ∈ t.pendingAgentResumeCandidates := by
      apply mem_pendingAgentResumeCandidates.2
      refine ⟨?_, ws, wsIdx, ?_, tab, tabIdx, hTab, ?_, ?_⟩
      · rw [hOnly]
        exact hShown
      · rw [hOnly]
        exact hWs
      · rw [hOnly]
        exact hPane
      · apply candidate_eq_some.2
        refine ⟨(candidate_eq_some.1 hSome).1, hStillIdle, ?_, rfl⟩
        unfold planOf at hPlan ⊢
        rw [hLookup]
        exact hPlan
    rw [hEmpty] at hLeft
    exact List.not_mem_nil hLeft
  · intro hSettled
    apply List.eq_nil_iff_forall_not_mem.2
    intro candidate hMem
    obtain ⟨hIdleAfter, hPlanAfter⟩ := candidate_idle hMem
    have hIdle : candidate.terminalId ∉ s.terminalRuntimes := fun hRunning =>
      hIdleAfter (hStill candidate.terminalId hRunning).2
    have hAfter := hResumed candidate.terminalId hIdle
    obtain ⟨terminal, hLookup, hPlan⟩ := Option.bind_eq_some_iff.1 hPlanAfter
    obtain ⟨hShown, ws, wsIdx, hWs, tab, tabIdx, hTab, hPane, hSome⟩ :=
      mem_pendingAgentResumeCandidates.1 hMem
    have hBefore : ∀ plan, s.planOf candidate.terminalId = some plan →
        ⟨candidate.paneId, candidate.terminalId, plan⟩ ∈ s.pendingAgentResumeCandidates := by
      intro plan hPlanBefore
      apply mem_pendingAgentResumeCandidates.2
      rw [hOnly] at hShown hWs hPane
      exact ⟨hShown, ws, wsIdx, hWs, tab, tabIdx, hTab, hPane,
        candidate_eq_some.2 ⟨(candidate_eq_some.1 hSome).1, hIdle, hPlanBefore, rfl⟩⟩
    cases hResult : s.resumeResult around allowEmptyTheme s.pendingAgentResumeCandidates
        candidate.terminalId with
    | none =>
      rw [hResult] at hAfter
      have hPlanBefore : s.planOf candidate.terminalId = some candidate.plan := by
        unfold planOf at hPlanAfter ⊢
        rw [← hAfter.2]
        exact hPlanAfter
      exact hSettled _ (hBefore candidate.plan hPlanBefore) hResult
    | some start =>
      rw [hResult] at hAfter
      cases start with
      | started => exact hIdleAfter hAfter.1
      | spawnFailed =>
        have hLaunch := congrArg Prod.snd (hAfter terminal hLookup)
        change terminal.pendingAgentResumePlan = none at hLaunch
        rw [hLaunch] at hPlan
        cases hPlan
      | sendFailed =>
        obtain ⟨other, _, hFound⟩ := List.exists_of_findSome?_eq_some hResult
        split at hFound
        · exact absurd (Option.filter_eq_some_iff.1 hFound).2 (by decide)
        · cases hFound

/-- What starting the shells does to the launches. -/
theorem nextManagedAgentDeadline_startEach (id : TerminalId) :
  (((s.startEach around allowEmptyTheme s.pendingAgentResumeCandidates).terminals.lookup id).bind
      (·.nextManagedAgentDeadline)) =
    if s.resumeResult around allowEmptyTheme s.pendingAgentResumeCandidates id =
      some .spawnFailed then none
    else (s.terminals.lookup id).bind (·.nextManagedAgentDeadline) := by
  by_cases hRunning : id ∈ s.terminalRuntimes
  · have hResult : s.resumeResult around allowEmptyTheme s.pendingAgentResumeCandidates id =
        none := by
      by_contra hSome
      obtain ⟨candidate, hMem, hSame⟩ := resumeResult_ne_none around hSome
      exact (candidate_idle hMem).1 (hSame ▸ hRunning)
    rw [(startEach_running around allowEmptyTheme _ hRunning).1, hResult]
    rfl
  · have hAfter := @resumed_startEach s now around allowEmptyTheme s.pendingAgentResumeCandidates
      id hRunning
    cases hResult : s.resumeResult around allowEmptyTheme s.pendingAgentResumeCandidates id with
    | none =>
      rw [hResult] at hAfter
      rw [hAfter.2]
      rfl
    | some start =>
      rw [hResult] at hAfter
      cases start with
      | started =>
        rw [nextManagedAgentDeadline_congr hAfter.2]
        rfl
      | sendFailed =>
        rw [hAfter.2]
        rfl
      | spawnFailed =>
        rw [if_pos rfl]
        cases hLookup : (s.startEach around allowEmptyTheme
            s.pendingAgentResumeCandidates).terminals.lookup id with
        | none => rfl
        | some terminal =>
          have hManaged : terminal.managedAgent = none :=
            congrArg Prod.fst (hAfter terminal hLookup)
          simp [TerminalState.nextManagedAgentDeadline, hManaged]

/-- The shells are started, a save may be scheduled, and the deadline goes if no
candidate is left. -/
theorem startPendingAgentResumes_eq :
  ∃ u, Quiet (s.startEach around allowEmptyTheme s.pendingAgentResumeCandidates) u ∧
    Keeps now needsRender (s.startEach around allowEmptyTheme s.pendingAgentResumeCandidates) u ∧
    s.startPendingAgentResumes around allowEmptyTheme =
      if u.pendingAgentResumeCandidates = [] then { u with pendingAgentResumeDeadline := none }
      else u := by
  have hFst :=
    @startCandidates_fst s now around allowEmptyTheme s.pendingAgentResumeCandidates false
  unfold startPendingAgentResumes startCandidates
  generalize hStarted : (s.pendingAgentResumeCandidates.foldl _ (s, false)) = started
  obtain ⟨t, changed⟩ := started
  have hStart : t = s.startEach around allowEmptyTheme s.pendingAgentResumeCandidates := by
    rw [← hFst]
    exact (congrArg Prod.fst hStarted).symm
  subst hStart
  dsimp only
  cases changed with
  | false =>
    refine ⟨_, Quiet.refl, fun _ hLater => hLater, ?_⟩
    rw [if_neg Bool.false_ne_true]
    exact if_congr not_pending_or_empty rfl rfl
  | true =>
    refine ⟨_, quiet_scheduleSessionSave around.resumeSave.time,
      keeps_scheduleSessionSave around.resumeSave, ?_⟩
    rw [if_pos rfl]
    exact if_congr not_pending_or_empty rfl rfl

end Started

theorem syncPendingAgentResumeDeadline_eq : s.syncPendingAgentResumeDeadline now =
  { s with pendingAgentResumeDeadline :=
      if s.pendingAgentResumeCandidates = [] then none
      else some (s.pendingAgentResumeDeadline.getD (now + pendingAgentResumeThemeWait)) } := by
  have hEmpty := @not_pending_or_empty s
  unfold syncPendingAgentResumeDeadline
  by_cases hNil : s.pendingAgentResumeCandidates = []
  · rw [if_pos (hEmpty.2 hNil), if_pos hNil]
  · rw [if_neg fun hBoth => hNil (hEmpty.1 hBoth), if_neg hNil]

theorem due_themeWait {deadline : Option Instant} :
  Due now (some (deadline.getD (now + pendingAgentResumeThemeWait))) ↔ Due now deadline := by
  cases deadline with
  | none =>
    have hLater : now < now + pendingAgentResumeThemeWait :=
      lt_add_milliseconds le_rfl (by decide)
    rw [Option.getD_none, due_some]
    exact ⟨fun hLe => absurd hLe (not_le.2 hLater), fun hNone => absurd hNone not_due_none⟩
  | some d => rfl

/-- What comes of a terminal's resume when the resumes are tried. -/
def resumeOutcome (s : AppLoop) {now : Instant} (around : Surroundings now) (id : TerminalId) :
  Option ShellStart :=
  s.resumeResult around (decide (Due now s.pendingAgentResumeDeadline))
    s.pendingAgentResumeCandidates id

theorem resumeOutcome_sync (id : TerminalId) :
  (s.syncPendingAgentResumeDeadline now).resumeResult around
    ((s.syncPendingAgentResumeDeadline now).pendingAgentResumeDue now)
    s.pendingAgentResumeCandidates id = s.resumeOutcome around id := by
  rw [syncPendingAgentResumeDeadline_eq]
  unfold pendingAgentResumeDue resumeOutcome
  split
  next hNil =>
    rw [hNil]
    rfl
  next =>
    simp only [due_themeWait]
    rfl

theorem candidates_sync :
  (s.syncPendingAgentResumeDeadline now).pendingAgentResumeCandidates =
    s.pendingAgentResumeCandidates := by
  rw [syncPendingAgentResumeDeadline_eq]
  rfl

/-- A run that resumes agents: the deadline is settled, shells are started, and the
deadline goes if no candidate is left. -/
theorem resumeAgents_clean :
  let t := s.syncPendingAgentResumeDeadline now
  let started := t.startEach around (t.pendingAgentResumeDue now) s.pendingAgentResumeCandidates
  OnlyShells t started ∧ ∃ u, Quiet started u ∧ Keeps now needsRender started u ∧
    s.resumeAgents around false =
      if u.pendingAgentResumeCandidates = [] then { u with pendingAgentResumeDeadline := none }
      else u := by
  have hEq := @startPendingAgentResumes_eq (s.syncPendingAgentResumeDeadline now) now needsRender
    around ((s.syncPendingAgentResumeDeadline now).pendingAgentResumeDue now)
  rw [candidates_sync] at hEq
  exact ⟨onlyShells_startEach .., hEq⟩

theorem nextManagedAgentDeadline_resumeAgents (geometryDirty : Bool) (id : TerminalId) :
  ((s.resumeAgents around geometryDirty).terminals.lookup id).bind (·.nextManagedAgentDeadline) =
    if geometryDirty = false ∧ s.resumeOutcome around id = some .spawnFailed then none
    else (s.terminals.lookup id).bind (·.nextManagedAgentDeadline) := by
  cases geometryDirty with
  | true => rfl
  | false =>
    obtain ⟨-, u, hQuiet, -, hResumed⟩ := @resumeAgents_clean s now false around
    have hTerminals : (s.resumeAgents around false).terminals = u.terminals := by
      rw [hResumed]
      split <;> rfl
    have hStarted := @nextManagedAgentDeadline_startEach (s.syncPendingAgentResumeDeadline now)
      now around ((s.syncPendingAgentResumeDeadline now).pendingAgentResumeDue now) id
    rw [candidates_sync, resumeOutcome_sync] at hStarted
    rw [hTerminals, hQuiet.terminals, hStarted, syncPendingAgentResumeDeadline_eq]
    simp

theorem keeps_resumeAgents (geometryDirty : Bool) {timer : Timer}
  (hOther : timer ≠ .pendingAgentResume) (hLater : Later now (s.deadline now needsRender timer)) :
  Later now ((s.resumeAgents around geometryDirty).deadline now needsRender timer) := by
  by_cases hManaged : timer = .managedAgent
  · subst hManaged
    apply later_nextManagedAgentDeadline.2
    intro id
    rw [nextManagedAgentDeadline_resumeAgents]
    split
    · exact later_none
    · exact later_nextManagedAgentDeadline.1 hLater id
  · cases geometryDirty with
    | true =>
      cases timer with
      | pendingAgentResume => contradiction
      | _ => exact hLater
    | false =>
      obtain ⟨hOnly, u, -, hKeeps, hResumed⟩ := @resumeAgents_clean s now needsRender around
      have hStarted : Later now (((s.syncPendingAgentResumeDeadline now).startEach around
          ((s.syncPendingAgentResumeDeadline now).pendingAgentResumeDue now)
          s.pendingAgentResumeCandidates).deadline now needsRender timer) := by
        rw [hOnly, syncPendingAgentResumeDeadline_eq]
        cases timer with
        | managedAgent => contradiction
        | pendingAgentResume => contradiction
        | _ => exact hLater
      have hAfter := hKeeps timer hStarted
      rw [hResumed]
      split
      · cases timer with
        | pendingAgentResume => contradiction
        | _ => exact hAfter
      · exact hAfter

theorem agentMetadataDeadline_resumeAgents (geometryDirty : Bool) :
  (s.resumeAgents around geometryDirty).agentMetadataDeadline = s.agentMetadataDeadline := by
  cases geometryDirty with
  | true => rfl
  | false =>
    obtain ⟨hOnly, u, hQuiet, -, hResumed⟩ := @resumeAgents_clean s now false around
    have hSame : (s.resumeAgents around false).agentMetadataDeadline =
        u.agentMetadataDeadline := by
      rw [hResumed]
      split <;> rfl
    rw [hSame, hQuiet.agentMetadataDeadline, hOnly, syncPendingAgentResumeDeadline_eq]

/-- The resume deadline is consumed exactly if something comes of every candidate. -/
theorem later_resumeAgents (geometryDirty : Bool) :
  Later now (s.resumeAgents around geometryDirty).pendingAgentResumeDeadline ↔
    (Due now s.pendingAgentResumeDeadline → geometryDirty = false →
      ∀ candidate ∈ s.pendingAgentResumeCandidates,
        s.resumeOutcome around candidate.terminalId ≠ none) := by
  cases geometryDirty with
  | true => simp [resumeAgents]
  | false =>
    obtain ⟨hOnly, u, hQuiet, -, hResumed⟩ := @resumeAgents_clean s now false around
    have hLeft := @candidates_startEach_eq_nil (s.syncPendingAgentResumeDeadline now) now around
      ((s.syncPendingAgentResumeDeadline now).pendingAgentResumeDue now)
    rw [candidates_sync] at hLeft
    simp only [resumeOutcome_sync] at hLeft
    rw [← hQuiet.sameResumes.candidates] at hLeft
    have hDeadline : u.pendingAgentResumeDeadline =
        if s.pendingAgentResumeCandidates = [] then none
        else some (s.pendingAgentResumeDeadline.getD (now + pendingAgentResumeThemeWait)) := by
      rw [hQuiet.pendingAgentResumeDeadline, hOnly, syncPendingAgentResumeDeadline_eq]
    rw [hResumed, ← hLeft]
    by_cases hGone : u.pendingAgentResumeCandidates = []
    · rw [if_pos hGone]
      exact ⟨fun _ _ _ => hGone, fun _ => later_none⟩
    rw [if_neg hGone, hDeadline]
    have hSome : s.pendingAgentResumeCandidates ≠ [] := by
      intro hNil
      apply hGone
      rw [hLeft, hNil]
      intro candidate hMem
      exact absurd hMem List.not_mem_nil
    rw [if_neg hSome, ← not_due_iff, due_themeWait]
    exact ⟨fun hNot hDue => absurd hDue hNot, fun hAll hDue => hGone (hAll hDue rfl)⟩

end Last

end App.AppLoop
