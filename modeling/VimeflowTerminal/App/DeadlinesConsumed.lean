import VimeflowTerminal.App.LastTasks

/-! What a run of the scheduled tasks leaves of the deadlines that had passed. What is not
consumed belongs to the expiry of metadata, the pending resumes and, in the headless loop,
the launches of agents. -/

namespace App.AppLoop

open Layout Workspaces Terminal Deadlines

variable {s : AppLoop} {now : Instant} {needsRender : Bool}

/-! ## Whole runs of the tasks -/

section Runs

variable (around : Surroundings now)

/-- What a loop has to consume: of the timers it takes into account those that are due,
and of the launches those that have reached their deadline. -/
structure Consumes (timers : List Timer) (now : Instant) (needsRender : Bool) (s t : AppLoop) :
  Prop where
  timers : ∀ timer ∈ timers, Due now (s.deadline now needsRender timer) →
    Later now (t.deadline now needsRender timer)
  launches : ∀ id terminal, s.terminals.lookup id = some terminal →
    Due now terminal.managedAgentLaunchDeadline →
      ∀ after, t.terminals.lookup id = some after → after.managedAgentLaunchPending = false

/-- No launch is due but one whose identity is dropped because the shell that was to
resume its terminal's agent cannot be spawned in the same run. -/
def LaunchesSettled (s : AppLoop) {now : Instant} (around : Surroundings now)
  (geometryDirty : Bool) : Prop :=
  ∀ id terminal, s.terminals.lookup id = some terminal →
    Due now terminal.nextManagedAgentDeadline →
      geometryDirty = false ∧ s.resumeOutcome around id = some .spawnFailed

/-- Metadata that is due is not owed for a terminal that no pane shows. -/
def MetadataSettled (s : AppLoop) (now : Instant) : Prop :=
  Due now s.agentMetadataDeadline → s.UnshownMetadataSettled now

/-- Something comes of every resume that is due while the panes keep their sizes. -/
def ResumesSettled (s : AppLoop) {now : Instant} (around : Surroundings now)
  (geometryDirty : Bool) : Prop :=
  Due now s.pendingAgentResumeDeadline → geometryDirty = false →
    ∀ candidate ∈ s.pendingAgentResumeCandidates,
      s.resumeOutcome around candidate.terminalId ≠ none

variable {t : AppLoop} {timer : Timer}

theorem SameResumes.resumeOutcome (hSame : SameResumes s t)
  (hDeadline : t.pendingAgentResumeDeadline = s.pendingAgentResumeDeadline) (id : TerminalId) :
  t.resumeOutcome around id = s.resumeOutcome around id := by
  unfold AppLoop.resumeOutcome resumeResult
  rw [hSame.candidates, hDeadline]
  simp only [hSame.resumeAttempt]

/-- The tasks that come last in both loops. -/
def lastTasks (s : AppLoop) {now : Instant} (around : Surroundings now) (geometryDirty : Bool) :
  AppLoop :=
  (s.expireDueMetadata around).resumeAgents around geometryDirty

theorem keeps_lastTasks (geometryDirty : Bool) (hMetadata : timer ≠ .agentMetadata)
  (hResume : timer ≠ .pendingAgentResume)
  (hLater : Later now (s.deadline now needsRender timer)) :
  Later now ((s.lastTasks around geometryDirty).deadline now needsRender timer) :=
  keeps_resumeAgents around geometryDirty hResume (keeps_expireDueMetadata around hMetadata hLater)

theorem agentMetadata_lastTasks (geometryDirty : Bool) :
  Later now (s.lastTasks around geometryDirty).agentMetadataDeadline ↔ s.MetadataSettled now := by
  unfold lastTasks
  rw [agentMetadataDeadline_resumeAgents]
  exact (expireDueMetadata_spec around).2

theorem sameResumes_expireDueMetadata : SameResumes s (s.expireDueMetadata around) ∧
  (s.expireDueMetadata around).pendingAgentResumeDeadline = s.pendingAgentResumeDeadline ∧
  ∀ id, ((s.expireDueMetadata around).terminals.lookup id).map (·.managedAgent) =
    (s.terminals.lookup id).map (·.managedAgent) := by
  have hOnly := (@expireDueMetadata_spec s now around).1
  obtain ⟨hWorkspaces, hActive, hArea, hInfos, hRuntimes, hTheme, hPlans⟩ := hOnly.sameResumes
  refine ⟨⟨hWorkspaces, hActive, hArea, hInfos, hRuntimes, hTheme, hPlans⟩, ?_, ?_⟩
  · have hRest := congrArg AppLoop.pendingAgentResumeDeadline hOnly.rest
    exact hRest
  intro id
  have hLaunch := congrArg (Option.map Prod.fst) (hOnly.launches id)
  rwa [Option.map_map, Option.map_map] at hLaunch

theorem pendingAgentResume_lastTasks (geometryDirty : Bool) :
  Later now (s.lastTasks around geometryDirty).pendingAgentResumeDeadline ↔
    s.ResumesSettled around geometryDirty := by
  obtain ⟨hSame, hDeadline, _⟩ := @sameResumes_expireDueMetadata s now around
  unfold lastTasks ResumesSettled
  rw [later_resumeAgents, hDeadline, hSame.candidates]
  simp only [hSame.resumeOutcome around hDeadline]

theorem managedAgent_lastTasks (geometryDirty : Bool) (id : TerminalId) :
  ((s.lastTasks around geometryDirty).terminals.lookup id).bind (·.nextManagedAgentDeadline) =
    if geometryDirty = false ∧ s.resumeOutcome around id = some .spawnFailed then none
    else (s.terminals.lookup id).bind (·.nextManagedAgentDeadline) := by
  obtain ⟨hSame, hDeadline, hManaged⟩ := @sameResumes_expireDueMetadata s now around
  unfold lastTasks
  rw [nextManagedAgentDeadline_resumeAgents, hSame.resumeOutcome around hDeadline,
    nextManagedAgentDeadline_congr (hManaged id)]

/-- An agent whose launch is pending has a deadline. -/
theorem launchPending_of_next {terminal : TerminalState}
  (hNone : terminal.nextManagedAgentDeadline = none) :
  terminal.managedAgentLaunchPending = false := by
  unfold TerminalState.nextManagedAgentDeadline at hNone
  unfold TerminalState.managedAgentLaunchPending
  cases hManaged : terminal.managedAgent with
  | none => rfl
  | some managed =>
    obtain ⟨kind, phase⟩ := managed
    cases phase with
    | active => rfl
    | pending => simp [hManaged] at hNone

/-! ## The headless loop -/

/-- The headless tasks before the last ones. -/
def headlessTasks (s : AppLoop) {now : Instant} (around : Surroundings now) (hasAppClient : Bool) :
  AppLoop :=
  let s := s.tickIslandAnimation around
  let s := s.clearDueConfigDiagnostic now
  let s := s.clearDueToast now
  let s := s.deliverDueNotifications around
  let s := s.clearDueCopyFeedback now
  let s := s.runDueSelectionAutoscroll around
  let s := s.clearDueSelectionHighlight now
  let s := s.startGitStatusRefreshForClients around hasAppClient
  let s := s.runDueAutoUpdateCheck around
  let s := s.runDueAgentManifestUpdateCheck around
  s.runDueSessionSave around

theorem handleScheduledTasksHeadless_eq (hasAppClient geometryDirty : Bool) :
  s.handleScheduledTasksHeadless around hasAppClient geometryDirty =
    (s.headlessTasks around hasAppClient).lastTasks around geometryDirty := rfl

/-- The headless tasks before the last ones, each with its timer. -/
def headlessList {now : Instant} (around : Surroundings now) (hasAppClient : Bool) : List Task :=
  [(.islandAnimationTick, fun s => s.tickIslandAnimation around),
    (.configDiagnostic, fun s => s.clearDueConfigDiagnostic now),
    (.toast, fun s => s.clearDueToast now),
    (.pendingAgentNotification, fun s => s.deliverDueNotifications around),
    (.copyFeedback, fun s => s.clearDueCopyFeedback now),
    (.selectionAutoscroll, fun s => s.runDueSelectionAutoscroll around),
    (.selectionHighlightClear, fun s => s.clearDueSelectionHighlight now),
    (if hasAppClient then .gitRefresh else .render,
      fun s => s.startGitStatusRefreshForClients around hasAppClient),
    (.autoUpdateCheck, fun s => s.runDueAutoUpdateCheck around),
    (.agentManifestUpdateCheck, fun s => s.runDueAgentManifestUpdateCheck around),
    (.sessionSave, fun s => s.runDueSessionSave around)]

theorem headlessTasks_eq (hasAppClient : Bool) :
  s.headlessTasks around hasAppClient = runTasks (headlessList around hasAppClient) s := by
  simp only [headlessTasks, runTasks, headlessList, List.foldl_cons, List.foldl_nil]

theorem tended_headless (hasAppClient : Bool) :
  Tended now needsRender (headlessList around hasAppClient) := by
  simp only [Tended, headlessList, List.forall_mem_cons, List.not_mem_nil, false_implies,
    implies_true, and_true]
  exact ⟨fun _ => tends_tickIslandAnimation around, fun _ => tends_clearDueConfigDiagnostic,
    fun _ => tends_clearDueToast, fun _ => tends_deliverDueNotifications around,
    fun _ => tends_clearDueCopyFeedback, fun _ => tends_runDueSelectionAutoscroll around,
    fun _ => tends_clearDueSelectionHighlight,
    fun _ => tends_startGitStatusRefreshForClients around hasAppClient,
    fun _ => tends_runDueAutoUpdateCheck around,
    fun _ => tends_runDueAgentManifestUpdateCheck around, fun _ => tends_runDueSessionSave around⟩

theorem quiet_headlessTasks (hasAppClient : Bool) :
  Quiet s (s.headlessTasks around hasAppClient) := by
  rw [headlessTasks_eq]
  exact (@tended_headless now false around hasAppClient).quiet

theorem later_headlessTasks (hasAppClient : Bool) {timer : Timer}
  (hMem : timer ∈ timers false hasAppClient)
  (hManaged : timer ≠ .managedAgent) (hMetadata : timer ≠ .agentMetadata)
  (hResume : timer ≠ .pendingAgentResume) :
  Later now ((s.headlessTasks around hasAppClient).deadline now needsRender timer) := by
  by_cases hRender : timer = .render
  · rw [hRender]
    exact later_render
  rw [headlessTasks_eq]
  apply (tended_headless around hasAppClient).later
  cases hasAppClient <;> cases timer <;> simp_all [headlessList, timers]

theorem Quiet.metadataSettled (hQuiet : Quiet s t) :
  t.MetadataSettled now ↔ s.MetadataSettled now := by
  have hShown : paneTerminals t.workspaces = paneTerminals s.workspaces := by
    rw [← paneTerminals_allSeen, hQuiet.workspaces, paneTerminals_allSeen]
  unfold MetadataSettled UnshownMetadataSettled
  rw [hQuiet.agentMetadataDeadline, hQuiet.terminals, hQuiet.metadataTokens, hShown]

theorem Quiet.resumesSettled (hQuiet : Quiet s t) (geometryDirty : Bool) :
  t.ResumesSettled around geometryDirty ↔ s.ResumesSettled around geometryDirty := by
  unfold ResumesSettled
  rw [hQuiet.pendingAgentResumeDeadline, hQuiet.sameResumes.candidates]
  simp only [hQuiet.sameResumes.resumeOutcome around hQuiet.pendingAgentResumeDeadline]

theorem managedAgent_headless (hasAppClient geometryDirty : Bool) (id : TerminalId) :
  ((s.handleScheduledTasksHeadless around hasAppClient geometryDirty).terminals.lookup id).bind
      (·.nextManagedAgentDeadline) =
    if geometryDirty = false ∧ s.resumeOutcome around id = some .spawnFailed then none
    else (s.terminals.lookup id).bind (·.nextManagedAgentDeadline) := by
  have hQuiet := @quiet_headlessTasks s now around hasAppClient
  rw [handleScheduledTasksHeadless_eq, managedAgent_lastTasks, hQuiet.terminals,
    hQuiet.sameResumes.resumeOutcome around hQuiet.pendingAgentResumeDeadline]

/-- **The headless loop.** It consumes what is due exactly if no launch is due that it would
have to reconcile, nothing overdue is owed for a terminal that no pane shows, and something
comes of every resume that is due. -/
theorem headless_consumes_iff (hasAppClient geometryDirty : Bool) :
  Consumes (timers false hasAppClient) now needsRender s
      (s.handleScheduledTasksHeadless around hasAppClient geometryDirty) ↔
    s.LaunchesSettled around geometryDirty ∧ s.MetadataSettled now ∧
      s.ResumesSettled around geometryDirty := by
  have hQuiet := @quiet_headlessTasks s now around hasAppClient
  have hManaged := @managedAgent_headless s now around hasAppClient geometryDirty
  have hMetadata : Later now (s.handleScheduledTasksHeadless around hasAppClient
      geometryDirty).agentMetadataDeadline ↔ s.MetadataSettled now :=
    (agentMetadata_lastTasks around geometryDirty).trans hQuiet.metadataSettled
  have hResumes : Later now (s.handleScheduledTasksHeadless around hasAppClient
      geometryDirty).pendingAgentResumeDeadline ↔ s.ResumesSettled around geometryDirty :=
    (pendingAgentResume_lastTasks around geometryDirty).trans
      (hQuiet.resumesSettled around geometryDirty)
  constructor
  · intro hConsumes
    refine ⟨?_, ?_, ?_⟩
    · intro id terminal hLookup hDue
      have hDueAny : Due now s.nextManagedAgentDeadline := by
        by_contra hNot
        have hLater := later_nextManagedAgentDeadline.1 (not_due_iff.1 hNot) id
        rw [hLookup] at hLater
        exact hLater.not_due hDue
      have hAfter := hConsumes.timers .managedAgent (by cases hasAppClient <;> decide) hDueAny
      have hHere := later_nextManagedAgentDeadline.1 hAfter id
      rw [hManaged] at hHere
      split at hHere
      next hBoth => exact hBoth
      next =>
        rw [hLookup] at hHere
        exact absurd hDue hHere.not_due
    · intro hDue
      exact (hMetadata.1 (hConsumes.timers .agentMetadata (by cases hasAppClient <;> decide)
        hDue)) hDue
    · intro hDue
      exact (hResumes.1 (hConsumes.timers .pendingAgentResume (by cases hasAppClient <;> decide)
        hDue)) hDue
  · rintro ⟨hLaunches, hMetadataSettled, hResumesSettled⟩
    constructor
    · intro timer hMem _
      by_cases hIsManaged : timer = .managedAgent
      · subst hIsManaged
        apply later_nextManagedAgentDeadline.2
        intro id
        rw [hManaged]
        split
        · exact later_none
        next hNot =>
          cases hLookup : s.terminals.lookup id with
          | none => exact later_none
          | some terminal =>
            exact not_due_iff.1 fun hDue => hNot (hLaunches id terminal hLookup hDue)
      · by_cases hIsMetadata : timer = .agentMetadata
        · subst hIsMetadata
          exact hMetadata.2 hMetadataSettled
        · by_cases hIsResume : timer = .pendingAgentResume
          · subst hIsResume
            exact hResumes.2 hResumesSettled
          · exact keeps_lastTasks around geometryDirty hIsMetadata hIsResume
              (later_headlessTasks around hasAppClient hMem hIsManaged hIsMetadata hIsResume)
    · intro id terminal hLookup hDue after hAfter
      have hHere := hManaged id
      rw [if_pos (hLaunches id terminal hLookup (due_nextManagedAgentDeadline hDue)), hAfter]
        at hHere
      exact launchPending_of_next hHere

/-! ## The monolithic loop -/

/-- Reconciling a launch touches the agent's name and nothing else. -/
theorem reconcileManagedAgentAt_eq (terminal : TerminalState) :
  ∃ name owner managed, (terminal.reconcileManagedAgentAt now false).1 =
    { terminal with agentName := name, agentNameOwner := owner, managedAgent := managed } := by
  unfold TerminalState.reconcileManagedAgentAt TerminalState.reconcilePendingAgent
  split
  · exact ⟨_, _, _, rfl⟩
  dsimp only
  split
  · split <;> exact ⟨_, _, _, rfl⟩
  split
  · exact ⟨_, _, _, rfl⟩
  split
  · exact ⟨_, _, _, rfl⟩
  split
  · exact ⟨_, _, _, rfl⟩
  split
  · exact ⟨_, _, _, rfl⟩
  · split <;> exact ⟨_, _, _, rfl⟩

theorem reconcileDueManagedAgents_of_due (hDue : Due now s.nextManagedAgentDeadline) :
  ∃ reconciled, reconciled = { s with
      terminals := FinMap.mapValues s.terminals fun _ terminal =>
        (terminal.reconcileManagedAgentAt now false).1
      sessionDirty := reconciled.sessionDirty } ∧
    Quiet reconciled (s.reconcileDueManagedAgents around) ∧
    Keeps now needsRender reconciled (s.reconcileDueManagedAgents around) := by
  have hPanes : (s.reconcileManagedAgentsAt now).1 = { s with
      terminals := FinMap.mapValues s.terminals fun _ terminal =>
        (terminal.reconcileManagedAgentAt now false).1
      sessionDirty := (s.reconcileManagedAgentsAt now).1.sessionDirty } := by
    unfold reconcileManagedAgentsAt
    dsimp only
    split <;> rfl
  refine ⟨(s.reconcileManagedAgentsAt now).1, hPanes, ?_⟩
  unfold reconcileDueManagedAgents
  rw [if_pos hDue]
  dsimp only
  split
  · exact ⟨Quiet.refl, fun _ hLater => hLater⟩
  · exact ⟨quiet_scheduleSessionSave around.managedSave.time,
      keeps_scheduleSessionSave around.managedSave⟩

theorem handles_reconcileDueManagedAgents :
  Handles .managedAgent now needsRender s (s.reconcileDueManagedAgents around) := by
  by_cases hDue : Due now s.nextManagedAgentDeadline
  · obtain ⟨reconciled, hEq, _, hKeeps⟩ :=
      @reconcileDueManagedAgents_of_due s now needsRender around hDue
    constructor
    · intro timer hOther hLater
      apply hKeeps
      rw [hEq]
      cases timer with
      | managedAgent => contradiction
      | _ => exact hLater
    · apply hKeeps
      apply later_nextManagedAgentDeadline.2
      intro id
      rw [hEq]
      rw [FinMap.lookup_mapValues]
      cases s.terminals.lookup id with
      | none => exact later_none
      | some terminal => exact later_reconcileManagedAgentAt terminal
  · unfold reconcileDueManagedAgents
    rw [if_neg hDue]
    exact (Tends.idle hDue).toHandles

theorem sameResumes_reconcileDueManagedAgents :
  SameResumes s (s.reconcileDueManagedAgents around) ∧
    (s.reconcileDueManagedAgents around).pendingAgentResumeDeadline =
      s.pendingAgentResumeDeadline := by
  by_cases hDue : Due now s.nextManagedAgentDeadline
  · obtain ⟨reconciled, hEq, hQuiet, _⟩ :=
      @reconcileDueManagedAgents_of_due s now false around hDue
    have hReconciled : SameResumes s reconciled := by
      rw [hEq]
      refine ⟨rfl, rfl, rfl, rfl, rfl, rfl, ?_⟩
      intro id
      unfold planOf
      rw [FinMap.lookup_mapValues, Option.bind_map]
      congr 1
      funext terminal
      obtain ⟨name, owner, managed, hTerminal⟩ := @reconcileManagedAgentAt_eq now terminal
      exact congrArg (·.pendingAgentResumePlan) hTerminal
    refine ⟨hReconciled.trans hQuiet.sameResumes, ?_⟩
    rw [hQuiet.pendingAgentResumeDeadline, hEq]
  · unfold reconcileDueManagedAgents
    rw [if_neg hDue]
    exact ⟨Quiet.refl.sameResumes, rfl⟩

theorem metadataSettled_reconcileDueManagedAgents :
  (s.reconcileDueManagedAgents around).MetadataSettled now ↔ s.MetadataSettled now := by
  by_cases hDue : Due now s.nextManagedAgentDeadline
  · obtain ⟨reconciled, hEq, hQuiet, _⟩ :=
      @reconcileDueManagedAgents_of_due s now false around hDue
    rw [hQuiet.metadataSettled, hEq]
    unfold MetadataSettled UnshownMetadataSettled
    have hOverdue : ∀ terminal : TerminalState,
        (terminal.reconcileManagedAgentAt now false).1.MetadataOverdue now ↔
          terminal.MetadataOverdue now := by
      intro terminal
      obtain ⟨name, owner, managed, hTerminal⟩ := @reconcileManagedAgentAt_eq now terminal
      rw [hTerminal]
      rfl
    simp only [FinMap.lookup_mapValues, Option.map_eq_some_iff, forall_exists_index, and_imp,
      forall_apply_eq_imp_iff₂, hOverdue]
  · unfold reconcileDueManagedAgents
    rw [if_neg hDue]

/-- A launch past its deadline is over once the launches have been reconciled. -/
theorem launches_reconcileDueManagedAgents {id : TerminalId} {terminal : TerminalState}
  (hLookup : s.terminals.lookup id = some terminal)
  (hDue : Due now terminal.managedAgentLaunchDeadline) :
  ((s.reconcileDueManagedAgents around).terminals.lookup id).bind (·.nextManagedAgentDeadline) =
    none := by
  have hDueAny : Due now s.nextManagedAgentDeadline := by
    by_contra hNot
    have hLater := later_nextManagedAgentDeadline.1 (not_due_iff.1 hNot) id
    rw [hLookup] at hLater
    exact hLater.not_due (due_nextManagedAgentDeadline hDue)
  obtain ⟨reconciled, hEq, hQuiet, _⟩ :=
    @reconcileDueManagedAgents_of_due s now false around hDueAny
  rw [hQuiet.terminals, hEq]
  rw [FinMap.lookup_mapValues, hLookup]
  simp [TerminalState.nextManagedAgentDeadline, managedAgent_reconcileManagedAgentAt hDue]

/-- Whether the poll finds a new size of the terminal. -/
def resizes (s : AppLoop) {now : Instant} (around : Surroundings now) : Bool :=
  decide (s.nextResizePoll ≤ now) && around.terminalSize.any fun size =>
    s.lastTerminalSize != some size

theorem pollResize_snd :
  ((s.tickIslandAnimation around).pollResize around).2 = s.resizes around := by
  have hTick : (s.tickIslandAnimation around).nextResizePoll = s.nextResizePoll ∧
      (s.tickIslandAnimation around).lastTerminalSize = s.lastTerminalSize := by
    unfold tickIslandAnimation
    split
    · exact ⟨rfl, rfl⟩
    split
    · exact ⟨rfl, rfl⟩
    split
    · exact ⟨rfl, rfl⟩
    split
    · exact ⟨rfl, rfl⟩
    · split <;> exact ⟨rfl, rfl⟩
  unfold pollResize resizes handleResizePoll
  rw [hTick.1]
  by_cases hDue : s.nextResizePoll ≤ now
  · rw [if_pos hDue]
    cases hSize : around.terminalSize with
    | none => simp
    | some size =>
      by_cases hNew : s.lastTerminalSize = some size
      · simp [hTick.2, hNew]
      · simp [hTick.2, hNew, hDue]
  · rw [if_neg hDue]
    simp [hDue]

/-- The monolithic tasks before the launches are reconciled. -/
def firstTasks (s : AppLoop) {now : Instant} (around : Surroundings now) : AppLoop :=
  let s := s.tickIslandAnimation around
  let s := (s.pollResize around).1
  let s := s.clearDueConfigDiagnostic now
  let s := s.clearDueToast now
  s.deliverDueNotifications around

/-- The monolithic tasks between the launches and the last ones. -/
def middleTasks (s : AppLoop) {now : Instant} (around : Surroundings now) : AppLoop :=
  let s := s.clearDueCopyFeedback now
  let s := s.runDueSelectionAutoscroll around
  let s := s.clearDueSelectionHighlight now
  let s := s.startGitStatusRefreshIfDue around
  let s := s.runDueAutoUpdateCheck around
  let s := s.runDueAgentManifestUpdateCheck around
  s.runDueSessionSave around

theorem handleScheduledTasks_eq (geometryDirty : Bool) :
  s.handleScheduledTasks around geometryDirty =
    (((s.firstTasks around).reconcileDueManagedAgents around).middleTasks around).lastTasks around
      (geometryDirty || s.resizes around) := by
  rw [← pollResize_snd]
  rfl

/-- The monolithic tasks before the launches, each with its timer. -/
def firstList {now : Instant} (around : Surroundings now) : List Task :=
  [(.islandAnimationTick, fun s => s.tickIslandAnimation around),
    (.resizePoll, fun s => (s.pollResize around).1),
    (.configDiagnostic, fun s => s.clearDueConfigDiagnostic now),
    (.toast, fun s => s.clearDueToast now),
    (.pendingAgentNotification, fun s => s.deliverDueNotifications around)]

/-- The monolithic tasks after the launches, each with its timer. -/
def middleList {now : Instant} (around : Surroundings now) : List Task :=
  [(.copyFeedback, fun s => s.clearDueCopyFeedback now),
    (.selectionAutoscroll, fun s => s.runDueSelectionAutoscroll around),
    (.selectionHighlightClear, fun s => s.clearDueSelectionHighlight now),
    (.gitRefresh, fun s => s.startGitStatusRefreshIfDue around),
    (.autoUpdateCheck, fun s => s.runDueAutoUpdateCheck around),
    (.agentManifestUpdateCheck, fun s => s.runDueAgentManifestUpdateCheck around),
    (.sessionSave, fun s => s.runDueSessionSave around)]

theorem firstTasks_eq : s.firstTasks around = runTasks (firstList around) s := by
  simp only [firstTasks, runTasks, firstList, List.foldl_cons, List.foldl_nil]

theorem middleTasks_eq : s.middleTasks around = runTasks (middleList around) s := by
  simp only [middleTasks, runTasks, middleList, List.foldl_cons, List.foldl_nil]

theorem tended_first : Tended now needsRender (firstList around) := by
  simp only [Tended, firstList, List.forall_mem_cons, List.not_mem_nil, false_implies,
    implies_true, and_true]
  exact ⟨fun _ => tends_tickIslandAnimation around, fun _ => tends_pollResize around,
    fun _ => tends_clearDueConfigDiagnostic, fun _ => tends_clearDueToast,
    fun _ => tends_deliverDueNotifications around⟩

theorem tended_middle : Tended now needsRender (middleList around) := by
  simp only [Tended, middleList, List.forall_mem_cons, List.not_mem_nil, false_implies,
    implies_true, and_true]
  exact ⟨fun _ => tends_clearDueCopyFeedback, fun _ => tends_runDueSelectionAutoscroll around,
    fun _ => tends_clearDueSelectionHighlight, fun _ => tends_startGitStatusRefreshIfDue around,
    fun _ => tends_runDueAutoUpdateCheck around,
    fun _ => tends_runDueAgentManifestUpdateCheck around, fun _ => tends_runDueSessionSave around⟩

theorem quiet_firstTasks : Quiet s (s.firstTasks around) := by
  rw [firstTasks_eq]
  exact (@tended_first now false around).quiet

theorem quiet_middleTasks : Quiet s (s.middleTasks around) := by
  rw [middleTasks_eq]
  exact (@tended_middle now false around).quiet

theorem later_middleTasks {timer : Timer} (hMetadata : timer ≠ .agentMetadata)
  (hResume : timer ≠ .pendingAgentResume) :
  Later now ((((s.firstTasks around).reconcileDueManagedAgents around).middleTasks
    around).deadline now needsRender timer) := by
  have hLaunches := @handles_reconcileDueManagedAgents (s.firstTasks around) now needsRender around
  rw [middleTasks_eq]
  by_cases hMiddle : timer ∈ (middleList around).map Prod.fst
  · exact (tended_middle around).later hMiddle
  apply (tended_middle around).keeps
  by_cases hManaged : timer = .managedAgent
  · rw [hManaged]
    exact hLaunches.own
  apply hLaunches.keeps
  by_cases hRender : timer = .render
  · rw [hRender]
    exact later_render
  rw [firstTasks_eq]
  apply (tended_first around).later
  cases timer <;> simp_all [firstList, middleList]

/-- **The monolithic loop.** It reconciles the launches, so only metadata and resumes can
be left over. -/
theorem monolithic_consumes_iff (geometryDirty : Bool) :
  Consumes (timers true true) now needsRender s (s.handleScheduledTasks around geometryDirty) ↔
    s.MetadataSettled now ∧ s.ResumesSettled around (geometryDirty || s.resizes around) := by
  rw [handleScheduledTasks_eq]
  generalize (geometryDirty || s.resizes around) = dirty
  have hFirst := @quiet_firstTasks s now around
  obtain ⟨hSame, hDeadline⟩ :=
    @sameResumes_reconcileDueManagedAgents (s.firstTasks around) now around
  have hMiddle := @quiet_middleTasks ((s.firstTasks around).reconcileDueManagedAgents around) now
    around
  have hMetadata : Later now ((((s.firstTasks around).reconcileDueManagedAgents around).middleTasks
      around).lastTasks around dirty).agentMetadataDeadline ↔ s.MetadataSettled now := by
    rw [agentMetadata_lastTasks, hMiddle.metadataSettled,
      metadataSettled_reconcileDueManagedAgents, hFirst.metadataSettled]
  have hResumes : Later now ((((s.firstTasks around).reconcileDueManagedAgents around).middleTasks
      around).lastTasks around dirty).pendingAgentResumeDeadline ↔
        s.ResumesSettled around dirty := by
    rw [pendingAgentResume_lastTasks, hMiddle.resumesSettled, ← hFirst.resumesSettled]
    unfold ResumesSettled
    rw [hSame.candidates, hDeadline]
    simp only [hSame.resumeOutcome around hDeadline]
  constructor
  · intro hConsumes
    refine ⟨?_, ?_⟩
    · intro hDue
      exact (hMetadata.1 (hConsumes.timers .agentMetadata (by decide) hDue)) hDue
    · intro hDue
      exact (hResumes.1 (hConsumes.timers .pendingAgentResume (by decide) hDue)) hDue
  · rintro ⟨hMetadataSettled, hResumesSettled⟩
    constructor
    · intro timer _ _
      by_cases hIsMetadata : timer = .agentMetadata
      · subst hIsMetadata
        exact hMetadata.2 hMetadataSettled
      by_cases hIsResume : timer = .pendingAgentResume
      · subst hIsResume
        exact hResumes.2 hResumesSettled
      · exact keeps_lastTasks around dirty hIsMetadata hIsResume
          (later_middleTasks around hIsMetadata hIsResume)
    · intro id terminal hLookup hDue after hAfter
      have hBefore : (s.firstTasks around).terminals.lookup id = some terminal := by
        rw [hFirst.terminals, hLookup]
      have hHere := @managedAgent_lastTasks
        (((s.firstTasks around).reconcileDueManagedAgents around).middleTasks around) now around
        dirty id
      rw [hMiddle.terminals, launches_reconcileDueManagedAgents around hBefore hDue, ite_self,
        hAfter] at hHere
      exact launchPending_of_next hHere

/-- When its conditions are met the headless loop sleeps past now. -/
theorem later_nextHeadlessLoopDeadline (hasAppClient geometryDirty : Bool) :
  Later now ((s.handleScheduledTasksHeadless around hasAppClient
      geometryDirty).nextHeadlessLoopDeadlineWithGitRefresh now needsRender hasAppClient) ↔
    s.LaunchesSettled around geometryDirty ∧ s.MetadataSettled now ∧
      s.ResumesSettled around geometryDirty := by
  have hQuiet := @quiet_headlessTasks s now around hasAppClient
  unfold nextHeadlessLoopDeadlineWithGitRefresh nextLoopDeadlineWithResizePoll
  rw [later_earliest]
  simp only [List.mem_map, forall_exists_index, and_imp, forall_apply_eq_imp_iff₂]
  constructor
  · intro hLater
    apply (@headless_consumes_iff s now needsRender around hasAppClient geometryDirty).1
    constructor
    · intro timer hMem _
      exact hLater timer hMem
    · intro id terminal hLookup hDue after hAfter
      have hManaged := hLater .managedAgent (by cases hasAppClient <;> decide)
      have hHere := later_nextManagedAgentDeadline.1 hManaged id
      rw [managedAgent_headless, hLookup] at hHere
      split at hHere
      next hBoth =>
        have hNone := @managedAgent_headless s now around hasAppClient geometryDirty id
        rw [if_pos hBoth, hAfter] at hNone
        exact launchPending_of_next hNone
      next => exact absurd (due_nextManagedAgentDeadline hDue) hHere.not_due
  · intro hSettled timer hMem
    have hConsumes := (@headless_consumes_iff s now needsRender around hasAppClient
      geometryDirty).2 hSettled
    by_cases hDue : Due now (s.deadline now needsRender timer)
    · exact hConsumes.timers timer hMem hDue
    by_cases hIsMetadata : timer = .agentMetadata
    · subst hIsMetadata
      apply (agentMetadata_lastTasks around geometryDirty).2
      exact hQuiet.metadataSettled.2 hSettled.2.1
    · by_cases hIsResume : timer = .pendingAgentResume
      · subst hIsResume
        apply (pendingAgentResume_lastTasks around geometryDirty).2
        exact (hQuiet.resumesSettled around geometryDirty).2 hSettled.2.2
      · by_cases hIsManaged : timer = .managedAgent
        · subst hIsManaged
          have hManaged : Later now ((s.headlessTasks around hasAppClient).deadline now
              needsRender .managedAgent) := by
            apply later_nextManagedAgentDeadline.2
            intro id
            rw [hQuiet.terminals]
            exact later_nextManagedAgentDeadline.1 (not_due_iff.1 hDue) id
          exact keeps_lastTasks around geometryDirty (by decide) (by decide) hManaged
        · exact keeps_lastTasks around geometryDirty hIsMetadata hIsResume
            (later_headlessTasks around hasAppClient hMem hIsManaged hIsMetadata hIsResume)

/-- **Deadlines are consumed**, in every state and at every reading of the clock: by the
headless loop exactly if no launch that it would have to reconcile is due, nothing overdue
is owed for a terminal that no pane shows, and something comes of every resume that is due;
just then it sleeps past now. The monolithic loop consumes the launches too. -/
theorem scheduled_tasks_consume (s : AppLoop) {now : Instant} (around : Surroundings now)
  (hasAppClient geometryDirty needsRender : Bool) :
  (Consumes (timers false hasAppClient) now needsRender s
      (s.handleScheduledTasksHeadless around hasAppClient geometryDirty) ↔
    s.LaunchesSettled around geometryDirty ∧ s.MetadataSettled now ∧
      s.ResumesSettled around geometryDirty) ∧
  (Later now ((s.handleScheduledTasksHeadless around hasAppClient
      geometryDirty).nextHeadlessLoopDeadlineWithGitRefresh now needsRender hasAppClient) ↔
    s.LaunchesSettled around geometryDirty ∧ s.MetadataSettled now ∧
      s.ResumesSettled around geometryDirty) ∧
  (Consumes (timers true true) now needsRender s (s.handleScheduledTasks around geometryDirty) ↔
    s.MetadataSettled now ∧ s.ResumesSettled around (geometryDirty || s.resizes around)) :=
  ⟨headless_consumes_iff around hasAppClient geometryDirty,
    later_nextHeadlessLoopDeadline around hasAppClient geometryDirty,
    monolithic_consumes_iff around geometryDirty⟩

end Runs

/-! ## A launch that never times out -/

/-- The application with a state, at the start of the clock and with no timer set. -/
def ofState (state : AppState) : AppLoop where
  toAppState := state
  announcing := ⟨⟨state.config.tabBarStyle, .desktop, false, 0⟩, fun _ => true⟩
  configDiagnostic := none
  copyFeedback := none
  selection := none
  selectionAutoscroll := none
  islandMotion := .smooth
  islandAnim := false
  metadataTokens := fun _ => MetadataTokens.empty
  workspaceTokens := state.workspaces.map fun _ => MetadataTokens.empty
  sidebarSpaces := [[.stateIcon, .workspace]]
  updateAvailable := none
  sessionDirty := false
  hostTerminalThemeEmpty := false
  terminalArea := ⟨0, 0, 80, 24⟩
  paneInfos := []
  terminalRuntimes := state.terminals.keys
  noSession := false
  debugAssertions := false
  updateVersionCheckEnabled := true
  updateManifestCheckEnabled := true
  gitRefreshInFlight := false
  gitIdentityRefreshRequested := false
  lastGitRemoteStatusRefresh := 0
  lastGitRepoDiscoveryRefresh := 0
  lastTerminalSize := none
  lastRenderAt := none
  sessionSaveThread := false
  nextResizePoll := 0
  nextIslandAnimationTick := none
  configDiagnosticDeadline := none
  toastDeadline := none
  copyFeedbackDeadline := none
  selectionAutoscrollDeadline := none
  selectionHighlightClearDeadline := none
  nextAutoUpdateCheck := none
  nextAgentManifestUpdateCheck := none
  agentMetadataDeadline := none
  pendingAgentResumeDeadline := none
  sessionSaveDeadline := none

/-- One workspace of one pane, whose agent was started with half a minute to come up. -/
def launching : AppLoop :=
  let config : Config := ⟨true, .island, .toast, 0, .herdr⟩
  match Workspace.newWithTab true IdCounters.initial with
  | (_, none) => ofState (AppState.initial config)
  | (ids, some (ws, newPane)) =>
    ofState { AppState.initial config with
      workspaces := [ws]
      active := some 0
      terminals := (∅ : FinMap TerminalId TerminalState).insert newPane.terminal
        (TerminalState.new.beginManagedAgent "reviewer" .claude 0 (seconds 3) (seconds 30))
      ids }

/-- A minute after the start. -/
def aMinuteIn : Reading (seconds 60) where
  time := seconds 60
  notBefore := le_rfl
  inRange := by decide +kernel

def calm : Surroundings (seconds 60) where
  notified := fun _ => aMinuteIn
  toastShown := aMinuteIn
  metadataRead := fun _ => aMinuteIn
  autoUpdate := aMinuteIn
  manifestUpdate := aMinuteIn
  saveRetried := aMinuteIn
  managedSave := aMinuteIn
  resumeSave := aMinuteIn
  animationSettles := true
  terminalSize := none
  scrollMetrics := fun _ => none
  identityCwd := fun _ => none
  saveThreadFinished := true
  saveThreadSpawned := true
  shell := fun _ _ => .started

/-- The headless loop leaves a launch pending that should have ended half a minute ago. -/
theorem not_consumes_launching : ¬ Consumes (timers false true) (seconds 60) false launching
  (launching.handleScheduledTasksHeadless calm true false) := by
  intro hConsumes
  obtain ⟨hLaunches, _⟩ := (headless_consumes_iff calm true false).1 hConsumes
  obtain ⟨terminal, hLookup, hDue⟩ : ∃ terminal, launching.terminals.lookup ⟨1⟩ = some terminal ∧
      Due (seconds 60) terminal.nextManagedAgentDeadline :=
    ⟨_, rfl, by decide +kernel⟩
  obtain ⟨_, hSome⟩ := hLaunches ⟨1⟩ terminal hLookup hDue
  have hNone : launching.resumeOutcome calm ⟨1⟩ = none := by decide +kernel
  rw [hNone] at hSome
  cases hSome

end App.AppLoop
