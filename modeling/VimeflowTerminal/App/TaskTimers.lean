import VimeflowTerminal.App.ScheduledTasks

/-! Each scheduled task leaves its own timer later than now, keeps every other timer later
that was, and, before the expiry of metadata, leaves alone what the last tasks depend on;
so do tasks one after the other. -/

namespace App.AppLoop

open Layout Workspaces Terminal Deadlines

variable {s : AppLoop} {now : Instant} {needsRender : Bool}

/-- Every timer that is later than now stays so. -/
def Keeps (now : Instant) (needsRender : Bool) (s t : AppLoop) : Prop :=
  ∀ timer, Later now (s.deadline now needsRender timer) →
    Later now (t.deadline now needsRender timer)

variable {t : AppLoop} {own : Timer}

theorem Keeps.trans {u : AppLoop} (hLeft : Keeps now needsRender s t)
  (hRight : Keeps now needsRender t u) : Keeps now needsRender s u :=
  fun timer hLater => hRight timer (hLeft timer hLater)

/-- What the resumes and the expiry of metadata depend on is the same. -/
structure Quiet (s t : AppLoop) : Prop where
  terminals : t.terminals = s.terminals
  workspaces : t.workspaces.map Workspace.allSeen = s.workspaces.map Workspace.allSeen
  active : t.active = s.active
  terminalArea : t.terminalArea = s.terminalArea
  paneInfos : t.paneInfos = s.paneInfos
  terminalRuntimes : t.terminalRuntimes = s.terminalRuntimes
  hostTerminalThemeEmpty : t.hostTerminalThemeEmpty = s.hostTerminalThemeEmpty
  metadataTokens : t.metadataTokens = s.metadataTokens
  agentMetadataDeadline : t.agentMetadataDeadline = s.agentMetadataDeadline
  pendingAgentResumeDeadline : t.pendingAgentResumeDeadline = s.pendingAgentResumeDeadline

/-- All that the resumes and the expiry of metadata depend on. -/
def dependencies (s : AppLoop) :=
  (s.terminals, s.workspaces.map Workspace.allSeen, s.active, s.terminalArea, s.paneInfos,
    s.terminalRuntimes, s.hostTerminalThemeEmpty, s.metadataTokens, s.agentMetadataDeadline,
    s.pendingAgentResumeDeadline)

theorem Quiet.of_eq (hSame : t.dependencies = s.dependencies) : Quiet s t := by
  simp only [dependencies, Prod.mk.injEq] at hSame
  obtain ⟨h1, h2, h3, h4, h5, h6, h7, h8, h9, h10⟩ := hSame
  exact ⟨h1, h2, h3, h4, h5, h6, h7, h8, h9, h10⟩

theorem Quiet.dependencies_eq (hQuiet : Quiet s t) : t.dependencies = s.dependencies := by
  obtain ⟨h1, h2, h3, h4, h5, h6, h7, h8, h9, h10⟩ := hQuiet
  simp only [dependencies, h1, h2, h3, h4, h5, h6, h7, h8, h9, h10]

theorem Quiet.refl : Quiet s s := .of_eq rfl

theorem Quiet.sameResumes (hQuiet : Quiet s t) : SameResumes s t where
  workspaces := hQuiet.workspaces
  active := hQuiet.active
  terminalArea := hQuiet.terminalArea
  paneInfos := hQuiet.paneInfos
  terminalRuntimes := hQuiet.terminalRuntimes
  hostTerminalThemeEmpty := hQuiet.hostTerminalThemeEmpty
  plans := by
    intro id
    unfold planOf
    rw [hQuiet.terminals]

theorem Quiet.trans {u : AppLoop} (hLeft : Quiet s t) (hRight : Quiet t u) : Quiet s u :=
  .of_eq (hRight.dependencies_eq.trans hLeft.dependencies_eq)

/-- A task that acts on the timer `own`. -/
structure Handles (own : Timer) (now : Instant) (needsRender : Bool) (s t : AppLoop) : Prop where
  others : ∀ timer, timer ≠ own → Later now (s.deadline now needsRender timer) →
    Later now (t.deadline now needsRender timer)
  own : Later now (t.deadline now needsRender own)

theorem Handles.keeps (hHandles : Handles own now needsRender s t) : Keeps now needsRender s t := by
  intro timer hLater
  by_cases hOwn : timer = own
  · rw [hOwn]
    exact hHandles.own
  · exact hHandles.others timer hOwn hLater

theorem later_render : Later now (s.deadline now needsRender .render) := by
  intro d hDeadline
  change (if needsRender then _ else none) = some d at hDeadline
  split at hDeadline
  · simpa using (Option.filter_eq_some_iff.1 hDeadline).2
  · cases hDeadline

/-- A task for the timer `own` that leaves alone what the last tasks depend on. -/
structure Tends (own : Timer) (now : Instant) (needsRender : Bool) (s t : AppLoop) : Prop
  extends Handles own now needsRender s t, Quiet s t

/-- The timers but one. -/
def others (own : Timer) : List Timer := (timers true true).filter (· ≠ own)

theorem Tends.of_fields {own : Timer} {t : AppLoop}
  (hOwn : Later now (t.deadline now needsRender own))
  (hOthers : (others own).map (t.deadline now needsRender) =
    (others own).map (s.deadline now needsRender))
  (hSame : t.dependencies = s.dependencies) : Tends own now needsRender s t where
  own := hOwn
  others := by
    intro timer hOther hLater
    have hMem : timer ∈ others own := by
      refine List.mem_filter.2 ⟨?_, by simpa using hOther⟩
      cases timer <;> decide
    rwa [List.map_inj_left.1 hOthers timer hMem]
  toQuiet := .of_eq hSame

theorem Tends.idle {own : Timer} (hIdle : ¬ Due now (s.deadline now needsRender own)) :
  Tends own now needsRender s s where
  others := fun _ _ hLater => hLater
  own := not_due_iff.1 hIdle
  toQuiet := Quiet.refl

theorem lt_add_milliseconds {time : Instant} {count : Nat} (hNow : now ≤ time) (hPos : 0 < count) :
  now < time + milliseconds count :=
  Nat.lt_of_le_of_lt hNow (Nat.lt_add_of_pos_right (Nat.mul_pos hPos (by norm_num)))

theorem lt_add_seconds {time : Instant} {count : Nat} (hNow : now ≤ time) (hPos : 0 < count) :
  now < time + seconds count :=
  Nat.lt_of_le_of_lt hNow (Nat.lt_add_of_pos_right (AppState.seconds_pos hPos))

section Tasks

variable (around : Surroundings now)

theorem tends_tickIslandAnimation :
  Tends .islandAnimationTick now needsRender s (s.tickIslandAnimation around) := by
  have hNext : Later now (some (now + minRenderInterval)) :=
    later_some.2 (lt_add_milliseconds le_rfl (by decide))
  unfold tickIslandAnimation
  split
  · exact Tends.of_fields later_none rfl rfl
  split
  · exact Tends.of_fields later_none rfl rfl
  split
  · exact Tends.of_fields hNext rfl rfl
  next deadline hTick =>
    split
    next hEarly =>
      apply Tends.idle
      change ¬ Due now s.nextIslandAnimationTick
      rw [hTick, due_some]
      exact not_le.2 hEarly
    next =>
      split
      · exact Tends.of_fields later_none rfl rfl
      · exact Tends.of_fields hNext rfl rfl

theorem keeps_handleResizePoll : Keeps now needsRender s (s.handleResizePoll around).1 := by
  intro timer hLater
  unfold handleResizePoll
  split
  · exact hLater
  split
  · cases timer with
    | islandAnimationTick => exact later_none
    | _ => exact hLater
  · exact hLater

theorem tends_pollResize : Tends .resizePoll now needsRender s (s.pollResize around).1 := by
  have hPolled := @keeps_handleResizePoll s now needsRender around
  have hQuiet : Quiet s (s.handleResizePoll around).1 := by
    unfold handleResizePoll
    split
    · exact Quiet.refl
    · split <;> exact .of_eq rfl
  unfold pollResize
  generalize s.handleResizePoll around = polled at hPolled hQuiet ⊢
  obtain ⟨t, resized⟩ := polled
  split
  · refine ⟨⟨?_, later_some.2 (lt_add_milliseconds le_rfl (by decide))⟩, { hQuiet with }⟩
    intro timer hOther hLater
    have hKept := hPolled timer hLater
    cases timer with
    | resizePoll => contradiction
    | _ => exact hKept
  next hEarly =>
    apply Tends.idle
    simpa [deadline] using hEarly

theorem tends_clearDueConfigDiagnostic :
  Tends .configDiagnostic now needsRender s (s.clearDueConfigDiagnostic now) := by
  unfold clearDueConfigDiagnostic
  split
  next => exact Tends.of_fields later_none rfl rfl
  next hIdle => exact Tends.idle hIdle

theorem tends_clearDueToast : Tends .toast now needsRender s (s.clearDueToast now) := by
  unfold clearDueToast
  split
  next => exact Tends.of_fields later_none rfl rfl
  next hIdle => exact Tends.idle hIdle

theorem tends_clearDueCopyFeedback :
  Tends .copyFeedback now needsRender s (s.clearDueCopyFeedback now) := by
  unfold clearDueCopyFeedback
  split
  next => exact Tends.of_fields later_none rfl rfl
  next hIdle => exact Tends.idle hIdle

theorem tends_stopSelectionAutoscroll :
  Tends .selectionAutoscroll now needsRender s s.stopSelectionAutoscroll :=
  Tends.of_fields later_none rfl rfl

theorem tends_tickSelectionAutoscroll :
  Tends .selectionAutoscroll now needsRender s (s.tickSelectionAutoscroll around) := by
  have hNext : Later now (some (now + selectionAutoscrollInterval)) :=
    later_some.2 (lt_add_milliseconds le_rfl (by decide))
  unfold tickSelectionAutoscroll
  split
  · exact Tends.of_fields later_none rfl rfl
  split
  · exact tends_stopSelectionAutoscroll
  dsimp only
  split
  · exact tends_stopSelectionAutoscroll
  split
  · exact tends_stopSelectionAutoscroll
  · split
    · exact tends_stopSelectionAutoscroll
    · exact Tends.of_fields hNext rfl rfl
  · split
    · exact tends_stopSelectionAutoscroll
    · exact Tends.of_fields hNext rfl rfl

theorem tends_runDueSelectionAutoscroll :
  Tends .selectionAutoscroll now needsRender s (s.runDueSelectionAutoscroll around) := by
  unfold runDueSelectionAutoscroll
  split
  next => exact tends_tickSelectionAutoscroll around
  next hIdle => exact Tends.idle hIdle

theorem tends_clearDueSelectionHighlight :
  Tends .selectionHighlightClear now needsRender s (s.clearDueSelectionHighlight now) := by
  unfold clearDueSelectionHighlight
  split
  next =>
    dsimp only
    split
    · exact Tends.of_fields later_none rfl rfl
    · exact Tends.of_fields later_none rfl rfl
  next hIdle => exact Tends.idle hIdle

/-- Nothing to refresh puts the refresh off; a refresh under way has no deadline. -/
theorem tends_startGitStatusRefreshIfDue :
  Tends .gitRefresh now needsRender s (s.startGitStatusRefreshIfDue around) := by
  unfold startGitStatusRefreshIfDue
  split
  next =>
    split
    · refine ⟨⟨?_, ?_⟩, .of_eq rfl⟩
      · intro timer hOther hLater
        cases timer with
        | gitRefresh => contradiction
        | _ => exact hLater
      simp only [deadline, gitRefreshDeadline]
      split
      · exact later_some.2 (lt_add_milliseconds le_rfl (by decide))
      · exact later_none
    · exact Tends.of_fields later_none rfl rfl
  next hIdle => exact Tends.idle hIdle

theorem tends_startGitStatusRefreshForClients (hasAppClient : Bool) :
  Tends (if hasAppClient then .gitRefresh else .render) now needsRender s
    (s.startGitStatusRefreshForClients around hasAppClient) := by
  cases hasAppClient with
  | true => exact tends_startGitStatusRefreshIfDue around
  | false => exact Tends.of_fields later_render rfl rfl

theorem tends_runDueAutoUpdateCheck :
  Tends .autoUpdateCheck now needsRender s (s.runDueAutoUpdateCheck around) := by
  unfold runDueAutoUpdateCheck runAutoUpdateCheck
  split
  next =>
    refine Tends.of_fields ?_ rfl rfl
    split
    · exact later_none
    split
    · exact later_some.2 (lt_add_seconds around.autoUpdate.notBefore (by decide))
    · exact later_none
  next hIdle => exact Tends.idle hIdle

theorem tends_runDueAgentManifestUpdateCheck :
  Tends .agentManifestUpdateCheck now needsRender s
    (s.runDueAgentManifestUpdateCheck around) := by
  unfold runDueAgentManifestUpdateCheck runAgentManifestUpdateCheck
  split
  next =>
    refine Tends.of_fields ?_ rfl rfl
    split
    · exact later_none
    · exact later_some.2 (lt_add_seconds around.manifestUpdate.notBefore (by decide))
  next hIdle => exact Tends.idle hIdle

theorem tends_runDueSessionSave :
  Tends .sessionSave now needsRender s (s.runDueSessionSave around) := by
  unfold runDueSessionSave startBackgroundSessionSave
  split
  next =>
    split
    · exact Tends.of_fields later_none rfl rfl
    split
    · exact Tends.of_fields
        (later_some.2 (lt_add_milliseconds around.saveRetried.notBefore (by decide))) rfl rfl
    · exact Tends.of_fields later_none rfl rfl
  next hIdle => exact Tends.idle hIdle

theorem keeps_scheduleSessionSave (clock : Reading now) :
  Keeps now needsRender s (s.scheduleSessionSave clock.time) := by
  intro timer hLater
  unfold scheduleSessionSave
  split
  · exact hLater
  cases timer with
  | sessionSave => exact later_some.2 (lt_add_seconds clock.notBefore (by decide))
  | _ => exact hLater

theorem quiet_scheduleSessionSave (clock : Instant) : Quiet s (s.scheduleSessionSave clock) := by
  unfold scheduleSessionSave
  split
  · exact Quiet.refl
  · exact .of_eq rfl

theorem lt_toastDuration (clock : Reading now) (kind : ToastKind) :
  now < clock.time + toastDuration kind := by
  cases kind with
  | needsAttention => exact lt_add_seconds clock.notBefore (by decide)
  | finished => exact lt_add_seconds clock.notBefore (by decide)
  | updateInstalled => exact lt_add_seconds clock.notBefore (by decide)

theorem keeps_syncToastDeadline (clock : Reading now) (previousToast : Option ToastNotification) :
  Keeps now needsRender s (s.syncToastDeadline clock.time previousToast) := by
  intro timer hLater
  unfold syncToastDeadline
  split
  · cases timer with
    | toast =>
      intro d hDeadline
      obtain ⟨toast, _, rfl⟩ := Option.map_eq_some_iff.1 hDeadline
      exact lt_toastDuration clock toast.kind
    | _ => exact hLater
  · exact hLater

theorem later_nextPending {t : AppState} : Later now t.nextPendingAgentNotificationDeadline ↔
  ∀ paneId pending, t.pendingAgentNotifications.lookup paneId = some pending →
    now < pending.deadline := by
  unfold AppState.nextPendingAgentNotificationDeadline
  rw [later_min?]
  constructor
  · intro hLater paneId pending hLookup
    exact hLater _ (List.mem_map_of_mem (FinMap.mem_values.2 ⟨paneId, hLookup⟩))
  · intro hLater d hMem
    obtain ⟨pending, hValue, rfl⟩ := List.mem_map.1 hMem
    obtain ⟨paneId, hLookup⟩ := FinMap.mem_values.1 hValue
    exact hLater paneId pending hLookup

theorem gitRefreshDeadline_allSeen {t : AppState}
  (hWorkspaces : t.workspaces.map Workspace.allSeen = s.workspaces.map Workspace.allSeen) :
  ({ s with toAppState := t } : AppLoop).gitRefreshDeadline = s.gitRefreshDeadline := by
  have hEmpty : t.workspaces.isEmpty = s.workspaces.isEmpty := by
    have hLength := congrArg List.length hWorkspaces
    simp only [List.length_map] at hLength
    rw [Bool.eq_iff_iff, List.isEmpty_iff_length_eq_zero, List.isEmpty_iff_length_eq_zero, hLength]
  unfold gitRefreshDeadline
  rw [hEmpty]
  rfl

theorem tends_deliverDueNotifications :
  Tends .pendingAgentNotification now needsRender s (s.deliverDueNotifications around) := by
  unfold deliverDueNotifications
  split
  next =>
    have hAnnounced := @AppState.announced_drain s.toAppState s.announcing now
    have hLeft := @AppState.later_of_drain s.toAppState s.announcing now
    dsimp only
    set drained := { s with
      toAppState := (s.toAppState.drainDueAgentNotifications s.announcing now).1 } with hDrained
    have hQuiet : Quiet s drained :=
      ⟨hAnnounced.terminals, hAnnounced.workspaces, hAnnounced.active, rfl, rfl, rfl, rfl, rfl, rfl,
        rfl⟩
    have hHandles : Handles .pendingAgentNotification now needsRender s drained := by
      refine ⟨fun timer hOther hLater => ?_, later_nextPending.2 fun _ _ hLookup => hLeft hLookup⟩
      convert hLater using 1
      cases timer with
      | pendingAgentNotification => contradiction
      | managedAgent =>
        change nextManagedAgentDeadline _ = nextManagedAgentDeadline _
        unfold nextManagedAgentDeadline
        rw [hQuiet.terminals]
      | gitRefresh => exact gitRefreshDeadline_allSeen hAnnounced.workspaces
      | _ => rfl
    split
    · exact ⟨hHandles, hQuiet⟩
    have hSync := @keeps_syncToastDeadline drained now needsRender around.toastShown s.toast
    refine ⟨⟨fun timer hOther hLater => hSync timer (hHandles.others timer hOther hLater),
      hSync _ hHandles.own⟩, hQuiet.trans ?_⟩
    unfold syncToastDeadline
    split <;> exact .of_eq rfl
  next hIdle => exact Tends.idle hIdle

end Tasks

section TaskLists

/-- A task with the timer it acts on. -/
abbrev Task := Timer × (AppLoop → AppLoop)

def runTasks (tasks : List Task) (s : AppLoop) : AppLoop := tasks.foldl (fun s task => task.2 s) s

/-- Each of the tasks acts on its own timer. -/
def Tended (now : Instant) (needsRender : Bool) (tasks : List Task) : Prop :=
  ∀ task ∈ tasks, ∀ s, Tends task.1 now needsRender s (task.2 s)

variable {tasks : List Task}

section

variable (hTended : Tended now needsRender tasks)
include hTended

theorem Tended.quiet : Quiet s (runTasks tasks s) := by
  induction tasks generalizing s with
  | nil => exact Quiet.refl
  | cons task tasks ih =>
    obtain ⟨hTask, hRest⟩ := List.forall_mem_cons.1 hTended
    exact (hTask s).toQuiet.trans (ih hRest)

theorem Tended.keeps :
  Keeps now needsRender s (runTasks tasks s) := by
  induction tasks generalizing s with
  | nil => exact fun _ hLater => hLater
  | cons task tasks ih =>
    obtain ⟨hTask, hRest⟩ := List.forall_mem_cons.1 hTended
    exact (hTask s).keeps.trans (ih hRest)

theorem Tended.later {timer : Timer}
  (hMem : timer ∈ tasks.map Prod.fst) :
  Later now ((runTasks tasks s).deadline now needsRender timer) := by
  induction tasks generalizing s with
  | nil => cases hMem
  | cons task tasks ih =>
    obtain ⟨hTask, hRest⟩ := List.forall_mem_cons.1 hTended
    rcases List.mem_cons.1 hMem with rfl | hMem
    · exact Tended.keeps hRest _ (hTask s).own
    · exact ih hRest hMem

end

end TaskLists

end App.AppLoop
