import VimeflowTerminal.GitRefresh.Scheduling

/-! Every request of a refresh is seen to until a worker that was started after it is done, and what
is known of directories outside of every repository does not outlive a request. -/

namespace GitRefresh

open App App.AppLoop Transition

namespace RefreshApp

variable (app : RefreshApp)

/-- Either nothing happens, or a worker is started with the cache. -/
theorem start_cases (now : Instant) :
  app.startGitStatusRefreshIfDue now = (app, none) ∨
    app.gitRefreshInFlight = false ∧ ∃ discovery worker,
      app.startGitStatusRefreshIfDue now =
        ({ app with
            gitRefreshInFlight := true
            gitIdentityRefreshRequested := false
            lastGitRepoDiscoveryRefresh := discovery }, some worker) ∧
        worker.cache = app.gitStatusCache := by
  unfold startGitStatusRefreshIfDue
  cases hDeadline : app.gitRefreshDeadline with
  | none => exact Or.inl rfl
  | some deadline =>
    dsimp only
    by_cases hEarly : now < deadline
    · rw [if_pos hEarly]
      exact Or.inl rfl
    unfold gitRefreshDeadline at hDeadline
    split at hDeadline
    · next hDue =>
        simp only [Bool.and_eq_true, Bool.not_eq_true', List.isEmpty_eq_false_iff] at hDue
        obtain ⟨⟨hIdle, hSome⟩, -⟩ := hDue
        have hItems : ∀ discovery,
            (app.workspaceGitRefreshItems discovery).isEmpty = false := by
          intro discovery
          rw [List.isEmpty_eq_false_iff]
          exact fun hNone => hSome (List.map_eq_nil_iff.1 hNone)
        rw [if_neg hEarly, if_neg (Bool.eq_false_iff.1 (hItems _))]
        exact Or.inr ⟨hIdle, _, _, rfl, rfl⟩
    · cases hDeadline

/-- The cache without what is known of directories outside of every repository. -/
def knownRepositories : FinMap Path GitStatusCacheEntry :=
  app.gitStatusCache.retain fun _ entry => entry.fingerprint.isSome

theorem mark_cases (now : Instant) :
  app.gitRefreshInFlight = true ∧ app.markGitStatusRefreshDue now =
      { app with gitStatusCache := app.knownRepositories, gitRefreshDueAfterInFlight := true } ∨
    app.gitRefreshInFlight = false ∧ app.markGitStatusRefreshDue now =
      { app with
        gitStatusCache := app.knownRepositories
        lastGitRemoteStatusRefresh := (checkedSub now gitRemoteStatusRefreshInterval).getD now
        gitRefreshDueAfterInFlight := false } := by
  by_cases hFlight : app.gitRefreshInFlight = true
  · exact Or.inl ⟨hFlight, if_pos hFlight⟩
  · exact Or.inr ⟨Bool.eq_false_iff.2 hFlight, if_neg hFlight⟩

theorem mark_kept (now : Instant) :
  (app.markGitStatusRefreshDue now).gitRefreshInFlight = app.gitRefreshInFlight ∧
    (app.markGitStatusRefreshDue now).gitIdentityRefreshRequested =
      app.gitIdentityRefreshRequested ∧
    (app.markGitStatusRefreshDue now).workspaces = app.workspaces ∧
    (app.markGitStatusRefreshDue now).sidebarRows = app.sidebarRows := by
  rcases app.mark_cases now with ⟨-, h⟩ | ⟨-, h⟩ <;> rw [h] <;> exact ⟨rfl, rfl, rfl, rfl⟩

theorem mark_cache {app : RefreshApp} {now : Instant} {key : Path} {entry : GitStatusCacheEntry}
  (hEntry : (app.markGitStatusRefreshDue now).gitStatusCache.lookup key = some entry) :
  entry.fingerprint ≠ none := by
  have hCache : (app.markGitStatusRefreshDue now).gitStatusCache = app.knownRepositories := by
    rcases app.mark_cases now with ⟨-, h⟩ | ⟨-, h⟩ <;> rw [h]
  rw [hCache] at hEntry
  exact Option.isSome_iff_ne_none.1 (FinMap.mem_retain.1 hEntry).2

theorem mark_due (now : Instant) (hFlight : app.gitRefreshInFlight = true) :
  (app.markGitStatusRefreshDue now).gitRefreshDueAfterInFlight = true := by
  rcases app.mark_cases now with ⟨-, h⟩ | ⟨hIdle, -⟩
  · rw [h]
  · rw [hFlight] at hIdle
    cases hIdle

theorem mark_deadline (now : Nat) (hIdle : app.gitRefreshInFlight = false) :
  (app.markGitStatusRefreshDue now).lastGitRemoteStatusRefresh +
    gitRemoteStatusRefreshInterval ≤ (now : Instant) := by
  rcases app.mark_cases now with ⟨hFlight, -⟩ | ⟨-, h⟩
  · rw [hIdle] at hFlight
    cases hFlight
  have hSub : checkedSub now gitRemoteStatusRefreshInterval =
      some ((now : Instant) - gitRemoteStatusRefreshInterval) := by
    apply if_pos
    show (-(2 ^ 63 * 10 ^ 9) : Int) ≤ (now : Int) - (gitRemoteStatusRefreshInterval : Nat)
    unfold gitRemoteStatusRefreshInterval milliseconds
    omega
  rw [h, hSub]
  exact (Int.sub_add_cancel _ _).le

theorem applyWorkspaceGitStatus_length (before : List GitWorkspace × Bool)
  (result : WorkspaceGitStatus) :
  (applyWorkspaceGitStatus before result).1.length = before.1.length := by
  unfold applyWorkspaceGitStatus
  dsimp only
  split
  · rfl
  split
  · rfl
  split
  · rfl
  · exact List.length_set

theorem apply_length (results : List WorkspaceGitStatus) :
  (app.applyWorkspaceGitStatuses results).1.workspaces.length = app.workspaces.length := by
  refine List.foldlRecOn results _ (b := (app.workspaces, false))
    (motive := fun before => before.1.length = app.workspaces.length) rfl
    fun before hBefore result _ => ?_
  exact (applyWorkspaceGitStatus_length before result).trans hBefore

section Completion

variable (results : List WorkspaceGitStatus) (cacheUpdates : List (Path × GitStatusCacheEntry))

/-- The state when the results have not been applied yet. -/
def completedRefresh (now : Instant) : RefreshApp :=
  let app := { app with
    gitRefreshInFlight := false
    gitStatusCache := app.gitStatusCache.insertAll cacheUpdates }
  if app.gitRefreshDueAfterInFlight then
    { app.markGitStatusRefreshDue now with gitRefreshDueAfterInFlight := false }
  else { app with lastGitRemoteStatusRefresh := now }

theorem completed_kept (now : Instant) :
  (app.completedRefresh cacheUpdates now).gitRefreshInFlight = false ∧
    (app.completedRefresh cacheUpdates now).gitIdentityRefreshRequested =
      app.gitIdentityRefreshRequested ∧
    (app.completedRefresh cacheUpdates now).workspaces = app.workspaces ∧
    (app.completedRefresh cacheUpdates now).sidebarRows = app.sidebarRows := by
  unfold completedRefresh
  dsimp only
  split
  · exact mark_kept _ now
  · exact ⟨rfl, rfl, rfl, rfl⟩

theorem completed_cache {now : Instant} {key : Path} {entry : GitStatusCacheEntry}
  (hEntry : (app.completedRefresh cacheUpdates now).gitStatusCache.lookup key = some entry)
  (hNone : entry.fingerprint = none) :
  app.gitRefreshDueAfterInFlight = false ∧
    (app.gitStatusCache.insertAll cacheUpdates).lookup key = some entry := by
  unfold completedRefresh at hEntry
  dsimp only at hEntry
  split at hEntry
  · exact absurd hNone (mark_cache hEntry)
  · next hDue => exact ⟨Bool.eq_false_iff.2 hDue, hEntry⟩

theorem completed_deadline (now : Nat) (hDue : app.gitRefreshDueAfterInFlight = true) :
  (app.completedRefresh cacheUpdates now).lastGitRemoteStatusRefresh +
    gitRemoteStatusRefreshInterval ≤ (now : Instant) := by
  unfold completedRefresh
  rw [if_pos hDue]
  exact mark_deadline _ now rfl

end Completion

end RefreshApp

/-- A cached result without a fingerprint has the epoch. -/
def Dated (cache : FinMap Path GitStatusCacheEntry) (readIn : Path → Nat) (epoch : Nat) : Prop :=
  ∀ key entry, cache.lookup key = some entry → entry.fingerprint = none → readIn key = epoch

structure System.Sound (s : System) : Prop where
  single : s.workers.length ≤ 1
  inFlight : s.app.gitRefreshInFlight = !s.workers.isEmpty
  epochs : ∀ started ∈ s.workers, started.epoch ≤ s.requests
  due : ∀ started ∈ s.workers, started.epoch < s.requests →
    s.app.gitRefreshDueAfterInFlight = true
  cached : Dated s.app.gitStatusCache s.readIn s.requests
  current : ∀ started ∈ s.workers, started.Current

/-- What holds from a request on until a worker that was started after it is done. -/
structure System.Pending (s : System) (number : Nat) (identity : Bool) : Prop where
  made : number ≤ s.requests
  inhabited : s.app.workspaces ≠ []
  wanted : identity = false → s.app.gitRefreshDemand.isEmpty = false
  waiting : (∀ epoch ∈ s.completed, epoch < number) →
    (∀ started ∈ s.workers, started.epoch < number) →
      (identity = true → s.app.gitIdentityRefreshRequested = true) ∧
        (s.workers = [] →
          s.app.lastGitRemoteStatusRefresh + gitRemoteStatusRefreshInterval ≤ (s.clock : Instant))

namespace System

variable {s : System}

theorem Sound.idle (sound : s.Sound) (hNone : s.workers = []) :
  s.app.gitRefreshInFlight = false := by
  rw [sound.inFlight, hNone]
  rfl

variable {started : Started}

theorem Sound.busy (sound : s.Sound) (hMem : started ∈ s.workers) :
  s.app.gitRefreshInFlight = true := by
  rw [sound.inFlight, List.isEmpty_eq_false_iff.2 (List.ne_nil_of_mem hMem)]
  rfl

/-- The only worker is the one that is done. -/
theorem Sound.only (sound : s.Sound) {idx : Nat} (hAt : s.workers[idx]? = some started) :
  s.workers = [started] ∧ s.workers.eraseIdx idx = [] := by
  have hSingle := sound.single
  cases hWorkers : s.workers with
  | nil =>
    rw [hWorkers] at hAt
    cases hAt
  | cons first rest =>
    rw [hWorkers, List.length_cons] at hSingle
    obtain rfl : rest = [] := List.length_eq_zero_iff.1 (by omega)
    rw [hWorkers] at hAt
    cases idx with
    | zero =>
      cases hAt
      exact ⟨rfl, rfl⟩
    | succ idx => cases hAt

theorem Fresh.sound (fresh : s.Fresh) : s.Sound where
  single := by rw [fresh.workers]; exact Nat.zero_le 1
  inFlight := by rw [fresh.workers, fresh.inFlight]; rfl
  epochs := by rw [fresh.workers]; exact fun _ hMem => absurd hMem List.not_mem_nil
  due := by rw [fresh.workers]; exact fun _ hMem => absurd hMem List.not_mem_nil
  cached := by
    intro key entry hEntry
    rw [fresh.cache, AList.lookup_empty] at hEntry
    cases hEntry
  current := by rw [fresh.workers]; exact fun _ hMem => absurd hMem List.not_mem_nil

section Request

variable (identity : Bool) (now : Nat)

theorem request_app (s : System) :
  ∃ app, (s.request identity now).app = RefreshApp.markGitStatusRefreshDue app now ∧
    app.gitRefreshInFlight = s.app.gitRefreshInFlight ∧ app.workspaces = s.app.workspaces ∧
    app.sidebarRows = s.app.sidebarRows ∧
    app.gitIdentityRefreshRequested = (identity || s.app.gitIdentityRefreshRequested) := by
  cases identity with
  | false => exact ⟨s.app, rfl, rfl, rfl, rfl, rfl⟩
  | true => exact ⟨{ s.app with gitIdentityRefreshRequested := true }, rfl, rfl, rfl, rfl, rfl⟩

theorem Sound.request (sound : s.Sound) : (s.request identity now).Sound := by
  obtain ⟨app, hApp, hFlight, -, -, -⟩ := request_app identity now s
  constructor
  case single => exact sound.single
  case inFlight =>
    rw [hApp, (app.mark_kept now).1, hFlight]
    exact sound.inFlight
  case epochs =>
    intro started hMem
    exact Nat.le_succ_of_le (sound.epochs started hMem)
  case due =>
    intro started hMem _
    rw [hApp]
    exact app.mark_due now (hFlight.trans (sound.busy hMem))
  case cached =>
    intro key entry hEntry hNone
    rw [hApp] at hEntry
    exact absurd hNone (RefreshApp.mark_cache hEntry)
  case current => exact sound.current

end Request

section Tick

variable (reading now : Nat)

/-- Either only the clock moves, or a worker is started while there is none. -/
theorem tick_cases (s : System) :
  s.tick reading now = { s with clock := now } ∨
    s.app.gitRefreshInFlight = false ∧ ∃ discovery worker,
      s.tick reading now =
        { s with
          app := { s.app with
            gitRefreshInFlight := true
            gitIdentityRefreshRequested := false
            lastGitRepoDiscoveryRefresh := discovery }
          clock := now
          workers := s.workers ++ [⟨worker, s.requests, s.readIn⟩] } ∧
        worker.cache = s.app.gitStatusCache := by
  unfold tick
  rcases s.app.start_cases reading with h | ⟨hIdle, discovery, worker, h, hCache⟩
  · left
    rw [h]
    exact congrArg (fun workers => { s with clock := now, workers := workers })
      (List.append_nil s.workers)
  · right
    rw [h]
    exact ⟨hIdle, discovery, worker, rfl, hCache⟩

theorem Sound.tick (sound : s.Sound) : (s.tick reading now).Sound := by
  rcases s.tick_cases reading now with h | ⟨hIdle, discovery, worker, h, hCache⟩
  · rw [h]
    exact ⟨sound.single, sound.inFlight, sound.epochs, sound.due, sound.cached, sound.current⟩
  have hNone : s.workers = [] := by
    rw [sound.inFlight] at hIdle
    simpa using hIdle
  rw [h, hNone]
  constructor
  case single => exact Nat.le_refl 1
  case inFlight => rfl
  case epochs =>
    intro started hMem
    rw [List.mem_singleton.1 hMem]
  case due =>
    intro started hMem hEpoch
    rw [List.mem_singleton.1 hMem] at hEpoch
    exact absurd hEpoch (Nat.lt_irrefl _)
  case cached => exact sound.cached
  case current =>
    intro started hMem
    rw [List.mem_singleton.1 hMem]
    intro key entry hEntry hFingerprint
    rw [hCache] at hEntry
    exact sound.cached key entry hEntry hFingerprint

end Tick

section Complete

variable {idx : Nat} {started : Started} (found : WorkerReading) (now : Nat)

/-- What a worker that is done gives back. -/
def output (started : Started) : WorkspaceGitRefreshOutput :=
  refreshWorkspaceGitStatusesWithCacheAndDemand found started.worker.items started.worker.cache
    started.worker.demand

theorem complete_app (s : System) : (s.complete idx started found now).app =
  ((s.app.completedRefresh (output found started).cacheUpdates now).applyWorkspaceGitStatuses
    (output found started).results).1 := rfl

/-- What comes from a worker that is up to date is up to date. -/
theorem origin_of_update {key : Path} {entry : GitStatusCacheEntry} (hCurrent : started.Current)
  (hUpdate : (key, entry) ∈ (output found started).cacheUpdates)
  (hNone : entry.fingerprint = none) : started.origin found key = started.epoch := by
  unfold Started.origin
  rcases update_entry hUpdate with ⟨hOld, hHolds⟩ | hNew
  · rw [hOld, Option.any_some, if_pos hHolds]
    exact hCurrent key entry hOld hNone
  apply if_neg
  cases hOld : started.worker.cache.lookup key with
  | none => exact Bool.false_ne_true
  | some old =>
    rw [hOld, Option.all_some, Bool.not_eq_true'] at hNew
    rw [Option.any_some, hNew]
    exact Bool.false_ne_true

theorem Sound.complete (sound : s.Sound) (hAt : s.workers[idx]? = some started) :
  (s.complete idx started found now).Sound := by
  obtain ⟨hOnly, hGone⟩ := sound.only hAt
  have hMem : started ∈ s.workers := by
    rw [hOnly]
    exact List.mem_singleton_self started
  have hWorkers : (s.complete idx started found now).workers = [] := hGone
  constructor
  case single =>
    rw [hWorkers]
    exact Nat.zero_le 1
  case inFlight =>
    rw [hWorkers, complete_app]
    exact (s.app.completed_kept _ now).1
  case epochs =>
    rw [hWorkers]
    exact fun _ hMem => absurd hMem List.not_mem_nil
  case due =>
    rw [hWorkers]
    exact fun _ hMem => absurd hMem List.not_mem_nil
  case current =>
    rw [hWorkers]
    exact fun _ hMem => absurd hMem List.not_mem_nil
  case cached =>
    intro key entry hEntry hNone
    obtain ⟨hNotDue, hFound⟩ :=
      s.app.completed_cache (output found started).cacheUpdates hEntry hNone
    -- the request would have been noted otherwise
    have hEpoch : started.epoch = s.requests := by
      apply Nat.le_antisymm (sound.epochs started hMem)
      apply Nat.le_of_not_lt
      intro hOld
      rw [sound.due started hMem hOld] at hNotDue
      cases hNotDue
    show (if key ∈ (output found started).cacheUpdates.map Prod.fst then
      started.origin found key else s.readIn key) = s.requests
    rcases FinMap.of_lookup_insertAll hFound with hUpdate | ⟨hNot, hKept⟩
    · have hKey : key ∈ (output found started).cacheUpdates.map Prod.fst :=
        List.mem_map.2 ⟨(key, entry), hUpdate, rfl⟩
      rw [if_pos hKey, ← hEpoch]
      exact origin_of_update found (sound.current started hMem) hUpdate hNone
    · rw [if_neg hNot]
      exact sound.cached key entry hKept hNone

end Complete

theorem Sound.step (sound : s.Sound) {operation : Operation} {t : System}
  (hStep : step s operation = some t) : t.Sound := by
  obtain ⟨-, hTaken⟩ := Option.ite_none_left_eq_some.1 hStep
  cases operation with
  | request identity now =>
    cases hTaken
    exact sound.request identity now
  | tick reading now =>
    obtain ⟨-, hTick⟩ := Option.ite_none_left_eq_some.1 hTaken
    cases hTick
    exact sound.tick reading now
  | completed idx found now =>
    obtain ⟨started, hAt, rfl⟩ := Option.map_eq_some_iff.1 hTaken
    exact sound.complete found now hAt
  | changeDirectory workspaceId cwd now =>
    cases hTaken
    exact ⟨sound.single, sound.inFlight, sound.epochs, sound.due, sound.cached, sound.current⟩

variable {number : Nat} {identity : Bool}

/-- A request waits, or is already being seen to, at once. -/
theorem pending_of_request (sound : s.Sound) (now : Nat) (hInhabited : s.app.workspaces ≠ [])
  (hWanted : identity = false → s.app.gitRefreshDemand.isEmpty = false) :
  (s.request identity now).Pending (s.request identity now).requests identity := by
  obtain ⟨app, hApp, hFlight, hWorkspaces, hRows, hRequested⟩ := request_app identity now s
  obtain ⟨-, hKept, hSame, hShown⟩ := app.mark_kept now
  constructor
  case made => exact Nat.le_refl _
  case inhabited =>
    rw [hApp, hSame, hWorkspaces]
    exact hInhabited
  case wanted =>
    intro hOther
    rw [hApp, RefreshApp.gitRefreshDemand, hShown, hRows]
    exact hWanted hOther
  case waiting =>
    intro _ _
    rw [hApp]
    constructor
    · intro hIdentity
      rw [hKept, hRequested, hIdentity]
      rfl
    · intro hNone
      exact app.mark_deadline now (hFlight.trans (sound.idle hNone))

theorem Pending.request (pending : s.Pending number identity) (sound : s.Sound) (other : Bool)
  (now : Nat) : (s.request other now).Pending number identity := by
  obtain ⟨app, hApp, hFlight, hWorkspaces, hRows, hRequested⟩ := request_app other now s
  obtain ⟨-, hKept, hSame, hShown⟩ := app.mark_kept now
  constructor
  case made => exact Nat.le_succ_of_le pending.made
  case inhabited =>
    rw [hApp, hSame, hWorkspaces]
    exact pending.inhabited
  case wanted =>
    intro hOther
    rw [hApp, RefreshApp.gitRefreshDemand, hShown, hRows]
    exact pending.wanted hOther
  case waiting =>
    intro hCompleted hWorkers
    rw [hApp]
    constructor
    · intro hIdentity
      rw [hKept, hRequested, (pending.waiting hCompleted hWorkers).1 hIdentity, Bool.or_true]
    · intro hNone
      exact app.mark_deadline now (hFlight.trans (sound.idle hNone))

theorem Pending.tick (pending : s.Pending number identity) {reading now : Nat}
  (hClock : s.clock ≤ now) : (s.tick reading now).Pending number identity := by
  rcases s.tick_cases reading now with h | ⟨-, discovery, worker, h, -⟩
  · rw [h]
    refine ⟨pending.made, pending.inhabited, pending.wanted, fun hCompleted hWorkers => ?_⟩
    obtain ⟨hRequested, hDeadline⟩ := pending.waiting hCompleted hWorkers
    exact ⟨hRequested, fun hNone => (hDeadline hNone).trans (Int.ofNat_le.2 hClock)⟩
  · rw [h]
    refine ⟨pending.made, pending.inhabited, pending.wanted, fun _ hWorkers => ?_⟩
    -- the worker was started after the request
    have hNew := hWorkers ⟨worker, s.requests, s.readIn⟩
      (List.mem_append_right _ (List.mem_singleton_self _))
    exact absurd hNew (Nat.not_lt_of_le pending.made)

theorem Pending.complete (pending : s.Pending number identity) (sound : s.Sound) {idx : Nat}
  (hAt : s.workers[idx]? = some started) (found : WorkerReading) (now : Nat) :
  (s.complete idx started found now).Pending number identity := by
  have hOnly := (sound.only hAt).1
  have hMem : started ∈ s.workers := by
    rw [hOnly]
    exact List.mem_singleton_self started
  obtain ⟨-, hKept, hSame, hShown⟩ :=
    s.app.completed_kept (output found started).cacheUpdates now
  constructor
  case made => exact pending.made
  case inhabited =>
    intro hNone
    have hLength := RefreshApp.apply_length
      (s.app.completedRefresh (output found started).cacheUpdates now)
      (output found started).results
    rw [← complete_app, hNone, hSame, List.length_nil] at hLength
    exact pending.inhabited (List.length_eq_zero_iff.1 hLength.symm)
  case wanted =>
    intro hOther
    rw [complete_app]
    show (RefreshApp.gitRefreshDemand (RefreshApp.completedRefresh _ _ _)).isEmpty = false
    rw [RefreshApp.gitRefreshDemand, hShown]
    exact pending.wanted hOther
  case waiting =>
    intro hCompleted _
    have hOld : started.epoch < number :=
      hCompleted started.epoch (List.mem_append_right _ (List.mem_singleton_self _))
    have hDue := sound.due started hMem (Nat.lt_of_lt_of_le hOld pending.made)
    have hBefore := pending.waiting
      (fun epoch hEpoch => hCompleted epoch (List.mem_append_left _ hEpoch)) fun other hOther => by
        rw [hOnly] at hOther
        rw [List.mem_singleton.1 hOther]
        exact hOld
    rw [complete_app]
    constructor
    · intro hIdentity
      exact hKept.trans (hBefore.1 hIdentity)
    · exact fun _ => s.app.completed_deadline _ now hDue

theorem Pending.step (pending : s.Pending number identity) (sound : s.Sound)
  {operation : Operation} {t : System} (hStep : GitRefresh.step s operation = some t) :
  t.Pending number identity := by
  obtain ⟨hClock, hTaken⟩ := Option.ite_none_left_eq_some.1 hStep
  cases operation with
  | request other now =>
    cases hTaken
    exact pending.request sound other now
  | tick reading now =>
    obtain ⟨-, hTick⟩ := Option.ite_none_left_eq_some.1 hTaken
    cases hTick
    exact pending.tick (Nat.le_of_not_lt hClock)
  | completed idx found now =>
    obtain ⟨started, hAt, rfl⟩ := Option.map_eq_some_iff.1 hTaken
    exact pending.complete sound hAt found now
  | changeDirectory workspaceId cwd now =>
    cases hTaken
    refine ⟨pending.made, ?_, pending.wanted, fun hCompleted hWorkers => ?_⟩
    · exact fun hNone => pending.inhabited (List.map_eq_nil_iff.1 hNone)
    obtain ⟨hRequested, hDeadline⟩ := pending.waiting hCompleted hWorkers
    exact ⟨hRequested, fun hNone =>
      (hDeadline hNone).trans (Int.ofNat_le.2 (Nat.le_of_not_lt hClock))⟩

theorem Pending.served (pending : s.Pending number identity) (sound : s.Sound)
  (hCompleted : ∀ epoch ∈ s.completed, epoch < number) : s.Served number := by
  by_cases hNew : ∃ started ∈ s.workers, number ≤ started.epoch
  · exact Or.inl hNew
  have hOld : ∀ started ∈ s.workers, started.epoch < number := by
    intro started hMem
    exact Nat.lt_of_not_le fun hLate => hNew ⟨started, hMem, hLate⟩
  right
  obtain ⟨hRequested, hDeadline⟩ := pending.waiting hCompleted hOld
  cases hWorkers : s.workers with
  | cons started rest =>
    have hMem : started ∈ s.workers := by
      rw [hWorkers]
      exact List.mem_cons_self
    refine Or.inl ⟨List.cons_ne_nil _ _, ?_⟩
    exact sound.due started hMem (Nat.lt_of_lt_of_le (hOld started hMem) pending.made)
  | nil =>
    refine Or.inr ⟨_, if_pos ?_, hDeadline hWorkers⟩
    rw [sound.idle hWorkers, List.isEmpty_eq_false_iff.2 pending.inhabited]
    cases identity with
    | true => rw [hRequested rfl]; rfl
    | false => rw [pending.wanted rfl, Bool.not_false, Bool.or_true]; rfl

end System

/-- Whatever is requested is seen to until a worker that was started after the request is done,
there is one worker at a time, and what it takes over as outside of every repository was read
after every request that it was started after. -/
theorem refresh_requests {s₀ s : System} {before : List Operation} (hFresh : s₀.Fresh)
  (run : Run (ofPartial step) s₀ before s) :
  s.workers.length ≤ 1 ∧ (∀ started ∈ s.workers, started.Current) ∧
    ∀ identity now after s' u, step s (.request identity now) = some s' →
      s.app.workspaces ≠ [] → (identity = true ∨ s.app.gitRefreshDemand.isEmpty = false) →
        Run (ofPartial step) s' after u → (∀ epoch ∈ u.completed, epoch < s'.requests) →
          u.Served s'.requests := by
  have sound : s.Sound := run.preserves hFresh.sound fun _ _ _ sound hStep => sound.step hStep
  refine ⟨sound.single, sound.current, ?_⟩
  intro identity now after s' u hRequest hInhabited hWanted rest hCompleted
  have hPending : s'.Pending s'.requests identity := by
    obtain ⟨-, hTaken⟩ := Option.ite_none_left_eq_some.1 hRequest
    cases hTaken
    apply System.pending_of_request sound now hInhabited
    rintro rfl
    exact hWanted.resolve_left Bool.false_ne_true
  obtain ⟨hSound, hLater⟩ : u.Sound ∧ u.Pending s'.requests identity :=
    @Run.preserves _ _ _ (fun v : System => v.Sound ∧ v.Pending s'.requests identity) _ _ _ rest
      ⟨sound.step hRequest, hPending⟩ fun _ _ _ h hStep => ⟨h.1.step hStep, h.2.step h.1 hStep⟩
  exact hLater.served hSound hCompleted

/-- One workspace outside of every repository, the branch of which is shown. -/
def sampleSystem : System where
  app :=
    { workspaces := [⟨"w1", "/tmp", none, "/tmp", "tmp", "/tmp", none, none, none⟩]
      sidebarRows := [[.workspace, .branch]]
      gitRefreshInFlight := false
      gitIdentityRefreshRequested := false
      gitRefreshDueAfterInFlight := false
      lastGitRemoteStatusRefresh := 0
      lastGitRepoDiscoveryRefresh := 0
      gitStatusCache := ∅ }
  clock := 0
  workers := []
  requests := 0
  completed := []
  readIn := fun _ => 0

def sampleReading : WorkerReading :=
  ⟨fun _ => none, fun _ => ⟨2 * 10 ^ 9, none, "tmp", 2 * 10 ^ 9⟩⟩

/-- The request comes after a worker has looked at the directory and before that worker is done. -/
theorem refresh_requests_sample :
  (reached step sampleSystem [.tick (2 * 10 ^ 9) (2 * 10 ^ 9), .request false (3 * 10 ^ 9),
    .completed 0 sampleReading (4 * 10 ^ 9)]).Served 1 := by
  have hFresh : sampleSystem.Fresh := ⟨rfl, rfl, rfl, rfl, rfl, rfl, rfl⟩
  have hBefore : Run (ofPartial step) sampleSystem [.tick (2 * 10 ^ 9) (2 * 10 ^ 9)] _ :=
    run_reached rfl
  have hAfter : Run (ofPartial step) (reached step sampleSystem [.tick (2 * 10 ^ 9) (2 * 10 ^ 9),
      .request false (3 * 10 ^ 9)]) [.completed 0 sampleReading (4 * 10 ^ 9)] _ :=
    run_reached rfl
  exact (refresh_requests hFresh hBefore).2.2 false (3 * 10 ^ 9) _ _ _ rfl
    (List.cons_ne_nil _ _) (Or.inr rfl) hAfter (by decide +kernel)

end GitRefresh
