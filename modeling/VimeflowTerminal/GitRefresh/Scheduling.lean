import VimeflowTerminal.GitRefresh.Status

/-! One worker at a time refreshes the status of the repositories. A request that comes while it
runs is noted, and the next refresh is due as soon as it is done. What was found outside of every
repository is forgotten on every request. -/

namespace GitRefresh

open App App.AppLoop Transition

/-- A workspace with what its last status said. -/
structure GitWorkspace where
  id : String
  /-- `resolved_identity_cwd_from`, which always gives a directory -/
  identityCwd : Path
  customName : Option String
  cachedIdentityCwd : Path
  cachedAutoLabel : String
  cachedGitStatusKey : Path
  cachedGitBranch : Option String
  cachedGitAheadBehind : Option (Nat × Nat)
  cachedGitSpace : Option GitSpaceMetadata
  deriving DecidableEq

structure RefreshApp where
  workspaces : List GitWorkspace
  sidebarRows : List (List SpaceSidebarToken)
  gitRefreshInFlight : Bool
  gitIdentityRefreshRequested : Bool
  gitRefreshDueAfterInFlight : Bool
  lastGitRemoteStatusRefresh : Instant
  lastGitRepoDiscoveryRefresh : Instant
  gitStatusCache : FinMap Path GitStatusCacheEntry

structure Worker where
  items : List WorkspaceGitRefreshItem
  cache : FinMap Path GitStatusCacheEntry
  demand : GitStatusRefreshDemand

namespace RefreshApp

variable (app : RefreshApp)

def gitRefreshDemand : GitStatusRefreshDemand where
  branch := app.sidebarRows.flatten.any fun token => token.parts == .branch
  aheadBehind := app.sidebarRows.flatten.any fun token => token.parts == .gitStatus

def gitRefreshDeadline : Option Instant :=
  if !app.gitRefreshInFlight && !app.workspaces.isEmpty &&
      (app.gitIdentityRefreshRequested || !app.gitRefreshDemand.isEmpty) then
    some (app.lastGitRemoteStatusRefresh + gitRemoteStatusRefreshInterval)
  else none

def workspaceGitRefreshItems (refreshRepoDiscovery : Bool) : List WorkspaceGitRefreshItem :=
  app.workspaces.map fun ws =>
    let cacheKeyHint :=
      if !refreshRepoDiscovery && decide (ws.cachedIdentityCwd = ws.identityCwd) then
        some ws.cachedGitStatusKey
      else none
    ⟨ws.id, ws.identityCwd, cacheKeyHint⟩

/-- The state afterwards, and the worker that was started. -/
def startGitStatusRefreshIfDue (now : Instant) : RefreshApp × Option Worker :=
  match app.gitRefreshDeadline with
  | none => (app, none)
  | some deadline =>
    if now < deadline then (app, none)
    else
      let refreshRepoDiscovery := app.gitIdentityRefreshRequested ||
        decide (gitRepoDiscoveryRefreshInterval ≤ now - app.lastGitRepoDiscoveryRefresh)
      let items := app.workspaceGitRefreshItems refreshRepoDiscovery
      if items.isEmpty then
        ({ app with lastGitRemoteStatusRefresh := now, gitIdentityRefreshRequested := false },
          none)
      else
        let demand := app.gitRefreshDemand
        let demand :=
          if app.gitIdentityRefreshRequested then { demand with branch := true } else demand
        ({ app with
            gitRefreshInFlight := true
            gitIdentityRefreshRequested := false
            lastGitRepoDiscoveryRefresh :=
              if refreshRepoDiscovery then now else app.lastGitRepoDiscoveryRefresh },
          some ⟨items, app.gitStatusCache, demand⟩)

def markGitStatusRefreshDue (now : Instant) : RefreshApp :=
  let app := { app with
    gitStatusCache := app.gitStatusCache.retain fun _ entry => entry.fingerprint.isSome }
  if app.gitRefreshInFlight then { app with gitRefreshDueAfterInFlight := true }
  else
    { app with
      lastGitRemoteStatusRefresh := (checkedSub now gitRemoteStatusRefreshInterval).getD now
      gitRefreshDueAfterInFlight := false }

def requestGitIdentityRefresh (now : Instant) : RefreshApp :=
  { app with gitIdentityRefreshRequested := true }.markGitStatusRefreshDue now

/-- The workspace with a status, and whether anything that is shown has changed. -/
def applyStatus (ws : GitWorkspace) (result : WorkspaceGitStatus) : GitWorkspace × Bool :=
  let changed := decide (ws.cachedAutoLabel ≠ result.autoLabel) && ws.customName.isNone ||
    result.demand.branch && decide (ws.cachedGitBranch ≠ result.branch) ||
    result.demand.aheadBehind && decide (ws.cachedGitAheadBehind ≠ result.aheadBehind) ||
    decide (ws.cachedGitSpace ≠ result.space)
  ({ ws with
      cachedIdentityCwd := result.resolvedIdentityCwd
      cachedAutoLabel := result.autoLabel
      cachedGitStatusKey := result.statusCacheKey
      cachedGitBranch := if result.demand.branch then result.branch else ws.cachedGitBranch
      cachedGitAheadBehind :=
        if result.demand.aheadBehind then result.aheadBehind else ws.cachedGitAheadBehind
      cachedGitSpace := result.space }, changed)

/-- A result for a workspace that is gone, or in another directory by now, is dropped. -/
def applyWorkspaceGitStatus (before : List GitWorkspace × Bool) (result : WorkspaceGitStatus) :
  List GitWorkspace × Bool :=
  let (workspaces, changed) := before
  match workspaces.findIdx? fun ws => decide (ws.id = result.workspaceId) with
  | none => (workspaces, changed)
  | some wsIdx =>
    match workspaces[wsIdx]? with
    | none => (workspaces, changed)
    | some ws =>
      if ws.identityCwd ≠ result.resolvedIdentityCwd then (workspaces, changed)
      else
        let (ws, wsChanged) := applyStatus ws result
        (workspaces.set wsIdx ws, changed || wsChanged)

def applyWorkspaceGitStatuses (results : List WorkspaceGitStatus) : RefreshApp × Bool :=
  let (workspaces, changed) := results.foldl applyWorkspaceGitStatus (app.workspaces, false)
  ({ app with workspaces }, changed)

def handleGitStatusRefreshed (results : List WorkspaceGitStatus)
  (cacheUpdates : List (Path × GitStatusCacheEntry)) (now : Instant) : RefreshApp × Bool :=
  let app := { app with
    gitRefreshInFlight := false
    gitStatusCache := app.gitStatusCache.insertAll cacheUpdates }
  let app :=
    if app.gitRefreshDueAfterInFlight then
      { app.markGitStatusRefreshDue now with gitRefreshDueAfterInFlight := false }
    else { app with lastGitRemoteStatusRefresh := now }
  app.applyWorkspaceGitStatuses results

/-- The terminals of a workspace are in another directory. -/
def changeDirectory (workspaceId : String) (cwd : Path) : RefreshApp :=
  { app with workspaces := app.workspaces.map fun ws =>
      if ws.id = workspaceId then { ws with identityCwd := cwd } else ws }

end RefreshApp

/-- A worker in flight, with the number of requests there had been when it was started, and for
each result in its copy of the cache with how many requests the worker that read it was started. -/
structure Started where
  worker : Worker
  epoch : Nat
  readIn : Path → Nat

/-- The program with its workers, the clock, and what is counted: the requests, the workers that are
done, by their epochs, and the epochs of the cached results. -/
structure System where
  app : RefreshApp
  clock : Nat
  workers : List Started
  requests : Nat
  completed : List Nat
  readIn : Path → Nat

/-- What may happen, each at a reading of the clock. A tick may come with an older reading. -/
inductive Operation where
  | request (identity : Bool) (now : Nat)
  | tick (reading now : Nat)
  | completed (idx : Nat) (found : WorkerReading) (now : Nat)
  | changeDirectory (workspaceId : String) (cwd : Path) (now : Nat)

def Operation.now : Operation → Nat
  | .request _ now | .tick _ now | .completed _ _ now | .changeDirectory _ _ now => now

/-- A result that is taken from the cache stays the one it was. -/
def Started.origin (started : Started) (found : WorkerReading) (key : Path) : Nat :=
  if (started.worker.cache.lookup key).any fun entry => entry.holds (found.job key).clock then
    started.readIn key
  else started.epoch

namespace System

variable (s : System)

def request (identity : Bool) (now : Nat) : System :=
  { s with
    app := if identity then s.app.requestGitIdentityRefresh now
      else s.app.markGitStatusRefreshDue now
    clock := now
    requests := s.requests + 1 }

def tick (reading now : Nat) : System :=
  let (app, worker) := s.app.startGitStatusRefreshIfDue reading
  { s with
    app
    clock := now
    workers := s.workers ++ (worker.map fun worker => ⟨worker, s.requests, s.readIn⟩).toList }

def complete (idx : Nat) (started : Started) (found : WorkerReading) (now : Nat) : System :=
  let output := refreshWorkspaceGitStatusesWithCacheAndDemand found started.worker.items
    started.worker.cache started.worker.demand
  { s with
    app := (s.app.handleGitStatusRefreshed output.results output.cacheUpdates now).1
    clock := now
    workers := s.workers.eraseIdx idx
    completed := s.completed ++ [started.epoch]
    readIn := fun key => if key ∈ output.cacheUpdates.map Prod.fst then started.origin found key
      else s.readIn key }

end System

/-- The clock does not go back. -/
def step (s : System) (operation : Operation) : Option System :=
  if operation.now < s.clock then none
  else
    match operation with
    | .request identity now => some (s.request identity now)
    | .tick reading now => if now < reading then none else some (s.tick reading now)
    | .completed idx found now =>
      s.workers[idx]?.map fun started => s.complete idx started found now
    | .changeDirectory workspaceId cwd now =>
      some { s with app := s.app.changeDirectory workspaceId cwd, clock := now }

/-- The program has just started. -/
structure System.Fresh (s : System) : Prop where
  workers : s.workers = []
  requests : s.requests = 0
  completed : s.completed = []
  inFlight : s.app.gitRefreshInFlight = false
  notRequested : s.app.gitIdentityRefreshRequested = false
  notDue : s.app.gitRefreshDueAfterInFlight = false
  cache : s.app.gitStatusCache = ∅

/-- A request of that number is being seen to. -/
def System.Served (s : System) (number : Nat) : Prop :=
  (∃ started ∈ s.workers, number ≤ started.epoch) ∨
    (s.workers ≠ [] ∧ s.app.gitRefreshDueAfterInFlight = true) ∨
    ∃ deadline, s.app.gitRefreshDeadline = some deadline ∧ deadline ≤ (s.clock : Instant)

/-- What a worker takes over from the cache as outside of every repository was read by a worker that
was started after every request that this one was started after. -/
def Started.Current (started : Started) : Prop :=
  ∀ key entry, started.worker.cache.lookup key = some entry → entry.fingerprint = none →
    started.readIn key = started.epoch

end GitRefresh
