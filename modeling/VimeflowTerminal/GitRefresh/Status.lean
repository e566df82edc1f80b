import VimeflowTerminal.App.ScheduledTasks

/-! What a refresh finds out about the directory of a workspace. A directory outside of every
repository is not looked at again for a while. -/

namespace GitRefresh

open App App.AppLoop

abbrev Path := String

/-- A reading of the monotonic clock, in nanoseconds. Instants before the first reading can be
represented too, as long as their seconds fit into 64 bits with a sign. -/
abbrev Instant := Int

def leastInstant : Instant := -(2 ^ 63 * 10 ^ 9)

def checkedSub (now : Instant) (delay : Nat) : Option Instant :=
  if leastInstant ≤ now - delay then some (now - delay) else none

structure GitSpaceMetadata where
  key : String
  checkoutKey : String
  repoName : String
  repoRoot : Path
  isLinkedWorktree : Bool
  deriving DecidableEq

structure WorkspaceGitStatusSnapshot where
  autoLabel : String
  branch : Option String
  aheadBehind : Option (Nat × Nat)
  space : Option GitSpaceMetadata
  deriving DecidableEq

inductive GitHeadIdentity where
  | branch (fullRef shortName : String) (oid : Option String)
  | detached (oid : String)
  deriving DecidableEq

structure GitUpstreamIdentity where
  remote : String
  mergeRef : String
  fullRef : String
  oid : Option String
  deriving DecidableEq

structure GitStatusFingerprint where
  gitDir : Path
  gitCommonDir : Path
  head : GitHeadIdentity
  upstream : Option GitUpstreamIdentity
  deriving DecidableEq

namespace GitStatusFingerprint

def branchName (fingerprint : GitStatusFingerprint) : Option String :=
  match fingerprint.head with
  | .branch _ shortName _ => some shortName
  | .detached _ => none

def headOid (fingerprint : GitStatusFingerprint) : Option String :=
  match fingerprint.head with
  | .branch _ _ oid => oid
  | .detached oid => some oid

def upstreamOid (fingerprint : GitStatusFingerprint) : Option String :=
  fingerprint.upstream.bind (·.oid)

end GitStatusFingerprint

/-- A result without a fingerprint is that of a directory outside of every repository. -/
structure GitStatusCacheEntry where
  fingerprint : Option GitStatusFingerprint
  retryAfter : Option Instant
  snapshot : WorkspaceGitStatusSnapshot
  deriving DecidableEq

/-- What the files of a repository say when they are read. The canonical directories and the
label are those that belong to it. -/
structure RepositoryReading where
  autoLabel : String
  space : GitSpaceMetadata
  gitDir : Path
  gitCommonDir : Path
  /-- `read_head_identity` -/
  head : Option GitHeadIdentity
  /-- `read_upstream_identity` of a branch -/
  upstream : String → Option GitUpstreamIdentity
  /-- `git_ahead_behind_between` -/
  aheadBehind : String → String → Option (Nat × Nat)

/-- What a worker finds when it gets to a directory: the clock when it looks at the cached result,
the repository, and the clock when it has found none. -/
structure GitReading where
  clock : Instant
  repository : Option RepositoryReading
  fallbackLabel : String
  missedAt : Instant

def gitStatusFingerprint (repository : RepositoryReading) : Option GitStatusFingerprint :=
  repository.head.map fun head =>
    let upstream :=
      match head with
      | .branch _ shortName _ => repository.upstream shortName
      | .detached _ => none
    ⟨repository.gitDir, repository.gitCommonDir, head, upstream⟩

def nonGitRetryInterval : Nat := 30 * 10 ^ 9

/-- A result for a directory outside of every repository that is not to be retried yet. -/
def GitStatusCacheEntry.holds (entry : GitStatusCacheEntry) (clock : Instant) : Bool :=
  entry.fingerprint.isNone && entry.retryAfter.any fun retryAfter => decide (clock < retryAfter)

def gitStatusSnapshotForRepository (repository : RepositoryReading)
  (cached : Option GitStatusCacheEntry) (demand : GitStatusRefreshDemand) :
  WorkspaceGitStatusSnapshot × Option GitStatusCacheEntry :=
  let autoLabel := repository.autoLabel
  let space := some repository.space
  if !demand.aheadBehind then
    let branch := if demand.branch then
        repository.head.bind fun head =>
          match head with
          | .branch _ shortName _ => some shortName
          | .detached _ => none
      else none
    (⟨autoLabel, branch, none, space⟩, none)
  else
    match gitStatusFingerprint repository with
    | none => (⟨autoLabel, none, none, space⟩, none)
    | some fingerprint =>
      let branch := fingerprint.branchName
      match cached.filter fun entry => decide (entry.fingerprint = some fingerprint) with
      | some entry =>
        let snapshot := ⟨autoLabel, branch, entry.snapshot.aheadBehind, space⟩
        (snapshot, some ⟨some fingerprint, none, snapshot⟩)
      | none =>
        let aheadBehind := do
          let headOid ← fingerprint.headOid
          let upstreamOid ← fingerprint.upstreamOid
          repository.aheadBehind headOid upstreamOid
        let snapshot := ⟨autoLabel, branch, aheadBehind, space⟩
        (snapshot, some ⟨some fingerprint, none, snapshot⟩)

def gitStatusSnapshotForCwdWithDemand (reading : GitReading) (cached : Option GitStatusCacheEntry)
  (demand : GitStatusRefreshDemand) : WorkspaceGitStatusSnapshot × Option GitStatusCacheEntry :=
  match cached.filter fun entry => entry.holds reading.clock with
  | some entry => (entry.snapshot, some entry)
  | none =>
    match reading.repository with
    | none =>
      let snapshot := ⟨reading.fallbackLabel, none, none, none⟩
      (snapshot, some ⟨none, some (reading.missedAt + nonGitRetryInterval), snapshot⟩)
    | some repository => gitStatusSnapshotForRepository repository cached demand

structure WorkspaceGitRefreshItem where
  workspaceId : String
  resolvedIdentityCwd : Path
  cacheKeyHint : Option Path
  deriving DecidableEq

structure WorkspaceGitRefreshTarget where
  workspaceId : String
  resolvedIdentityCwd : Path
  deriving DecidableEq

structure WorkspaceGitRefreshJob where
  cacheKey : Path
  cached : Option GitStatusCacheEntry
  targets : List WorkspaceGitRefreshTarget

structure WorkspaceGitStatus extends WorkspaceGitStatusSnapshot where
  workspaceId : String
  resolvedIdentityCwd : Path
  statusCacheKey : Path
  demand : GitStatusRefreshDemand

def WorkspaceGitStatusSnapshot.intoWorkspaceStatus (snapshot : WorkspaceGitStatusSnapshot)
  (workspaceId : String) (resolvedIdentityCwd statusCacheKey : Path)
  (demand : GitStatusRefreshDemand) : WorkspaceGitStatus :=
  { snapshot with workspaceId, resolvedIdentityCwd, statusCacheKey, demand }

structure WorkspaceGitRefreshOutput where
  results : List WorkspaceGitStatus
  cacheUpdates : List (Path × GitStatusCacheEntry)

/-- What a worker finds: the repository that a directory is in, and the directories of its jobs. -/
structure WorkerReading where
  gitStatusCacheKey : Path → Option Path
  job : Path → GitReading

def WorkspaceGitRefreshJob.addTarget (job : WorkspaceGitRefreshJob) (cacheKey : Path)
  (target : WorkspaceGitRefreshTarget) : WorkspaceGitRefreshJob :=
  if job.cacheKey = cacheKey then { job with targets := job.targets ++ [target] } else job

/-- One item more: a further target of the job with its key, or a job of its own. -/
def addGitRefreshItem (reading : WorkerReading) (cache : FinMap Path GitStatusCacheEntry)
  (jobs : List WorkspaceGitRefreshJob) (item : WorkspaceGitRefreshItem) :
  List WorkspaceGitRefreshJob :=
  let cacheKey := item.cacheKeyHint.getD
    ((reading.gitStatusCacheKey item.resolvedIdentityCwd).getD item.resolvedIdentityCwd)
  let target : WorkspaceGitRefreshTarget := ⟨item.workspaceId, item.resolvedIdentityCwd⟩
  if jobs.any fun job => decide (job.cacheKey = cacheKey) then
    jobs.map (·.addTarget cacheKey target)
  else jobs ++ [⟨cacheKey, cache.lookup cacheKey, [target]⟩]

def deduplicateGitRefreshItems (reading : WorkerReading) (items : List WorkspaceGitRefreshItem)
  (cache : FinMap Path GitStatusCacheEntry) : List WorkspaceGitRefreshJob :=
  items.foldl (addGitRefreshItem reading cache) []

def runJob (reading : WorkerReading) (demand : GitStatusRefreshDemand)
  (job : WorkspaceGitRefreshJob) : WorkspaceGitRefreshOutput :=
  let (snapshot, cacheEntry) :=
    gitStatusSnapshotForCwdWithDemand (reading.job job.cacheKey) job.cached demand
  { results := job.targets.map fun target =>
      snapshot.intoWorkspaceStatus target.workspaceId target.resolvedIdentityCwd job.cacheKey demand
    cacheUpdates := (cacheEntry.map fun entry => (job.cacheKey, entry)).toList }

def refreshWorkspaceGitStatusesWithCacheAndDemand (reading : WorkerReading)
  (items : List WorkspaceGitRefreshItem) (cache : FinMap Path GitStatusCacheEntry)
  (demand : GitStatusRefreshDemand) : WorkspaceGitRefreshOutput :=
  let outputs := (deduplicateGitRefreshItems reading items cache).map (runJob reading demand)
  ⟨outputs.flatMap (·.results), outputs.flatMap (·.cacheUpdates)⟩

variable {reading : WorkerReading} {items : List WorkspaceGitRefreshItem}
  {cache : FinMap Path GitStatusCacheEntry} {demand : GitStatusRefreshDemand}

theorem addTarget_kept (job : WorkspaceGitRefreshJob) (cacheKey : Path)
  (target : WorkspaceGitRefreshTarget) :
  (job.addTarget cacheKey target).cached = job.cached ∧
    (job.addTarget cacheKey target).cacheKey = job.cacheKey := by
  unfold WorkspaceGitRefreshJob.addTarget
  split <;> exact ⟨rfl, rfl⟩

/-- The cached result of a job is the one under its key. -/
theorem cached_of_job {job : WorkspaceGitRefreshJob}
  (hJob : job ∈ deduplicateGitRefreshItems reading items cache) :
  job.cached = cache.lookup job.cacheKey := by
  have hAll : ∀ jobs : List WorkspaceGitRefreshJob,
      (∀ job ∈ jobs, job.cached = cache.lookup job.cacheKey) →
      ∀ job ∈ items.foldl (addGitRefreshItem reading cache) jobs,
        job.cached = cache.lookup job.cacheKey := by
    clear hJob
    induction items with
    | nil => exact fun jobs h => h
    | cons item items ih =>
      intro jobs h
      apply ih
      unfold addGitRefreshItem
      intro job hMem
      dsimp only at hMem
      split at hMem
      · obtain ⟨old, hOld, rfl⟩ := List.mem_map.1 hMem
        obtain ⟨hCached, hKey⟩ := addTarget_kept old
          (item.cacheKeyHint.getD ((reading.gitStatusCacheKey item.resolvedIdentityCwd).getD
            item.resolvedIdentityCwd)) ⟨item.workspaceId, item.resolvedIdentityCwd⟩
        rw [hCached, hKey]
        exact h old hOld
      · rcases List.mem_append.1 hMem with hOld | hNew
        · exact h job hOld
        · rw [List.mem_singleton.1 hNew]
  exact hAll [] (fun _ hMem => absurd hMem List.not_mem_nil) job hJob

/-- The entry of a result is the cached one, or has just been found. -/
theorem snapshot_entry {found : GitReading} {cached : Option GitStatusCacheEntry}
  {entry : GitStatusCacheEntry}
  (hEntry : (gitStatusSnapshotForCwdWithDemand found cached demand).2 = some entry) :
  cached = some entry ∧ entry.holds found.clock ∨
    (cached.all fun entry => !entry.holds found.clock) := by
  unfold gitStatusSnapshotForCwdWithDemand at hEntry
  cases cached with
  | none => exact Or.inr rfl
  | some old =>
    cases hHolds : old.holds found.clock with
    | false =>
      right
      rw [Option.all_some, hHolds]
      rfl
    | true =>
      rw [Option.filter_some, if_pos hHolds] at hEntry
      cases hEntry
      exact Or.inl ⟨rfl, hHolds⟩

theorem update_entry {key : Path} {entry : GitStatusCacheEntry}
  (hUpdate : (key, entry) ∈
    (refreshWorkspaceGitStatusesWithCacheAndDemand reading items cache demand).cacheUpdates) :
  cache.lookup key = some entry ∧ entry.holds (reading.job key).clock ∨
    ((cache.lookup key).all fun entry => !entry.holds (reading.job key).clock) := by
  obtain ⟨output, hOutput, hMem⟩ := List.mem_flatMap.1 hUpdate
  obtain ⟨job, hJob, rfl⟩ := List.mem_map.1 hOutput
  obtain ⟨found, hFound, hPair⟩ := Option.map_eq_some_iff.1 (Option.mem_toList.1 hMem)
  cases hPair
  rw [← cached_of_job hJob]
  exact snapshot_entry hFound

end GitRefresh
