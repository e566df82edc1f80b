import VimeflowTerminal.Worktrees.Deferred

/-! A request is refused, which only answers it, or it starts one worker. A
completion clears the entries of its own operation, answers its own request and
touches the workspaces. -/

namespace Worktrees

namespace Response

def isError : Response → Bool
  | .error .. => true
  | _ => false

end Response

namespace State

/-- Only the workspaces and the position among them differ. -/
def SameOperations (s t : State) : Prop :=
  t = { s with workspaces := t.workspaces, active := t.active, selected := t.selected }

theorem SameOperations.refl (s : State) : SameOperations s s := rfl

variable {s t : State} {focus : Bool} {spawned : Except String String} {wsIdx : Nat}
  {ws : Workspace}

theorem SameOperations.trans {u : State} (hLeft : SameOperations s t)
  (hRight : SameOperations t u) : SameOperations s u := by
  unfold SameOperations at hLeft hRight ⊢
  rw [hRight, hLeft]

theorem SameOperations.fields (h : SameOperations s t) :
  t.pendingCreates = s.pendingCreates ∧ t.pendingRemoves = s.pendingRemoves ∧
    t.pendingRemovePaths = s.pendingRemovePaths ∧ t.creating = s.creating ∧
    t.removing = s.removing ∧ t.answers = s.answers := by
  rw [h]
  exact ⟨rfl, rfl, rfl, rfl, rfl, rfl⟩

theorem SameOperations.sendApiResponse (h : SameOperations s t) (respondTo : Nat) (id : String)
  (response : Response) :
  SameOperations (s.sendApiResponse respondTo id response)
    (t.sendApiResponse respondTo id response) := by
  rw [h]
  rfl

variable {s t : State} {resolve : Path → Path} {world : World}

theorem sameOperations_switchWorkspace (s : State) (idx : Nat) :
  SameOperations s (s.switchWorkspace idx) := by
  unfold switchWorkspace
  split <;> rfl

@[simp] theorem workspaces_switchWorkspace (s : State) (idx : Nat) :
  (s.switchWorkspace idx).workspaces = s.workspaces := by
  unfold switchWorkspace
  split <;> rfl

/-- A create request is refused, or starts a worker on a checkout that no
operation in progress is listed under. -/
theorem startApiWorktreeCreate_cases (s : State) (id : String) (params : WorktreeCreateParams)
  (respondTo : Nat) :
  (∃ failure, s.startApiWorktreeCreate resolve world id params respondTo =
      s.sendFailure respondTo id failure) ∨
    ∃ branch source path, s.prepareCreate resolve world params = .ok (branch, source, path) ∧
      s.createBlocked (canonicalOrOriginal resolve world path) = false ∧
      s.startApiWorktreeCreate resolve world id params respondTo =
        s.startCreateJob id params respondTo branch source path
          (canonicalOrOriginal resolve world path) := by
  unfold startApiWorktreeCreate
  cases hPrepare : s.prepareCreate resolve world params with
  | error failure => exact Or.inl ⟨failure, rfl⟩
  | ok prepared =>
    obtain ⟨branch, source, path⟩ := prepared
    dsimp only
    cases hBlocked : s.createBlocked (canonicalOrOriginal resolve world path) with
    | true => exact Or.inl ⟨operationInProgress, rfl⟩
    | false => exact Or.inr ⟨branch, source, path, rfl, hBlocked, rfl⟩

theorem startApiWorktreeRemove_cases (s : State) (id : String) (params : WorktreeRemoveParams)
  (respondTo : Nat) :
  (∃ failure, s.startApiWorktreeRemove resolve world id params respondTo =
      s.sendFailure respondTo id failure) ∨
    ∃ workspaceId space, s.prepareRemove params = .ok (workspaceId, space) ∧
      s.removeBlocked workspaceId (canonicalOrOriginal resolve world space.checkoutPath) =
        false ∧
      s.startApiWorktreeRemove resolve world id params respondTo =
        s.startRemoveJob id params respondTo workspaceId space
          (canonicalOrOriginal resolve world space.checkoutPath) := by
  unfold startApiWorktreeRemove
  cases hPrepare : s.prepareRemove params with
  | error failure => exact Or.inl ⟨failure, rfl⟩
  | ok prepared =>
    obtain ⟨workspaceId, space⟩ := prepared
    dsimp only
    cases hBlocked : s.removeBlocked workspaceId
        (canonicalOrOriginal resolve world space.checkoutPath) with
    | true => exact Or.inl ⟨operationInProgress, rfl⟩
    | false => exact Or.inr ⟨workspaceId, space, rfl, hBlocked, rfl⟩

theorem startCreateJob_spec (s : State) (id : String) (params : WorktreeCreateParams)
  (respondTo : Nat) (branch : String) (source : WorktreeSource) (path checkoutKey : Path) :
  ∃ job nextOperationId,
    s.startCreateJob id params respondTo branch source path checkoutKey =
      { s with
        nextOperationId
        pendingCreates := s.pendingCreates.insert checkoutKey s.nextOperationId
        creating := s.creating ++ [job] } ∧
    job.checkoutKey = checkoutKey ∧ job.operationId = s.nextOperationId ∧ job.path = path ∧
    job.respondTo = respondTo :=
  ⟨_, _, rfl, rfl, rfl, rfl, rfl⟩

theorem startRemoveJob_spec (s : State) (id : String) (params : WorktreeRemoveParams)
  (respondTo : Nat) (workspaceId : String) (space : WorktreeSpaceMembership) (checkoutKey : Path) :
  ∃ job nextOperationId,
    s.startRemoveJob id params respondTo workspaceId space checkoutKey =
      { s with
        nextOperationId
        pendingRemoves := s.pendingRemoves.insert workspaceId s.nextOperationId
        pendingRemovePaths := s.pendingRemovePaths.insert checkoutKey s.nextOperationId
        removing := s.removing ++ [job] } ∧
    job.checkoutKey = checkoutKey ∧ job.workspaceId = workspaceId ∧
    job.operationId = s.nextOperationId ∧ job.path = space.checkoutPath ∧
    job.respondTo = respondTo ∧ job.worktree = some space :=
  ⟨_, _, rfl, rfl, rfl, rfl, rfl, rfl, rfl⟩

/-- A workspace as it is opened for a directory. -/
def freshWorkspace (world : World) (cwd : Path) (id : String) : Workspace where
  id
  customName := none
  worktreeSpace := none
  gitSpace := world.gitSpaceMetadata cwd
  identityCwd := some cwd

theorem createWorkspaceWithOptions_ok {cwd : Path}
  (hOpened : s.createWorkspaceWithOptions world cwd focus spawned = .ok (t, wsIdx)) :
  SameOperations s t ∧ wsIdx = s.workspaces.length ∧
    ∃ id, spawned = .ok id ∧ t.workspaces = s.workspaces ++ [freshWorkspace world cwd id] := by
  cases spawned with
  | error message => cases hOpened
  | ok id =>
    cases hOpened
    split
    · refine ⟨SameOperations.trans ?_ (sameOperations_switchWorkspace _ _), rfl, id, rfl, ?_⟩
      · rfl
      · simp [freshWorkspace]
    · exact ⟨rfl, rfl, id, rfl, rfl⟩

/-- The membership the parent of a group is marked with. -/
def parentMembership (source : WorktreeSource) : WorktreeSpaceMembership :=
  worktreeMembership source source.sourceCheckoutPath false

/-- The workspaces with the parent of the group marked: the one there is, or a new one. -/
inductive MarksParent (world : World) (workspaces : List Workspace) (source : WorktreeSource)
  (spawned : Except String String) : List Workspace → Prop where
  | found {wsIdx : Nat}
      (parent : source.workspaceIdx.or (findParentWorkspaceByKey workspaces source.repoKey) =
        some wsIdx) :
      MarksParent world workspaces source spawned
        (setWorktreeMembership workspaces wsIdx (parentMembership source))
  | opened {id : String}
      (parent : source.workspaceIdx.or (findParentWorkspaceByKey workspaces source.repoKey) = none)
      (shell : spawned = .ok id) :
      MarksParent world workspaces source spawned
        (setWorktreeMembership
          (workspaces ++ [freshWorkspace world source.sourceCheckoutPath id]) workspaces.length
          (parentMembership source))

theorem ensureSourceParentMembership_ok {source source' : WorktreeSource}
  (hEnsured : s.ensureSourceParentMembership world source spawned = .ok (t, source')) :
  SameOperations s t ∧ MarksParent world s.workspaces source spawned t.workspaces := by
  unfold ensureSourceParentMembership at hEnsured
  split at hEnsured
  next wsIdx hParent =>
    cases hEnsured
    exact ⟨rfl, .found hParent⟩
  next hParent =>
    split at hEnsured
    · cases hEnsured
    next opened wsIdx hOpened =>
      cases hEnsured
      obtain ⟨hSame, hIdx, id, hShell, hWorkspaces⟩ := createWorkspaceWithOptions_ok hOpened
      refine ⟨hSame.trans rfl, ?_⟩
      rw [hWorkspaces, hIdx]
      exact .opened hParent hShell

theorem openCheckout_ok {path : Path}
  (hOpened : s.openCheckout resolve world path focus spawned = .ok (t, wsIdx)) :
  SameOperations s t ∧ wsIdx < t.workspaces.length := by
  unfold openCheckout at hOpened
  split at hOpened
  next found hFound =>
    cases hOpened
    obtain ⟨hLt, -⟩ := List.findIdx?_eq_some_iff_getElem.1 hFound
    split
    · exact ⟨sameOperations_switchWorkspace s wsIdx, by simpa using hLt⟩
    · exact ⟨rfl, hLt⟩
  · obtain ⟨hSame, rfl, id, -, hWorkspaces⟩ := createWorkspaceWithOptions_ok hOpened
    exact ⟨hSame, by simp [hWorkspaces]⟩

theorem openCheckout_error {path : Path} {message : String}
  (hFailed : s.openCheckout resolve world path focus spawned = .error message) :
  openWorkspaceIdxForCheckout resolve world s.workspaces path = none ∧ spawned = .error message := by
  unfold openCheckout at hFailed
  split at hFailed
  · cases hFailed
  next hHidden =>
    refine ⟨hHidden, ?_⟩
    cases spawned with
    | error other =>
      cases hFailed
      rfl
    | ok id => cases hFailed

theorem setCustomName_spec (s : State) (label : Option String)
  (hAt : s.workspaces[wsIdx]? = some ws) :
  SameOperations s (s.setCustomName wsIdx label) ∧
    ∃ named, (s.setCustomName wsIdx label).workspaces[wsIdx]? = some named ∧
      named.worktreeSpace = ws.worktreeSpace := by
  cases label with
  | none => exact ⟨rfl, ws, hAt, rfl⟩
  | some label =>
    refine ⟨rfl, { ws with customName := some label }, ?_, rfl⟩
    simp [setCustomName, hAt]

def createdSource (resolve : Path → Path) (world : World) (s : State) (job : CreateJob) :
  WorktreeSource where
  workspaceIdx := s.apiCreateSourceWorkspaceIdx resolve world job
  sourceCheckoutPath := job.sourceCheckoutPath
  sourceRepoRoot := job.sourceRepoRoot
  repoKey := job.repoKey
  repoName := job.repoName

/-- The parent of the group gets a mark it did not have, no workspace shows the
new checkout and none can be opened for it. -/
def FailsAfterMarking (resolve : Path → Path) (world : World) (s : State) (job : CreateJob)
  (spawned : Spawned) : Prop :=
  (∃ message, spawned.checkout = .error message) ∧
    ∃ marked, MarksParent world s.workspaces (createdSource resolve world s job) spawned.parent
        marked ∧
      marked ≠ s.workspaces ∧ openWorkspaceIdxForCheckout resolve world marked job.path = none

/-- Opening a created worktree answers its request once. It fails with the
workspaces changed only if it fails after marking the parent. -/
theorem openCreatedWorktree_spec (s : State) (job : CreateJob) (spawned : Spawned) :
  ∃ opened response, SameOperations s opened ∧
    s.openCreatedWorktree resolve world job spawned =
      opened.sendApiResponse job.respondTo job.id response ∧
    (Response.isError response = true → ¬ FailsAfterMarking resolve world s job spawned →
      opened.workspaces = s.workspaces) := by
  unfold openCreatedWorktree
  dsimp only
  split
  next failure hEnsured =>
    exact ⟨s, _, .refl s, rfl, fun _ _ => rfl⟩
  next marked source' hEnsured =>
    obtain ⟨hMarked, hMarks⟩ := ensureSourceParentMembership_ok hEnsured
    split
    next message hOpened =>
      refine ⟨marked, _, hMarked, rfl, ?_⟩
      intro _ hSafe
      by_contra hChanged
      obtain ⟨hHidden, hShell⟩ := openCheckout_error hOpened
      exact hSafe ⟨⟨message, hShell⟩, marked.workspaces, hMarks, hChanged, hHidden⟩
    next opened wsIdx hOpened =>
      obtain ⟨hSame, hLt⟩ := openCheckout_ok hOpened
      obtain ⟨ws, hMarkedAt, hMembership⟩ : ∃ ws, (setWorktreeMembership opened.workspaces wsIdx
          (worktreeMembership source' job.path true))[wsIdx]? = some ws ∧
            ws.worktreeSpace = some (worktreeMembership source' job.path true) :=
        ⟨{ opened.workspaces[wsIdx] with
            worktreeSpace := some (worktreeMembership source' job.path true) },
          by simp [setWorktreeMembership, List.getElem?_eq_getElem hLt], rfl⟩
      obtain ⟨hNameSame, named, hAt, hKept⟩ := setCustomName_spec { opened with
        workspaces := setWorktreeMembership opened.workspaces wsIdx
          (worktreeMembership source' job.path true) } job.label hMarkedAt
      have hSpace := hKept.trans hMembership
      rw [hAt]
      simp only [Option.bind_some, hSpace, Option.map_some]
      refine ⟨_, _, ?_, rfl, fun hError => absurd hError Bool.false_ne_true⟩
      refine hMarked.trans (hSame.trans (SameOperations.trans ?_ hNameSame))
      rfl

/-- A workspace linked to a checkout is closed alone, also within a group. -/
theorem closeRemovedLinkedWorktreeWorkspace_spec {space : WorktreeSpaceMembership}
  (hAt : s.workspaces[wsIdx]? = some ws) (hSpace : ws.worktreeSpace = some space)
  (hLinked : space.isLinkedWorktree = true) :
  SameOperations s (s.closeRemovedLinkedWorktreeWorkspace wsIdx) ∧
    (s.closeRemovedLinkedWorktreeWorkspace wsIdx).workspaces = s.workspaces.eraseIdx wsIdx := by
  have hIndices : ({ s with selected := wsIdx } : State).closeIndices = [wsIdx] := by
    simp [closeIndices, hAt, hSpace, hLinked, Option.filter]
  have hSome : s.workspaces.isEmpty = false := by
    cases hWorkspaces : s.workspaces with
    | nil => simp [hWorkspaces] at hAt
    | cons => rfl
  have hClosed : SameOperations s ({ s with selected := wsIdx } : State).closeSelectedWorkspace ∧
      ({ s with selected := wsIdx } : State).closeSelectedWorkspace.workspaces =
        s.workspaces.eraseIdx wsIdx := by
    unfold closeSelectedWorkspace
    simp only [hSome, Bool.false_eq_true, if_false, hIndices, List.reverse_singleton,
      List.foldl_cons, List.foldl_nil]
    split
    · exact ⟨rfl, rfl⟩
    · exact ⟨rfl, rfl⟩
  unfold closeRemovedLinkedWorktreeWorkspace
  dsimp only
  split
  · exact hClosed
  refine ⟨hClosed.1.trans (sameOperations_switchWorkspace _ _), ?_⟩
  rw [workspaces_switchWorkspace]
  exact hClosed.2

/-- The workspace is the one the removal named, linked to the removed checkout. -/
structure NamedBy (job : RemoveJob) (ws : Workspace) : Prop where
  id : ws.id = job.workspaceId
  linked : ∃ space, ws.worktreeSpace = some space ∧ space.isLinkedWorktree = true ∧
    space.checkoutPath = job.path

theorem removedWorkspace_some {job : RemoveJob}
  (hRemoved : s.removedWorkspace job = some (wsIdx, ws)) :
  s.workspaces[wsIdx]? = some ws ∧ NamedBy job ws := by
  obtain ⟨idx, hPosition, hRest⟩ := Option.bind_eq_some_iff.1 hRemoved
  obtain ⟨found, hFound, hPair⟩ := Option.map_eq_some_iff.1 hRest
  cases hPair
  obtain ⟨hAt, hLinked⟩ := Option.filter_eq_some_iff.1 hFound
  obtain ⟨hLt, hId, -⟩ := List.findIdx?_eq_some_iff_getElem.1 hPosition
  rw [List.getElem?_eq_getElem hLt, Option.some.injEq] at hAt
  obtain ⟨space, hSpace, hBoth⟩ := (Option.any_eq_true _ _).1 hLinked
  rw [Bool.and_eq_true, beq_iff_eq] at hBoth
  refine ⟨by rw [List.getElem?_eq_getElem hLt, hAt], ?_, space, hSpace, hBoth⟩
  simpa [hAt] using hId

/-- A removal closes the workspace it named, if that is still linked to the
checkout, and no other. -/
theorem closeRemovedWorktree_spec (s : State) {job : RemoveJob} (hWorktree : job.worktree.isSome) :
  ∃ closed response, SameOperations s closed ∧ Response.isError response = false ∧
    s.closeRemovedWorktree job = closed.sendApiResponse job.respondTo job.id response ∧
    (closed.workspaces = s.workspaces ∨
      ∃ wsIdx ws, s.workspaces[wsIdx]? = some ws ∧ NamedBy job ws ∧
        closed.workspaces = s.workspaces.eraseIdx wsIdx) := by
  obtain ⟨worktree, hWorktree⟩ := Option.isSome_iff_exists.1 hWorktree
  unfold closeRemovedWorktree
  dsimp only
  rw [hWorktree, Option.some_or]
  cases hRemoved : s.removedWorkspace job with
  | none => exact ⟨s, _, .refl s, rfl, rfl, Or.inl rfl⟩
  | some found =>
    obtain ⟨wsIdx, ws⟩ := found
    obtain ⟨hAt, hNamed⟩ := removedWorkspace_some hRemoved
    obtain ⟨space, hSpace, hLinked, -⟩ := hNamed.linked
    obtain ⟨hSame, hErased⟩ := closeRemovedLinkedWorktreeWorkspace_spec hAt hSpace hLinked
    exact ⟨_, _, hSame, rfl, rfl, Or.inr ⟨wsIdx, ws, hAt, hNamed, hErased⟩⟩

end State

end Worktrees
