import VimeflowTerminal.App.State

/-! Creating and removing a worktree runs git on a worker. A request is answered at
once if it cannot start, and else when its worker has finished. Operations in
progress are listed by checkout and by workspace. The dialogs of the terminal
interface, the events sent to subscribers and the runtimes shut down before a
forced removal are left out. -/

namespace Worktrees

open App Text

/-- Paths are compared by their components. -/
structure Path where
  absolute : Bool
  components : List String
  deriving DecidableEq

namespace Path

/-- Empty components count for nothing, and neither does a dot unless a relative
path starts with it. -/
def ofChars (text : List Char) : Path :=
  let absolute := text.head? = some '/'
  let parts := (text.splitOn '/').zipIdx.filter fun part =>
    part.1 ≠ [] ∧ (part.1 ≠ ['.'] ∨ (part.2 = 0 ∧ ¬ absolute))
  { absolute, components := parts.map fun part => String.ofList part.1 }

def ofText (text : String) : Path := ofChars text.toList

def join (path rest : Path) : Path :=
  if rest.absolute || (!path.absolute && path.components.isEmpty) then rest
  else { path with components := path.components ++ rest.components.filter fun part => part ≠ "." }

end Path

structure WorktreeSpaceMembership where
  key : String
  label : String
  repoRoot : Path
  checkoutPath : Path
  isLinkedWorktree : Bool
  deriving DecidableEq

structure GitSpaceMetadata where
  key : String
  checkoutKey : Path
  repoName : String
  repoRoot : Path
  isLinkedWorktree : Bool
  deriving DecidableEq

/-- What the worktree operations read of a workspace: `gitSpace` is what it
remembers of its repository, `identityCwd` the directory it works in now. -/
structure Workspace where
  id : String
  customName : Option String
  worktreeSpace : Option WorktreeSpaceMembership
  gitSpace : Option GitSpaceMetadata
  identityCwd : Option Path
  deriving DecidableEq

/-- What the file system and the repositories answer, for one request or completion. -/
structure World where
  home : Option Path
  existing : Path → Bool
  gitSpaceMetadata : Path → Option GitSpaceMetadata
  generatedBranch : String
  worktreeDirectory : Path

structure ApiFailure where
  code : String
  message : String
  deriving DecidableEq

structure WorktreeSource where
  workspaceIdx : Option Nat
  sourceCheckoutPath : Path
  sourceRepoRoot : Path
  repoKey : String
  repoName : String
  deriving DecidableEq

def expandTildePath (world : World) (text : String) : Path :=
  match text.toList with
  | ['~'] => world.home.getD (.ofText text)
  | '~' :: '/' :: rest => (world.home.map fun home => home.join (.ofChars rest)).getD (.ofText text)
  | _ => .ofText text

def absoluteUserPath (world : World) (text : String) : Except ApiFailure Path :=
  let path := expandTildePath world text
  if path.absolute then .ok path
  else .error ⟨"invalid_request", "worktree path must be absolute"⟩

def isAsciiAlphanumeric (ch : Char) : Bool := ch.toNat < 128 && ch.isAlphanum

def pushSlug (slug : List Char) (ch : Char) : List Char :=
  if isAsciiAlphanumeric ch then slug ++ [ch.toLower]
  else if slug.getLast? = some '-' then slug else slug ++ ['-']

/-- Runs of other symbols become one dash; none stays at either end. -/
def branchToPathSlug (branch : String) : String :=
  let slug := branch.toList.foldl pushSlug []
  let trimmed := ((slug.dropWhile (· = '-')).reverse.dropWhile (· = '-')).reverse
  if trimmed.isEmpty then "worktree" else String.ofList trimmed

def defaultCheckoutPath (root : Path) (repoName branch : String) : Path :=
  (root.join (.ofText repoName)).join (.ofText (branchToPathSlug branch))

section

-- `resolve` says where a path leads, whether or not anything is there yet.
variable (resolve : Path → Path) (world : World)

/-- A path that leads nowhere yet stays as it is spelled. -/
def canonicalOrOriginal (path : Path) : Path := if world.existing path then resolve path else path

def Workspace.currentGitSpace (ws : Workspace) : Option GitSpaceMetadata :=
  ws.gitSpace.or (ws.identityCwd.bind world.gitSpaceMetadata)

/-- The workspace is one of the checkout, by membership, repository or directory. -/
def Workspace.showsCheckout (ws : Workspace) (canonicalCheckout : Path) : Bool :=
  (ws.worktreeSpace.any fun space =>
      canonicalOrOriginal resolve world space.checkoutPath == canonicalCheckout) ||
    ((ws.currentGitSpace world).any fun space => space.checkoutKey == canonicalCheckout) ||
    ws.identityCwd.any fun cwd => canonicalOrOriginal resolve world cwd == canonicalCheckout

def openWorkspaceIdxForCheckout (workspaces : List Workspace) (checkoutPath : Path) : Option Nat :=
  workspaces.findIdx? fun ws =>
    ws.showsCheckout resolve world (canonicalOrOriginal resolve world checkoutPath)

def findParentWorkspaceByKey (workspaces : List Workspace) (repoKey : String) : Option Nat :=
  workspaces.findIdx? fun ws =>
    (ws.worktreeSpace.any fun space => space.key == repoKey && !space.isLinkedWorktree) ||
      ws.gitSpace.any fun space => space.key == repoKey && !space.isLinkedWorktree

def findParentWorkspaceForSpace (workspaces : List Workspace) (space : GitSpaceMetadata) :
  Option Nat :=
  (findParentWorkspaceByKey workspaces space.key).or
    (openWorkspaceIdxForCheckout resolve world workspaces space.repoRoot)

def linkedWorktreeSource : ApiFailure :=
  ⟨"linked_worktree_source", "New and open worktree actions start from the repo parent workspace."⟩

def worktreeSourceFromWorkspace (workspaces : List Workspace) (wsIdx : Nat) :
  Except ApiFailure WorktreeSource :=
  match workspaces[wsIdx]? with
  | none => .error ⟨"workspace_not_found", "workspace not found"⟩
  | some ws =>
    match ws.worktreeSpace with
    | some membership =>
      if membership.isLinkedWorktree then .error linkedWorktreeSource
      else .ok {
        workspaceIdx := some wsIdx
        sourceCheckoutPath := membership.checkoutPath
        sourceRepoRoot := membership.repoRoot
        repoKey := membership.key
        repoName := membership.label }
    | none =>
      match ws.currentGitSpace world with
      | none => .error ⟨"not_git_worktree",
          "Herdr worktree actions require a workspace inside a Git work tree"⟩
      | some space =>
        if space.isLinkedWorktree then .error linkedWorktreeSource
        else .ok {
          workspaceIdx := some wsIdx
          sourceCheckoutPath := space.repoRoot
          sourceRepoRoot := space.repoRoot
          repoKey := space.key
          repoName := space.repoName }

def worktreeSourceFromCwd (workspaces : List Workspace) (cwd : String) :
  Except ApiFailure WorktreeSource := do
  let path ← absoluteUserPath world cwd
  match world.gitSpaceMetadata path with
  | none => .error ⟨"not_git_worktree",
      "Herdr worktree actions require a path inside a Git work tree"⟩
  | some space =>
    if space.isLinkedWorktree then .error linkedWorktreeSource
    else .ok {
      workspaceIdx := findParentWorkspaceForSpace resolve world workspaces space
      sourceCheckoutPath := space.repoRoot
      sourceRepoRoot := space.repoRoot
      repoKey := space.key
      repoName := space.repoName }

def worktreeMembership (source : WorktreeSource) (checkoutPath : Path) (isLinkedWorktree : Bool) :
  WorktreeSpaceMembership where
  key := source.repoKey
  label := source.repoName
  repoRoot := source.sourceRepoRoot
  checkoutPath
  isLinkedWorktree

def setWorktreeMembership (workspaces : List Workspace) (wsIdx : Nat)
  (membership : WorktreeSpaceMembership) : List Workspace :=
  workspaces.modify wsIdx fun ws => { ws with worktreeSpace := some membership }

end

structure WorktreeCreateParams where
  workspaceId : Option String
  cwd : Option String
  branch : Option String
  base : Option String
  path : Option String
  label : Option String
  focus : Bool

structure WorktreeRemoveParams where
  workspaceId : String
  force : Bool

/-- A worker adding a worktree, with the request it will answer. -/
structure CreateJob where
  id : String
  operationId : Nat
  checkoutKey : Path
  path : Path
  branch : String
  base : String
  sourceWorkspaceId : Option String
  sourceExistingMembership : Option WorktreeSpaceMembership
  sourceCheckoutPath : Path
  sourceRepoRoot : Path
  repoKey : String
  repoName : String
  label : Option String
  focus : Bool
  respondTo : Nat
  deriving DecidableEq

/-- A worker removing a worktree, with what was known of it at the start. -/
structure RemoveJob where
  id : String
  operationId : Nat
  checkoutKey : Path
  workspaceId : String
  path : Path
  workspace : Option String
  worktree : Option WorktreeSpaceMembership
  forced : Bool
  respondTo : Nat
  deriving DecidableEq

inductive Response where
  | error (code message : String)
  | worktreeCreated (workspaceId : String) (worktree : WorktreeSpaceMembership)
  | worktreeRemoved (workspaceId : String) (path : Path) (forced : Bool)
  deriving DecidableEq

structure Answer where
  respondTo : Nat
  id : String
  response : Response
  deriving DecidableEq

/-- Requests are told apart by the channel they are answered on: the count of
requests received before. -/
structure State where
  workspaces : List Workspace
  active : Option Nat
  selected : Nat
  pendingCreates : FinMap Path Nat
  pendingRemoves : FinMap String Nat
  pendingRemovePaths : FinMap Path Nat
  nextOperationId : Nat
  creating : List CreateJob
  removing : List RemoveJob
  received : Nat
  answers : List Answer

def operationIdLimit : Nat := 2 ^ 64 - 1

namespace State

def initial : State where
  workspaces := []
  active := none
  selected := 0
  pendingCreates := ∅
  pendingRemoves := ∅
  pendingRemovePaths := ∅
  nextOperationId := 1
  creating := []
  removing := []
  received := 0
  answers := []

def sendApiResponse (s : State) (respondTo : Nat) (id : String) (response : Response) : State :=
  { s with answers := s.answers ++ [⟨respondTo, id, response⟩] }

def sendFailure (s : State) (respondTo : Nat) (id : String) (failure : ApiFailure) : State :=
  s.sendApiResponse respondTo id (.error failure.code failure.message)

def operationInProgress : ApiFailure :=
  ⟨"worktree_operation_in_progress", "worktree operation is already in progress for this checkout"⟩

/-- The id handed out and the counter moved on; it stops at the largest id. -/
def nextApiWorktreeOperationId (s : State) : Nat × State :=
  (s.nextOperationId,
    { s with nextOperationId := min (s.nextOperationId + 1) operationIdLimit })

def switchWorkspace (s : State) (idx : Nat) : State :=
  if idx < s.workspaces.length then { s with active := some idx, selected := idx } else s

def position (s : State) (workspaceId : String) : Option Nat :=
  s.workspaces.findIdx? fun ws => ws.id = workspaceId

def parseWorkspaceId (s : State) (id : String) : Option Nat :=
  (s.position id).or (((stripPrefix "w_" id).bind parseIndex).or (parseIndex id))

section

variable (resolve : Path → Path) (world : World)

/-- The source of a request: a workspace, a directory, or else the active or
selected workspace. -/
def resolveWorktreeSource (s : State) (workspaceId cwd : Option String) :
  Except ApiFailure WorktreeSource :=
  match workspaceId, cwd with
  | some _, some _ =>
    .error ⟨"invalid_request", "only one of workspace_id or cwd may be supplied"⟩
  | some workspaceId, none =>
    match s.parseWorkspaceId workspaceId with
    | none => .error ⟨"workspace_not_found", "workspace " ++ workspaceId ++ " not found"⟩
    | some wsIdx => worktreeSourceFromWorkspace world s.workspaces wsIdx
  | none, some cwd => worktreeSourceFromCwd resolve world s.workspaces cwd
  | none, none =>
    let selected := s.workspaces[s.selected]?.map fun _ => s.selected
    match s.active.or selected with
    | none => .error ⟨"invalid_request",
        "workspace_id or cwd is required when no workspace is active"⟩
    | some wsIdx => worktreeSourceFromWorkspace world s.workspaces wsIdx

/-- The checks of a create request: its branch, source and checkout path. -/
def prepareCreate (s : State) (params : WorktreeCreateParams) :
  Except ApiFailure (String × WorktreeSource × Path) :=
  let branch := Detect.trim (params.branch.getD world.generatedBranch)
  if branch.isEmpty then .error ⟨"invalid_request", "branch is required"⟩
  else do
    let source ← s.resolveWorktreeSource resolve world params.workspaceId params.cwd
    let checkoutPath ← match params.path with
      | some path => absoluteUserPath world path
      | none => .ok (defaultCheckoutPath world.worktreeDirectory source.repoName branch)
    .ok (branch, source, checkoutPath)

def createBlocked (s : State) (checkoutKey : Path) : Bool :=
  decide (checkoutKey ∈ s.pendingCreates) || decide (checkoutKey ∈ s.pendingRemovePaths)

def startCreateJob (s : State) (id : String) (params : WorktreeCreateParams) (respondTo : Nat)
  (branch : String) (source : WorktreeSource) (path checkoutKey : Path) : State :=
  let (operationId, s) := s.nextApiWorktreeOperationId
  let sourceWorkspace := source.workspaceIdx.bind fun idx => s.workspaces[idx]?
  let job := {
    id
    operationId
    checkoutKey
    path
    branch
    base := params.base.getD "HEAD"
    sourceWorkspaceId := sourceWorkspace.map (·.id)
    sourceExistingMembership := (sourceWorkspace.bind fun ws => s.position ws.id).bind fun idx =>
      s.workspaces[idx]?.bind (·.worktreeSpace)
    sourceCheckoutPath := source.sourceCheckoutPath
    sourceRepoRoot := source.sourceRepoRoot
    repoKey := source.repoKey
    repoName := source.repoName
    label := params.label
    focus := params.focus
    respondTo }
  { s with
    pendingCreates := s.pendingCreates.insert checkoutKey operationId
    creating := s.creating ++ [job] }

def startApiWorktreeCreate (s : State) (id : String) (params : WorktreeCreateParams)
  (respondTo : Nat) : State :=
  match s.prepareCreate resolve world params with
  | .error failure => s.sendFailure respondTo id failure
  | .ok (branch, source, path) =>
    let checkoutKey := canonicalOrOriginal resolve world path
    if s.createBlocked checkoutKey then s.sendFailure respondTo id operationInProgress
    else s.startCreateJob id params respondTo branch source path checkoutKey

/-- The workspace a removal is about, with its linked checkout. -/
def prepareRemove (s : State) (params : WorktreeRemoveParams) :
  Except ApiFailure (String × WorktreeSpaceMembership) :=
  match s.parseWorkspaceId params.workspaceId with
  | none => .error ⟨"workspace_not_found", "workspace " ++ params.workspaceId ++ " not found"⟩
  | some wsIdx =>
    match s.workspaces[wsIdx]?.bind fun ws => ws.worktreeSpace.map fun space => (ws.id, space) with
    | none => .error ⟨"not_linked_worktree",
        "workspace is not a Herdr-managed worktree checkout"⟩
    | some (workspaceId, space) =>
      if space.isLinkedWorktree then .ok (workspaceId, space)
      else .error ⟨"not_linked_worktree", "workspace is not a linked worktree checkout"⟩

def removeBlocked (s : State) (workspaceId : String) (checkoutKey : Path) : Bool :=
  decide (workspaceId ∈ s.pendingRemoves) || decide (checkoutKey ∈ s.pendingRemovePaths) ||
    decide (checkoutKey ∈ s.pendingCreates)

def startRemoveJob (s : State) (id : String) (params : WorktreeRemoveParams) (respondTo : Nat)
  (workspaceId : String) (space : WorktreeSpaceMembership) (checkoutKey : Path) : State :=
  let (operationId, s) := s.nextApiWorktreeOperationId
  let job := {
    id
    operationId
    checkoutKey
    workspaceId
    path := space.checkoutPath
    workspace := some workspaceId
    worktree := some space
    forced := params.force
    respondTo }
  { s with
    pendingRemoves := s.pendingRemoves.insert workspaceId operationId
    pendingRemovePaths := s.pendingRemovePaths.insert checkoutKey operationId
    removing := s.removing ++ [job] }

def startApiWorktreeRemove (s : State) (id : String) (params : WorktreeRemoveParams)
  (respondTo : Nat) : State :=
  match s.prepareRemove params with
  | .error failure => s.sendFailure respondTo id failure
  | .ok (workspaceId, space) =>
    let checkoutKey := canonicalOrOriginal resolve world space.checkoutPath
    if s.removeBlocked workspaceId checkoutKey then
      s.sendFailure respondTo id operationInProgress
    else s.startRemoveJob id params respondTo workspaceId space checkoutKey

/-- The workspace the request came from, if it still stands for the repository. -/
def apiCreateSourceWorkspaceIdx (s : State) (job : CreateJob) : Option Nat :=
  let parent := findParentWorkspaceByKey s.workspaces job.repoKey
  match job.sourceWorkspaceId.bind s.position with
  | none => parent
  | some wsIdx =>
    match s.workspaces[wsIdx]? with
    | none => parent
    | some workspace =>
      match job.sourceExistingMembership, workspace.worktreeSpace with
      | some expected, current => if current = some expected then some wsIdx else parent
      | none, some current =>
        if current = ⟨job.repoKey, job.repoName, job.sourceRepoRoot, job.sourceCheckoutPath,
            false⟩ then some wsIdx
        else parent
      | none, none =>
        if (workspace.currentGitSpace world).any fun space =>
            !space.isLinkedWorktree && space.key == job.repoKey &&
              canonicalOrOriginal resolve world space.repoRoot ==
                canonicalOrOriginal resolve world job.sourceRepoRoot then
          some wsIdx
        else parent

/-- The id of the new workspace, or why its shell could not be spawned, is an argument. -/
def createWorkspaceWithOptions (s : State) (cwd : Path) (focus : Bool)
  (spawned : Except String String) : Except String (State × Nat) :=
  spawned.map fun id =>
    let idx := s.workspaces.length
    let ws := {
      id
      customName := none
      worktreeSpace := none
      gitSpace := world.gitSpaceMetadata cwd
      identityCwd := some cwd }
    let s := { s with workspaces := s.workspaces ++ [ws] }
    (if focus || s.active.isNone then s.switchWorkspace idx else s, idx)

/-- The parent of the group is opened if there is none, and marked as the parent. -/
def ensureSourceParentMembership (s : State) (source : WorktreeSource)
  (spawned : Except String String) : Except ApiFailure (State × WorktreeSource) :=
  let mark (s : State) (wsIdx : Nat) : State × WorktreeSource :=
    let source := { source with workspaceIdx := some wsIdx }
    ({ s with
      workspaces := setWorktreeMembership s.workspaces wsIdx
        (worktreeMembership source source.sourceCheckoutPath false) }, source)
  match source.workspaceIdx.or (findParentWorkspaceByKey s.workspaces source.repoKey) with
  | some wsIdx => .ok (mark s wsIdx)
  | none =>
    match s.createWorkspaceWithOptions world source.sourceCheckoutPath false spawned with
    | .error message => .error ⟨"worktree_open_failed", message⟩
    | .ok (s, wsIdx) => .ok (mark s wsIdx)

/-- The workspace of the new checkout: one that shows it already, or a new one. -/
def openCheckout (s : State) (path : Path) (focus : Bool) (spawned : Except String String) :
  Except String (State × Nat) :=
  match openWorkspaceIdxForCheckout resolve world s.workspaces path with
  | some wsIdx => .ok (if focus then s.switchWorkspace wsIdx else s, wsIdx)
  | none => s.createWorkspaceWithOptions world path focus spawned

def setCustomName (s : State) (wsIdx : Nat) (label : Option String) : State :=
  match label with
  | none => s
  | some label =>
    { s with workspaces := s.workspaces.modify wsIdx fun ws => { ws with customName := some label } }

/-- What the workers' results need: the outcomes of opening the parent's and
the checkout's workspace. -/
structure Spawned where
  parent : Except String String
  checkout : Except String String

/-- The worktree was added: its workspace is opened, marked, named and reported. -/
def openCreatedWorktree (s : State) (job : CreateJob) (spawned : Spawned) : State :=
  let source := {
    workspaceIdx := s.apiCreateSourceWorkspaceIdx resolve world job
    sourceCheckoutPath := job.sourceCheckoutPath
    sourceRepoRoot := job.sourceRepoRoot
    repoKey := job.repoKey
    repoName := job.repoName }
  match s.ensureSourceParentMembership world source spawned.parent with
  | .error failure => s.sendFailure job.respondTo job.id failure
  | .ok (s, source) =>
    match s.openCheckout resolve world job.path job.focus spawned.checkout with
    | .error message => s.sendFailure job.respondTo job.id ⟨"worktree_open_failed",
        "created worktree but failed to open workspace: " ++ message⟩
    | .ok (s, wsIdx) =>
      let s := { s with
        workspaces := setWorktreeMembership s.workspaces wsIdx
          (worktreeMembership source job.path true) }
      let s := s.setCustomName wsIdx job.label
      match s.workspaces[wsIdx]?.bind fun ws => ws.worktreeSpace.map fun space =>
          (ws.id, space) with
      | none => s.sendFailure job.respondTo job.id ⟨"worktree_open_failed",
          "created worktree but failed to record workspace membership"⟩
      | some (workspaceId, space) =>
        s.sendApiResponse job.respondTo job.id (.worktreeCreated workspaceId space)

def staleCreate : ApiFailure :=
  ⟨"stale_worktree_operation", "worktree create completed after the operation was superseded"⟩

def handleApiWorktreeAddFinished (s : State) (job : CreateJob) (result : Except String Unit)
  (spawned : Spawned) : State :=
  if s.pendingCreates.lookup job.checkoutKey ≠ some job.operationId then
    s.sendFailure job.respondTo job.id staleCreate
  else
    let s := { s with pendingCreates := s.pendingCreates.erase job.checkoutKey }
    match result with
    | .error err => s.sendFailure job.respondTo job.id ⟨"worktree_create_failed", err⟩
    | .ok () => s.openCreatedWorktree resolve world job spawned

end

/-- Closing the parent of a group closes the whole group. -/
def closeIndices (s : State) : List Nat :=
  match (s.workspaces[s.selected]?.bind (·.worktreeSpace)).filter (!·.isLinkedWorktree) with
  | none => [s.selected]
  | some space =>
    let indices := (List.range s.workspaces.length).filter fun idx =>
      (s.workspaces[idx]?.bind (·.worktreeSpace)).any fun member => member.key == space.key
    if 2 ≤ indices.length then indices else [s.selected]

/-- The previously active workspace stays active if it is still there. -/
def closeSelectedWorkspace (s : State) : State :=
  if s.workspaces.isEmpty then s
  else
    let activeWorkspaceId := s.active.bind fun idx => s.workspaces[idx]?.map (·.id)
    let s := { s with
      workspaces := s.closeIndices.reverse.foldl (fun workspaces idx => workspaces.eraseIdx idx)
        s.workspaces }
    if s.workspaces.isEmpty then { s with active := none, selected := 0 }
    else
      let selected := (activeWorkspaceId.bind s.position).getD s.selected
      let selected := if s.workspaces.length ≤ selected then s.workspaces.length - 1 else selected
      { s with active := some selected, selected }

/-- Close the workspace of a removed checkout and go to the parent of its group. -/
def closeRemovedLinkedWorktreeWorkspace (s : State) (wsIdx : Nat) : State :=
  let parentKey := ((s.workspaces[wsIdx]?.bind (·.worktreeSpace)).filter (·.isLinkedWorktree)).map
    (·.key)
  let s := ({ s with selected := wsIdx }).closeSelectedWorkspace
  let parentIdx := parentKey.bind fun key => s.workspaces.findIdx? fun ws =>
    ws.worktreeSpace.any fun space => !space.isLinkedWorktree && space.key == key
  match parentIdx with
  | none => s
  | some idx => s.switchWorkspace idx

/-- The workspace named by the removal, if it is still linked to the checkout. -/
def removedWorkspace (s : State) (job : RemoveJob) : Option (Nat × Workspace) :=
  (s.position job.workspaceId).bind fun idx =>
    (s.workspaces[idx]?.filter fun ws => ws.worktreeSpace.any fun space =>
      space.isLinkedWorktree && space.checkoutPath == job.path).map fun ws => (idx, ws)

def staleRemove : ApiFailure :=
  ⟨"stale_worktree_operation", "worktree remove completed after the operation was superseded"⟩

def isDirtyWorktreeRemoveError (message : String) : Bool :=
  let lower := message.toList.map Char.toLower
  decide ("contains modified or untracked files".toList <:+: lower) &&
    decide ("use --force to delete it".toList <:+: lower)

def removeFailure (forced : Bool) (message : String) : ApiFailure :=
  if !forced && isDirtyWorktreeRemoveError message then ⟨"dirty_worktree_requires_force", message⟩
  else ⟨"worktree_remove_failed", message⟩

/-- The worktree is gone: its workspace is closed and the removal reported. -/
def closeRemovedWorktree (s : State) (job : RemoveJob) : State :=
  let removed := s.removedWorkspace job
  let workspaceId := match removed with
    | some (_, ws) => ws.id
    | none => job.workspace.getD job.workspaceId
  let worktree := job.worktree.or (removed.bind fun found => found.2.worktreeSpace)
  let s := match removed with
    | some (wsIdx, _) => s.closeRemovedLinkedWorktreeWorkspace wsIdx
    | none => s
  match worktree with
  | none => s.sendFailure job.respondTo job.id ⟨"worktree_remove_failed",
      "removed worktree but lost worktree snapshot"⟩
  | some _ => s.sendApiResponse job.respondTo job.id (.worktreeRemoved workspaceId job.path job.forced)

def handleApiWorktreeRemoveFinished (s : State) (job : RemoveJob) (result : Except String Unit) :
  State :=
  if s.pendingRemoves.lookup job.workspaceId ≠ some job.operationId ∨
      s.pendingRemovePaths.lookup job.checkoutKey ≠ some job.operationId then
    s.sendFailure job.respondTo job.id staleRemove
  else
    let s := { s with
      pendingRemoves := s.pendingRemoves.erase job.workspaceId
      pendingRemovePaths := s.pendingRemovePaths.erase job.checkoutKey }
    match result with
    | .error message => s.sendFailure job.respondTo job.id (removeFailure job.forced message)
    | .ok () => s.closeRemovedWorktree job

end State

/-- Requests, workers finishing in any order, and everything else that opens,
closes, moves or regroups workspaces in between. -/
inductive Label where
  | create (world : World) (id : String) (params : WorktreeCreateParams)
  | remove (world : World) (id : String) (params : WorktreeRemoveParams)
  | addFinished (world : World) (worker : Nat) (result : Except String Unit)
      (spawned : State.Spawned)
  | removeFinished (worker : Nat) (result : Except String Unit)
  | rearrange (workspaces : List Workspace) (active : Option Nat) (selected : Nat)

def step (resolve : Path → Path) (s : State) : Label → Option State
  | .create world id params =>
    some (({ s with received := s.received + 1 } : State).startApiWorktreeCreate resolve world id
      params s.received)
  | .remove world id params =>
    some (({ s with received := s.received + 1 } : State).startApiWorktreeRemove resolve world id
      params s.received)
  | .addFinished world worker result spawned =>
    s.creating[worker]?.map fun job =>
      ({ s with creating := s.creating.eraseIdx worker } : State).handleApiWorktreeAddFinished
        resolve world job result spawned
  | .removeFinished worker result =>
    s.removing[worker]?.map fun job =>
      ({ s with removing := s.removing.eraseIdx worker } :
        State).handleApiWorktreeRemoveFinished job result
  | .rearrange workspaces active selected => some { s with workspaces, active, selected }

end Worktrees
