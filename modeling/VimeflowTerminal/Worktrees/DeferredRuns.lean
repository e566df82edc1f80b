import VimeflowTerminal.Data.JobTable
import VimeflowTerminal.Worktrees.DeferredSteps

/-! Every request is answered once, no two operations in progress are about one
directory and a completion touches its own entries only. This rests on two
things the code does not see to: that a directory is listed under one key, and
that nothing fails once the parent of the group has been marked. -/

namespace Worktrees

open Transition

namespace State

def answered (s : State) : List Nat := s.answers.map (·.respondTo)

/-- The requests that a worker will answer. -/
def waiting (s : State) : List Nat :=
  s.creating.map (·.respondTo) ++ s.removing.map (·.respondTo)

/-- The directories that the operations in progress are about. -/
def directories (resolve : Path → Path) (s : State) : List Path :=
  s.creating.map (fun job => resolve job.path) ++ s.removing.map fun job => resolve job.path

/-- Operations in progress for the directory of a path are listed under the key
that the path has now. -/
def ListedAlike (resolve : Path → Path) (world : World) (s : State) (path : Path) : Prop :=
  (∀ job ∈ s.creating, resolve job.path = resolve path →
      job.checkoutKey = canonicalOrOriginal resolve world path) ∧
    ∀ job ∈ s.removing, resolve job.path = resolve path →
      job.checkoutKey = canonicalOrOriginal resolve world path

theorem listedAlike_of_idle {resolve : Path → Path} {world : World} {s : State} {path : Path}
  (hCreating : s.creating = []) (hRemoving : s.removing = []) : ListedAlike resolve world s path := by
  rw [ListedAlike, hCreating, hRemoving]
  exact ⟨fun job hMem => absurd hMem List.not_mem_nil, fun job hMem => absurd hMem List.not_mem_nil⟩

/-- The tables list the operations in progress, of which no two share a directory. -/
structure Inv (resolve : Path → Path) (s : State) : Prop where
  accounted : (s.answered ++ s.waiting).Perm (List.range s.received)
  creates : JobTable.Lists (·.checkoutKey) (·.operationId) s.pendingCreates s.creating
  removes : JobTable.Lists (·.workspaceId) (·.operationId) s.pendingRemoves s.removing
  removePaths : JobTable.Lists (·.checkoutKey) (·.operationId) s.pendingRemovePaths s.removing
  apart : (s.directories resolve).Nodup
  linked : ∀ job ∈ s.removing, job.worktree.isSome

variable {resolve : Path → Path} {world : World} {s t : State}

theorem Inv.initial : Inv resolve State.initial where
  accounted := .nil
  creates := .empty
  removes := .empty
  removePaths := .empty
  apart := .nil
  linked := by
    intro job hMem
    cases hMem

theorem Inv.sameOperations (h : Inv resolve s) (hSame : SameOperations s t) : Inv resolve t := by
  rw [hSame]
  exact ⟨h.accounted, h.creates, h.removes, h.removePaths, h.apart, h.linked⟩

theorem Inv.refused (h : Inv resolve s) (id : String) (response : Response) :
  Inv resolve
    (({ s with received := s.received + 1 } : State).sendApiResponse s.received id response) := by
  refine ⟨?_, h.creates, h.removes, h.removePaths, h.apart, h.linked⟩
  have hCount := h.accounted.append_right [s.received]
  rw [← List.range_succ, List.append_assoc] at hCount
  simp only [answered, sendApiResponse, List.map_append, List.map_singleton, List.append_assoc]
  exact (List.perm_append_comm.append_left _).trans hCount

variable {job : CreateJob} {worker : Nat}

/-- A worker starts on a directory that no other is about. -/
theorem Inv.createStarted (h : Inv resolve s) {nextOperationId : Nat}
  (hRespondTo : job.respondTo = s.received) (hFree : job.checkoutKey ∉ s.pendingCreates)
  (hApart : resolve job.path ∉ s.directories resolve) :
  Inv resolve { s with
    received := s.received + 1
    nextOperationId
    pendingCreates := s.pendingCreates.insert job.checkoutKey job.operationId
    creating := s.creating ++ [job] } := by
  refine ⟨?_, h.creates.insert hFree, h.removes, h.removePaths, ?_, h.linked⟩
  · have hCount := h.accounted.append_right [s.received]
    rw [← List.range_succ] at hCount
    refine List.Perm.trans ?_ hCount
    simp only [answered, waiting, List.map_append, List.map_singleton, List.append_assoc, hRespondTo]
    exact (List.perm_append_comm.append_left _).append_left _
  · have hNodup := List.nodup_cons.2 ⟨hApart, h.apart⟩
    refine List.Perm.nodup ?_ hNodup
    simp only [directories, List.map_append, List.map_singleton, List.append_assoc]
    exact List.perm_middle.symm

theorem Inv.removeStarted (h : Inv resolve s) {job : RemoveJob} {nextOperationId : Nat}
  (hRespondTo : job.respondTo = s.received) (hFree : job.workspaceId ∉ s.pendingRemoves)
  (hFreePath : job.checkoutKey ∉ s.pendingRemovePaths)
  (hApart : resolve job.path ∉ s.directories resolve) (hLinked : job.worktree.isSome) :
  Inv resolve { s with
    received := s.received + 1
    nextOperationId
    pendingRemoves := s.pendingRemoves.insert job.workspaceId job.operationId
    pendingRemovePaths := s.pendingRemovePaths.insert job.checkoutKey job.operationId
    removing := s.removing ++ [job] } := by
  refine ⟨?_, h.creates, h.removes.insert hFree, h.removePaths.insert hFreePath, ?_, ?_⟩
  · have hCount := h.accounted.append_right [s.received]
    rw [← List.range_succ] at hCount
    simpa only [answered, waiting, List.map_append, List.map_singleton, List.append_assoc,
      hRespondTo] using hCount
  · have hNodup := List.nodup_cons.2 ⟨hApart, h.apart⟩
    refine List.Perm.nodup ?_ hNodup
    simp only [directories, List.map_append, List.map_singleton, ← List.append_assoc]
    exact (List.perm_append_singleton _ _).symm
  · intro other hMem
    rcases List.mem_append.1 hMem with hOld | hNew
    · exact h.linked other hOld
    · rw [List.mem_singleton.1 hNew]
      exact hLinked

theorem perm_map_eraseIdx {α β : Type} (f : α → β) {jobs : List α} {i : Nat} {job : α}
  (hAt : jobs[i]? = some job) : (f job :: (jobs.eraseIdx i).map f).Perm (jobs.map f) := by
  obtain ⟨hi, rfl⟩ := List.getElem?_eq_some_iff.1 hAt
  exact (List.getElem_cons_eraseIdx_perm hi).map f

theorem Inv.createFinished (h : Inv resolve s) (hAt : s.creating[worker]? = some job)
  (response : Response) :
  Inv resolve (({ s with
    creating := s.creating.eraseIdx worker
    pendingCreates := s.pendingCreates.erase job.checkoutKey } : State).sendApiResponse
      job.respondTo job.id response) := by
  refine ⟨?_, h.creates.erase hAt, h.removes, h.removePaths, ?_, h.linked⟩
  · refine List.Perm.trans ?_ h.accounted
    simp only [answered, waiting, sendApiResponse, List.map_append, List.map_singleton,
      List.append_assoc, List.singleton_append]
    exact ((perm_map_eraseIdx (·.respondTo) hAt).append_right _).append_left _
  · exact h.apart.sublist (((List.eraseIdx_sublist _ _).map _).append_right _)

theorem Inv.removeFinished (h : Inv resolve s) {job : RemoveJob}
  (hAt : s.removing[worker]? = some job) (response : Response) :
  Inv resolve (({ s with
    removing := s.removing.eraseIdx worker
    pendingRemoves := s.pendingRemoves.erase job.workspaceId
    pendingRemovePaths := s.pendingRemovePaths.erase job.checkoutKey } : State).sendApiResponse
      job.respondTo job.id response) := by
  refine ⟨?_, h.creates, h.removes.erase hAt, h.removePaths.erase hAt, ?_, ?_⟩
  · refine List.Perm.trans ?_ h.accounted
    simp only [answered, waiting, sendApiResponse, List.map_append, List.map_singleton,
      List.append_assoc, List.singleton_append]
    refine List.Perm.append_left _ ?_
    refine List.perm_middle.symm.trans ?_
    exact (perm_map_eraseIdx (·.respondTo) hAt).append_left _
  · exact h.apart.sublist (((List.eraseIdx_sublist _ _).map _).append_left _)
  · intro other hMem
    exact h.linked other (List.mem_of_mem_eraseIdx hMem)

theorem Inv.directory_fresh (h : Inv resolve s) {path : Path}
  (hAlike : ListedAlike resolve world s path)
  (hCreate : canonicalOrOriginal resolve world path ∉ s.pendingCreates)
  (hRemove : canonicalOrOriginal resolve world path ∉ s.pendingRemovePaths) :
  resolve path ∉ s.directories resolve := by
  intro hMem
  rcases List.mem_append.1 hMem with hIn | hIn
  · obtain ⟨job, hJob, hSame⟩ := List.mem_map.1 hIn
    exact hCreate (h.creates.mem_iff.2 ⟨job, hJob, hAlike.1 job hJob hSame⟩)
  · obtain ⟨job, hJob, hSame⟩ := List.mem_map.1 hIn
    exact hRemove (h.removePaths.mem_iff.2 ⟨job, hJob, hAlike.2 job hJob hSame⟩)

/-- The request is answered with an error and nothing else happens. -/
def Refused (s t : State) : Prop :=
  ∃ id failure, t = ({ s with received := s.received + 1 } : State).sendFailure s.received id failure

/-- A worker is started, nothing is answered and the workspaces stay. -/
structure Started (s t : State) : Prop where
  received : t.received = s.received + 1
  answers : t.answers = s.answers
  workspaces : t.workspaces = s.workspaces
  worker : (∃ job, t.creating = s.creating ++ [job] ∧ t.removing = s.removing) ∨
    ∃ job, t.creating = s.creating ∧ t.removing = s.removing ++ [job]

/-- A create ends: its own entry goes and its own request is answered. -/
structure CreateEnds (s t : State) (worker : Nat) (job : CreateJob) : Prop where
  own : s.pendingCreates.lookup job.checkoutKey = some job.operationId
  cleared : t.pendingCreates = s.pendingCreates.erase job.checkoutKey
  others : t.pendingRemoves = s.pendingRemoves ∧ t.pendingRemovePaths = s.pendingRemovePaths
  workers : t.creating = s.creating.eraseIdx worker ∧ t.removing = s.removing
  answer : ∃ response, t.answers = s.answers ++ [⟨job.respondTo, job.id, response⟩] ∧
    (response.isError = true → t.workspaces = s.workspaces)

/-- A removal ends: its own entries go, its own request is answered and at most
the workspace that it named is closed. -/
structure RemoveEnds (s t : State) (worker : Nat) (job : RemoveJob) : Prop where
  own : s.pendingRemoves.lookup job.workspaceId = some job.operationId ∧
    s.pendingRemovePaths.lookup job.checkoutKey = some job.operationId
  cleared : t.pendingRemoves = s.pendingRemoves.erase job.workspaceId ∧
    t.pendingRemovePaths = s.pendingRemovePaths.erase job.checkoutKey
  others : t.pendingCreates = s.pendingCreates
  workers : t.creating = s.creating ∧ t.removing = s.removing.eraseIdx worker
  answer : ∃ response, t.answers = s.answers ++ [⟨job.respondTo, job.id, response⟩] ∧
    (t.workspaces = s.workspaces ∨
      response.isError = false ∧ ∃ wsIdx ws, s.workspaces[wsIdx]? = some ws ∧ NamedBy job ws ∧
        t.workspaces = s.workspaces.eraseIdx wsIdx)

def Faithful (s t : State) : Label → Prop
  | .create .. | .remove .. => Refused s t ∨ Started s t
  | .addFinished _ worker _ _ => ∃ job, s.creating[worker]? = some job ∧ CreateEnds s t worker job
  | .removeFinished worker _ => ∃ job, s.removing[worker]? = some job ∧ RemoveEnds s t worker job
  | .rearrange .. => SameOperations s t

/-- A request finds the operations for its directory under the key that the
directory has now, and nothing fails once the parent of the group is marked. -/
def Allowed (resolve : Path → Path) (s : State) : Label → Prop
  | .create world _ params => ∀ branch source path,
      s.prepareCreate resolve world params = .ok (branch, source, path) →
        ListedAlike resolve world s path
  | .remove world _ params => ∀ workspaceId space,
      s.prepareRemove params = .ok (workspaceId, space) →
        ListedAlike resolve world s space.checkoutPath
  | .addFinished world worker result spawned => ∀ job, s.creating[worker]? = some job →
      result = .ok () → ¬ FailsAfterMarking resolve world s job spawned
  | .removeFinished .. => True
  | .rearrange .. => True

section

variable (h : Inv resolve s)
include h

theorem Inv.create {id : String} {params : WorktreeCreateParams}
  (hAllowed : Allowed resolve s (.create world id params))
  (ht : t = ({ s with received := s.received + 1 } : State).startApiWorktreeCreate resolve world id
    params s.received) :
  Inv resolve t ∧ (Refused s t ∨ Started s t) := by
  subst ht
  rcases startApiWorktreeCreate_cases ({ s with received := s.received + 1 } : State) id params
      s.received with ⟨failure, hRefused⟩ | ⟨branch, source, path, hPrepare, hFree, hStarted⟩
  · rw [hRefused]
    exact ⟨h.refused id _, Or.inl ⟨id, failure, rfl⟩⟩
  simp only [createBlocked, Bool.or_eq_false_iff, decide_eq_false_iff_not] at hFree
  have hApart := h.directory_fresh (hAllowed branch source path hPrepare) hFree.1 hFree.2
  obtain ⟨job, nextOperationId, hState, hKey, hId, hPath, hRespondTo⟩ :=
    startCreateJob_spec ({ s with received := s.received + 1 } : State) id params s.received branch
      source path (canonicalOrOriginal resolve world path)
  rw [hStarted, hState]
  refine ⟨?_, Or.inr ⟨rfl, rfl, rfl, Or.inl ⟨job, rfl, rfl⟩⟩⟩
  rw [← hKey] at hFree ⊢
  rw [← hId]
  rw [← hPath] at hApart
  exact h.createStarted hRespondTo hFree.1 hApart

theorem Inv.remove {id : String} {params : WorktreeRemoveParams}
  (hAllowed : Allowed resolve s (.remove world id params))
  (ht : t = ({ s with received := s.received + 1 } : State).startApiWorktreeRemove resolve world id
    params s.received) :
  Inv resolve t ∧ (Refused s t ∨ Started s t) := by
  subst ht
  rcases startApiWorktreeRemove_cases ({ s with received := s.received + 1 } : State) id params
      s.received with ⟨failure, hRefused⟩ | ⟨workspaceId, space, hPrepare, hFree, hStarted⟩
  · rw [hRefused]
    exact ⟨h.refused id _, Or.inl ⟨id, failure, rfl⟩⟩
  simp only [removeBlocked, Bool.or_eq_false_iff, decide_eq_false_iff_not] at hFree
  obtain ⟨⟨hWorkspace, hRemoving⟩, hCreating⟩ := hFree
  have hApart := h.directory_fresh (hAllowed workspaceId space hPrepare) hCreating hRemoving
  obtain ⟨job, nextOperationId, hState, hKey, hNamed, hId, hPath, hRespondTo, hSpace⟩ :=
    startRemoveJob_spec ({ s with received := s.received + 1 } : State) id params s.received
      workspaceId space (canonicalOrOriginal resolve world space.checkoutPath)
  rw [hStarted, hState]
  refine ⟨?_, Or.inr ⟨rfl, rfl, rfl, Or.inr ⟨job, rfl, rfl⟩⟩⟩
  rw [← hNamed] at hWorkspace ⊢
  rw [← hKey] at hRemoving ⊢
  rw [← hId]
  rw [← hPath] at hApart
  exact h.removeStarted hRespondTo hWorkspace hRemoving hApart (by rw [hSpace]; rfl)

/-- A worker adding a worktree ends. -/
theorem Inv.addFinished {result : Except String Unit} {spawned : Spawned}
  (hAt : s.creating[worker]? = some job)
  (hAllowed : result = .ok () → ¬ FailsAfterMarking resolve world s job spawned)
  (ht : t = ({ s with creating := s.creating.eraseIdx worker } :
    State).handleApiWorktreeAddFinished resolve world job result spawned) :
  Inv resolve t ∧ CreateEnds s t worker job := by
  subst ht
  have hOwn := h.creates.lookup_of_mem (List.mem_of_getElem? hAt)
  unfold handleApiWorktreeAddFinished
  rw [if_neg (not_not.2 hOwn)]
  cases result with
  | error err => exact ⟨h.createFinished hAt _, hOwn, rfl, ⟨rfl, rfl⟩, ⟨rfl, rfl⟩, _, rfl, fun _ => rfl⟩
  | ok _ =>
    obtain ⟨opened, response, hSame, hState, hFailed⟩ := @openCreatedWorktree_spec resolve world
      ({ s with
        creating := s.creating.eraseIdx worker
        pendingCreates := s.pendingCreates.erase job.checkoutKey } : State) job spawned
    dsimp only
    rw [hState]
    obtain ⟨hCreates, hRemoves, hRemovePaths, hCreating, hRemoving, hAnswers⟩ := hSame.fields
    refine ⟨(h.createFinished hAt response).sameOperations (hSame.sendApiResponse _ _ _), hOwn,
      hCreates, ⟨hRemoves, hRemovePaths⟩, ⟨hCreating, hRemoving⟩, response, ?_, ?_⟩
    · simp only [sendApiResponse, hAnswers]
    · intro hError
      exact hFailed hError (hAllowed rfl)

/-- A worker removing a worktree ends. -/
theorem Inv.removalFinished {job : RemoveJob} {result : Except String Unit}
  (hAt : s.removing[worker]? = some job)
  (ht : t = ({ s with removing := s.removing.eraseIdx worker } :
    State).handleApiWorktreeRemoveFinished job result) :
  Inv resolve t ∧ RemoveEnds s t worker job := by
  subst ht
  have hMem := List.mem_of_getElem? hAt
  have hOwn := h.removes.lookup_of_mem hMem
  have hOwnPath := h.removePaths.lookup_of_mem hMem
  unfold handleApiWorktreeRemoveFinished
  rw [if_neg (by simp [hOwn, hOwnPath])]
  cases result with
  | error message =>
    exact ⟨h.removeFinished hAt _, ⟨hOwn, hOwnPath⟩, ⟨rfl, rfl⟩, rfl, ⟨rfl, rfl⟩, _, rfl, Or.inl rfl⟩
  | ok _ =>
    obtain ⟨closed, response, hSame, hSuccess, hState, hClosed⟩ := closeRemovedWorktree_spec
      ({ s with
        removing := s.removing.eraseIdx worker
        pendingRemoves := s.pendingRemoves.erase job.workspaceId
        pendingRemovePaths := s.pendingRemovePaths.erase job.checkoutKey } : State)
      (h.linked job hMem)
    dsimp only
    rw [hState]
    obtain ⟨hCreates, hRemoves, hRemovePaths, hCreating, hRemoving, hAnswers⟩ := hSame.fields
    refine ⟨(h.removeFinished hAt response).sameOperations (hSame.sendApiResponse _ _ _),
      ⟨hOwn, hOwnPath⟩, ⟨hRemoves, hRemovePaths⟩, hCreates, ⟨hCreating, hRemoving⟩, response, ?_, ?_⟩
    · simp only [sendApiResponse, hAnswers]
    · exact hClosed.imp_right fun hNamed => ⟨hSuccess, hNamed⟩

theorem Inv.step {label : Label} (hAllowed : Allowed resolve s label)
  (hStep : step resolve s label = some t) : Inv resolve t ∧ Faithful s t label := by
  cases label with
  | create world id params => exact h.create hAllowed (Option.some.inj hStep).symm
  | remove world id params => exact h.remove hAllowed (Option.some.inj hStep).symm
  | addFinished world worker result spawned =>
    obtain ⟨job, hAt, hState⟩ := Option.map_eq_some_iff.1 hStep
    obtain ⟨hInv, hEnds⟩ := h.addFinished hAt (hAllowed job hAt) hState.symm
    exact ⟨hInv, job, hAt, hEnds⟩
  | removeFinished worker result =>
    obtain ⟨job, hAt, hState⟩ := Option.map_eq_some_iff.1 hStep
    obtain ⟨hInv, hEnds⟩ := h.removalFinished hAt hState.symm
    exact ⟨hInv, job, hAt, hEnds⟩
  | rearrange workspaces active selected =>
    cases hStep
    exact ⟨h.sameOperations rfl, rfl⟩

end

/-- Each request was answered once or waits for one worker, no two operations in
progress are about one directory or remove one workspace, and with no worker left
nothing is listed. -/
structure Orderly (resolve : Path → Path) (s : State) : Prop where
  accounted : (s.answered ++ s.waiting).Perm (List.range s.received)
  apart : (s.directories resolve).Nodup
  removals : (s.removing.map (·.workspaceId)).Nodup
  listed : s.creating = [] → s.removing = [] →
    s.pendingCreates = ∅ ∧ s.pendingRemoves = ∅ ∧ s.pendingRemovePaths = ∅

theorem Inv.orderly (h : Inv resolve s) : Orderly resolve s where
  accounted := h.accounted
  apart := h.apart
  removals := h.removes.nodup
  listed := by
    intro hCreating hRemoving
    have hCreates := h.creates
    have hRemoves := h.removes
    have hRemovePaths := h.removePaths
    rw [hCreating] at hCreates
    rw [hRemoving] at hRemoves hRemovePaths
    exact ⟨hCreates.eq_empty, hRemoves.eq_empty, hRemovePaths.eq_empty⟩

/-- In every run in which the directories are listed alike and nothing fails
after marking, the operations are kept apart and each step keeps to its own. -/
theorem deferred_operations_orderly {labels : List Label}
  (hRun : Run (restrict (ofPartial (Worktrees.step resolve)) (Allowed resolve)) State.initial
    labels s) :
  Orderly resolve s ∧ ∀ label t, Allowed resolve s label →
    Worktrees.step resolve s label = some t → Faithful s t label := by
  have hInv : Inv resolve s := by
    apply hRun.preserves Inv.initial
    rintro u label v hInv ⟨hStep, hAllowed⟩
    exact (hInv.step hAllowed hStep).1
  refine ⟨hInv.orderly, ?_⟩
  intro label t hAllowed hStep
  exact (hInv.step hAllowed hStep).2

/-- Everything under `tmp` leads under `private`. -/
def underPrivate (path : Path) : Path :=
  match path.components with
  | "tmp" :: _ => { path with components := "private" :: path.components }
  | _ => path

def checkoutOf (name : String) : Path := ⟨true, ["tmp", name]⟩

/-- A file system in which the checkout may be there already. -/
def fileSystem (checkedOut : Bool) : World where
  home := none
  existing path := checkedOut && decide (path = checkoutOf "x")
  gitSpaceMetadata _ := none
  generatedBranch := "worktree/1"
  worktreeDirectory := ⟨true, ["worktrees"]⟩

def repository : Path := ⟨true, ["repo"]⟩

def parentWorkspace : Workspace where
  id := "w1"
  customName := none
  worktreeSpace := none
  gitSpace := some ⟨"repo", repository, "repo", repository, false⟩
  identityCwd := some repository

def createParams : WorktreeCreateParams where
  workspaceId := some "w1"
  cwd := none
  branch := some "x"
  base := none
  path := some "/tmp/x"
  label := none
  focus := false

/-- A worktree is created and removed again. -/
def createdThenRemoved : List Label :=
  [.rearrange [parentWorkspace] (some 0) 0, .create (fileSystem false) "first" createParams,
    .addFinished (fileSystem true) 0 (.ok ()) ⟨.ok "w2", .ok "w3"⟩,
    .remove (fileSystem true) "second" ⟨"w3", false⟩]

theorem deferred_operations_orderly_createdThenRemoved :
  Orderly underPrivate (reached (Worktrees.step underPrivate) .initial createdThenRemoved) ∧
    ∀ label t, Allowed underPrivate
        (reached (Worktrees.step underPrivate) .initial createdThenRemoved) label →
      Worktrees.step underPrivate
          (reached (Worktrees.step underPrivate) .initial createdThenRemoved) label = some t →
        Faithful (reached (Worktrees.step underPrivate) .initial createdThenRemoved) t label := by
  apply deferred_operations_orderly
  apply run_reached_restrict (by decide +kernel)
  intro i hi
  match i, hi with
  | 0, _ => trivial
  | 1, _ => exact fun _ _ _ _ => listedAlike_of_idle (by decide +kernel) (by decide +kernel)
  | 2, _ =>
    rintro job - - ⟨⟨message, hShell⟩, -⟩
    cases hShell
  | 3, _ => exact fun _ _ _ => listedAlike_of_idle (by decide +kernel) (by decide +kernel)

/-- The second request comes when the worker of the first has made the directory. -/
def createdTwice : List Label :=
  [.rearrange [parentWorkspace] (some 0) 0, .create (fileSystem false) "first" createParams,
    .create (fileSystem true) "second" createParams]

/-- Two workers add a worktree in one directory. -/
theorem not_orderly_createdTwice : ¬ ∀ (resolve : Path → Path) (labels : List Label) (s : State),
  Run (ofPartial (Worktrees.step resolve)) .initial labels s →
    Orderly resolve s ∧ ∀ label t, Worktrees.step resolve s label = some t →
      Faithful s t label := by
  intro hClaim
  have hRun : Run (ofPartial (Worktrees.step underPrivate)) .initial createdTwice _ :=
    run_reached (by decide +kernel)
  have hApart := (hClaim underPrivate createdTwice _ hRun).1.apart
  revert hApart
  decide +kernel

end State

end Worktrees
