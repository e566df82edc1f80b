import VimeflowTerminal.App.Closing
import VimeflowTerminal.Data.Reordering

/-! Moving workspaces puts them together at one place; the others keep their order,
and the two indices follow their workspaces. -/

namespace App

open Workspaces Reordering

namespace Tree

variable {t : Tree}

/-- The workspaces have distinct ids. -/
def DistinctIds (t : Tree) : Prop := (t.workspaces.map (·.id)).Nodup

/-- The active index refers to a workspace. -/
def ActiveInRange (t : Tree) : Prop := ∀ idx, t.active = some idx → idx < t.workspaces.length

theorem publicWorkspaceId_position {id : String} (hMem : id ∈ t.workspaces.map (·.id)) :
  ∃ idx, t.position id = some idx ∧ t.publicWorkspaceId idx = some id := by
  obtain ⟨ws, hWs, hId⟩ := List.mem_map.1 hMem
  have hFound : (t.position id).isSome := by
    rw [position, List.findIdx?_isSome, List.any_eq_true]
    exact ⟨ws, hWs, decide_eq_true hId⟩
  obtain ⟨idx, hIdx⟩ := Option.isSome_iff_exists.1 hFound
  obtain ⟨hLt, hAt, -⟩ := List.findIdx?_eq_some_iff_getElem.1 hIdx
  refine ⟨idx, hIdx, ?_⟩
  rw [publicWorkspaceId, List.getElem?_eq_getElem hLt, Option.map_some, of_decide_eq_true hAt]

theorem mem_of_publicWorkspaceId {idx : Nat} {id : String}
  (hId : t.publicWorkspaceId idx = some id) : id ∈ t.workspaces.map (·.id) := by
  obtain ⟨ws, hWs, rfl⟩ := Option.map_eq_some_iff.1 hId
  exact List.mem_map_of_mem (List.mem_of_getElem? hWs)

/-- Some workspaces stand together at one place, and the others keep their order. Both indices
refer to the workspaces that they referred to. -/
structure Moved (t t' : Tree) (front moved back : List Workspace) : Prop where
  workspaces : t'.workspaces = front ++ moved ++ back
  perm : t'.workspaces.Perm t.workspaces
  others : front ++ back = t.workspaces.filter (·.id ∉ moved.map (·.id))
  active : t'.active = none ∧ t.active = none ∨
    ∃ id, t'.activeWorkspaceId = some id ∧ t.activeWorkspaceId = some id
  selected : ∀ id, t.publicWorkspaceId t.selected = some id →
    t'.publicWorkspaceId t'.selected = some id

theorem ActiveInRange.cases (hActive : t.ActiveInRange) :
  t.active = none ∨ ∃ id, t.activeWorkspaceId = some id := by
  unfold activeWorkspaceId
  cases hIdx : t.active with
  | none => exact Or.inl rfl
  | some idx =>
    obtain ⟨ws, hWs⟩ : ∃ ws, t.workspaces[idx]? = some ws :=
      ⟨_, List.getElem?_eq_getElem (hActive idx hIdx)⟩
    exact Or.inr ⟨ws.id, by rw [Option.bind_some, publicWorkspaceId, hWs, Option.map_some]⟩

theorem Moved.refl (hActive : t.ActiveInRange) {front moved back : List Workspace}
  (hAll : t.workspaces = front ++ moved ++ back)
  (hOthers : front ++ back = t.workspaces.filter (·.id ∉ moved.map (·.id))) :
  Moved t t front moved back := by
  refine ⟨hAll, List.Perm.refl _, hOthers, ?_, fun _ hId => hId⟩
  rcases hActive.cases with hNone | ⟨id, hId⟩
  · exact Or.inl ⟨hNone, hNone⟩
  · exact Or.inr ⟨id, hId, hId⟩

/-- In another order, both indices follow their workspaces. -/
theorem moved_reordered (hActive : t.ActiveInRange) {front moved back : List Workspace}
  (hPerm : (front ++ moved ++ back).Perm t.workspaces)
  (hOthers : front ++ back = t.workspaces.filter (·.id ∉ moved.map (·.id))) :
  Moved t (t.reordered (front ++ moved ++ back)) front moved back := by
  have hFollows : ∀ id, id ∈ t.workspaces.map (·.id) →
      ∃ idx, { t with workspaces := front ++ moved ++ back }.position id = some idx ∧
        (t.reordered (front ++ moved ++ back)).publicWorkspaceId idx = some id := fun id hMem =>
    publicWorkspaceId_position (t := { t with workspaces := front ++ moved ++ back })
      ((hPerm.map (·.id)).mem_iff.2 hMem)
  refine ⟨rfl, hPerm, hOthers, ?_, ?_⟩
  · rcases hActive.cases with hNone | ⟨id, hId⟩
    · refine Or.inl ⟨?_, hNone⟩
      show t.activeWorkspaceId.bind _ = none
      rw [activeWorkspaceId, hNone]
      rfl
    · obtain ⟨idx, -, hMem⟩ := Option.bind_eq_some_iff.1 hId
      obtain ⟨place, hPlace, hAt⟩ := hFollows id (mem_of_publicWorkspaceId hMem)
      refine Or.inr ⟨id, ?_, hId⟩
      show (t.activeWorkspaceId.bind _).bind _ = some id
      rw [hId, Option.bind_some, hPlace]
      exact hAt
  · intro id hId
    obtain ⟨place, hPlace, hAt⟩ := hFollows id (mem_of_publicWorkspaceId hId)
    show (t.reordered (front ++ moved ++ back)).publicWorkspaceId
      (((t.publicWorkspaceId t.selected).bind _).getD 0) = some id
    rw [hId, Option.bind_some, hPlace]
    exact hAt

/-- The workspaces before and after the place of a move, without the one that moves. -/
def othersBefore (t : Tree) (ws : Workspace) (insertIdx : Nat) : List Workspace :=
  (t.workspaces.take insertIdx).filter (·.id ≠ ws.id)

def othersAfter (t : Tree) (ws : Workspace) (insertIdx : Nat) : List Workspace :=
  (t.workspaces.drop insertIdx).filter (·.id ≠ ws.id)

theorem moveWorkspace_moved (hIds : t.DistinctIds) (hActive : t.ActiveInRange)
  {sourceIdx insertIdx : Nat} {ws : Workspace} (hSource : t.workspaces[sourceIdx]? = some ws)
  (hInsert : insertIdx ≤ t.workspaces.length) :
  Moved t (t.moveWorkspace sourceIdx insertIdx).1 (t.othersBefore ws insertIdx) [ws]
    (t.othersAfter ws insertIdx) := by
  obtain ⟨before, after, hList, hLength⟩ : ∃ before after,
      t.workspaces = before ++ ws :: after ∧ before.length = sourceIdx := by
    obtain ⟨hLt, hAt⟩ := List.getElem?_eq_some_iff.1 hSource
    refine ⟨t.workspaces.take sourceIdx, t.workspaces.drop (sourceIdx + 1), ?_,
      List.length_take_of_le (Nat.le_of_lt hLt)⟩
    rw [← hAt, ← List.drop_eq_getElem_cons hLt, List.take_append_drop]
  subst hLength
  have hSplitIds : ((before ++ ws :: after).map (·.id)).Nodup := hList ▸ (show
    (t.workspaces.map (·.id)).Nodup from hIds)
  have hMove := insertIdx_eraseIdx hSplitIds (hList ▸ hInsert)
  rw [← hList] at hMove
  have hOthers : t.othersBefore ws insertIdx ++ t.othersAfter ws insertIdx =
      t.workspaces.filter (·.id ∉ [ws].map (·.id)) := by
    rw [othersBefore, othersAfter, ← List.filter_append, List.take_append_drop]
    exact List.filter_congr fun other _ => by simp
  unfold moveWorkspace
  rw [hSource]
  dsimp only
  rw [if_neg (Nat.not_lt.2 hInsert)]
  have hTarget : (if before.length < insertIdx then insertIdx - 1 else insertIdx) ≤
      (before ++ after).length := by
    rw [hList, List.length_append, List.length_cons] at hInsert
    rw [List.length_append]
    split
    all_goals omega
  generalize (if before.length < insertIdx then insertIdx - 1 else insertIdx) = targetIdx
    at hMove hTarget ⊢
  split
  case isTrue hSame =>
    refine Moved.refl hActive ?_ hOthers
    rw [othersBefore, othersAfter, ← hMove, ← hSame, hList, eraseIdx_between,
      insertIdx_between]
  case isFalse =>
    have hPerm : ((t.workspaces.eraseIdx before.length).insertIdx targetIdx ws).Perm
        t.workspaces := by
      rw [hList, eraseIdx_between]
      exact (List.perm_insertIdx ws _ hTarget).trans List.perm_middle.symm
    rw [hMove] at hPerm ⊢
    exact moved_reordered hActive hPerm hOthers

/-- The workspaces of a block stand directly before a workspace, or last. -/
def PlacedBefore (before : Option String) (back : List Workspace) : Prop :=
  match before with
  | none => back = []
  | some id => back.head?.map (·.id) = some id

/-- The workspaces outside a block. -/
def outside (t : Tree) (workspaceIds : List String) : List Workspace :=
  t.workspaces.filter (·.id ∉ workspaceIds)

theorem map_outside (workspaceIds : List String) :
  (t.outside workspaceIds).map (·.id) =
    (t.workspaces.map (·.id)).filter (· ∉ workspaceIds) := by
  rw [outside, List.filter_map]
  rfl

variable {workspaceIds : List String} {before : Option String}

theorem isWorkspaceBlock_iff :
  t.isWorkspaceBlock workspaceIds before = true ↔ workspaceIds ≠ [] ∧ workspaceIds.Nodup ∧
    (∀ id ∈ workspaceIds, id ∈ t.workspaces.map (·.id)) ∧
      ∀ id, before = some id → id ∉ workspaceIds ∧ id ∈ t.workspaces.map (·.id) := by
  have hKnown : ∀ id, (t.position id).isSome = true ↔ id ∈ t.workspaces.map (·.id) := by
    intro id
    rw [position, List.findIdx?_isSome, List.any_eq_true, List.mem_map]
    exact exists_congr fun ws => and_congr_right fun _ => decide_eq_true_iff
  unfold isWorkspaceBlock
  simp only [Bool.and_eq_true, Bool.not_eq_true', List.isEmpty_eq_false_iff, decide_eq_true_eq,
    List.all_eq_true, Option.all_eq_true, hKnown, and_assoc]

/-- The place for a block is found among the other workspaces. -/
theorem placedBefore_insertIdx
  (hBefore : ∀ id, before = some id → id ∉ workspaceIds ∧ id ∈ t.workspaces.map (·.id)) :
  PlacedBefore before ((t.outside workspaceIds).drop
    ((before.bind fun id => ((t.outside workspaceIds).map (·.id)).findIdx? (· = id)).getD
      ((t.outside workspaceIds).map (·.id)).length)) := by
  cases before with
  | none =>
    rw [Option.bind_none, Option.getD_none, List.length_map]
    exact List.drop_length
  | some id =>
    obtain ⟨hOutside, hMem⟩ := hBefore id rfl
    have hRest : id ∈ (t.outside workspaceIds).map (·.id) := by
      rw [map_outside]
      exact List.mem_filter.2 ⟨hMem, decide_eq_true hOutside⟩
    obtain ⟨idx, hIdx⟩ : ∃ idx,
        ((t.outside workspaceIds).map (·.id)).findIdx? (· = id) = some idx := by
      rw [← Option.isSome_iff_exists, List.findIdx?_isSome, List.any_eq_true]
      exact ⟨id, hRest, decide_eq_true rfl⟩
    obtain ⟨hLt, hAt, -⟩ := List.findIdx?_eq_some_iff_getElem.1 hIdx
    show ((List.drop _ _).head?.map Workspace.id) = some id
    rw [Option.bind_some, hIdx, Option.getD_some, List.head?_drop, ← List.getElem?_map,
      List.getElem?_eq_getElem hLt, of_decide_eq_true hAt]

theorem moveWorkspaceBlock_moved (hIds : t.DistinctIds) (hActive : t.ActiveInRange)
  (hBlock : t.isWorkspaceBlock workspaceIds before = true) :
  ∃ front moved back, moved.map (·.id) = workspaceIds ∧ PlacedBefore before back ∧
    Moved t (t.moveWorkspaceBlock workspaceIds before).1 front moved back := by
  obtain ⟨-, hNodup, hAll, hBefore⟩ := isWorkspaceBlock_iff.1 hBlock
  have hPlaced := placedBefore_insertIdx hBefore
  generalize hPlace : ((before.bind fun id =>
    ((t.outside workspaceIds).map (·.id)).findIdx? (· = id)).getD
      ((t.outside workspaceIds).map (·.id)).length) = place at hPlaced
  have hKeys : (pick Workspace.id t.workspaces workspaceIds).map (·.id) =
      workspaceIds := map_pick hAll
  refine ⟨(t.outside workspaceIds).take place,
    pick Workspace.id t.workspaces workspaceIds,
    (t.outside workspaceIds).drop place, hKeys, hPlaced, ?_⟩
  have hOthers : (t.outside workspaceIds).take place ++ (t.outside workspaceIds).drop place =
      t.workspaces.filter (·.id ∉
        (pick Workspace.id t.workspaces workspaceIds).map (·.id)) := by
    rw [List.take_append_drop, hKeys]
    rfl
  have hPerm : ((t.outside workspaceIds).take place ++
      pick Workspace.id t.workspaces workspaceIds ++
        (t.outside workspaceIds).drop place).Perm t.workspaces := by
    have hAllOf := pick_append_perm hAll hIds hNodup
    refine List.Perm.trans ?_ hAllOf
    refine (List.perm_append_comm.append_right _).trans ?_
    rw [List.append_assoc, List.take_append_drop]
    rfl
  have hDesired : t.desiredIds workspaceIds before =
      ((t.outside workspaceIds).take place ++
        pick Workspace.id t.workspaces workspaceIds ++
          (t.outside workspaceIds).drop place).map (·.id) := by
    rw [List.map_append, List.map_append, hKeys, List.map_take, List.map_drop, ← hPlace,
      map_outside]
    rfl
  unfold moveWorkspaceBlock
  rw [hBlock]
  dsimp only
  rw [if_neg (by decide)]
  split
  case isTrue hSame =>
    refine Moved.refl hActive ?_ hOthers
    rw [hDesired] at hSame
    exact eq_of_keys hIds hPerm hSame
  case isFalse =>
    rw [sortByIds, hDesired, sort_eq hIds hPerm]
    exact moved_reordered hActive hPerm hOthers

/-- What the two moves do to a list of workspaces, for every request. -/
structure Rearranged (t : Tree) : Prop where
  one : ∀ sourceIdx insertIdx ws, t.workspaces[sourceIdx]? = some ws →
    insertIdx ≤ t.workspaces.length →
      Moved t (t.moveWorkspace sourceIdx insertIdx).1 (t.othersBefore ws insertIdx) [ws]
        (t.othersAfter ws insertIdx)
  outOfRange : ∀ sourceIdx insertIdx,
    t.workspaces.length ≤ sourceIdx ∨ t.workspaces.length < insertIdx →
      t.moveWorkspace sourceIdx insertIdx = (t, false)
  rejectedOne : ∀ sourceIdx insertIdx, (t.moveWorkspace sourceIdx insertIdx).2 = false →
    (t.moveWorkspace sourceIdx insertIdx).1 = t
  block : ∀ workspaceIds before, t.isWorkspaceBlock workspaceIds before = true →
    ∃ front moved back, moved.map (·.id) = workspaceIds ∧ PlacedBefore before back ∧
      Moved t (t.moveWorkspaceBlock workspaceIds before).1 front moved back
  noBlock : ∀ workspaceIds before, t.isWorkspaceBlock workspaceIds before = false →
    t.moveWorkspaceBlock workspaceIds before = (t, false)
  rejectedBlock : ∀ workspaceIds before, (t.moveWorkspaceBlock workspaceIds before).2 = false →
    (t.moveWorkspaceBlock workspaceIds before).1 = t

/-- Requests within the list put the workspaces in the order that was asked for, and the other
requests are rejected and change nothing. -/
theorem rearranged (hIds : t.DistinctIds) (hActive : t.ActiveInRange) : Rearranged t where
  one _ _ _ hSource hInsert := moveWorkspace_moved hIds hActive hSource hInsert
  outOfRange sourceIdx insertIdx hOut := by
    unfold moveWorkspace
    rcases hOut with hSource | hInsert
    · rw [List.getElem?_eq_none hSource]
    cases t.workspaces[sourceIdx]? with
    | none => rfl
    | some ws => exact if_pos hInsert
  rejectedOne sourceIdx insertIdx hRejected := by
    unfold moveWorkspace at hRejected ⊢
    cases hSource : t.workspaces[sourceIdx]? with
    | none => rfl
    | some ws =>
      rw [hSource] at hRejected
      dsimp only at hRejected ⊢
      split
      case isTrue => rfl
      case isFalse hInsert =>
        rw [if_neg hInsert] at hRejected
        generalize (if sourceIdx < insertIdx then insertIdx - 1 else insertIdx) = targetIdx
          at hRejected ⊢
        by_cases hSame : sourceIdx = targetIdx
        · rw [if_pos hSame]
        · rw [if_neg hSame] at hRejected
          cases hRejected
  block _ _ hBlock := moveWorkspaceBlock_moved hIds hActive hBlock
  noBlock workspaceIds before hNoBlock := by
    unfold moveWorkspaceBlock
    rw [hNoBlock]
    rfl
  rejectedBlock workspaceIds before hRejected := by
    unfold moveWorkspaceBlock at hRejected ⊢
    split
    case isTrue => rfl
    case isFalse hBlock =>
      rw [if_neg hBlock] at hRejected
      by_cases hSame : t.workspaces.map (·.id) = t.desiredIds workspaceIds before
      · rw [if_pos hSame]
      · rw [if_neg hSame] at hRejected
        cases hRejected

/-- A workspace of which only the id matters. -/
def bareWorkspace (id : String) : Workspace where
  id
  customName := none
  worktreeSpace := none
  publicPaneNumbers := ∅
  nextPublicPaneNumber := 1
  nextPublicTabNumber := 1
  tabs := []
  activeTab := 0

/-- Four workspaces, of which the last is active and the second selected. -/
def fourWorkspaces : Tree where
  workspaces := ["a", "b", "c", "d"].map bareWorkspace
  active := some 3
  selected := 1
  terminals := ∅
  ids := IdCounters.initial

theorem rearranged_fourWorkspaces : Rearranged fourWorkspaces := by
  refine rearranged ?_ ?_
  · show ["a", "b", "c", "d"].Nodup
    decide
  intro idx hIdx
  cases hIdx
  decide

/-- Two workspaces that are apart are brought together, in the other order, before the third. -/
example : (fourWorkspaces.moveWorkspaceBlock ["d", "b"] (some "c")).1.workspaces.map (·.id) =
    ["a", "d", "b", "c"] := by decide

end Tree

end App
