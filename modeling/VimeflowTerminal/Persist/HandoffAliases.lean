import VimeflowTerminal.Persist.RestoredActiveTab
import VimeflowTerminal.Persist.RoundTrip

/-! Old and new panes are paired by position, while the restore drops panes, tabs
and workspaces. The pairs are right exactly if nothing that is kept stands after
something that is dropped. -/

namespace Persist

open Layout Workspaces Survivors

/-! ## Restoring a handoff -/

/-- Restore a session with imported runtimes, none of which may be lost. -/
def restoreWithImportsStrict (ctx : RestoreContext) (snapshot : SessionSnapshot)
  (ids : IdCounters) (importedPanes : Finset Nat) : Except String RestoredSession :=
  let restored := restoreWithImports ctx snapshot ids importedPanes
  if 0 < restored.state.failedImports then
    .error ("handoff failed to restore " ++ toString restored.state.failedImports ++
      " imported pane runtime(s)")
  else if restored.state.importedPanes ≠ ∅ then
    .error ("handoff import did not consume " ++ toString restored.state.importedPanes.card ++
      " pane runtime(s)")
  else .ok restored

/-- A handoff always resumes agents. -/
def restoreHandoff (ctx : RestoreContext) (snapshot : SessionSnapshot) (ids : IdCounters)
  (imports : Finset Nat) : Except String RestoredSession :=
  restoreWithImportsStrict { ctx with resumeAgentsOnRestore := true } snapshot ids imports

/-- Record the new id of a pane under its old id, if it has changed. -/
def insertAlias (aliases : FinMap Nat PaneId) (pair : Nat × PaneId) : FinMap Nat PaneId :=
  if pair.1 ≠ pair.2.raw then aliases.insert pair.1 pair.2 else aliases

def tabAliases (aliases : FinMap Nat PaneId) (tabs : TabSnapshot × Tab) : FinMap Nat PaneId :=
  (tabs.1.layout.collectPaneIds.zip tabs.2.layout.paneIds).foldl insertAlias aliases

def workspaceAliases (aliases : FinMap Nat PaneId) (workspaces : WorkspaceSnapshot × Workspace) :
  FinMap Nat PaneId :=
  (workspaces.1.tabs.zip workspaces.2.tabs).foldl tabAliases aliases

/-- Pair saved and restored panes by their positions. -/
def handoffPaneAliases (snapshot : SessionSnapshot) (workspaces : List Workspace) :
  FinMap Nat PaneId :=
  (snapshot.workspaces.zip workspaces).foldl workspaceAliases ∅

/-! ### Panes by position -/

/-- The leaves of a snapshot, by workspace and tab. -/
def SessionSnapshot.leafLists (snapshot : SessionSnapshot) : List (List (List Nat)) :=
  snapshot.workspaces.map fun ws => ws.tabs.map fun tab => tab.layout.collectPaneIds

/-- The panes of some workspaces, by workspace and tab. -/
def paneLists (workspaces : List Workspace) : List (List (List PaneId)) :=
  workspaces.map fun ws => ws.tabs.map fun tab => tab.layout.paneIds

def tabPairs (leaves : List Nat) (panes : List PaneId) : List (Nat × PaneId) := leaves.zip panes

def workspacePairs (leaves : List (List Nat)) (panes : List (List PaneId)) :
  List (Nat × PaneId) :=
  (leaves.zip panes).flatMap fun pair => tabPairs pair.1 pair.2

/-- The pairs that are made of the panes at the same positions. -/
def positionPairs (leaves : List (List (List Nat))) (panes : List (List (List PaneId))) :
  List (Nat × PaneId) :=
  (leaves.zip panes).flatMap fun pair => workspacePairs pair.1 pair.2

theorem handoffPaneAliases_eq (snapshot : SessionSnapshot) (workspaces : List Workspace) :
  handoffPaneAliases snapshot workspaces =
    (positionPairs snapshot.leafLists (paneLists workspaces)).foldl insertAlias ∅ := by
  unfold handoffPaneAliases positionPairs SessionSnapshot.leafLists paneLists
  rw [List.zip_map, List.flatMap_map, List.foldl_flatMap]
  refine congrArg (fun step => List.foldl step ∅ _) (funext₂ fun aliases pair => ?_)
  unfold workspaceAliases workspacePairs
  rw [Prod.map_fst, Prod.map_snd, List.zip_map, List.flatMap_map, List.foldl_flatMap]
  rfl

theorem lookup_insertAlias {pairs : List (Nat × PaneId)} (hNodup : (pairs.map Prod.fst).Nodup)
  {oldId : Nat} {newId : PaneId} : (pairs.foldl insertAlias ∅).lookup oldId = some newId ↔
    (oldId, newId) ∈ pairs ∧ oldId ≠ newId.raw := by
  have hFilter : pairs.foldl insertAlias ∅ =
      FinMap.ofPairs (pairs.filter fun pair => pair.1 ≠ pair.2.raw) := by
    rw [FinMap.ofPairs, List.foldl_filter]
    refine congrArg (fun step => List.foldl step ∅ pairs) (funext₂ fun aliases pair => ?_)
    simp only [insertAlias, decide_eq_true_eq]
  rw [hFilter, FinMap.lookup_ofPairs_iff (hNodup.sublist (List.filter_sublist.map _)),
    List.mem_filter, decide_eq_true_eq]

/-! ## What is left of a session -/

/-- What a list has become, unless nothing is left of it. -/
def orNone {α : Type} (kept : List α) : Option (List α) := if kept = [] then none else some kept

variable {α : Type}

theorem orNone_eq_some {kept items : List α} :
  orNone kept = some items ↔ kept ≠ [] ∧ kept = items := by
  unfold orNone
  split
  case isTrue hEmpty => simp [hEmpty]
  case isFalse hSome => simp [hSome]

theorem isSome_orNone {kept : List α} : (orNone kept).isSome = true ↔ kept ≠ [] := by
  unfold orNone
  split
  case isTrue hEmpty => simp [hEmpty]
  case isFalse hSome => simp [hSome]

theorem elim_orNone {β : Type} {pairs : List α → List β} (hNil : pairs [] = []) (kept : List α) :
  (orNone kept).elim [] pairs = pairs kept := by
  unfold orNone
  split
  case isTrue hEmpty => rw [hEmpty, hNil, Option.elim_none]
  case isFalse => rfl

section Keep

variable (rename : Nat → PaneId) (survives : Nat → Bool)

/-- What a leaf becomes. -/
def keepLeaf (oldId : Nat) : Option PaneId := if survives oldId then some (rename oldId) else none

/-- What the leaves of a tab become. -/
def keepTab (leaves : List Nat) : Option (List PaneId) :=
  orNone (leaves.filterMap (keepLeaf rename survives))

/-- What the leaves of a workspace become. -/
def keepWorkspace (tabs : List (List Nat)) : Option (List (List PaneId)) :=
  orNone (tabs.filterMap (keepTab rename survives))

variable {rename survives}

theorem keepLeaf_eq_some {oldId : Nat} {newId : PaneId} :
  keepLeaf rename survives oldId = some newId ↔
    survives oldId = true ∧ rename oldId = newId := by
  unfold keepLeaf
  split
  case isTrue hAlive => simp [hAlive]
  case isFalse hDead => simp [hDead]

theorem isSome_keepLeaf {oldId : Nat} :
  (keepLeaf rename survives oldId).isSome = survives oldId := by
  unfold keepLeaf
  split
  case isTrue hAlive => exact hAlive.symm
  case isFalse hDead => exact (Bool.eq_false_iff.2 hDead).symm

theorem filterMap_keepLeaf (leaves : List Nat) :
  leaves.filterMap (keepLeaf rename survives) = (leaves.filter survives).map rename := by
  induction leaves with
  | nil => rfl
  | cons oldId leaves ih =>
    by_cases hAlive : survives oldId = true
    · rw [List.filterMap_cons_some (keepLeaf_eq_some.2 ⟨hAlive, rfl⟩),
        List.filter_cons_of_pos hAlive, List.map_cons, ih]
    · have hNone : keepLeaf rename survives oldId = none := if_neg hAlive
      rw [List.filterMap_cons_none hNone, List.filter_cons_of_neg hAlive, ih]

variable (rename) in
theorem isSome_keepTab {leaves : List Nat} :
  (keepTab rename survives leaves).isSome = leaves.any survives := by
  rw [Bool.eq_iff_iff, keepTab, isSome_orNone, filterMap_keepLeaf, List.any_eq_true, ne_eq,
    List.map_eq_nil_iff, List.filter_eq_nil_iff]
  simp

variable (rename) in
theorem isSome_keepWorkspace {tabs : List (List Nat)} :
  (keepWorkspace rename survives tabs).isSome = tabs.any (·.any survives) := by
  rw [Bool.eq_iff_iff, keepWorkspace, isSome_orNone, List.any_eq_true, ne_eq,
    List.filterMap_eq_nil_iff]
  simp only [← isSome_keepTab rename, ← Option.not_isSome_iff_eq_none, not_forall,
    not_not, exists_prop]

end Keep

/-! ## Workspaces -/

theorem mem_foldl_migrateNumber {oldIds : List Nat} (numbers : FinMap Nat Nat × Nat) {oldId : Nat}
  (hMem : oldId ∈ oldIds ∨ oldId ∈ numbers.1) :
  oldId ∈ (oldIds.foldl migrateNumber numbers).1 := by
  induction oldIds generalizing numbers with
  | nil => exact hMem.resolve_left List.not_mem_nil
  | cons head oldIds ih =>
    exact ih _ (mem_migrateNumber numbers.2 hMem)

variable (ctx : RestoreContext)

section Workspace

variable {snap : WorkspaceSnapshot} {rename : Nat → PaneId} {survives : Nat → Bool}
  {st : RestoreState}

theorem keepTab_of_alive {leaves : List Nat} (hAlive : leaves.any survives = true) :
  keepTab rename survives leaves = some ((leaves.filter survives).map rename) := by
  have hSome : (leaves.filter survives).map rename ≠ [] := by
    rw [← isSome_keepTab rename, keepTab, isSome_orNone, filterMap_keepLeaf] at hAlive
    exact hAlive
  rw [keepTab, filterMap_keepLeaf, orNone, if_neg hSome]

theorem keepTab_of_dead {leaves : List Nat} (hDead : ¬leaves.any survives = true) :
  keepTab rename survives leaves = none := by
  rw [← isSome_keepTab rename] at hDead
  exact Option.not_isSome_iff_eq_none.1 hDead

/-- The panes of the tabs that are kept. -/
theorem paneIds_of_restored {entries : List (TabSnapshot × Nat)} {tabs : List Tab}
  (hTabs : List.Forall₂ (fun entry tab =>
    RestoredFrom rename survives entry.1 (savedTabNumber snap entry.2) tab)
    (keptEntries survives entries) tabs) :
  tabs.map (fun tab => tab.layout.paneIds) =
    (entries.map fun entry => entry.1.layout.collectPaneIds).filterMap
      (keepTab rename survives) := by
  induction entries generalizing tabs with
  | nil =>
    cases hTabs
    rfl
  | cons entry entries ih =>
    rw [List.map_cons]
    by_cases hKept : entry.1.layout.collectPaneIds.any survives = true
    · rw [keptEntries_of_alive hKept] at hTabs
      cases hTabs with
      | cons hTab hRest =>
        rw [List.map_cons, ih hRest, hTab.leaves,
          List.filterMap_cons_some (keepTab_of_alive hKept)]
    · rw [keptEntries_of_dead hKept] at hTabs
      rw [ih hTabs, List.filterMap_cons_none (keepTab_of_dead hKept)]

/-- The panes of the restored tabs. -/
theorem lastBuild_paneIds
  (hNames : snap.leaves.map rename = freshIds st.ids.nextPaneId snap.leaves.length)
  (hSurvives : CameBack (restoreWorkspace ctx snap st).outcomes survives) :
  (lastBuild ctx snap st).tabs.map (fun tab => tab.layout.paneIds) =
    (snap.tabs.map fun tab => tab.layout.collectPaneIds).filterMap
      (keepTab rename survives) := by
  have hLeaves : tabLeaves snap.tabs.zipIdx = snap.leaves := tabLeaves_zipIdx snap.tabs 0
  have hIds : (firstBuild snap st).state.ids.nextPaneId = st.ids.nextPaneId :=
    restoredWorkspaceId_keeps st.ids
  have hNumbered : ∀ oldId ∈ tabLeaves snap.tabs.zipIdx,
      (migratedPublicPaneNumbersByOldRaw snap snap.firstPaneNumber).1.lookup oldId =
        some (((migratedPublicPaneNumbersByOldRaw snap snap.firstPaneNumber).1.lookup
          oldId).getD 0) := by
    intro oldId hMem
    rw [hLeaves] at hMem
    obtain ⟨number, hNumber⟩ := Option.isSome_iff_exists.1 (AList.lookup_isSome.2
      (mem_foldl_migrateNumber (snap.publicPaneNumbers, snap.firstPaneNumber) (Or.inl hMem)))
    have hLookup : (migratedPublicPaneNumbersByOldRaw snap snap.firstPaneNumber).1.lookup oldId =
        some number := hNumber
    rw [hLookup, Option.getD_some]
  rw [← hIds, ← hLeaves] at hNames
  obtain ⟨kept, hTabs, hKept⟩ := (foldl_addRestoredTab ctx snap snap.tabs.zipIdx _ hNames hNumbered
    (List.nil_append _).symm hSurvives).tabs
  have hAll : (lastBuild ctx snap st).tabs = kept := hTabs.trans (List.nil_append kept)
  have hZip : (snap.tabs.zipIdx.map fun entry => entry.1.layout.collectPaneIds) =
      snap.tabs.map fun tab => tab.layout.collectPaneIds := by
    conv_rhs => rw [← List.zipIdx_map_fst 0 snap.tabs, List.map_map]
    rfl
  rw [hAll, paneIds_of_restored hKept, hZip]

theorem restoreWorkspace_paneIds
  (hNames : snap.leaves.map rename = freshIds st.ids.nextPaneId snap.leaves.length)
  (hSurvives : CameBack (restoreWorkspace ctx snap st).outcomes survives) :
  ((restoreWorkspace ctx snap st).workspace.map fun ws =>
      ws.tabs.map fun tab => tab.layout.paneIds) =
    keepWorkspace rename survives (snap.tabs.map fun tab => tab.layout.collectPaneIds) := by
  have hPanes := lastBuild_paneIds ctx hNames hSurvives
  rw [restoreWorkspace_eq, keepWorkspace, ← hPanes]
  cases hTabs : (lastBuild ctx snap st).tabs with
  | nil => rfl
  | cons tab tabs =>
    show some ((lastBuild ctx snap st).tabs.map _) = _
    rw [hTabs]
    rfl

theorem foldl_paneIds (snap : WorkspaceSnapshot) (migrated : FinMap Nat Nat) (entries : List (TabSnapshot × Nat))
  (build : WorkspaceBuild) :
  (entries.foldl (addRestoredTab ctx snap migrated) build).outcomes.map (·.paneId) =
    build.outcomes.map (·.paneId) ++
      freshIds build.state.ids.nextPaneId (tabLeaves entries).length := by
  induction entries generalizing build with
  | nil => exact (List.append_nil _).symm
  | cons entry entries ih =>
    obtain ⟨hOutcomes, hState⟩ := addRestoredTab_state ctx snap migrated build entry
    obtain ⟨hPanes, hNext⟩ :=
      restoreTab_outcomes ctx entry.1 (savedTabNumber snap entry.2) build.state
    rw [List.foldl_cons, ih, hOutcomes, hState, hNext, List.map_append, hPanes, tabLeaves_cons,
      List.length_append, freshIds_append, List.append_assoc]

theorem restoreWorkspace_newIds
  (hNames : snap.leaves.map rename = freshIds st.ids.nextPaneId snap.leaves.length) :
  (restoreWorkspace ctx snap st).outcomes.map (·.paneId) = snap.leaves.map rename := by
  have hLeaves : tabLeaves snap.tabs.zipIdx = snap.leaves := tabLeaves_zipIdx snap.tabs 0
  have hIds : (firstBuild snap st).state.ids.nextPaneId = st.ids.nextPaneId :=
    restoredWorkspaceId_keeps st.ids
  have hPanes := foldl_paneIds ctx snap
    (migratedPublicPaneNumbersByOldRaw snap snap.firstPaneNumber).1 snap.tabs.zipIdx
    (firstBuild snap st)
  rw [hIds, hLeaves, ← hNames] at hPanes
  exact hPanes

end Workspace

/-! ## Sessions -/

/-- The leaves of a session, in order. -/
def SessionSnapshot.leaves (snapshot : SessionSnapshot) : List Nat :=
  snapshot.workspaces.flatMap WorkspaceSnapshot.leaves

section Session

variable {rename : Nat → PaneId} {survives : Nat → Bool}

/-- The panes and the outcomes of workspaces that are restored one after the other. -/
theorem restorations_spec {snaps : List WorkspaceSnapshot} {st : RestoreState}
  (hNames : (snaps.flatMap WorkspaceSnapshot.leaves).map rename =
    freshIds st.ids.nextPaneId (snaps.flatMap WorkspaceSnapshot.leaves).length)
  (hSurvives : CameBack ((restorations ctx snaps st).flatMap (·.2.outcomes)) survives) :
  paneLists ((restorations ctx snaps st).filterMap (·.2.workspace)) =
      (snaps.map fun ws => ws.tabs.map fun tab => tab.layout.collectPaneIds).filterMap
        (keepWorkspace rename survives) ∧
    ((restorations ctx snaps st).flatMap (·.2.outcomes)).map
        (fun outcome => (outcome.oldId, outcome.paneId)) =
      (snaps.flatMap WorkspaceSnapshot.leaves).map fun oldId => (some oldId, rename oldId) := by
  induction snaps generalizing st with
  | nil => exact ⟨rfl, rfl⟩
  | cons snap snaps ih =>
    rw [List.flatMap_cons, List.map_append, List.length_append, freshIds_append] at hNames
    obtain ⟨hFirst, hRest⟩ := List.append_inj hNames (by rw [List.length_map, length_freshIds])
    obtain ⟨hOldIds, hNext⟩ := @restoreWorkspace_outcomes ctx snap _ st hFirst
    have hNewIds := restoreWorkspace_newIds ctx hFirst
    rw [← hNext] at hRest
    rw [restorations, List.flatMap_cons] at hSurvives
    obtain ⟨hPanes, hOutcomes⟩ := ih hRest
      fun outcome hMem => hSurvives outcome (List.mem_append_right _ hMem)
    have hWorkspace := restoreWorkspace_paneIds ctx hFirst
      fun outcome hMem => hSurvives outcome (List.mem_append_left _ hMem)
    constructor
    · have hHead := List.filterMap_cons (f := fun entry : WorkspaceSnapshot × RestoredWorkspace =>
        entry.2.workspace) (a := (snap, restoreWorkspace ctx snap st))
          (l := restorations ctx snaps (restoreWorkspace ctx snap st).state)
      rw [restorations, List.map_cons, hHead]
      cases hKept : (restoreWorkspace ctx snap st).workspace with
      | none =>
        rw [hKept] at hWorkspace
        rw [List.filterMap_cons_none hWorkspace.symm, ← hPanes]
      | some ws =>
        rw [hKept] at hWorkspace
        rw [List.filterMap_cons_some hWorkspace.symm, ← hPanes]
        rfl
    · rw [restorations, List.flatMap_cons, List.map_append, hOutcomes, List.flatMap_cons,
        List.map_append]
      refine congrArg (· ++ _) ?_
      rw [← List.zip_map', ← List.zip_map', hOldIds, hNewIds]

/-! ## Pairs -/

/-- The old pane has survived as the new one. -/
def BecameOf (rename : Nat → PaneId) (survives : Nat → Bool) (pair : Nat × PaneId) : Prop :=
  survives pair.1 = true ∧ rename pair.1 = pair.2

/-- Whatever is lost of a session comes last: after it, nothing of the same workspace or tab
survives. -/
structure LostLast (survives : Nat → Bool) (leaves : List (List (List Nat))) : Prop where
  workspaces : leaves.Pairwise fun earlier later =>
    later.any (·.any survives) = true → earlier.any (·.any survives) = true
  tabs : ∀ ws ∈ leaves, ws.Pairwise fun earlier later =>
    later.any survives = true → earlier.any survives = true
  panes : ∀ ws ∈ leaves, ∀ tab ∈ ws, tab.Pairwise fun earlier later =>
    survives later = true → survives earlier = true

theorem tabPairs_eq_zipped (leaves : List Nat) :
  tabPairs leaves (leaves.filterMap (keepLeaf rename survives)) =
    zipped (keepLeaf rename survives) (fun oldId newId => [(oldId, newId)]) leaves := by
  rw [zipped, List.flatMap_singleton']
  rfl

theorem tabPairs_right_iff {leaves : List Nat} {kept : List PaneId}
  (hKept : keepTab rename survives leaves = some kept) :
  (∀ pair ∈ tabPairs leaves kept, BecameOf rename survives pair) ↔
    leaves.Pairwise fun earlier later => survives later = true → survives earlier = true := by
  obtain ⟨-, rfl⟩ := orNone_eq_some.1 hKept
  have hOrder : InOrder (keepLeaf rename survives) leaves ↔
      leaves.Pairwise fun earlier later => survives later = true → survives earlier = true := by
    simp only [InOrder, isSome_keepLeaf]
  have hEach : ∀ oldId ∈ leaves, ∀ newId, keepLeaf rename survives oldId = some newId →
      ∀ pair ∈ [(oldId, newId)], BecameOf rename survives pair := by
    intro oldId _ newId hNew pair hPair
    rw [List.mem_singleton.1 hPair]
    exact keepLeaf_eq_some.1 hNew
  rw [tabPairs_eq_zipped, zipped_right_iff, hOrder]
  · exact and_iff_left hEach
  intro oldId _ _ _ newId _ hRight
  rw [isSome_keepLeaf]
  exact (hRight _ List.mem_cons_self).1

/-- The order of the leaves of a tab matters only if one of them survives. -/
theorem keptTab_right_iff {leaves : List Nat} :
  (∀ kept, keepTab rename survives leaves = some kept →
      ∀ pair ∈ tabPairs leaves kept, BecameOf rename survives pair) ↔
    leaves.Pairwise fun earlier later => survives later = true → survives earlier = true := by
  cases hKept : keepTab rename survives leaves with
  | some kept =>
    rw [← tabPairs_right_iff hKept]
    exact ⟨fun hAll => hAll kept rfl, fun hAll _ hSame => Option.some.inj hSame ▸ hAll⟩
  | none =>
    have hDead : leaves.any survives = false := by
      rw [← isSome_keepTab rename, hKept, Option.isSome_none]
    refine iff_of_true (fun _ hSome => nomatch hSome) ?_
    refine List.pairwise_of_forall_mem_list fun _ _ later hLater hAlive => ?_
    exact absurd hAlive (List.any_eq_false.1 hDead later hLater)

theorem alive_of_tabPairs {leaves other : List Nat} (hLeaves : leaves ≠ []) {kept : List PaneId}
  (hKept : keepTab rename survives other = some kept)
  (hRight : ∀ pair ∈ tabPairs leaves kept, BecameOf rename survives pair) :
  leaves.any survives = true := by
  obtain ⟨oldId, leaves, rfl⟩ := List.exists_cons_of_ne_nil hLeaves
  obtain ⟨newId, kept, rfl⟩ := List.exists_cons_of_ne_nil
    ((orNone_eq_some.1 hKept).2 ▸ (orNone_eq_some.1 hKept).1)
  have hAlive := (hRight (oldId, newId) List.mem_cons_self).1
  rw [List.any_cons, hAlive, Bool.true_or]

theorem workspacePairs_right_iff {leaves : List (List Nat)} (hLeaves : ∀ tab ∈ leaves, tab ≠ [])
  {kept : List (List PaneId)} (hKept : keepWorkspace rename survives leaves = some kept) :
  (∀ pair ∈ workspacePairs leaves kept, BecameOf rename survives pair) ↔
    (leaves.Pairwise fun earlier later =>
      later.any survives = true → earlier.any survives = true) ∧
    ∀ tab ∈ leaves, tab.Pairwise fun earlier later =>
      survives later = true → survives earlier = true := by
  obtain ⟨-, rfl⟩ := orNone_eq_some.1 hKept
  have hZipped : workspacePairs leaves (leaves.filterMap (keepTab rename survives)) =
      zipped (keepTab rename survives) tabPairs leaves := rfl
  rw [hZipped, zipped_right_iff]
  · simp only [InOrder, isSome_keepTab]
    exact and_congr_right fun _ => forall₂_congr fun tab _ => keptTab_right_iff
  intro tab hTab other _ keptTab hOther hRight
  rw [isSome_keepTab]
  exact alive_of_tabPairs (hLeaves tab hTab) hOther hRight

theorem keptWorkspace_right_iff {leaves : List (List Nat)} (hLeaves : ∀ tab ∈ leaves, tab ≠ []) :
  (∀ kept, keepWorkspace rename survives leaves = some kept →
      ∀ pair ∈ workspacePairs leaves kept, BecameOf rename survives pair) ↔
    (leaves.Pairwise fun earlier later =>
      later.any survives = true → earlier.any survives = true) ∧
    ∀ tab ∈ leaves, tab.Pairwise fun earlier later =>
      survives later = true → survives earlier = true := by
  cases hKept : keepWorkspace rename survives leaves with
  | some kept =>
    rw [← workspacePairs_right_iff hLeaves hKept]
    exact ⟨fun hAll => hAll kept rfl, fun hAll _ hSame => Option.some.inj hSame ▸ hAll⟩
  | none =>
    have hDead : leaves.any (·.any survives) = false := by
      rw [← isSome_keepWorkspace rename, hKept, Option.isSome_none]
    have hTabs := List.any_eq_false.1 hDead
    refine iff_of_true (fun _ hSome => nomatch hSome) ⟨?_, fun tab hTab => ?_⟩
    · refine List.pairwise_of_forall_mem_list fun _ _ later hLater hAlive => ?_
      exact absurd hAlive (hTabs later hLater)
    · refine List.pairwise_of_forall_mem_list fun _ _ later hLater hAlive => ?_
      exact absurd (List.any_eq_true.2 ⟨later, hLater, hAlive⟩) (hTabs tab hTab)

/-- All pairs are right exactly if whatever is lost comes last. -/
theorem positionPairs_right_iff {leaves : List (List (List Nat))}
  (hTabs : ∀ ws ∈ leaves, ws ≠ []) (hLeaves : ∀ ws ∈ leaves, ∀ tab ∈ ws, tab ≠ []) :
  (∀ pair ∈ positionPairs leaves (leaves.filterMap (keepWorkspace rename survives)),
      BecameOf rename survives pair) ↔ LostLast survives leaves := by
  have hZipped : positionPairs leaves (leaves.filterMap (keepWorkspace rename survives)) =
      zipped (keepWorkspace rename survives) workspacePairs leaves := rfl
  rw [hZipped, zipped_right_iff]
  · have hEach : (∀ ws ∈ leaves, ∀ kept, keepWorkspace rename survives ws = some kept →
        ∀ pair ∈ workspacePairs ws kept, BecameOf rename survives pair) ↔
        (∀ ws ∈ leaves, ws.Pairwise fun earlier later =>
          later.any survives = true → earlier.any survives = true) ∧
        ∀ ws ∈ leaves, ∀ tab ∈ ws, tab.Pairwise fun earlier later =>
          survives later = true → survives earlier = true := by
      rw [← forall₂_and]
      exact forall₂_congr fun ws hWs => keptWorkspace_right_iff (hLeaves ws hWs)
    rw [hEach]
    simp only [InOrder, isSome_keepWorkspace]
    exact ⟨fun h => ⟨h.1, h.2.1, h.2.2⟩, fun h => ⟨h.workspaces, h.tabs, h.panes⟩⟩
  · intro ws hWs other _ kept hOther hRight
    obtain ⟨tab, tabs, rfl⟩ := List.exists_cons_of_ne_nil (hTabs ws hWs)
    obtain ⟨hSome, rfl⟩ := orNone_eq_some.1 hOther
    obtain ⟨keptTab, kept, hKept⟩ := List.exists_cons_of_ne_nil hSome
    rw [hKept] at hRight
    obtain ⟨otherTab, -, hOtherTab⟩ := List.mem_filterMap.1 (hKept ▸ List.mem_cons_self)
    have hAlive := alive_of_tabPairs (hLeaves _ hWs tab List.mem_cons_self) hOtherTab
      fun pair hPair => hRight pair (List.mem_append_left _ hPair)
    rw [isSome_keepWorkspace, List.any_cons, hAlive, Bool.true_or]

/-- The survivors of some leaves, paired with what they became. -/
def survivorPairs (rename : Nat → PaneId) (survives : Nat → Bool) (leaves : List Nat) :
  List (Nat × PaneId) :=
  (leaves.filter survives).map fun oldId => (oldId, rename oldId)

theorem survivorPairs_flatten (parts : List (List Nat)) :
  survivorPairs rename survives parts.flatten =
    parts.flatMap (survivorPairs rename survives) := by
  rw [survivorPairs, List.filter_flatten, List.map_flatten, List.map_map, List.flatMap_def]
  rfl

theorem tabPairs_eq {leaves : List Nat} (hOrder : leaves.Pairwise fun earlier later =>
    survives later = true → survives earlier = true) :
  tabPairs leaves (leaves.filterMap (keepLeaf rename survives)) =
    survivorPairs rename survives leaves := by
  have hInOrder : InOrder (keepLeaf rename survives) leaves := by
    simpa only [InOrder, isSome_keepLeaf] using hOrder
  rw [tabPairs_eq_zipped, zipped_eq hInOrder]
  clear hOrder hInOrder
  induction leaves with
  | nil => rfl
  | cons oldId leaves ih =>
    unfold survivorPairs at ih ⊢
    rw [List.flatMap_cons, ih]
    by_cases hAlive : survives oldId = true
    · rw [keepLeaf_eq_some.2 ⟨hAlive, rfl⟩, List.filter_cons_of_pos hAlive]
      rfl
    have hNone : keepLeaf rename survives oldId = none := if_neg hAlive
    rw [hNone, List.filter_cons_of_neg hAlive]
    rfl

/-- If whatever is lost comes last, the survivors are paired with what they became. -/
theorem positionPairs_eq {leaves : List (List (List Nat))} (hLost : LostLast survives leaves) :
  positionPairs leaves (leaves.filterMap (keepWorkspace rename survives)) =
    leaves.flatMap fun ws => ws.flatMap (survivorPairs rename survives) := by
  have hZipped : positionPairs leaves (leaves.filterMap (keepWorkspace rename survives)) =
      zipped (keepWorkspace rename survives) workspacePairs leaves := rfl
  have hInOrder : InOrder (keepWorkspace rename survives) leaves := by
    simpa only [InOrder, isSome_keepWorkspace] using hLost.workspaces
  rw [hZipped, zipped_eq hInOrder]
  refine List.flatMap_congr fun ws hWs => ?_
  have hTabs : InOrder (keepTab rename survives) ws := by
    simpa only [InOrder, isSome_keepTab] using hLost.tabs ws hWs
  have hZippedTabs : workspacePairs ws (ws.filterMap (keepTab rename survives)) =
      zipped (keepTab rename survives) tabPairs ws := rfl
  rw [keepWorkspace, elim_orNone (by simp [workspacePairs]), hZippedTabs, zipped_eq hTabs]
  refine List.flatMap_congr fun tab hTab => ?_
  rw [keepTab, elim_orNone (by simp [tabPairs]), tabPairs_eq (hLost.panes ws hWs tab hTab)]

/-! ## Aliases -/

/-- Every leaf that survived is recorded under its new id, unless this is its old id, and no
other leaf is recorded. -/
structure AliasesOf (rename : Nat → PaneId) (survives : Nat → Bool) (leaves : List Nat)
  (aliases : FinMap Nat PaneId) : Prop where
  survivors : ∀ oldId ∈ leaves, survives oldId = true →
    aliases.lookup oldId = if (rename oldId).raw = oldId then none else some (rename oldId)
  only : ∀ oldId ∈ aliases, oldId ∈ leaves ∧ survives oldId = true

theorem lookup_survivorPairs {leaves : List Nat} (hLeaves : leaves.Nodup) :
  AliasesOf rename survives leaves
    ((survivorPairs rename survives leaves).foldl insertAlias ∅) := by
  have hFst : ((survivorPairs rename survives leaves).map Prod.fst) = leaves.filter survives := by
    rw [survivorPairs, List.map_map]
    exact List.map_id _
  have hNodup : ((survivorPairs rename survives leaves).map Prod.fst).Nodup :=
    hFst ▸ hLeaves.filter _
  have hMem : ∀ oldId newId, (oldId, newId) ∈ survivorPairs rename survives leaves ↔
      (oldId ∈ leaves ∧ survives oldId = true) ∧ rename oldId = newId := by
    intro oldId newId
    simp [survivorPairs, and_assoc]
  constructor
  · intro oldId hLeaf hAlive
    split
    case isTrue hSame =>
      rw [Option.eq_none_iff_forall_ne_some]
      intro newId hFound
      obtain ⟨hPair, hNe⟩ := (lookup_insertAlias hNodup).1 hFound
      rw [← ((hMem oldId newId).1 hPair).2] at hNe
      exact hNe hSame.symm
    case isFalse hChanged =>
      exact (lookup_insertAlias hNodup).2
        ⟨(hMem oldId _).2 ⟨⟨hLeaf, hAlive⟩, rfl⟩, fun hSame => hChanged hSame.symm⟩
  · intro oldId hRecorded
    obtain ⟨newId, hFound⟩ := Option.isSome_iff_exists.1 (AList.lookup_isSome.2 hRecorded)
    exact ((hMem oldId newId).1 ((lookup_insertAlias hNodup).1 hFound).1).1

/-- Aliases made of pairs of distinct panes are right only if every pair is. -/
theorem right_of_aliasesOf {pairs : List (Nat × PaneId)} {leaves : List Nat}
  (hFst : (pairs.map Prod.fst).Nodup) (hSnd : (pairs.map Prod.snd).Nodup)
  (hImage : ∀ pair ∈ pairs, ∃ oldId ∈ leaves, survives oldId = true ∧ rename oldId = pair.2)
  (hAliases : AliasesOf rename survives leaves (pairs.foldl insertAlias ∅)) :
  ∀ pair ∈ pairs, BecameOf rename survives pair := by
  rintro ⟨oldId, newId⟩ hPair
  obtain ⟨source, hSource, hAlive, hNew⟩ := hImage _ hPair
  by_cases hSame : oldId = newId.raw
  · by_cases hOther : source = oldId
    · exact hOther ▸ ⟨hAlive, hNew⟩
    · -- the source is recorded under the same new id, but that is paired with another pane
      have hLookup := hAliases.survivors source hSource hAlive
      rw [hNew, if_neg fun hRaw => hOther (hRaw.symm.trans hSame.symm)] at hLookup
      have hSourcePair := ((lookup_insertAlias hFst).1 hLookup).1
      have hEq := List.inj_on_of_nodup_map hSnd hPair hSourcePair rfl
      exact absurd (congrArg Prod.fst hEq).symm hOther
  · have hLookup := (lookup_insertAlias hFst).2 ⟨hPair, hSame⟩
    obtain ⟨hLeaf, hOld⟩ := hAliases.only oldId
      (AList.lookup_isSome.1 (Option.isSome_iff_exists.2 ⟨newId, hLookup⟩))
    rw [hAliases.survivors oldId hLeaf hOld] at hLookup
    split at hLookup
    case isTrue => cases hLookup
    case isFalse => exact ⟨hOld, Option.some.inj hLookup⟩

/-- What is left of the parts of a list is what is left of the list. -/
theorem flatten_filterMap_orNone {α β : Type} (become : List α → List β) (hNil : become [] = [])
  (hAppend : ∀ first second, become (first ++ second) = become first ++ become second)
  (parts : List (List α)) :
  (parts.filterMap fun part => orNone (become part)).flatten = become parts.flatten := by
  induction parts with
  | nil => exact hNil.symm
  | cons part parts ih =>
    rw [List.flatten_cons, hAppend, ← ih]
    by_cases hEmpty : become part = []
    · have hNone : orNone (become part) = none := if_pos hEmpty
      rw [List.filterMap_cons, hNone, hEmpty, List.nil_append]
    · have hSome : orNone (become part) = some (become part) := if_neg hEmpty
      rw [List.filterMap_cons, hSome, List.flatten_cons]

theorem flatten_keptTabs (tabs : List (List Nat)) :
  (tabs.filterMap (keepTab rename survives)).flatten =
    (tabs.flatten.filter survives).map rename := by
  rw [← filterMap_keepLeaf]
  exact flatten_filterMap_orNone (List.filterMap (keepLeaf rename survives)) rfl
    (fun _ _ => List.filterMap_append) tabs

theorem flatten_kept (leaves : List (List (List Nat))) :
  (leaves.filterMap (keepWorkspace rename survives)).flatten.flatten =
    (leaves.flatten.flatten.filter survives).map rename := by
  have hTabs := flatten_filterMap_orNone (List.filterMap (keepTab rename survives)) rfl
    (fun _ _ => List.filterMap_append) leaves
  rw [← flatten_keptTabs]
  exact congrArg List.flatten hTabs

theorem positionPairs_fst (leaves : List (List (List Nat))) (panes : List (List (List PaneId))) :
  ((positionPairs leaves panes).map Prod.fst).Sublist (leaves.flatMap List.flatten) :=
  flatMap_zip_sublist_left Prod.fst List.flatten (fun ws _ => List.flatMap_id (L := ws) ▸
    flatMap_zip_sublist_left Prod.fst id
      (fun tab tabPanes => map_fst_zip_sublist tab tabPanes) _ _) leaves panes

theorem positionPairs_snd (leaves : List (List (List Nat))) (panes : List (List (List PaneId))) :
  ((positionPairs leaves panes).map Prod.snd).Sublist (panes.flatMap List.flatten) :=
  flatMap_zip_sublist_right Prod.snd List.flatten (fun _ ws => List.flatMap_id (L := ws) ▸
    flatMap_zip_sublist_right Prod.snd id
      (fun tab tabPanes => map_snd_zip_sublist tab tabPanes) _ _) leaves panes

/-- The aliases of a session whose saved panes are renamed are right exactly if whatever is lost
comes last. -/
theorem aliasesOf_iff {leaves : List (List (List Nat))} (hTabs : ∀ ws ∈ leaves, ws ≠ [])
  (hTab : ∀ ws ∈ leaves, ∀ tab ∈ ws, tab ≠ []) (hNodup : leaves.flatten.flatten.Nodup)
  (hNames : (leaves.flatten.flatten.map rename).Nodup) :
  AliasesOf rename survives leaves.flatten.flatten
      ((positionPairs leaves (leaves.filterMap (keepWorkspace rename survives))).foldl
        insertAlias ∅) ↔ LostLast survives leaves := by
  have hRight := @positionPairs_right_iff rename survives leaves hTabs hTab
  have hPanes : ((leaves.filterMap (keepWorkspace rename survives)).flatMap List.flatten).Nodup := by
    rw [List.flatMap_def, ← List.flatten_flatten, flatten_kept]
    exact hNames.sublist (List.filter_sublist.map rename)
  have hLeaves : (leaves.flatMap List.flatten).Nodup := by
    rw [List.flatMap_def, ← List.flatten_flatten]
    exact hNodup
  constructor
  · intro hAliases
    refine hRight.1 (right_of_aliasesOf (hLeaves.sublist (positionPairs_fst _ _))
      (hPanes.sublist (positionPairs_snd _ _)) ?_ hAliases)
    intro pair hPair
    have hNew : pair.2 ∈ (leaves.flatten.flatten.filter survives).map rename := by
      rw [← flatten_kept, List.flatten_flatten, ← List.flatMap_def]
      exact (positionPairs_snd _ _).subset (List.mem_map_of_mem hPair)
    obtain ⟨oldId, hOld, hSame⟩ := List.mem_map.1 hNew
    obtain ⟨hLeaf, hAlive⟩ := List.mem_filter.1 hOld
    exact ⟨oldId, hLeaf, hAlive, hSame⟩
  · intro hLost
    have hSurvivors : survivorPairs rename survives leaves.flatten.flatten =
        leaves.flatMap fun ws => ws.flatMap (survivorPairs rename survives) := by
      rw [survivorPairs_flatten, List.flatten_eq_flatMap, List.flatMap_assoc]
      rfl
    rw [positionPairs_eq hLost, ← hSurvivors]
    exact lookup_survivorPairs hNodup

end Session

/-! ## Handoffs -/

/-- A snapshot that a live process takes for a handoff: its panes have distinct ids, and each of
its workspaces has a tab. -/
structure HandoffSnapshot (snapshot : SessionSnapshot) : Prop where
  leaves : snapshot.leaves.Nodup
  someTab : ∀ ws ∈ snapshot.workspaces, ws.tabs ≠ []

/-- The aliases record every surviving pane whose id has changed under its new id, and no other
pane. -/
structure AliasesRight (outcomes : List PaneOutcome) (aliases : FinMap Nat PaneId) : Prop where
  survivors : ∀ outcome ∈ outcomes, outcome.survived = true → ∀ oldId,
    outcome.oldId = some oldId →
      aliases.lookup oldId = if outcome.paneId.raw = oldId then none else some outcome.paneId
  only : ∀ oldId ∈ aliases, ∃ outcome ∈ outcomes,
    outcome.oldId = some oldId ∧ outcome.survived = true

theorem aliasesRight_iff {rename : Nat → PaneId} {survives : Nat → Bool} {leaves : List Nat}
  {outcomes : List PaneOutcome} {aliases : FinMap Nat PaneId}
  (hIds : outcomes.map (fun outcome => (outcome.oldId, outcome.paneId)) =
    leaves.map fun oldId => (some oldId, rename oldId)) (hSurvives : CameBack outcomes survives) :
  AliasesRight outcomes aliases ↔ AliasesOf rename survives leaves aliases := by
  have hLeaf : ∀ outcome ∈ outcomes, ∀ oldId, outcome.oldId = some oldId →
      oldId ∈ leaves ∧ outcome.paneId = rename oldId := by
    intro outcome hMem oldId hOld
    have hPair := List.mem_map_of_mem (f := fun outcome : PaneOutcome =>
      (outcome.oldId, outcome.paneId)) hMem
    rw [hIds, hOld] at hPair
    obtain ⟨leaf, hLeaf, hSame⟩ := List.mem_map.1 hPair
    obtain ⟨hSome, hNew⟩ := Prod.mk.inj hSame
    cases hSome
    exact ⟨hLeaf, hNew.symm⟩
  have hOutcome : ∀ oldId ∈ leaves, ∃ outcome ∈ outcomes, outcome.oldId = some oldId ∧
      outcome.paneId = rename oldId := by
    intro oldId hMem
    have hPair := List.mem_map_of_mem (f := fun oldId => (some oldId, rename oldId)) hMem
    rw [← hIds] at hPair
    obtain ⟨outcome, hOutcome, hSame⟩ := List.mem_map.1 hPair
    exact ⟨outcome, hOutcome, Prod.mk.inj hSame⟩
  constructor
  · intro hRight
    constructor
    · intro oldId hMem hAlive
      obtain ⟨outcome, hOutcome, hOld, hNew⟩ := hOutcome oldId hMem
      rw [← hSurvives outcome hOutcome oldId hOld] at hAlive
      rw [← hNew]
      exact hRight.survivors outcome hOutcome hAlive oldId hOld
    · intro oldId hRecorded
      obtain ⟨outcome, hOutcome, hOld, hAlive⟩ := hRight.only oldId hRecorded
      rw [hSurvives outcome hOutcome oldId hOld] at hAlive
      exact ⟨(hLeaf outcome hOutcome oldId hOld).1, hAlive⟩
  · intro hAliases
    constructor
    · intro outcome hOutcome hAlive oldId hOld
      obtain ⟨hMem, hNew⟩ := hLeaf outcome hOutcome oldId hOld
      rw [hSurvives outcome hOutcome oldId hOld] at hAlive
      rw [hNew]
      exact hAliases.survivors oldId hMem hAlive
    · intro oldId hRecorded
      obtain ⟨hMem, hAlive⟩ := hAliases.only oldId hRecorded
      obtain ⟨outcome, hOutcome, hOld, -⟩ := hOutcome oldId hMem
      rw [← hSurvives outcome hOutcome oldId hOld] at hAlive
      exact ⟨outcome, hOutcome, hOld, hAlive⟩

theorem flatten_leafLists (snapshot : SessionSnapshot) :
  snapshot.leafLists.flatten.flatten = snapshot.leaves := by
  rw [List.flatten_flatten, SessionSnapshot.leafLists, List.map_map, SessionSnapshot.leaves,
    List.flatMap_def]
  rfl

/-- When a handoff succeeds, its aliases are right exactly if whatever is lost comes last. -/
theorem handoff_aliasesRight_iff {ctx : RestoreContext} {snapshot : SessionSnapshot}
  {ids : IdCounters} {imports : Finset Nat} {restored : RestoredSession}
  {survives : Nat → Bool} (hSnapshot : HandoffSnapshot snapshot)
  (hRestored : restoreHandoff ctx snapshot ids imports = .ok restored)
  (hSurvives : CameBack restored.outcomes survives) :
  AliasesRight restored.outcomes (handoffPaneAliases snapshot restored.workspaces) ↔
    LostLast survives snapshot.leafLists := by
  have hSession : restored =
      restoreWithImports { ctx with resumeAgentsOnRestore := true } snapshot ids imports := by
    unfold restoreHandoff restoreWithImportsStrict at hRestored
    dsimp only at hRestored
    split at hRestored
    case isTrue => cases hRestored
    case isFalse =>
      split at hRestored
      case isTrue => cases hRestored
      case isFalse =>
        cases hRestored
        rfl
  obtain ⟨hWorkspaces, hOutcomes⟩ := foldl_addRestoredWorkspace
    { ctx with resumeAgentsOnRestore := true } snapshot.workspaces
    ⟨[], ∅, [], ⟨ids, ∅, imports, 0⟩⟩
  rw [List.nil_append] at hWorkspaces hOutcomes
  obtain ⟨rename, hNames⟩ := exists_rename hSnapshot.leaves ids.nextPaneId
  have hAllOutcomes : restored.outcomes = _ := (congrArg (·.outcomes) hSession).trans hOutcomes
  have hAllWorkspaces : restored.workspaces = _ :=
    (congrArg (·.workspaces) hSession).trans hWorkspaces
  rw [hAllOutcomes] at hSurvives ⊢
  obtain ⟨hPanes, hIds⟩ := restorations_spec { ctx with resumeAgentsOnRestore := true } hNames
    hSurvives
  have hTabs : ∀ ws ∈ snapshot.leafLists, ws ≠ [] := by
    intro ws hWs hEmpty
    obtain ⟨snap, hSnap, rfl⟩ := List.mem_map.1 hWs
    exact hSnapshot.someTab snap hSnap (List.map_eq_nil_iff.1 hEmpty)
  have hTab : ∀ ws ∈ snapshot.leafLists, ∀ tab ∈ ws, tab ≠ [] := by
    intro ws hWs tab hTab
    obtain ⟨snap, -, rfl⟩ := List.mem_map.1 hWs
    obtain ⟨tabSnap, -, rfl⟩ := List.mem_map.1 hTab
    exact List.ne_nil_of_length_pos tabSnap.layout.length_pos
  have hAliases := @aliasesOf_iff rename survives snapshot.leafLists hTabs hTab
  rw [flatten_leafLists] at hAliases
  rw [aliasesRight_iff hIds hSurvives, handoffPaneAliases_eq, hAllWorkspaces, hPanes]
  exact hAliases hSnapshot.leaves (hNames ▸ nodup_freshIds _ _)

/-- One workspace with one tab of two panes, of which the second has its runtime handed over. -/
def twoPanes : SessionSnapshot where
  workspaces := [{
    id := none
    customName := none
    worktreeSpace := none
    publicPaneNumbers := ∅
    nextPublicPaneNumber := 0
    publicTabNumbers := [1]
    nextPublicTabNumber := 0
    tabs := [plainTab (.split .horizontal (1 / 2) (.pane 1) (.pane 2))]
    activeTab := 0 }]
  active := none
  selected := 0

theorem handoffSnapshot_twoPanes : HandoffSnapshot twoPanes :=
  ⟨by decide, by decide⟩

/-- What is restored of the two panes. -/
def restoredTwoPanes (ctx : RestoreContext) : RestoredSession :=
  restoreWithImports { ctx with resumeAgentsOnRestore := true } twoPanes IdCounters.initial {2}

/-- If both panes come back, the aliases are right. -/
theorem handoff_aliasesRight_twoPanes : AliasesRight (restoredTwoPanes everythingStarts).outcomes
  (handoffPaneAliases twoPanes (restoredTwoPanes everythingStarts).workspaces) := by
  have hOk : restoreHandoff everythingStarts twoPanes IdCounters.initial {2} =
      .ok (restoredTwoPanes everythingStarts) := by
    with_unfolding_all rfl
  have hAll : ∀ outcome ∈ (restoredTwoPanes everythingStarts).outcomes,
      outcome.survived = true := by
    with_unfolding_all decide
  have hCameBack : CameBack (restoredTwoPanes everythingStarts).outcomes fun _ => true :=
    fun outcome hMem _ _ => hAll outcome hMem
  refine (handoff_aliasesRight_iff handoffSnapshot_twoPanes hOk hCameBack).2 ⟨?_, ?_, ?_⟩
  · decide
  · decide
  · decide

/-- If the first of two panes fails, its old id is recorded as an alias of the second. -/
theorem not_handoff_aliasesRight : ¬ ∀ (ctx : RestoreContext) (snapshot : SessionSnapshot)
  (ids : IdCounters) (imports : Finset Nat) (restored : RestoredSession),
    HandoffSnapshot snapshot → restoreHandoff ctx snapshot ids imports = .ok restored →
      AliasesRight restored.outcomes (handoffPaneAliases snapshot restored.workspaces) := by
  intro hAll
  have hOk : restoreHandoff firstFails twoPanes IdCounters.initial {2} =
      .ok (restoredTwoPanes firstFails) := by
    with_unfolding_all rfl
  have hRight := hAll firstFails twoPanes IdCounters.initial {2} _ handoffSnapshot_twoPanes hOk
  have hRecorded : 1 ∈ handoffPaneAliases twoPanes (restoredTwoPanes firstFails).workspaces := by
    with_unfolding_all decide
  have hLost : ∀ outcome ∈ (restoredTwoPanes firstFails).outcomes, outcome.oldId = some 1 →
      outcome.survived = false := by
    with_unfolding_all decide
  obtain ⟨outcome, hMem, hOld, hAlive⟩ := hRight.only 1 hRecorded
  rw [hLost outcome hMem hOld] at hAlive
  cases hAlive

end Persist
