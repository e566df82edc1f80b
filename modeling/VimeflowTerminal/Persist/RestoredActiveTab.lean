import VimeflowTerminal.Data.Survivors
import VimeflowTerminal.Persist.RestoredSession

/-! The saved index counts the tabs of the snapshot. Tabs without a surviving pane
are dropped, so in the restored workspace the index may count other tabs. -/

namespace Persist

open Layout Workspaces

/-- The tabs of a workspace as they are restored one after the other. -/
def tabRestorations (ctx : RestoreContext) (snap : WorkspaceSnapshot) :
  List (TabSnapshot × Nat) → RestoreState → List RestoredTab
  | [], _ => []
  | entry :: entries, st =>
    let restored := restoreTab ctx entry.1 (savedTabNumber snap entry.2) st
    restored :: tabRestorations ctx snap entries restored.state

/-- A pane of the tab has not failed to start. -/
def RestoredTab.keepsPane (restored : RestoredTab) : Bool :=
  restored.outcomes.any PaneOutcome.survived

/-- The tab around the panes that have not failed. -/
def RestoredTab.restored (restored : RestoredTab) : Option Tab := restored.tab.map Prod.fst

variable (ctx : RestoreContext) (snap : WorkspaceSnapshot)

/-- The restorations of all tabs of a workspace. -/
def workspaceRestorations (st : RestoreState) : List RestoredTab :=
  tabRestorations ctx snap snap.tabs.zipIdx (firstBuild snap st).state

theorem survivors_eq_nil {outcomes : List PaneOutcome} :
  (restoredPanes outcomes).keys = [] ↔ outcomes.any PaneOutcome.survived = false := by
  have hNone : (restoredPanes outcomes).keys = [] ↔ survivors outcomes = [] := by
    rw [List.eq_nil_iff_forall_not_mem, List.eq_nil_iff_forall_not_mem]
    exact forall_congr' fun id => not_congr (AList.mem_keys.trans mem_restoredPanes)
  rw [hNone, survivors, List.map_eq_nil_iff, List.filter_eq_nil_iff, List.any_eq_false]

/-- A tab is dropped exactly if all of its panes have failed. A tab that is restored has the
pane ids that were drawn for it. -/
theorem restoreTab_keeps (tabSnap : TabSnapshot) (number : Nat) (st : RestoreState) :
  ((restoreTab ctx tabSnap number st).keepsPane = false ∧
      (restoreTab ctx tabSnap number st).restored = none) ∨
    (restoreTab ctx tabSnap number st).keepsPane = true ∧
      ∃ tab, (restoreTab ctx tabSnap number st).restored = some tab ∧
        tab.layout.paneIds ≠ [] ∧ ∀ id ∈ tab.layout.paneIds, st.ids.nextPaneId ≤ id.raw ∧
          id.raw < (restoreTab ctx tabSnap number st).state.ids.nextPaneId := by
  have hCases := restoreTab_cases ctx tabSnap number st
  rcases hCases with ⟨hNone, hTab⟩ | ⟨tab, reverse, hTab, hRebuilt, -⟩
  · exact Or.inl ⟨survivors_eq_nil.1 hNone, congrArg (Option.map Prod.fst) hTab⟩
  have hLeaves := hRebuilt.leaves
  have hIds := (collectIds_remapInner tabSnap.layout st.ids ∅).1
  have hNext := (restoreTab_outcomes ctx tabSnap number st).2
  have hSome : tab.layout.paneIds ≠ [] := tab.layout.root.collectIds_ne_nil
  refine Or.inr ⟨?_, tab, congrArg (Option.map Prod.fst) hTab, hSome, ?_⟩
  · by_contra hNone
    have hKeys := survivors_eq_nil.2 (Bool.eq_false_iff.2 hNone)
    rw [hKeys] at hLeaves
    exact hSome (hLeaves.trans (by simp))
  · intro id hId
    rw [hLeaves] at hId
    have hFresh : id ∈ freshIds st.ids.nextPaneId tabSnap.layout.collectPaneIds.length :=
      hIds ▸ (List.mem_filter.1 hId).1
    rw [hNext]
    exact mem_freshIds.1 hFresh

theorem mem_tabRestorations {entries : List (TabSnapshot × Nat)} {st : RestoreState}
  {restored : RestoredTab} (hMem : restored ∈ tabRestorations ctx snap entries st) :
  restored.restored.isSome = restored.keepsPane := by
  induction entries generalizing st with
  | nil => cases hMem
  | cons entry entries ih =>
    rcases List.mem_cons.1 hMem with rfl | hRest
    · rcases restoreTab_keeps ctx entry.1 (savedTabNumber snap entry.2) st
        with ⟨hDead, hNone⟩ | ⟨hAlive, tab, hSome, -⟩
      · rw [hDead, hNone]
        rfl
      · rw [hAlive, hSome]
        rfl
    · exact ih hRest

/-- The tabs that are not dropped, in order. -/
theorem foldl_restoredTabs (migrated : FinMap Nat Nat) (entries : List (TabSnapshot × Nat))
  (build : WorkspaceBuild) : (entries.foldl (addRestoredTab ctx snap migrated) build).tabs =
    build.tabs ++
      ((tabRestorations ctx snap entries build.state).map RestoredTab.restored).filterMap id := by
  induction entries generalizing build with
  | nil => exact (List.append_nil _).symm
  | cons entry entries ih =>
    have hState := (addRestoredTab_state ctx snap migrated build entry).2
    have hTabs : (addRestoredTab ctx snap migrated build entry).tabs = build.tabs ++
        (restoreTab ctx entry.1 (savedTabNumber snap entry.2) build.state).restored.toList := by
      unfold addRestoredTab RestoredTab.restored
      dsimp only
      split
      case h_1 hNone =>
        rw [hNone]
        exact (List.append_nil _).symm
      case h_2 hSome =>
        rw [hSome]
        rfl
    rw [List.foldl_cons, ih, hState, hTabs, List.append_assoc]
    refine congrArg (build.tabs ++ ·) ?_
    rw [tabRestorations, List.map_cons]
    cases (restoreTab ctx entry.1 (savedTabNumber snap entry.2) build.state).restored with
    | none => rfl
    | some tab => rfl

/-- Tabs that are restored one after the other are distinct. -/
theorem nodup_restoredTabs (entries : List (TabSnapshot × Nat)) (st : RestoreState) :
  (((tabRestorations ctx snap entries st).map RestoredTab.restored).filterMap id).Nodup ∧
    ∀ tab ∈ ((tabRestorations ctx snap entries st).map RestoredTab.restored).filterMap id,
      ∀ id ∈ tab.layout.paneIds, st.ids.nextPaneId ≤ id.raw := by
  induction entries generalizing st with
  | nil => exact ⟨List.nodup_nil, fun _ hMem => nomatch hMem⟩
  | cons entry entries ih =>
    obtain ⟨hNodup, hLater⟩ :=
      ih (restoreTab ctx entry.1 (savedTabNumber snap entry.2) st).state
    have hNext := (restoreTab_outcomes ctx entry.1 (savedTabNumber snap entry.2) st).2
    rw [tabRestorations, List.map_cons]
    rcases restoreTab_keeps ctx entry.1 (savedTabNumber snap entry.2) st
      with ⟨-, hNone⟩ | ⟨-, tab, hSome, hPanes, hDrawn⟩
    · rw [hNone]
      refine ⟨hNodup, fun tab hMem id hId => ?_⟩
      have hBound := hLater tab hMem id hId
      omega
    · rw [hSome]
      refine ⟨List.nodup_cons.2 ⟨fun hMem => ?_, hNodup⟩, fun other hMem id hId => ?_⟩
      · obtain ⟨id, rest, hIds⟩ := List.exists_cons_of_ne_nil hPanes
        have hId : id ∈ tab.layout.paneIds := hIds ▸ List.mem_cons_self
        have hLow := hLater tab hMem id hId
        have hHigh := (hDrawn id hId).2
        omega
      · rcases List.mem_cons.1 hMem with rfl | hRest
        · exact (hDrawn id hId).1
        · have hBound := hLater other hRest id hId
          omega

/-- The active tab of the restored workspace is the restoration of a saved tab. -/
def ActivatesRestored (st : RestoreState) (saved : RestoredTab) : Prop :=
  ∃ ws tab, (restoreWorkspace ctx snap st).workspace = some ws ∧ saved.restored = some tab ∧
    ws.tabs[ws.activeTab]? = some tab

variable {ctx snap} {st : RestoreState} {active : RestoredTab}

/-- If the saved active tab keeps a pane, its restoration is active exactly if no tab before it
is dropped, or every tab after it. -/
theorem activatesRestored_iff
  (hActive : (workspaceRestorations ctx snap st)[snap.activeTab]? = some active)
  (hKeeps : active.keepsPane = true) :
  ActivatesRestored ctx snap st active ↔
    (∀ earlier ∈ (workspaceRestorations ctx snap st).take snap.activeTab,
      earlier.keepsPane = true) ∨
    ∀ later ∈ (workspaceRestorations ctx snap st).drop (snap.activeTab + 1),
      later.keepsPane = false := by
  have hKept : ∀ restored ∈ workspaceRestorations ctx snap st,
      restored.restored.isSome = restored.keepsPane :=
    fun restored hMem => mem_tabRestorations ctx snap hMem
  have hTabs : (lastBuild ctx snap st).tabs =
      ((workspaceRestorations ctx snap st).map RestoredTab.restored).filterMap id :=
    (foldl_restoredTabs ctx snap _ snap.tabs.zipIdx (firstBuild snap st)).trans
      (List.nil_append _)
  have hNodup : (((workspaceRestorations ctx snap st).map RestoredTab.restored).filterMap
      id).Nodup := (nodup_restoredTabs ctx snap snap.tabs.zipIdx _).1
  obtain ⟨tab, hTab⟩ : ∃ tab, active.restored = some tab := by
    rw [← Option.isSome_iff_exists, hKept active (List.mem_of_getElem? hActive), hKeeps]
  have hSlot : ((workspaceRestorations ctx snap st).map RestoredTab.restored)[snap.activeTab]? =
      some (some tab) := by
    rw [List.getElem?_map, hActive, Option.map_some, hTab]
  have hIndex := Survivors.getElem?_min_iff hSlot hNodup
  rw [← hTabs, ← List.map_take, ← List.map_drop, List.forall_mem_map, List.forall_mem_map]
    at hIndex
  have hEarlier : (∀ earlier ∈ (workspaceRestorations ctx snap st).take snap.activeTab,
      earlier.restored.isSome = true) ↔
      ∀ earlier ∈ (workspaceRestorations ctx snap st).take snap.activeTab,
        earlier.keepsPane = true :=
    forall₂_congr fun earlier hMem => by rw [hKept earlier (List.mem_of_mem_take hMem)]
  have hLater : (∀ later ∈ (workspaceRestorations ctx snap st).drop (snap.activeTab + 1),
      later.restored = none) ↔
      ∀ later ∈ (workspaceRestorations ctx snap st).drop (snap.activeTab + 1),
        later.keepsPane = false :=
    forall₂_congr fun later hMem => by
      rw [← hKept later (List.mem_of_mem_drop hMem), Option.isSome_eq_false_iff,
        Option.isNone_iff_eq_none]
  rw [← hEarlier, ← hLater, ← hIndex]
  have hMem : tab ∈ (lastBuild ctx snap st).tabs := by
    rw [hTabs, List.mem_filterMap]
    exact ⟨some tab, List.mem_of_getElem? hSlot, rfl⟩
  have hWorkspace : (restoreWorkspace ctx snap st).workspace = some (builtWorkspace ctx snap st) := by
    rw [restoreWorkspace_eq]
    refine if_neg fun hEmpty => ?_
    rw [List.isEmpty_iff.1 hEmpty] at hMem
    cases hMem
  unfold ActivatesRestored
  rw [hWorkspace, hTab]
  constructor
  · rintro ⟨ws, other, hWs, hOther, hAt⟩
    cases hWs
    cases hOther
    exact hAt
  · exact fun hAt => ⟨_, _, rfl, rfl, hAt⟩

/-- The runtime of the first pane that is restored fails to start. -/
def firstFails : RestoreContext where
  resumeAgentsOnRestore := false
  starts := fun id => id.raw ≠ 1
  now := fun _ => 0
  checkoutExists := fun _ => true

/-- Three tabs of one pane each, of which the second is active. -/
def threeTabs : WorkspaceSnapshot where
  id := none
  customName := none
  worktreeSpace := none
  publicPaneNumbers := ∅
  nextPublicPaneNumber := 0
  publicTabNumbers := [1, 2, 3]
  nextPublicTabNumber := 0
  tabs := [plainTab (.pane 1), plainTab (.pane 2), plainTab (.pane 3)]
  activeTab := 1

theorem activatesRestored_iff_threeTabs : ∃ active,
  (workspaceRestorations everythingStarts threeTabs
      ⟨IdCounters.initial, ∅, ∅, 0⟩)[threeTabs.activeTab]? = some active ∧
    ActivatesRestored everythingStarts threeTabs ⟨IdCounters.initial, ∅, ∅, 0⟩ active := by
  refine ⟨_, rfl, ?_⟩
  refine (activatesRestored_iff rfl ?_).2 (Or.inl ?_)
  · with_unfolding_all decide
  · with_unfolding_all decide

/-- When the first of three panes fails, the third tab is active instead of the second. -/
theorem not_activatesRestored : ¬ ∀ (ctx : RestoreContext) (snap : WorkspaceSnapshot)
  (st : RestoreState) (active : RestoredTab),
    (workspaceRestorations ctx snap st)[snap.activeTab]? = some active →
      active.keepsPane = true → ActivatesRestored ctx snap st active := by
  intro hAll
  obtain ⟨ws, tab, hWs, hTab, hAt⟩ := hAll firstFails threeTabs
    ⟨IdCounters.initial, ∅, ∅, 0⟩ _ rfl (by with_unfolding_all decide)
  have hSecond : ((workspaceRestorations firstFails threeTabs
      ⟨IdCounters.initial, ∅, ∅, 0⟩)[threeTabs.activeTab]?.bind RestoredTab.restored).map
        (·.number) = some 2 := by
    with_unfolding_all decide
  have hThird : (((restoreWorkspace firstFails threeTabs
      ⟨IdCounters.initial, ∅, ∅, 0⟩).workspace.bind fun ws => ws.tabs[ws.activeTab]?).map
        (·.number)) = some 3 := by
    with_unfolding_all decide
  have hTwo : (some tab).map (·.number) = some 2 := hTab ▸ hSecond
  rw [hWs, Option.bind_some, hAt, hTwo] at hThird
  cases hThird

end Persist
