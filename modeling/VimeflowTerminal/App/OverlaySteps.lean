import VimeflowTerminal.App.Intact
import VimeflowTerminal.App.Overlays

/-! Every operation keeps the tree intact and parts no panes of one tab, so that the pane focused
before an overlay stays with the overlay. -/

namespace App

open Layout Workspaces Terminal Transition Workspace App.Tree AppState

namespace Tree

variable {t t' : Tree}

variable {idx : Nat} {ws : Workspace}

section

variable (h : t.Intact)
include h

theorem evolves_putWorkspace {ws' : Workspace} {ids : IdCounters}
  (hAt : t.workspaces[idx]? = some ws)
  (hReworked : ws.Reworked ws' t.ids.nextPaneId ids.nextPaneId)
  (hAllocates : Allocates t.ids ids) : Evolves t (t.putWorkspace idx ws' ids) :=
  h.evolves_set hAt hReworked hAllocates rfl

theorem evolves_reworked {ws' : Workspace} (hAt : t.workspaces[idx]? = some ws)
  (hReworked : ws.Reworked ws' t.ids.nextPaneId t.ids.nextPaneId) (hIds : t'.ids = t.ids)
  (hWorkspaces : t'.workspaces = t.workspaces.set idx ws') : Evolves t t' := by
  refine h.evolves_set hAt ?_ ⟨Nat.le_of_eq (by rw [hIds]), by rw [hIds]⟩ hWorkspaces
  rw [hIds]
  exact hReworked

theorem evolves_switchWorkspaceTab (wsIdx tabIdx : Nat) :
  Evolves t (t.switchWorkspaceTab wsIdx tabIdx) := by
  unfold switchWorkspaceTab
  split
  · exact .refl h
  next ws hAt =>
    obtain ⟨⟨_, hWell⟩, hInhabited⟩ := h.wellFormed_at hAt
    split
    · exact .refl h
    · exact evolves_reworked h hAt (switchTab_reworked hWell hInhabited tabIdx) rfl rfl

theorem evolves_switchWorkspace (idx : Nat) : Evolves t (t.switchWorkspace idx) := by
  unfold switchWorkspace
  split
  · exact .refl h
  next ws hAt =>
    obtain ⟨⟨_, hWell⟩, hInhabited⟩ := h.wellFormed_at hAt
    exact evolves_reworked h hAt (switchTab_reworked hWell hInhabited _) rfl rfl

theorem evolves_updateWorkspace (wsIdx : Nat) {update : Workspace → Workspace}
  (hUpdate : ∀ ws, t.workspaces[wsIdx]? = some ws →
    ws.Reworked (update ws) t.ids.nextPaneId t.ids.nextPaneId) :
  Evolves t (t.updateWorkspace wsIdx update) := by
  unfold updateWorkspace
  split
  · exact .refl h
  next ws hAt => exact evolves_reworked h hAt (hUpdate ws hAt) rfl rfl

theorem evolves_updateTab (wsIdx tabIdx : Nat) {update : Tab → Tab}
  (hUpdate : ∀ tab : Tab, tab.WellFormed → tab.Rearranged (update tab)) :
  Evolves t (t.updateTab wsIdx tabIdx update) := by
  refine evolves_updateWorkspace h wsIdx fun ws hAt => ?_
  obtain ⟨⟨_, hWell⟩, hInhabited⟩ := h.wellFormed_at hAt
  unfold Workspace.updateTab
  split
  · exact .refl hWell hInhabited
  next tab hTab =>
    exact setTab_reworked hWell hTab
      (hUpdate tab (hWell.tabs.each tab (List.mem_of_getElem? hTab)))

end

theorem updateTab_putWorkspace (hAt : t.workspaces[idx]? = some ws) (ws' : Workspace)
  (ids : IdCounters) (tabIdx : Nat) (update : Tab → Tab) :
  (t.putWorkspace idx ws' ids).updateTab idx tabIdx update =
    t.putWorkspace idx (ws'.updateTab tabIdx update) ids := by
  have hPut : (t.workspaces.set idx ws')[idx]? = some ws' :=
    List.getElem?_set_self (List.getElem?_eq_some_iff.1 hAt).1
  unfold updateTab updateWorkspace putWorkspace
  simp only [hPut, List.set_set]

theorem evolves_reordered (h : t.Intact) {workspaces : List Workspace}
  (hPerm : workspaces.Perm t.workspaces) : Evolves t (t.reordered workspaces) :=
  h.evolves_subperm hPerm.subperm rfl

theorem evolves_moveWorkspace (h : t.Intact) (sourceIdx insertIdx : Nat) :
  Evolves t (t.moveWorkspace sourceIdx insertIdx).1 := by
  unfold moveWorkspace
  split
  · exact .refl h
  next ws hAt =>
    split
    · exact .refl h
    next hInsert =>
      extract_lets targetIdx
      split
      · exact .refl h
      refine evolves_reordered h (Pieces.move_perm hAt ?_)
      obtain ⟨hSource, -⟩ := List.getElem?_eq_some_iff.1 hAt
      have hErased := List.length_eraseIdx_of_lt hSource
      unfold targetIdx
      split <;> omega

theorem evolves_moveWorkspaceBlock (h : t.Intact) (workspaceIds : List String)
  (before : Option String) : Evolves t (t.moveWorkspaceBlock workspaceIds before).1 := by
  unfold moveWorkspaceBlock
  split
  · exact .refl h
  dsimp only
  split
  · exact .refl h
  · exact evolves_reordered h (List.perm_insertionSort _ _)

theorem removeWorkspaces_sublist (t : Tree) (indices : List Nat) :
  (t.removeWorkspaces indices).Sublist t.workspaces := by
  refine List.foldlRecOn (motive := fun rest : List Workspace => rest.Sublist t.workspaces) _ _
    (List.Sublist.refl _) fun rest hKept idx _ => ?_
  exact (List.eraseIdx_sublist _ _).trans hKept

theorem settleAfterClose_same (t : Tree) (activeId : Option String) :
  (t.settleAfterClose activeId).workspaces = t.workspaces ∧
    (t.settleAfterClose activeId).ids = t.ids := by
  unfold settleAfterClose
  split
  · exact ⟨rfl, rfl⟩
  · exact ⟨rfl, rfl⟩

theorem evolves_closeSelectedWorkspace (h : t.Intact) : Evolves t t.closeSelectedWorkspace := by
  unfold closeSelectedWorkspace
  split
  · exact .refl h
  have hRest : Evolves t { t with workspaces := t.removeWorkspaces t.closeIndices } :=
    h.evolves_subperm (t.removeWorkspaces_sublist t.closeIndices).subperm rfl
  exact hRest.congr (settleAfterClose_same _ _).1 (settleAfterClose_same _ _).2

theorem settleAfterPaneDied_same (t : Tree) (activeId selectedId : Option String) :
  (t.settleAfterPaneDied activeId selectedId).workspaces = t.workspaces ∧
    (t.settleAfterPaneDied activeId selectedId).ids = t.ids := by
  unfold settleAfterPaneDied
  split
  · exact ⟨rfl, rfl⟩
  · exact ⟨rfl, rfl⟩

theorem evolves_paneDied (h : t.Intact) (paneId : PaneId) : Evolves t (t.paneDied paneId) := by
  unfold paneDied
  split
  · exact .refl h
  next wsIdx _ =>
    split
    · exact .refl h
    next ws hAt =>
      obtain ⟨⟨_, hWell⟩, hInhabited⟩ := h.wellFormed_at hAt
      dsimp only
      split
      · have hErased : Evolves t { t with
            workspaces := (t.workspaces.set wsIdx (ws.removePane paneId).1).eraseIdx wsIdx } := by
          refine h.evolves_subperm ?_ rfl
          rw [List.eraseIdx_set_eq]
          exact (List.eraseIdx_sublist _ _).subperm
        exact hErased.congr (settleAfterPaneDied_same _ _ _).1 (settleAfterPaneDied_same _ _ _).2
      · exact evolves_reworked h hAt
          (removePaneWith_reworked hWell hInhabited paneId) rfl rfl

theorem rearranged_restoredTab (overlay : OverlayPaneState) {tab : Tab} (h : tab.WellFormed) :
  tab.Rearranged (overlay.restoredTab tab) := by
  unfold OverlayPaneState.restoredTab
  split
  · have hFocused := h.focusPane overlay.previousFocus
    exact ⟨⟨hFocused.layout, hFocused.panes, hFocused.root⟩, rfl, rfl⟩
  · exact ⟨⟨h.layout, h.panes, h.root⟩, rfl, rfl⟩

theorem rearranged_zoomed {tab : Tab} (h : tab.WellFormed) (zoomed : Bool) :
  tab.Rearranged { tab with zoomed } :=
  ⟨⟨h.layout, h.panes, h.root⟩, rfl, rfl⟩

theorem evolves_restoreOverlayAfterExit (h : t.Intact) (overlay : OverlayPaneState)
  (wasActive wasFocused : Bool) (zoomedBefore : Option Bool) :
  Evolves t (t.restoreOverlayAfterExit overlay wasActive wasFocused zoomedBefore) := by
  unfold restoreOverlayAfterExit
  split
  · exact .refl h
  next ws hAt =>
    obtain ⟨⟨_, hWell⟩, hInhabited⟩ := h.wellFormed_at hAt
    split
    · exact .refl h
    next hTab =>
      split
      · split
        · exact .refl h
        next zoomed => exact evolves_updateTab h _ _ fun _ hTab => rearranged_zoomed hTab zoomed
      · have hActive : Evolves t (if wasActive then
            t.updateWorkspace overlay.wsIdx fun ws => { ws with activeTab := overlay.tabIdx }
            else t) := by
          split
          · refine evolves_updateWorkspace h _ fun other hOther => ?_
            rw [hAt] at hOther
            cases hOther
            exact setActiveTab_reworked hWell (Nat.lt_of_not_le hTab)
          · exact .refl h
        exact hActive.trans h (evolves_updateTab hActive.intact _ _
          fun _ hTab => rearranged_restoredTab overlay hTab)

end Tree

namespace AppState

variable {s : AppState} {t : Tree}

/-! ## The tree behind the state -/

section

variable (s : AppState)

@[simp] theorem toTree_recordPaneFocusChange (previous : Option PaneFocusTarget)
  (wsIdx : Nat) (paneId : PaneId) :
  (s.recordPaneFocusChange previous wsIdx paneId).toTree = s.toTree := by
  unfold recordPaneFocusChange
  split
  · rfl
  · split <;> rfl

theorem toTree_recordPaneFocusAfterNavigation (previous : Option PaneFocusTarget) :
  (s.recordPaneFocusAfterNavigation previous).toTree = s.toTree := by
  unfold recordPaneFocusAfterNavigation
  split <;> rfl

@[simp] theorem toTree_switchWorkspaceTab (wsIdx tabIdx : Nat) :
  (s.switchWorkspaceTab wsIdx tabIdx).toTree = s.toTree.switchWorkspaceTab wsIdx tabIdx := by
  unfold switchWorkspaceTab
  split
  next hNone => rw [Tree.switchWorkspaceTab, hNone]
  next ws hAt =>
    split
    next hTab => simp only [Tree.switchWorkspaceTab, hAt, if_pos hTab]
    · exact toTree_recordPaneFocusAfterNavigation _ _

@[simp] theorem toTree_switchWorkspace (idx : Nat) :
  (s.switchWorkspace idx).toTree = s.toTree.switchWorkspace idx := by
  unfold switchWorkspace
  split
  · exact toTree_recordPaneFocusAfterNavigation _ _
  next hNone =>
    have hAt : s.workspaces[idx]? = none := List.getElem?_eq_none (Nat.le_of_not_lt hNone)
    rw [Tree.switchWorkspace, hAt]

@[simp] theorem toTree_removePluginPaneRecords (paneIds : List PaneId) :
  (s.removePluginPaneRecords paneIds).toTree = s.toTree := by
  unfold removePluginPaneRecords
  dsimp only
  split
  · rfl
  · split <;> rfl

@[simp] theorem toTree_closeSelectedWorkspace :
  s.closeSelectedWorkspace.toTree = s.toTree.closeSelectedWorkspace := by
  unfold closeSelectedWorkspace
  split
  next hEmpty => rw [Tree.closeSelectedWorkspace, if_pos hEmpty]
  · rfl

@[simp] theorem toTree_handlePaneDied (paneId : PaneId) :
  (s.handlePaneDied paneId).toTree = s.toTree.paneDied paneId := by
  have hSame := toTree_removePluginPaneRecords (s := { s with
    pendingAgentNotifications := s.pendingAgentNotifications.erase paneId }) [paneId]
  unfold handlePaneDied
  dsimp only at hSame ⊢
  generalize AppState.removePluginPaneRecords _ _ = s' at hSame ⊢
  split
  next hNone => rw [paneDied, ← hSame, hNone]
  · exact congrArg (fun t : Tree => t.paneDied paneId) hSame

@[simp] theorem toTree_restoreOverlayAfterExit (overlay : OverlayPaneState)
  (wasActive wasFocused : Bool) (zoomedBefore : Option Bool) :
  (s.restoreOverlayAfterExit overlay wasActive wasFocused zoomedBefore).toTree =
    s.toTree.restoreOverlayAfterExit overlay wasActive wasFocused zoomedBefore := by
  unfold restoreOverlayAfterExit
  split <;> rfl

end

theorem evolves_insertTerminal (h : t.Evolves s.toTree) (newPane : NewPane) :
  t.Evolves (s.insertTerminal newPane).toTree := h.congr rfl rfl

/-! ## The operations on the state -/

variable (h : s.toTree.Intact)

include h

theorem evolves_createWorkspace (focus spawned : Bool) :
  s.toTree.Evolves (s.createWorkspaceWithLaunchEnv focus spawned).toTree := by
  obtain ⟨hPanes, hIds⟩ := newWithTab_ids spawned s.ids
  unfold createWorkspaceWithLaunchEnv
  split
  next ids hNew =>
    rw [hNew] at hPanes hIds
    exact h.evolves_ids rfl (Nat.le_of_succ_le (Nat.le_of_eq hPanes.symm))
      (Nat.le_of_succ_le (Nat.le_of_eq hIds.symm))
  next ids ws newPane hNew =>
    rw [hNew] at hPanes hIds
    obtain ⟨hWell, hInhabited, hIn, hId⟩ := newWithTab_spec hNew
    have hAppended : s.toTree.Evolves
        { s.toTree with ids, workspaces := s.workspaces ++ [ws] } := by
      refine h.evolves_append hWell hInhabited ?_ ?_ hId hIds rfl
      · intro id hMem
        rw [hIn, List.mem_singleton] at hMem
        rw [hMem, hPanes]
        exact ⟨Nat.le_refl _, Nat.lt_succ_self _⟩
      · rw [hPanes]
        exact Nat.le_succ _
    have hCreated := @evolves_insertTerminal
      (s.withTree { s.toTree with ids, workspaces := s.workspaces ++ [ws] }) _ hAppended newPane
    split
    · refine hCreated.trans h ?_
      rw [toTree_switchWorkspace]
      exact evolves_switchWorkspace hCreated.intact _
    · exact hCreated

variable {wsIdx : Nat}

theorem evolves_putWorkspace {ws ws' : Workspace} {ids : IdCounters}
  (hAt : s.workspaces[wsIdx]? = some ws)
  (hReworked : ws.Reworked ws' s.ids.nextPaneId ids.nextPaneId ∧ Allocates s.ids ids) :
  s.toTree.Evolves (s.putWorkspace wsIdx ws' ids) :=
  Tree.evolves_putWorkspace h hAt hReworked.1 hReworked.2

theorem evolves_createTab {label : Option String} {focus spawned : Bool} {s' : AppState}
  (hCreate : s.createTab wsIdx label focus spawned = some s') :
  s.toTree.Evolves s'.toTree := by
  unfold createTab at hCreate
  split at hCreate
  · cases hCreate
    exact .refl h
  next ws hAt =>
    obtain ⟨⟨_, hWell⟩, hInhabited⟩ := h.wellFormed_at hAt
    obtain ⟨⟨ids, made, outcome⟩, hMade, hRest⟩ := Option.map_eq_some_iff.1 hCreate
    have hPut := evolves_putWorkspace h hAt (createTab_reworked hWell hInhabited
      (h.fresh_workspace (List.mem_of_getElem? hAt)) hMade)
    cases outcome with
    | none =>
      cases hRest
      exact hPut
    | some created =>
      obtain ⟨tabIdx, newPane⟩ := created
      have hNamed : s.toTree.Evolves (s.putWorkspace wsIdx (label.elim made fun label =>
          made.updateTab tabIdx (·.setCustomName label)) ids) := by
        cases label with
        | none => exact hPut
        | some label =>
          rw [Option.elim_some, ← updateTab_putWorkspace hAt]
          refine hPut.trans h
            (evolves_updateTab hPut.intact wsIdx tabIdx fun tab hTab => ?_)
          exact ⟨⟨hTab.layout, hTab.panes, hTab.root⟩, rfl, rfl⟩
      have hCreated := @evolves_insertTerminal (s.withTree _) _ hNamed newPane
      rw [← hRest]
      dsimp only
      split
      · refine hCreated.trans h ?_
        rw [toTree_switchWorkspaceTab]
        exact evolves_switchWorkspaceTab hCreated.intact _ _
      · exact hCreated

theorem evolves_confirm {s' : AppState} {deferred : Bool}
  (hConfirm : s.confirmImplicitWorktreeGroupClose wsIdx = (s', deferred)) :
  s.toTree.Evolves s'.toTree ∧ s'.workspaces = s.workspaces := by
  unfold confirmImplicitWorktreeGroupClose at hConfirm
  split at hConfirm
  · cases hConfirm
    exact ⟨(Evolves.refl h).congr rfl rfl, rfl⟩
  · cases hConfirm
    exact ⟨.refl h, rfl⟩

theorem evolves_selectAndClose (wsIdx : Nat) :
  s.toTree.Evolves (s.selectWorkspace wsIdx).closeSelectedWorkspace.toTree := by
  rw [toTree_closeSelectedWorkspace]
  have hSelected : s.toTree.Evolves (s.selectWorkspace wsIdx).toTree :=
    (Evolves.refl h).congr rfl rfl
  exact hSelected.trans h (evolves_closeSelectedWorkspace hSelected.intact)

theorem evolves_closeWorkspace (wsIdx : Nat) :
  s.toTree.Evolves (s.closeWorkspace wsIdx).toTree := by
  unfold closeWorkspace
  split
  · exact .refl h
  · rw [toTree_removePluginPaneRecords]
    exact evolves_selectAndClose h wsIdx

theorem evolves_closeTab (wsIdx tabIdx : Nat) :
  s.toTree.Evolves (s.closeTab wsIdx tabIdx).toTree := by
  unfold closeTab
  split
  · exact .refl h
  next ws hAt =>
    obtain ⟨⟨_, hWell⟩, hInhabited⟩ := h.wellFormed_at hAt
    split
    · exact .refl h
    split
    · split
      next hConfirm => exact (evolves_confirm h hConfirm).1
      next hConfirm =>
        have hAsked := (evolves_confirm h hConfirm).1
        rw [toTree_removePluginPaneRecords]
        exact hAsked.trans h (evolves_selectAndClose hAsked.intact wsIdx)
    · rw [toTree_removePluginPaneRecords]
      have hClosed : s.toTree.Evolves (s.putWorkspace wsIdx (ws.closeTab tabIdx).1 s.ids) :=
        evolves_reworked h hAt (closeTab_reworked hWell hInhabited tabIdx) rfl rfl
      exact hClosed.congr rfl rfl

theorem evolves_closePane (wsIdx : Nat) (paneId : PaneId) :
  s.toTree.Evolves (s.closePane wsIdx paneId).toTree := by
  unfold closePane
  split
  next s' deferred hAsked =>
    have hConfirmed : s.toTree.Evolves s'.toTree := by
      split at hAsked
      · exact (evolves_confirm h hAsked).1
      · cases hAsked
        exact .refl h
    split
    · exact hConfirmed
    split
    · exact hConfirmed
    next ws hAt =>
      obtain ⟨⟨_, hWell⟩, hInhabited⟩ := hConfirmed.intact.wellFormed_at hAt
      have hPut : s'.toTree.Evolves (s'.putWorkspace wsIdx (ws.closePane paneId).1 s'.ids) :=
        evolves_reworked hConfirmed.intact hAt
          (removePaneWith_reworked hWell hInhabited paneId) rfl rfl
      dsimp only
      generalize hClosed : (s'.withTree (s'.putWorkspace wsIdx (ws.closePane paneId).1
        s'.ids)).removePluginPaneRecords [paneId] = closed
      have hTree : s.toTree.Evolves closed.toTree := by
        rw [← hClosed, toTree_removePluginPaneRecords]
        exact hConfirmed.trans h hPut
      split
      · exact hTree.trans h (evolves_selectAndClose hTree.intact wsIdx)
      · exact hTree.congr rfl rfl

theorem evolves_split {ws ws' : Workspace} {paneId : PaneId} {direction : Direction}
  {ratio : Option (Option ℚ)} {focus spawned : Bool} {ids : IdCounters}
  {outcome : Option (Option (Nat × NewPane))} (hAt : s.workspaces[wsIdx]? = some ws)
  (hSplit : ws.splitPaneWithRuntime paneId direction ratio focus spawned s.ids =
    (ids, ws', outcome)) : s.toTree.Evolves (s.putWorkspace wsIdx ws' ids) := by
  obtain ⟨⟨_, hWell⟩, hInhabited⟩ := h.wellFormed_at hAt
  exact evolves_putWorkspace h hAt (split_reworked hWell hInhabited
    (h.fresh_workspace (List.mem_of_getElem? hAt)) hSplit)

theorem evolves_splitPane (wsIdx : Nat) (paneId : PaneId) (direction : Direction)
  (ratio : Option (Option ℚ)) (focus spawned : Bool) :
  s.toTree.Evolves (s.splitPane wsIdx paneId direction ratio focus spawned).toTree := by
  unfold splitPane
  split
  · exact .refl h
  next ws hAt =>
    split
    next ids ws' tabIdx newPane hSplit =>
      have hPut := evolves_split h hAt hSplit
      refine evolves_insertTerminal ?_ newPane
      split
      · show Evolves _ (recordPaneFocusChange _ _ _ _).toTree
        rw [toTree_recordPaneFocusChange, toTree_switchWorkspaceTab]
        exact hPut.trans h (evolves_switchWorkspaceTab hPut.intact _ _)
      · exact hPut
    next ids ws' outcome _ hSplit => exact evolves_split h hAt hSplit

theorem evolves_focusPaneInWorkspace (wsIdx : Nat) (paneId : PaneId) :
  s.toTree.Evolves (s.focusPaneInWorkspace wsIdx paneId).toTree := by
  unfold focusPaneInWorkspace
  split
  · exact .refl h
  split
  · exact .refl h
  next tabIdx _ =>
    dsimp only
    split
    · exact .refl h
    have hSwitched := evolves_switchWorkspaceTab h wsIdx tabIdx
    rw [← toTree_switchWorkspaceTab] at hSwitched
    exact hSwitched.trans h (evolves_updateTab hSwitched.intact wsIdx tabIdx
      fun tab hTab => ⟨hTab.focusPane paneId, rfl, rfl⟩)

theorem evolves_applyPaneZoom (wsIdx : Nat) (paneId : PaneId) (command : PaneZoomCommand) :
  s.toTree.Evolves (s.applyPaneZoom wsIdx paneId command).toTree := by
  unfold applyPaneZoom
  split
  · exact .refl h
  next tabIdx _ =>
    have hFocused := evolves_focusPaneInWorkspace h wsIdx paneId
    refine hFocused.trans h (evolves_updateTab hFocused.intact wsIdx tabIdx
      fun tab hTab => ?_)
    split
    · exact ⟨hTab, rfl, rfl⟩
    · exact rearranged_zoomed hTab _

end AppState

/-! ## Records of overlays -/

/-- The pane of an overlay and the one focused before, if both are alive, are in one tab. -/
structure Tree.Recorded (t : Tree) (paneId : PaneId) (overlay : OverlayPaneState) : Prop where
  allocated : paneId.raw < t.ids.nextPaneId ∧ overlay.previousFocus.raw < t.ids.nextPaneId
  distinct : overlay.previousFocus ≠ paneId
  together : ∀ tab ∈ t.tabs, paneId ∈ tab.panes → overlay.previousFocus ∈ t.paneIds →
    overlay.previousFocus ∈ tab.panes

theorem Tree.Evolves.recorded {t t' : Tree} (hEvolves : t.Evolves t')
  {paneId : PaneId} {overlay : OverlayPaneState} (hRecorded : t.Recorded paneId overlay) :
  t'.Recorded paneId overlay := by
  obtain ⟨⟨hPane, hFocus⟩, hDistinct, hTogether⟩ := hRecorded
  refine ⟨⟨Nat.lt_of_lt_of_le hPane hEvolves.grows, Nat.lt_of_lt_of_le hFocus hEvolves.grows⟩,
    hDistinct, ?_⟩
  have hOld : ∀ id ∈ t'.paneIds, id.raw < t.ids.nextPaneId → id ∈ t.paneIds := fun id hMem hBelow =>
    (hEvolves.panes id hMem).resolve_right (Nat.not_le.2 hBelow)
  intro tab' hTab' hPaneIn hAlive
  have hPaneAlive : paneId ∈ t'.paneIds := mem_paneIds.2 ⟨tab', hTab', hPaneIn⟩
  obtain ⟨tab, hTab, hIn⟩ := mem_paneIds.1 (hOld paneId hPaneAlive hPane)
  have hFocusIn := hTogether tab hTab hIn (hOld _ hAlive hFocus)
  obtain ⟨kept, hKept, hKeptPane, hRest⟩ := hEvolves.carried tab hTab paneId hIn hPaneAlive
  have hSame := hEvolves.intact.tab_unique hKept hTab' hKeptPane hPaneIn
  exact hSame ▸ hRest _ hFocusIn hAlive

namespace AppState

variable {s : AppState}

variable {wsIdx : Nat} {ws ws' : Workspace} {tab : Tab} {direction : Direction}
  {ratio : Option (Option ℚ)} {spawned : Bool} {ids : IdCounters}

theorem activeTab?_some (h : s.toTree.Intact) (hActive : s.activeTab? = some (wsIdx, ws, tab)) :
  s.workspaces[wsIdx]? = some ws ∧ ws.tabs[ws.activeTab]? = some tab ∧
    (∃ away, ws.WellFormed away) ∧ tab.layout.focused ∈ ws.paneIds := by
  obtain ⟨idx, -, hRest⟩ := Option.bind_eq_some_iff.1 hActive
  obtain ⟨other, hWs, hLast⟩ := Option.bind_eq_some_iff.1 hRest
  obtain ⟨found, hTab, hEq⟩ := Option.bind_eq_some_iff.1 hLast
  cases hEq
  obtain ⟨hWell, -⟩ := h.wellFormed_at hWs
  have hMem := List.mem_of_getElem? hTab
  have hTabWell := hWell.choose_spec.tabs.each tab hMem
  exact ⟨hWs, hTab, hWell, mem_paneIds.2
    ⟨tab, hMem, (hTabWell.panes _).1 hTabWell.layout.focus⟩⟩

/-- What opening an overlay does: the tree evolves, and the record, if one is made, is right. -/
def Opens (s : AppState) (opened : AppState × Option (PaneId × OverlayPaneState)) : Prop :=
  s.toTree.Evolves opened.1.toTree ∧
    ∀ overlay ∈ opened.2, opened.1.Recorded overlay.1 overlay.2

/-- The new pane stands in the tab of the pane that was split. -/
theorem recorded_split (h : s.toTree.Intact) {tabIdx : Nat} {focus : Bool} {newPane : NewPane}
  {overlay : OverlayPaneState} (hAt : s.workspaces[wsIdx]? = some ws)
  (hFocus : overlay.previousFocus ∈ ws.paneIds)
  (hSplit : ws.splitPaneWithRuntime overlay.previousFocus direction ratio focus spawned s.ids =
    (ids, ws', some (some (tabIdx, newPane)))) :
  (s.putWorkspace wsIdx ws' ids).Recorded newPane.paneId overlay := by
  have hEvolves := evolves_split h hAt hSplit
  obtain ⟨hId, hNext, tab, hTab, hNew, hOld⟩ := split_opened hSplit
  have hBelow : overlay.previousFocus.raw < s.ids.nextPaneId :=
    h.allocated _ (List.mem_flatMap.2 ⟨ws, List.mem_of_getElem? hAt, hFocus⟩)
  have hPut : ws' ∈ (s.putWorkspace wsIdx ws' ids).workspaces :=
    List.mem_of_getElem? (List.getElem?_set_self (List.getElem?_eq_some_iff.1 hAt).1)
  refine ⟨⟨?_, Nat.lt_of_lt_of_le hBelow hEvolves.grows⟩, ?_, ?_⟩
  · show newPane.paneId.raw < ids.nextPaneId
    rw [hId, hNext]
    exact Nat.lt_succ_self _
  · intro hEq
    rw [hEq, hId] at hBelow
    exact Nat.lt_irrefl _ hBelow
  · intro tab' hTab' hIn _
    have hSame := hEvolves.intact.tab_unique
      (mem_tabs.2 ⟨ws', hPut, List.mem_of_getElem? hTab⟩) hTab' hNew hIn
    exact hSame ▸ hOld

theorem opens_of_split (h : s.toTree.Intact) {tabIdx : Nat} {focus : Bool} {newPane : NewPane}
  {overlay : OverlayPaneState} {opened : AppState} (hAt : s.workspaces[wsIdx]? = some ws)
  (hFocus : overlay.previousFocus ∈ ws.paneIds)
  (hSplit : ws.splitPaneWithRuntime overlay.previousFocus direction ratio focus spawned s.ids =
    (ids, ws', some (some (tabIdx, newPane))))
  (hOpened : (s.putWorkspace wsIdx ws' ids).Evolves opened.toTree) :
  s.Opens (opened, some (newPane.paneId, overlay)) := by
  refine ⟨(evolves_split h hAt hSplit).trans h hOpened, fun _ hMem => ?_⟩
  cases hMem
  exact hOpened.recorded (recorded_split h hAt hFocus hSplit)

theorem opens_spawnOverlayArgvCommand (h : s.toTree.Intact) (spawned : Bool) :
  s.Opens (s.spawnOverlayArgvCommand spawned) := by
  unfold spawnOverlayArgvCommand
  split
  · exact ⟨.refl h, fun _ hNone => absurd hNone (Option.not_mem_none _)⟩
  next wsIdx ws tab hActive =>
    obtain ⟨hAt, hTab, ⟨_, hWell⟩, hFocus⟩ := activeTab?_some h hActive
    dsimp only
    split
    next ids ws' tabIdx newPane hSplit =>
      have hPut := evolves_split h hAt hSplit
      have hZoomed := evolves_updateTab hPut.intact wsIdx tabIdx
        fun tab hTab => rearranged_zoomed hTab true
      rw [updateTab_putWorkspace hAt] at hZoomed
      have hSwitched := hZoomed.trans hPut.intact
        (evolves_switchWorkspaceTab hZoomed.intact wsIdx tabIdx)
      refine opens_of_split h hAt hFocus hSplit (evolves_insertTerminal ?_ newPane)
      rw [toTree_switchWorkspaceTab, toTree_recordPaneFocusChange]
      exact hSwitched
    next ids ws' outcome _ hSplit =>
      exact ⟨evolves_split h hAt hSplit, fun _ hNone => absurd hNone (Option.not_mem_none _)⟩

theorem focusPane_splitFailed {tab' : Tab} {ids' : IdCounters}
  (hFailed : tab.splitFocusedWithRuntime direction ratio spawned ids = (ids', tab', none)) :
  tab'.focusPane tab.layout.focused = tab' := by
  have hTwice : ∀ (layout : TileLayout) (id : PaneId),
      (layout.focusPane id).focusPane id = layout.focusPane id := by
    intro layout id
    by_cases hMem : id ∈ layout.paneIds
    · have hAgain := hMem
      rw [← TileLayout.paneIds_focusPane layout id] at hAgain
      rw [TileLayout.focusPane, if_pos hAgain, TileLayout.focusPane, if_pos hMem]
    · have hSame : layout.focusPane id = layout := if_neg hMem
      rw [hSame, hSame]
  unfold Tab.splitFocusedWithRuntime at hFailed
  dsimp only at hFailed
  split at hFailed
  · cases hFailed
  · cases hFailed
    simp only [Tab.focusPane, hTwice]

/-- Splitting the focused pane of the active tab is splitting that pane. -/
theorem splitFocusedCommand_split {away : List PaneId} (h : ws.WellFormed away)
  (hTab : ws.tabs[ws.activeTab]? = some tab) {ids' : IdCounters} {outcome : Option NewPane}
  (hSplit : ws.splitFocusedCommand direction spawned ids = (ids', ws', outcome)) :
  ws.splitPaneWithRuntime tab.layout.focused direction none true spawned ids =
    (ids', ws', some (outcome.map fun newPane => (ws.activeTab, newPane))) := by
  have hTabWell := h.tabs.each tab (List.mem_of_getElem? hTab)
  have hFound := findTabForPane_at h hTab ((hTabWell.panes _).1 hTabWell.layout.focus)
  have hSelf : tab.focusPane tab.layout.focused = tab := by
    have hLayout : tab.layout.focusPane tab.layout.focused = tab.layout :=
      if_pos hTabWell.layout.focus
    rw [Tab.focusPane, hLayout]
  unfold Workspace.splitFocusedCommand Workspace.activeTab? at hSplit
  unfold splitPaneWithRuntime
  have hFound' : ws.findTabForPane tab.layout.focused = some (ws.activeTab, tab) := hFound
  simp only [hTab] at hSplit
  simp only [hFound', hSelf]
  generalize hRun : tab.splitFocusedWithRuntime direction none spawned ids = run at hSplit ⊢
  obtain ⟨ids, tab', newPane⟩ := run
  cases newPane with
  | none =>
    cases hSplit
    simp only [focusPane_splitFailed hRun, Option.map_none]
  | some newPane =>
    cases hSplit
    simp only [if_true, Option.map_some]

theorem opens_spawnPaneCommand (h : s.toTree.Intact) (spawned : Bool) :
  s.Opens (s.spawnPaneCommand spawned) := by
  unfold spawnPaneCommand
  split
  · exact ⟨.refl h, fun _ hNone => absurd hNone (Option.not_mem_none _)⟩
  next wsIdx ws tab hActive =>
    obtain ⟨hAt, hTab, ⟨_, hWell⟩, hFocus⟩ := activeTab?_some h hActive
    split
    next ids ws' hFailed =>
      exact ⟨evolves_split h hAt (splitFocusedCommand_split hWell hTab hFailed),
        fun _ hNone => absurd hNone (Option.not_mem_none _)⟩
    next ids ws' newPane hMade =>
      have hSplit := splitFocusedCommand_split hWell hTab hMade
      have hPut := evolves_split h hAt hSplit
      have hZoom : ∀ tab : Tab, tab.WellFormed →
          tab.Rearranged { tab.focusPane newPane.paneId with zoomed := true } := fun tab hTab =>
        have hFocused := hTab.focusPane newPane.paneId
        ⟨⟨hFocused.layout, hFocused.panes, hFocused.root⟩, rfl, rfl⟩
      have hZoomed := evolves_updateTab hPut.intact wsIdx ws'.activeTab hZoom
      rw [updateTab_putWorkspace hAt] at hZoomed
      have hInserted := @evolves_insertTerminal (s.withTree _) _ hZoomed newPane
      refine opens_of_split h hAt hFocus hSplit ?_
      rw [toTree_recordPaneFocusChange]
      exact hInserted

end AppState

namespace OverlayApp

/-- The tree is intact and every record of an overlay is right. -/
structure Sound (app : OverlayApp) : Prop where
  intact : app.state.toTree.Intact
  recorded : app.overlayPanes.Forall fun paneId overlay => app.state.Recorded paneId overlay

/-- The tree has evolved, and the app is sound. -/
structure Leads (app app' : OverlayApp) : Prop where
  evolves : app.state.toTree.Evolves app'.state.toTree
  sound : app'.Sound

variable {app app' : OverlayApp}

theorem Sound.evolves (h : app.Sound) {s' : AppState}
  (hEvolves : app.state.toTree.Evolves s'.toTree) : app.Leads { app with state := s' } where
  evolves := hEvolves
  sound.intact := hEvolves.intact
  sound.recorded := h.recorded.mono fun _ _ hRecorded => hEvolves.recorded hRecorded

theorem Sound.opens (h : app.Sound) {opened : AppState × Option (PaneId × OverlayPaneState)}
  (hOpens : app.state.Opens opened) : app.Leads (app.recordOverlay opened) := by
  obtain ⟨hEvolves, hNew⟩ := hOpens
  refine ⟨hEvolves, hEvolves.intact, ?_⟩
  have hOld : app.overlayPanes.Forall fun paneId overlay => opened.1.Recorded paneId overlay :=
    h.recorded.mono fun _ _ hRecorded => hEvolves.recorded hRecorded
  unfold recordOverlay
  cases hOverlay : opened.2 with
  | none => exact hOld
  | some overlay => exact hOld.insert (hNew overlay hOverlay)

theorem toTree_paneDied (app : OverlayApp) (paneId : PaneId) (respawned : Bool) :
  (app.paneDied paneId respawned).state.toTree =
    if respawned then app.state.toTree
    else
      match app.overlayPanes.lookup paneId with
        | none => app.state.toTree.paneDied paneId
        | some overlay => app.state.toTree.overlayDied paneId overlay := by
  unfold paneDied
  split
  · rfl
  cases app.overlayPanes.lookup paneId with
  | none => exact toTree_handlePaneDied _ _
  | some overlay =>
    rw [toTree_restoreOverlayAfterExit, toTree_handlePaneDied]
    rfl

theorem overlayPanes_paneDied (app : OverlayApp) (paneId : PaneId) (respawned : Bool) :
  (app.paneDied paneId respawned).overlayPanes = app.overlayPanes.erase paneId := by
  unfold paneDied
  split
  · rfl
  · split <;> rfl

theorem Sound.paneDied (h : app.Sound) (paneId : PaneId) (respawned : Bool) :
  app.Leads (app.paneDied paneId respawned) := by
  have hEvolves : app.state.toTree.Evolves (app.paneDied paneId respawned).state.toTree := by
    rw [toTree_paneDied]
    have hDied := evolves_paneDied h.intact paneId
    split
    · exact .refl h.intact
    split
    · exact hDied
    · exact hDied.trans h.intact (evolves_restoreOverlayAfterExit hDied.intact _ _ _ _)
  refine ⟨hEvolves, hEvolves.intact, ?_⟩
  rw [overlayPanes_paneDied]
  exact (h.recorded.mono fun _ _ hRecorded => hEvolves.recorded hRecorded).erase paneId

theorem step_leads (h : app.Sound) {operation : Operation}
  (hStep : app.step operation = some app') : app.Leads app' := by
  cases operation with
  | createWorkspace focus spawned =>
    cases hStep
    exact h.evolves (evolves_createWorkspace h.intact focus spawned)
  | createTab wsIdx label focus spawned =>
    obtain ⟨s', hCreate, rfl⟩ := Option.map_eq_some_iff.1 hStep
    exact h.evolves (evolves_createTab h.intact hCreate)
  | moveWorkspace sourceIdx insertIdx =>
    cases hStep
    exact h.evolves (evolves_moveWorkspace h.intact sourceIdx insertIdx)
  | moveWorkspaceBlock workspaceIds before =>
    cases hStep
    exact h.evolves (evolves_moveWorkspaceBlock h.intact workspaceIds before)
  | moveTab wsIdx tabIdx insertIdx =>
    cases hStep
    refine h.evolves (evolves_updateWorkspace h.intact wsIdx fun ws hAt => ?_)
    obtain ⟨⟨_, hWell⟩, hInhabited⟩ := h.intact.wellFormed_at hAt
    exact moveTab_reworked hWell hInhabited tabIdx insertIdx
  | closeWorkspace wsIdx =>
    cases hStep
    exact h.evolves (evolves_closeWorkspace h.intact wsIdx)
  | closeTab wsIdx tabIdx =>
    cases hStep
    exact h.evolves (evolves_closeTab h.intact wsIdx tabIdx)
  | closePane wsIdx paneId =>
    cases hStep
    exact h.evolves (evolves_closePane h.intact wsIdx paneId)
  | switchWorkspace idx =>
    cases hStep
    refine h.evolves ?_
    rw [toTree_switchWorkspace]
    exact evolves_switchWorkspace h.intact idx
  | switchWorkspaceTab wsIdx tabIdx =>
    cases hStep
    refine h.evolves ?_
    rw [toTree_switchWorkspaceTab]
    exact evolves_switchWorkspaceTab h.intact wsIdx tabIdx
  | focusPane wsIdx paneId =>
    cases hStep
    exact h.evolves (evolves_focusPaneInWorkspace h.intact wsIdx paneId)
  | zoomPane wsIdx paneId command =>
    cases hStep
    exact h.evolves (evolves_applyPaneZoom h.intact wsIdx paneId command)
  | splitPane wsIdx paneId direction ratio focus spawned =>
    cases hStep
    exact h.evolves
      (evolves_splitPane h.intact wsIdx paneId direction ratio focus spawned)
  | spawnPaneCommand spawned =>
    cases hStep
    exact h.opens (opens_spawnPaneCommand h.intact spawned)
  | spawnOverlayArgvCommand spawned =>
    cases hStep
    exact h.opens (opens_spawnOverlayArgvCommand h.intact spawned)
  | paneDied paneId respawned =>
    cases hStep
    exact h.paneDied paneId respawned

theorem run_leads {start finish : OverlayApp} {operations : List Operation}
  (hRun : Run (ofPartial step) start operations finish) (h : start.Sound) : start.Leads finish := by
  refine hRun.preserves ⟨.refl h.intact, h⟩ ?_
  intro app operation app' hLed hStep
  have hNext := step_leads hLed.sound hStep
  exact ⟨hLed.evolves.trans h.intact hNext.evolves, hNext.sound⟩

theorem run_sound {start finish : OverlayApp} {operations : List Operation}
  (hRun : Run (ofPartial step) start operations finish) (hIntact : start.state.toTree.Intact)
  (hNone : start.overlayPanes = ∅) : finish.Sound :=
  (run_leads hRun ⟨hIntact, hNone ▸ FinMap.Forall.empty⟩).sound

end OverlayApp

end App
