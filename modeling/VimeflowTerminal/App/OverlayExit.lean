import VimeflowTerminal.App.OverlaySteps

/-! What the end of an overlay's process may change, and when the record of where the overlay was
opened makes it change something else. -/

namespace App

open Layout Workspaces Terminal Transition Workspace

/-- The tab of a pane with its position. -/
structure Host where
  wsIdx : Nat
  ws : Workspace
  tabIdx : Nat
  tab : Tab

namespace Host

/-- The overlay was recorded at the position its tab has now. -/
def IsRecorded (host : Host) (overlay : OverlayPaneState) : Prop :=
  overlay.wsIdx = host.wsIdx ∧ overlay.tabIdx = host.tabIdx

instance (host : Host) (overlay : OverlayPaneState) : Decidable (host.IsRecorded overlay) :=
  inferInstanceAs (Decidable (_ ∧ _))

/-- The tab keeps other panes. An overlay that has the focus is at its recorded position, or
closing it gives the recorded focus and zoom by itself. -/
def Outlives (host : Host) (paneId : PaneId) (overlay : OverlayPaneState) : Prop :=
  host.tab.layout.focused = paneId → host.IsRecorded overlay ∨
    overlay.previousZoomed = false ∧ (overlay.previousFocus ∈ host.tab.panes →
      host.tab.layout.focusAfterClose = overlay.previousFocus)

instance (host : Host) (paneId : PaneId) (overlay : OverlayPaneState) :
  Decidable (host.Outlives paneId overlay) :=
  inferInstanceAs (Decidable (_ → _))

end Host

namespace Tree

/-- The tab is in the workspace of that id. -/
def Holds (t : Tree) (id : String) (tab : Tab) : Prop :=
  ∃ ws ∈ t.workspaces, ws.id = id ∧ tab ∈ ws.tabs

def hostOf (t : Tree) (paneId : PaneId) : Option Host :=
  (t.workspaceOfPane paneId).bind fun wsIdx =>
    t.workspaces[wsIdx]?.bind fun ws =>
      (ws.findTabForPane paneId).map fun found => ⟨wsIdx, ws, found.1, found.2⟩

/-- The workspaces without the tab of the host, or without its workspace if it has no other. -/
def withoutHost (t : Tree) (host : Host) : List Workspace :=
  if host.ws.tabs.length ≤ 1 then t.workspaces.eraseIdx host.wsIdx
  else t.workspaces.set host.wsIdx { host.ws with tabs := host.ws.tabs.eraseIdx host.tabIdx }

/-- A tab has the zoom already that the end of the overlay gives it, and is the active one if its
workspace is told so. -/
def Settled (t : Tree) (host : Host) (overlay : OverlayPaneState) (ws : Workspace) (tab : Tab) :
  Prop :=
  if host.IsRecorded overlay then
    tab.zoomed = overlay.previousZoomed ∧
      (host.ws.tabs.length ≤ 1 → t.active = some host.wsIdx → ws.activeTab = overlay.tabIdx)
  else ∀ stood ∈ t.tabAt overlay.wsIdx overlay.tabIdx, tab.zoomed = stood.zoomed

instance (t : Tree) (host : Host) (overlay : OverlayPaneState) (ws : Workspace) (tab : Tab) :
  Decidable (t.Settled host overlay ws tab) :=
  inferInstanceAs (Decidable (ite _ _ _))

/-- The tab is gone with the overlay, and the one that then stands at the recorded position, if
there is one, is as it will be. -/
def NextSpared (t : Tree) (host : Host) (overlay : OverlayPaneState) : Prop :=
  ∀ ws ∈ (t.withoutHost host)[overlay.wsIdx]?, ∀ tab ∈ ws.tabs[overlay.tabIdx]?,
    t.Settled host overlay ws tab

instance (t : Tree) (host : Host) (overlay : OverlayPaneState) :
  Decidable (t.NextSpared host overlay) :=
  inferInstanceAs (Decidable (∀ ws ∈ (t.withoutHost host)[overlay.wsIdx]?,
    ∀ tab ∈ ws.tabs[overlay.tabIdx]?, t.Settled host overlay ws tab))

/-- When the end of an overlay touches no more than its own tab, and restores that. -/
def Spared (t : Tree) (paneId : PaneId) (overlay : OverlayPaneState) : Prop :=
  ∀ host ∈ t.hostOf paneId,
    if 1 < host.tab.layout.paneCount then host.Outlives paneId overlay
    else t.NextSpared host overlay

instance (t : Tree) (paneId : PaneId) (overlay : OverlayPaneState) :
  Decidable (t.Spared paneId overlay) :=
  inferInstanceAs (Decidable (∀ host ∈ t.hostOf paneId, ite _ _ _))

/-- The end of an overlay: the other tabs keep focus and zoom, the other workspaces their active
tab, and a tab that had the overlay focused gets back what was recorded. -/
structure ExitFrame (t t' : Tree) (paneId : PaneId) (overlay : OverlayPaneState) : Prop where
  others : ∀ id tab, t.Holds id tab → paneId ∉ tab.panes → ∃ tab', t'.Holds id tab' ∧
    tab'.number = tab.number ∧ tab'.layout.focused = tab.layout.focused ∧ tab'.zoomed = tab.zoomed
  active : ∀ ws ∈ t.workspaces, paneId ∉ ws.paneIds → ∃ ws' ∈ t'.workspaces, ws'.id = ws.id ∧
    ws'.activeTab?.map (·.number) = ws.activeTab?.map (·.number)
  restored : ∀ id tab, t.Holds id tab → paneId ∈ tab.panes → tab.layout.focused = paneId →
    ∀ tab', t'.Holds id tab' → tab'.number = tab.number →
      (overlay.previousFocus ∈ t'.paneIds → tab'.layout.focused = overlay.previousFocus) ∧
        tab'.zoomed = overlay.previousZoomed

variable {t t' : Tree} {paneId : PaneId} {overlay : OverlayPaneState} {host : Host}

variable {id : String} {tab tab' : Tab} {ws ws' : Workspace} {i j : Nat}

theorem holds_iff : t.Holds id tab ↔ ∃ (i : Nat) (ws : Workspace)
  (j : Nat), t.workspaces[i]? = some ws ∧ ws.id = id ∧ ws.tabs[j]? = some tab := by
  constructor
  · rintro ⟨ws, hWs, hId, hTab⟩
    obtain ⟨i, hi⟩ := List.mem_iff_getElem?.1 hWs
    obtain ⟨j, hj⟩ := List.mem_iff_getElem?.1 hTab
    exact ⟨i, ws, j, hi, hId, hj⟩
  · rintro ⟨i, ws, j, hi, hId, hj⟩
    exact ⟨ws, List.mem_of_getElem? hi, hId, List.mem_of_getElem? hj⟩

section

variable (h : t.Intact)
include h

theorem Intact.id_unique (hWs : ws ∈ t.workspaces) (hWs' : ws' ∈ t.workspaces)
  (hId : ws.id = ws'.id) : ws = ws' :=
  List.inj_on_of_nodup_map h.distinct hWs hWs' hId

theorem Intact.number_unique (hWs : ws ∈ t.workspaces) {a b : Tab}
  (ha : a ∈ ws.tabs) (hb : b ∈ ws.tabs) (hNumber : a.number = b.number) : a = b := by
  obtain ⟨_, hWell⟩ := h.wellFormed ws hWs
  exact List.inj_on_of_nodup_map hWell.tabs.numbers.nodup ha hb hNumber

theorem Intact.holds_unique {a b : Tab} (ha : t.Holds id a) (hb : t.Holds id b)
  (hNumber : a.number = b.number) : a = b := by
  obtain ⟨ws, hWs, hId, hTab⟩ := ha
  obtain ⟨ws', hWs', hId', hTab'⟩ := hb
  obtain rfl := h.id_unique hWs hWs' (hId.trans hId'.symm)
  exact h.number_unique hWs hTab hTab' hNumber

theorem Intact.tab_wellFormed (hWs : t.workspaces[i]? = some ws)
  (hTab : ws.tabs[j]? = some tab) : tab.WellFormed := by
  obtain ⟨⟨_, hWell⟩, -⟩ := h.wellFormed_at hWs
  exact hWell.tabs.each tab (List.mem_of_getElem? hTab)

theorem Intact.focused_mem (hWs : t.workspaces[i]? = some ws)
  (hTab : ws.tabs[j]? = some tab) :
  tab.layout.focused ∈ tab.panes := by
  have hWell := h.tab_wellFormed hWs hTab
  exact (hWell.panes _).1 hWell.layout.focus

/-- A pane has one position. -/
theorem Intact.position_unique {i' j' : Nat} (hWs : t.workspaces[i]? = some ws)
  (hTab : ws.tabs[j]? = some tab) (hWs' : t.workspaces[i']? = some ws')
  (hTab' : ws'.tabs[j']? = some tab') (hMem : paneId ∈ tab.panes) (hMem' : paneId ∈ tab'.panes) :
  i = i' ∧ j = j' := by
  have hIn := Workspace.mem_paneIds.2 ⟨tab, List.mem_of_getElem? hTab, hMem⟩
  have hIn' := Workspace.mem_paneIds.2 ⟨tab', List.mem_of_getElem? hTab', hMem'⟩
  obtain rfl := h.workspace_unique hWs hWs' hIn hIn'
  rw [hWs] at hWs'
  cases hWs'
  obtain ⟨⟨_, hWell⟩, -⟩ := h.wellFormed_at hWs
  have hFound := findTabForPane_at hWell hTab hMem
  have hFound' := findTabForPane_at hWell hTab' hMem'
  rw [hFound] at hFound'
  exact ⟨rfl, (Prod.mk.inj (Option.some.inj hFound')).1⟩

end

/-! ## The host -/

/-- What the lookup of a pane finds. -/
structure Hosts (t : Tree) (paneId : PaneId) (host : Host) : Prop where
  index : t.workspaceOfPane paneId = some host.wsIdx
  ws : t.workspaces[host.wsIdx]? = some host.ws
  found : host.ws.findTabForPane paneId = some (host.tabIdx, host.tab)
  tab : host.ws.tabs[host.tabIdx]? = some host.tab
  pane : paneId ∈ host.tab.panes

theorem hosts_of_hostOf (hHost : t.hostOf paneId = some host) : t.Hosts paneId host := by
  obtain ⟨wsIdx, hIndex, hRest⟩ := Option.bind_eq_some_iff.1 hHost
  obtain ⟨ws, hWs, hLast⟩ := Option.bind_eq_some_iff.1 hRest
  obtain ⟨⟨tabIdx, tab⟩, hFound, rfl⟩ := Option.map_eq_some_iff.1 hLast
  obtain ⟨hTab, hPane⟩ := findTabForPane_some hFound
  exact ⟨hIndex, hWs, hFound, hTab, hPane⟩

theorem notMem_of_workspaceOfPane (hNone : t.workspaceOfPane paneId = none) :
  paneId ∉ t.paneIds := by
  intro hMem
  obtain ⟨ws, hWs, hPane⟩ := List.mem_flatMap.1 hMem
  obtain ⟨tabIdx, tab, hFound⟩ := exists_findTabForPane hPane
  obtain ⟨_, hIndex, -⟩ := Option.bind_eq_some_iff.1 hFound
  have hNot := List.findIdx?_eq_none_iff.1 hNone ws hWs
  rw [hIndex] at hNot
  exact Bool.false_ne_true hNot.symm

theorem workspaceOfPane_of_hostOf (hNone : t.hostOf paneId = none) :
  t.workspaceOfPane paneId = none := by
  cases hIndex : t.workspaceOfPane paneId with
  | none => rfl
  | some wsIdx =>
    obtain ⟨hLt, hFound, -⟩ := List.findIdx?_eq_some_iff_getElem.1 hIndex
    obtain ⟨tabIdx, hTabIdx⟩ := Option.isSome_iff_exists.1 hFound
    obtain ⟨hTabLt, -⟩ := List.findIdx?_eq_some_iff_getElem.1 hTabIdx
    rw [hostOf, hIndex, Option.bind_some, List.getElem?_eq_getElem hLt, Option.bind_some,
      findTabForPane, hTabIdx, Option.bind_some,
      List.getElem?_eq_getElem hTabLt] at hNone
    cases hNone

/-- The tab that loses a pane and keeps others. -/
def survivor (tab : Tab) (paneId : PaneId) : Tab :=
  { tab with
    layout := Tab.closeLeaf tab.layout paneId
    panes := tab.panes.erase paneId
    zoomed := false
    rootPane := (tab.promotedRootIfNeeded paneId).getD tab.rootPane }

theorem removePane_many (hHost : t.Hosts paneId host) (hMany : 1 < host.tab.layout.paneCount) :
  host.ws.removePane paneId = (({ host.ws with
    tabs := host.ws.tabs.set host.tabIdx (survivor host.tab paneId) } : Workspace).unregisterPane
      paneId, false) := by
  obtain ⟨pane, hLookup⟩ := Tab.exists_lookup hHost.pane
  have hFew : ¬ host.tab.layout.paneCount ≤ 1 := Nat.not_le.2 hMany
  simp only [removePane, removePaneWith, hHost.found, if_neg hFew,
    Tab.removePane, Tab.detachPane, hLookup, survivor]

theorem paneDied_survives (hHost : t.Hosts paneId host) (hMany : 1 < host.tab.layout.paneCount) :
  ∃ ws : Workspace, ws.id = host.ws.id ∧
    ws.tabs = host.ws.tabs.set host.tabIdx (survivor host.tab paneId) ∧
    (t.paneDied paneId).workspaces = t.workspaces.set host.wsIdx ws := by
  unfold paneDied
  simp only [hHost.index, hHost.ws, removePane_many hHost hMany, Bool.false_eq_true, if_false]
  exact ⟨_, by rfl, by rfl, rfl⟩

/-- A host of one pane is gone, and its workspace with it if it has no other tab. -/
theorem paneDied_gone (hHost : t.Hosts paneId host) (hLast : host.tab.layout.paneCount ≤ 1) :
  (1 < host.ws.tabs.length ∧ ∃ ws : Workspace, ws.id = host.ws.id ∧
      ws.tabs = host.ws.tabs.eraseIdx host.tabIdx ∧
      (t.paneDied paneId).workspaces = t.workspaces.set host.wsIdx ws) ∨
    host.ws.tabs.length ≤ 1 ∧
      (t.paneDied paneId).workspaces = t.workspaces.eraseIdx host.wsIdx := by
  unfold paneDied
  simp only [hHost.index, hHost.ws, removePane, removePaneWith, hHost.found,
    if_pos hLast]
  by_cases hOne : host.ws.tabs.length ≤ 1
  · refine Or.inr ⟨hOne, ?_⟩
    simp only [if_pos hOne, if_true]
    rw [(settleAfterPaneDied_same _ _ _).1]
    exact List.eraseIdx_set_eq
  · refine Or.inl ⟨Nat.lt_of_not_le hOne, ?_⟩
    simp only [if_neg hOne, Bool.false_eq_true, if_false]
    exact ⟨_, by rfl, by rfl, rfl⟩

/-! ## The restoration -/

/-- What is done to the tab at the recorded position. -/
def restoreTab (overlay : OverlayPaneState) (wasFocused : Bool) (zoomedBefore : Option Bool)
  (tab : Tab) : Tab :=
  if wasFocused then overlay.restoredTab tab
  else { tab with zoomed := zoomedBefore.getD tab.zoomed }

/-- What is done to the workspace at the recorded index. -/
def restoreWorkspace (overlay : OverlayPaneState) (wasActive wasFocused : Bool)
  (zoomedBefore : Option Bool) (ws : Workspace) : Workspace :=
  match ws.tabs[overlay.tabIdx]? with
  | none => ws
  | some tab =>
    { ws with
      activeTab := if wasFocused && wasActive then overlay.tabIdx else ws.activeTab
      tabs := ws.tabs.set overlay.tabIdx (restoreTab overlay wasFocused zoomedBefore tab) }

theorem getElem?_updateWorkspace (t : Tree) (wsIdx : Nat) (update : Workspace → Workspace)
  (i : Nat) : (t.updateWorkspace wsIdx update).workspaces[i]? =
    t.workspaces[i]?.map fun ws => if i = wsIdx then update ws else ws := by
  unfold updateWorkspace
  split
  next hNone =>
    by_cases hEq : i = wsIdx
    · rw [hEq, hNone]
      rfl
    · simp only [if_neg hEq, Option.map_id']
  next ws hAt =>
    by_cases hEq : i = wsIdx
    · subst hEq
      rw [hAt]
      simp only [Option.map_some, if_true]
      exact List.getElem?_set_self (List.getElem?_eq_some_iff.1 hAt).1
    · simp only [if_neg hEq, Option.map_id']
      exact List.getElem?_set_ne (Ne.symm hEq)

theorem getElem?_restore (t : Tree) (overlay : OverlayPaneState) (wasActive wasFocused : Bool)
  (zoomedBefore : Option Bool) (i : Nat) :
  (t.restoreOverlayAfterExit overlay wasActive wasFocused zoomedBefore).workspaces[i]? =
    t.workspaces[i]?.map fun ws =>
      if i = overlay.wsIdx then restoreWorkspace overlay wasActive wasFocused zoomedBefore ws
      else ws := by
  by_cases hEq : i = overlay.wsIdx
  · subst hEq
    unfold restoreOverlayAfterExit
    cases hAt : t.workspaces[overlay.wsIdx]? with
    | none => exact hAt
    | some ws =>
      simp only [Option.map_some]
      by_cases hTab : ws.tabs.length ≤ overlay.tabIdx
      · rw [if_pos hTab, restoreWorkspace, List.getElem?_eq_none hTab]
        exact hAt
      obtain ⟨tab, hTabAt⟩ : ∃ tab, ws.tabs[overlay.tabIdx]? = some tab :=
        ⟨_, List.getElem?_eq_getElem (Nat.lt_of_not_le hTab)⟩
      rw [if_neg hTab]
      simp only [restoreWorkspace, hTabAt, restoreTab]
      cases wasFocused with
      | false =>
        cases zoomedBefore with
        | none =>
          obtain ⟨hLt, rfl⟩ := List.getElem?_eq_some_iff.1 hTabAt
          refine hAt.trans (congrArg some ?_)
          change ws = { ws with
            tabs := ws.tabs.set overlay.tabIdx ws.tabs[overlay.tabIdx] }
          rw [List.set_getElem_self]
        | some zoomed =>
          simp [updateTab, getElem?_updateWorkspace, hAt, Workspace.updateTab, hTabAt]
      | true =>
        cases wasActive <;>
          simp [updateTab, getElem?_updateWorkspace, hAt, Workspace.updateTab, hTabAt]
  · have hOther : ∀ (t : Tree) (update : Workspace → Workspace),
        (t.updateWorkspace overlay.wsIdx update).workspaces[i]? = t.workspaces[i]? := by
      intro t update
      rw [getElem?_updateWorkspace]
      simp only [if_neg hEq, Option.map_id']
    simp only [if_neg hEq, Option.map_id']
    unfold restoreOverlayAfterExit
    split
    · rfl
    split
    · rfl
    split
    · split
      · rfl
      · exact hOther _ _
    · rw [updateTab, hOther]
      split
      · exact hOther _ _
      · rfl

/-- A position of a tree holds a tab. -/
structure Stands (t : Tree) (i j : Nat) (ws : Workspace) (tab : Tab) : Prop where
  workspaceAt : t.workspaces[i]? = some ws
  tabAt : ws.tabs[j]? = some tab

theorem Stands.holds (h : t.Stands i j ws tab) : t.Holds ws.id tab :=
  holds_iff.2 ⟨i, ws, j, h.workspaceAt, rfl, h.tabAt⟩

theorem Stands.restore (h : t.Stands i j ws tab) (overlay : OverlayPaneState)
  (wasActive wasFocused : Bool) (zoomedBefore : Option Bool) :
  ∃ ws', ws'.id = ws.id ∧ Stands (t.restoreOverlayAfterExit overlay wasActive wasFocused
    zoomedBefore) i j ws' (if i = overlay.wsIdx ∧ j = overlay.tabIdx then
      restoreTab overlay wasFocused zoomedBefore tab else tab) := by
  obtain ⟨hWs, hTab⟩ := h
  have hAt := getElem?_restore t overlay wasActive wasFocused zoomedBefore i
  rw [hWs, Option.map_some] at hAt
  by_cases hIdx : i = overlay.wsIdx
  · rw [if_pos hIdx] at hAt
    unfold restoreWorkspace at hAt
    split at hAt
    next hNone =>
      have hNe : j ≠ overlay.tabIdx := by
        rintro rfl
        rw [hNone] at hTab
        cases hTab
      rw [if_neg fun hBoth => hNe hBoth.2]
      exact ⟨ws, rfl, hAt, hTab⟩
    next stood hStood =>
      have hRestored : (ws.tabs.set overlay.tabIdx (restoreTab overlay wasFocused zoomedBefore
          stood))[j]? = some (if i = overlay.wsIdx ∧ j = overlay.tabIdx then
            restoreTab overlay wasFocused zoomedBefore tab else tab) := by
        by_cases hEq : j = overlay.tabIdx
        · subst hEq
          rw [hTab] at hStood
          cases hStood
          rw [if_pos ⟨hIdx, rfl⟩]
          exact List.getElem?_set_self (List.getElem?_eq_some_iff.1 hTab).1
        · rw [if_neg fun hBoth => hEq hBoth.2]
          exact (List.getElem?_set_ne (Ne.symm hEq)).trans hTab
      exact ⟨_, by rfl, hAt, hRestored⟩
  · rw [if_neg hIdx] at hAt
    rw [if_neg fun hBoth => hIdx hBoth.1]
    exact ⟨ws, rfl, hAt, hTab⟩

theorem kept_restoreTab (overlay : OverlayPaneState) (wasFocused : Bool)
  (zoomedBefore : Option Bool) (tab : Tab) :
  (restoreTab overlay wasFocused zoomedBefore tab).number = tab.number ∧
    (restoreTab overlay wasFocused zoomedBefore tab).panes = tab.panes := by
  unfold restoreTab OverlayPaneState.restoredTab
  split
  · split <;> exact ⟨rfl, rfl⟩
  · exact ⟨rfl, rfl⟩

/-- The numbers of the tabs stay, and which is active unless the position says so. -/
theorem active_restore (hWs : t.workspaces[i]? = some ws) (overlay : OverlayPaneState)
  (wasActive wasFocused : Bool) (zoomedBefore : Option Bool) :
  ∃ ws', (t.restoreOverlayAfterExit overlay wasActive wasFocused zoomedBefore).workspaces[i]? =
      some ws' ∧ ws'.id = ws.id ∧ ws'.tabs.map (·.number) = ws.tabs.map (·.number) ∧
    ws'.activeTab =
      if i = overlay.wsIdx ∧ overlay.tabIdx < ws.tabs.length ∧ wasFocused ∧ wasActive then
        overlay.tabIdx
      else ws.activeTab := by
  have hAt := getElem?_restore t overlay wasActive wasFocused zoomedBefore i
  rw [hWs, Option.map_some] at hAt
  refine ⟨_, hAt, ?_⟩
  by_cases hIdx : i = overlay.wsIdx
  · rw [if_pos hIdx]
    unfold restoreWorkspace
    split
    next hNone =>
      have hOut := List.getElem?_eq_none_iff.1 hNone
      rw [if_neg fun hAll => Nat.not_lt.2 hOut hAll.2.1]
      exact ⟨rfl, rfl, rfl⟩
    next tab hTab =>
      obtain ⟨hLt, -⟩ := List.getElem?_eq_some_iff.1 hTab
      refine ⟨rfl, map_number_set hTab (kept_restoreTab _ _ _ _).1, ?_⟩
      simp [hIdx, hLt]
  · rw [if_neg hIdx, if_neg fun hAll => hIdx hAll.1]
    exact ⟨rfl, rfl, rfl⟩

/-! ## Before the end -/

def overlayFocused (t : Tree) (paneId : PaneId) (overlay : OverlayPaneState) : Bool :=
  (t.tabAt overlay.wsIdx overlay.tabIdx).any fun tab => decide (tab.layout.focused = paneId)

def zoomedBefore (t : Tree) (overlay : OverlayPaneState) : Option Bool :=
  (t.tabAt overlay.wsIdx overlay.tabIdx).map (·.zoomed)

theorem overlayDied_eq (t : Tree) (paneId : PaneId) (overlay : OverlayPaneState) :
  t.overlayDied paneId overlay = (t.paneDied paneId).restoreOverlayAfterExit overlay
    (t.isActivePane overlay.wsIdx overlay.tabIdx paneId) (t.overlayFocused paneId overlay)
    (t.zoomedBefore overlay) := rfl

theorem Stands.tabAt_eq (h : t.Stands i j ws tab) : t.tabAt i j = some tab := by
  rw [Tree.tabAt, h.workspaceAt, Option.bind_some, h.tabAt]

theorem stands_of_tabAt (hAt : t.tabAt i j = some tab) : ∃ ws, t.Stands i j ws tab := by
  obtain ⟨ws, hWs, hTab⟩ := Option.bind_eq_some_iff.1 hAt
  exact ⟨ws, hWs, hTab⟩

theorem Stands.position_unique (h : t.Intact) {i' j' : Nat} (hStands : t.Stands i j ws tab)
  (hStands' : t.Stands i' j' ws' tab') (hMem : paneId ∈ tab.panes) (hMem' : paneId ∈ tab'.panes) :
  i = i' ∧ j = j' :=
  h.position_unique hStands.workspaceAt hStands.tabAt hStands'.workspaceAt hStands'.tabAt hMem hMem'

theorem overlayFocused_iff : t.overlayFocused paneId overlay = true ↔
  ∃ ws tab, t.Stands overlay.wsIdx overlay.tabIdx ws tab ∧ tab.layout.focused = paneId := by
  unfold overlayFocused
  rw [Option.any_eq_true]
  constructor
  · rintro ⟨tab, hAt, hFocused⟩
    obtain ⟨ws, hStands⟩ := stands_of_tabAt hAt
    exact ⟨ws, tab, hStands, of_decide_eq_true hFocused⟩
  · rintro ⟨ws, tab, hStands, hFocused⟩
    exact ⟨tab, hStands.tabAt_eq, decide_eq_true hFocused⟩

/-- A tab without the overlay is given the zoom it has. -/
theorem restoreTab_other (h : t.Intact) (hStands : t.Stands overlay.wsIdx overlay.tabIdx ws tab)
  (hOther : paneId ∉ tab.panes) :
  restoreTab overlay (t.overlayFocused paneId overlay) (t.zoomedBefore overlay) tab = tab := by
  have hFocused : t.overlayFocused paneId overlay = false := by
    refine Bool.eq_false_iff.2 fun hFocused => ?_
    obtain ⟨_, other, hOtherStands, hEq⟩ := overlayFocused_iff.1 hFocused
    have hSame := hStands.tabAt_eq.symm.trans hOtherStands.tabAt_eq
    cases hSame
    exact hOther (hEq ▸ h.focused_mem hStands.workspaceAt hStands.tabAt)
  have hZoomed : t.zoomedBefore overlay = some tab.zoomed := by
    rw [zoomedBefore, hStands.tabAt_eq, Option.map_some]
  rw [hFocused, hZoomed]
  rfl

theorem Stands.kept (h : t.Stands i j ws tab) {wasActive wasFocused : Bool}
  {zoomedBefore : Option Bool} (hSame : i = overlay.wsIdx → j = overlay.tabIdx →
    (restoreTab overlay wasFocused zoomedBefore tab).layout.focused = tab.layout.focused ∧
      (restoreTab overlay wasFocused zoomedBefore tab).zoomed = tab.zoomed) :
  ∃ tab', (t.restoreOverlayAfterExit overlay wasActive wasFocused zoomedBefore).Holds ws.id tab' ∧
    tab'.number = tab.number ∧ tab'.layout.focused = tab.layout.focused ∧
      tab'.zoomed = tab.zoomed := by
  obtain ⟨ws', hId, hStands⟩ := h.restore overlay wasActive wasFocused zoomedBefore
  refine ⟨_, hId ▸ hStands.holds, ?_⟩
  by_cases hAt : i = overlay.wsIdx ∧ j = overlay.tabIdx
  · rw [if_pos hAt]
    exact ⟨(kept_restoreTab _ _ _ _).1, hSame hAt.1 hAt.2⟩
  · rw [if_neg hAt]
    exact ⟨rfl, rfl, rfl⟩

theorem map_activeTab? (hTabs : ws'.tabs.map (·.number) = ws.tabs.map (·.number))
  (hActive : ws'.activeTab = ws.activeTab) :
  ws'.activeTab?.map (·.number) = ws.activeTab?.map (·.number) := by
  rw [activeTab?, activeTab?, ← List.getElem?_map, ← List.getElem?_map, hTabs,
    hActive]

/-! ## Hosts that survive -/

/-- What is not the host keeps its position when the pane dies. -/
structure Steady (t t' : Tree) (paneId : PaneId) : Prop where
  tabs : ∀ i j ws tab, t.Stands i j ws tab → paneId ∉ tab.panes →
    ∃ ws', ws'.id = ws.id ∧ t'.Stands i j ws' tab
  workspaces : ∀ (i : Nat) (ws : Workspace), t.workspaces[i]? = some ws → paneId ∉ ws.paneIds →
    t'.workspaces[i]? = some ws

theorem Steady.others (h : t.Intact) (hSteady : Steady t (t.paneDied paneId) paneId)
  (hTab : t.Holds id tab) (hOther : paneId ∉ tab.panes) :
  ∃ tab', (t.overlayDied paneId overlay).Holds id tab' ∧ tab'.number = tab.number ∧
    tab'.layout.focused = tab.layout.focused ∧ tab'.zoomed = tab.zoomed := by
  obtain ⟨i, ws, j, hWs, rfl, hAt⟩ := holds_iff.1 hTab
  obtain ⟨ws', hId, hStands⟩ := hSteady.tabs i j ws tab ⟨hWs, hAt⟩ hOther
  rw [overlayDied_eq, ← hId]
  refine hStands.kept ?_
  rintro rfl rfl
  rw [restoreTab_other h ⟨hWs, hAt⟩ hOther]
  exact ⟨rfl, rfl⟩

theorem Steady.active (h : t.Intact) (hSteady : Steady t (t.paneDied paneId) paneId)
  (hWs : ws ∈ t.workspaces) (hOther : paneId ∉ ws.paneIds) :
  ∃ ws' ∈ (t.overlayDied paneId overlay).workspaces, ws'.id = ws.id ∧
    ws'.activeTab?.map (·.number) = ws.activeTab?.map (·.number) := by
  obtain ⟨i, hi⟩ := List.mem_iff_getElem?.1 hWs
  obtain ⟨ws', hAt, hId, hNumbers, hActive⟩ := active_restore (hSteady.workspaces i ws hi hOther)
    overlay (t.isActivePane overlay.wsIdx overlay.tabIdx paneId) (t.overlayFocused paneId overlay)
    (t.zoomedBefore overlay)
  refine ⟨ws', List.mem_of_getElem? hAt, hId, map_activeTab? hNumbers ?_⟩
  rw [hActive, if_neg]
  rintro ⟨rfl, -, hFocused, -⟩
  obtain ⟨other, tab, hStands, rfl⟩ := overlayFocused_iff.1 hFocused
  rw [hStands.workspaceAt] at hi
  cases hi
  exact hOther (Workspace.mem_paneIds.2 ⟨tab, List.mem_of_getElem? hStands.tabAt,
    h.focused_mem hStands.workspaceAt hStands.tabAt⟩)

theorem steady_of_none (hNone : t.hostOf paneId = none) : Steady t (t.paneDied paneId) paneId := by
  have hSame : t.paneDied paneId = t := by
    rw [paneDied, workspaceOfPane_of_hostOf hNone]
  rw [hSame]
  exact ⟨fun i j ws tab hStands _ => ⟨ws, rfl, hStands⟩, fun _ _ hAt _ => hAt⟩

theorem exitFrame_of_none (h : t.Intact) (hNone : t.hostOf paneId = none) :
  ExitFrame t (t.overlayDied paneId overlay) paneId overlay where
  others _ _ hTab hOther := (steady_of_none hNone).others h hTab hOther
  active _ hWs hOther := (steady_of_none hNone).active h hWs hOther
  restored id tab hTab hPane := by
    obtain ⟨ws, hWs, -, hIn⟩ := hTab
    have hAlive : paneId ∈ t.paneIds := mem_paneIds.2 ⟨tab, mem_tabs.2 ⟨ws, hWs, hIn⟩, hPane⟩
    exact absurd hAlive (notMem_of_workspaceOfPane (workspaceOfPane_of_hostOf hNone))

theorem Hosts.stands (hHost : t.Hosts paneId host) :
  t.Stands host.wsIdx host.tabIdx host.ws host.tab := ⟨hHost.ws, hHost.tab⟩

theorem steady_of_survivor (hHost : t.Hosts paneId host)
  (hMany : 1 < host.tab.layout.paneCount) : Steady t (t.paneDied paneId) paneId := by
  obtain ⟨ws', hId, hTabs, hWorkspaces⟩ := paneDied_survives hHost hMany
  obtain ⟨hIdx, -⟩ := List.getElem?_eq_some_iff.1 hHost.ws
  refine ⟨fun i j ws tab hStands hOther => ?_, fun i ws hWs hOther => ?_⟩
  · by_cases hEq : i = host.wsIdx
    · subst hEq
      have hWs := hStands.workspaceAt
      rw [hHost.ws] at hWs
      cases hWs
      have hNe : j ≠ host.tabIdx := by
        rintro rfl
        have hTab := hStands.tabAt
        rw [hHost.tab] at hTab
        exact hOther (Option.some.inj hTab ▸ hHost.pane)
      refine ⟨ws', hId, ?_, ?_⟩
      · rw [hWorkspaces]
        exact List.getElem?_set_self hIdx
      · rw [hTabs]
        exact (List.getElem?_set_ne (Ne.symm hNe)).trans hStands.tabAt
    · refine ⟨ws, rfl, ?_, hStands.tabAt⟩
      rw [hWorkspaces, List.getElem?_set_ne (Ne.symm hEq)]
      exact hStands.workspaceAt
  · have hNe : i ≠ host.wsIdx := by
      rintro rfl
      rw [hHost.ws] at hWs
      cases hWs
      exact hOther (Workspace.mem_paneIds.2 ⟨host.tab, List.mem_of_getElem? hHost.tab, hHost.pane⟩)
    rw [hWorkspaces, List.getElem?_set_ne (Ne.symm hNe)]
    exact hWs

theorem stands_survivor (hHost : t.Hosts paneId host) (hMany : 1 < host.tab.layout.paneCount) :
  ∃ ws, ws.id = host.ws.id ∧
    (t.paneDied paneId).Stands host.wsIdx host.tabIdx ws (survivor host.tab paneId) := by
  obtain ⟨hIdx, -⟩ := List.getElem?_eq_some_iff.1 hHost.ws
  obtain ⟨hTabIdx, -⟩ := List.getElem?_eq_some_iff.1 hHost.tab
  obtain ⟨ws, hId, hTabs, hWorkspaces⟩ := paneDied_survives hHost hMany
  refine ⟨ws, hId, ?_, ?_⟩
  · rw [hWorkspaces]
    exact List.getElem?_set_self hIdx
  · rw [hTabs]
    exact List.getElem?_set_self hTabIdx

/-- The tab of the overlay afterwards. -/
def tabAfter (t : Tree) (paneId : PaneId) (overlay : OverlayPaneState) (host : Host) : Tab :=
  if host.wsIdx = overlay.wsIdx ∧ host.tabIdx = overlay.tabIdx then
    restoreTab overlay (t.overlayFocused paneId overlay) (t.zoomedBefore overlay)
      (survivor host.tab paneId)
  else survivor host.tab paneId

theorem stands_tabAfter (hHost : t.Hosts paneId host) (hMany : 1 < host.tab.layout.paneCount)
  (overlay : OverlayPaneState) : ∃ ws, ws.id = host.ws.id ∧
    (t.overlayDied paneId overlay).Stands host.wsIdx host.tabIdx ws
      (t.tabAfter paneId overlay host) := by
  obtain ⟨ws, hId, hStands⟩ := stands_survivor hHost hMany
  obtain ⟨ws', hId', hRestored⟩ := hStands.restore overlay
    (t.isActivePane overlay.wsIdx overlay.tabIdx paneId) (t.overlayFocused paneId overlay)
    (t.zoomedBefore overlay)
  exact ⟨ws', hId'.trans hId, hRestored⟩

theorem evolves_overlayDied (h : t.Intact) (paneId : PaneId) (overlay : OverlayPaneState) :
  Evolves t (t.overlayDied paneId overlay) :=
  have hDied := evolves_paneDied h paneId
  hDied.trans h (evolves_restoreOverlayAfterExit hDied.intact _ _ _ _)

theorem Hosts.eq_of_holds (h : t.Intact) (hHost : t.Hosts paneId host) (hTab : t.Holds id tab)
  (hPane : paneId ∈ tab.panes) : tab = host.tab ∧ id = host.ws.id := by
  obtain ⟨i, ws, j, hWs, rfl, hAt⟩ := holds_iff.1 hTab
  have hStands : t.Stands i j ws tab := ⟨hWs, hAt⟩
  obtain ⟨rfl, rfl⟩ := hStands.position_unique h hHost.stands hPane hHost.pane
  rw [hHost.ws] at hWs
  cases hWs
  rw [hHost.tab] at hAt
  exact ⟨(Option.some.inj hAt).symm, rfl⟩

theorem number_tabAfter : (t.tabAfter paneId overlay host).number = host.tab.number := by
  unfold tabAfter
  split
  · exact (kept_restoreTab _ _ _ _).1
  · rfl

theorem panes_tabAfter : (t.tabAfter paneId overlay host).panes = host.tab.panes.erase paneId := by
  unfold tabAfter
  split
  · exact (kept_restoreTab _ _ _ _).2
  · rfl

/-- The pane focused before is alive afterwards if it was in the tab. -/
theorem alive_iff (h : t.Intact) (hHost : t.Hosts paneId host)
  (hMany : 1 < host.tab.layout.paneCount) (hRecorded : t.Recorded paneId overlay) :
  overlay.previousFocus ∈ (t.overlayDied paneId overlay).paneIds ↔
    overlay.previousFocus ∈ host.tab.panes := by
  have hEvolves := evolves_overlayDied h paneId overlay
  constructor
  · intro hAlive
    have hBefore := (hEvolves.panes _ hAlive).resolve_right (Nat.not_le.2 hRecorded.allocated.2)
    have hTab : host.tab ∈ t.tabs := mem_tabs.2
      ⟨host.ws, List.mem_of_getElem? hHost.ws, List.mem_of_getElem? hHost.tab⟩
    exact hRecorded.together host.tab hTab hHost.pane hBefore
  · intro hMem
    obtain ⟨ws, -, hStands⟩ := stands_tabAfter hHost hMany overlay
    refine mem_paneIds.2 ⟨_, mem_tabs.2 ⟨ws, List.mem_of_getElem? hStands.workspaceAt,
      List.mem_of_getElem? hStands.tabAt⟩, ?_⟩
    rw [panes_tabAfter]
    exact AList.mem_erase.2 ⟨hRecorded.distinct, hMem⟩

theorem focused_survivor (h : tab.WellFormed) (hMany : 1 < tab.layout.paneCount)
  (hFocused : tab.layout.focused = paneId) :
  (survivor tab paneId).layout.focused = tab.layout.focusAfterClose := by
  obtain ⟨hMem, hNe⟩ := TileLayout.focusAfterClose_mem h.layout hMany
  obtain ⟨root, hRoot⟩ := Option.isSome_iff_exists.1
    (Node.removePane_isSome.2 ⟨tab.layout.focusAfterClose, hMem, hNe⟩)
  show (Tab.closeLeaf tab.layout paneId).focus = _
  rw [Tab.closeLeaf, if_pos hFocused, TileLayout.closeFocused, if_neg (Nat.not_le.2 hMany), hRoot]

theorem tabAfter_elsewhere (hElsewhere : ¬ host.IsRecorded overlay) :
  t.tabAfter paneId overlay host = survivor host.tab paneId :=
  if_neg fun hAt => hElsewhere ⟨hAt.1.symm, hAt.2.symm⟩

/-- At the recorded position the focus and the zoom are restored. -/
theorem tabAfter_recorded (h : t.Intact) (hHost : t.Hosts paneId host)
  (hMany : 1 < host.tab.layout.paneCount) (hRecorded : t.Recorded paneId overlay)
  (hAt : host.IsRecorded overlay) (hFocused : host.tab.layout.focused = paneId) :
  (overlay.previousFocus ∈ host.tab.panes →
      (t.tabAfter paneId overlay host).layout.focused = overlay.previousFocus) ∧
    (t.tabAfter paneId overlay host).zoomed = overlay.previousZoomed := by
  have hStands : t.Stands overlay.wsIdx overlay.tabIdx host.ws host.tab := by
    rw [hAt.1, hAt.2]
    exact hHost.stands
  have hTrue : t.overlayFocused paneId overlay = true :=
    overlayFocused_iff.2 ⟨host.ws, host.tab, hStands, hFocused⟩
  rw [tabAfter, if_pos ⟨hAt.1.symm, hAt.2.symm⟩, hTrue, restoreTab, if_pos rfl]
  refine ⟨fun hMem => ?_, rfl⟩
  have hIn : overlay.previousFocus ∈ (survivor host.tab paneId).panes :=
    AList.mem_erase.2 ⟨hRecorded.distinct, hMem⟩
  obtain ⟨ws, -, hSurvivor⟩ := stands_survivor hHost hMany
  have hWell := (evolves_paneDied h paneId).intact.tab_wellFormed hSurvivor.workspaceAt
    hSurvivor.tabAt
  show (if _ then _ else _ : Tab).layout.focus = _
  rw [if_pos hIn]
  exact TileLayout.focusPane_of_mem ((hWell.panes _).2 hIn)

theorem exitFrame_of_survivor (h : t.Intact) (hHost : t.Hosts paneId host)
  (hMany : 1 < host.tab.layout.paneCount) (hRecorded : t.Recorded paneId overlay) :
  ExitFrame t (t.overlayDied paneId overlay) paneId overlay ↔ host.Outlives paneId overlay := by
  have hSteady := steady_of_survivor hHost hMany
  have hEvolves := evolves_overlayDied h paneId overlay
  have hAlive := alive_iff h hHost hMany hRecorded
  have hWell := h.tab_wellFormed hHost.ws hHost.tab
  obtain ⟨ws, hId, hStands⟩ := stands_tabAfter hHost hMany overlay
  have hAfter : (t.overlayDied paneId overlay).Holds host.ws.id (t.tabAfter paneId overlay host) :=
    hId ▸ hStands.holds
  constructor
  · intro hFrame hFocused
    by_cases hAt : host.IsRecorded overlay
    · exact Or.inl hAt
    obtain ⟨hFocus, hZoom⟩ := hFrame.restored _ _ hHost.stands.holds hHost.pane hFocused _ hAfter
      number_tabAfter
    rw [tabAfter_elsewhere hAt] at hFocus hZoom
    rw [focused_survivor hWell hMany hFocused] at hFocus
    exact Or.inr ⟨hZoom.symm, fun hMem => hFocus (hAlive.2 hMem)⟩
  · intro hOutlives
    refine ⟨fun _ _ hTab hOther => hSteady.others h hTab hOther,
      fun _ hWs hOther => hSteady.active h hWs hOther, ?_⟩
    intro id tab hTab hPane hFocused tab' hTab' hNumber
    obtain ⟨rfl, rfl⟩ := hHost.eq_of_holds h hTab hPane
    obtain rfl := hEvolves.intact.holds_unique hTab' hAfter (hNumber.trans number_tabAfter.symm)
    rw [hAlive]
    by_cases hAt : host.IsRecorded overlay
    · exact tabAfter_recorded h hHost hMany hRecorded hAt hFocused
    obtain ⟨hZoom, hFocus⟩ := (hOutlives hFocused).resolve_left hAt
    rw [tabAfter_elsewhere hAt, focused_survivor hWell hMany hFocused]
    exact ⟨hFocus, hZoom.symm⟩

/-! ## Hosts that are gone -/

/-- The focus of a tab of one pane. -/
theorem Hosts.focused (h : t.Intact) (hHost : t.Hosts paneId host)
  (hLast : host.tab.layout.paneCount ≤ 1) : host.tab.layout.focused = paneId := by
  have hWell := h.tab_wellFormed hHost.ws hHost.tab
  have hLength := TileLayout.length_paneIds host.tab.layout
  have hPos := TileLayout.paneCount_pos host.tab.layout
  obtain ⟨only, hOnly⟩ := List.length_eq_one_iff.1
    (show host.tab.layout.paneIds.length = 1 by omega)
  have hFocus := hWell.layout.focus
  have hPane := (hWell.panes _).2 hHost.pane
  rw [hOnly, List.mem_singleton] at hFocus hPane
  exact hFocus.trans hPane.symm

theorem overlayFocused_of_last (h : t.Intact) (hHost : t.Hosts paneId host)
  (hLast : host.tab.layout.paneCount ≤ 1) :
  t.overlayFocused paneId overlay = true ↔ host.IsRecorded overlay := by
  rw [overlayFocused_iff]
  constructor
  · rintro ⟨ws, tab, hStands, rfl⟩
    obtain ⟨hWs, hTab⟩ := hStands.position_unique h hHost.stands
      (h.focused_mem hStands.workspaceAt hStands.tabAt) hHost.pane
    exact ⟨hWs, hTab⟩
  · rintro ⟨hWs, hTab⟩
    refine ⟨host.ws, host.tab, ?_, hHost.focused h hLast⟩
    rw [hWs, hTab]
    exact hHost.stands

/-- The workspaces once the host is gone, up to the numbers of panes and to which tab of its
workspace is active. -/
theorem paneDied_withoutHost (hHost : t.Hosts paneId host) (hLast : host.tab.layout.paneCount ≤ 1) :
  (∀ i : Nat, (t.paneDied paneId).workspaces[i]?.map (fun ws => (ws.id, ws.tabs)) =
      (t.withoutHost host)[i]?.map fun ws => (ws.id, ws.tabs)) ∧
    (host.ws.tabs.length ≤ 1 → (t.paneDied paneId).workspaces = t.withoutHost host) := by
  obtain ⟨hIdx, -⟩ := List.getElem?_eq_some_iff.1 hHost.ws
  rcases paneDied_gone hHost hLast with ⟨hMany, ws, hId, hTabs, hWorkspaces⟩ | ⟨hOne, hWorkspaces⟩
  · rw [hWorkspaces, withoutHost, if_neg (Nat.not_le.2 hMany)]
    refine ⟨fun i => ?_, fun hOne => absurd hOne (Nat.not_le.2 hMany)⟩
    by_cases hEq : i = host.wsIdx
    · subst hEq
      rw [List.getElem?_set_self hIdx, List.getElem?_set_self hIdx, Option.map_some,
        Option.map_some, hId, hTabs]
    · rw [List.getElem?_set_ne (Ne.symm hEq), List.getElem?_set_ne (Ne.symm hEq)]
  · rw [hWorkspaces, withoutHost, if_pos hOne]
    exact ⟨fun _ => rfl, fun _ => rfl⟩

/-- The other tabs are still there, and no other. -/
theorem holds_paneDied (h : t.Intact) (hHost : t.Hosts paneId host)
  (hLast : host.tab.layout.paneCount ≤ 1) :
  (t.paneDied paneId).Holds id tab ↔ t.Holds id tab ∧ paneId ∉ tab.panes := by
  obtain ⟨hIdx, -⟩ := List.getElem?_eq_some_iff.1 hHost.ws
  have hElsewhere : ∀ {i j : Nat} {ws : Workspace} {tab : Tab}, t.Stands i j ws tab →
      (i ≠ host.wsIdx ∨ j ≠ host.tabIdx) → paneId ∉ tab.panes := by
    intro i j ws tab hStands hNe hMem
    obtain ⟨hWs, hTab⟩ := hStands.position_unique h hHost.stands hMem hHost.pane
    exact hNe.elim (fun hNot => hNot hWs) fun hNot => hNot hTab
  have hAway : ∀ {i j : Nat} {ws : Workspace} {tab : Tab}, t.Stands i j ws tab →
      paneId ∉ tab.panes → i = host.wsIdx → ws = host.ws ∧ j ≠ host.tabIdx := by
    rintro i j ws tab ⟨hWs, hTab⟩ hOther rfl
    rw [hHost.ws] at hWs
    cases hWs
    refine ⟨rfl, ?_⟩
    rintro rfl
    rw [hHost.tab] at hTab
    exact hOther (Option.some.inj hTab ▸ hHost.pane)
  rcases paneDied_gone hHost hLast with ⟨hMany, ws', hId, hTabs, hWorkspaces⟩ | ⟨hOne, hWorkspaces⟩
  · rw [holds_iff, holds_iff, hWorkspaces]
    constructor
    · rintro ⟨i, ws, j, hWs, rfl, hTab⟩
      by_cases hEq : i = host.wsIdx
      · subst hEq
        rw [List.getElem?_set_self hIdx] at hWs
        cases hWs
        have hMem := List.mem_of_getElem? hTab
        rw [hTabs] at hMem
        obtain ⟨k, hNe, hAt⟩ := List.mem_eraseIdx_iff_getElem?.1 hMem
        exact ⟨⟨_, _, k, hHost.ws, hId.symm, hAt⟩, hElsewhere ⟨hHost.ws, hAt⟩ (Or.inr hNe)⟩
      · rw [List.getElem?_set_ne (Ne.symm hEq)] at hWs
        exact ⟨⟨i, ws, j, hWs, rfl, hTab⟩, hElsewhere ⟨hWs, hTab⟩ (Or.inl hEq)⟩
    · rintro ⟨⟨i, ws, j, hWs, rfl, hTab⟩, hOther⟩
      by_cases hEq : i = host.wsIdx
      · obtain ⟨rfl, hNe⟩ := hAway ⟨hWs, hTab⟩ hOther hEq
        obtain ⟨k, hk⟩ := List.mem_iff_getElem?.1 (List.mem_eraseIdx_iff_getElem?.2 ⟨j, hNe, hTab⟩)
        exact ⟨host.wsIdx, ws', k, List.getElem?_set_self hIdx, hId, hTabs ▸ hk⟩
      · exact ⟨i, ws, j, (List.getElem?_set_ne (Ne.symm hEq)).trans hWs, rfl, hTab⟩
  · have hOnly : ∀ {j : Nat}, j < host.ws.tabs.length → j = host.tabIdx := by
      intro j hj
      obtain ⟨hTabIdx, -⟩ := List.getElem?_eq_some_iff.1 hHost.tab
      omega
    constructor
    · rintro ⟨ws, hWs, rfl, hTab⟩
      rw [hWorkspaces] at hWs
      obtain ⟨i, hNe, hAt⟩ := List.mem_eraseIdx_iff_getElem?.1 hWs
      obtain ⟨j, hj⟩ := List.mem_iff_getElem?.1 hTab
      exact ⟨⟨ws, List.mem_of_getElem? hAt, rfl, hTab⟩, hElsewhere ⟨hAt, hj⟩ (Or.inl hNe)⟩
    · rintro ⟨hHolds, hOther⟩
      obtain ⟨i, ws, j, hWs, rfl, hTab⟩ := holds_iff.1 hHolds
      refine ⟨ws, ?_, rfl, List.mem_of_getElem? hTab⟩
      rw [hWorkspaces]
      refine List.mem_eraseIdx_iff_getElem?.2 ⟨i, fun hEq => ?_, hWs⟩
      obtain ⟨rfl, hNe⟩ := hAway ⟨hWs, hTab⟩ hOther hEq
      exact hNe (hOnly (List.getElem?_eq_some_iff.1 hTab).1)

theorem nextSpared_iff (hHost : t.Hosts paneId host) (hLast : host.tab.layout.paneCount ≤ 1) :
  t.NextSpared host overlay ↔ ∀ ws tab,
    (t.paneDied paneId).Stands overlay.wsIdx overlay.tabIdx ws tab →
      t.Settled host overlay ws tab := by
  obtain ⟨hSame, hEqual⟩ := paneDied_withoutHost hHost hLast
  have hAt := hSame overlay.wsIdx
  -- Only the active tab may differ, and it matters only where the lists are equal.
  have hActive : ∀ {ws ws' : Workspace} {tab : Tab},
      (t.paneDied paneId).workspaces[overlay.wsIdx]? = some ws →
      (t.withoutHost host)[overlay.wsIdx]? = some ws' →
      (t.Settled host overlay ws tab ↔ t.Settled host overlay ws' tab) := by
    intro ws ws' tab hWs hWs'
    by_cases hOne : host.ws.tabs.length ≤ 1
    · rw [hEqual hOne, hWs'] at hWs
      rw [Option.some.inj hWs]
    · simp only [Settled, hOne, false_imp_iff]
  constructor
  · intro hNext ws tab hStands
    rw [hStands.workspaceAt, Option.map_some, eq_comm, Option.map_eq_some_iff] at hAt
    obtain ⟨ws', hWs', hBoth⟩ := hAt
    refine (hActive hStands.workspaceAt hWs').2 (hNext ws' hWs' tab ?_)
    rw [(Prod.mk.inj hBoth).2]
    exact hStands.tabAt
  · intro hSettled ws' hWs' tab hTab
    rw [Option.mem_def.1 hWs', Option.map_some, Option.map_eq_some_iff] at hAt
    obtain ⟨ws, hWs, hBoth⟩ := hAt
    refine (hActive hWs hWs').1 (hSettled ws tab ⟨hWs, ?_⟩)
    rw [(Prod.mk.inj hBoth).2]
    exact hTab

theorem previousFocus_notMem (h : t.Intact) (hHost : t.Hosts paneId host)
  (hRecorded : t.Recorded paneId overlay) (hTab : t.Holds id tab) (hOther : paneId ∉ tab.panes) :
  overlay.previousFocus ∉ tab.panes := by
  intro hMem
  obtain ⟨ws, hWs, -, hIn⟩ := hTab
  have hTabs : tab ∈ t.tabs := mem_tabs.2 ⟨ws, hWs, hIn⟩
  have hHostTab : host.tab ∈ t.tabs := mem_tabs.2
    ⟨host.ws, List.mem_of_getElem? hHost.ws, List.mem_of_getElem? hHost.tab⟩
  have hTogether := hRecorded.together host.tab hHostTab hHost.pane
    (mem_paneIds.2 ⟨tab, hTabs, hMem⟩)
  exact hOther (h.tab_unique hHostTab hTabs hTogether hMem ▸ hHost.pane)

/-- What the tab at the recorded position is given once the host is gone. -/
theorem restoreTab_next (h : t.Intact) (hHost : t.Hosts paneId host)
  (hLast : host.tab.layout.paneCount ≤ 1) (hRecorded : t.Recorded paneId overlay)
  (hTab : (t.paneDied paneId).Holds id tab) :
  restoreTab overlay (t.overlayFocused paneId overlay) (t.zoomedBefore overlay) tab =
    { tab with
      zoomed := if host.IsRecorded overlay then overlay.previousZoomed
        else ((t.tabAt overlay.wsIdx overlay.tabIdx).map (·.zoomed)).getD tab.zoomed } := by
  obtain ⟨hBefore, hOther⟩ := (holds_paneDied h hHost hLast).1 hTab
  have hNot := previousFocus_notMem h hHost hRecorded hBefore hOther
  by_cases hAt : host.IsRecorded overlay
  · rw [(overlayFocused_of_last h hHost hLast).2 hAt, restoreTab, if_pos rfl, if_pos hAt,
      OverlayPaneState.restoredTab]
    simp only [if_neg hNot]
  · have hFalse : t.overlayFocused paneId overlay = false :=
      Bool.eq_false_iff.2 fun hTrue => hAt ((overlayFocused_of_last h hHost hLast).1 hTrue)
    rw [hFalse, restoreTab, if_neg hAt]
    rfl

theorem settled_zoom (hSettled : t.Settled host overlay ws tab) :
  (if host.IsRecorded overlay then overlay.previousZoomed
    else ((t.tabAt overlay.wsIdx overlay.tabIdx).map (·.zoomed)).getD tab.zoomed) =
      tab.zoomed := by
  unfold Settled at hSettled
  split
  next hAt =>
    rw [if_pos hAt] at hSettled
    exact hSettled.1.symm
  next hAt =>
    rw [if_neg hAt] at hSettled
    cases hStood : t.tabAt overlay.wsIdx overlay.tabIdx with
    | none => rfl
    | some stood => exact (hSettled stood hStood).symm

/-- The overlay was active if it was the only pane of the active workspace. -/
theorem isActivePane_of_last (h : t.Intact) (hHost : t.Hosts paneId host)
  (hLast : host.tab.layout.paneCount ≤ 1) (hOne : host.ws.tabs.length ≤ 1)
  (hAt : host.IsRecorded overlay) :
  t.isActivePane overlay.wsIdx overlay.tabIdx paneId = true ↔ t.active = some host.wsIdx := by
  obtain ⟨⟨_, hWell⟩, hInhabited⟩ := h.wellFormed_at hHost.ws
  have hActive := hWell.tabs.active hInhabited
  obtain ⟨hTabIdx, -⟩ := List.getElem?_eq_some_iff.1 hHost.tab
  have hIdx : host.ws.activeTab = host.tabIdx := by omega
  have hFocused : host.ws.focusedPaneId = some paneId := by
    rw [focusedPaneId, activeTab?, hIdx, hHost.tab, Option.map_some,
      hHost.focused h hLast]
  unfold isActivePane
  rw [hAt.1, hAt.2, hHost.ws]
  simp [hIdx, hFocused]

/-- The workspaces without the overlay are still there, and the same. -/
theorem workspace_paneDied (hHost : t.Hosts paneId host)
  (hLast : host.tab.layout.paneCount ≤ 1) {ws : Workspace} (hWs : ws ∈ t.workspaces)
  (hOther : paneId ∉ ws.paneIds) : ∃ i : Nat, (t.paneDied paneId).workspaces[i]? = some ws ∧
    (i = host.wsIdx → host.ws.tabs.length ≤ 1) := by
  obtain ⟨i, hi⟩ := List.mem_iff_getElem?.1 hWs
  have hNe : i ≠ host.wsIdx := by
    rintro rfl
    rw [hHost.ws] at hi
    cases hi
    exact hOther (Workspace.mem_paneIds.2 ⟨host.tab, List.mem_of_getElem? hHost.tab, hHost.pane⟩)
  rcases paneDied_gone hHost hLast with ⟨-, ws', -, -, hWorkspaces⟩ | ⟨hOne, hWorkspaces⟩
  · refine ⟨i, ?_, fun hEq => absurd hEq hNe⟩
    rw [hWorkspaces, List.getElem?_set_ne (Ne.symm hNe)]
    exact hi
  · obtain ⟨k, hk⟩ := List.mem_iff_getElem?.1 (List.mem_eraseIdx_iff_getElem?.2 ⟨i, hNe, hi⟩)
    exact ⟨k, hWorkspaces ▸ hk, fun _ => hOne⟩

/-- The tabs afterwards are the tabs left, by their numbers. -/
theorem holds_of_overlayDied (hTab : (t.overlayDied paneId overlay).Holds id tab') :
  ∃ tab, (t.paneDied paneId).Holds id tab ∧ tab.number = tab'.number := by
  obtain ⟨i, ws', j, hWs', rfl, hAt⟩ := holds_iff.1 hTab
  rw [overlayDied_eq] at hWs'
  have hBefore := hWs'
  rw [getElem?_restore, Option.map_eq_some_iff] at hBefore
  obtain ⟨ws, hWs, -⟩ := hBefore
  obtain ⟨found, hFound, hId, hNumbers, -⟩ := active_restore hWs overlay
    (t.isActivePane overlay.wsIdx overlay.tabIdx paneId) (t.overlayFocused paneId overlay)
    (t.zoomedBefore overlay)
  rw [hWs'] at hFound
  cases hFound
  have hNumber : tab'.number ∈ ws.tabs.map (·.number) :=
    hNumbers ▸ List.mem_map.2 ⟨tab', List.mem_of_getElem? hAt, rfl⟩
  obtain ⟨tab, hMem, hEq⟩ := List.mem_map.1 hNumber
  exact ⟨tab, ⟨ws, List.mem_of_getElem? hWs, hId.symm, hMem⟩, hEq⟩

/-- The workspace at the recorded index is told which of its tabs is active. -/
theorem activeTab_of_exitFrame (h : t.Intact) (hHost : t.Hosts paneId host)
  (hLast : host.tab.layout.paneCount ≤ 1)
  (hFrame : ExitFrame t (t.overlayDied paneId overlay) paneId overlay)
  (hStands : (t.paneDied paneId).Stands overlay.wsIdx overlay.tabIdx ws tab)
  (hAt : host.IsRecorded overlay) (hOne : host.ws.tabs.length ≤ 1)
  (hActive : t.active = some host.wsIdx) : ws.activeTab = overlay.tabIdx := by
  have hAfter := (evolves_overlayDied h paneId overlay).intact
  obtain ⟨k, hNe, hWs⟩ : ∃ k, k ≠ host.wsIdx ∧ t.workspaces[k]? = some ws := by
    have hMem := List.mem_of_getElem? hStands.workspaceAt
    rw [(paneDied_withoutHost hHost hLast).2 hOne, withoutHost, if_pos hOne] at hMem
    exact List.mem_eraseIdx_iff_getElem?.1 hMem
  have hOther : paneId ∉ ws.paneIds := fun hIn =>
    hNe (h.workspace_unique hWs hHost.ws hIn
      (Workspace.mem_paneIds.2 ⟨host.tab, List.mem_of_getElem? hHost.tab, hHost.pane⟩))
  obtain ⟨ws', hWs', hId', hNumber⟩ := hFrame.active ws (List.mem_of_getElem? hWs) hOther
  obtain ⟨found, hFound, hId, hNumbers, hTold⟩ := active_restore hStands.workspaceAt overlay
    (t.isActivePane overlay.wsIdx overlay.tabIdx paneId) (t.overlayFocused paneId overlay)
    (t.zoomedBefore overlay)
  obtain rfl := hAfter.id_unique hWs' (List.mem_of_getElem? hFound) (hId'.trans hId.symm)
  obtain ⟨hTabIdx, -⟩ := List.getElem?_eq_some_iff.1 hStands.tabAt
  rw [if_pos ⟨rfl, hTabIdx, (overlayFocused_of_last h hHost hLast).2 hAt,
    (isActivePane_of_last h hHost hLast hOne hAt).2 hActive⟩] at hTold
  rw [activeTab?, activeTab?, ← List.getElem?_map, ← List.getElem?_map,
    hNumbers, hTold] at hNumber
  obtain ⟨⟨_, hWell⟩, -⟩ := h.wellFormed_at hWs
  have hLength : overlay.tabIdx < (ws.tabs.map (·.number)).length := by
    rw [List.length_map]
    exact hTabIdx
  exact ((List.getElem?_inj hLength hWell.tabs.numbers.nodup).1 hNumber).symm

theorem settled_of_exitFrame (h : t.Intact) (hHost : t.Hosts paneId host)
  (hLast : host.tab.layout.paneCount ≤ 1) (hRecorded : t.Recorded paneId overlay)
  (hFrame : ExitFrame t (t.overlayDied paneId overlay) paneId overlay)
  (hStands : (t.paneDied paneId).Stands overlay.wsIdx overlay.tabIdx ws tab) :
  t.Settled host overlay ws tab := by
  have hAfter := (evolves_overlayDied h paneId overlay).intact
  obtain ⟨hBefore, hOther⟩ := (holds_paneDied h hHost hLast).1 hStands.holds
  have hZoom : (if host.IsRecorded overlay then overlay.previousZoomed
      else ((t.tabAt overlay.wsIdx overlay.tabIdx).map (·.zoomed)).getD tab.zoomed) =
        tab.zoomed := by
    obtain ⟨tab', hTab', hNumber, -, hZoomed⟩ := hFrame.others _ _ hBefore hOther
    obtain ⟨ws', hId, hRestored⟩ := hStands.restore overlay
      (t.isActivePane overlay.wsIdx overlay.tabIdx paneId) (t.overlayFocused paneId overlay)
      (t.zoomedBefore overlay)
    have hRestoredTab := hRestored.holds
    rw [if_pos ⟨rfl, rfl⟩, restoreTab_next h hHost hLast hRecorded hStands.holds, hId,
      ← overlayDied_eq] at hRestoredTab
    have hSame := hAfter.holds_unique hTab' hRestoredTab hNumber
    rw [hSame] at hZoomed
    exact hZoomed
  unfold Settled
  split
  next hAt =>
    rw [if_pos hAt] at hZoom
    exact ⟨hZoom.symm, activeTab_of_exitFrame h hHost hLast hFrame hStands hAt⟩
  next hAt =>
    intro stood hStood
    rw [if_neg hAt, Option.mem_def.1 hStood] at hZoom
    exact hZoom.symm

theorem exitFrame_of_last (h : t.Intact) (hHost : t.Hosts paneId host)
  (hLast : host.tab.layout.paneCount ≤ 1) (hRecorded : t.Recorded paneId overlay) :
  ExitFrame t (t.overlayDied paneId overlay) paneId overlay ↔ t.NextSpared host overlay := by
  rw [nextSpared_iff hHost hLast]
  refine ⟨fun hFrame _ _ hStands => settled_of_exitFrame h hHost hLast hRecorded hFrame hStands,
    fun hSettled => ⟨?_, ?_, ?_⟩⟩
  · intro id tab hTab hOther
    have hKept := (holds_paneDied h hHost hLast).2 ⟨hTab, hOther⟩
    obtain ⟨i, ws, j, hWs, rfl, hAt⟩ := holds_iff.1 hKept
    have hStands : (t.paneDied paneId).Stands i j ws tab := ⟨hWs, hAt⟩
    rw [overlayDied_eq]
    refine hStands.kept ?_
    rintro rfl rfl
    rw [restoreTab_next h hHost hLast hRecorded hStands.holds]
    exact ⟨rfl, settled_zoom (hSettled ws tab hStands)⟩
  · intro ws hWs hOther
    obtain ⟨i, hi, hHere⟩ := workspace_paneDied hHost hLast hWs hOther
    obtain ⟨ws', hAt, hId, hNumbers, hActive⟩ := active_restore hi overlay
      (t.isActivePane overlay.wsIdx overlay.tabIdx paneId) (t.overlayFocused paneId overlay)
      (t.zoomedBefore overlay)
    refine ⟨ws', List.mem_of_getElem? hAt, hId, map_activeTab? hNumbers ?_⟩
    rw [hActive]
    split
    next hMoved =>
      obtain ⟨rfl, hTabIdx, hFocused, hActivePane⟩ := hMoved
      have hRecordedHere := (overlayFocused_of_last h hHost hLast).1 hFocused
      have hOne := hHere hRecordedHere.1
      have hStands : (t.paneDied paneId).Stands overlay.wsIdx overlay.tabIdx ws
          ws.tabs[overlay.tabIdx] := ⟨hi, List.getElem?_eq_getElem hTabIdx⟩
      have hSettledHere := hSettled ws _ hStands
      rw [Settled, if_pos hRecordedHere] at hSettledHere
      exact (hSettledHere.2 hOne
        ((isActivePane_of_last h hHost hLast hOne hRecordedHere).1 hActivePane)).symm
    · rfl
  · intro id tab hTab hPane _ tab' hTab' hNumber
    obtain ⟨rfl, rfl⟩ := hHost.eq_of_holds h hTab hPane
    obtain ⟨left, hLeft, hLeftNumber⟩ := holds_of_overlayDied hTab'
    obtain ⟨hBefore, hOther⟩ := (holds_paneDied h hHost hLast).1 hLeft
    obtain rfl := h.holds_unique hBefore hTab (hLeftNumber.trans hNumber)
    exact absurd hPane hOther

/-- The end of an overlay touches no more than it should exactly where it is spared. -/
theorem exitFrame_iff (h : t.Intact) (hRecorded : t.Recorded paneId overlay) :
  ExitFrame t (t.overlayDied paneId overlay) paneId overlay ↔ t.Spared paneId overlay := by
  unfold Spared
  cases hHost : t.hostOf paneId with
  | none =>
    exact iff_of_true (exitFrame_of_none h hHost)
      fun _ hMem => absurd hMem (Option.not_mem_none _)
  | some host =>
    have hHosts := hosts_of_hostOf hHost
    have hOnly : (∀ other ∈ some host, if 1 < other.tab.layout.paneCount then
        other.Outlives paneId overlay else t.NextSpared other overlay) ↔
        if 1 < host.tab.layout.paneCount then host.Outlives paneId overlay
        else t.NextSpared host overlay := by
      simp only [Option.mem_def, Option.some.injEq, forall_eq']
    rw [hOnly]
    split
    next hMany => exact exitFrame_of_survivor h hHosts hMany hRecorded
    next hLast => exact exitFrame_of_last h hHosts (Nat.le_of_not_lt hLast) hRecorded

end Tree

namespace OverlayApp

/-- Whatever happened since, the end of an overlay's process changes no other tab's focus or zoom
and no other workspace's active tab, and restores its own tab, exactly where its record spares
them. -/
theorem exitFrame_run {start finish : OverlayApp} {operations : List Operation} {paneId : PaneId}
  {overlay : OverlayPaneState} (hIntact : start.state.toTree.Intact)
  (hNone : start.overlayPanes = ∅) (hRun : Run (ofPartial step) start operations finish)
  (hRecord : finish.overlayPanes.lookup paneId = some overlay) :
  Tree.ExitFrame finish.state.toTree (finish.paneDied paneId false).state.toTree paneId overlay ↔
    finish.state.toTree.Spared paneId overlay := by
  have hSound := run_sound hRun hIntact hNone
  rw [toTree_paneDied, if_neg Bool.false_ne_true, hRecord]
  exact Tree.exitFrame_iff hSound.intact (hSound.recorded paneId overlay hRecord)

/-- A program that has just started. -/
def idle : OverlayApp := ⟨AppState.initial ⟨false, .island, .toast, 0, .off⟩, ∅⟩

/-- An overlay over the second pane of a zoomed tab, then another tab in front. -/
def behind : List Operation :=
  [.createWorkspace true true, .splitPane 0 ⟨1⟩ .vertical none true true, .zoomPane 0 ⟨2⟩ .on,
    .spawnPaneCommand true, .createTab 0 none true true]

/-- An overlay that is left alone in its tab, in front of a zoomed one. -/
def leftAlone : List Operation :=
  [.createWorkspace true true, .spawnPaneCommand true, .createTab 0 none true true,
    .splitPane 0 ⟨3⟩ .vertical none true true, .zoomPane 0 ⟨4⟩ .on, .closePane 0 ⟨1⟩]

theorem exitFrame_behind : ∃ finish, Run (ofPartial step) idle behind finish ∧
  Tree.ExitFrame finish.state.toTree (finish.paneDied ⟨3⟩ false).state.toTree ⟨3⟩
    ⟨0, 0, ⟨2⟩, true⟩ := by
  have hRun : Run (ofPartial step) idle behind ((behind.foldlM step idle).get (by decide)) :=
    run_of_foldlM (Option.some_get _).symm
  exact ⟨_, hRun, (exitFrame_run Tree.intact_empty rfl hRun (by decide)).2 (by decide)⟩

/-- The tab that moves up to the place of the overlay's loses its zoom. -/
theorem not_exitFrame_leftAlone : ∃ finish, Run (ofPartial step) idle leftAlone finish ∧
  finish.overlayPanes.lookup ⟨2⟩ = some ⟨0, 0, ⟨1⟩, false⟩ ∧
    ¬ Tree.ExitFrame finish.state.toTree (finish.paneDied ⟨2⟩ false).state.toTree ⟨2⟩
      ⟨0, 0, ⟨1⟩, false⟩ := by
  have hRun : Run (ofPartial step) idle leftAlone
      ((leftAlone.foldlM step idle).get (by decide)) :=
    run_of_foldlM (Option.some_get _).symm
  have hRecord : ((leftAlone.foldlM step idle).get (by decide)).overlayPanes.lookup ⟨2⟩ =
      some ⟨0, 0, ⟨1⟩, false⟩ := by decide
  refine ⟨_, hRun, hRecord, ?_⟩
  have hSound := run_sound hRun Tree.intact_empty rfl
  rw [toTree_paneDied, if_neg Bool.false_ne_true, hRecord]
  refine fun hFrame => ?_
  have hSpared := (Tree.exitFrame_iff hSound.intact (hSound.recorded _ _ hRecord)).1 hFrame
  exact absurd hSpared (by decide)

/-- No pane comes back, nor does its id, and panes that share a tab go on sharing one while they
are alive. -/
theorem panes_of_run {start middle finish : OverlayApp} {early late : List Operation}
  (hIntact : start.state.toTree.Intact) (hNone : start.overlayPanes = ∅)
  (hEarly : Run (ofPartial step) start early middle)
  (hLate : Run (ofPartial step) middle late finish) :
  finish.state.toTree.Intact ∧
    (∀ id : PaneId, id.raw < middle.state.ids.nextPaneId → id ∉ middle.state.paneIds →
      id ∉ finish.state.paneIds) ∧
    ∀ tab ∈ middle.state.tabs, ∀ tab' ∈ finish.state.tabs, ∀ id ∈ tab.panes, id ∈ tab'.panes →
      ∀ other ∈ tab.panes, other ∈ finish.state.paneIds → other ∈ tab'.panes := by
  obtain ⟨⟨hFinish, -, hPanes, hCarried⟩, -⟩ := run_leads hLate (run_sound hEarly hIntact hNone)
  refine ⟨hFinish, ?_, ?_⟩
  · intro id hBelow hGone hBack
    exact hGone ((hPanes id hBack).resolve_right (Nat.not_le.2 hBelow))
  · intro tab hTab tab' hTab' id hId hId' other hOther hAlive
    obtain ⟨kept, hKept, hIn, hRest⟩ := hCarried tab hTab id hId
      (Tree.mem_paneIds.2 ⟨tab', hTab', hId'⟩)
    obtain rfl := hFinish.tab_unique hKept hTab' hIn hId'
    exact hRest other hOther hAlive

theorem panes_leftAlone : ∃ middle finish, Run (ofPartial step) idle leftAlone middle ∧
  Run (ofPartial step) middle [.splitPane 0 ⟨2⟩ .vertical none true true] finish ∧
    ⟨5⟩ ∈ finish.state.paneIds ∧ ⟨1⟩ ∉ finish.state.paneIds := by
  have hEarly := @run_reached _ _ idle leftAlone step (by decide)
  have hLate := @run_reached _ _ (reached step idle leftAlone)
    [.splitPane 0 ⟨2⟩ .vertical none true true] step (by decide)
  exact ⟨_, _, hEarly, hLate, by decide,
    (panes_of_run Tree.intact_empty rfl hEarly hLate).2.1 ⟨1⟩ (by decide) (by decide)⟩

end OverlayApp

end App
