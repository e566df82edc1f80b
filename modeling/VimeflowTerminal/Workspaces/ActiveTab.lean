import VimeflowTerminal.Workspaces.Runs

/-! The active tab is kept as an index, which every operation that takes a tab out
or puts one elsewhere has to adjust. The user must not end up on another tab. -/

namespace Workspaces

open Layout Numbering Transition

namespace Workspace

/-- The operations that take a tab out or move one. -/
inductive TabOp where
  | closeTab (idx : Nat)
  | removePane (paneId : PaneId)
  | closePane (paneId : PaneId)
  | takePaneForMove (paneId : PaneId)
  | moveTab (sourceIdx insertIdx : Nat)

def applyTabOp (ws : Workspace) : TabOp → Workspace
  | .closeTab idx => (ws.closeTab idx).1
  | .removePane paneId => (ws.removePane paneId).1
  | .closePane paneId => (ws.closePane paneId).1
  | .takePaneForMove paneId => (ws.takePaneForMove paneId).1
  | .moveTab sourceIdx insertIdx => (ws.moveTab sourceIdx insertIdx).1

/-- The tab of the pane is not the active one and holds no other pane. -/
def EmptiesOtherTab (ws : Workspace) (paneId : PaneId) : Prop :=
  ∃ idx tab, ws.findTabForPane paneId = some (idx, tab) ∧ tab.layout.paneCount ≤ 1 ∧
    idx ≠ ws.activeTab

/-- The operation removes another tab than the active one, or moves a tab. -/
def SparesActiveTab (ws : Workspace) : TabOp → Prop
  | .closeTab idx => idx ≠ ws.activeTab
  | .removePane paneId | .closePane paneId | .takePaneForMove paneId => ws.EmptiesOtherTab paneId
  | .moveTab _ _ => True

/-- The index of the tab the operation names. -/
def namedTab (ws : Workspace) : TabOp → Option Nat
  | .closeTab idx => some idx
  | .removePane paneId | .closePane paneId | .takePaneForMove paneId =>
    ws.findTabIndexForPane paneId
  | .moveTab sourceIdx _ => some sourceIdx

/-- The tabs of `tabs` other than the one the operation names, in order. -/
def otherTabs (ws : Workspace) (op : TabOp) (tabs : List Tab) : List Tab :=
  tabs.filter fun tab =>
    ((ws.namedTab op).bind fun idx => ws.tabs[idx]?).all fun named => tab.rootPane ≠ named.rootPane

/-- The same tab is active, and the tabs the operation does not name are the
same, in the same order. -/
structure KeepsActiveTab (ws ws' : Workspace) (op : TabOp) : Prop where
  active : ws'.activeTab? = ws.activeTab?
  others : ws.otherTabs op ws'.tabs = ws.otherTabs op ws.tabs

/-- The adjusted index finds the tab that was active. -/
theorem getElem?_adjustActiveTab {tabs : List Tab} {removedIdx activeTab : Nat}
  (hRemoved : removedIdx < tabs.length) (hActive : activeTab < tabs.length)
  (hNe : removedIdx ≠ activeTab) :
  (tabs.eraseIdx removedIdx)[adjustActiveTabAfterRemoval (tabs.eraseIdx removedIdx).length
    removedIdx activeTab]? = tabs[activeTab]? := by
  have hLength := List.length_eraseIdx_of_lt hRemoved
  have hAfter : removedIdx < activeTab →
      (tabs.eraseIdx removedIdx)[activeTab - 1]? = tabs[activeTab]? := by
    intro hLt
    rw [List.getElem?_eraseIdx_of_ge (by omega), Nat.sub_add_cancel (by omega)]
  unfold adjustActiveTabAfterRemoval
  split
  next hLast =>
    have hEq : (tabs.eraseIdx removedIdx).length - 1 = activeTab - 1 := by omega
    rw [hEq]
    exact hAfter (by omega)
  · split
    next hBefore => exact hAfter (by omega)
    next hBehind => exact List.getElem?_eraseIdx_of_lt (by omega)

variable {ws : Workspace} {away : List PaneId}

theorem KeepsActiveTab.refl (ws : Workspace) (op : TabOp) : KeepsActiveTab ws ws op :=
  ⟨rfl, rfl⟩

variable {idx : Nat} {tab : Tab} {paneId : PaneId}

/-- A tab other than the active one is taken out. -/
theorem keepsActiveTab_erase (h : ws.WellFormed away) {op : TabOp}
  (hAt : ws.tabs[idx]? = some tab) (hNe : idx ≠ ws.activeTab)
  (hNamed : ws.namedTab op = some idx) {ws' : Workspace}
  (hTabs : ws'.tabs = ws.tabs.eraseIdx idx) (hActive : ws'.activeTab =
    adjustActiveTabAfterRemoval (ws.tabs.eraseIdx idx).length idx ws.activeTab) :
  KeepsActiveTab ws ws' op := by
  have hLt := h.tabs.active (List.ne_nil_of_mem (List.mem_of_getElem? hAt))
  obtain ⟨hIdx, -⟩ := List.getElem?_eq_some_iff.1 hAt
  refine ⟨?_, ?_⟩
  · unfold activeTab?
    rw [hTabs, hActive]
    exact getElem?_adjustActiveTab hIdx hLt hNe
  · unfold otherTabs
    rw [hNamed, hTabs]
    refine Pieces.filter_eraseIdx hAt ?_
    simp [hAt]

theorem keepsActiveTab_closeTab (h : ws.WellFormed away) (hNe : idx ≠ ws.activeTab) :
  KeepsActiveTab ws (ws.closeTab idx).1 (.closeTab idx) := by
  unfold closeTab
  split
  · exact .refl ws _
  next tab hAt =>
    split
    · exact .refl ws _
    · exact keepsActiveTab_erase h hAt hNe rfl rfl rfl

theorem namedTab_of_found (hFound : ws.findTabForPane paneId = some (idx, tab)) :
  ws.findTabIndexForPane paneId = some idx := by
  obtain ⟨found, hIndex, hRest⟩ := Option.bind_eq_some_iff.1 hFound
  obtain ⟨_, _, hPair⟩ := Option.map_eq_some_iff.1 hRest
  rw [hIndex, (Prod.mk.inj hPair).1]

theorem keepsActiveTab_removePaneWith (remove : Tab → PaneId → Tab × Option (PaneId × TerminalId))
  (h : ws.WellFormed away) (hOther : ws.EmptiesOtherTab paneId) {op : TabOp}
  (hNamed : ws.namedTab op = ws.findTabIndexForPane paneId) :
  KeepsActiveTab ws (removePaneWith remove ws paneId).1 op := by
  obtain ⟨idx, tab, hFound, hLast, hNe⟩ := hOther
  obtain ⟨hAt, -⟩ := findTabForPane_some hFound
  rw [namedTab_of_found hFound] at hNamed
  simp only [removePaneWith, hFound, hLast, if_true]
  split
  · exact .refl ws op
  · exact keepsActiveTab_erase h hAt hNe hNamed rfl rfl

theorem keepsActiveTab_takePaneForMove (h : ws.WellFormed away)
  (hOther : ws.EmptiesOtherTab paneId) :
  KeepsActiveTab ws (ws.takePaneForMove paneId).1 (.takePaneForMove paneId) := by
  obtain ⟨idx, tab, hFound, hLast, hNe⟩ := hOther
  obtain ⟨hAt, hMem⟩ := findTabForPane_some hFound
  obtain ⟨pane, hLookup⟩ := Tab.exists_lookup hMem
  have hMoved := Tab.takePaneForMove_some hLookup
  simp only [takePaneForMove, hFound, hLast, if_true, hMoved]
  have hNamed : ws.namedTab (.takePaneForMove paneId) = some idx := namedTab_of_found hFound
  exact keepsActiveTab_erase h hAt hNe hNamed rfl rfl

/-- Two tabs with the same root pane are the same. -/
theorem eq_of_rootPane (h : ws.WellFormed away) {other : Tab} (hTab : tab ∈ ws.tabs)
  (hOther : other ∈ ws.tabs) (hRoot : tab.rootPane = other.rootPane) : tab = other := by
  have hNodup : (ws.tabs.flatMap fun tab => tab.attachments.map Prod.fst).Nodup := by
    have hIds := h.panes.nodup
    unfold paneIds attachments at hIds
    rwa [List.map_flatMap] at hIds
  by_contra hNe
  have hRootMem := Tab.mem_fst_attachments.2 (h.tabs.each tab hTab).root
  have hOtherMem := Tab.mem_fst_attachments.2 (h.tabs.each other hOther).root
  have hSymm : Std.Symm (Function.onFun List.Disjoint
      fun tab : Tab => tab.attachments.map Prod.fst) := ⟨fun _ _ hDisjoint _ hLeft hRight => hDisjoint hRight hLeft⟩
  have hDisjoint := (List.nodup_flatMap.1 hNodup).2.forall hTab hOther hNe
  exact hDisjoint hRootMem (hRoot ▸ hOtherMem)

/-- The tab found by the root pane of the active tab is the active tab. -/
theorem getElem?_activeByRootPane (h : ws.WellFormed away) {tabs : List Tab} {active : Tab}
  (hActive : ws.activeTab? = some active) (hPerm : tabs.Perm ws.tabs) (fallback : Nat) :
  tabs[ws.activeByRootPane tabs fallback]? = some active := by
  have hMem : active ∈ ws.tabs := List.mem_of_getElem? hActive
  have hFound : (tabs.findIdx? fun tab => tab.rootPane = active.rootPane).isSome = true := by
    rw [List.findIdx?_isSome, List.any_eq_true]
    exact ⟨active, hPerm.mem_iff.2 hMem, by simp⟩
  obtain ⟨i, hIndex⟩ := Option.isSome_iff_exists.1 hFound
  obtain ⟨hLt, hRoot, -⟩ := List.findIdx?_eq_some_iff_getElem.1 hIndex
  have hSame : tabs[i] = active :=
    eq_of_rootPane h (hPerm.mem_iff.1 (List.getElem_mem hLt)) hMem (by simpa using hRoot)
  simp only [activeByRootPane, hActive, Option.bind_some, hIndex, Option.getD_some]
  rw [List.getElem?_eq_getElem hLt, hSame]

theorem keepsActiveTab_moveTab (h : ws.WellFormed away) (sourceIdx insertIdx : Nat) :
  KeepsActiveTab ws (ws.moveTab sourceIdx insertIdx).1 (.moveTab sourceIdx insertIdx) := by
  unfold moveTab
  split
  · exact .refl ws _
  next tab hAt =>
    obtain ⟨hSource, -⟩ := List.getElem?_eq_some_iff.1 hAt
    dsimp only
    split
    · exact .refl ws _
    split
    · exact .refl ws _
    have hErased := List.length_eraseIdx_of_lt hSource
    have hTarget : moveTarget ws.tabs.length sourceIdx insertIdx ≤
        (ws.tabs.eraseIdx sourceIdx).length := by
      unfold moveTarget
      omega
    have hLt := h.tabs.active (List.ne_nil_of_mem (List.mem_of_getElem? hAt))
    have hActive : ws.activeTab? = some ws.tabs[ws.activeTab] := List.getElem?_eq_getElem hLt
    refine ⟨?_, ?_⟩
    · rw [hActive]
      exact getElem?_activeByRootPane h hActive (Pieces.move_perm hAt hTarget) _
    unfold otherTabs
    simp only [namedTab, Option.bind_some, hAt, Option.all_some]
    rw [Pieces.filter_insertIdx (by simp), Pieces.filter_eraseIdx hAt (by simp)]

/-- Taking out another tab and moving any tab leave the user on the same tab,
and the other tabs in the same order. -/
theorem active_tab_spared (h : ws.WellFormed away) {op : TabOp} (hSpares : ws.SparesActiveTab op) :
  KeepsActiveTab ws (ws.applyTabOp op) op := by
  cases op with
  | closeTab idx => exact keepsActiveTab_closeTab h hSpares
  | removePane paneId => exact keepsActiveTab_removePaneWith Tab.removePane h hSpares rfl
  | closePane paneId => exact keepsActiveTab_removePaneWith Tab.closePane h hSpares rfl
  | takePaneForMove paneId => exact keepsActiveTab_takePaneForMove h hSpares
  | moveTab sourceIdx insertIdx => exact keepsActiveTab_moveTab h sourceIdx insertIdx

def secondTab : List Operation := [.createTab true, .switchTab 1]

/-- Closing the first of two tabs while the second is active. -/
theorem active_tab_spared_secondTab :
  ∃ finish, secondTab.foldlM System.step System.opened = some finish ∧
    finish.workspace.activeTab = 1 ∧
    KeepsActiveTab finish.workspace (finish.workspace.applyTabOp (.closeTab 0)) (.closeTab 0) := by
  obtain ⟨finish, hFold, hActive⟩ : ∃ finish,
      secondTab.foldlM System.step System.opened = some finish ∧ finish.workspace.activeTab = 1 :=
    ⟨(secondTab.foldlM System.step System.opened).get (by decide), by simp, by decide⟩
  have hWell := (System.run_invariant (run_of_foldlM hFold) System.fresh_opened).wellFormed
  have hSpares : finish.workspace.SparesActiveTab (.closeTab 0) := by
    show 0 ≠ finish.workspace.activeTab
    omega
  exact ⟨finish, hFold, hActive, active_tab_spared hWell hSpares⟩

end Workspace

end Workspaces
