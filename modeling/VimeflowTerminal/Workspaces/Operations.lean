import VimeflowTerminal.Workspaces.WellFormed

/-! One specification for each operation: it keeps the workspace well-formed, and
the panes it loses and gains are named. -/

namespace Workspaces

open Layout Numbering

namespace Workspace

variable {ws : Workspace} {away : List PaneId}

variable {ws' ws : Workspace} {tab : Tab} {id : PaneId}

theorem change_tabs {lost gained : List (PaneId × TerminalId)} (hId : ws'.id = ws.id)
  (hAttachments : (lost ++ ws'.attachments).Perm (gained ++ ws.attachments))
  (hRegistry : ws'.publicPaneNumbers = ws.publicPaneNumbers)
  (hNext : ws'.nextPublicPaneNumber = ws.nextPublicPaneNumber)
  (hGrows : ws.nextPublicTabNumber ≤ ws'.nextPublicTabNumber)
  (hNumbers : ∀ n ∈ ws'.tabNumbers, n ∈ ws.tabNumbers ∨ ws.nextPublicTabNumber ≤ n) :
  Change ws ws' lost gained := by
  refine ⟨hId, hAttachments, ?_, hGrows, hNumbers⟩
  rw [hRegistry, hNext]
  exact Extends.refl _ _

theorem Change.refl (ws : Workspace) : Change ws ws [] [] :=
  change_tabs rfl (List.Perm.refl _) rfl rfl (Nat.le_refl _) fun _ hMem => Or.inl hMem

theorem wellFormed_of_some (hTabs : TabsWellFormed ws.tabs ws.activeTab ws.nextPublicTabNumber)
  (hSome : 0 < ws.tabs.length)
  (hPanes : Roster ws.paneIds ws.publicPaneNumbers ws.nextPublicPaneNumber away) :
  ws.WellFormed away :=
  ⟨hTabs, fun hEmpty => absurd hEmpty (List.ne_nil_of_length_pos hSome), hPanes⟩

theorem tabNumbers_set {idx : Nat} {tab' : Tab} (hAt : ws.tabs[idx]? = some tab)
  (hNumber : tab'.number = tab.number) (hTabs : ws'.tabs = ws.tabs.set idx tab') :
  ∀ n ∈ ws'.tabNumbers, n ∈ ws.tabNumbers ∨ ws.nextPublicTabNumber ≤ n := by
  intro n hMem
  rw [tabNumbers, hTabs, map_number_set hAt hNumber] at hMem
  exact Or.inl hMem

theorem unregister_spec (h : ws.WellFormed away) (hGone : id ∉ ws.paneIds) :
  (ws.unregisterPane id).WellFormed (away.filter fun other => other ≠ id) ∧
    Change ws (ws.unregisterPane id) [] [] :=
  ⟨⟨h.tabs, h.emptyActive, h.panes.erase hGone⟩, rfl, List.Perm.refl _, Extends.erase _ _ _,
    Nat.le_refl _, fun _ hMem => Or.inl hMem⟩

/-- The pane `id` has a number in `ws'`: the one it had, or the next one. -/
def Enrolled (ws ws' : Workspace) (id : PaneId) : Prop :=
  id ∈ ws.publicPaneNumbers ∧ ws'.publicPaneNumbers = ws.publicPaneNumbers ∧
      ws'.nextPublicPaneNumber = ws.nextPublicPaneNumber ∨
    ws'.publicPaneNumbers = ws.publicPaneNumbers.insert id ws.nextPublicPaneNumber ∧
      ws'.nextPublicPaneNumber = max ws.nextPublicPaneNumber (ws.nextPublicPaneNumber + 1)

/-- What a workspace with one more pane is like. -/
theorem gain_spec (h : ws.WellFormed away) {terminal : TerminalId} (hFresh : id ∉ ws.paneIds)
  (hId : ws'.id = ws.id) (hTabs : TabsWellFormed ws'.tabs ws'.activeTab ws'.nextPublicTabNumber)
  (hAttachments : ws'.attachments.Perm ((id, terminal) :: ws.attachments))
  (hEnrolled : Enrolled ws ws' id) (hGrows : ws.nextPublicTabNumber ≤ ws'.nextPublicTabNumber)
  (hNumbers : ∀ n ∈ ws'.tabNumbers, n ∈ ws.tabNumbers ∨ ws.nextPublicTabNumber ≤ n) :
  ws'.WellFormed away ∧ Change ws ws' [] [(id, terminal)] := by
  have hIds : ws'.paneIds.Perm (id :: ws.paneIds) := hAttachments.map Prod.fst
  have hSome : 0 < ws'.tabs.length := by
    obtain ⟨tab, hTab, -⟩ := mem_paneIds.1 (hIds.mem_iff.2 List.mem_cons_self)
    exact List.length_pos_of_mem hTab
  rcases hEnrolled with ⟨hMem, hRegistry, hNext⟩ | ⟨hRegistry, hNext⟩
  · refine ⟨wellFormed_of_some hTabs hSome ?_, change_tabs hId hAttachments hRegistry hNext hGrows
      hNumbers⟩
    rw [hRegistry, hNext]
    exact (h.panes.back hFresh hMem).perm hIds
  · refine ⟨wellFormed_of_some hTabs hSome ?_, hId, hAttachments, ?_, hGrows, hNumbers⟩
    · rw [hRegistry, hNext]
      exact (h.panes.register hFresh (Nat.le_refl _)).perm hIds
    · rw [hRegistry, hNext]
      exact Extends.register _ _ id (Nat.le_refl _)

theorem markSeen_spec (h : tab.WellFormed) :
  (markSeen tab).WellFormed ∧ (markSeen tab).attachments = tab.attachments := by
  refine ⟨⟨h.layout, ?_, FinMap.mem_mapValues.2 h.root⟩, ?_⟩
  · intro id
    exact (h.panes id).trans FinMap.mem_mapValues.symm
  show List.map _ (List.map _ _) = List.map _ _
  rw [List.map_map]
  rfl

theorem switchTab_spec (h : ws.WellFormed away) (idx : Nat) :
  (ws.switchTab idx).WellFormed away ∧ Change ws (ws.switchTab idx) [] [] := by
  unfold switchTab
  split
  · exact ⟨h, Change.refl ws⟩
  next tab hAt =>
    obtain ⟨hWell, hSame⟩ := markSeen_spec (h.tabs.each tab (List.mem_of_getElem? hAt))
    have hPerm := flatMap_set_same hAt hSame
    have hTabs := h.tabs.set hAt hWell rfl
    obtain ⟨hLt, -⟩ := List.getElem?_eq_some_iff.1 hAt
    have hSet : idx < (ws.tabs.set idx (markSeen tab)).length := by
      rw [List.length_set]
      exact hLt
    refine ⟨wellFormed_of_some (hTabs.perm (List.Perm.refl _) hSet) (Nat.zero_lt_of_lt hSet)
      (h.panes.perm (hPerm.map _)), ?_⟩
    exact change_tabs rfl hPerm rfl rfl (Nat.le_refl _)
      (tabNumbers_set hAt (show (markSeen tab).number = tab.number from rfl) rfl)

theorem activeByRootPane_lt {tabs : List Tab} {fallback : Nat} (hFallback : fallback < tabs.length) :
  ws.activeByRootPane tabs fallback < tabs.length := by
  unfold activeByRootPane
  cases hFound : ws.activeTab?.bind fun active =>
      tabs.findIdx? fun tab => tab.rootPane = active.rootPane with
  | none => exact hFallback
  | some i =>
    obtain ⟨active, -, hIndex⟩ := Option.bind_eq_some_iff.1 hFound
    obtain ⟨hLt, -⟩ := List.findIdx?_eq_some_iff_getElem.1 hIndex
    exact hLt

theorem moveTab_spec (h : ws.WellFormed away) (sourceIdx insertIdx : Nat) :
  (ws.moveTab sourceIdx insertIdx).1.WellFormed away ∧
    Change ws (ws.moveTab sourceIdx insertIdx).1 [] [] := by
  unfold moveTab
  split
  · exact ⟨h, Change.refl ws⟩
  next tab hAt =>
    obtain ⟨hSource, -⟩ := List.getElem?_eq_some_iff.1 hAt
    dsimp only
    split
    · exact ⟨h, Change.refl ws⟩
    split
    · exact ⟨h, Change.refl ws⟩
    have hErased := List.length_eraseIdx_of_lt hSource
    have hTarget : moveTarget ws.tabs.length sourceIdx insertIdx ≤
        (ws.tabs.eraseIdx sourceIdx).length := by
      unfold moveTarget
      omega
    have hTabs := Pieces.move_perm hAt hTarget
    have hPerm := Pieces.flatMap_move_perm Tab.attachments hAt hTarget
    have hLength := hTabs.length_eq
    refine ⟨wellFormed_of_some (h.tabs.perm hTabs ?_) ?_ (h.panes.perm (hPerm.map _)), ?_⟩
    · exact activeByRootPane_lt (by omega)
    · exact Nat.zero_lt_of_lt (hLength ▸ hSource)
    · refine change_tabs rfl hPerm rfl rfl (Nat.le_refl _) ?_
      intro n hMem
      exact Or.inl ((hTabs.map _).mem_iff.1 hMem)

/-- Closing a tab loses its panes. The last tab is not closed. -/
theorem closeTab_spec (h : ws.WellFormed away) (idx : Nat) :
  ∃ lost, (ws.closeTab idx).1.WellFormed away ∧ Change ws (ws.closeTab idx).1 lost [] ∧
    ((ws.closeTab idx).2 = false → (ws.closeTab idx).1 = ws) ∧
    (ws.tabs ≠ [] → (ws.closeTab idx).1.tabs ≠ []) := by
  unfold closeTab
  split
  · exact ⟨[], h, Change.refl ws, fun _ => rfl, fun hSome => hSome⟩
  next tab hAt =>
    split
    · exact ⟨[], h, Change.refl ws, fun _ => rfl, fun hSome => hSome⟩
    next hMany =>
      obtain ⟨hIdx, -⟩ := List.getElem?_eq_some_iff.1 hAt
      have hErased := List.length_eraseIdx_of_lt hIdx
      have hPerm := Pieces.flatMap_perm_eraseIdx Tab.attachments hAt
      have hIds : ws.paneIds.Perm
          (tab.panes.keys ++ ((ws.tabs.eraseIdx idx).flatMap Tab.attachments).map Prod.fst) := by
        rw [← Tab.fst_attachments, ← List.map_append]
        exact hPerm.map _
      have hSome : ws.tabs.eraseIdx idx ≠ [] := by
        refine List.ne_nil_of_length_pos ?_
        omega
      refine ⟨tab.attachments, ⟨h.tabs.erase idx, fun hEmpty => absurd hEmpty hSome,
        (h.panes.perm hIds.symm).drop⟩, ?_, fun hFalse => absurd hFalse Bool.true_eq_false.mp,
        fun _ => hSome⟩
      refine ⟨rfl, hPerm.symm, Extends.eraseAll _ _ _, Nat.le_refl _, ?_⟩
      intro n hMem
      exact Or.inl (((List.eraseIdx_sublist ws.tabs idx).map _).subset hMem)

theorem attachments_append (ws : Workspace) {attachment : PaneId × TerminalId}
  (hTab : tab.attachments = [attachment]) :
  ((ws.tabs ++ [tab]).flatMap Tab.attachments).Perm (attachment :: ws.attachments) := by
  rw [List.flatMap_append, List.flatMap_singleton, hTab]
  exact List.perm_append_singleton attachment _

theorem tabNumbers_append (ws : Workspace) (hNumber : tab.number = ws.nextPublicTabNumber) :
  ∀ n ∈ (ws.tabs ++ [tab]).map (·.number),
    n ∈ ws.tabNumbers ∨ ws.nextPublicTabNumber ≤ n := by
  intro n hMem
  rw [List.map_append, List.map_singleton, hNumber] at hMem
  rcases List.mem_append.1 hMem with hOld | hNew
  · exact Or.inl hOld
  · exact Or.inr (Nat.le_of_eq (List.mem_singleton.1 hNew).symm)

/-- A new tab of one pane, unless its process could not be spawned. -/
theorem createTab_spec (h : ws.WellFormed away) (hSome : ws.tabs ≠ []) {ids : IdCounters}
  (hFresh : (⟨ids.nextPaneId⟩ : PaneId) ∉ ws.paneIds) :
  (∃ ws', ws.createTabWithRuntime false ids = some (ids.allocPaneId.2, ws', none) ∧
    ws'.WellFormed away ∧ Change ws ws' [] []) ∧
  ∃ ws', ws.createTabWithRuntime true ids = some (ids.allocPaneId.2.allocTerminalId.2, ws',
      some (ws.tabs.length, ⟨⟨ids.nextPaneId⟩, ⟨ids.nextTerminalId⟩⟩)) ∧
    ws'.WellFormed away ∧ Change ws ws' [] [(⟨ids.nextPaneId⟩, ⟨ids.nextTerminalId⟩)] := by
  have hActive : ws.activeTab < ws.tabs.length := h.tabs.active hSome
  have hTab? : ws.activeTab? = some ws.tabs[ws.activeTab] := List.getElem?_eq_getElem hActive
  constructor
  · refine ⟨{ ws with nextPublicTabNumber := ws.nextPublicTabNumber + 1 }, ?_,
      ⟨h.tabs.bump, h.emptyActive, h.panes⟩, ?_⟩
    · have hSame : ({ ws with nextPublicTabNumber := ws.nextPublicTabNumber + 1 } :
          Workspace).activeTab? = some ws.tabs[ws.activeTab] := hTab?
      simp only [createTabWithRuntime, hSame, Option.map_some, Tab.new, Bool.false_eq_true, if_false]
    · exact change_tabs rfl (List.Perm.refl _) rfl rfl (Nat.le_succ _) fun _ hMem => Or.inl hMem
  · obtain ⟨tab, hNew, hWell, hNumber, hRoot, hAttachments⟩ :=
      Tab.new_spec ws.nextPublicTabNumber ids
    have hOne : ({ ws with nextPublicTabNumber := ws.nextPublicTabNumber + 1 } :
        Workspace).activeTab? = some ws.tabs[ws.activeTab] := hTab?
    refine ⟨{ ws with
      nextPublicTabNumber := ws.nextPublicTabNumber + 1
      publicPaneNumbers := ws.publicPaneNumbers.insert tab.rootPane ws.nextPublicPaneNumber
      nextPublicPaneNumber := max ws.nextPublicPaneNumber (ws.nextPublicPaneNumber + 1)
      tabs := ws.tabs ++ [tab] }, ?_, ?_⟩
    · simp only [createTabWithRuntime, hOne, Option.map_some, hNew]
      rfl
    refine gain_spec h hFresh rfl (h.tabs.append hWell hNumber h.emptyActive) ?_
      (Or.inr ⟨by rw [← hRoot], rfl⟩) (Nat.le_succ _) ?_
    · exact attachments_append ws hAttachments
    · exact tabNumbers_append ws hNumber

/-- An existing pane gets a tab of its own. -/
theorem createTabFromExistingPane_spec (h : ws.WellFormed away) {moved : MovedPane}
  (hFresh : moved.paneId ∉ ws.paneIds) (label : Option String) :
  (ws.createTabFromExistingPane moved label).1.WellFormed away ∧
    Change ws (ws.createTabFromExistingPane moved label).1 []
      [(moved.paneId, moved.paneState.attachedTerminalId)] := by
  have hTab := Tab.wellFormed_fromExistingPane ws.nextPublicTabNumber label moved
  have hTabs := h.tabs.append hTab rfl h.emptyActive
  have hAttachments := attachments_append ws
    (Tab.attachments_fromExistingPane ws.nextPublicTabNumber label moved)
  have hNumbers := tabNumbers_append ws
    (show (Tab.fromExistingPane ws.nextPublicTabNumber label moved).number = _ from rfl)
  unfold createTabFromExistingPane registerMovedPane
  dsimp only
  split
  next hMem =>
    exact gain_spec h hFresh rfl hTabs hAttachments (Or.inl ⟨hMem, rfl, rfl⟩) (Nat.le_succ _)
      hNumbers
  next hNew =>
    exact gain_spec h hFresh rfl hTabs hAttachments (Or.inr ⟨rfl, rfl⟩) (Nat.le_succ _) hNumbers

/-- A moved pane joins the panes of a tab. -/
theorem insertMovedPaneIntoTab_spec (h : ws.WellFormed away) {tabIdx : Nat} {target : PaneId}
  {moved : MovedPane} {direction : Direction} {ratio : Option ℚ}
  (hFresh : moved.paneId ∉ ws.paneIds)
  (hInsert : ws.insertMovedPaneIntoTab tabIdx target moved direction ratio = some ws') :
  ws'.WellFormed away ∧
    Change ws ws' [] [(moved.paneId, moved.paneState.attachedTerminalId)] := by
  obtain ⟨tab, hAt, hRest⟩ := Option.bind_eq_some_iff.1 hInsert
  obtain ⟨tab', hTab', hLast⟩ := Option.bind_eq_some_iff.1 hRest
  rw [Option.some.injEq] at hLast
  have hGained := Tab.insertExistingPane_spec (h.tabs.each tab (List.mem_of_getElem? hAt)) hTab'
  have hTabs := h.tabs.set hAt hGained.wellFormed hGained.number
  have hAttachments := flatMap_set_gained hAt hGained
  unfold registerMovedPane at hLast
  split at hLast
  next hMem =>
    subst hLast
    exact gain_spec h hFresh rfl hTabs hAttachments (Or.inl ⟨hMem, rfl, rfl⟩) (Nat.le_refl _)
      (tabNumbers_set hAt hGained.number rfl)
  next hNew =>
    subst hLast
    exact gain_spec h hFresh rfl hTabs hAttachments (Or.inr ⟨rfl, rfl⟩) (Nat.le_refl _)
      (tabNumbers_set hAt hGained.number rfl)

theorem focused_gained {tab' : Tab} {terminal : TerminalId} (h : tab.Gained tab' id terminal)
  (focus : PaneId) :
  tab.Gained (tab'.focusPane focus) id terminal :=
  ⟨h.wellFormed.focusPane focus, h.number, h.attachments⟩

theorem findTabForPane_unknown (hUnknown : id ∉ ws.paneIds) : ws.findTabForPane id = none := by
  cases hFound : ws.findTabForPane id with
  | none => rfl
  | some found =>
    obtain ⟨hAt, hMem⟩ := findTabForPane_some hFound
    exact absurd (mem_paneIds.2 ⟨found.2, List.mem_of_getElem? hAt, hMem⟩) hUnknown

theorem split_unknown (hUnknown : id ∉ ws.paneIds) (direction : Direction)
  (ratio : Option (Option ℚ)) (focusNewPane spawned : Bool) (ids : IdCounters) :
  ws.splitPaneWithRuntime id direction ratio focusNewPane spawned ids = (ids, ws, none) := by
  unfold splitPaneWithRuntime
  rw [findTabForPane_unknown hUnknown]

/-- A split adds one pane, unless its process could not be spawned. -/
theorem split_spec (h : ws.WellFormed away) (hMem : id ∈ ws.paneIds) (direction : Direction)
  (ratio : Option (Option ℚ)) (focusNewPane : Bool) {ids : IdCounters}
  (hFresh : (⟨ids.nextPaneId⟩ : PaneId) ∉ ws.paneIds) :
  (∃ ws', ws.splitPaneWithRuntime id direction ratio focusNewPane false ids =
      (ids.allocPaneId.2, ws', some none) ∧ ws'.WellFormed away ∧ Change ws ws' [] []) ∧
  ∃ ws' tabIdx, ws.splitPaneWithRuntime id direction ratio focusNewPane true ids =
      (ids.allocPaneId.2.allocTerminalId.2, ws',
        some (some (tabIdx, ⟨⟨ids.nextPaneId⟩, ⟨ids.nextTerminalId⟩⟩))) ∧
    ws'.WellFormed away ∧ Change ws ws' [] [(⟨ids.nextPaneId⟩, ⟨ids.nextTerminalId⟩)] := by
  obtain ⟨tabIdx, tab, hFound⟩ := exists_findTabForPane hMem
  obtain ⟨hAt, hPane⟩ := findTabForPane_some hFound
  have hTab := (h.tabs.each tab (List.mem_of_getElem? hAt)).focusPane id
  have hNew : (⟨ids.nextPaneId⟩ : PaneId) ∉ tab.panes := fun hIn =>
    hFresh (mem_paneIds.2 ⟨tab, List.mem_of_getElem? hAt, hIn⟩)
  constructor
  · obtain ⟨tab', hSplit, hRearranged⟩ := Tab.split_failed hTab direction ratio hNew
    have hWell := hRearranged.wellFormed.focusPane tab.layout.focused
    have hPanes : (tab'.focusPane tab.layout.focused).attachments = tab.attachments :=
      congrArg Tab.attached hRearranged.panes
    have hPerm := flatMap_set_same hAt hPanes
    have hTabs := h.tabs.set hAt hWell hRearranged.number
    refine ⟨{ ws with tabs := ws.tabs.set tabIdx (tab'.focusPane tab.layout.focused) },
      ?_, ?_, ?_⟩
    · simp only [splitPaneWithRuntime, hFound, hSplit]
    · refine wellFormed_of_some hTabs ?_ (h.panes.perm (hPerm.map _))
      rw [List.length_set]
      exact List.length_pos_of_mem (List.mem_of_getElem? hAt)
    · have hNumber : (tab'.focusPane tab.layout.focused).number = tab.number := hRearranged.number
      exact change_tabs rfl hPerm rfl rfl (Nat.le_refl _) (tabNumbers_set hAt hNumber rfl)
  · obtain ⟨tab', hSplit, hGained⟩ := Tab.split_spawned hTab direction ratio hNew
    obtain ⟨last, hLast, hLastGained⟩ : ∃ last, (if focusNewPane then tab' else
          tab'.focusPane tab.layout.focused) = last ∧
        tab.Gained last ⟨ids.nextPaneId⟩ ⟨ids.nextTerminalId⟩ := by
      cases focusNewPane with
      | true => exact ⟨_, rfl, ⟨hGained.wellFormed, hGained.number, hGained.attachments⟩⟩
      | false =>
        have hFocused := focused_gained hGained tab.layout.focused
        exact ⟨_, rfl, ⟨hFocused.wellFormed, hFocused.number, hFocused.attachments⟩⟩
    have hTabs := h.tabs.set hAt hLastGained.wellFormed hLastGained.number
    have hAttachments := flatMap_set_gained hAt hLastGained
    refine ⟨({ ws with tabs := ws.tabs.set tabIdx last } : Workspace).registerNewPaneWithNumber
      ⟨ids.nextPaneId⟩ ws.nextPublicPaneNumber, tabIdx, ?_, ?_⟩
    · simp only [splitPaneWithRuntime, hFound, hSplit, hLast]
    · exact gain_spec h hFresh rfl hTabs hAttachments (Or.inr ⟨rfl, rfl⟩) (Nat.le_refl _)
        (tabNumbers_set hAt hLastGained.number rfl)

theorem flatMap_erase_last {tabs : List Tab} {i : Nat} (hAt : tabs[i]? = some tab)
  (hWell : tab.WellFormed) (hLast : tab.layout.paneCount ≤ 1) {pane : PaneState}
  (hLookup : tab.panes.lookup id = some pane) :
  (tabs.flatMap Tab.attachments).Perm
    ((id, pane.attachedTerminalId) :: (tabs.eraseIdx i).flatMap Tab.attachments) := by
  have hPerm := Pieces.flatMap_perm_eraseIdx Tab.attachments hAt
  rwa [Tab.attachments_of_last hWell hLast hLookup] at hPerm

theorem paneIds_perm {tabs : List Tab} {terminal : TerminalId}
  (hPerm : (ws.tabs.flatMap Tab.attachments).Perm
    ((id, terminal) :: tabs.flatMap Tab.attachments)) :
  ws.paneIds.Perm (id :: (tabs.flatMap Tab.attachments).map Prod.fst) := hPerm.map Prod.fst

theorem tabNumbers_erase {idx : Nat} (hTabs : ws'.tabs = ws.tabs.eraseIdx idx) :
  ∀ n ∈ ws'.tabNumbers, n ∈ ws.tabNumbers ∨ ws.nextPublicTabNumber ≤ n := by
  intro n hMem
  rw [tabNumbers, hTabs] at hMem
  exact Or.inl (((List.eraseIdx_sublist ws.tabs idx).map _).subset hMem)

theorem emptyActive_erase (tabs : List Tab) (idx activeTab : Nat) :
  tabs.eraseIdx idx = [] →
    adjustActiveTabAfterRemoval (tabs.eraseIdx idx).length idx activeTab = 0 := by
  intro hEmpty
  rw [hEmpty]
  simp [adjustActiveTabAfterRemoval]

theorem take_unknown (hUnknown : id ∉ ws.paneIds) : ws.takePaneForMove id = (ws, none) := by
  unfold takePaneForMove
  rw [findTabForPane_unknown hUnknown]

/-- The pane taken out stays registered and is away. -/
theorem takePaneForMove_spec (h : ws.WellFormed away) (hMem : id ∈ ws.paneIds) :
  ∃ ws' taken, ws.takePaneForMove id = (ws', some taken) ∧ taken.moved.paneId = id ∧
    ws'.WellFormed (id :: away) ∧ taken.workspaceEmpty = ws'.tabs.isEmpty ∧
    Change ws ws' [(id, taken.moved.paneState.attachedTerminalId)] [] := by
  obtain ⟨tabIdx, tab, hFound⟩ := exists_findTabForPane hMem
  obtain ⟨hAt, hPane⟩ := findTabForPane_some hFound
  obtain ⟨pane, hLookup⟩ := Tab.exists_lookup hPane
  have hTab := h.tabs.each tab (List.mem_of_getElem? hAt)
  by_cases hFew : tab.layout.paneCount ≤ 1
  · have hPerm := flatMap_erase_last hAt hTab hFew hLookup
    have hIds := paneIds_perm hPerm
    refine ⟨{ ws with
      tabs := ws.tabs.eraseIdx tabIdx
      activeTab := adjustActiveTabAfterRemoval (ws.tabs.eraseIdx tabIdx).length tabIdx
        ws.activeTab },
      ⟨⟨id, pane⟩, some tabIdx, (ws.tabs.eraseIdx tabIdx).isEmpty⟩, ?_, rfl, ?_, rfl, ?_⟩
    · simp only [takePaneForMove, hFound, hFew, if_true, Tab.takePaneForMove_some hLookup]
    · exact ⟨h.tabs.erase tabIdx, emptyActive_erase _ _ _, (h.panes.perm hIds.symm).leave⟩
    · exact change_tabs rfl hPerm.symm rfl rfl (Nat.le_refl _) (tabNumbers_erase rfl)
  · obtain ⟨tab', hTake, hLost⟩ := Tab.takePaneForMove_many hTab (by omega) hLookup
    have hPerm := flatMap_set_lost hAt hLost
    have hIds := paneIds_perm hPerm
    have hSome : 0 < (ws.tabs.set tabIdx tab').length := by
      rw [List.length_set]
      exact List.length_pos_of_mem (List.mem_of_getElem? hAt)
    refine ⟨{ ws with tabs := ws.tabs.set tabIdx tab' }, ⟨⟨id, pane⟩, none, false⟩, ?_, rfl, ?_, ?_,
      ?_⟩
    · simp only [takePaneForMove, hFound, hFew, if_false, hTake, Option.map_some]
    · exact wellFormed_of_some (h.tabs.set hAt hLost.wellFormed hLost.number) hSome
        (h.panes.perm hIds.symm).leave
    · cases hEmpty : (ws.tabs.set tabIdx tab') with
      | nil => simp [hEmpty] at hSome
      | cons => rfl
    · exact change_tabs rfl hPerm.symm rfl rfl (Nat.le_refl _)
        (tabNumbers_set hAt hLost.number rfl)

/-- What removing a pane does: nothing for a foreign pane, the flag for the last
pane of the last tab, and otherwise the pane is gone and tabs remain. -/
structure Removed (ws ws' : Workspace) (closing : Bool) (id : PaneId) (away : List PaneId) :
  Prop where
  wellFormed : ws'.WellFormed away
  change : ∃ lost, Change ws ws' lost [] ∧ lost.map Prod.fst ⊆ [id]
  foreign : id ∉ ws.paneIds → ws' = ws ∧ closing = false
  flagged : closing = true → ws' = ws ∧ ws.paneIds.Perm [id]
  gone : closing = false → id ∉ ws'.paneIds
  remain : ws.tabs ≠ [] → ws'.tabs ≠ []

theorem removePaneWith_spec (h : ws.WellFormed away) (id : PaneId) :
  Removed ws (removePaneWith Tab.detachPane ws id).1 (removePaneWith Tab.detachPane ws id).2 id
    away := by
  cases hFound : ws.findTabForPane id with
  | none =>
    simp only [removePaneWith, hFound]
    exact ⟨h, ⟨[], Change.refl ws, List.nil_subset _⟩, fun _ => ⟨rfl, rfl⟩,
      fun hFlag => absurd hFlag Bool.false_ne_true, fun _ => findTabForPane_none hFound,
      fun hSome => hSome⟩
  | some found =>
    obtain ⟨tabIdx, tab⟩ := found
    obtain ⟨hAt, hPane⟩ := findTabForPane_some hFound
    have hIn : id ∈ ws.paneIds := mem_paneIds.2 ⟨tab, List.mem_of_getElem? hAt, hPane⟩
    have hTab := h.tabs.each tab (List.mem_of_getElem? hAt)
    obtain ⟨pane, hLookup⟩ := Tab.exists_lookup hPane
    by_cases hFew : tab.layout.paneCount ≤ 1
    · have hPerm := flatMap_erase_last hAt hTab hFew hLookup
      have hIds := paneIds_perm hPerm
      obtain ⟨hLt, -⟩ := List.getElem?_eq_some_iff.1 hAt
      have hErased := List.length_eraseIdx_of_lt hLt
      by_cases hOne : ws.tabs.length ≤ 1
      · simp only [removePaneWith, hFound, hFew, hOne, if_true]
        have hNil : ws.tabs.eraseIdx tabIdx = [] := List.length_eq_zero_iff.1 (by omega)
        rw [hNil] at hIds
        exact ⟨h, ⟨[], Change.refl ws, List.nil_subset _⟩, fun hNot => absurd hIn hNot,
          fun _ => ⟨rfl, hIds⟩, fun hFlag => absurd hFlag Bool.true_eq_false.mp,
          fun hSome => hSome⟩
      · simp only [removePaneWith, hFound, hFew, hOne, if_true, if_false]
        have hSome : ws.tabs.eraseIdx tabIdx ≠ [] := List.ne_nil_of_length_pos (by omega)
        have hRoster := h.panes.perm hIds.symm
        refine ⟨⟨h.tabs.erase tabIdx, fun hEmpty => absurd hEmpty hSome,
            hRoster.dropOne⟩,
          ⟨[(id, pane.attachedTerminalId)], ⟨rfl, hPerm.symm, Extends.erase _ _ _,
            Nat.le_refl _, tabNumbers_erase rfl⟩, List.Subset.refl _⟩,
          fun hNot => absurd hIn hNot, fun hFlag => absurd hFlag Bool.false_ne_true,
          fun _ => (List.nodup_cons.1 hRoster.nodup).1, fun _ => hSome⟩
    · obtain ⟨tab', terminal, hDetach, hLost⟩ := Tab.detachPane_spec hTab (by omega) hPane
      have hPerm := flatMap_set_lost hAt hLost
      have hIds := paneIds_perm hPerm
      have hRoster := h.panes.perm hIds.symm
      have hSome : 0 < (ws.tabs.set tabIdx tab').length := by
        rw [List.length_set]
        exact List.length_pos_of_mem (List.mem_of_getElem? hAt)
      simp only [removePaneWith, hFound, hFew, if_false, hDetach]
      refine ⟨wellFormed_of_some (h.tabs.set hAt hLost.wellFormed hLost.number) hSome
          (hRoster.dropOne),
        ⟨[(id, terminal)], ⟨rfl, hPerm.symm, Extends.erase _ _ _, Nat.le_refl _,
          tabNumbers_set hAt hLost.number rfl⟩, List.Subset.refl _⟩,
        fun hNot => absurd hIn hNot, fun hFlag => absurd hFlag Bool.false_ne_true,
        fun _ => (List.nodup_cons.1 hRoster.nodup).1, fun _ => List.ne_nil_of_length_pos hSome⟩

end Workspace

end Workspaces
