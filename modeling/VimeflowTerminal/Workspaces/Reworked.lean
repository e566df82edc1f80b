import VimeflowTerminal.Workspaces.Runs

/-! What every operation on a workspace has in common: it keeps the workspace well-formed and named,
brings in new panes only, and never parts panes of one tab. -/

namespace Workspaces

open Layout

namespace Workspace

/-- The panes of a tab that are still there are in one tab. -/
def Carried (ws ws' : Workspace) : Prop :=
  ∀ tab ∈ ws.tabs, ∀ id ∈ tab.panes, id ∈ ws'.paneIds →
    ∃ tab' ∈ ws'.tabs, id ∈ tab'.panes ∧ ∀ other ∈ tab.panes, other ∈ ws'.paneIds →
      other ∈ tab'.panes

/-- The new panes are numbered from `next` up to `next'`. -/
structure Reworked (ws ws' : Workspace) (next next' : Nat) : Prop where
  wellFormed : ∃ away, ws'.WellFormed away
  inhabited : ws'.tabs ≠ []
  id : ws'.id = ws.id
  panes : ∀ id ∈ ws'.paneIds, id ∈ ws.paneIds ∨ next ≤ id.raw ∧ id.raw < next'
  carried : Carried ws ws'

variable {ws ws' : Workspace} {away : List PaneId} {next next' : Nat}

theorem Carried.of_subset (hTabs : ws.tabs ⊆ ws'.tabs) : Carried ws ws' := fun tab hTab _ hPane _ =>
  ⟨tab, hTabs hTab, hPane, fun _ hOther _ => hOther⟩

variable {idx : Nat} {tab tab' : Tab} {ids ids' : IdCounters} {spawned focusNewPane : Bool}
  {direction : Direction} {ratio : Option (Option ℚ)} {newPane : NewPane} {id : PaneId}

theorem Carried.set (hAt : ws.tabs[idx]? = some tab) (hTabs : ws'.tabs = ws.tabs.set idx tab')
  (hPanes : ∀ id ∈ tab.panes, id ∈ ws'.paneIds → id ∈ tab'.panes) : Carried ws ws' := by
  obtain ⟨hIdx, hTab⟩ := List.getElem?_eq_some_iff.1 hAt
  intro other hOther id hId hKept
  obtain ⟨i, hi, rfl⟩ := List.mem_iff_getElem.1 hOther
  by_cases hEq : i = idx
  · subst hEq
    rw [hTab] at hId ⊢
    refine ⟨tab', ?_, hPanes id hId hKept, hPanes⟩
    rw [hTabs]
    exact List.mem_iff_getElem.2 ⟨i, by rwa [List.length_set], List.getElem_set_self _⟩
  · refine ⟨ws.tabs[i], ?_, hId, fun _ hMem _ => hMem⟩
    rw [hTabs]
    exact List.mem_iff_getElem.2 ⟨i, by rwa [List.length_set],
      List.getElem_set_ne (Ne.symm hEq) _⟩

theorem Carried.erase (h : ws.WellFormed away) {idx : Nat}
  (hTabs : ws'.tabs = ws.tabs.eraseIdx idx) : Carried ws ws' := by
  intro tab hTab id hId hKept
  by_cases hIn : tab ∈ ws'.tabs
  · exact ⟨tab, hIn, hId, fun _ hMem _ => hMem⟩
  -- The tab was taken out, and its panes are in no other tab.
  exfalso
  obtain ⟨i, hi, rfl⟩ := List.mem_iff_getElem.1 hTab
  have hEq : i = idx := by
    by_contra hNe
    exact hIn (hTabs ▸ List.mem_eraseIdx_iff_getElem.2 ⟨i, hi, hNe, rfl⟩)
  subst hEq
  have hPerm := Pieces.flatMap_perm_eraseIdx Tab.attachments (List.getElem?_eq_getElem hi)
  have hNodup := (hPerm.map Prod.fst).nodup_iff.1 h.panes.nodup
  rw [List.map_append] at hNodup
  refine (List.nodup_append.1 hNodup).2.2 id (Tab.mem_fst_attachments.2 hId) id ?_ rfl
  rw [← hTabs]
  exact hKept

theorem Reworked.of_change {lost gained : List (PaneId × TerminalId)} (hWell : ws'.WellFormed away)
  (hInhabited : ws'.tabs ≠ []) (hChange : Change ws ws' lost gained)
  (hGained : ∀ attachment ∈ gained, next ≤ attachment.1.raw ∧ attachment.1.raw < next')
  (hCarried : Carried ws ws') : Reworked ws ws' next next' := by
  refine ⟨⟨away, hWell⟩, hInhabited, hChange.id, ?_, hCarried⟩
  intro id hMem
  obtain ⟨attachment, hAttachment, rfl⟩ := List.mem_map.1 hMem
  rcases List.mem_append.1 (hChange.attachments.mem_iff.1
    (List.mem_append_right lost hAttachment)) with hNew | hOld
  · exact Or.inr (hGained attachment hNew)
  · exact Or.inl (List.mem_map.2 ⟨attachment, hOld, rfl⟩)

theorem Reworked.of_kept {lost : List (PaneId × TerminalId)} (hWell : ws'.WellFormed away)
  (hInhabited : ws'.tabs ≠ []) (hChange : Change ws ws' lost []) (hCarried : Carried ws ws') :
  Reworked ws ws' next next' :=
  .of_change hWell hInhabited hChange (fun _ hMem => absurd hMem List.not_mem_nil) hCarried

theorem Reworked.refl (h : ws.WellFormed away) (hInhabited : ws.tabs ≠ []) :
  Reworked ws ws next next' :=
  .of_kept h hInhabited (Change.refl ws) (.of_subset (List.Subset.refl _))

theorem inhabited_of_set (hInhabited : ws.tabs ≠ []) (hTabs : ws'.tabs = ws.tabs.set idx tab') :
  ws'.tabs ≠ [] := by
  rw [hTabs]
  simpa using hInhabited

section

variable (h : ws.WellFormed away)
include h

theorem switchTab_reworked (hInhabited : ws.tabs ≠ []) (idx : Nat) :
  Reworked ws (ws.switchTab idx) next next' := by
  obtain ⟨hWell, hChange⟩ := switchTab_spec h idx
  cases hAt : ws.tabs[idx]? with
  | none =>
    rw [switchTab, hAt]
    exact .refl h hInhabited
  | some tab =>
    have hTabs : (ws.switchTab idx).tabs = ws.tabs.set idx (markSeen tab) := by
      rw [switchTab, hAt]
    exact .of_kept hWell (inhabited_of_set hInhabited hTabs) hChange
      (.set hAt hTabs fun _ hMem _ => FinMap.mem_mapValues.2 hMem)

/-- Changing a tab without touching its panes or its number. -/
theorem setTab_reworked (hAt : ws.tabs[idx]? = some tab)
  (hTab : tab.Rearranged tab') :
  Reworked ws { ws with tabs := ws.tabs.set idx tab' } next next' := by
  have hPerm := flatMap_set_same hAt (show tab'.attachments = tab.attachments from
    congrArg Tab.attached hTab.panes)
  have hSome : 0 < (ws.tabs.set idx tab').length := by
    rw [List.length_set]
    exact List.length_pos_of_mem (List.mem_of_getElem? hAt)
  have hChange : Change ws { ws with tabs := ws.tabs.set idx tab' } [] [] :=
    change_tabs rfl hPerm rfl rfl (Nat.le_refl _) (tabNumbers_set hAt hTab.number rfl)
  refine .of_kept (wellFormed_of_some (h.tabs.set hAt hTab.wellFormed hTab.number) hSome
    (h.panes.perm (hPerm.map _))) (List.ne_nil_of_length_pos hSome) hChange (.set hAt rfl ?_)
  intro id hMem _
  rw [hTab.panes]
  exact hMem

theorem setActiveTab_reworked (hIdx : idx < ws.tabs.length) :
  Reworked ws { ws with activeTab := idx } next next' := by
  have hInhabited := List.ne_nil_of_length_pos (Nat.zero_lt_of_lt hIdx)
  have hChange : Change ws { ws with activeTab := idx } [] [] :=
    change_tabs rfl (List.Perm.refl _) rfl rfl (Nat.le_refl _) fun _ hMem => Or.inl hMem
  exact .of_kept (wellFormed_of_some (h.tabs.perm (List.Perm.refl _) hIdx)
    (Nat.zero_lt_of_lt hIdx) h.panes) hInhabited hChange (.of_subset (List.Subset.refl _))

theorem moveTab_reworked (hInhabited : ws.tabs ≠ [])
  (sourceIdx insertIdx : Nat) :
  Reworked ws (ws.moveTab sourceIdx insertIdx).1 next next' := by
  obtain ⟨hWell, hChange⟩ := moveTab_spec h sourceIdx insertIdx
  have hPerm : (ws.moveTab sourceIdx insertIdx).1.tabs.Perm ws.tabs := by
    unfold moveTab
    split
    · exact List.Perm.refl _
    next tab hAt =>
      dsimp only
      split
      · exact List.Perm.refl _
      split
      · exact List.Perm.refl _
      refine Pieces.move_perm hAt ?_
      obtain ⟨hSource, -⟩ := List.getElem?_eq_some_iff.1 hAt
      have hErased := List.length_eraseIdx_of_lt hSource
      unfold moveTarget
      omega
  refine .of_kept hWell ?_ hChange (.of_subset fun _ hMem => hPerm.mem_iff.2 hMem)
  exact fun hNil => hInhabited (List.Perm.nil_eq (hNil ▸ hPerm)).symm

theorem closeTab_reworked (hInhabited : ws.tabs ≠ []) (idx : Nat) :
  Reworked ws (ws.closeTab idx).1 next next' := by
  obtain ⟨lost, hWell, hChange, hKept, hRemain⟩ := closeTab_spec h idx
  refine .of_kept hWell (hRemain hInhabited) hChange ?_
  cases hClosed : (ws.closeTab idx).2 with
  | false =>
    rw [hKept hClosed]
    exact .of_subset (List.Subset.refl _)
  | true =>
    refine @Carried.erase _ _ _ h idx ?_
    unfold closeTab at hClosed ⊢
    split at hClosed
    · cases hClosed
    split at hClosed
    · cases hClosed
    next hMany => rw [if_neg hMany]

end

theorem tabs_createTab {created : Option (Nat × NewPane)}
  (hCreate : ws.createTabWithRuntime spawned ids = some (ids', ws', created)) :
  ws.tabs ⊆ ws'.tabs := by
  obtain ⟨_, -, hRest⟩ := Option.map_eq_some_iff.1 hCreate
  split at hRest
  · cases hRest
    exact List.Subset.refl _
  · cases hRest
    exact List.subset_append_left _ _

/-- An allocation of ids that is not a workspace's. -/
structure Allocates (ids ids' : IdCounters) : Prop where
  panes : ids.nextPaneId ≤ ids'.nextPaneId
  workspaces : ids'.nextWorkspaceId = ids.nextWorkspaceId

theorem createTab_reworked (h : ws.WellFormed away) (hInhabited : ws.tabs ≠ [])
  (hFresh : (⟨ids.nextPaneId⟩ : PaneId) ∉ ws.paneIds) {created : Option (Nat × NewPane)}
  (hCreate : ws.createTabWithRuntime spawned ids = some (ids', ws', created)) :
  Reworked ws ws' ids.nextPaneId ids'.nextPaneId ∧ Allocates ids ids' := by
  have hTabs := tabs_createTab hCreate
  have hSome : ws'.tabs ≠ [] := fun hNil => hInhabited (List.subset_nil.1 (hNil ▸ hTabs))
  obtain ⟨⟨failed, hFailed, hFailedWell, hFailedChange⟩, made, hMade, hMadeWell, hMadeChange⟩ :=
    createTab_spec h hInhabited hFresh
  cases spawned with
  | false =>
    rw [hFailed] at hCreate
    cases hCreate
    exact ⟨.of_kept hFailedWell hSome hFailedChange (.of_subset hTabs), Nat.le_succ _, rfl⟩
  | true =>
    rw [hMade] at hCreate
    cases hCreate
    refine ⟨.of_change hMadeWell hSome hMadeChange ?_ (.of_subset hTabs), Nat.le_succ _, rfl⟩
    intro attachment hMem
    rw [List.mem_singleton.1 hMem]
    exact ⟨Nat.le_refl _, Nat.lt_succ_self _⟩

theorem panes_splitFocused {created : Option NewPane}
  (hSplit : tab.splitFocusedWithRuntime direction ratio spawned ids = (ids', tab', created)) :
  ∀ id ∈ tab.panes, id ∈ tab'.panes := by
  intro id hMem
  unfold Tab.splitFocusedWithRuntime at hSplit
  dsimp only at hSplit
  split at hSplit
  · cases hSplit
    exact (AList.mem_insert _).2 (Or.inr hMem)
  · cases hSplit
    exact hMem

theorem new_splitFocused (hSplit : tab.splitFocusedWithRuntime direction ratio spawned ids =
    (ids', tab', some newPane)) :
  newPane.paneId = ⟨ids.nextPaneId⟩ ∧ ids'.nextPaneId = ids.nextPaneId + 1 ∧
    newPane.paneId ∈ tab'.panes := by
  unfold Tab.splitFocusedWithRuntime at hSplit
  dsimp only at hSplit
  split at hSplit
  · cases hSplit
    exact ⟨rfl, rfl, (AList.mem_insert _).2 (Or.inl rfl)⟩
  · cases hSplit

theorem carried_split {created : Option (Option (Nat × NewPane))}
  (hSplit : ws.splitPaneWithRuntime id direction ratio focusNewPane spawned ids =
    (ids', ws', created)) : Carried ws ws' ∧ (ws.tabs ≠ [] → ws'.tabs ≠ []) := by
  unfold splitPaneWithRuntime at hSplit
  split at hSplit
  · cases hSplit
    exact ⟨.of_subset (List.Subset.refl _), fun hInhabited => hInhabited⟩
  next tabIdx tab hFound =>
    obtain ⟨hAt, -⟩ := findTabForPane_some hFound
    split at hSplit
    next _ tab' hTab =>
      cases hSplit
      exact ⟨.set hAt rfl fun id hMem _ => panes_splitFocused hTab id hMem,
        fun hInhabited => inhabited_of_set hInhabited rfl⟩
    next _ tab' newPane hTab =>
      cases hSplit
      refine ⟨.set hAt rfl fun id hMem _ => ?_, fun hInhabited => inhabited_of_set hInhabited rfl⟩
      have hKept := panes_splitFocused hTab id hMem
      split
      · exact hKept
      · exact hKept

theorem split_reworked (h : ws.WellFormed away) (hInhabited : ws.tabs ≠ [])
  (hFresh : (⟨ids.nextPaneId⟩ : PaneId) ∉ ws.paneIds)
  {created : Option (Option (Nat × NewPane))}
  (hSplit : ws.splitPaneWithRuntime id direction ratio focusNewPane spawned ids =
    (ids', ws', created)) :
  Reworked ws ws' ids.nextPaneId ids'.nextPaneId ∧ Allocates ids ids' := by
  obtain ⟨hCarried, hSome⟩ := carried_split hSplit
  by_cases hMem : id ∈ ws.paneIds
  · obtain ⟨⟨failed, hFailed, hFailedWell, hFailedChange⟩, made, tabIdx, hMade, hMadeWell,
      hMadeChange⟩ := split_spec h hMem direction ratio focusNewPane hFresh
    cases spawned with
    | false =>
      rw [hFailed] at hSplit
      cases hSplit
      exact ⟨.of_kept hFailedWell (hSome hInhabited) hFailedChange hCarried, Nat.le_succ _, rfl⟩
    | true =>
      rw [hMade] at hSplit
      cases hSplit
      refine ⟨.of_change hMadeWell (hSome hInhabited) hMadeChange ?_ hCarried, Nat.le_succ _, rfl⟩
      intro attachment hAttachment
      rw [List.mem_singleton.1 hAttachment]
      exact ⟨Nat.le_refl _, Nat.lt_succ_self _⟩
  · rw [split_unknown hMem] at hSplit
    cases hSplit
    exact ⟨.refl h hInhabited, Nat.le_refl _, rfl⟩

/-- Where a split that succeeded put the new pane. -/
theorem split_opened {tabIdx : Nat}
  (hSplit : ws.splitPaneWithRuntime id direction ratio focusNewPane spawned ids =
    (ids', ws', some (some (tabIdx, newPane)))) :
  newPane.paneId = ⟨ids.nextPaneId⟩ ∧ ids'.nextPaneId = ids.nextPaneId + 1 ∧
    ∃ tab', ws'.tabs[tabIdx]? = some tab' ∧ newPane.paneId ∈ tab'.panes ∧ id ∈ tab'.panes := by
  unfold splitPaneWithRuntime at hSplit
  split at hSplit
  · cases hSplit
  next tabIdx tab hFound =>
    obtain ⟨hAt, hMem⟩ := findTabForPane_some hFound
    split at hSplit
    · cases hSplit
    next _ tab' newPane hTab =>
      have hKept := panes_splitFocused hTab id hMem
      obtain ⟨hId, hNext, hNew⟩ := new_splitFocused hTab
      cases hSplit
      refine ⟨hId, hNext, if focusNewPane then tab' else tab'.focusPane tab.layout.focused, ?_, ?_,
        ?_⟩
      · exact List.getElem?_set_self (List.getElem?_eq_some_iff.1 hAt).1
      · split
        · exact hNew
        · exact hNew
      · split
        · exact hKept
        · exact hKept

theorem panes_detachPane_none (hDetach : tab.detachPane id = (tab', none)) :
  tab'.panes = tab.panes := by
  unfold Tab.detachPane at hDetach
  split at hDetach
  · cases hDetach
    rfl
  split at hDetach
  · cases hDetach
    rfl
  · cases hDetach

theorem panes_detachPane_some {removed : PaneId} {terminal : TerminalId}
  (hDetach : tab.detachPane id = (tab', some (removed, terminal))) :
  removed = id ∧ tab'.panes = tab.panes.erase id := by
  unfold Tab.detachPane at hDetach
  split at hDetach
  · cases hDetach
  split at hDetach
  · cases hDetach
  · cases hDetach
    exact ⟨rfl, rfl⟩

theorem carried_removePaneWith (h : ws.WellFormed away) (id : PaneId) :
  Carried ws (removePaneWith Tab.detachPane ws id).1 := by
  have hRemoved := removePaneWith_spec h id
  cases hFlag : (removePaneWith Tab.detachPane ws id).2 with
  | true =>
    rw [(hRemoved.flagged hFlag).1]
    exact .of_subset (List.Subset.refl _)
  | false =>
    have hGone := hRemoved.gone hFlag
    revert hGone
    unfold removePaneWith
    split
    · exact fun _ => .of_subset (List.Subset.refl _)
    next tabIdx tab hFound =>
      obtain ⟨hAt, -⟩ := findTabForPane_some hFound
      split
      · split
        · exact fun _ => .of_subset (List.Subset.refl _)
        · exact fun _ => .erase h rfl
      · split
        next tab' hDetach =>
          intro _
          refine .set hAt rfl fun other hOther _ => ?_
          exact panes_detachPane_none hDetach ▸ hOther
        next tab' removed terminal hDetach =>
          intro hGone
          obtain ⟨rfl, hPanes⟩ := panes_detachPane_some hDetach
          refine .set hAt rfl fun other hOther hKept => ?_
          rw [hPanes]
          exact AList.mem_erase.2 ⟨fun hEq => hGone (hEq ▸ hKept), hOther⟩

theorem removePaneWith_reworked (h : ws.WellFormed away) (hInhabited : ws.tabs ≠ []) (id : PaneId) :
  Reworked ws (removePaneWith Tab.detachPane ws id).1 next next' := by
  have hRemoved := removePaneWith_spec h id
  obtain ⟨lost, hChange, -⟩ := hRemoved.change
  exact .of_kept hRemoved.wellFormed (hRemoved.remain hInhabited) hChange
    (carried_removePaneWith h id)

/-- A pane is found in the tab it is in. -/
theorem findTabForPane_at (h : ws.WellFormed away) (hAt : ws.tabs[idx]? = some tab)
  (hMem : id ∈ tab.panes) :
  ws.findTabForPane id = some (idx, tab) := by
  obtain ⟨i, found, hFound⟩ := exists_findTabForPane
    (mem_paneIds.2 ⟨tab, List.mem_of_getElem? hAt, hMem⟩)
  obtain ⟨hFoundAt, hFoundMem⟩ := findTabForPane_some hFound
  have hNodup : (ws.tabs.flatMap fun tab => tab.attachments.map Prod.fst).Nodup := by
    have hPanes := h.panes.nodup
    unfold paneIds attachments at hPanes
    rwa [List.map_flatMap] at hPanes
  have hSame := Pieces.index_unique _ hNodup hFoundAt hAt (Tab.mem_fst_attachments.2 hFoundMem)
    (Tab.mem_fst_attachments.2 hMem)
  subst hSame
  rw [hFoundAt] at hAt
  rw [hFound, Option.some.inj hAt]

theorem newWithTab_ids (spawned : Bool) (ids : IdCounters) :
  (newWithTab spawned ids).1.nextPaneId = ids.nextPaneId + 1 ∧
    (newWithTab spawned ids).1.nextWorkspaceId = ids.nextWorkspaceId + 1 := by
  cases spawned with
  | false => exact ⟨rfl, rfl⟩
  | true => exact ⟨rfl, rfl⟩

theorem newWithTab_spec (hNew : newWithTab spawned ids = (ids', some (ws, newPane))) :
  ws.WellFormed [] ∧ ws.tabs ≠ [] ∧ ws.paneIds = [⟨ids.nextPaneId⟩] ∧
    ws.id = publicWorkspaceId ids.nextWorkspaceId := by
  cases spawned with
  | false => cases hNew
  | true =>
    have hFresh : System.Fresh ⟨ws, ids', [], [1], [1]⟩ :=
      ⟨rfl, rfl, rfl, ids, Or.inl ⟨newPane, hNew⟩⟩
    refine ⟨(System.invariant_fresh hFresh).wellFormed, ?_⟩
    cases hNew
    exact ⟨List.cons_ne_nil _ _, rfl, rfl⟩

end Workspace

end Workspaces
