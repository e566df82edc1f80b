import Mathlib.Data.List.Flatten
import VimeflowTerminal.App.MovedBlocks
import VimeflowTerminal.Workspaces.Reworked

/-! The invariant of the tree of workspaces, and what every operation keeps of it: panes of one tab
stay together for as long as they live. -/

namespace App

open Layout Workspaces

namespace Tree

def tabs (t : Tree) : List Tab := t.workspaces.flatMap (·.tabs)

def paneIds (t : Tree) : List PaneId := t.workspaces.flatMap Workspace.paneIds

/-- Every workspace is well-formed and has a tab, nothing occurs twice, and the counters are ahead
of what they have handed out. -/
structure Intact (t : Tree) : Prop where
  wellFormed : ∀ ws ∈ t.workspaces, ∃ away, ws.WellFormed away
  inhabited : ∀ ws ∈ t.workspaces, ws.tabs ≠ []
  panes : t.paneIds.Nodup
  allocated : ∀ id ∈ t.paneIds, id.raw < t.ids.nextPaneId
  distinct : t.DistinctIds
  generated : ∀ ws ∈ t.workspaces, ∀ n, t.ids.nextWorkspaceId ≤ n →
    ws.id ≠ Workspaces.publicWorkspaceId n
  counting : 0 < t.ids.nextWorkspaceId

/-- What a step may do to a tree. -/
structure Evolves (t t' : Tree) : Prop where
  intact : t'.Intact
  grows : t.ids.nextPaneId ≤ t'.ids.nextPaneId
  panes : ∀ id ∈ t'.paneIds, id ∈ t.paneIds ∨ t.ids.nextPaneId ≤ id.raw
  carried : ∀ tab ∈ t.tabs, ∀ id ∈ tab.panes, id ∈ t'.paneIds →
    ∃ tab' ∈ t'.tabs, id ∈ tab'.panes ∧ ∀ other ∈ tab.panes, other ∈ t'.paneIds → other ∈ tab'.panes

variable {t t' t'' : Tree}

theorem mem_tabs {tab : Tab} : tab ∈ t.tabs ↔ ∃ ws ∈ t.workspaces, tab ∈ ws.tabs := List.mem_flatMap

variable {id : PaneId} {ws : Workspace} {idx : Nat}

theorem mem_paneIds : id ∈ t.paneIds ↔ ∃ tab ∈ t.tabs, id ∈ tab.panes := by
  constructor
  · intro hMem
    obtain ⟨ws, hWs, hId⟩ := List.mem_flatMap.1 hMem
    obtain ⟨tab, hTab, hPane⟩ := Workspace.mem_paneIds.1 hId
    exact ⟨tab, mem_tabs.2 ⟨ws, hWs, hTab⟩, hPane⟩
  · rintro ⟨tab, hTab, hPane⟩
    obtain ⟨ws, hWs, hIn⟩ := mem_tabs.1 hTab
    exact List.mem_flatMap.2 ⟨ws, hWs, Workspace.mem_paneIds.2 ⟨tab, hIn, hPane⟩⟩

theorem intact_empty : Tree.empty.Intact where
  wellFormed _ hMem := absurd hMem List.not_mem_nil
  inhabited _ hMem := absurd hMem List.not_mem_nil
  panes := List.nodup_nil
  allocated _ hMem := absurd hMem List.not_mem_nil
  distinct := List.nodup_nil
  generated _ hMem := absurd hMem List.not_mem_nil
  counting := Nat.one_pos

theorem Intact.fresh (h : t.Intact) : (⟨t.ids.nextPaneId⟩ : PaneId) ∉ t.paneIds := fun hMem =>
  Nat.lt_irrefl _ (h.allocated _ hMem)

theorem Intact.fresh_workspace (h : t.Intact) (hWs : ws ∈ t.workspaces) :
  (⟨t.ids.nextPaneId⟩ : PaneId) ∉ ws.paneIds := fun hMem =>
  h.fresh (List.mem_flatMap.2 ⟨ws, hWs, hMem⟩)

theorem Intact.wellFormed_at (h : t.Intact) (hAt : t.workspaces[idx]? = some ws) :
  (∃ away, ws.WellFormed away) ∧ ws.tabs ≠ [] :=
  ⟨h.wellFormed ws (List.mem_of_getElem? hAt), h.inhabited ws (List.mem_of_getElem? hAt)⟩

/-- A pane is in one tab. -/
theorem Intact.tab_unique (h : t.Intact) {tab tab' : Tab} (hTab : tab ∈ t.tabs)
  (hTab' : tab' ∈ t.tabs) (hId : id ∈ tab.panes) (hId' : id ∈ tab'.panes) :
  tab = tab' := by
  have hPanes : (t.tabs.flatMap fun tab => tab.attachments.map Prod.fst).Nodup := by
    have hSame : (t.tabs.flatMap fun tab => tab.attachments.map Prod.fst) = t.paneIds := by
      unfold tabs paneIds Workspace.paneIds Workspace.attachments
      simp only [List.flatMap_assoc, List.map_flatMap]
    rw [hSame]
    exact h.panes
  obtain ⟨i, hi⟩ := List.mem_iff_getElem?.1 hTab
  obtain ⟨j, hj⟩ := List.mem_iff_getElem?.1 hTab'
  have hIndex := Pieces.index_unique _ hPanes hi hj (Tab.mem_fst_attachments.2 hId)
    (Tab.mem_fst_attachments.2 hId')
  rw [hIndex, hj] at hi
  exact (Option.some.inj hi).symm

theorem Intact.workspace_unique (h : t.Intact) {i j : Nat} {ws' : Workspace}
  (hWs : t.workspaces[i]? = some ws) (hWs' : t.workspaces[j]? = some ws')
  (hId : id ∈ ws.paneIds) (hId' : id ∈ ws'.paneIds) : i = j :=
  Pieces.index_unique _ h.panes hWs hWs' hId hId'

theorem Evolves.refl (h : t.Intact) : Evolves t t where
  intact := h
  grows := Nat.le_refl _
  panes _ hMem := Or.inl hMem
  carried tab hTab _ hId _ := ⟨tab, hTab, hId, fun _ hOther _ => hOther⟩

theorem Evolves.alive (h : t.Intact) (hFirst : Evolves t t') (hNext : Evolves t' t'')
  (hBefore : id ∈ t.paneIds) (hAfter : id ∈ t''.paneIds) : id ∈ t'.paneIds := by
  refine (hNext.panes id hAfter).resolve_right fun hNew => ?_
  exact Nat.lt_irrefl _ (Nat.lt_of_lt_of_le (h.allocated id hBefore)
    (Nat.le_trans hFirst.grows hNew))

theorem Evolves.trans (h : t.Intact) (hFirst : Evolves t t') (hNext : Evolves t' t'') :
  Evolves t t'' where
  intact := hNext.intact
  grows := Nat.le_trans hFirst.grows hNext.grows
  panes id hMem := by
    rcases hNext.panes id hMem with hOld | hNew
    · exact hFirst.panes id hOld
    · exact Or.inr (Nat.le_trans hFirst.grows hNew)
  carried tab hTab id hId hMem := by
    have hAlive : ∀ other ∈ tab.panes, other ∈ t''.paneIds → other ∈ t'.paneIds :=
      fun other hOther => hFirst.alive h hNext (mem_paneIds.2 ⟨tab, hTab, hOther⟩)
    obtain ⟨mid, hMid, hIdMid, hRest⟩ := hFirst.carried tab hTab id hId (hAlive id hId hMem)
    obtain ⟨last, hLast, hIdLast, hEnd⟩ := hNext.carried mid hMid id hIdMid hMem
    refine ⟨last, hLast, hIdLast, fun other hOther hKept => ?_⟩
    exact hEnd other (hRest other hOther (hAlive other hOther hKept)) hKept

/-- Only the workspaces and the counters matter. -/
theorem Evolves.congr (h : Evolves t t') (hWorkspaces : t''.workspaces = t'.workspaces)
  (hIds : t''.ids = t'.ids) : Evolves t t'' := by
  obtain ⟨⟨hWell, hSome, hPanes, hAllocated, hDistinct, hGenerated, hCounting⟩, hGrows, hNew,
    hCarried⟩ := h
  have hTabs : t''.tabs = t'.tabs := by rw [tabs, tabs, hWorkspaces]
  have hSame : t''.paneIds = t'.paneIds := by rw [paneIds, paneIds, hWorkspaces]
  refine ⟨⟨hWorkspaces ▸ hWell, hWorkspaces ▸ hSome, hSame ▸ hPanes, ?_, ?_, ?_, hIds ▸ hCounting⟩,
    hIds ▸ hGrows, hSame ▸ hNew, ?_⟩
  · rw [hSame, hIds]
    exact hAllocated
  · rw [DistinctIds, hWorkspaces]
    exact hDistinct
  · rw [hWorkspaces, hIds]
    exact hGenerated
  · rw [hTabs, hSame]
    exact hCarried

/-- Only ids are handed out. -/
theorem Intact.evolves_ids (h : t.Intact) (hWorkspaces : t'.workspaces = t.workspaces)
  (hPanes : t.ids.nextPaneId ≤ t'.ids.nextPaneId)
  (hIds : t.ids.nextWorkspaceId ≤ t'.ids.nextWorkspaceId) : Evolves t t' := by
  have hTabs : t'.tabs = t.tabs := by rw [tabs, tabs, hWorkspaces]
  have hSame : t'.paneIds = t.paneIds := by rw [paneIds, paneIds, hWorkspaces]
  refine ⟨⟨hWorkspaces ▸ h.wellFormed, hWorkspaces ▸ h.inhabited, hSame ▸ h.panes, ?_, ?_, ?_,
    Nat.lt_of_lt_of_le h.counting hIds⟩, hPanes, ?_, ?_⟩
  · intro id hMem
    exact Nat.lt_of_lt_of_le (h.allocated id (hSame ▸ hMem)) hPanes
  · rw [DistinctIds, hWorkspaces]
    exact h.distinct
  · intro ws hWs n hAbove
    exact h.generated ws (hWorkspaces ▸ hWs) n (Nat.le_trans hIds hAbove)
  · intro id hMem
    exact Or.inl (hSame ▸ hMem)
  · intro tab hTab id hId _
    exact ⟨tab, hTabs ▸ hTab, hId, fun _ hOther _ => hOther⟩

/-- Workspaces are put in another order, or some are gone. -/
theorem Intact.evolves_subperm (h : t.Intact) (hSub : t'.workspaces.Subperm t.workspaces)
  (hIds : t'.ids = t.ids) : Evolves t t' := by
  have hMem : t'.workspaces ⊆ t.workspaces := hSub.subset
  obtain ⟨kept, hPerm, hSublist⟩ := hSub
  refine ⟨⟨fun ws hWs => h.wellFormed ws (hMem hWs), fun ws hWs => h.inhabited ws (hMem hWs),
    (hPerm.flatMap_right _).nodup_iff.1 ((hSublist.flatMap _).nodup h.panes), ?_, ?_, ?_,
    hIds ▸ h.counting⟩, Nat.le_of_eq (by rw [hIds]), ?_, ?_⟩
  · intro id hId
    obtain ⟨ws, hWs, hIn⟩ := List.mem_flatMap.1 hId
    rw [hIds]
    exact h.allocated id (List.mem_flatMap.2 ⟨ws, hMem hWs, hIn⟩)
  · exact (hPerm.map _).nodup_iff.1 ((hSublist.map _).nodup h.distinct)
  · intro ws hWs
    rw [hIds]
    exact h.generated ws (hMem hWs)
  · intro id hId
    obtain ⟨ws, hWs, hIn⟩ := List.mem_flatMap.1 hId
    exact Or.inl (List.mem_flatMap.2 ⟨ws, hMem hWs, hIn⟩)
  · -- A pane that is still there is in the tab it was in.
    intro tab hTab id hId hKept
    obtain ⟨tab', hTab', hId'⟩ := mem_paneIds.1 hKept
    obtain ⟨ws', hWs', hIn'⟩ := mem_tabs.1 hTab'
    have hOld : tab' ∈ t.tabs := mem_tabs.2 ⟨ws', hMem hWs', hIn'⟩
    have hSame : tab = tab' := h.tab_unique hTab hOld hId hId'
    exact ⟨tab', hTab', hId', fun other hOther _ => hSame ▸ hOther⟩

theorem Intact.others (h : t.Intact) (hAt : t.workspaces[idx]? = some ws) :
  ((t.workspaces.eraseIdx idx).flatMap Workspace.paneIds).Nodup ∧
    ∀ id ∈ (t.workspaces.eraseIdx idx).flatMap Workspace.paneIds,
      id ∈ t.paneIds ∧ id ∉ ws.paneIds := by
  have hPerm := Pieces.flatMap_perm_eraseIdx Workspace.paneIds hAt
  obtain ⟨-, hRest, hApart⟩ := List.nodup_append.1 (hPerm.nodup_iff.1 h.panes)
  refine ⟨hRest, fun id hMem => ⟨hPerm.mem_iff.2 (List.mem_append_right _ hMem), fun hIn => ?_⟩⟩
  exact hApart id hIn id hMem rfl

/-- One workspace is reworked. -/
theorem Intact.evolves_set (h : t.Intact) {ws' : Workspace} (hAt : t.workspaces[idx]? = some ws)
  (hReworked : ws.Reworked ws' t.ids.nextPaneId t'.ids.nextPaneId)
  (hAllocates : Workspace.Allocates t.ids t'.ids)
  (hWorkspaces : t'.workspaces = t.workspaces.set idx ws') : Evolves t t' := by
  obtain ⟨hOthers, hApart⟩ := h.others hAt
  have hPerm : t'.paneIds.Perm
      (ws'.paneIds ++ (t.workspaces.eraseIdx idx).flatMap Workspace.paneIds) := by
    rw [paneIds, hWorkspaces]
    exact Pieces.flatMap_set_perm _ ws' hAt
  have hOld : ∀ id ∈ ws.paneIds, id ∈ t.paneIds := fun id hMem =>
    List.mem_flatMap.2 ⟨ws, List.mem_of_getElem? hAt, hMem⟩
  have hNew : ∀ id ∈ ws'.paneIds, id ∉ (t.workspaces.eraseIdx idx).flatMap Workspace.paneIds := by
    intro id hMem hOther
    obtain ⟨hIn, hNot⟩ := hApart id hOther
    rcases hReworked.panes id hMem with hKept | ⟨hAbove, -⟩
    · exact hNot hKept
    · exact Nat.lt_irrefl _ (Nat.lt_of_lt_of_le (h.allocated id hIn) hAbove)
  have hMem : ∀ other ∈ t'.workspaces, other ∈ t.workspaces ∨ other = ws' := by
    intro other hOther
    rw [hWorkspaces] at hOther
    exact List.mem_or_eq_of_mem_set hOther
  obtain ⟨away, hWell⟩ := hReworked.wellFormed
  refine ⟨⟨?_, ?_, ?_, ?_, ?_, ?_, ?_⟩, hAllocates.panes, ?_, ?_⟩
  · intro other hOther
    rcases hMem other hOther with hIn | rfl
    · exact h.wellFormed other hIn
    · exact ⟨away, hWell⟩
  · intro other hOther
    rcases hMem other hOther with hIn | rfl
    · exact h.inhabited other hIn
    · exact hReworked.inhabited
  · refine hPerm.nodup_iff.2 (List.nodup_append.2 ⟨hWell.panes.nodup, hOthers, ?_⟩)
    intro id hIn other hOther hEq
    exact hNew id hIn (hEq ▸ hOther)
  · intro id hId
    rcases List.mem_append.1 (hPerm.mem_iff.1 hId) with hIn | hOther
    · rcases hReworked.panes id hIn with hKept | ⟨-, hBelow⟩
      · exact Nat.lt_of_lt_of_le (h.allocated id (hOld id hKept)) hAllocates.panes
      · exact hBelow
    · exact Nat.lt_of_lt_of_le (h.allocated id (hApart id hOther).1) hAllocates.panes
  · obtain ⟨hIdx, rfl⟩ := List.getElem?_eq_some_iff.1 hAt
    have hSame : t'.workspaces.map (·.id) = t.workspaces.map (·.id) := by
      rw [hWorkspaces, List.map_set, hReworked.id,
        ← List.getElem_map (f := fun ws : Workspace => ws.id)]
      exact List.set_getElem_self (by simpa using hIdx)
    rw [DistinctIds, hSame]
    exact h.distinct
  · intro other hOther n hAbove
    rw [hAllocates.workspaces] at hAbove
    rcases hMem other hOther with hIn | rfl
    · exact h.generated other hIn n hAbove
    · rw [hReworked.id]
      exact h.generated ws (List.mem_of_getElem? hAt) n hAbove
  · rw [hAllocates.workspaces]
    exact h.counting
  · intro id hId
    rcases List.mem_append.1 (hPerm.mem_iff.1 hId) with hIn | hOther
    · exact (hReworked.panes id hIn).imp (hOld id) And.left
    · exact Or.inl (hApart id hOther).1
  · intro tab hTab id hId hKept
    obtain ⟨other, hOther, hIn⟩ := mem_tabs.1 hTab
    obtain ⟨i, hi⟩ := List.mem_iff_getElem?.1 hOther
    have hPane : id ∈ other.paneIds := Workspace.mem_paneIds.2 ⟨tab, hIn, hId⟩
    by_cases hEq : i = idx
    · subst hEq
      rw [hAt] at hi
      cases hi
      have hStays : ∀ pane ∈ tab.panes, pane ∈ t'.paneIds → pane ∈ ws'.paneIds := by
        intro pane hPane hAlive
        refine (List.mem_append.1 (hPerm.mem_iff.1 hAlive)).resolve_right fun hElse => ?_
        exact (hApart pane hElse).2 (Workspace.mem_paneIds.2 ⟨tab, hIn, hPane⟩)
      obtain ⟨tab', hTab', hId', hRest⟩ := hReworked.carried tab hIn id hId (hStays id hId hKept)
      refine ⟨tab', mem_tabs.2 ⟨ws', ?_, hTab'⟩, hId', fun pane hPane hAlive =>
        hRest pane hPane (hStays pane hPane hAlive)⟩
      rw [hWorkspaces]
      exact List.mem_of_getElem? (List.getElem?_set_self (List.getElem?_eq_some_iff.1 hAt).1)
    · refine ⟨tab, mem_tabs.2 ⟨other, ?_, hIn⟩, hId, fun _ hPane _ => hPane⟩
      rw [hWorkspaces]
      refine List.mem_of_getElem? (i := i) ?_
      rw [List.getElem?_set_ne (Ne.symm hEq)]
      exact hi

/-- A workspace of its own is opened. -/
theorem Intact.evolves_append (h : t.Intact) {away : List PaneId} (hWell : ws.WellFormed away)
  (hInhabited : ws.tabs ≠ [])
  (hPanes : ∀ id ∈ ws.paneIds, t.ids.nextPaneId ≤ id.raw ∧ id.raw < t'.ids.nextPaneId)
  (hGrows : t.ids.nextPaneId ≤ t'.ids.nextPaneId)
  (hId : ws.id = Workspaces.publicWorkspaceId t.ids.nextWorkspaceId)
  (hNext : t'.ids.nextWorkspaceId = t.ids.nextWorkspaceId + 1)
  (hWorkspaces : t'.workspaces = t.workspaces ++ [ws]) : Evolves t t' := by
  have hMem : ∀ other, other ∈ t'.workspaces ↔ other ∈ t.workspaces ∨ other = ws := by
    intro other
    rw [hWorkspaces, List.mem_append, List.mem_singleton]
  have hIds : t'.paneIds = t.paneIds ++ ws.paneIds := by
    rw [paneIds, hWorkspaces, List.flatMap_append, List.flatMap_singleton, paneIds]
  have hCounting := h.counting
  refine ⟨⟨?_, ?_, ?_, ?_, ?_, ?_, ?_⟩, hGrows, ?_, ?_⟩
  · intro other hOther
    rcases (hMem other).1 hOther with hIn | rfl
    · exact h.wellFormed other hIn
    · exact ⟨away, hWell⟩
  · intro other hOther
    rcases (hMem other).1 hOther with hIn | rfl
    · exact h.inhabited other hIn
    · exact hInhabited
  · rw [hIds]
    refine List.nodup_append.2 ⟨h.panes, hWell.panes.nodup, ?_⟩
    intro id hIn other hOther hEq
    exact Nat.lt_irrefl _ (Nat.lt_of_lt_of_le (h.allocated id hIn) (hEq ▸ (hPanes other hOther).1))
  · intro id hMem
    rw [hIds] at hMem
    rcases List.mem_append.1 hMem with hIn | hNew
    · exact Nat.lt_of_lt_of_le (h.allocated id hIn) hGrows
    · exact (hPanes id hNew).2
  · rw [DistinctIds, hWorkspaces, List.map_append, List.map_singleton]
    refine List.nodup_append.2 ⟨h.distinct, List.nodup_singleton _, ?_⟩
    intro id hIn other hOther hEq
    obtain ⟨old, hOld, rfl⟩ := List.mem_map.1 hIn
    rw [List.mem_singleton.1 hOther, hId] at hEq
    exact h.generated old hOld _ (Nat.le_refl _) hEq
  · intro other hOther n hAbove
    rw [hNext] at hAbove
    rcases (hMem other).1 hOther with hIn | rfl
    · exact h.generated other hIn n (by omega)
    rw [hId]
    intro hEq
    have hSame := publicWorkspaceId_inj h.counting (by omega) hEq
    omega
  · omega
  · intro id hId
    rw [hIds] at hId
    exact (List.mem_append.1 hId).imp (fun hIn => hIn) fun hNew => (hPanes id hNew).1
  · intro tab hTab id hPane _
    obtain ⟨other, hOther, hIn⟩ := mem_tabs.1 hTab
    exact ⟨tab, mem_tabs.2 ⟨other, (hMem other).2 (Or.inl hOther), hIn⟩, hPane,
      fun _ hOther _ => hOther⟩

end Tree

end App
