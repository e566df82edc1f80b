import VimeflowTerminal.Workspaces.Workspace

/-! The invariant of a workspace, and what each operation does to its tabs, its
panes and its public numbers. -/

namespace Workspaces

open Layout Numbering

/-- A list of tabs with the index of the active one. -/
structure TabsWellFormed (tabs : List Tab) (activeTab nextNumber : Nat) : Prop where
  active : tabs ≠ [] → activeTab < tabs.length
  each : ∀ tab ∈ tabs, tab.WellFormed
  numbers : Series (tabs.map (·.number)) nextNumber

theorem map_number_set {tabs : List Tab} {i : Nat} {tab tab' : Tab} (hAt : tabs[i]? = some tab)
  (hNumber : tab'.number = tab.number) :
  (tabs.set i tab').map (·.number) = tabs.map (·.number) := by
  obtain ⟨hi, rfl⟩ := List.getElem?_eq_some_iff.1 hAt
  rw [List.map_set, hNumber, ← List.getElem_map (f := fun tab : Tab => tab.number)]
  exact List.set_getElem_self (by simpa using hi)

namespace TabsWellFormed

variable {tabs : List Tab} {activeTab next : Nat}

section

variable (h : TabsWellFormed tabs activeTab next)
include h

theorem bump : TabsWellFormed tabs activeTab (next + 1) :=
  ⟨h.active, h.each, h.numbers.grow (Nat.le_succ _)⟩

/-- Exchange a tab for another of the same number. -/
theorem set {i : Nat} {tab tab' : Tab}
  (hAt : tabs[i]? = some tab) (hWell : tab'.WellFormed) (hNumber : tab'.number = tab.number) :
  TabsWellFormed (tabs.set i tab') activeTab next := by
  refine ⟨?_, ?_, ?_⟩
  · intro hSome
    rw [List.length_set]
    refine h.active ?_
    rintro rfl
    exact hSome rfl
  · intro other hMem
    rcases List.mem_or_eq_of_mem_set hMem with hOld | rfl
    · exact h.each other hOld
    · exact hWell
  · rw [map_number_set hAt hNumber]
    exact h.numbers

theorem erase (i : Nat) :
  TabsWellFormed (tabs.eraseIdx i)
    (Workspace.adjustActiveTabAfterRemoval (tabs.eraseIdx i).length i activeTab) next := by
  have hSublist := List.eraseIdx_sublist tabs i
  refine ⟨?_, fun tab hMem => h.each tab (hSublist.subset hMem),
    h.numbers.sublist (hSublist.map _)⟩
  intro hSome
  have hPos := List.length_pos_iff.2 hSome
  unfold Workspace.adjustActiveTabAfterRemoval
  split
  · omega
  · split <;> omega

theorem append {tab : Tab} (hWell : tab.WellFormed)
  (hNumber : tab.number = next) (hActive : tabs = [] → activeTab = 0) :
  TabsWellFormed (tabs ++ [tab]) activeTab (next + 1) := by
  refine ⟨?_, ?_, ?_⟩
  · intro _
    rw [List.length_append, List.length_singleton]
    by_cases hEmpty : tabs = []
    · have hZero := hActive hEmpty
      omega
    · have hLt := h.active hEmpty
      omega
  · intro other hMem
    rcases List.mem_append.1 hMem with hOld | hNew
    · exact h.each other hOld
    · exact List.mem_singleton.1 hNew ▸ hWell
  · rw [List.map_append, List.map_singleton, hNumber]
    exact h.numbers.handOut

theorem perm {tabs' : List Tab} {activeTab' : Nat}
  (hPerm : tabs'.Perm tabs) (hActive : activeTab' < tabs'.length) :
  TabsWellFormed tabs' activeTab' next :=
  ⟨fun _ => hActive, fun tab hMem => h.each tab (hPerm.mem_iff.1 hMem),
    h.numbers.perm (hPerm.map _)⟩

end

end TabsWellFormed

namespace Workspace

def attachments (ws : Workspace) : List (PaneId × TerminalId) := ws.tabs.flatMap Tab.attachments

def paneIds (ws : Workspace) : List PaneId := ws.attachments.map Prod.fst

def tabNumbers (ws : Workspace) : List Nat := ws.tabs.map (·.number)

/-- The panes listed in `away` were taken out and may still be registered. -/
structure WellFormed (ws : Workspace) (away : List PaneId) : Prop where
  tabs : TabsWellFormed ws.tabs ws.activeTab ws.nextPublicTabNumber
  emptyActive : ws.tabs = [] → ws.activeTab = 0
  panes : Roster ws.paneIds ws.publicPaneNumbers ws.nextPublicPaneNumber away

/-- An operation loses some attachments and gains others, and hands out new
numbers only. -/
structure Change (ws ws' : Workspace) (lost gained : List (PaneId × TerminalId)) : Prop where
  id : ws'.id = ws.id
  attachments : (lost ++ ws'.attachments).Perm (gained ++ ws.attachments)
  paneNumbers : Extends ws.publicPaneNumbers ws.nextPublicPaneNumber
    ws'.publicPaneNumbers ws'.nextPublicPaneNumber
  tabGrows : ws.nextPublicTabNumber ≤ ws'.nextPublicTabNumber
  tabNumbers : ∀ n ∈ ws'.tabNumbers, n ∈ ws.tabNumbers ∨ ws.nextPublicTabNumber ≤ n

variable {ws : Workspace} {away : List PaneId}

variable {id : PaneId} {i : Nat} {tab tab' : Tab} {tabs : List Tab}

theorem mem_paneIds : id ∈ ws.paneIds ↔ ∃ tab ∈ ws.tabs, id ∈ tab.panes := by
  unfold paneIds attachments
  rw [List.map_flatMap, List.mem_flatMap]
  simp only [Tab.mem_fst_attachments]

theorem findTabForPane_some (hFound : ws.findTabForPane id = some (i, tab)) :
  ws.tabs[i]? = some tab ∧ id ∈ tab.panes := by
  obtain ⟨j, hIndex, hRest⟩ := Option.bind_eq_some_iff.1 hFound
  obtain ⟨found, hAt, hPair⟩ := Option.map_eq_some_iff.1 hRest
  cases hPair
  obtain ⟨hj, hMem, -⟩ := List.findIdx?_eq_some_iff_getElem.1 hIndex
  rw [List.getElem?_eq_getElem hj, Option.some.injEq] at hAt
  exact ⟨by rw [List.getElem?_eq_getElem hj, hAt], by simpa [hAt] using hMem⟩

theorem findTabForPane_none (hNone : ws.findTabForPane id = none) : id ∉ ws.paneIds := by
  rw [mem_paneIds]
  rintro ⟨tab, hTab, hMem⟩
  unfold findTabForPane at hNone
  cases hIndex : ws.findTabIndexForPane id with
  | none =>
    have hNot := List.findIdx?_eq_none_iff.1 hIndex tab hTab
    simp [hMem] at hNot
  | some i =>
    obtain ⟨hi, -⟩ := List.findIdx?_eq_some_iff_getElem.1 hIndex
    simp [hIndex, List.getElem?_eq_getElem hi] at hNone

theorem exists_findTabForPane (hMem : id ∈ ws.paneIds) :
  ∃ i tab, ws.findTabForPane id = some (i, tab) := by
  cases hFound : ws.findTabForPane id with
  | none => exact absurd hMem (findTabForPane_none hFound)
  | some found => exact ⟨found.1, found.2, rfl⟩

theorem flatMap_set_lost {terminal : TerminalId} (hAt : tabs[i]? = some tab)
  (hLost : tab.Lost tab' id terminal) :
  (tabs.flatMap Tab.attachments).Perm
    ((id, terminal) :: (tabs.set i tab').flatMap Tab.attachments) := by
  have hBefore := Pieces.flatMap_perm_eraseIdx Tab.attachments hAt
  have hAfter := Pieces.flatMap_set_perm Tab.attachments tab' hAt
  exact hBefore.trans ((hLost.attachments.append_right _).trans (hAfter.symm.cons _))

theorem flatMap_set_gained {terminal : TerminalId} (hAt : tabs[i]? = some tab)
  (hGained : tab.Gained tab' id terminal) :
  ((tabs.set i tab').flatMap Tab.attachments).Perm
    ((id, terminal) :: tabs.flatMap Tab.attachments) := by
  have hBefore := Pieces.flatMap_perm_eraseIdx Tab.attachments hAt
  have hAfter := Pieces.flatMap_set_perm Tab.attachments tab' hAt
  exact hAfter.trans ((hGained.attachments.append_right _).trans (hBefore.symm.cons _))

theorem flatMap_set_same (hAt : tabs[i]? = some tab) (hPanes : tab'.attachments = tab.attachments) :
  ((tabs.set i tab').flatMap Tab.attachments).Perm (tabs.flatMap Tab.attachments) :=
  Pieces.flatMap_set_perm_of_perm Tab.attachments hAt (hPanes ▸ List.Perm.refl _)

end Workspace

end Workspaces
