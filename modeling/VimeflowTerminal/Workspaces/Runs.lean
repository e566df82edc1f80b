import VimeflowTerminal.Transition.Run
import VimeflowTerminal.Workspaces.Operations

/-! A workspace together with the panes in flight between it and other workspaces.
The ledgers list every public number in the order in which it was handed out. -/

namespace Workspaces

open Layout Numbering Transition Workspace

structure System where
  workspace : Workspace
  ids : IdCounters
  moving : List MovedPane
  paneLedger : List Nat
  tabLedger : List Nat
  deriving DecidableEq

/-- The operations of a workspace. The last three are steps of its surroundings:
a pane taken out of another workspace arrives, an unregistered pane in flight
leaves for another workspace, and other workspaces allocate pane ids. -/
inductive Operation where
  | createTab (spawned : Bool)
  | closeTab (idx : Nat)
  | moveTab (sourceIdx insertIdx : Nat)
  | switchTab (idx : Nat)
  | splitPane (paneId : PaneId) (direction : Direction) (ratio : Option (Option ℚ))
      (focusNewPane spawned : Bool)
  | removePane (paneId : PaneId)
  | closePane (paneId : PaneId)
  | takePaneForMove (paneId : PaneId)
  | insertMovedPaneIntoTab (moved : MovedPane) (tabIdx : Nat) (targetPaneId : PaneId)
      (direction : Direction) (ratio : Option ℚ)
  | createTabFromExistingPane (moved : MovedPane) (label : Option String)
  | unregisterMovedPane (moved : MovedPane)
  | arrive (moved : MovedPane)
  | depart (moved : MovedPane)
  | allocateElsewhere

namespace System

def movingIds (s : System) : List PaneId := s.moving.map (·.paneId)

/-- Go on with a changed workspace, recording the numbers it handed out. -/
def advance (s : System) (workspace : Workspace) (ids : IdCounters) (moving : List MovedPane) :
  System where
  workspace
  ids
  moving
  paneLedger := s.paneLedger ++
    gained s.workspace.publicPaneNumbers.values workspace.publicPaneNumbers.values
  tabLedger := s.tabLedger ++ gained s.workspace.tabNumbers workspace.tabNumbers

/-- One operation. There is no step where the program stops, or for a pane that
is not in flight. -/
def step (s : System) : Operation → Option System
  | .createTab spawned =>
    (s.workspace.createTabWithRuntime spawned s.ids).map fun (ids, workspace, _) =>
      s.advance workspace ids s.moving
  | .closeTab idx => some (s.advance (s.workspace.closeTab idx).1 s.ids s.moving)
  | .moveTab sourceIdx insertIdx =>
    some (s.advance (s.workspace.moveTab sourceIdx insertIdx).1 s.ids s.moving)
  | .switchTab idx => some (s.advance (s.workspace.switchTab idx) s.ids s.moving)
  | .splitPane paneId direction ratio focusNewPane spawned =>
    let (ids, workspace, _) :=
      s.workspace.splitPaneWithRuntime paneId direction ratio focusNewPane spawned s.ids
    some (s.advance workspace ids s.moving)
  | .removePane paneId => some (s.advance (s.workspace.removePane paneId).1 s.ids s.moving)
  | .closePane paneId => some (s.advance (s.workspace.closePane paneId).1 s.ids s.moving)
  | .takePaneForMove paneId =>
    match s.workspace.takePaneForMove paneId with
    | (workspace, none) => some (s.advance workspace s.ids s.moving)
    | (workspace, some taken) => some (s.advance workspace s.ids (taken.moved :: s.moving))
  | .insertMovedPaneIntoTab moved tabIdx targetPaneId direction ratio =>
    if moved ∈ s.moving then
      match s.workspace.insertMovedPaneIntoTab tabIdx targetPaneId moved direction ratio with
      | none => some s
      | some workspace => some (s.advance workspace s.ids (s.moving.erase moved))
    else none
  | .createTabFromExistingPane moved label =>
    if moved ∈ s.moving then
      let (workspace, _) := s.workspace.createTabFromExistingPane moved label
      some (s.advance workspace s.ids (s.moving.erase moved))
    else none
  | .unregisterMovedPane moved =>
    if moved ∈ s.moving then
      some (s.advance (s.workspace.unregisterMovedPane moved.paneId) s.ids s.moving)
    else none
  | .arrive moved =>
    if moved.paneId ∉ s.workspace.publicPaneNumbers ∧ moved.paneId ∉ s.movingIds ∧
        moved.paneId.raw < s.ids.nextPaneId then
      some { s with moving := moved :: s.moving }
    else none
  | .depart moved =>
    if moved ∈ s.moving ∧ moved.paneId ∉ s.workspace.publicPaneNumbers then
      some { s with moving := s.moving.erase moved }
    else none
  | .allocateElsewhere => some { s with ids := s.ids.allocPaneId.2 }

/-- The start of a run: the workspace was created with a pane of its own or from
a moved one. -/
def Fresh (s : System) : Prop :=
  s.moving = [] ∧ s.paneLedger = [1] ∧ s.tabLedger = [1] ∧
    ∃ ids, (∃ newPane, newWithTab true ids = (s.ids, some (s.workspace, newPane))) ∨
      ∃ label tabLabel, ∃ moved : MovedPane, moved.paneId.raw < ids.nextPaneId ∧
        fromExistingPane label tabLabel moved ids = (s.ids, s.workspace)

structure Invariant (s : System) : Prop where
  wellFormed : s.workspace.WellFormed s.movingIds
  apart : (s.workspace.paneIds ++ s.movingIds).Nodup
  allocated : ∀ id ∈ s.workspace.paneIds ++ s.movingIds, id.raw < s.ids.nextPaneId
  panes : Ledger s.paneLedger s.workspace.nextPublicPaneNumber
  tabs : Ledger s.tabLedger s.workspace.nextPublicTabNumber
  recorded : s.workspace.publicPaneNumbers.values ⊆ s.paneLedger ∧
    s.workspace.tabNumbers ⊆ s.tabLedger

variable {s : System}

/-- A workspace of one pane, numbered one. -/
theorem invariant_single {tab : Tab} {attachment : PaneId × TerminalId} (hTab : tab.WellFormed)
  (hNumber : tab.number = 1) (hAttachments : tab.attachments = [attachment])
  (hTabs : s.workspace.tabs = [tab]) (hActive : s.workspace.activeTab = 0)
  (hRegistry : s.workspace.publicPaneNumbers = (∅ : FinMap PaneId Nat).insert attachment.1 1)
  (hPaneNext : s.workspace.nextPublicPaneNumber = 2)
  (hTabNext : s.workspace.nextPublicTabNumber = 2) (hMoving : s.moving = [])
  (hLedgers : s.paneLedger = [1] ∧ s.tabLedger = [1])
  (hAllocated : attachment.1.raw < s.ids.nextPaneId) : s.Invariant := by
  have hIds : s.workspace.paneIds = [attachment.1] := by
    rw [paneIds, attachments, hTabs, List.flatMap_singleton, hAttachments]
    rfl
  have hLedger : Ledger [1] 2 :=
    ⟨List.nodup_singleton 1, fun n hMem => by rw [List.mem_singleton.1 hMem]; omega⟩
  have hNone : s.movingIds = [] := by rw [movingIds, hMoving, List.map_nil]
  have hEmpty : Roster ([] : List PaneId) ∅ 1 [] :=
    ⟨List.nodup_nil, Numbered.empty, fun _ hMem => absurd hMem List.not_mem_nil,
      fun _ hMem => absurd hMem (AList.notMem_empty _)⟩
  have hRoster := hEmpty.register (List.not_mem_nil (a := attachment.1)) (Nat.le_refl 1)
  refine ⟨⟨⟨?_, ?_, ?_⟩, ?_, ?_⟩, ?_, ?_, ?_, ?_, ?_, ?_⟩
  · intro _
    rw [hTabs, hActive]
    exact Nat.one_pos
  · intro other hMem
    rw [hTabs, List.mem_singleton] at hMem
    exact hMem ▸ hTab
  · rw [hTabs, hTabNext, List.map_singleton, hNumber]
    exact Series.one
  · intro _
    exact hActive
  · rw [hIds, hRegistry, hPaneNext, hNone]
    exact hRoster
  · rw [hIds, hNone, List.append_nil]
    exact List.nodup_singleton _
  · intro id hMem
    rw [hIds, hNone, List.append_nil, List.mem_singleton] at hMem
    exact hMem ▸ hAllocated
  · rw [hLedgers.1, hPaneNext]
    exact hLedger
  · rw [hLedgers.2, hTabNext]
    exact hLedger
  · rw [hRegistry, hLedgers.1]
    exact List.Subset.refl _
  · rw [tabNumbers, hTabs, hLedgers.2, List.map_singleton, hNumber]
    exact List.Subset.refl _

theorem invariant_fresh (hFresh : s.Fresh) : s.Invariant := by
  obtain ⟨hMoving, hPanes, hTabs, ids, ⟨newPane, hNew⟩ |
    ⟨label, tabLabel, moved, hAllocated, hExisting⟩⟩ := hFresh
  · obtain ⟨tab, hTab, hWell, hNumber, hRoot, hAttachments⟩ :=
      Tab.new_spec 1 (generateWorkspaceId ids).2
    simp only [newWithTab, hTab, Prod.mk.injEq, Option.some.injEq] at hNew
    obtain ⟨hIds, hWorkspace, -⟩ := hNew
    rw [hRoot] at hWorkspace
    refine invariant_single hWell hNumber hAttachments ?_ ?_ ?_ ?_ ?_ hMoving ⟨hPanes, hTabs⟩ ?_
    · rw [← hWorkspace]
    · rw [← hWorkspace]
    · rw [← hWorkspace]
    · rw [← hWorkspace]
    · rw [← hWorkspace]
    · rw [← hIds]
      exact Nat.lt_succ_self _
  · simp only [fromExistingPane, Prod.mk.injEq] at hExisting
    obtain ⟨hIds, hWorkspace⟩ := hExisting
    refine invariant_single (Tab.wellFormed_fromExistingPane 1 tabLabel moved) rfl
      (Tab.attachments_fromExistingPane 1 tabLabel moved) ?_ ?_ ?_ ?_ ?_ hMoving ⟨hPanes, hTabs⟩ ?_
    · rw [← hWorkspace]
    · rw [← hWorkspace]
    · rw [← hWorkspace]
    · rw [← hWorkspace]
    · rw [← hWorkspace]
    · rw [← hIds]
      exact hAllocated

variable {workspace : Workspace} {ids : IdCounters} {moved : MovedPane} {t : System}

section

variable (h : s.Invariant)
include h

/-- An operation that handles no pane twice keeps the invariant: up to order the
panes afterwards and the dropped ones are the panes before and the new ones. -/
theorem Invariant.advance {moving : List MovedPane}
  {lost gained : List (PaneId × TerminalId)}
  (hWell : workspace.WellFormed (moving.map (·.paneId)))
  (hChange : s.workspace.Change workspace lost gained) (dropped fresh : List PaneId)
  (hTotal : (dropped ++ (workspace.paneIds ++ moving.map (·.paneId))).Perm
    (fresh ++ (s.workspace.paneIds ++ s.movingIds))) (hNodup : fresh.Nodup)
  (hFresh : ∀ id ∈ fresh, s.ids.nextPaneId ≤ id.raw ∧ id.raw < ids.nextPaneId)
  (hIds : s.ids.nextPaneId ≤ ids.nextPaneId) : (s.advance workspace ids moving).Invariant := by
  have hBefore : (fresh ++ (s.workspace.paneIds ++ s.movingIds)).Nodup := by
    refine List.nodup_append.2 ⟨hNodup, h.apart, ?_⟩
    intro id hNew other hOld hEq
    have hBelow := h.allocated other hOld
    have hAbove := (hFresh id hNew).1
    rw [hEq] at hAbove
    omega
  refine ⟨hWell, ?_, ?_, h.panes.registry hWell.panes.numbered hChange.paneNumbers,
    h.tabs.series hWell.tabs.numbers hChange.tabGrows hChange.tabNumbers,
    subset_append_gained h.recorded.1, subset_append_gained h.recorded.2⟩
  · exact (List.nodup_append.1 (hTotal.nodup_iff.2 hBefore)).2.1
  intro id hMem
  rcases List.mem_append.1 (hTotal.mem_iff.1 (List.mem_append_right _ hMem)) with hNew | hOld
  · exact (hFresh id hNew).2
  · exact Nat.lt_of_lt_of_le (h.allocated id hOld) hIds

theorem Invariant.advance_kept {lost : List (PaneId × TerminalId)}
  (hWell : workspace.WellFormed s.movingIds) (hChange : s.workspace.Change workspace lost [])
  (hIds : s.ids.nextPaneId ≤ ids.nextPaneId) :
  (s.advance workspace ids s.moving).Invariant := by
  have hPanes := hChange.attachments.map Prod.fst
  rw [List.map_append, List.nil_append] at hPanes
  have hTotal := hPanes.append_right s.movingIds
  rw [List.append_assoc] at hTotal
  refine h.advance hWell hChange (lost.map Prod.fst) [] hTotal List.nodup_nil ?_ hIds
  exact fun _ hMem => absurd hMem List.not_mem_nil

theorem Invariant.advance_new {terminal : TerminalId}
  (hWell : workspace.WellFormed s.movingIds)
  (hChange : s.workspace.Change workspace [] [(⟨s.ids.nextPaneId⟩, terminal)])
  (hIds : s.ids.nextPaneId < ids.nextPaneId) :
  (s.advance workspace ids s.moving).Invariant := by
  have hPanes : workspace.paneIds.Perm (⟨s.ids.nextPaneId⟩ :: s.workspace.paneIds) :=
    hChange.attachments.map Prod.fst
  have hTotal := hPanes.append_right s.movingIds
  refine h.advance hWell hChange [] [⟨s.ids.nextPaneId⟩] hTotal (List.nodup_singleton _) ?_
    (Nat.le_of_lt hIds)
  intro id hMem
  rw [List.mem_singleton.1 hMem]
  exact ⟨Nat.le_refl _, hIds⟩

theorem fresh_notMem : (⟨s.ids.nextPaneId⟩ : PaneId) ∉ s.workspace.paneIds := by
  intro hMem
  exact Nat.lt_irrefl _ (h.allocated _ (List.mem_append_left _ hMem))

theorem moving_notMem (hMoving : moved ∈ s.moving) :
  moved.paneId ∉ s.workspace.paneIds := by
  intro hMem
  exact (List.nodup_append.1 h.apart).2.2 _ hMem _ (List.mem_map.2 ⟨moved, hMoving, rfl⟩) rfl

/-- A pane in flight joined the workspace. -/
theorem Invariant.advance_joined (hMoving : moved ∈ s.moving)
  {terminal : TerminalId} (hWell : workspace.WellFormed s.movingIds)
  (hChange : s.workspace.Change workspace [] [(moved.paneId, terminal)]) :
  (s.advance workspace s.ids (s.moving.erase moved)).Invariant := by
  have hPanes : workspace.paneIds.Perm (moved.paneId :: s.workspace.paneIds) :=
    hChange.attachments.map Prod.fst
  have hFlight : s.movingIds.Perm (moved.paneId :: (s.moving.erase moved).map (·.paneId)) :=
    (List.perm_cons_erase hMoving).map _
  have hTotal : (workspace.paneIds ++ (s.moving.erase moved).map (·.paneId)).Perm
      (s.workspace.paneIds ++ s.movingIds) := by
    refine (hPanes.append_right _).trans ?_
    refine List.Perm.trans ?_ (hFlight.symm.append_left _)
    exact List.perm_middle.symm
  have hAbsent : workspace.WellFormed ((s.moving.erase moved).map (·.paneId)) := by
    refine ⟨hWell.tabs, hWell.emptyActive, hWell.panes.absent ?_⟩
    intro id _ hAway
    rcases List.mem_cons.1 (hFlight.mem_iff.1 hAway) with rfl | hRest
    · exact Or.inl (hPanes.mem_iff.2 List.mem_cons_self)
    · exact Or.inr hRest
  refine h.advance hAbsent hChange [] [] hTotal List.nodup_nil ?_ (Nat.le_refl _)
  exact fun _ hMem => absurd hMem List.not_mem_nil

end

section

variable (h : s.Invariant)
include h

theorem step_createTab {spawned : Bool}
  (hStep : s.step (.createTab spawned) = some t) : t.Invariant := by
  obtain ⟨⟨ids, workspace, created⟩, hCreate, rfl⟩ := Option.map_eq_some_iff.1 hStep
  have hSome : s.workspace.tabs ≠ [] := by
    intro hEmpty
    simp [createTabWithRuntime, activeTab?, hEmpty] at hCreate
  obtain ⟨⟨failed, hFailed, hFailedWell, hFailedChange⟩, opened, hOpened, hOpenedWell,
    hOpenedChange⟩ := createTab_spec h.wellFormed hSome (fresh_notMem h)
  cases spawned with
  | false =>
    rw [hFailed, Option.some.injEq] at hCreate
    cases hCreate
    exact h.advance_kept hFailedWell hFailedChange (Nat.le_succ _)
  | true =>
    rw [hOpened, Option.some.injEq] at hCreate
    cases hCreate
    exact h.advance_new hOpenedWell hOpenedChange (Nat.lt_succ_self _)

theorem step_splitPane {paneId : PaneId} {direction : Direction}
  {ratio : Option (Option ℚ)} {focusNewPane spawned : Bool}
  (hStep : s.step (.splitPane paneId direction ratio focusNewPane spawned) = some t) :
  t.Invariant := by
  simp only [step, Option.some.injEq] at hStep
  subst hStep
  by_cases hMem : paneId ∈ s.workspace.paneIds
  · obtain ⟨⟨failed, hFailed, hFailedWell, hFailedChange⟩, opened, tabIdx, hOpened, hOpenedWell,
      hOpenedChange⟩ := split_spec h.wellFormed hMem direction ratio focusNewPane
        (fresh_notMem h)
    cases spawned with
    | false =>
      rw [hFailed]
      exact h.advance_kept hFailedWell hFailedChange (Nat.le_succ _)
    | true =>
      rw [hOpened]
      exact h.advance_new hOpenedWell hOpenedChange (Nat.lt_succ_self _)
  · rw [split_unknown hMem]
    exact h.advance_kept h.wellFormed (Change.refl _) (Nat.le_refl _)

theorem step_removePaneWith (paneId : PaneId) :
  (s.advance (removePaneWith Tab.detachPane s.workspace paneId).1 s.ids
    s.moving).Invariant := by
  have hRemoved := removePaneWith_spec h.wellFormed paneId
  obtain ⟨lost, hChange, -⟩ := hRemoved.change
  exact h.advance_kept hRemoved.wellFormed hChange (Nat.le_refl _)

theorem step_takePaneForMove {paneId : PaneId}
  (hStep : s.step (.takePaneForMove paneId) = some t) : t.Invariant := by
  simp only [step] at hStep
  by_cases hMem : paneId ∈ s.workspace.paneIds
  · obtain ⟨workspace, taken, hTake, hId, hWell, -, hChange⟩ :=
      takePaneForMove_spec h.wellFormed hMem
    rw [hTake] at hStep
    simp only [Option.some.injEq] at hStep
    subst hStep
    have hAway : (taken.moved :: s.moving).map (·.paneId) = paneId :: s.movingIds := by
      rw [List.map_cons, hId]
      rfl
    have hPanes : (paneId :: workspace.paneIds).Perm s.workspace.paneIds :=
      hChange.attachments.map Prod.fst
    have hTotal : (workspace.paneIds ++ (taken.moved :: s.moving).map (·.paneId)).Perm
        (s.workspace.paneIds ++ s.movingIds) := by
      rw [hAway]
      exact List.perm_middle.trans (hPanes.append_right _)
    refine h.advance (hAway ▸ hWell) hChange [] [] hTotal List.nodup_nil ?_ (Nat.le_refl _)
    exact fun _ hNone => absurd hNone List.not_mem_nil
  · rw [take_unknown hMem] at hStep
    simp only [Option.some.injEq] at hStep
    subst hStep
    exact h.advance_kept h.wellFormed (Change.refl _) (Nat.le_refl _)

/-- A pane in flight that is not registered may leave. -/
theorem Invariant.depart (hMoving : moved ∈ s.moving)
  (hUnregistered : moved.paneId ∉ s.workspace.publicPaneNumbers) :
  ({ s with moving := s.moving.erase moved } : System).Invariant := by
  have hFlight : s.movingIds.Perm (moved.paneId :: (s.moving.erase moved).map (·.paneId)) :=
    (List.perm_cons_erase hMoving).map _
  have hKept : ∀ id ∈ s.workspace.paneIds ++ (s.moving.erase moved).map (·.paneId),
      id ∈ s.workspace.paneIds ++ s.movingIds := by
    intro id hMem
    rcases List.mem_append.1 hMem with hPane | hMove
    · exact List.mem_append_left _ hPane
    · exact List.mem_append_right _ (hFlight.mem_iff.2 (List.mem_cons_of_mem _ hMove))
  refine ⟨⟨h.wellFormed.tabs, h.wellFormed.emptyActive, h.wellFormed.panes.absent ?_⟩, ?_,
    fun id hMem => h.allocated id (hKept id hMem), h.panes, h.tabs, h.recorded⟩
  · intro id hRegistered hAway
    rcases List.mem_cons.1 (hFlight.mem_iff.1 hAway) with rfl | hRest
    · exact absurd hRegistered hUnregistered
    · exact Or.inr hRest
  · have hNodup := (hFlight.append_left s.workspace.paneIds).nodup_iff.1 h.apart
    exact (List.nodup_cons.1 (List.perm_middle.nodup_iff.1 hNodup)).2

/-- A pane of another workspace may come in. -/
theorem Invariant.arrive
  (hForeign : moved.paneId ∉ s.workspace.publicPaneNumbers) (hNew : moved.paneId ∉ s.movingIds)
  (hAllocated : moved.paneId.raw < s.ids.nextPaneId) :
  ({ s with moving := moved :: s.moving } : System).Invariant := by
  have hNotPane : moved.paneId ∉ s.workspace.paneIds := fun hMem =>
    hForeign (h.wellFormed.panes.registered _ hMem)
  refine ⟨⟨h.wellFormed.tabs, h.wellFormed.emptyActive, h.wellFormed.panes.absent ?_⟩, ?_, ?_,
    h.panes, h.tabs, h.recorded⟩
  · exact fun id _ hAway => Or.inr (List.mem_cons_of_mem _ hAway)
  · refine List.perm_middle.nodup_iff.2 (List.nodup_cons.2 ⟨?_, h.apart⟩)
    rw [List.mem_append, not_or]
    exact ⟨hNotPane, hNew⟩
  · intro id hMem
    rcases List.mem_cons.1 (List.perm_middle.mem_iff.1 hMem) with rfl | hOld
    · exact hAllocated
    · exact h.allocated id hOld

/-- Every operation keeps the invariant. -/
theorem step_invariant {operation : Operation}
  (hStep : s.step operation = some t) : t.Invariant := by
  cases operation with
  | createTab spawned => exact step_createTab h hStep
  | closeTab idx =>
    obtain ⟨lost, hWell, hChange, -⟩ := closeTab_spec h.wellFormed idx
    cases hStep
    exact h.advance_kept hWell hChange (Nat.le_refl _)
  | moveTab sourceIdx insertIdx =>
    obtain ⟨hWell, hChange⟩ := moveTab_spec h.wellFormed sourceIdx insertIdx
    cases hStep
    exact h.advance_kept hWell hChange (Nat.le_refl _)
  | switchTab idx =>
    obtain ⟨hWell, hChange⟩ := switchTab_spec h.wellFormed idx
    cases hStep
    exact h.advance_kept hWell hChange (Nat.le_refl _)
  | splitPane paneId direction ratio focusNewPane spawned => exact step_splitPane h hStep
  | removePane paneId =>
    cases hStep
    exact step_removePaneWith h paneId
  | closePane paneId =>
    cases hStep
    exact step_removePaneWith h paneId
  | takePaneForMove paneId => exact step_takePaneForMove h hStep
  | insertMovedPaneIntoTab moved tabIdx targetPaneId direction ratio =>
    obtain ⟨hMoving, hRest⟩ := Option.ite_none_right_eq_some.1 hStep
    cases hInsert : s.workspace.insertMovedPaneIntoTab tabIdx targetPaneId moved direction ratio with
    | none =>
      rw [hInsert] at hRest
      cases hRest
      exact h
    | some workspace =>
      obtain ⟨hWell, hChange⟩ := insertMovedPaneIntoTab_spec h.wellFormed
        (moving_notMem h hMoving) hInsert
      rw [hInsert] at hRest
      cases hRest
      exact h.advance_joined hMoving hWell hChange
  | createTabFromExistingPane moved label =>
    obtain ⟨hMoving, hRest⟩ := Option.ite_none_right_eq_some.1 hStep
    obtain ⟨hWell, hChange⟩ := createTabFromExistingPane_spec h.wellFormed
      (moving_notMem h hMoving) label
    cases hRest
    exact h.advance_joined hMoving hWell hChange
  | unregisterMovedPane moved =>
    obtain ⟨hMoving, hRest⟩ := Option.ite_none_right_eq_some.1 hStep
    obtain ⟨hWell, hChange⟩ := unregister_spec h.wellFormed (moving_notMem h hMoving)
    have hAll : (s.workspace.unregisterMovedPane moved.paneId).WellFormed s.movingIds := by
      refine ⟨hWell.tabs, hWell.emptyActive, hWell.panes.absent ?_⟩
      exact fun id _ hAway => Or.inr (List.mem_filter.1 hAway).1
    cases hRest
    exact h.advance_kept hAll hChange (Nat.le_refl _)
  | arrive moved =>
    obtain ⟨⟨hForeign, hNew, hAllocated⟩, hRest⟩ := Option.ite_none_right_eq_some.1 hStep
    cases hRest
    exact h.arrive hForeign hNew hAllocated
  | depart moved =>
    obtain ⟨⟨hMoving, hUnregistered⟩, hRest⟩ := Option.ite_none_right_eq_some.1 hStep
    cases hRest
    exact h.depart hMoving hUnregistered
  | allocateElsewhere =>
    cases hStep
    refine ⟨h.wellFormed, h.apart, ?_, h.panes, h.tabs, h.recorded⟩
    exact fun id hMem => Nat.lt_succ_of_lt (h.allocated id hMem)

end

theorem run_invariant {start finish : System} {operations : List Operation}
  (run : Run (ofPartial step) start operations finish) (hFresh : start.Fresh) :
  finish.Invariant :=
  run.preserves (invariant_fresh hFresh) fun _ _ _ h hStep => step_invariant h hStep

/-- Along every run of operations a workspace with tabs is well-formed. The
panes with public numbers are its own and some of those in flight, and no number
was handed out twice. -/
theorem wellFormed_of_run {start finish : System} {operations : List Operation}
  (hFresh : start.Fresh) (run : Run (ofPartial step) start operations finish)
  (hTabs : finish.workspace.tabs ≠ []) :
  finish.workspace.activeTab < finish.workspace.tabs.length ∧
    finish.workspace.WellFormed finish.movingIds ∧
    (finish.moving = [] → finish.workspace.WellFormed []) ∧
    finish.workspace.publicPaneNumbers.values ⊆ finish.paneLedger ∧
    finish.workspace.tabNumbers ⊆ finish.tabLedger ∧
    finish.paneLedger.Nodup ∧ finish.tabLedger.Nodup := by
  have h := run_invariant run hFresh
  refine ⟨h.wellFormed.tabs.active hTabs, h.wellFormed, ?_, h.recorded.1, h.recorded.2,
    h.panes.nodup, h.tabs.nodup⟩
  intro hNone
  have hWell := h.wellFormed
  rwa [movingIds, hNone, List.map_nil] at hWell

/-- A workspace of one new pane. -/
def opened : System where
  workspace := {
    id := "w1"
    customName := none
    worktreeSpace := none
    publicPaneNumbers := (∅ : FinMap PaneId Nat).insert ⟨1⟩ 1
    nextPublicPaneNumber := 2
    nextPublicTabNumber := 2
    tabs := [{
      customName := none
      number := 1
      rootPane := ⟨1⟩
      layout := TileLayout.new ⟨1⟩
      panes := (∅ : FinMap PaneId PaneState).insert ⟨1⟩ (PaneState.new ⟨1⟩)
      zoomed := false }]
    activeTab := 0 }
  ids := ⟨2, 2, 2⟩
  moving := []
  paneLedger := [1]
  tabLedger := [1]

theorem fresh_opened : opened.Fresh :=
  ⟨rfl, rfl, rfl, IdCounters.initial, Or.inl ⟨⟨⟨1⟩, ⟨1⟩⟩, rfl⟩⟩

/-- Split the pane, add a tab, move the first pane into it and close the rest. -/
def rearranging : List Operation :=
  [.splitPane ⟨1⟩ .horizontal none true true, .createTab true, .takePaneForMove ⟨1⟩,
    .insertMovedPaneIntoTab ⟨⟨1⟩, ⟨⟨1⟩, true⟩⟩ 1 ⟨3⟩ .vertical (some (1 / 3)), .moveTab 1 0,
    .closePane ⟨3⟩, .switchTab 1]

theorem wellFormed_rearranged :
  ∃ finish, rearranging.foldlM step opened = some finish ∧ finish.workspace.tabs.length = 2 ∧
    finish.workspace.WellFormed finish.movingIds ∧ finish.paneLedger.Nodup := by
  obtain ⟨finish, hFold, hTabs⟩ : ∃ finish, rearranging.foldlM step opened = some finish ∧
      finish.workspace.tabs.length = 2 :=
    ⟨(rearranging.foldlM step opened).get (by decide), by simp, by decide⟩
  have hSome : finish.workspace.tabs ≠ [] := List.ne_nil_of_length_pos (by omega)
  obtain ⟨-, hWell, -, -, -, hLedger, -⟩ :=
    wellFormed_of_run fresh_opened (run_of_foldlM hFold) hSome
  exact ⟨finish, hFold, hTabs, hWell, hLedger⟩

/-- A pane taken out for a move keeps its number although it is no pane of the
workspace. -/
theorem number_of_taken_pane : ¬ ∀ (start finish : System) (operations : List Operation),
  start.Fresh → Run (ofPartial step) start operations finish → finish.workspace.tabs ≠ [] →
    ∀ id, id ∈ finish.workspace.publicPaneNumbers ↔ id ∈ finish.workspace.paneIds := by
  intro hAll
  let operations : List Operation :=
    [.splitPane ⟨1⟩ .horizontal none true true, .takePaneForMove ⟨1⟩]
  obtain ⟨finish, hFold, hTabs, hNumber, hGone⟩ : ∃ finish,
      operations.foldlM step opened = some finish ∧ finish.workspace.tabs.length = 1 ∧
        (⟨1⟩ : PaneId) ∈ finish.workspace.publicPaneNumbers ∧
        (⟨1⟩ : PaneId) ∉ finish.workspace.paneIds :=
    ⟨(operations.foldlM step opened).get (by decide), by simp, by decide, by decide, by decide⟩
  have hSome : finish.workspace.tabs ≠ [] := List.ne_nil_of_length_pos (by omega)
  exact hGone ((hAll opened finish operations fresh_opened (run_of_foldlM hFold) hSome ⟨1⟩).1
    hNumber)

end System

theorem focusPane_focusPane {tab : Tab} (h : tab.WellFormed) (id : PaneId) :
  (tab.focusPane id).focusPane tab.layout.focused = tab := by
  have hFocus := h.layout.focus
  rw [← TileLayout.paneIds_focusPane tab.layout id] at hFocus
  have hBack : (tab.layout.focusPane id).focusPane tab.layout.focused = tab.layout := by
    rw [TileLayout.focusPane, TileLayout.focused, if_pos hFocus]
    unfold TileLayout.focusPane
    split <;> rfl
  simp only [Tab.focusPane, hBack]

namespace Workspace

variable {ws : Workspace} {away : List PaneId}

/-- A failed split leaves the workspace as it was, whatever pane it was asked for. -/
theorem splitPane_failed (h : ws.WellFormed away) {ids : IdCounters}
  (hFresh : (⟨ids.nextPaneId⟩ : PaneId) ∉ ws.paneIds) (paneId : PaneId) (direction : Direction)
  (ratio : Option (Option ℚ)) (focusNewPane : Bool) :
  (ws.splitPaneWithRuntime paneId direction ratio focusNewPane false ids).2.1 = ws := by
  unfold splitPaneWithRuntime
  cases hFound : ws.findTabForPane paneId with
  | none => rfl
  | some found =>
    obtain ⟨tabIdx, tab⟩ := found
    obtain ⟨hAt, _⟩ := findTabForPane_some hFound
    have hTab := h.tabs.each tab (List.mem_of_getElem? hAt)
    have hNew : (⟨ids.nextPaneId⟩ : PaneId) ∉ tab.panes := fun hIn =>
      hFresh (mem_paneIds.2 ⟨tab, List.mem_of_getElem? hAt, hIn⟩)
    obtain ⟨hLt, rfl⟩ := List.getElem?_eq_some_iff.1 hAt
    simp only [Tab.splitFocused_failed (hTab.focusPane paneId) direction ratio hNew,
      focusPane_focusPane hTab, List.set_getElem_self]

end Workspace

/-- A split whose process cannot be spawned changes nothing but the counter of pane ids: not the
tree at any position, not the tab, not the workspace. -/
theorem failed_split_undone :
  (∀ (node : Node) (target newId : PaneId) (direction : Direction) (ratio : ℚ),
    newId ∉ node.collectIds →
      (node.splitAt target direction newId ratio).removePane newId = some node) ∧
  (∀ (tab : Tab) (ids : IdCounters) (direction : Direction) (ratio : Option (Option ℚ)),
    tab.WellFormed → (⟨ids.nextPaneId⟩ : PaneId) ∉ tab.panes →
      tab.splitFocusedWithRuntime direction ratio false ids = (ids.allocPaneId.2, tab, none)) ∧
  ∀ (ws : Workspace) (away : List PaneId) (ids : IdCounters) (paneId : PaneId)
    (direction : Direction) (ratio : Option (Option ℚ)) (focusNewPane : Bool),
    ws.WellFormed away → (⟨ids.nextPaneId⟩ : PaneId) ∉ ws.paneIds →
      (ws.splitPaneWithRuntime paneId direction ratio focusNewPane false ids).2.1 = ws :=
  ⟨fun _ _ _ direction ratio hNew => Node.removePane_splitAt direction ratio hNew,
    fun _ _ direction ratio hTab hNew => Tab.splitFocused_failed hTab direction ratio hNew,
    fun _ _ _ paneId direction ratio focusNewPane hWell hFresh =>
      Workspace.splitPane_failed hWell hFresh paneId direction ratio focusNewPane⟩

/-- A workspace of one pane. -/
def onePane : Workspace :=
  (Workspace.fromExistingPane none none ⟨⟨1⟩, PaneState.new ⟨1⟩⟩ ⟨2, 2, 1⟩).2

/-- The same with a pane below it, which has the focus. -/
def twoPanes : Workspace :=
  (onePane.splitPaneWithRuntime ⟨1⟩ .vertical none true true ⟨2, 2, 2⟩).2.1

theorem wellFormed_twoPanes : twoPanes.WellFormed [] := by
  have hFresh : System.Fresh ⟨onePane, ⟨2, 2, 2⟩, [], [1], [1]⟩ :=
    ⟨rfl, rfl, rfl, ⟨2, 2, 1⟩, Or.inr ⟨none, none, ⟨⟨1⟩, PaneState.new ⟨1⟩⟩, by decide, rfl⟩⟩
  have hSplit : System.step ⟨onePane, ⟨2, 2, 2⟩, [], [1], [1]⟩
      (.splitPane ⟨1⟩ .vertical none true true) =
        some ⟨twoPanes, ⟨3, 3, 2⟩, [], [1, 2], [1]⟩ := rfl
  exact (System.step_invariant (System.invariant_fresh hFresh) hSplit).wellFormed

theorem failed_split_undone_twoPanes :
  (twoPanes.splitPaneWithRuntime ⟨1⟩ .horizontal none true false ⟨3, 3, 2⟩).2.1 = twoPanes :=
  failed_split_undone.2.2 twoPanes [] ⟨3, 3, 2⟩ ⟨1⟩ .horizontal none true wellFormed_twoPanes
    (by decide)

end Workspaces
