import VimeflowTerminal.Persist.RestoredLayout
import VimeflowTerminal.Workspaces.WellFormed

/-! What one round of the loop over panes can do, and the tab that is rebuilt around
the panes that came back. -/

namespace Persist

open Layout Workspaces Terminal AgentResume

/-- The resume plan that a pane still has when its runtime is chosen. An imported pane has none. -/
def PaneOutcome.pendingPlan (outcome : PaneOutcome) : Option AgentResumePlan :=
  if outcome.wasImported then none else outcome.startup.restorePlan

/-- The saved data of the pane that has become `id`. -/
def savedPane (snap : TabSnapshot) (reverse : FinMap PaneId Nat) (id : PaneId) :
  Option PaneSnapshot :=
  (reverse.lookup id).bind snap.panes.lookup

/-- The reserved sessions once the pane has been looked at. -/
def reserved (ctx : RestoreContext) (outcome : PaneOutcome) (st : RestoreState) : Finset String :=
  (paneRestoreStartup ctx.resumeAgentsOnRestore outcome.session st.resumedAgentSessions).2

def PaneOutcome.restoredSession (outcome : PaneOutcome) : Option PersistedAgentSession :=
  restoredTerminalAgentSession outcome.session outcome.startup.duplicateAgentSession

/-- The three ways a pane leaves the loop. -/
inductive PaneExit (ctx : RestoreContext) (saved : Option PaneSnapshot) (st : RestoreState)
  (outcome : PaneOutcome) (st' : RestoreState) : Prop where
  | deferred (plan : AgentResumePlan) (hPlan : outcome.pendingPlan = some plan)
      (hTerminal : outcome.terminal = some (⟨st.ids.nextTerminalId⟩,
        deferredTerminal saved outcome.restoredSession plan (ctx.now outcome.paneId)))
      (hReserved : st'.resumedAgentSessions = reserved ctx outcome st)
  | started (hPlan : outcome.pendingPlan = none) (hStarts : ctx.starts outcome.paneId = true)
      (hTerminal : outcome.terminal = some (⟨st.ids.nextTerminalId⟩,
        startedTerminal saved outcome.restoredSession outcome.startup.restorePlan
          outcome.wasImported (ctx.now outcome.paneId)))
      (hReserved : st'.resumedAgentSessions = reserved ctx outcome st)
  | failed (hPlan : outcome.pendingPlan = none) (hStarts : ctx.starts outcome.paneId = false)
      (hTerminal : outcome.terminal = none)
      (hReserved : st'.resumedAgentSessions = outcome.startup.reservedAgentSession.elim
        (reserved ctx outcome st) (reserved ctx outcome st).erase)

/-- One round of the loop over the panes. -/
structure PaneStep (ctx : RestoreContext) (snap : TabSnapshot) (reverse : FinMap PaneId Nat)
  (id : PaneId) (st : RestoreState) (outcome : PaneOutcome) (st' : RestoreState) : Prop where
  paneId : outcome.paneId = id
  oldId : outcome.oldId = reverse.lookup id
  session : outcome.session = (savedPane snap reverse id).bind (·.agentSession)
  startup : outcome.startup =
    (paneRestoreStartup ctx.resumeAgentsOnRestore outcome.session st.resumedAgentSessions).1
  nextPaneId : st'.ids.nextPaneId = st.ids.nextPaneId
  nextTerminalId : st'.ids.nextTerminalId =
    st.ids.nextTerminalId + outcome.terminal.toList.length
  exit : PaneExit ctx (savedPane snap reverse id) st outcome st'

variable (ctx : RestoreContext) (snap : TabSnapshot) (reverse : FinMap PaneId Nat)

theorem restorePane_step (id : PaneId) (st : RestoreState) :
  PaneStep ctx snap reverse id st (restorePane ctx snap reverse id st).1
    (restorePane ctx snap reverse id st).2 := by
  unfold restorePane
  dsimp only
  split
  next plan hPlan => exact ⟨rfl, rfl, rfl, rfl, rfl, rfl, .deferred plan hPlan rfl rfl⟩
  next hPlan =>
    split
    next hStarts => exact ⟨rfl, rfl, rfl, rfl, rfl, rfl, .started hPlan hStarts rfl rfl⟩
    next hStarts =>
      exact ⟨rfl, rfl, rfl, rfl, rfl, rfl, .failed hPlan (Bool.eq_false_iff.2 hStarts) rfl rfl⟩

theorem restorePanes_cons (id : PaneId) (ids : List PaneId) (st : RestoreState) :
  (restorePanes ctx snap reverse (id :: ids) st).1 =
    (restorePane ctx snap reverse id st).1 ::
      (restorePanes ctx snap reverse ids (restorePane ctx snap reverse id st).2).1 :=
  rfl

theorem restorePanes_spec (ids : List PaneId) (st : RestoreState) :
  (restorePanes ctx snap reverse ids st).1.map (·.paneId) = ids ∧
    (restorePanes ctx snap reverse ids st).2.ids.nextPaneId = st.ids.nextPaneId := by
  induction ids generalizing st with
  | nil => exact ⟨rfl, rfl⟩
  | cons id ids ih =>
    have hStep := restorePane_step ctx snap reverse id st
    obtain ⟨hIds, hNext⟩ := ih (restorePane ctx snap reverse id st).2
    refine ⟨?_, hNext.trans hStep.nextPaneId⟩
    exact congrArg₂ List.cons hStep.paneId hIds

variable {outcome : PaneOutcome} {id : PaneId}

/-- The raw ids of the outcomes are those the reverse map knows. -/
theorem oldId_of_mem_restorePanes {ids : List PaneId} {st : RestoreState}
  (hMem : outcome ∈ (restorePanes ctx snap reverse ids st).1) :
  outcome.oldId = reverse.lookup outcome.paneId := by
  induction ids generalizing st with
  | nil => cases hMem
  | cons id ids ih =>
    rw [restorePanes_cons] at hMem
    cases List.mem_cons.1 hMem with
    | inl hFirst =>
      have hStep := restorePane_step ctx snap reverse id st
      rw [hFirst, hStep.oldId, hStep.paneId]
    | inr hRest => exact ih hRest

/-- The pane came back. -/
def PaneOutcome.survived (outcome : PaneOutcome) : Bool := outcome.terminal.isSome

theorem survived_of_starts {st : RestoreState} {st' : RestoreState}
  (hStep : PaneStep ctx snap reverse id st outcome st') (hStarts : ctx.starts id = true) :
  outcome.survived = true := by
  unfold PaneOutcome.survived
  cases hStep.exit with
  | deferred plan _ hTerminal _ => rw [hTerminal, Option.isSome_some]
  | started _ _ hTerminal _ => rw [hTerminal, Option.isSome_some]
  | failed _ hFails _ _ =>
    rw [hStep.paneId, hStarts] at hFails
    cases hFails

theorem all_survived {ids : List PaneId} (hStarts : ∀ id ∈ ids, ctx.starts id = true)
  (st : RestoreState) :
  ∀ outcome ∈ (restorePanes ctx snap reverse ids st).1, outcome.survived = true := by
  induction ids generalizing st with
  | nil =>
    intro outcome hMem
    cases hMem
  | cons id ids ih =>
    intro outcome hMem
    rw [restorePanes_cons] at hMem
    cases List.mem_cons.1 hMem with
    | inl hFirst =>
      rw [hFirst]
      exact survived_of_starts ctx snap reverse (restorePane_step ctx snap reverse id st)
        (hStarts id List.mem_cons_self)
    | inr hRest => exact ih (fun id hId => hStarts id (List.mem_cons_of_mem _ hId)) _ outcome hRest

/-- The ids of the panes that came back, in order. -/
def survivors (outcomes : List PaneOutcome) : List PaneId :=
  (outcomes.filter PaneOutcome.survived).map (·.paneId)

theorem fst_restoredPanes (outcomes : List PaneOutcome) :
  (outcomes.filterMap PaneOutcome.restoredPane).map Prod.fst = survivors outcomes := by
  induction outcomes with
  | nil => rfl
  | cons outcome outcomes ih =>
    unfold survivors at ih ⊢
    cases hTerminal : outcome.terminal with
    | none =>
      simpa [PaneOutcome.restoredPane, PaneOutcome.survived, hTerminal] using ih
    | some terminal =>
      simpa [PaneOutcome.restoredPane, PaneOutcome.survived, hTerminal] using ih

theorem mem_restoredPanes {outcomes : List PaneOutcome} :
  id ∈ restoredPanes outcomes ↔ id ∈ survivors outcomes := by
  unfold restoredPanes
  rw [FinMap.mem_ofPairs, fst_restoredPanes]

theorem lookup_restoredPanes {outcomes : List PaneOutcome}
  (hNodup : (outcomes.map (·.paneId)).Nodup) (hMem : outcome ∈ outcomes)
  {terminal : TerminalId × TerminalState} (hTerminal : outcome.terminal = some terminal) :
  (restoredPanes outcomes).lookup outcome.paneId = some (PaneState.new terminal.1) := by
  refine FinMap.lookup_ofPairs ?_ ?_
  · rw [fst_restoredPanes]
    exact hNodup.sublist (List.filter_sublist.map _)
  refine List.mem_filterMap.2 ⟨outcome, hMem, ?_⟩
  rw [PaneOutcome.restoredPane, hTerminal]
  rfl

/-- A tab rebuilt around the panes that came back. -/
structure Rebuilt (snap : TabSnapshot) (number : Nat) (node : Node) (idMap : FinMap Nat PaneId)
  (panes : FinMap PaneId PaneState) (tab : Tab) : Prop where
  wellFormed : tab.WellFormed
  customName : tab.customName = snap.customName
  tabNumber : tab.number = number
  zoomed : tab.zoomed = snap.zoomed
  paneMap : tab.panes = panes
  root : pruneRestoredNode panes.keys node = some tab.layout.root
  leaves : tab.layout.paneIds = node.collectIds.filter (· ∈ panes.keys)
  focus : resolveRestoredPane snap.focused idMap panes.keys tab.layout.paneIds =
    some tab.layout.focus
  rootPane : resolveRestoredPane snap.rootPane idMap panes.keys tab.layout.paneIds =
    some tab.rootPane

theorem exists_resolved (savedOldId : Option Nat) (idMap : FinMap Nat PaneId)
  {surviving paneIds : List PaneId} (hSome : paneIds ≠ [])
  (hSubset : ∀ id ∈ surviving, id ∈ paneIds) :
  ∃ id ∈ paneIds, resolveRestoredPane savedOldId idMap surviving paneIds = some id := by
  unfold resolveRestoredPane
  cases hFound : (savedOldId.bind idMap.lookup).filter (· ∈ surviving) with
  | some id =>
    have hSurvives := of_decide_eq_true (Option.filter_eq_some_iff.1 hFound).2
    exact ⟨id, hSubset id hSurvives, rfl⟩
  | none =>
    obtain ⟨first, rest, rfl⟩ := List.exists_cons_of_ne_nil hSome
    exact ⟨first, List.mem_cons_self, rfl⟩

/-- A tab comes back exactly if one of its panes does, and is then well-formed. -/
theorem rebuildTab_spec {number : Nat} {node : Node} (idMap : FinMap Nat PaneId)
  {panes : FinMap PaneId PaneState} (hNodup : node.collectIds.Nodup)
  (hKeys : ∀ id ∈ panes, id ∈ node.collectIds) :
  (panes.keys = [] ∧ rebuildTab snap number node idMap panes = none) ∨
    ∃ tab, rebuildTab snap number node idMap panes = some tab ∧
      Rebuilt snap number node idMap panes tab := by
  unfold rebuildTab
  cases hEmpty : panes.keys with
  | nil => exact Or.inl ⟨rfl, rfl⟩
  | cons survivor rest =>
    have hSurvivor : survivor ∈ panes.keys := hEmpty ▸ List.mem_cons_self
    obtain ⟨root, hRoot, hLeaves⟩ := prune_of_survivor
      (hKeys survivor (AList.mem_keys.1 hSurvivor)) hSurvivor
    have hSubset : ∀ id ∈ panes.keys, id ∈ root.collectIds := by
      intro id hId
      rw [hLeaves]
      exact List.mem_filter.2 ⟨hKeys id (AList.mem_keys.1 hId), decide_eq_true hId⟩
    have hLive : ∀ id, id ∈ root.collectIds ↔ id ∈ panes := by
      intro id
      rw [hLeaves, List.mem_filter, decide_eq_true_eq, AList.mem_keys]
      exact ⟨And.right, fun hId => ⟨hKeys id hId, hId⟩⟩
    obtain ⟨focus, hFocusMem, hFocus⟩ := exists_resolved snap.focused idMap
      root.collectIds_ne_nil hSubset
    obtain ⟨rootPane, hRootMem, hRootPane⟩ := exists_resolved snap.rootPane idMap
      root.collectIds_ne_nil hSubset
    have hDistinct : root.collectIds.Nodup := hLeaves ▸ hNodup.filter _
    refine Or.inr ⟨⟨snap.customName, number, rootPane, TileLayout.fromSaved root focus, panes,
      snap.zoomed⟩, ?_, ?_⟩
    · rw [hEmpty] at hRoot hFocus hRootPane
      simp [hRoot, hFocus, hRootPane]
    · exact ⟨⟨⟨hDistinct, hFocusMem⟩, hLive, (hLive rootPane).1 hRootMem⟩, rfl, rfl, rfl, rfl,
        hRoot, hLeaves, hFocus, hRootPane⟩

/-- The outcomes of a tab carry the next pane ids, in order. -/
theorem restoreTab_outcomes (number : Nat) (st : RestoreState) :
  (restoreTab ctx snap number st).outcomes.map (·.paneId) =
      freshIds st.ids.nextPaneId snap.layout.collectPaneIds.length ∧
    (restoreTab ctx snap number st).state.ids.nextPaneId =
      st.ids.nextPaneId + snap.layout.collectPaneIds.length := by
  obtain ⟨hIds, hDrawn⟩ := collectIds_remapInner snap.layout st.ids ∅
  obtain ⟨hPanes, hNext⟩ := restorePanes_spec ctx snap
    (reverseIdMap (restoreNodeRemapped snap.layout st.ids).2.2)
    (restoreNodeRemapped snap.layout st.ids).1.collectIds
    { st with ids := (restoreNodeRemapped snap.layout st.ids).2.1 }
  refine ⟨hPanes.trans hIds, hNext.trans ?_⟩
  show (remapInner snap.layout st.ids ∅).2.1.nextPaneId = _
  rw [hDrawn]
  rfl

/-- Whatever the layout, a tab comes back exactly if one of its panes does. -/
theorem restoreTab_cases (number : Nat) (st : RestoreState) :
  let restored := restoreTab ctx snap number st
  (restoredPanes restored.outcomes).keys = [] ∧ restored.tab = none ∨
    ∃ tab reverse, restored.tab = some (tab, reverse) ∧
      Rebuilt snap number (restoreNodeRemapped snap.layout st.ids).1
        (restoreNodeRemapped snap.layout st.ids).2.2 (restoredPanes restored.outcomes) tab ∧
      reverse = reverseIdMap (restoreNodeRemapped snap.layout st.ids).2.2 := by
  obtain ⟨hIds, -⟩ := collectIds_remapInner snap.layout st.ids ∅
  have hNodup : (restoreNodeRemapped snap.layout st.ids).1.collectIds.Nodup :=
    hIds ▸ nodup_freshIds _ _
  have hKeys : ∀ id ∈ restoredPanes (restoreTab ctx snap number st).outcomes,
      id ∈ (restoreNodeRemapped snap.layout st.ids).1.collectIds := by
    intro id hId
    have hPane := (List.filter_sublist.map PaneOutcome.paneId).subset (mem_restoredPanes.1 hId)
    rw [(restoreTab_outcomes ctx snap number st).1] at hPane
    exact hIds ▸ hPane
  rcases rebuildTab_spec snap (restoreNodeRemapped snap.layout st.ids).2.2 hNodup hKeys
    with ⟨hNone, hTab⟩ | ⟨tab, hTab, hRebuilt⟩
  · exact Or.inl ⟨hNone, congrArg (Option.map _) hTab⟩
  · exact Or.inr ⟨tab, _, congrArg (Option.map _) hTab, hRebuilt, rfl⟩

/-- A tab as it comes back: the surviving panes under their new names. -/
structure RestoredFrom (rename : Nat → PaneId) (survives : Nat → Bool) (snap : TabSnapshot)
  (number : Nat) (tab : Tab) : Prop where
  wellFormed : tab.WellFormed
  customName : tab.customName = snap.customName
  tabNumber : tab.number = number
  zoomed : tab.zoomed = snap.zoomed
  leaves : tab.layout.paneIds = (snap.layout.collectPaneIds.filter survives).map rename
  ratios : splitRatios tab.layout.root = snap.layout.keptRatios survives
  root : (∀ oldId ∈ snap.layout.collectPaneIds, survives oldId = true) →
    tab.layout.root = snap.layout.toNode rename
  focus : ∀ oldId ∈ snap.layout.collectPaneIds, snap.focused = some oldId →
    survives oldId = true → tab.layout.focus = rename oldId
  rootPane : ∀ oldId ∈ snap.layout.collectPaneIds, snap.rootPane = some oldId →
    survives oldId = true → tab.rootPane = rename oldId

theorem resolve_saved {idMap : FinMap Nat PaneId} {surviving paneIds : List PaneId} {oldId : Nat}
  {resolved : PaneId} (hNamed : idMap.lookup oldId = some id) (hSurvives : id ∈ surviving)
  (hResolved : resolveRestoredPane (some oldId) idMap surviving paneIds = some resolved) :
  resolved = id := by
  have hFound : ((some oldId).bind idMap.lookup).filter (· ∈ surviving) = some id :=
    Option.filter_eq_some_iff.2 ⟨hNamed, decide_eq_true hSurvives⟩
  unfold resolveRestoredPane at hResolved
  rw [hFound] at hResolved
  exact (Option.some.inj hResolved).symm

section Distinct

variable {rename : Nat → PaneId} {number : Nat} {st : RestoreState}
  (hNames : snap.layout.collectPaneIds.map rename =
    freshIds st.ids.nextPaneId snap.layout.collectPaneIds.length)

include hNames

theorem restoreNodeRemapped_eq :
  (restoreNodeRemapped snap.layout st.ids).1 = snap.layout.toNode rename ∧
    (restoreNodeRemapped snap.layout st.ids).2.2 =
      recordNames rename ∅ snap.layout.collectPaneIds := by
  unfold restoreNodeRemapped
  rw [remapInner_eq rename snap.layout st.ids ∅ hNames]
  exact ⟨rfl, rfl⟩

theorem oldId_of_outcome {outcome : PaneOutcome}
  (hMem : outcome ∈ (restoreTab ctx snap number st).outcomes) : outcome.oldId =
    (reverseIdMap (recordNames rename ∅ snap.layout.collectPaneIds)).lookup outcome.paneId := by
  rw [← (restoreNodeRemapped_eq snap hNames).2]
  exact oldId_of_mem_restorePanes ctx snap _ hMem

theorem restoreTab_oldIds : (restoreTab ctx snap number st).outcomes.map (·.oldId) =
  snap.layout.collectPaneIds.map some := by
  rw [List.map_congr_left fun outcome hMem => oldId_of_outcome ctx snap hNames hMem]
  have hPanes := (restoreTab_outcomes ctx snap number st).1.trans hNames.symm
  have hLookups := congrArg (List.map
    (reverseIdMap (recordNames rename ∅ snap.layout.collectPaneIds)).lookup) hPanes
  rw [List.map_map, List.map_map] at hLookups
  refine hLookups.trans (List.map_congr_left fun oldId hMem => ?_)
  exact lookup_reverseIdMap hNames hMem

/-- A pane survives under its new name exactly if its outcome says so. -/
theorem mem_survivors_iff {survives : Nat → Bool}
  (hSurvives : ∀ outcome ∈ (restoreTab ctx snap number st).outcomes, ∀ oldId,
    outcome.oldId = some oldId → outcome.survived = survives oldId) (oldId : Nat)
  (hMem : oldId ∈ snap.layout.collectPaneIds) :
  rename oldId ∈ restoredPanes (restoreTab ctx snap number st).outcomes ↔
    survives oldId = true := by
  have hOld : ∀ outcome ∈ (restoreTab ctx snap number st).outcomes,
      outcome.paneId = rename oldId → outcome.oldId = some oldId := by
    intro outcome hOutcome hPane
    rw [oldId_of_outcome ctx snap hNames hOutcome, hPane]
    exact lookup_reverseIdMap hNames hMem
  rw [mem_restoredPanes]
  constructor
  · intro hSurvivor
    obtain ⟨outcome, hFiltered, hPane⟩ := List.mem_map.1 hSurvivor
    obtain ⟨hOutcome, hSurvived⟩ := List.mem_filter.1 hFiltered
    rw [← hSurvives outcome hOutcome oldId (hOld outcome hOutcome hPane)]
    exact hSurvived
  · intro hAlive
    have hPaneId : rename oldId ∈ (restoreTab ctx snap number st).outcomes.map (·.paneId) := by
      rw [(restoreTab_outcomes ctx snap number st).1, ← hNames]
      exact List.mem_map_of_mem hMem
    obtain ⟨outcome, hOutcome, hPane⟩ := List.mem_map.1 hPaneId
    refine List.mem_map.2 ⟨outcome, List.mem_filter.2 ⟨hOutcome, ?_⟩, hPane⟩
    rw [hSurvives outcome hOutcome oldId (hOld outcome hOutcome hPane)]
    exact hAlive

/-- With distinct leaves, the tab that comes back is the saved one, renamed and pruned. -/
theorem restoreTab_spec {survives : Nat → Bool}
  (hSurvives : ∀ outcome ∈ (restoreTab ctx snap number st).outcomes, ∀ oldId,
    outcome.oldId = some oldId → outcome.survived = survives oldId) :
  snap.layout.collectPaneIds.any survives = false ∧
      (restoreTab ctx snap number st).tab = none ∨
    snap.layout.collectPaneIds.any survives = true ∧
      ∃ tab, (restoreTab ctx snap number st).tab =
          some (tab, reverseIdMap (recordNames rename ∅ snap.layout.collectPaneIds)) ∧
        RestoredFrom rename survives snap number tab := by
  obtain ⟨hNode, hMap⟩ := restoreNodeRemapped_eq snap hNames
  have hAlive := fun oldId hMem => mem_survivors_iff ctx snap hNames hSurvives oldId hMem
  rcases restoreTab_cases ctx snap number st with ⟨hNone, hTab⟩ | ⟨tab, reverse, hTab, hRebuilt, hRev⟩
  · refine Or.inl ⟨?_, hTab⟩
    rw [List.any_eq_false]
    intro oldId hMem hSurvive
    have hKey := AList.mem_keys.1 ((hAlive oldId hMem).2 hSurvive)
    rw [hNone] at hKey
    cases hKey
  · have hSame : ∀ oldId ∈ snap.layout.collectPaneIds,
        decide (rename oldId ∈ (restoredPanes (restoreTab ctx snap number st).outcomes).keys) =
          survives oldId := by
      intro oldId hMem
      exact Bool.eq_iff_iff.2 (decide_eq_true_iff.trans
        (AList.mem_keys.trans (hAlive oldId hMem)))
    have hRoot := hRebuilt.root
    have hLeaves := hRebuilt.leaves
    rw [hNode] at hRoot hLeaves
    have hKept : snap.layout.collectPaneIds.filter ((fun id => decide
        (id ∈ (restoredPanes (restoreTab ctx snap number st).outcomes).keys)) ∘ rename) =
          snap.layout.collectPaneIds.filter survives :=
      List.filter_congr hSame
    rw [LayoutSnapshot.collectIds_toNode, List.filter_map, hKept] at hLeaves
    refine Or.inr ⟨?_, tab, hTab.trans (by rw [hRev, hMap]), hRebuilt.wellFormed,
      hRebuilt.customName, hRebuilt.tabNumber, hRebuilt.zoomed, hLeaves, ?_, ?_, ?_, ?_⟩
    · by_contra hDead
      have hNone : snap.layout.collectPaneIds.filter survives = [] := by
        rw [List.filter_eq_nil_iff]
        exact List.any_eq_false.1 (Bool.eq_false_iff.2 hDead)
      rw [hNone] at hLeaves
      exact tab.layout.root.collectIds_ne_nil hLeaves
    · have hRatios := splitRatios_prune
        (restoredPanes (restoreTab ctx snap number st).outcomes).keys rename snap.layout
      rw [hRoot] at hRatios
      refine hRatios.trans (keptRatios_congr hSame)
    · intro hAll
      have hKept : pruneRestoredNode (restoredPanes (restoreTab ctx snap number st).outcomes).keys
          (snap.layout.toNode rename) = some (snap.layout.toNode rename) := by
        refine prune_of_all fun id hId => ?_
        rw [LayoutSnapshot.collectIds_toNode] at hId
        obtain ⟨oldId, hMem, rfl⟩ := List.mem_map.1 hId
        exact of_decide_eq_true ((hSame oldId hMem).trans (hAll oldId hMem))
      exact Option.some.inj (hRoot.symm.trans hKept)
    · intro oldId hMem hFocused hSurvive
      have hFocus := hRebuilt.focus
      rw [hFocused, hMap] at hFocus
      refine resolve_saved ?_ ((hAlive oldId hMem).2 hSurvive) hFocus
      rw [lookup_recordNames, if_pos hMem]
    · intro oldId hMem hFocused hSurvive
      have hFocus := hRebuilt.rootPane
      rw [hFocused, hMap] at hFocus
      refine resolve_saved ?_ ((hAlive oldId hMem).2 hSurvive) hFocus
      rw [lookup_recordNames, if_pos hMem]

end Distinct

end Persist
