import VimeflowTerminal.Persist.RestoredSession
import VimeflowTerminal.Workspaces.Runs

/-! A captured session is restored to the same workspaces up to the ids of the
panes, if all panes start. -/

namespace Persist

open Layout Workspaces Numbering Terminal

/-- The tree with its leaves renamed. -/
def mapIds (f : PaneId → PaneId) : Node → Node
  | .pane id => .pane (f id)
  | .split direction ratio first second => .split direction ratio (mapIds f first) (mapIds f second)

/-- The same tab with its panes renamed. -/
structure TabRenamed (f : PaneId → PaneId) (tab tab' : Tab) : Prop where
  customName : tab'.customName = tab.customName
  number : tab'.number = tab.number
  zoomed : tab'.zoomed = tab.zoomed
  root : tab'.layout.root = mapIds f tab.layout.root
  focus : tab'.layout.focus = f tab.layout.focus
  rootPane : tab'.rootPane = f tab.rootPane
  panes : ∀ id, id ∈ tab'.panes ↔ ∃ old ∈ tab.panes, id = f old

/-- The same workspace with its panes renamed. -/
structure WorkspaceRenamed (f : PaneId → PaneId) (ws ws' : Workspace) : Prop where
  id : ws'.id = ws.id
  customName : ws'.customName = ws.customName
  tabs : List.Forall₂ (TabRenamed f) ws.tabs ws'.tabs
  activeTab : ws'.activeTab = ws.activeTab
  numbers : ∀ id ∈ ws.paneIds, ws'.publicPaneNumbers.lookup (f id) = ws.publicPaneNumbers.lookup id
  registered : ∀ id ∈ ws'.publicPaneNumbers, ∃ old ∈ ws.paneIds, id = f old
  nextPane : ws'.nextPublicPaneNumber = ws.nextPublicPaneNumber
  nextTab : ws'.nextPublicTabNumber = ws.nextPublicTabNumber

/-- Well-formed workspaces without a pane in common. The counters are of type `usize`. -/
structure SessionWellFormed (workspaces : List Workspace) : Prop where
  each : ∀ ws ∈ workspaces, ws.WellFormed []
  someTab : ∀ ws ∈ workspaces, ws.tabs ≠ []
  panes : (workspaces.flatMap Workspace.paneIds).Nodup
  nextPane : ∀ ws ∈ workspaces, ws.nextPublicPaneNumber < usizeLimit
  nextTab : ∀ ws ∈ workspaces, ws.nextPublicTabNumber < usizeLimit

theorem restoreDirection_captureDirection (direction : Direction) :
  restoreDirection (captureDirection direction) = direction := by
  cases direction with
  | horizontal => rfl
  | vertical => rfl

theorem collectPaneIds_captureNode (node : Node) :
  (captureNode node).collectPaneIds = node.collectIds.map (·.raw) := by
  induction node with
  | pane => rfl
  | split _ _ first second ihFirst ihSecond =>
    rw [captureNode, LayoutSnapshot.collectPaneIds, ihFirst, ihSecond, Node.collectIds,
      List.map_append]

theorem collectIds_mapIds (f : PaneId → PaneId) (node : Node) :
  (mapIds f node).collectIds = node.collectIds.map f := by
  induction node with
  | pane => rfl
  | split _ _ first second ihFirst ihSecond =>
    rw [mapIds, Node.collectIds, ihFirst, ihSecond, Node.collectIds, List.map_append]

theorem toNode_captureNode (rename : Nat → PaneId) (node : Node) :
  (captureNode node).toNode rename = mapIds (fun id => rename id.raw) node := by
  induction node with
  | pane => rfl
  | split direction ratio first second ihFirst ihSecond =>
    rw [captureNode, LayoutSnapshot.toNode, restoreDirection_captureDirection, ihFirst,
      ihSecond, mapIds]

section Capture

variable {ws : Workspace} (terminals : FinMap TerminalId TerminalState)

theorem leaves_captureWorkspace (ws : Workspace) :
  (captureWorkspace terminals ws).leaves = (leafIds ws).map (·.raw) := by
  show (ws.tabs.map (captureTab terminals)).flatMap _ = _
  rw [List.flatMap_map, leafIds, List.map_flatMap]
  congr 1
  funext tab
  exact collectPaneIds_captureNode tab.layout.root

theorem leafIds_perm (h : ws.WellFormed []) : (leafIds ws).Perm ws.paneIds := by
  have hEach := h.tabs.each
  unfold leafIds Workspace.paneIds Workspace.attachments
  rw [List.map_flatMap]
  refine List.Perm.flatMap_left _ fun tab hTab => ?_
  rw [Tab.fst_attachments]
  refine (List.perm_ext_iff_of_nodup (hEach tab hTab).layout.nodup tab.panes.keys_nodup).2 ?_
  intro id
  exact ((hEach tab hTab).panes id).trans AList.mem_keys.symm

theorem raw_injective : Function.Injective PaneId.raw := by
  intro a b hEq
  cases a
  cases b
  exact congrArg PaneId.mk hEq

/-- The saved number of a pane is its public number. -/
theorem lookup_saved (ws : Workspace) (id : PaneId) (n : Nat) :
  (captureWorkspace terminals ws).publicPaneNumbers.lookup id.raw = some n ↔
    ws.publicPaneNumbers.lookup id = some n := by
  have hNodup : ((ws.publicPaneNumbers.entries.map fun e => (e.1.raw, e.2)).map
      Prod.fst).Nodup := by
    rw [List.map_map]
    show (ws.publicPaneNumbers.entries.map (PaneId.raw ∘ Sigma.fst)).Nodup
    rw [← List.map_map]
    exact ws.publicPaneNumbers.nodupKeys.map raw_injective
  refine (FinMap.lookup_ofPairs_iff hNodup).trans ?_
  constructor
  · intro hPair
    obtain ⟨e, hE, hEq⟩ := List.mem_map.1 hPair
    obtain ⟨hRaw, rfl⟩ := Prod.mk.inj hEq
    rw [← raw_injective hRaw]
    exact FinMap.mem_entries_iff.1 hE
  · intro hLookup
    exact List.mem_map.2 ⟨⟨id, n⟩, FinMap.mem_entries_iff.2 hLookup, rfl⟩

theorem exists_pane_of_saved (ws : Workspace) {raw n : Nat}
  (hSaved : (captureWorkspace terminals ws).publicPaneNumbers.lookup raw = some n) :
  ∃ id : PaneId, id.raw = raw ∧ ws.publicPaneNumbers.lookup id = some n :=
  ⟨⟨raw⟩, rfl, (lookup_saved terminals ws ⟨raw⟩ n).1 hSaved⟩

theorem accepted_captureWorkspace (h : ws.WellFormed []) (hPane : ws.nextPublicPaneNumber < usizeLimit)
  (hTab : ws.nextPublicTabNumber < usizeLimit) : Accepted (captureWorkspace terminals ws) := by
  refine ⟨?_, ?_, hPane, hTab⟩
  · rw [leaves_captureWorkspace]
    exact ((leafIds_perm h).nodup_iff.2 h.panes.nodup).map raw_injective
  refine List.Nodup.map_on ?_ (AList.nodupKeys _).nodup
  intro a hA b hB hEq
  obtain ⟨idA, hRawA, hNumberA⟩ := exists_pane_of_saved terminals ws (FinMap.mem_entries_iff.1 hA)
  obtain ⟨idB, hRawB, hNumberB⟩ := exists_pane_of_saved terminals ws (FinMap.mem_entries_iff.1 hB)
  have hSame := h.panes.numbered.inj idA idB a.2 hNumberA (hEq ▸ hNumberB)
  exact Sigma.ext (by rw [← hRawA, ← hRawB, hSame]) (heq_of_eq hEq)

variable {next : Nat} {rename : Nat → PaneId}

/-- The saved counter is past all the saved numbers. -/
theorem firstFreeNumber_eq {saved : List Nat} (hPos : 0 < next) (hBelow : ∀ n ∈ saved, n < next) :
  firstFreeNumber saved next = next := by
  refine Nat.max_eq_right ?_
  cases hFree : saved.max?.bind checkedSucc with
  | none => exact hPos
  | some free =>
    obtain ⟨greatest, hMax, hSucc⟩ := Option.bind_eq_some_iff.1 hFree
    unfold checkedSucc at hSucc
    split at hSucc
    next =>
      cases hSucc
      exact hBelow greatest (List.max?_mem hMax)
    next => cases hSucc

theorem pastAll_eq {α : Type} {number : α → Nat} {items : List α} (hNext : next < usizeLimit)
  (hBelow : ∀ item ∈ items, number item < next) :
  pastAll number items next = next := by
  induction items with
  | nil => rfl
  | cons item items ih =>
    have hLt := hBelow item List.mem_cons_self
    have hSucc : wrappingSucc (number item) = number item + 1 :=
      Nat.mod_eq_of_lt (Nat.lt_of_le_of_lt hLt hNext)
    show pastAll number items (max next (wrappingSucc (number item))) = next
    rw [hSucc, Nat.max_eq_left hLt]
    exact ih fun other hMem => hBelow other (List.mem_cons_of_mem _ hMem)

theorem foldl_migrateNumber_eq {saved : FinMap Nat Nat} {oldIds : List Nat}
  (hSaved : ∀ oldId ∈ oldIds, oldId ∈ saved) :
  oldIds.foldl migrateNumber (saved, next) = (saved, next) := by
  induction oldIds with
  | nil => rfl
  | cons oldId oldIds ih =>
    rw [List.foldl_cons, migrateNumber_of_mem (hSaved oldId List.mem_cons_self)]
    exact ih fun other hMem => hSaved other (List.mem_cons_of_mem _ hMem)

/-- A captured tab comes back renamed. -/
theorem tabRenamed_of_restored {tab tab' : Tab} {number : Nat} (hWell : tab.WellFormed)
  (hNumber : number = tab.number)
  (h : RestoredFrom rename (fun _ => true) (captureTab terminals tab) number tab') :
  TabRenamed (fun id => rename id.raw) tab tab' := by
  have hLeaf : ∀ id ∈ tab.layout.paneIds,
      id.raw ∈ (captureTab terminals tab).layout.collectPaneIds := by
    intro id hMem
    show id.raw ∈ (captureNode tab.layout.root).collectPaneIds
    rw [collectPaneIds_captureNode]
    exact List.mem_map_of_mem hMem
  have hRoot : tab'.layout.root = mapIds (fun id => rename id.raw) tab.layout.root :=
    (h.root fun _ _ => rfl).trans (toNode_captureNode rename tab.layout.root)
  refine ⟨h.customName, h.tabNumber.trans hNumber, h.zoomed, hRoot, ?_, ?_, ?_⟩
  · exact h.focus _ (hLeaf _ hWell.layout.focus) rfl rfl
  · exact h.rootPane _ (hLeaf _ ((hWell.panes _).2 hWell.root)) rfl rfl
  · intro id
    rw [← h.wellFormed.panes]
    show id ∈ tab'.layout.root.collectIds ↔ _
    rw [hRoot, collectIds_mapIds, List.mem_map]
    constructor
    · rintro ⟨old, hOld, rfl⟩
      exact ⟨old, (hWell.panes old).1 hOld, rfl⟩
    · rintro ⟨old, hOld, rfl⟩
      exact ⟨old, (hWell.panes old).2 hOld, rfl⟩

/-- The tabs come back in order, each under its own number. -/
theorem tabsRenamed_of_restored {snap : WorkspaceSnapshot} {tabs tabs' : List Tab} {k : Nat}
  (hWell : ∀ tab ∈ tabs, tab.WellFormed)
  (hNumbers : ∀ i tab, tabs[i]? = some tab → savedTabNumber snap (k + i) = tab.number)
  (h : List.Forall₂ (fun entry tab =>
    RestoredFrom rename (fun _ => true) entry.1 (entryNumber snap entry) tab)
    ((tabs.map (captureTab terminals)).zipIdx k) tabs') :
  List.Forall₂ (TabRenamed fun id => rename id.raw) tabs tabs' := by
  induction tabs generalizing k tabs' with
  | nil =>
    cases h
    exact .nil
  | cons tab tabs ih =>
    rw [List.map_cons, List.zipIdx_cons] at h
    cases h with
    | cons hTab hRest =>
      refine .cons (tabRenamed_of_restored terminals (hWell tab List.mem_cons_self)
        (hNumbers 0 tab rfl) hTab) ?_
      refine ih (fun other hMem => hWell other (List.mem_cons_of_mem _ hMem)) ?_ hRest
      intro i other hAt
      rw [Nat.add_assoc, Nat.add_comm 1 i]
      exact hNumbers (i + 1) other hAt

theorem savedTabNumber_captureWorkspace {i : Nat} {tab : Tab} (hAt : ws.tabs[i]? = some tab) :
  savedTabNumber (captureWorkspace terminals ws) i = tab.number := by
  show ((ws.tabs.map (·.number))[i]?).getD (i + 1) = tab.number
  rw [List.getElem?_map, hAt]
  rfl

theorem keptTabs_all (snap : WorkspaceSnapshot) :
  keptTabs (fun _ => true) snap = snap.tabs.zipIdx := by
  refine List.filter_eq_self.2 fun entry _ => ?_
  obtain ⟨oldId, hMem⟩ := List.exists_mem_of_length_pos entry.1.layout.length_pos
  exact List.any_eq_true.2 ⟨oldId, hMem, rfl⟩

theorem keptLeaves_all (snap : WorkspaceSnapshot) : keptLeaves (fun _ => true) snap = snap.leaves :=
  List.filter_eq_self.2 fun _ _ => rfl

/-- Every pane comes back if all of them start. -/
theorem cameBack_of_starts {ctx : RestoreContext} (hStarts : ∀ id, ctx.starts id = true)
  (snap : WorkspaceSnapshot) (st : RestoreState) :
  CameBack (restoreWorkspace ctx snap st).outcomes fun _ => true := by
  have hSurvived : ∀ outcome ∈ (lastBuild ctx snap st).outcomes, outcome.survived = true := by
    refine List.foldlRecOn snap.tabs.zipIdx _
      (motive := fun build : WorkspaceBuild => ∀ outcome ∈ build.outcomes, outcome.survived = true)
      (fun _ hNone => nomatch hNone) fun build hBuild entry _ outcome hMem => ?_
    rw [(addRestoredTab_state ctx snap _ build entry).1] at hMem
    rcases List.mem_append.1 hMem with hOld | hNew
    · exact hBuild outcome hOld
    · exact all_survived ctx entry.1 _ (fun id _ => hStarts id) _ outcome hNew
  exact fun outcome hMem _ _ => hSurvived outcome hMem

theorem paneNumber_captureWorkspace (h : ws.WellFormed []) {id : PaneId} (hMem : id ∈ ws.paneIds) :
  ws.publicPaneNumbers.lookup id = some ((captureWorkspace terminals ws).paneNumber id.raw) := by
  obtain ⟨n, hNumber⟩ := Option.isSome_iff_exists.1
    (AList.lookup_isSome.2 (h.panes.registered id hMem))
  have hSaved := (lookup_saved terminals ws id n).2 hNumber
  rw [WorkspaceSnapshot.paneNumber, assignedNumber, hSaved]
  exact hNumber

/-- A captured workspace comes back renamed if all its panes do. -/
theorem workspaceRenamed_of_restored {ctx : RestoreContext} {ws' : Workspace}
  (h : ws.WellFormed []) (hSome : ws.tabs ≠ []) (hPane : ws.nextPublicPaneNumber < usizeLimit)
  (hTab : ws.nextPublicTabNumber < usizeLimit)
  (hRestored : WorkspaceRestored ctx rename (fun _ => true) (captureWorkspace terminals ws) ws') :
  WorkspaceRenamed (fun id => rename id.raw) ws ws' := by
  have hTabs := hRestored.tabs
  rw [keptTabs_all] at hTabs
  have hRenamed : List.Forall₂ (TabRenamed fun id => rename id.raw) ws.tabs ws'.tabs := by
    refine tabsRenamed_of_restored terminals h.tabs.each (k := 0) ?_ hTabs
    intro i tab hAt
    rw [Nat.zero_add]
    exact savedTabNumber_captureWorkspace terminals hAt
  have hLeaf : ∀ id, id ∈ leafIds ws ↔ id ∈ ws.paneIds := fun id => (leafIds_perm h).mem_iff
  have hBelow : ∀ id ∈ ws.paneIds,
      (captureWorkspace terminals ws).paneNumber id.raw < ws.nextPublicPaneNumber :=
    fun id hMem => (h.panes.numbered.bounds id _ (paneNumber_captureWorkspace terminals h hMem)).2
  have hFirst : (captureWorkspace terminals ws).firstPaneNumber = ws.nextPublicPaneNumber := by
    refine firstFreeNumber_eq h.panes.numbered.pos fun n hMem => ?_
    obtain ⟨raw, hLookup⟩ := FinMap.mem_values.1 hMem
    obtain ⟨id, -, hNumber⟩ := exists_pane_of_saved terminals ws hLookup
    exact (h.panes.numbered.bounds id n hNumber).2
  refine ⟨hRestored.id ws.id rfl, hRestored.customName, hRenamed, ?_, ?_, ?_, ?_, ?_⟩
  · have hActive := h.tabs.active hSome
    have hLength := hRenamed.length_eq
    rw [hRestored.activeTab]
    show min ws.activeTab (ws'.tabs.length - 1) = ws.activeTab
    omega
  · intro id hMem
    rw [paneNumber_captureWorkspace terminals h hMem]
    have hEntry : (⟨rename id.raw, (captureWorkspace terminals ws).paneNumber id.raw⟩ :
        Sigma fun _ : PaneId => Nat) ∈ ws'.publicPaneNumbers.entries := by
      rw [hRestored.registry, keptLeaves_all, leaves_captureWorkspace, List.mem_reverse,
        List.mem_map]
      exact ⟨id.raw, List.mem_map_of_mem ((hLeaf id).2 hMem), rfl⟩
    exact FinMap.mem_entries_iff.1 hEntry
  · intro id hMem
    rw [hRestored.mem_registry, hRestored.leafIds_eq, keptLeaves_all, leaves_captureWorkspace,
      List.map_map, List.mem_map] at hMem
    obtain ⟨old, hOld, rfl⟩ := hMem
    exact ⟨old, (hLeaf old).1 hOld, rfl⟩
  · have hMigrated : (migratedPublicPaneNumbersByOldRaw (captureWorkspace terminals ws)
        ws.nextPublicPaneNumber).2 = ws.nextPublicPaneNumber := by
      refine congrArg Prod.snd (foldl_migrateNumber_eq fun oldId hMem => ?_)
      change oldId ∈ (captureWorkspace terminals ws).leaves at hMem
      rw [leaves_captureWorkspace] at hMem
      obtain ⟨id, hId, rfl⟩ := List.mem_map.1 hMem
      refine AList.lookup_isSome.1 (Option.isSome_iff_exists.2 ⟨_, (lookup_saved terminals ws id _).2
        (paneNumber_captureWorkspace terminals h ((hLeaf id).1 hId))⟩)
    rw [hRestored.nextPane, hFirst, hMigrated, keptLeaves_all, leaves_captureWorkspace]
    refine pastAll_eq hPane fun oldId hMem => ?_
    obtain ⟨id, hId, rfl⟩ := List.mem_map.1 hMem
    exact hBelow id ((hLeaf id).1 hId)
  · have hSaved : firstFreeNumber (ws.tabs.map (·.number)) ws.nextPublicTabNumber =
        ws.nextPublicTabNumber :=
      firstFreeNumber_eq h.tabs.numbers.pos fun n hMem => (h.tabs.numbers.bounds n hMem).2
    rw [hRestored.nextTab]
    show pastAll _ _ (firstFreeNumber (ws.tabs.map (·.number)) ws.nextPublicTabNumber) = _
    rw [hSaved]
    refine pastAll_eq hTab fun entry hMem => ?_
    have hNumber : entryNumber (captureWorkspace terminals ws) entry ∈ ws'.tabNumbers := by
      rw [hRestored.tabNumbers_eq]
      exact List.mem_map_of_mem hMem
    have hSame : ws'.tabNumbers = ws.tabNumbers := by
      have hPairs : List.Forall₂ (· = ·) (ws'.tabs.map (·.number)) (ws.tabs.map (·.number)) := by
        rw [List.forall₂_map_left_iff, List.forall₂_map_right_iff]
        exact List.Forall₂.flip (hRenamed.imp fun _ _ hTab => hTab.number)
      rwa [List.forall₂_eq_eq_eq] at hPairs
    rw [hSame] at hNumber
    exact (h.tabs.numbers.bounds _ hNumber).2

end Capture

section Session

variable {ctx : RestoreContext} (terminals : FinMap TerminalId TerminalState)

/-- The captured workspaces come back one after the other. -/
theorem renamed_of_restorations (hStarts : ∀ id, ctx.starts id = true)
  {rename : Nat → PaneId} {workspaces : List Workspace}
  (h : SessionWellFormed workspaces) {st : RestoreState}
  (hNames : (workspaces.flatMap fun ws => (leafIds ws).map (·.raw)).map rename =
    freshIds st.ids.nextPaneId
      (workspaces.flatMap fun ws => (leafIds ws).map (·.raw)).length) :
  List.Forall₂ (WorkspaceRenamed fun id => rename id.raw) workspaces
    ((restorations ctx (workspaces.map (captureWorkspace terminals)) st).filterMap
      (·.2.workspace)) := by
  induction workspaces generalizing st with
  | nil => exact .nil
  | cons ws workspaces ih =>
    rw [List.flatMap_cons, List.map_append, List.length_append, freshIds_append] at hNames
    obtain ⟨hFirst, hRest⟩ := List.append_inj hNames (by rw [List.length_map, length_freshIds])
    rw [← leaves_captureWorkspace terminals] at hFirst hRest
    have hWell := h.each ws List.mem_cons_self
    have hSome := h.someTab ws List.mem_cons_self
    have hPane := h.nextPane ws List.mem_cons_self
    have hTab := h.nextTab ws List.mem_cons_self
    have hAccepted := accepted_captureWorkspace terminals hWell hPane hTab
    have hRestored := restoreWorkspace_spec ctx hAccepted hFirst
      (cameBack_of_starts hStarts (captureWorkspace terminals ws) st)
    have hOthers : SessionWellFormed workspaces := by
      refine ⟨fun other hMem => h.each other (List.mem_cons_of_mem _ hMem),
        fun other hMem => h.someTab other (List.mem_cons_of_mem _ hMem), ?_,
        fun other hMem => h.nextPane other (List.mem_cons_of_mem _ hMem),
        fun other hMem => h.nextTab other (List.mem_cons_of_mem _ hMem)⟩
      have hPanes := h.panes
      rw [List.flatMap_cons] at hPanes
      exact (List.nodup_append.1 hPanes).2.1
    rw [List.map_cons, restorations]
    rcases hRestored with ⟨hNone, -⟩ | ⟨ws', hWorkspace, hWs⟩
    · rw [keptTabs_all] at hNone
      have hEmpty : (ws.tabs.map (captureTab terminals)).length = 0 := by
        rw [← List.length_zipIdx (i := 0)]
        exact List.length_eq_zero_iff.2 hNone
      rw [List.length_map] at hEmpty
      exact absurd (List.length_eq_zero_iff.1 hEmpty) hSome
    · simp only [List.filterMap_cons, hWorkspace]
      refine .cons (workspaceRenamed_of_restored terminals hWell hSome hPane hTab hWs) ?_
      refine ih hOthers ?_
      rw [(restoreWorkspace_outcomes ctx hFirst).2]
      exact hRest

/-- Restoring a captured session in which all panes start gives the same workspaces, with the
panes renamed one to one. -/
theorem restore_capture (hStarts : ∀ id, ctx.starts id = true)
  {workspaces : List Workspace} (h : SessionWellFormed workspaces)
  (active : Option Nat) (selected : Nat) (ids : IdCounters) (importedPanes : Finset Nat) :
  ∃ f : PaneId → PaneId,
    (∀ a ∈ workspaces.flatMap Workspace.paneIds, ∀ b ∈ workspaces.flatMap Workspace.paneIds,
      f a = f b → a = b) ∧
    List.Forall₂ (WorkspaceRenamed f) workspaces (restoreWithImports ctx
      (capture workspaces terminals active selected) ids importedPanes).workspaces := by
  have hLeaves : (workspaces.flatMap leafIds).Perm (workspaces.flatMap Workspace.paneIds) :=
    List.Perm.flatMap_left _ fun ws hMem => leafIds_perm (h.each ws hMem)
  have hRaw : (workspaces.flatMap fun ws => (leafIds ws).map (·.raw)) =
      (workspaces.flatMap leafIds).map (·.raw) := (List.map_flatMap ..).symm
  have hDistinct : (workspaces.flatMap fun ws => (leafIds ws).map (·.raw)).Nodup := by
    rw [hRaw]
    exact (hLeaves.nodup_iff.2 h.panes).map raw_injective
  obtain ⟨rename, hNames⟩ := exists_rename hDistinct ids.nextPaneId
  refine ⟨fun id => rename id.raw, ?_, ?_⟩
  · intro a hA b hB hEq
    have hMem : ∀ id ∈ workspaces.flatMap Workspace.paneIds,
        id.raw ∈ workspaces.flatMap fun ws => (leafIds ws).map (·.raw) := by
      intro id hId
      rw [hRaw]
      exact List.mem_map_of_mem (hLeaves.mem_iff.2 hId)
    exact raw_injective (rename_injOn hNames _ (hMem a hA) _ (hMem b hB) hEq)
  · have hWorkspaces := (foldl_addRestoredWorkspace ctx
      (workspaces.map (captureWorkspace terminals)) ⟨[], ∅, [], ⟨ids, ∅, importedPanes, 0⟩⟩).1
    have hRestore : (restoreWithImports ctx (capture workspaces terminals active selected) ids
        importedPanes).workspaces = _ := hWorkspaces
    rw [hRestore, List.nil_append]
    exact renamed_of_restorations terminals hStarts h hNames

end Session

/-- A workspace of two tabs with three panes comes back in a new process. -/
theorem restore_capture_rearranged :
  ∃ finish f, System.rearranging.foldlM System.step System.opened = some finish ∧
    finish.workspace.tabs.length = 2 ∧
    List.Forall₂ (WorkspaceRenamed f) [finish.workspace]
      (restoreWithImports everythingStarts (capture [finish.workspace] ∅ (some 0) 0)
        IdCounters.initial ∅).workspaces := by
  obtain ⟨finish, hFold, hTabs, hMoving, hPane, hTab⟩ : ∃ finish,
      System.rearranging.foldlM System.step System.opened = some finish ∧
        finish.workspace.tabs.length = 2 ∧ finish.moving = [] ∧
        finish.workspace.nextPublicPaneNumber ≤ 5 ∧ finish.workspace.nextPublicTabNumber ≤ 5 :=
    ⟨(System.rearranging.foldlM System.step System.opened).get (by decide), by simp, by decide,
      by decide, by decide, by decide⟩
  have hInvariant := System.run_invariant (Transition.run_of_foldlM hFold) System.fresh_opened
  have hWell : finish.workspace.WellFormed [] := by
    have hAway := hInvariant.wellFormed
    rwa [System.movingIds, hMoving, List.map_nil] at hAway
  have hLimit : 5 < usizeLimit := by
    decide
  have hSession : SessionWellFormed [finish.workspace] := by
    refine ⟨?_, ?_, ?_, ?_, ?_⟩
    · exact List.forall_mem_singleton.2 hWell
    · exact List.forall_mem_singleton.2 (List.ne_nil_of_length_pos (by omega))
    · rw [List.flatMap_singleton]
      exact hWell.panes.nodup
    · exact List.forall_mem_singleton.2 (Nat.lt_of_le_of_lt hPane hLimit)
    · exact List.forall_mem_singleton.2 (Nat.lt_of_le_of_lt hTab hLimit)
  have hStarts : ∀ id, everythingStarts.starts id = true := fun _ => rfl
  obtain ⟨f, -, hRenamed⟩ := restore_capture ∅ hStarts hSession
    (some 0) 0 IdCounters.initial ∅
  exact ⟨finish, f, hFold, hTabs, hRenamed⟩

end Persist
