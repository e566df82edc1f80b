import VimeflowTerminal.Data.FinMap
import VimeflowTerminal.Layout.TileLayout

/-! A tab tiles panes and keeps the viewport state of each. Spawning the process
of a new pane may fail; the outcome is an argument of the operation. -/

namespace Workspaces

open Layout TileLayout

/-- The opaque identity of a terminal: the count of its process-wide allocation. -/
structure TerminalId where
  counter : Nat
  deriving DecidableEq

/-- The process-wide counters behind `PaneId::alloc`, `TerminalId::alloc` and
`generate_workspace_id`. -/
structure IdCounters where
  nextPaneId : Nat
  nextTerminalId : Nat
  nextWorkspaceId : Nat
  deriving DecidableEq

namespace IdCounters

def initial : IdCounters := ⟨1, 1, 1⟩

def allocPaneId (ids : IdCounters) : PaneId × IdCounters :=
  (⟨ids.nextPaneId⟩, { ids with nextPaneId := ids.nextPaneId + 1 })

def allocTerminalId (ids : IdCounters) : TerminalId × IdCounters :=
  (⟨ids.nextTerminalId⟩, { ids with nextTerminalId := ids.nextTerminalId + 1 })

def allocWorkspaceId (ids : IdCounters) : Nat × IdCounters :=
  (ids.nextWorkspaceId, { ids with nextWorkspaceId := ids.nextWorkspaceId + 1 })

end IdCounters

structure PaneState where
  attachedTerminalId : TerminalId
  seen : Bool
  deriving DecidableEq

def PaneState.new (attachedTerminalId : TerminalId) : PaneState := ⟨attachedTerminalId, true⟩

structure MovedPane where
  paneId : PaneId
  paneState : PaneState
  deriving DecidableEq

/-- A pane whose process has been spawned, with the terminal made for it. -/
structure NewPane where
  paneId : PaneId
  terminal : TerminalId
  deriving DecidableEq

structure Tab where
  customName : Option String
  number : Nat
  rootPane : PaneId
  layout : TileLayout
  panes : FinMap PaneId PaneState
  zoomed : Bool
  deriving DecidableEq

namespace Tab

def setCustomName (tab : Tab) (name : String) : Tab := { tab with customName := some name }

/-- `tab.layout.focus_pane(id)`. -/
def focusPane (tab : Tab) (id : PaneId) : Tab := { tab with layout := tab.layout.focusPane id }

/-- A tab of one new pane, unless its process cannot be spawned. -/
def new (number : Nat) (spawned : Bool) (ids : IdCounters) : IdCounters × Option (Tab × NewPane) :=
  let (rootId, ids) := ids.allocPaneId
  if spawned then
    let (terminalId, ids) := ids.allocTerminalId
    let tab := {
      customName := none
      number
      rootPane := rootId
      layout := TileLayout.new rootId
      panes := (∅ : FinMap PaneId PaneState).insert rootId (PaneState.new terminalId)
      zoomed := false }
    (ids, some (tab, ⟨rootId, terminalId⟩))
  else (ids, none)

def fromExistingPane (number : Nat) (customName : Option String) (moved : MovedPane) : Tab where
  customName
  number
  rootPane := moved.paneId
  layout := fromSaved (.pane moved.paneId) moved.paneId
  panes := (∅ : FinMap PaneId PaneState).insert moved.paneId moved.paneState
  zoomed := false

/-- Split the focused pane; a failed spawn closes the new leaf again. -/
def splitFocusedWithRuntime (tab : Tab) (direction : Direction) (ratio : Option (Option ℚ))
  (spawned : Bool) (ids : IdCounters) : IdCounters × Tab × Option NewPane :=
  let previousFocus := tab.layout.focused
  let (newId, ids) := ids.allocPaneId
  let layout :=
    match ratio with
    | some ratio => tab.layout.splitFocusedWithRatio direction ratio newId
    | none => tab.layout.splitFocused direction newId
  if spawned then
    let (terminalId, ids) := ids.allocTerminalId
    let tab := { tab with
      layout
      panes := tab.panes.insert newId (PaneState.new terminalId)
      zoomed := false }
    (ids, tab, some ⟨newId, terminalId⟩)
  else (ids, { tab with layout := layout.closeFocused.1.focusPane previousFocus }, none)

def promotedRootIfNeeded (tab : Tab) (closing : PaneId) : Option PaneId :=
  if tab.rootPane ≠ closing then none else tab.layout.paneIds.find? fun id => id ≠ closing

/-- Close a leaf, giving the focus back to the pane that had it. -/
def closeLeaf (layout : TileLayout) (paneId : PaneId) : TileLayout :=
  if layout.focused = paneId then layout.closeFocused.1
  else ((layout.focusPane paneId).closeFocused.1).focusPane layout.focused

/-- Remove a pane that is not the last one, yielding its terminal. -/
def detachPane (tab : Tab) (paneId : PaneId) : Tab × Option (PaneId × TerminalId) :=
  if tab.layout.paneCount ≤ 1 then (tab, none)
  else
    let nextRoot := tab.promotedRootIfNeeded paneId
    let layout := closeLeaf tab.layout paneId
    match tab.panes.lookup paneId with
    | none => ({ tab with layout }, none)
    | some pane =>
      let tab := { tab with
        layout
        panes := tab.panes.erase paneId
        zoomed := false
        rootPane := nextRoot.getD tab.rootPane }
      (tab, some (paneId, pane.attachedTerminalId))

def closePane (tab : Tab) (paneId : PaneId) : Tab × Option (PaneId × TerminalId) :=
  tab.detachPane paneId

def removePane (tab : Tab) (paneId : PaneId) : Tab × Option (PaneId × TerminalId) :=
  tab.detachPane paneId

/-- Take a pane out for a move. The last pane keeps its leaf in the layout of
the tab it leaves, which is then dropped. -/
def takePaneForMove (tab : Tab) (paneId : PaneId) : Tab × Option MovedPane :=
  match tab.panes.lookup paneId with
  | none => (tab, none)
  | some paneState =>
    let tab :=
      if 1 < tab.layout.paneCount then
        { tab with
          layout := closeLeaf tab.layout paneId
          rootPane := (tab.promotedRootIfNeeded paneId).getD tab.rootPane }
      else tab
    ({ tab with panes := tab.panes.erase paneId, zoomed := false }, some ⟨paneId, paneState⟩)

/-- Insert a moved pane next to the target, or hand it back. -/
def insertExistingPane (tab : Tab) (targetPaneId : PaneId) (moved : MovedPane)
  (direction : Direction) (ratio : Option ℚ) : Option Tab :=
  (tab.layout.insertPaneNear targetPaneId moved.paneId direction ratio).map fun layout =>
    { tab with
      layout
      panes := tab.panes.insert moved.paneId moved.paneState
      zoomed := false }

def terminalId (tab : Tab) (paneId : PaneId) : Option TerminalId :=
  (tab.panes.lookup paneId).map (·.attachedTerminalId)

/-- The panes of a tab with the terminals attached to them. -/
def attached (panes : FinMap PaneId PaneState) : List (PaneId × TerminalId) :=
  panes.entries.map fun e => (e.1, e.2.attachedTerminalId)

def attachments (tab : Tab) : List (PaneId × TerminalId) := attached tab.panes

/-- The layout tiles exactly the panes of the tab, and the root is one of them. -/
structure WellFormed (tab : Tab) : Prop where
  layout : tab.layout.WellFormed
  panes : ∀ id, id ∈ tab.layout.paneIds ↔ id ∈ tab.panes
  root : tab.rootPane ∈ tab.panes

theorem fst_attachments (tab : Tab) : tab.attachments.map Prod.fst = tab.panes.keys := by
  simp [attachments, attached, AList.keys, List.keys, Function.comp_def]

variable {id : PaneId} {panes : FinMap PaneId PaneState} {pane : PaneState} {ids : IdCounters}

theorem mem_fst_attachments {tab : Tab} : id ∈ tab.attachments.map Prod.fst ↔ id ∈ tab.panes := by
  rw [fst_attachments, AList.mem_keys]

theorem mem_attachments {tab : Tab} {terminal : TerminalId} :
  (id, terminal) ∈ tab.attachments ↔ tab.terminalId id = some terminal := by
  constructor
  · intro hMem
    obtain ⟨e, hEntry, hEq⟩ := List.mem_map.1 hMem
    cases hEq
    rw [terminalId, FinMap.mem_entries_iff.1 hEntry]
    rfl
  · intro hTerminal
    obtain ⟨pane, hLookup, rfl⟩ := Option.map_eq_some_iff.1 hTerminal
    exact List.mem_map.2 ⟨⟨id, pane⟩, FinMap.mem_entries_iff.2 hLookup, rfl⟩

theorem attached_insert (pane : PaneState) (hNew : id ∉ panes) :
  (attached (panes.insert id pane)).Perm ((id, pane.attachedTerminalId) :: attached panes) := by
  rw [attached, AList.entries_insert_of_notMem hNew]
  exact List.Perm.refl _

theorem attached_erase (hLookup : panes.lookup id = some pane) :
  (attached panes).Perm ((id, pane.attachedTerminalId) :: attached (panes.erase id)) :=
  (FinMap.perm_cons_erase hLookup).map _

theorem exists_lookup (hMem : id ∈ panes) : ∃ pane, panes.lookup id = some pane :=
  Option.isSome_iff_exists.1 (AList.lookup_isSome.2 hMem)

variable {tab : Tab}

theorem new_spec (number : Nat) (ids : IdCounters) :
  ∃ tab, Tab.new number true ids =
      (ids.allocPaneId.2.allocTerminalId.2,
        some (tab, ⟨⟨ids.nextPaneId⟩, ⟨ids.nextTerminalId⟩⟩)) ∧
    tab.WellFormed ∧ tab.number = number ∧ tab.rootPane = ⟨ids.nextPaneId⟩ ∧
    tab.attachments = [(⟨ids.nextPaneId⟩, ⟨ids.nextTerminalId⟩)] := by
  refine ⟨_, rfl, ⟨wellFormed_new _, ?_, ?_⟩, rfl, rfl, rfl⟩
  · intro id
    show id ∈ [_] ↔ id ∈ AList.insert _ _ ∅
    rw [AList.mem_insert, List.mem_singleton]
    simp
  · exact (AList.mem_insert _).2 (Or.inl rfl)

theorem wellFormed_fromExistingPane (number : Nat) (customName : Option String)
  (moved : MovedPane) : (fromExistingPane number customName moved).WellFormed := by
  refine ⟨wellFormed_new moved.paneId, ?_, ?_⟩
  · intro id
    show id ∈ [moved.paneId] ↔ id ∈ AList.insert moved.paneId moved.paneState ∅
    rw [AList.mem_insert, List.mem_singleton]
    simp
  · exact (AList.mem_insert _).2 (Or.inl rfl)

theorem attachments_fromExistingPane (number : Nat) (customName : Option String)
  (moved : MovedPane) : (fromExistingPane number customName moved).attachments =
    [(moved.paneId, moved.paneState.attachedTerminalId)] := rfl

theorem WellFormed.focusPane (h : tab.WellFormed) (id : PaneId) :
  (tab.focusPane id).WellFormed := by
  refine ⟨h.layout.focusPane id, ?_, h.root⟩
  intro other
  show other ∈ (tab.layout.focusPane id).paneIds ↔ other ∈ tab.panes
  rw [paneIds_focusPane]
  exact h.panes other

/-- Closing a leaf of several drops just that leaf. -/
theorem closeLeaf_spec {layout : TileLayout} (h : layout.WellFormed)
  (hMany : 1 < layout.paneCount) (hMem : id ∈ layout.paneIds) :
  (closeLeaf layout id).WellFormed ∧
    (closeLeaf layout id).paneIds = layout.paneIds.filter fun other => other ≠ id := by
  unfold closeLeaf
  split
  next hFocused =>
    obtain ⟨-, hWell, hIds⟩ := closeFocused_spec h hMany
    exact ⟨hWell, hFocused ▸ hIds⟩
  next hOther =>
    have hCount : 1 < (layout.focusPane id).paneCount := by
      rw [← length_paneIds, paneIds_focusPane, length_paneIds]
      exact hMany
    obtain ⟨-, hWell, hIds⟩ := closeFocused_spec (h.focusPane id) hCount
    refine ⟨hWell.focusPane _, ?_⟩
    rw [paneIds_focusPane, hIds, paneIds_focusPane,
      focusPane_of_mem hMem]

/-- After a pane is gone, the root is one of the others. -/
theorem root_after_closing (h : tab.WellFormed) (hMany : 1 < tab.layout.paneCount)
  (hMem : id ∈ tab.panes) :
  (tab.promotedRootIfNeeded id).getD tab.rootPane ∈ tab.panes.erase id := by
  unfold promotedRootIfNeeded
  split
  next hOther => exact AList.mem_erase.2 ⟨hOther, h.root⟩
  next hRoot =>
    obtain ⟨other, hOther, hNe⟩ : ∃ other ∈ tab.layout.paneIds, other ≠ id := by
      have hTwo := focusAfterClose_mem (h.layout.focusPane id)
        (by rw [← length_paneIds, paneIds_focusPane,
          length_paneIds]; exact hMany)
      rw [paneIds_focusPane, focusPane_of_mem ((h.panes id).2 hMem)] at hTwo
      exact ⟨_, hTwo⟩
    have hFound : (tab.layout.paneIds.find? fun other => other ≠ id).isSome = true :=
      List.find?_isSome.2 ⟨other, hOther, by simpa using hNe⟩
    obtain ⟨next, hNext⟩ := Option.isSome_iff_exists.1 hFound
    rw [hNext, Option.getD_some]
    have hNextNe : next ≠ id := by simpa using List.find?_some hNext
    exact AList.mem_erase.2 ⟨hNextNe, (h.panes next).1 (List.mem_of_find?_eq_some hNext)⟩

/-- A tab that lost the pane `id`, whose terminal was `terminal`. -/
structure Lost (tab tab' : Tab) (id : PaneId) (terminal : TerminalId) : Prop where
  wellFormed : tab'.WellFormed
  number : tab'.number = tab.number
  attachments : tab.attachments.Perm ((id, terminal) :: tab'.attachments)

theorem lost_of_close (h : tab.WellFormed) (hMany : 1 < tab.layout.paneCount)
  (hLookup : tab.panes.lookup id = some pane) {tab' : Tab}
  (hLayout : tab'.layout = closeLeaf tab.layout id) (hPanes : tab'.panes = tab.panes.erase id)
  (hRoot : tab'.rootPane = (tab.promotedRootIfNeeded id).getD tab.rootPane)
  (hNumber : tab'.number = tab.number) : Lost tab tab' id pane.attachedTerminalId := by
  have hMem : id ∈ tab.panes := AList.lookup_isSome.1 (by rw [hLookup]; rfl)
  obtain ⟨hWell, hIds⟩ := closeLeaf_spec h.layout hMany ((h.panes id).2 hMem)
  refine ⟨⟨hLayout ▸ hWell, ?_, ?_⟩, hNumber, ?_⟩
  · intro other
    rw [hLayout, hIds, hPanes, List.mem_filter, AList.mem_erase, h.panes]
    simp [and_comm]
  · rw [hRoot, hPanes]
    exact root_after_closing h hMany hMem
  · show tab.attachments.Perm (_ :: attached tab'.panes)
    rw [hPanes]
    exact attached_erase hLookup

theorem detachPane_spec (h : tab.WellFormed) (hMany : 1 < tab.layout.paneCount)
  (hMem : id ∈ tab.panes) :
  ∃ tab' terminal, tab.detachPane id = (tab', some (id, terminal)) ∧
    Lost tab tab' id terminal := by
  obtain ⟨pane, hLookup⟩ := exists_lookup hMem
  have hNot : ¬ tab.layout.paneCount ≤ 1 := by omega
  refine ⟨{ tab with
    layout := closeLeaf tab.layout id
    panes := tab.panes.erase id
    zoomed := false
    rootPane := (tab.promotedRootIfNeeded id).getD tab.rootPane },
    pane.attachedTerminalId, ?_, lost_of_close h hMany hLookup rfl rfl rfl rfl⟩
  simp only [detachPane, hNot, if_false, hLookup]

theorem takePaneForMove_many (h : tab.WellFormed) (hMany : 1 < tab.layout.paneCount)
  (hLookup : tab.panes.lookup id = some pane) :
  ∃ tab', tab.takePaneForMove id = (tab', some ⟨id, pane⟩) ∧
    Lost tab tab' id pane.attachedTerminalId := by
  refine ⟨{ tab with
    layout := closeLeaf tab.layout id
    rootPane := (tab.promotedRootIfNeeded id).getD tab.rootPane
    panes := tab.panes.erase id
    zoomed := false }, ?_, lost_of_close h hMany hLookup rfl rfl rfl rfl⟩
  simp only [takePaneForMove, hLookup, hMany, if_true]

theorem takePaneForMove_some (hLookup : tab.panes.lookup id = some pane) :
  (tab.takePaneForMove id).2 = some ⟨id, pane⟩ := by
  simp only [takePaneForMove, hLookup]

theorem length_attachments (h : tab.WellFormed) :
  tab.attachments.length = tab.layout.paneCount := by
  have hPerm : tab.panes.keys.Perm tab.layout.paneIds :=
    (List.perm_ext_iff_of_nodup tab.panes.keys_nodup h.layout.nodup).2 fun id => by
      rw [h.panes, AList.mem_keys]
  rw [← List.length_map (f := Prod.fst), fst_attachments, hPerm.length_eq,
    length_paneIds]

theorem attachments_of_last (h : tab.WellFormed) (hLast : tab.layout.paneCount ≤ 1)
  (hLookup : tab.panes.lookup id = some pane) :
  tab.attachments = [(id, pane.attachedTerminalId)] := by
  have hMem : (id, pane.attachedTerminalId) ∈ tab.attachments :=
    mem_attachments.2 (by rw [terminalId, hLookup]; rfl)
  have hLength := length_attachments h
  have hPos := paneCount_pos tab.layout
  obtain ⟨a, hOnly⟩ := List.length_eq_one_iff.1 (show tab.attachments.length = 1 by omega)
  rw [hOnly] at hMem ⊢
  rw [List.mem_singleton.1 hMem]

/-- A tab that gained the pane `id` with the terminal `terminal`. -/
structure Gained (tab tab' : Tab) (id : PaneId) (terminal : TerminalId) : Prop where
  wellFormed : tab'.WellFormed
  number : tab'.number = tab.number
  attachments : tab'.attachments.Perm ((id, terminal) :: tab.attachments)

theorem gained_of_insert (h : tab.WellFormed) {id : PaneId} {pane : PaneState}
  (hNew : id ∉ tab.panes) {tab' : Tab} (hLayout : tab'.layout.WellFormed)
  (hIds : ∀ other, other ∈ tab'.layout.paneIds ↔ other ∈ tab.layout.paneIds ∨ other = id)
  (hPanes : tab'.panes = tab.panes.insert id pane) (hRoot : tab'.rootPane = tab.rootPane)
  (hNumber : tab'.number = tab.number) : Gained tab tab' id pane.attachedTerminalId := by
  refine ⟨⟨hLayout, ?_, ?_⟩, hNumber, ?_⟩
  · intro other
    rw [hIds, hPanes, AList.mem_insert, h.panes, or_comm]
  · rw [hRoot, hPanes]
    exact (AList.mem_insert _).2 (Or.inr h.root)
  · show (attached tab'.panes).Perm _
    rw [hPanes]
    exact attached_insert pane hNew

theorem insertExistingPane_spec (h : tab.WellFormed) {target : PaneId} {moved : MovedPane}
  {direction : Direction} {ratio : Option ℚ} {tab' : Tab}
  (hInsert : tab.insertExistingPane target moved direction ratio = some tab') :
  Gained tab tab' moved.paneId moved.paneState.attachedTerminalId := by
  obtain ⟨layout, hLayout, rfl⟩ := Option.map_eq_some_iff.1 hInsert
  obtain ⟨hNew, hIds, hWell⟩ := insertPaneNear_some hLayout
  have hFresh : moved.paneId ∉ tab.panes := fun hMem => hNew ((h.panes _).2 hMem)
  exact gained_of_insert h hFresh (hWell h.layout) hIds rfl rfl rfl

/-- The layout of a tab split at its focus. -/
def splitLayout (layout : TileLayout) (direction : Direction) (ratio : Option (Option ℚ))
  (newId : PaneId) : TileLayout :=
  match ratio with
  | some ratio => layout.splitFocusedWithRatio direction ratio newId
  | none => layout.splitFocused direction newId

theorem splitLayout_spec {layout : TileLayout} (h : layout.WellFormed) (direction : Direction)
  (ratio : Option (Option ℚ)) {newId : PaneId} (hNew : newId ∉ layout.paneIds) :
  (splitLayout layout direction ratio newId).WellFormed ∧
    (splitLayout layout direction ratio newId).focus = newId ∧
    ∀ id, id ∈ (splitLayout layout direction ratio newId).paneIds ↔
      id ∈ layout.paneIds ∨ id = newId := by
  cases ratio with
  | some ratio =>
    exact ⟨h.split direction ratio hNew, rfl, fun _ => mem_paneIds_split h⟩
  | none =>
    exact ⟨h.split direction (some (1 / 2)) hNew, rfl, fun _ => mem_paneIds_split h⟩

theorem split_spawned (h : tab.WellFormed) (direction : Direction) (ratio : Option (Option ℚ))
  (hNew : (⟨ids.nextPaneId⟩ : PaneId) ∉ tab.panes) :
  ∃ tab', tab.splitFocusedWithRuntime direction ratio true ids =
      (ids.allocPaneId.2.allocTerminalId.2, tab',
        some ⟨⟨ids.nextPaneId⟩, ⟨ids.nextTerminalId⟩⟩) ∧
    Gained tab tab' ⟨ids.nextPaneId⟩ ⟨ids.nextTerminalId⟩ := by
  have hLeaf : (⟨ids.nextPaneId⟩ : PaneId) ∉ tab.layout.paneIds := fun hMem =>
    hNew ((h.panes _).1 hMem)
  obtain ⟨hWell, -, hIds⟩ := splitLayout_spec h.layout direction ratio hLeaf
  refine ⟨{ tab with
    layout := splitLayout tab.layout direction ratio ⟨ids.nextPaneId⟩
    panes := tab.panes.insert ⟨ids.nextPaneId⟩ (PaneState.new ⟨ids.nextTerminalId⟩)
    zoomed := false }, by cases ratio <;> rfl, ?_⟩
  have hGained := fun tab' => @gained_of_insert tab h ⟨ids.nextPaneId⟩
    (PaneState.new ⟨ids.nextTerminalId⟩) hNew tab'
  exact hGained _ hWell hIds rfl rfl rfl

/-- A tab whose layout changed while its panes stayed. -/
structure Rearranged (tab tab' : Tab) : Prop where
  wellFormed : tab'.WellFormed
  number : tab'.number = tab.number
  panes : tab'.panes = tab.panes

/-- A failed split is undone. -/
theorem splitFocused_failed (h : tab.WellFormed) (direction : Direction)
  (ratio : Option (Option ℚ)) (hNew : (⟨ids.nextPaneId⟩ : PaneId) ∉ tab.panes) :
  tab.splitFocusedWithRuntime direction ratio false ids = (ids.allocPaneId.2, tab, none) := by
  have hLeaf : (⟨ids.nextPaneId⟩ : PaneId) ∉ tab.layout.paneIds := fun hMem =>
    hNew ((h.panes _).1 hMem)
  have hUndone := fun ratio => h.layout.closeFocused_split direction ratio hLeaf
  cases ratio with
  | some ratio =>
    simp only [splitFocusedWithRuntime, IdCounters.allocPaneId, hUndone, Bool.false_eq_true,
      if_false]
  | none =>
    simp only [splitFocusedWithRuntime, splitFocused, IdCounters.allocPaneId, hUndone,
      Bool.false_eq_true, if_false]

theorem split_failed (h : tab.WellFormed) (direction : Direction) (ratio : Option (Option ℚ))
  (hNew : (⟨ids.nextPaneId⟩ : PaneId) ∉ tab.panes) :
  ∃ tab', tab.splitFocusedWithRuntime direction ratio false ids =
      (ids.allocPaneId.2, tab', none) ∧ Rearranged tab tab' :=
  ⟨tab, splitFocused_failed h direction ratio hNew, h, rfl, rfl⟩

end Tab

end Workspaces
