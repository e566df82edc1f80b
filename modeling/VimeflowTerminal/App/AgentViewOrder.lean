import VimeflowTerminal.App.AgentView
import VimeflowTerminal.App.OverlayExit

/-! A view keeps exactly the agents that satisfy its filter and sorts them stably. Its fields for
the order of tabs and panes are the public numbers, which a move does not change. -/

namespace App

open Layout Workspaces Terminal Detect StableSort Transition Std OverlayApp

instance transCmp_evalValue : TransCmp EvalValue.cmp where
  eq_swap := by
    intro a b
    cases a <;> cases b
    case string.string => exact OrientedOrd.eq_swap (α := String)
    case bool.bool => exact OrientedOrd.eq_swap (α := Bool)
    case number.number => exact OrientedOrd.eq_swap (α := Nat)
    all_goals rfl
  isLE_trans := by
    intro a b c hab hbc
    cases a <;> cases b <;> cases c
    case string.string.string => exact TransOrd.isLE_trans (α := String) hab hbc
    case bool.bool.bool => exact TransOrd.isLE_trans (α := Bool) hab hbc
    case number.number.number => exact TransOrd.isLE_trans (α := Nat) hab hbc
    all_goals first
      | rfl
      | exact (Bool.false_ne_true hab).elim
      | exact (Bool.false_ne_true hbc).elim

instance transCmp_comparePriority : TransCmp AgentPanelApp.comparePriority := by
  have hAttention : TransCmp fun left right : AgentPanelEntry =>
      compare (tabAttentionPriority right.state right.seen)
        (tabAttentionPriority left.state left.seen) :=
    inferInstanceAs (TransCmp fun left right => compareOn
      (fun entry : AgentPanelEntry => tabAttentionPriority entry.state entry.seen) right left)
  have hSeq : TransCmp fun left right : AgentPanelEntry =>
      compare right.lastAgentStateChangeSeq left.lastAgentStateChangeSeq :=
    inferInstanceAs (TransCmp fun left right => compareOn
      (fun entry : AgentPanelEntry => entry.lastAgentStateChangeSeq) right left)
  exact inferInstanceAs (TransCmp (compareLex _ _))

namespace AgentPanelApp

variable (app : AgentPanelApp)

theorem compareOptionalValues_eq (left right : Option EvalValue) (order : AgentViewSortOrder) :
  compareOptionalValues left right order =
    missingLast EvalValue.cmp (decide (order = .desc)) left right := by
  cases left <;> cases right <;> cases order <;> rfl

/-- The comparison by one field. -/
def compareBy (sort : AgentViewSort) (left right : AgentPanelEntry) : Ordering :=
  missingLast EvalValue.cmp (decide (sort.order = .desc)) (app.sortValue sort.field left)
    (app.sortValue sort.field right)

theorem compareEntries_eq (sorts : List AgentViewSort) :
  (fun left right => app.compareEntries left right sorts) =
    compareAll (sorts.map app.compareBy) := by
  induction sorts with
  | nil => rfl
  | cons sort sorts ih =>
    funext left right
    have hRest : app.compareEntries left right sorts = _ := congrFun (congrFun ih left) right
    rw [List.map_cons, compareAll, List.foldr_cons, compareLex, compareEntries,
      compareOptionalValues_eq, hRest]
    unfold compareBy
    generalize missingLast _ _ _ _ = ordering
    cases ordering <;> rfl

theorem transCmp_compareEntries (sorts : List AgentViewSort) :
  TransCmp fun left right => app.compareEntries left right sorts := by
  rw [compareEntries_eq]
  apply transCmp_compareAll
  intro cmp hMem
  obtain ⟨sort, -, rfl⟩ := List.mem_map.1 hMem
  exact transCmp_missingLast _ _

def satisfies (entry : AgentPanelEntry) : Bool :=
  (app.agentViewOverride.bind (·.filter)).all (app.matchesFilter entry)

/-- The comparison in force: that of the view, or else that of the panel. -/
def compareInForce : AgentPanelEntry → AgentPanelEntry → Ordering :=
  match app.agentViewOverride.map (·.sort) with
  | some (sort :: sorts) => fun left right => app.compareEntries left right (sort :: sorts)
  | _ => if app.agentPanelSort = .priority then comparePriority else fun _ _ => .eq

instance transCmp_compareInForce : TransCmp app.compareInForce := by
  unfold compareInForce
  split
  · exact app.transCmp_compareEntries _
  split
  · exact transCmp_comparePriority
  · exact { eq_swap := rfl, isLE_trans := fun _ _ => rfl }

theorem sortBy_panel (l : List AgentPanelEntry) :
  sortBy (if app.agentPanelSort = .priority then comparePriority else fun _ _ => .eq) l =
    if app.agentPanelSort = .priority then sortBy comparePriority l else l := by
  split
  · rfl
  · exact (List.pairwise_of_forall fun _ _ => rfl : l.Pairwise _).insertionSort_eq

theorem applyAgentView_eq (entries : List AgentPanelEntry) :
  app.applyAgentView entries = sortBy app.compareInForce (entries.filter app.satisfies) := by
  have hAll : entries.filter (fun entry =>
      (none : Option AgentViewFilter).all (app.matchesFilter entry)) = entries :=
    List.filter_eq_self.2 fun _ _ => rfl
  unfold applyAgentView compareInForce satisfies
  cases app.agentViewOverride with
  | none =>
    dsimp only [Option.map_none, Option.bind_none]
    rw [hAll, sortBy_panel]
  | some view =>
    obtain ⟨source, label, filter, sort⟩ := view
    dsimp only [Option.map_some, Option.bind_some]
    cases filter with
    | none =>
      rw [hAll]
      cases sort with
      | nil => exact (app.sortBy_panel entries).symm
      | cons sort sorts => rfl
    | some filter =>
      cases sort with
      | nil => exact (app.sortBy_panel _).symm
      | cons sort sorts => rfl

theorem sublist_flatMap_zipIdx {α β : Type} {l : List α} {f : α × Nat → List β} {g : α → List β}
  (hEach : ∀ a ∈ l, ∀ i, (f (a, i)).Sublist (g a)) (start : Nat) :
  ((l.zipIdx start).flatMap f).Sublist (l.flatMap g) := by
  induction l generalizing start with
  | nil => exact List.Sublist.slnil
  | cons a l ih =>
    rw [List.zipIdx_cons, List.flatMap_cons, List.flatMap_cons]
    exact (hEach a List.mem_cons_self start).append
      (ih (fun b hMem => hEach b (List.mem_cons_of_mem _ hMem)) (start + 1))

/-- The panes of the layouts are the panes of the tabs. -/
theorem layoutPanes_perm (h : app.Intact) :
  (app.workspaces.flatMap fun ws => ws.tabs.flatMap fun tab => tab.layout.paneIds).Perm
    app.paneIds := by
  have hTab : ∀ tab : Tab, tab.WellFormed →
      tab.layout.paneIds.Perm (tab.attachments.map Prod.fst) := by
    intro tab hWell
    apply (List.perm_ext_iff_of_nodup hWell.layout.nodup ?_).2
    · intro id
      rw [hWell.panes, Tab.mem_fst_attachments]
    · rw [Tab.fst_attachments]
      exact tab.panes.keys_nodup
  apply List.Perm.flatMap_left
  intro ws hWs
  obtain ⟨away, hWell⟩ := h.wellFormed ws hWs
  unfold Workspace.paneIds Workspace.attachments
  rw [List.map_flatMap]
  apply List.Perm.flatMap_left
  intro tab hTab'
  exact hTab tab (hWell.tabs.each tab hTab')

theorem paneDetail_paneId {tab : Tab} {tabIdx : Nat} {id : PaneId} {detail : PaneDetail}
  (hDetail : app.paneDetail tab tabIdx id = some detail) :
  detail.paneId = id ∧ detail.tabIdx = tabIdx := by
  obtain ⟨pane, -, hRest⟩ := Option.bind_eq_some_iff.1 hDetail
  obtain ⟨terminal, -, hRest⟩ := Option.bind_eq_some_iff.1 hRest
  obtain ⟨label, -, hSome⟩ := Option.bind_eq_some_iff.1 hRest
  cases hSome
  exact ⟨rfl, rfl⟩

theorem sublist_paneDetails (ws : Workspace) :
  ((app.paneDetails ws).map (·.paneId)).Sublist
    (ws.tabs.flatMap fun tab => tab.layout.paneIds) := by
  unfold paneDetails
  rw [List.map_flatMap]
  apply sublist_flatMap_zipIdx
  intro tab _ tabIdx
  dsimp only
  induction tab.layout.paneIds with
  | nil => exact List.Sublist.slnil
  | cons id ids ih =>
    cases hDetail : app.paneDetail tab tabIdx id with
    | none =>
      rw [List.filterMap_cons_none hDetail]
      exact ih.cons id
    | some detail =>
      rw [List.filterMap_cons_some hDetail, List.map_cons, (app.paneDetail_paneId hDetail).1]
      exact ih.cons_cons id

/-- Every agent is listed once. -/
theorem nodup_entries (h : app.Intact) : app.collectAgentPanelEntries.Nodup := by
  have hSublist : (app.collectAgentPanelEntries.map (·.paneId)).Sublist
      (app.workspaces.flatMap fun ws => ws.tabs.flatMap fun tab => tab.layout.paneIds) := by
    unfold collectAgentPanelEntries
    rw [List.map_flatMap]
    apply sublist_flatMap_zipIdx
    intro ws _ wsIdx
    rw [List.map_map]
    exact app.sublist_paneDetails ws
  exact List.Nodup.of_map _ (hSublist.nodup ((app.layoutPanes_perm h).nodup_iff.2 h.panes))

/-- The place of an agent: the workspace by its position, the tab and the pane by their public
numbers. -/
def place (entry : AgentPanelEntry) : Option (Nat × Nat × Nat) := do
  let tabNumber ← app.publicTabNumber entry
  let paneNumber ← app.publicPaneNumber entry
  some (entry.wsIdx, tabNumber, paneNumber)

/-- The one place comes before the other, or is the same. -/
def ByNumber (left right : AgentPanelEntry) : Prop :=
  ∃ w t p w' t' p', app.place left = some (w, t, p) ∧ app.place right = some (w', t', p') ∧
    (w < w' ∨ w = w' ∧ (t < t' ∨ t = t' ∧ p ≤ p'))

theorem place_of_mem (h : app.Intact) {entry : AgentPanelEntry}
  (hMem : entry ∈ app.collectAgentPanelEntries) :
  ∃ t p, app.publicTabNumber entry = some t ∧ app.publicPaneNumber entry = some p := by
  obtain ⟨⟨ws, wsIdx⟩, hWs, hEntry⟩ := List.mem_flatMap.1 hMem
  obtain ⟨detail, hDetail, rfl⟩ := List.mem_map.1 hEntry
  obtain ⟨⟨tab, tabIdx⟩, hTab, hPane⟩ := List.mem_flatMap.1 hDetail
  obtain ⟨id, hId, hSome⟩ := List.mem_filterMap.1 hPane
  obtain ⟨rfl, rfl⟩ := app.paneDetail_paneId hSome
  have hAt : app.workspaces[wsIdx]? = some ws := List.mem_zipIdx_iff_getElem?.1 hWs
  have hTabAt : ws.tabs[detail.tabIdx]? = some tab := List.mem_zipIdx_iff_getElem?.1 hTab
  obtain ⟨⟨away, hWell⟩, -⟩ := h.wellFormed_at hAt
  have hTabMem := List.mem_of_getElem? hTabAt
  have hIn : detail.paneId ∈ ws.paneIds :=
    Workspace.mem_paneIds.2 ⟨tab, hTabMem, ((hWell.tabs.each tab hTabMem).panes _).1 hId⟩
  obtain ⟨p, hNumber⟩ := Option.isSome_iff_exists.1
    (AList.lookup_isSome.2 (hWell.panes.registered _ hIn))
  refine ⟨tab.number, p, ?_, ?_⟩
  · rw [publicTabNumber, hAt, Option.bind_some, Workspace.publicTabNumber, hTabAt]
    rfl
  · rw [publicPaneNumber, hAt, Option.bind_some, Workspace.publicPaneNumber]
    exact hNumber

/-- Ascending by workspace, tab and pane. -/
def orderSort : List AgentViewSort :=
  [⟨.builtin .workspaceOrder, .asc⟩, ⟨.builtin .tabOrder, .asc⟩, ⟨.builtin .paneOrder, .asc⟩]

theorem compareEntries_orderSort {left right : AgentPanelEntry} {t p t' p' : Nat}
  (hTab : app.publicTabNumber left = some t) (hPane : app.publicPaneNumber left = some p)
  (hTab' : app.publicTabNumber right = some t') (hPane' : app.publicPaneNumber right = some p') :
  (app.compareEntries left right orderSort).isLE ↔ app.ByNumber left right := by
  have hCompare : app.compareEntries left right orderSort =
      (compare left.wsIdx right.wsIdx).then ((compare t t').then ((compare p p').then .eq)) := by
    have hAll := congrFun (congrFun (app.compareEntries_eq orderSort) left) right
    refine hAll.trans ?_
    simp only [orderSort, List.map_cons, List.map_nil, compareAll, List.foldr_cons, List.foldr_nil,
      compareLex, compareBy, sortValue, hTab, hPane, hTab', hPane', Option.map_some]
    rfl
  have hPlace : app.place left = some (left.wsIdx, t, p) := by
    rw [place, hTab, hPane]
    rfl
  have hPlace' : app.place right = some (right.wsIdx, t', p') := by
    rw [place, hTab', hPane']
    rfl
  rw [hCompare, Ordering.isLE_then_iff_or, Ordering.isLE_then_iff_or, Ordering.isLE_then_iff_or,
    Nat.compare_eq_lt, Nat.compare_eq_eq, Nat.compare_eq_lt, Nat.compare_eq_eq, Nat.compare_eq_lt,
    Nat.compare_eq_eq]
  constructor
  · intro hOrder
    refine ⟨_, _, _, _, _, _, hPlace, hPlace', ?_⟩
    rcases hOrder with hLess | ⟨hSame, hLess | ⟨hSameTab, hLess | ⟨hSamePane, -⟩⟩⟩
    · exact Or.inl hLess
    · exact Or.inr ⟨hSame, Or.inl hLess⟩
    · exact Or.inr ⟨hSame, Or.inr ⟨hSameTab, hLess.le⟩⟩
    · exact Or.inr ⟨hSame, Or.inr ⟨hSameTab, hSamePane.le⟩⟩
  · rintro ⟨w, u, q, w', u', q', hLeft, hRight, hOrder⟩
    rw [hPlace] at hLeft
    rw [hPlace'] at hRight
    cases hLeft
    cases hRight
    rcases hOrder with hLess | ⟨hSame, hLess | ⟨hSameTab, hLe⟩⟩
    · exact Or.inl hLess
    · exact Or.inr ⟨hSame, Or.inl hLess⟩
    · rcases hLe.lt_or_eq with hLess | hSamePane
      · exact Or.inr ⟨hSame, Or.inr ⟨hSameTab, Or.inl hLess⟩⟩
      · exact Or.inr ⟨hSame, Or.inr ⟨hSameTab, Or.inr ⟨hSamePane, rfl⟩⟩⟩

/-- The agents that satisfy the filter, as the panel lists them. -/
def kept : List AgentPanelEntry := app.collectAgentPanelEntries.filter app.satisfies

def shown : List AgentPanelEntry := app.applyAgentView app.collectAgentPanelEntries

/-- The agents of the view, each once and sorted stably, those without a value last. -/
structure Ordered : Prop where
  mem : ∀ entry, entry ∈ app.shown ↔ entry ∈ app.collectAgentPanelEntries ∧ app.satisfies entry
  once : app.shown.Nodup
  preorder : TransCmp app.compareInForce
  sorted : app.shown.Pairwise fun left right => (app.compareInForce left right).isLE
  stable : ∀ entry, app.shown.filter (fun other => app.compareInForce entry other == .eq) =
    app.kept.filter fun other => app.compareInForce entry other == .eq
  missing : ∀ (value : EvalValue) (order : AgentViewSortOrder),
    compareOptionalValues (some value) none order = .lt ∧
      compareOptionalValues none (some value) order = .gt

theorem shown_eq : app.shown = sortBy app.compareInForce app.kept :=
  app.applyAgentView_eq app.collectAgentPanelEntries

theorem shown_perm : app.shown.Perm app.kept := by
  rw [shown_eq]
  exact sortBy_perm _ _

theorem ordered (h : app.Intact) : app.Ordered where
  mem entry := app.shown_perm.mem_iff.trans List.mem_filter
  once := app.shown_perm.nodup_iff.2 ((app.nodup_entries h).filter _)
  preorder := app.transCmp_compareInForce
  sorted := by
    rw [shown_eq]
    exact pairwise_sortBy _ _
  stable entry := by
    rw [shown_eq]
    exact sortBy_stable _ _ entry
  missing _ _ := ⟨rfl, rfl⟩

theorem compareInForce_orderSort
  (hSort : app.agentViewOverride.map (·.sort) = some orderSort) (left right : AgentPanelEntry) :
  app.compareInForce left right = app.compareEntries left right orderSort := by
  unfold compareInForce
  rw [hSort]
  rfl

theorem isLE_iff_byNumber (h : app.Intact)
  (hSort : app.agentViewOverride.map (·.sort) = some orderSort) {left right : AgentPanelEntry}
  (hLeft : left ∈ app.kept) (hRight : right ∈ app.kept) :
  (app.compareInForce left right).isLE ↔ app.ByNumber left right := by
  obtain ⟨t, p, hTab, hPane⟩ := app.place_of_mem h (List.mem_of_mem_filter hLeft)
  obtain ⟨t', p', hTab', hPane'⟩ := app.place_of_mem h (List.mem_of_mem_filter hRight)
  rw [app.compareInForce_orderSort hSort]
  exact app.compareEntries_orderSort hTab hPane hTab' hPane'

/-- A view shows each agent that satisfies its filter once, sorted stably by a total preorder that
puts missing values last. Sorted by the orders of workspaces, tabs and panes they ascend by their
public numbers, which is the order of the panel exactly when that ascends too. -/
theorem shown_ordered {app : AgentPanelApp} (h : app.Intact) :
  app.Ordered ∧ (app.agentViewOverride.map (·.sort) = some orderSort →
    app.shown.Pairwise app.ByNumber ∧
      (app.shown = app.kept ↔ app.kept.Pairwise app.ByNumber)) := by
  refine ⟨app.ordered h, fun hSort => ⟨?_, ?_⟩⟩
  · refine List.Pairwise.imp_of_mem ?_ (app.ordered h).sorted
    intro left right hLeft hRight hLE
    exact (app.isLE_iff_byNumber h hSort (app.shown_perm.subset hLeft)
      (app.shown_perm.subset hRight)).1 hLE
  · rw [shown_eq, sortBy_eq_self_iff]
    exact List.Pairwise.iff_of_mem fun hLeft hRight => app.isLE_iff_byNumber h hSort hLeft hRight

/-- Two tabs, of which the second is moved before the first. -/
def tabMovedAhead : List OverlayApp.Operation :=
  [.createWorkspace true true, .createTab 0 none true true, .moveTab 0 1 0]

/-- An agent in every pane, and a view by the orders of workspaces, tabs and panes. -/
def inOrder (t : Tree) : AgentPanelApp where
  toTree := { t with
    terminals := t.terminals.mapValues fun _ terminal => { terminal with agentName := some "a" } }
  mode := .terminal
  metadataTokens := fun _ => ∅
  agentPanelSort := .spaces
  agentViewOverride := some ⟨"orders", none, none, orderSort⟩

theorem intact_inOrder {t : Tree} (h : t.Intact) : (inOrder t).Intact := by
  have hEvolves : Tree.Evolves t (inOrder t).toTree :=
    h.evolves_ids rfl (Nat.le_refl _) (Nat.le_refl _)
  exact hEvolves.intact

theorem shown_ordered_tabMovedAhead : ∃ finish, Run (ofPartial step) idle
  tabMovedAhead finish ∧ (inOrder finish.state.toTree).shown.Pairwise
    (inOrder finish.state.toTree).ByNumber := by
  have hRun : Run (ofPartial step) idle tabMovedAhead
      ((tabMovedAhead.foldlM step idle).get (by decide)) :=
    run_of_foldlM (Option.some_get _).symm
  have hIntact := (run_sound hRun Tree.intact_empty rfl).intact
  exact ⟨_, hRun, ((shown_ordered (intact_inOrder hIntact)).2 rfl).1⟩

/-- The moved tab keeps its number, and so its agents come last. -/
theorem not_natural_tabMovedAhead : ∃ finish, Run (ofPartial step) idle
  tabMovedAhead finish ∧ (inOrder finish.state.toTree).Intact ∧
    (inOrder finish.state.toTree).collectAgentPanelEntries.map (·.tabIdx) = [0, 1] ∧
    (inOrder finish.state.toTree).shown.map (·.tabIdx) = [1, 0] := by
  have hRun : Run (ofPartial step) idle tabMovedAhead
      ((tabMovedAhead.foldlM step idle).get (by decide)) :=
    run_of_foldlM (Option.some_get _).symm
  have hIntact := (run_sound hRun Tree.intact_empty rfl).intact
  exact ⟨_, hRun, intact_inOrder hIntact, by decide, by decide⟩

end AgentPanelApp

end App
