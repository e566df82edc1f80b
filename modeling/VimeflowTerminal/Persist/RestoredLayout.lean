import VimeflowTerminal.Persist.Restore

/-! Remapping keeps the shape, the directions and the ratios of a tree of splits and
numbers its leaves from left to right; pruning leaves the splits that still have
panes on both sides. -/

namespace Persist

open Layout Workspaces LayoutSnapshot

/-- The pane ids handed out next, in order. -/
def freshIds (next count : Nat) : List PaneId := (List.range' next count).map PaneId.mk

theorem freshIds_append (next m n : Nat) :
  freshIds next (m + n) = freshIds next m ++ freshIds (next + m) n := by
  rw [freshIds, freshIds, freshIds, ← List.map_append, List.range'_append_1]

theorem length_freshIds (next count : Nat) : (freshIds next count).length = count := by
  rw [freshIds, List.length_map, List.length_range']

theorem nodup_freshIds (next count : Nat) : (freshIds next count).Nodup := by
  refine List.Nodup.map ?_ List.nodup_range'
  intro a b hEq
  cases hEq
  rfl

variable {next : Nat} {oldIds : List Nat} {rename : Nat → PaneId} {surviving : List PaneId}

theorem mem_freshIds {count : Nat} {id : PaneId} :
  id ∈ freshIds next count ↔ next ≤ id.raw ∧ id.raw < next + count := by
  rw [freshIds, List.mem_map]
  constructor
  · rintro ⟨raw, hRaw, rfl⟩
    exact List.mem_range'_1.1 hRaw
  · intro hRange
    exact ⟨id.raw, List.mem_range'_1.2 hRange, rfl⟩

namespace LayoutSnapshot

/-- The tree with the leaves renamed. -/
def toNode (rename : Nat → PaneId) : LayoutSnapshot → Node
  | .pane id => .pane (rename id)
  | .split direction ratio first second =>
    .split (restoreDirection direction) ratio (first.toNode rename) (second.toNode rename)

theorem collectIds_toNode (rename : Nat → PaneId) (layout : LayoutSnapshot) :
  (layout.toNode rename).collectIds = layout.collectPaneIds.map rename := by
  induction layout with
  | pane => rfl
  | split _ _ first second ihFirst ihSecond =>
    rw [toNode, Node.collectIds, collectPaneIds, List.map_append, ihFirst, ihSecond]

end LayoutSnapshot

/-- The pane ids drawn from the counter. -/
def drawPaneIds (ids : IdCounters) (count : Nat) : IdCounters :=
  { ids with nextPaneId := ids.nextPaneId + count }

theorem drawPaneIds_draw (ids : IdCounters) (m n : Nat) :
  drawPaneIds (drawPaneIds ids m) n = drawPaneIds ids (m + n) := by
  simp [drawPaneIds, Nat.add_assoc]

/-- Whatever the layout, its leaves become the next pane ids. -/
theorem collectIds_remapInner (layout : LayoutSnapshot) (ids : IdCounters)
  (idMap : FinMap Nat PaneId) :
  (remapInner layout ids idMap).1.collectIds =
      freshIds ids.nextPaneId layout.collectPaneIds.length ∧
    (remapInner layout ids idMap).2.1 = drawPaneIds ids layout.collectPaneIds.length := by
  induction layout generalizing ids idMap with
  | pane id => exact ⟨rfl, rfl⟩
  | split direction ratio first second ihFirst ihSecond =>
    obtain ⟨hFirst, hDrawn⟩ := ihFirst ids idMap
    obtain ⟨hSecond, hDrawnAll⟩ := ihSecond (remapInner first ids idMap).2.1
      (remapInner first ids idMap).2.2
    rw [hDrawn] at hSecond hDrawnAll
    rw [collectPaneIds, List.length_append]
    constructor
    · rw [freshIds_append, ← hFirst]
      simp only [remapInner, Node.collectIds, hDrawn, hSecond]
      rfl
    · simp only [remapInner, hDrawn, hDrawnAll]
      exact drawPaneIds_draw ids _ _

/-- Record the new names of the leaves. -/
def recordNames (rename : Nat → PaneId) (idMap : FinMap Nat PaneId) (oldIds : List Nat) :
  FinMap Nat PaneId :=
  oldIds.foldl (fun idMap oldId => idMap.insert oldId (rename oldId)) idMap

/-- With distinct leaves, remapping is a renaming. -/
theorem remapInner_eq (rename : Nat → PaneId) (layout : LayoutSnapshot) (ids : IdCounters)
  (idMap : FinMap Nat PaneId) (hNames : layout.collectPaneIds.map rename =
    freshIds ids.nextPaneId layout.collectPaneIds.length) :
  remapInner layout ids idMap = (layout.toNode rename,
    drawPaneIds ids layout.collectPaneIds.length,
    recordNames rename idMap layout.collectPaneIds) := by
  induction layout generalizing ids idMap with
  | pane id =>
    have hName : rename id = ⟨ids.nextPaneId⟩ := List.head_eq_of_cons_eq hNames
    simp only [remapInner, IdCounters.allocPaneId, toNode, hName, recordNames,
      collectPaneIds, List.foldl_cons, List.foldl_nil]
    rfl
  | split direction ratio first second ihFirst ihSecond =>
    rw [collectPaneIds, List.map_append, List.length_append,
      freshIds_append] at hNames
    obtain ⟨hFirst, hSecond⟩ := List.append_inj hNames (by
      rw [List.length_map, length_freshIds])
    simp only [remapInner, ihFirst ids idMap hFirst]
    rw [ihSecond _ _ hSecond, drawPaneIds_draw]
    simp only [collectPaneIds, List.length_append, toNode,
      recordNames, List.foldl_append]

theorem exists_rename (hNodup : oldIds.Nodup) (next : Nat) :
  ∃ rename : Nat → PaneId, oldIds.map rename = freshIds next oldIds.length := by
  refine ⟨fun oldId => ⟨next + oldIds.idxOf oldId⟩, ?_⟩
  refine List.ext_getElem (by rw [List.length_map, length_freshIds]) ?_
  intro i hLeft hRight
  rw [List.length_map] at hLeft
  simp [freshIds, hNodup.idxOf_getElem i hLeft]

theorem rename_injOn (hNames : oldIds.map rename = freshIds next oldIds.length) :
  ∀ a ∈ oldIds, ∀ b ∈ oldIds, rename a = rename b → a = b := by
  have hNodup : (oldIds.map rename).Nodup := hNames ▸ nodup_freshIds _ _
  exact fun a hA b hB hEq => List.inj_on_of_nodup_map hNodup hA hB hEq

theorem lookup_recordNames (rename : Nat → PaneId) (oldIds : List Nat)
  (idMap : FinMap Nat PaneId) (oldId : Nat) :
  (recordNames rename idMap oldIds).lookup oldId =
    if oldId ∈ oldIds then some (rename oldId) else idMap.lookup oldId := by
  induction oldIds generalizing idMap with
  | nil => rfl
  | cons head oldIds ih =>
    show (recordNames rename (idMap.insert head (rename head)) oldIds).lookup oldId = _
    rw [ih]
    by_cases hMem : oldId ∈ oldIds
    · rw [if_pos hMem, if_pos (List.mem_cons_of_mem _ hMem)]
    rw [if_neg hMem]
    by_cases hHead : oldId = head
    · subst hHead
      rw [AList.lookup_insert, if_pos List.mem_cons_self]
    · rw [AList.lookup_insert_ne hHead, if_neg (by simp [hMem, hHead])]

/-- The new id of a leaf leads back to its raw id. -/
theorem lookup_reverseIdMap (hNames : oldIds.map rename = freshIds next oldIds.length)
  {oldId : Nat} (hMem : oldId ∈ oldIds) :
  (reverseIdMap (recordNames rename ∅ oldIds)).lookup (rename oldId) = some oldId := by
  have hEntry : ∀ e ∈ (recordNames rename ∅ oldIds).entries, e.1 ∈ oldIds ∧ e.2 = rename e.1 := by
    intro e hE
    have hLookup := FinMap.mem_entries_iff.1 hE
    rw [lookup_recordNames] at hLookup
    split at hLookup
    next hOld => exact ⟨hOld, (Option.some.inj hLookup).symm⟩
    next => simp at hLookup
  refine FinMap.lookup_ofPairs ?_ ?_
  · rw [List.map_map]
    refine List.Nodup.map_on ?_ (recordNames rename ∅ oldIds).nodupKeys.nodup
    intro a hA b hB hEq
    obtain ⟨hOldA, hNameA⟩ := hEntry a hA
    obtain ⟨hOldB, hNameB⟩ := hEntry b hB
    have hSame : rename a.1 = rename b.1 := hNameA.symm.trans (Eq.trans hEq hNameB)
    have hKeys : a.1 = b.1 := rename_injOn hNames _ hOldA _ hOldB hSame
    exact Sigma.ext hKeys (heq_of_eq hEq)
  · refine List.mem_map.2 ⟨⟨oldId, rename oldId⟩, FinMap.mem_entries_iff.2 ?_, rfl⟩
    rw [lookup_recordNames, if_pos hMem]

theorem prune_split (surviving : List PaneId) (direction : Direction) (ratio : ℚ)
  (first second : Node) : pruneRestoredNode surviving (.split direction ratio first second) =
    match pruneRestoredNode surviving first, pruneRestoredNode surviving second with
      | some first, some second => some (.split direction ratio first second)
      | some remaining, none => some remaining
      | none, some remaining => some remaining
      | none, none => none :=
  rfl

/-- The leaves that survive, in order. -/
theorem collectIds_prune (surviving : List PaneId) (node : Node) :
  ((pruneRestoredNode surviving node).elim [] Node.collectIds) =
    node.collectIds.filter (· ∈ surviving) := by
  induction node with
  | pane id =>
    unfold pruneRestoredNode
    split
    next hMem => simp [Node.collectIds, hMem]
    next hMem => simp [Node.collectIds, hMem]
  | split direction ratio first second ihFirst ihSecond =>
    rw [Node.collectIds, List.filter_append, ← ihFirst, ← ihSecond, prune_split]
    cases pruneRestoredNode surviving first with
    | none => cases pruneRestoredNode surviving second <;> rfl
    | some first => cases pruneRestoredNode surviving second <;> simp [Node.collectIds]

theorem prune_of_survivor {node : Node} {id : PaneId} (hLeaf : id ∈ node.collectIds)
  (hSurvives : id ∈ surviving) :
  ∃ pruned, pruneRestoredNode surviving node = some pruned ∧
    pruned.collectIds = node.collectIds.filter (· ∈ surviving) := by
  have hLeaves := collectIds_prune surviving node
  cases hPrune : pruneRestoredNode surviving node with
  | none =>
    rw [hPrune] at hLeaves
    have hMem : id ∈ node.collectIds.filter (· ∈ surviving) :=
      List.mem_filter.2 ⟨hLeaf, decide_eq_true hSurvives⟩
    rw [← hLeaves] at hMem
    cases hMem
  | some pruned =>
    rw [hPrune] at hLeaves
    exact ⟨pruned, rfl, hLeaves⟩

theorem prune_of_all {node : Node} (hAll : ∀ id ∈ node.collectIds, id ∈ surviving) :
  pruneRestoredNode surviving node = some node := by
  induction node with
  | pane id => exact if_pos (hAll id List.mem_cons_self)
  | split direction ratio first second ihFirst ihSecond =>
    rw [prune_split, ihFirst fun id hMem => hAll id (List.mem_append_left _ hMem),
      ihSecond fun id hMem => hAll id (List.mem_append_right _ hMem)]

/-- The ratios of the splits, from the root down. -/
def splitRatios : Node → List ℚ
  | .pane _ => []
  | .split _ ratio first second => ratio :: (splitRatios first ++ splitRatios second)

/-- The ratios of the splits that have a surviving pane on both sides. -/
def LayoutSnapshot.keptRatios (survives : Nat → Bool) : LayoutSnapshot → List ℚ
  | .pane _ => []
  | .split _ ratio first second =>
    (if first.collectPaneIds.any survives && second.collectPaneIds.any survives then [ratio]
      else []) ++ (first.keptRatios survives ++ second.keptRatios survives)

theorem any_congr {survives survives' : Nat → Bool}
  (hSame : ∀ oldId ∈ oldIds, survives oldId = survives' oldId) :
  oldIds.any survives = oldIds.any survives' := by
  induction oldIds with
  | nil => rfl
  | cons oldId oldIds ih =>
    rw [List.any_cons, List.any_cons, hSame oldId List.mem_cons_self,
      ih fun other hMem => hSame other (List.mem_cons_of_mem _ hMem)]

theorem keptRatios_congr {survives survives' : Nat → Bool} {layout : LayoutSnapshot}
  (hSame : ∀ oldId ∈ layout.collectPaneIds, survives oldId = survives' oldId) :
  layout.keptRatios survives = layout.keptRatios survives' := by
  induction layout with
  | pane => rfl
  | split direction ratio first second ihFirst ihSecond =>
    have hFirst := fun id hMem => hSame id (List.mem_append_left _ hMem)
    have hSecond := fun id hMem => hSame id (List.mem_append_right _ hMem)
    rw [keptRatios, keptRatios, ihFirst hFirst, ihSecond hSecond,
      any_congr hFirst, any_congr hSecond]

theorem prune_eq_none_iff {surviving : List PaneId} {rename : Nat → PaneId}
  {layout : LayoutSnapshot} : pruneRestoredNode surviving (layout.toNode rename) = none ↔
    layout.collectPaneIds.any (fun oldId => rename oldId ∈ surviving) = false := by
  have hLeaves := collectIds_prune surviving (layout.toNode rename)
  rw [collectIds_toNode, List.filter_map] at hLeaves
  rw [List.any_eq_false]
  constructor
  · intro hNone oldId hMem hSurvives
    rw [hNone] at hLeaves
    have hNil := List.map_eq_nil_iff.1 hLeaves.symm
    exact absurd hSurvives (List.filter_eq_nil_iff.1 hNil oldId hMem)
  · intro hDead
    have hNil : layout.collectPaneIds.filter ((· ∈ surviving) ∘ rename) = [] :=
      List.filter_eq_nil_iff.2 hDead
    rw [hNil] at hLeaves
    cases hPrune : pruneRestoredNode surviving (layout.toNode rename) with
    | none => rfl
    | some pruned =>
      rw [hPrune] at hLeaves
      exact absurd hLeaves pruned.collectIds_ne_nil

/-- Pruning keeps exactly the splits with survivors on both sides. -/
theorem splitRatios_prune (surviving : List PaneId) (rename : Nat → PaneId)
  (layout : LayoutSnapshot) :
  ((pruneRestoredNode surviving (layout.toNode rename)).elim [] splitRatios) =
    layout.keptRatios fun oldId => rename oldId ∈ surviving := by
  induction layout with
  | pane id =>
    show ((if rename id ∈ surviving then some (Node.pane (rename id)) else none).elim []
      splitRatios) = []
    split <;> rfl
  | split direction ratio first second ihFirst ihSecond =>
    rw [keptRatios, ← ihFirst, ← ihSecond, toNode, prune_split]
    cases hFirst : pruneRestoredNode surviving (first.toNode rename) with
    | none =>
      rw [prune_eq_none_iff.1 hFirst]
      cases pruneRestoredNode surviving (second.toNode rename) <;> rfl
    | some firstNode =>
      have hSome : first.collectPaneIds.any (fun oldId => rename oldId ∈ surviving) = true := by
        by_contra hDead
        rw [prune_eq_none_iff.2 (Bool.eq_false_iff.2 hDead)] at hFirst
        cases hFirst
      rw [hSome]
      cases hSecond : pruneRestoredNode surviving (second.toNode rename) with
      | none =>
        rw [prune_eq_none_iff.1 hSecond]
        simp
      | some secondNode =>
        have hBoth : second.collectPaneIds.any
            (fun oldId => rename oldId ∈ surviving) = true := by
          by_contra hDead
          rw [prune_eq_none_iff.2 (Bool.eq_false_iff.2 hDead)] at hSecond
          cases hSecond
        rw [hBoth]
        rfl

end Persist
