import Mathlib.Data.List.Nodup
import Mathlib.Tactic.Linarith

/-! A tab tiles its panes as a binary tree of splits with panes at the leaves.
Each tree operation is specified by what it does to the list of leaves, read
from left to right. -/

namespace Layout

/-- A pane id. The ids are drawn from one counter for the whole process. -/
structure PaneId where
  raw : Nat
  deriving DecidableEq

inductive Direction where
  | horizontal
  | vertical
  deriving DecidableEq

inductive Node where
  | pane (id : PaneId)
  | split (direction : Direction) (ratio : ℚ) (first second : Node)
  deriving DecidableEq

namespace Node

def countPanes : Node → Nat
  | .pane _ => 1
  | .split _ _ first second => first.countPanes + second.countPanes

def collectIds : Node → List PaneId
  | .pane id => [id]
  | .split _ _ first second => first.collectIds ++ second.collectIds

/-- Ratios that are not finite, here `none`, fall back to an even split. -/
def validSplitRatio : Option ℚ → ℚ
  | some ratio => max (1 / 10) (min (9 / 10) ratio)
  | none => 1 / 2

def splitAt (target : PaneId) (direction : Direction) (newId : PaneId) (splitRatio : ℚ) :
  Node → Node
  | .pane id =>
    if id = target then .split direction splitRatio (.pane id) (.pane newId) else .pane id
  | .split d ratio first second =>
    .split d ratio (splitAt target direction newId splitRatio first)
      (splitAt target direction newId splitRatio second)

def removePane (target : PaneId) : Node → Option Node
  | .pane id => if id = target then none else some (.pane id)
  | .split direction ratio first second =>
    match removePane target first, removePane target second with
    | none, some second => some second
    | some first, none => some first
    | some first, some second => some (.split direction ratio first second)
    | none, none => none

theorem length_collectIds (node : Node) : node.collectIds.length = node.countPanes := by
  induction node with
  | pane => rfl
  | split _ _ first second ihFirst ihSecond =>
    simp [collectIds, countPanes, ihFirst, ihSecond]

theorem collectIds_ne_nil (node : Node) : node.collectIds ≠ [] := by
  induction node with
  | pane => simp [collectIds]
  | split _ _ first second ihFirst _ => simp [collectIds, ihFirst]

theorem countPanes_pos (node : Node) : 0 < node.countPanes := by
  rw [← length_collectIds]
  exact List.length_pos_of_ne_nil node.collectIds_ne_nil

theorem collectIds_splitAt (target : PaneId) (direction : Direction) (newId : PaneId)
  (splitRatio : ℚ) (node : Node) :
  (node.splitAt target direction newId splitRatio).collectIds =
    node.collectIds.flatMap fun id => if id = target then [id, newId] else [id] := by
  induction node with
  | pane id =>
    unfold splitAt
    split <;> simp_all [collectIds]
  | split _ _ first second ihFirst ihSecond =>
    simp [splitAt, collectIds, ihFirst, ihSecond]

variable {target : PaneId} {node : Node}

theorem mem_collectIds_splitAt {newId id : PaneId} {direction : Direction} {splitRatio : ℚ} :
  id ∈ (node.splitAt target direction newId splitRatio).collectIds ↔
    id ∈ node.collectIds ∨ id = newId ∧ target ∈ node.collectIds := by
  rw [collectIds_splitAt, List.mem_flatMap]
  constructor
  · rintro ⟨leaf, hLeaf, hMem⟩
    split at hMem
    next hTarget =>
      rcases List.mem_pair.1 hMem with rfl | rfl
      · exact Or.inl hLeaf
      · exact Or.inr ⟨rfl, hTarget ▸ hLeaf⟩
    · exact Or.inl (List.mem_singleton.1 hMem ▸ hLeaf)
  · rintro (hMem | ⟨rfl, hTarget⟩)
    · refine ⟨id, hMem, ?_⟩
      split <;> simp
    · exact ⟨target, hTarget, by simp⟩

theorem nodup_collectIds_splitAt {newId : PaneId} {direction : Direction} {splitRatio : ℚ}
  (hNodup : node.collectIds.Nodup) (hNew : newId ∉ node.collectIds) :
  (node.splitAt target direction newId splitRatio).collectIds.Nodup := by
  induction node with
  | pane id =>
    unfold splitAt
    split
    next => simpa [collectIds, eq_comm] using hNew
    · exact hNodup
  | split _ _ first second ihFirst ihSecond =>
    simp only [collectIds, List.mem_append, not_or] at hNew
    simp only [splitAt, collectIds, List.nodup_append'] at hNodup ⊢
    obtain ⟨hFirst, hSecond, hDisjoint⟩ := hNodup
    refine ⟨ihFirst hFirst hNew.1, ihSecond hSecond hNew.2, ?_⟩
    -- The target is on one side only, so the new leaf is added on one side only.
    intro id hLeft hRight
    rw [mem_collectIds_splitAt] at hLeft hRight
    rcases hLeft with hLeft | ⟨hEq, hTarget⟩
    · rcases hRight with hRight | ⟨hEq, -⟩
      · exact hDisjoint hLeft hRight
      · exact hNew.1 (hEq ▸ hLeft)
    · rcases hRight with hRight | ⟨-, hOther⟩
      · exact hNew.2 (hEq ▸ hRight)
      · exact hDisjoint hTarget hOther

theorem collectIds_removePane (target : PaneId) (node : Node) :
  ((node.removePane target).map collectIds).getD [] =
    node.collectIds.filter fun id => id ≠ target := by
  induction node with
  | pane id =>
    unfold removePane
    split <;> simp_all [collectIds]
  | split _ _ first second ihFirst ihSecond =>
    simp only [removePane, collectIds, List.filter_append, ← ihFirst, ← ihSecond]
    split <;> simp_all [collectIds]

theorem removePane_isSome :
  (node.removePane target).isSome = true ↔ ∃ id ∈ node.collectIds, id ≠ target := by
  have hIds := node.collectIds_removePane target
  constructor
  · intro hSome
    obtain ⟨rest, hRest⟩ := Option.isSome_iff_exists.1 hSome
    obtain ⟨id, hId⟩ := List.exists_mem_of_ne_nil _ rest.collectIds_ne_nil
    rw [hRest] at hIds
    have hMem : id ∈ node.collectIds.filter fun id => id ≠ target := hIds ▸ hId
    rw [List.mem_filter] at hMem
    exact ⟨id, hMem.1, by simpa using hMem.2⟩
  · rintro ⟨id, hMem, hOther⟩
    cases hRest : node.removePane target with
    | some => rfl
    | none =>
      rw [hRest] at hIds
      have hFiltered : id ∈ node.collectIds.filter fun id => id ≠ target :=
        List.mem_filter.2 ⟨hMem, by simpa using hOther⟩
      rw [← hIds] at hFiltered
      cases hFiltered

theorem collectIds_of_removePane {rest : Node} (hRest : node.removePane target = some rest) :
  rest.collectIds = node.collectIds.filter fun id => id ≠ target := by
  rw [← collectIds_removePane, hRest]
  rfl

/-- Removing the leaf that a split has inserted is the inverse of the split. -/
theorem removePane_splitAt {target newId : PaneId} {node : Node} (direction : Direction)
  (splitRatio : ℚ) (hNew : newId ∉ node.collectIds) :
  (node.splitAt target direction newId splitRatio).removePane newId = some node := by
  induction node with
  | pane id =>
    have hOther : id ≠ newId := fun hEq => hNew (hEq ▸ List.mem_singleton_self id)
    unfold splitAt
    split
    · simp [removePane, hOther]
    · exact if_neg hOther
  | split d ratio first second ihFirst ihSecond =>
    rw [collectIds, List.mem_append, not_or] at hNew
    rw [splitAt, removePane, ihFirst hNew.1, ihSecond hNew.2]

end Node

end Layout
