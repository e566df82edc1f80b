import Mathlib.Data.List.GetD
import VimeflowTerminal.Layout.Node

/-! A layout is a tree of splits with a focused leaf. The operations keep the
leaves distinct and the focus on one of them. -/

namespace Layout

structure TileLayout where
  root : Node
  focus : PaneId
  deriving DecidableEq

namespace TileLayout

def fromSaved (root : Node) (focus : PaneId) : TileLayout := ⟨root, focus⟩

/-- A layout of one pane, whose id has just been allocated. -/
def new (rootId : PaneId) : TileLayout := ⟨.pane rootId, rootId⟩

def focused (l : TileLayout) : PaneId := l.focus

def paneCount (l : TileLayout) : Nat := l.root.countPanes

def paneIds (l : TileLayout) : List PaneId := l.root.collectIds

/-- Split the focused pane; the new pane takes the focus. -/
def splitFocusedWithRatio (l : TileLayout) (direction : Direction) (ratio : Option ℚ)
  (newId : PaneId) : TileLayout where
  root := l.root.splitAt l.focus direction newId (Node.validSplitRatio ratio)
  focus := newId

def splitFocused (l : TileLayout) (direction : Direction) (newId : PaneId) : TileLayout :=
  l.splitFocusedWithRatio direction (some (1 / 2)) newId

/-- Put an existing pane next to the target, or refuse. -/
def insertPaneNear (l : TileLayout) (target moved : PaneId) (direction : Direction)
  (ratio : Option ℚ) : Option TileLayout :=
  if target = moved then none
  else if target ∉ l.paneIds ∨ moved ∈ l.paneIds then none
  else
    some {
      root := l.root.splitAt target direction moved (Node.validSplitRatio ratio)
      focus := moved }

/-- Where the focus goes when the focused pane is closed: to the next leaf, or
to the one before the last. The focus is always found among the leaves. -/
def focusAfterClose (l : TileLayout) : PaneId :=
  let ids := l.paneIds
  let pos := ids.idxOf l.focus
  if pos + 1 < ids.length then ids.getD (pos + 1) l.focus else ids.getD (pos - 1) l.focus

/-- Close the focused pane, unless it is the last one. -/
def closeFocused (l : TileLayout) : TileLayout × Bool :=
  if l.paneCount ≤ 1 then (l, false)
  else
    match l.root.removePane l.focus with
    | some root => (⟨root, l.focusAfterClose⟩, true)
    | none => (⟨.pane ⟨0⟩, l.focus⟩, false)

def focusPane (l : TileLayout) (id : PaneId) : TileLayout :=
  if id ∈ l.paneIds then { l with focus := id } else l

/-- The leaves are distinct and the focus is one of them. -/
structure WellFormed (l : TileLayout) : Prop where
  nodup : l.paneIds.Nodup
  focus : l.focus ∈ l.paneIds

variable {l : TileLayout}

theorem length_paneIds (l : TileLayout) : l.paneIds.length = l.paneCount :=
  l.root.length_collectIds

theorem paneCount_pos (l : TileLayout) : 0 < l.paneCount := l.root.countPanes_pos

theorem wellFormed_new (rootId : PaneId) : (new rootId).WellFormed :=
  ⟨by simp [paneIds, new, Node.collectIds], by simp [paneIds, new, Node.collectIds]⟩

variable {newId : PaneId}

theorem mem_paneIds_split (h : l.WellFormed) {direction : Direction} {ratio : Option ℚ}
  {id : PaneId} :
  id ∈ (l.splitFocusedWithRatio direction ratio newId).paneIds ↔ id ∈ l.paneIds ∨ id = newId := by
  have hFocus := h.focus
  unfold paneIds splitFocusedWithRatio at *
  rw [Node.mem_collectIds_splitAt]
  simp [hFocus]

theorem WellFormed.split (h : l.WellFormed) (direction : Direction) (ratio : Option ℚ)
  (hNew : newId ∉ l.paneIds) :
  (l.splitFocusedWithRatio direction ratio newId).WellFormed := by
  refine ⟨Node.nodup_collectIds_splitAt h.nodup hNew, ?_⟩
  exact (mem_paneIds_split h).2 (Or.inr rfl)

/-- What a successful insertion does. -/
theorem insertPaneNear_some {target moved : PaneId} {direction : Direction} {ratio : Option ℚ}
  {l' : TileLayout} (hInsert : l.insertPaneNear target moved direction ratio = some l') :
  moved ∉ l.paneIds ∧ (∀ id, id ∈ l'.paneIds ↔ id ∈ l.paneIds ∨ id = moved) ∧
    (l.WellFormed → l'.WellFormed) := by
  unfold insertPaneNear at hInsert
  split at hInsert
  · cases hInsert
  split at hInsert
  · cases hInsert
  next hIds =>
    rw [not_or, not_not] at hIds
    obtain ⟨hTarget, hMoved⟩ := hIds
    rw [Option.some.injEq] at hInsert
    subst hInsert
    have hMem : ∀ id, id ∈ (TileLayout.mk (l.root.splitAt target direction moved
        (Node.validSplitRatio ratio)) moved).paneIds ↔ id ∈ l.paneIds ∨ id = moved := by
      intro id
      refine Node.mem_collectIds_splitAt.trans ?_
      have hRoot : target ∈ l.root.collectIds := hTarget
      simp [hRoot, paneIds]
    refine ⟨hMoved, hMem, fun h => ⟨Node.nodup_collectIds_splitAt h.nodup hMoved, ?_⟩⟩
    exact (hMem moved).2 (Or.inr rfl)

/-- The focus after a close is another leaf. -/
theorem focusAfterClose_mem (h : l.WellFormed) (hMany : 1 < l.paneCount) :
  l.focusAfterClose ∈ l.paneIds ∧ l.focusAfterClose ≠ l.focus := by
  have hPos : l.paneIds.idxOf l.focus < l.paneIds.length := List.idxOf_lt_length_of_mem h.focus
  have hAt : l.paneIds[l.paneIds.idxOf l.focus] = l.focus := List.getElem_idxOf hPos
  rw [← length_paneIds] at hMany
  have hOther : ∀ i (hi : i < l.paneIds.length), i ≠ l.paneIds.idxOf l.focus →
      l.paneIds[i] ∈ l.paneIds ∧ l.paneIds[i] ≠ l.focus := by
    intro i hi hNe
    refine ⟨List.getElem_mem hi, fun hEq => hNe ?_⟩
    exact (List.Nodup.getElem_inj_iff h.nodup).1 (hEq.trans hAt.symm)
  unfold focusAfterClose
  dsimp only
  split
  next hNext =>
    rw [List.getD_eq_getElem _ _ hNext]
    exact hOther _ hNext (by omega)
  next hLast =>
    have hPrevious : l.paneIds.idxOf l.focus - 1 < l.paneIds.length := by omega
    rw [List.getD_eq_getElem _ _ hPrevious]
    exact hOther _ hPrevious (by omega)

/-- Closing the focus of a layout of several panes drops just that leaf. -/
theorem closeFocused_spec (h : l.WellFormed) (hMany : 1 < l.paneCount) :
  l.closeFocused.2 = true ∧ l.closeFocused.1.WellFormed ∧
    l.closeFocused.1.paneIds = l.paneIds.filter fun id => id ≠ l.focus := by
  obtain ⟨hMem, hNe⟩ := focusAfterClose_mem h hMany
  have hSome : (l.root.removePane l.focus).isSome = true :=
    Node.removePane_isSome.2 ⟨l.focusAfterClose, hMem, hNe⟩
  obtain ⟨root, hRoot⟩ := Option.isSome_iff_exists.1 hSome
  have hIds := Node.collectIds_of_removePane hRoot
  have hNot : ¬ l.paneCount ≤ 1 := by omega
  simp only [closeFocused, hNot, if_false, hRoot]
  refine ⟨trivial, ⟨?_, ?_⟩, hIds⟩
  · show root.collectIds.Nodup
    rw [hIds]
    exact h.nodup.filter _
  · show l.focusAfterClose ∈ root.collectIds
    rw [hIds, List.mem_filter]
    exact ⟨hMem, by simpa using hNe⟩

theorem paneIds_focusPane (l : TileLayout) (id : PaneId) :
  (l.focusPane id).paneIds = l.paneIds := by
  unfold focusPane
  split <;> rfl

theorem WellFormed.focusPane (h : l.WellFormed) (id : PaneId) : (l.focusPane id).WellFormed := by
  unfold TileLayout.focusPane
  split
  next hMem => exact ⟨h.nodup, hMem⟩
  · exact h

theorem focusPane_of_mem {id : PaneId} (hMem : id ∈ l.paneIds) : (l.focusPane id).focus = id := by
  unfold focusPane
  rw [if_pos hMem]

/-- Closing the pane of a split and giving the focus back undoes the split. -/
theorem WellFormed.closeFocused_split (h : l.WellFormed) (direction : Direction)
  (ratio : Option ℚ) (hNew : newId ∉ l.paneIds) :
  (l.splitFocusedWithRatio direction ratio newId).closeFocused.1.focusPane l.focused = l := by
  have hMany : 1 < (l.splitFocusedWithRatio direction ratio newId).paneCount := by
    rw [← length_paneIds]
    by_contra hFew
    have hOld : l.focus ∈ (l.splitFocusedWithRatio direction ratio newId).paneIds :=
      (mem_paneIds_split h).2 (Or.inl h.focus)
    have hAdded : newId ∈ (l.splitFocusedWithRatio direction ratio newId).paneIds :=
      (mem_paneIds_split h).2 (Or.inr rfl)
    have hPos := List.length_pos_of_mem hOld
    obtain ⟨only, hOnly⟩ := List.length_eq_one_iff.1
      (show (l.splitFocusedWithRatio direction ratio newId).paneIds.length = 1 by omega)
    rw [hOnly, List.mem_singleton] at hOld hAdded
    exact hNew (hAdded.trans hOld.symm ▸ h.focus)
  have hRemoved := @Node.removePane_splitAt l.focus _ _ direction
    (Node.validSplitRatio ratio) hNew
  have hClosed : (l.splitFocusedWithRatio direction ratio newId).closeFocused.1 =
      ⟨l.root, (l.splitFocusedWithRatio direction ratio newId).focusAfterClose⟩ := by
    unfold closeFocused
    rw [if_neg (Nat.not_le.2 hMany)]
    simp only [splitFocusedWithRatio, hRemoved]
  rw [hClosed]
  exact if_pos h.focus

end TileLayout

end Layout
