import Mathlib.Data.List.Basic

/-! A scan walks over a list from an index, as long as the items satisfy a condition.
When it stops inside a slice of the list, it stops at the same item of the list. -/

namespace SliceScan

variable {α : Type} (p : α → Bool)

/-- The first index from `index` on whose item fails the condition, or the end. -/
def skip (items : List α) (index : Nat) : Nat :=
  if hLt : index < items.length then
    if p items[index] then skip items (index + 1) else index
  else index
  termination_by items.length - index

/-- The last index up to `index` whose item fails the condition. -/
def skipBack (items : List α) : Nat → Option Nat
  | 0 => if items[0]?.any p then none else some 0
  | index + 1 => if items[index + 1]?.any p then skipBack items index else some (index + 1)

/-- Where the items before `index` that satisfy the condition begin. -/
def runStart (items : List α) : Nat → Nat
  | 0 => 0
  | index + 1 => if items[index]?.any p then runStart items index else index + 1

variable {p} {before items after : List α} {index found : Nat}

theorem le_skip : index ≤ skip p items index := by
  fun_induction skip p items index with
  | case1 index hLt hSat ih => omega
  | case2 index hLt hFail => exact Nat.le_refl _
  | case3 index hEnd => exact Nat.le_refl _

theorem skip_le (hIndex : index ≤ items.length) : skip p items index ≤ items.length := by
  fun_induction skip p items index with
  | case1 index hLt hSat ih => exact ih hLt
  | case2 index hLt hFail => exact hIndex
  | case3 index hEnd => exact hIndex

/-- Where a scan stops inside the list, the condition fails. -/
theorem skip_fails {item : α} (hItem : items[skip p items index]? = some item) :
  p item = false := by
  fun_induction skip p items index with
  | case1 index hLt hSat ih => exact ih hItem
  | case2 index hLt hFail =>
    rw [List.getElem?_eq_getElem hLt] at hItem
    cases hItem
    simpa using hFail
  | case3 index hEnd =>
    rw [List.getElem?_eq_none (by omega)] at hItem
    cases hItem

theorem skip_passed (hFrom : index ≤ found) (hBefore : found < skip p items index) :
  ∃ item, items[found]? = some item ∧ p item = true := by
  fun_induction skip p items index with
  | case1 index hLt hSat ih =>
    rcases Nat.eq_or_lt_of_le hFrom with rfl | hLater
    · exact ⟨_, List.getElem?_eq_getElem hLt, hSat⟩
    · exact ih hLater hBefore
  | case2 index hLt hFail => omega
  | case3 index hEnd => omega

/-- A scan that ends inside a slice ends at the same item of the whole list; one that
reaches the end of the slice does so too if nothing follows. -/
theorem skip_slice (hIndex : index ≤ items.length)
  (hStop : skip p items index < items.length ∨ after = []) :
  skip p (before ++ items ++ after) (before.length + index) =
    before.length + skip p items index := by
  have hWhole : ∀ {index}, index < items.length →
      before.length + index < (before ++ items ++ after).length := by
    simp only [List.length_append]
    omega
  have hItem : ∀ {index} (hLt : index < items.length)
      (_ : before.length + index < (before ++ items ++ after).length),
      (before ++ items ++ after)[before.length + index] = items[index] := by
    simp +contextual
  fun_induction skip p items index with
  | case1 index hLt hSat ih =>
    rw [skip.eq_def, dif_pos (hWhole hLt), hItem hLt, if_pos hSat, Nat.add_assoc]
    exact ih hLt hStop
  | case2 index hLt hFail =>
    rw [skip.eq_def, dif_pos (hWhole hLt), hItem hLt, if_neg hFail]
  | case3 index hEnd =>
    obtain hLt | rfl := hStop
    · exact absurd hLt hEnd
    · rw [skip.eq_def, dif_neg (by simp only [List.length_append, List.length_nil]; omega)]

theorem getElem?_slice (hIndex : index < items.length) :
  (before ++ items ++ after)[before.length + index]? = items[index]? := by
  rw [List.getElem?_append_left (by simp only [List.length_append]; omega),
    List.getElem?_append_right (Nat.le_add_right _ _), Nat.add_sub_cancel_left]

theorem skipBack_le (hFound : skipBack p items index = some found) : found ≤ index := by
  induction index with
  | zero =>
    unfold skipBack at hFound
    split at hFound
    · cases hFound
    · exact Nat.le_of_eq (Option.some.inj hFound).symm
  | succ index ih =>
    unfold skipBack at hFound
    split at hFound
    · exact Nat.le_succ_of_le (ih hFound)
    · exact Nat.le_of_eq (Option.some.inj hFound).symm

theorem skipBack_fails (hFound : skipBack p items index = some found) :
  items[found]?.any p = false := by
  induction index with
  | zero =>
    unfold skipBack at hFound
    split at hFound
    case isTrue hSat => cases hFound
    case isFalse hFail =>
      cases hFound
      simpa using hFail
  | succ index ih =>
    unfold skipBack at hFound
    split at hFound
    case isTrue hSat => exact ih hFound
    case isFalse hFail =>
      cases hFound
      simpa using hFail

theorem skipBack_stop (hFails : items[index]?.any p = false) :
  skipBack p items index = some index := by
  cases index with
  | zero => rw [skipBack, hFails, if_neg Bool.false_ne_true]
  | succ index => rw [skipBack, hFails, if_neg Bool.false_ne_true]

/-- A scan back that ends inside a slice ends at the same item of the whole list. -/
theorem skipBack_slice (hIndex : index < items.length)
  (hFound : skipBack p items index = some found) :
  skipBack p (before ++ items ++ after) (before.length + index) =
    some (before.length + found) := by
  induction index with
  | zero =>
    have hFails := skipBack_fails hFound
    obtain rfl : found = 0 := Nat.le_zero.1 (skipBack_le hFound)
    rw [← @getElem?_slice α before items after _ hIndex] at hFails
    exact skipBack_stop hFails
  | succ index ih =>
    by_cases hSat : items[index + 1]?.any p = true
    · rw [skipBack, if_pos hSat] at hFound
      rw [← Nat.add_assoc, skipBack, Nat.add_assoc, getElem?_slice hIndex, if_pos hSat]
      exact ih (Nat.lt_of_succ_lt hIndex) hFound
    · rw [skipBack, if_neg hSat] at hFound
      cases hFound
      rw [← @getElem?_slice α before items after _ hIndex] at hSat
      exact skipBack_stop (Bool.not_eq_true _ ▸ hSat)

theorem skipBack_front (hIndex : index < items.length) :
  skipBack p (items ++ after) index = skipBack p items index := by
  induction index with
  | zero => rw [skipBack, skipBack, List.getElem?_append_left hIndex]
  | succ index ih =>
    rw [skipBack, skipBack, List.getElem?_append_left hIndex, ih (Nat.lt_of_succ_lt hIndex)]

theorem runStart_le : runStart p items index ≤ index := by
  induction index with
  | zero => exact Nat.le_refl _
  | succ index ih =>
    unfold runStart
    split
    · exact Nat.le_succ_of_le ih
    · exact Nat.le_refl _

theorem runStart_stop (hFails : 0 < index → items[index - 1]?.any p = false) :
  runStart p items index = index := by
  cases index with
  | zero => rfl
  | succ index =>
    have hFails := hFails (Nat.succ_pos _)
    rw [Nat.add_sub_cancel] at hFails
    rw [runStart, hFails, if_neg Bool.false_ne_true]

/-- All items from the beginning of the run on satisfy the condition. -/
theorem runStart_passed (hFrom : runStart p items index ≤ found) (hBefore : found < index) :
  items[found]?.any p = true := by
  induction index with
  | zero => omega
  | succ index ih =>
    unfold runStart at hFrom
    split at hFrom
    case isTrue hSat =>
      rcases Nat.lt_succ_iff_lt_or_eq.1 hBefore with hLt | rfl
      · exact ih hFrom hLt
      · exact hSat
    case isFalse hFail => omega

/-- A run that begins inside a slice, or at its beginning and the item before fails
the condition, begins at the same item of the whole list. -/
theorem runStart_slice (hIndex : index ≤ items.length)
  (hStart : 0 < runStart p items index ∨ before.getLast?.any p = false) :
  runStart p (before ++ items ++ after) (before.length + index) =
    before.length + runStart p items index := by
  induction index with
  | zero =>
    obtain hPos | hLast := hStart
    · exact absurd hPos (Nat.lt_irrefl 0)
    · refine runStart_stop fun hPos => ?_
      rw [List.append_assoc, List.getElem?_append_left (by omega), Nat.add_zero,
        ← List.getLast?_eq_getElem?]
      exact hLast
  | succ index ih =>
    by_cases hSat : items[index]?.any p = true
    · rw [runStart, if_pos hSat] at hStart ⊢
      rw [← Nat.add_assoc, runStart, getElem?_slice hIndex, if_pos hSat]
      exact ih (Nat.le_of_succ_le hIndex) hStart
    · rw [runStart, if_neg hSat]
      rw [← @getElem?_slice α before items after _ hIndex] at hSat
      exact runStart_stop fun _ => Bool.not_eq_true _ ▸ hSat

end SliceScan

/-- What a window of a size answers and whether the answer is final. The answer of a window
over all of the data is. -/
structure GrowingWindow (β : Type) where
  total : Nat
  look : Nat → β × Bool
  final_of_total_le : ∀ size, total ≤ size → (look size).2 = true

namespace GrowingWindow

variable {β : Type} (window : GrowingWindow β)

/-- The first final answer of windows that double from a size on. -/
def search (size : Nat) (hPos : 0 < size) : β :=
  if hFinal : (window.look size).2 = true then (window.look size).1
  else
    have hSmall : size < window.total :=
      Nat.lt_of_not_le fun hLarge => hFinal (window.final_of_total_le size hLarge)
    search (min (size * 2) window.total) (by omega)
  termination_by window.total - size

theorem search_eq {answer : β} {size : Nat} {hPos : 0 < size}
  (hRight : ∀ size, 0 < size → (window.look size).2 = true → (window.look size).1 = answer) :
  window.search size hPos = answer := by
  fun_induction search window size hPos with
  | case1 size hPos hFinal => exact hRight size hPos hFinal
  | case2 size hPos hOpen hSmall ih => exact ih

end GrowingWindow
