import Mathlib.Order.Basic

/-! Additions and subtractions of bounded numbers, which have no result where they would leave the
range. -/

namespace Checked

variable {bound a b : Nat}

def add (bound a b : Nat) : Option Nat := if a + b ≤ bound then some (a + b) else none

def sub (a b : Nat) : Option Nat := if b ≤ a then some (a - b) else none

/-- A clamp, which has no result if the range is empty. -/
def clamp (value lower upper : Nat) : Option Nat :=
  if lower ≤ upper then some (max lower (min value upper)) else none

theorem clamp_eq {value lower upper : Nat} (hLe : lower ≤ upper) :
  clamp value lower upper = some (max lower (min value upper)) := if_pos hLe

theorem add_eq (hFits : a + b ≤ bound) : add bound a b = some (a + b) := if_pos hFits

theorem sub_eq (hLe : b ≤ a) : sub a b = some (a - b) := if_pos hLe

theorem add_eq_none_iff : add bound a b = none ↔ bound < a + b := by
  rw [add]
  split
  next hFits => simp [hFits]
  next hFits => simp [Nat.lt_of_not_le hFits]

variable {α β : Type} {f : α → Option β} {items : List α}

theorem mapM_eq_some_map {g : α → β} (hEach : ∀ item ∈ items, f item = some (g item)) :
  items.mapM f = some (items.map g) := by
  induction items with
  | nil => rfl
  | cons item items ih =>
    obtain ⟨hItem, hItems⟩ := List.forall_mem_cons.1 hEach
    rw [List.mapM_cons, hItem, ih hItems]
    rfl

theorem mapM_eq_some_forall {P : β → Prop}
  (hEach : ∀ item ∈ items, ∃ result, f item = some result ∧ P result) :
  ∃ results, items.mapM f = some results ∧ ∀ result ∈ results, P result := by
  induction items with
  | nil => exact ⟨[], rfl, fun _ hMem => absurd hMem List.not_mem_nil⟩
  | cons item items ih =>
    obtain ⟨⟨result, hItem, hResult⟩, hItems⟩ := List.forall_mem_cons.1 hEach
    obtain ⟨results, hRest, hResults⟩ := ih hItems
    refine ⟨result :: results, ?_, List.forall_mem_cons.2 ⟨hResult, hResults⟩⟩
    rw [List.mapM_cons, hItem, hRest]
    rfl

theorem mapM_isSome (hEach : ∀ item ∈ items, (f item).isSome) :
  ∃ results, items.mapM f = some results := by
  obtain ⟨results, hMap, -⟩ := mapM_eq_some_forall (P := fun _ => True) fun item hMem =>
    (Option.isSome_iff_exists.1 (hEach item hMem)).imp fun _ hResult => ⟨hResult, trivial⟩
  exact ⟨results, hMap⟩

theorem foldlM_isSome {f : β → α → Option β}
  (hEach : ∀ item ∈ items, ∀ result, (f result item).isSome) (result : β) :
  (items.foldlM f result).isSome := by
  induction items generalizing result with
  | nil => rfl
  | cons item items ih =>
    obtain ⟨hItem, hItems⟩ := List.forall_mem_cons.1 hEach
    obtain ⟨next, hNext⟩ := Option.isSome_iff_exists.1 (hItem result)
    rw [List.foldlM_cons, hNext]
    exact ih hItems next

theorem getElem?_of_mapM {results : List β} (hMap : items.mapM f = some results) {index : Nat}
  {item : α} {result : β} (hItem : items[index]? = some item)
  (hResult : results[index]? = some result) :
  f item = some result := by
  induction items generalizing results index with
  | nil => cases hItem
  | cons head items ih =>
    rw [List.mapM_cons] at hMap
    obtain ⟨first, hFirst, hRest⟩ := Option.bind_eq_some_iff.1 hMap
    obtain ⟨rest, hItems, hSame⟩ := Option.bind_eq_some_iff.1 hRest
    cases hSame
    cases index with
    | zero =>
      cases hItem
      cases hResult
      exact hFirst
    | succ index => exact ih hItems hItem hResult

end Checked
