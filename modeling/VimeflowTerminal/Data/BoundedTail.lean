import Mathlib.Data.List.Basic
import Mathlib.Order.Basic

/-! A tail goes on as long as its symbols belong to it, for a bounded number of them;
a final symbol is its last one. -/

namespace BoundedTail

variable {α : Type*} (belongs isFinal : α → Bool)

/-- What stands behind the tail, once that has ended. -/
def behind : Nat → List α → Option (List α)
  | 0, text => some text
  | _ + 1, [] => none
  | bound + 1, x :: text =>
    if belongs x then behind bound text else if isFinal x then some text else some (x :: text)

variable {belongs isFinal}

variable {bound : Nat} {text : List α}

theorem behind_append {rest : List α} (hRest : behind belongs isFinal bound text = some rest)
  (more : List α) :
  behind belongs isFinal bound (text ++ more) = some (rest ++ more) := by
  induction text generalizing bound with
  | nil =>
    cases bound with
    | zero =>
      cases hRest
      rfl
    | succ bound => cases hRest
  | cons x text ih =>
    cases bound with
    | zero =>
      cases hRest
      rfl
    | succ bound =>
      rw [behind] at hRest
      rw [List.cons_append, behind]
      split at hRest
      case isTrue hBelongs => rw [if_pos hBelongs, ih hRest]
      case isFalse hNot =>
        rw [if_neg hNot]
        split at hRest
        case isTrue hFinal =>
          cases hRest
          rw [if_pos hFinal]
        case isFalse hNotFinal =>
          cases hRest
          rw [if_neg hNotFinal]
          rfl

theorem behind_through {text : List α} (hText : ∀ x ∈ text, belongs x = true) {bound : Nat}
  (hBound : text.length ≤ bound) (more : List α) :
  behind belongs isFinal bound (text ++ more) =
    behind belongs isFinal (bound - text.length) more := by
  induction text generalizing bound with
  | nil => rfl
  | cons x text ih =>
    obtain ⟨bound, rfl⟩ : ∃ fewer, bound = fewer + 1 := ⟨bound - 1, by simp at hBound; omega⟩
    rw [List.cons_append, behind, if_pos (hText x (List.mem_cons_self ..)),
      ih (fun y hY => hText y (List.mem_cons_of_mem _ hY)) (by simp at hBound; omega)]
    simp

theorem behind_of_bound (hBound : bound ≤ text.length)
  (hText : ∀ x ∈ text.take bound, belongs x = true) :
  behind belongs isFinal bound text = some (text.drop bound) := by
  have hTaken : (text.take bound).length = bound := List.length_take_of_le hBound
  have hThrough := @behind_through _ belongs isFinal _ hText bound (by omega) (text.drop bound)
  rw [List.take_append_drop, hTaken, Nat.sub_self] at hThrough
  exact hThrough

/-- The tail ends at the first symbol that does not belong to it, or at the bound. -/
theorem behind_of_findIdx? {index : Nat}
  (hIndex : (text.take bound).findIdx? (fun x => !belongs x) = some index) :
  behind belongs isFinal bound text =
    some (text.drop (if (text[index]?).any isFinal then index + 1 else index)) := by
  induction text generalizing bound index with
  | nil => simp at hIndex
  | cons x text ih =>
    cases bound with
    | zero => simp at hIndex
    | succ bound =>
      rw [List.take_succ_cons, List.findIdx?_cons] at hIndex
      rw [behind]
      cases hBelongs : belongs x with
      | false =>
        simp only [hBelongs, Bool.not_false, if_true, Option.some.injEq] at hIndex
        subst hIndex
        cases hFinal : isFinal x <;> simp [hFinal]
      | true =>
        simp only [hBelongs, Bool.not_true, Bool.false_eq_true, if_false,
          Option.map_eq_some_iff] at hIndex
        obtain ⟨before, hBefore, rfl⟩ := hIndex
        rw [if_pos rfl, ih hBefore]
        simp only [List.getElem?_cons_succ]
        split <;> rfl

end BoundedTail
