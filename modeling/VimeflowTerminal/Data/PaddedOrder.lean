import Mathlib.Order.PiLex

/-! Two lists are compared position by position, the shorter one as if it went on with the least
element. This is the lexicographic order of the sequences without end that they stand for. -/

namespace PaddedOrder

variable {α : Type*} [LinearOrder α]

/-- One sequence is below another at the first position where they differ. -/
def Below (f g : ℕ → α) : Prop := ∃ i, (∀ j < i, f j = g j) ∧ f i < g i

/-- What a comparison says about two sequences. -/
inductive Compares (f g : ℕ → α) : Ordering → Prop where
  | lt (hBelow : Below f g) : Compares f g .lt
  | eq (hSame : f = g) : Compares f g .eq
  | gt (hAbove : Below g f) : Compares f g .gt

variable {f g : ℕ → α} {ordering : Ordering}

theorem below_of_head (h : f 0 < g 0) : Below f g :=
  ⟨0, fun _ hLt => absurd hLt (Nat.not_lt_zero _), h⟩

theorem below_of_tail (hHead : f 0 = g 0) (hTail : Below (fun i => f (i + 1)) fun i => g (i + 1)) :
  Below f g := by
  obtain ⟨i, hBefore, hLess⟩ := hTail
  refine ⟨i + 1, fun j hj => ?_, hLess⟩
  cases j with
  | zero => exact hHead
  | succ j => exact hBefore j (Nat.lt_of_succ_lt_succ hj)

theorem Compares.of_tail (hHead : f 0 = g 0)
  (hTail : Compares (fun i => f (i + 1)) (fun i => g (i + 1)) ordering) :
  Compares f g ordering := by
  cases hTail with
  | lt h => exact .lt (below_of_tail hHead h)
  | gt h => exact .gt (below_of_tail hHead.symm h)
  | eq h =>
    refine .eq (funext fun i => ?_)
    cases i with
    | zero => exact hHead
    | succ i => exact congrFun h i

theorem below_iff : Below f g ↔ toLex f < toLex g := Iff.rfl

theorem Below.ne (h : Below f g) : f ≠ g := fun hSame =>
  ne_of_lt (below_iff.1 h) (congrArg toLex hSame)

section

variable (h : Compares f g ordering)
include h

theorem Compares.ne_gt_iff : ordering ≠ .gt ↔ toLex f ≤ toLex g := by
  cases h with
  | lt hBelow => exact iff_of_true Ordering.noConfusion (le_of_lt (below_iff.1 hBelow))
  | eq hSame => exact iff_of_true Ordering.noConfusion (le_of_eq (congrArg toLex hSame))
  | gt hAbove => exact iff_of_false (fun hNe => hNe rfl) (not_le_of_gt (below_iff.1 hAbove))

theorem Compares.eq_iff : ordering = .eq ↔ f = g := by
  cases h with
  | eq hSame => exact iff_of_true rfl hSame
  | lt hBelow => exact iff_of_false Ordering.noConfusion hBelow.ne
  | gt hAbove => exact iff_of_false Ordering.noConfusion hAbove.ne.symm

theorem Compares.lt_iff : ordering = .lt ↔ Below f g := by
  cases h with
  | lt hBelow => exact iff_of_true rfl hBelow
  | eq hSame => exact iff_of_false Ordering.noConfusion fun hBelow => hBelow.ne hSame
  | gt hAbove =>
    refine iff_of_false Ordering.noConfusion fun hBelow => ?_
    exact lt_asymm (below_iff.1 hBelow) (below_iff.1 hAbove)

theorem Compares.gt_iff : ordering = .gt ↔ Below g f := by
  rw [← not_iff_not, ← Ne.eq_def, h.ne_gt_iff, below_iff]
  exact not_lt.symm

end

variable [OrderBot α]

/-- The list, followed by least elements without end. -/
def padded (xs : List α) (i : ℕ) : α := xs.getD i ⊥

/-- One list is at its end: it is the other one's first element above the least that decides. -/
def compareRest (ordering : Ordering) : List α → Ordering
  | [] => .eq
  | x :: xs => if x = ⊥ then compareRest ordering xs else ordering

def comparePadded : List α → List α → Ordering
  | [], ys => compareRest .lt ys
  | x :: xs, [] => compareRest .gt (x :: xs)
  | x :: xs, y :: ys => (compare x y).then (comparePadded xs ys)

theorem compares_rest (xs : List α) :
  Compares (padded []) (padded xs) (compareRest .lt xs) ∧
    Compares (padded xs) (padded []) (compareRest .gt xs) := by
  induction xs with
  | nil => exact ⟨Compares.eq rfl, Compares.eq rfl⟩
  | cons x xs ih =>
    unfold compareRest
    split
    next hBot => exact ⟨.of_tail hBot.symm ih.1, .of_tail hBot ih.2⟩
    next hSome =>
      have hHead : padded [] 0 < padded (x :: xs) 0 := bot_lt_iff_ne_bot.2 hSome
      exact ⟨.lt (below_of_head hHead), .gt (below_of_head hHead)⟩

theorem compares_padded (xs ys : List α) :
  Compares (padded xs) (padded ys) (comparePadded xs ys) := by
  fun_induction comparePadded xs ys with
  | case1 ys => exact (compares_rest ys).1
  | case2 x xs => exact (compares_rest (x :: xs)).2
  | case3 x xs y ys ih =>
    cases hHeads : compare x y with
    | lt => exact .lt (below_of_head (compare_lt_iff_lt.1 hHeads))
    | gt => exact .gt (below_of_head (compare_gt_iff_gt.1 hHeads))
    | eq => exact .of_tail (compare_eq_iff_eq.1 hHeads) ih

end PaddedOrder
