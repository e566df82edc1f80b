import Mathlib.Data.List.Sort

/-! Sorting by a comparison of several keys: the keys one after the other, each ascending or
descending, and what has no key last. -/

namespace StableSort

open Std

variable {α β : Type*}

/-- Sort by a comparison; what it does not tell apart stays in order. -/
def sortBy (cmp : α → α → Ordering) (l : List α) : List α :=
  l.insertionSort fun a b => (cmp a b).isLE

/-- What is missing comes last, also when the comparison is reversed. -/
def missingLast (cmp : β → β → Ordering) (reversed : Bool) : Option β → Option β → Ordering
  | some a, some b => if reversed then (cmp a b).swap else cmp a b
  | some _, none => .lt
  | none, some _ => .gt
  | none, none => .eq

/-- The comparisons one after the other, until one tells the two apart. -/
def compareAll (cmps : List (α → α → Ordering)) : α → α → Ordering :=
  cmps.foldr compareLex fun _ _ => .eq

variable {cmp : β → β → Ordering}

theorem transCmp_swap [TransCmp cmp] :
  TransCmp fun a b => (cmp a b).swap where
  eq_swap := by
    intro a b
    exact congrArg Ordering.swap OrientedCmp.eq_swap
  isLE_trans := by
    intro a b c hab hbc
    rw [← OrientedCmp.eq_swap] at hab hbc ⊢
    exact TransCmp.isLE_trans hbc hab

theorem transCmp_reversed [TransCmp cmp] (reversed : Bool) :
  TransCmp fun a b => if reversed then (cmp a b).swap else cmp a b := by
  cases reversed with
  | false => exact inferInstanceAs (TransCmp cmp)
  | true => exact transCmp_swap

/-- Missing last keeps a comparison a total preorder. -/
theorem transCmp_missingLast [TransCmp cmp] (reversed : Bool) (key : α → Option β) :
  TransCmp fun a b => missingLast cmp reversed (key a) (key b) := by
  have hTrans : TransCmp fun a b => if reversed then (cmp a b).swap else cmp a b :=
    transCmp_reversed reversed
  refine { eq_swap := ?swap, isLE_trans := ?trans }
  case trans =>
    intro a b c hab hbc
    cases ha : key a with
    | none =>
      rw [ha] at hab
      cases hb : key b with
      | none =>
        rw [hb] at hbc
        exact hbc
      | some y =>
        rw [hb] at hab
        cases hab
    | some x =>
      cases hc : key c with
      | none => rfl
      | some z =>
        rw [ha] at hab
        rw [hc] at hbc
        cases hb : key b with
        | none =>
          rw [hb] at hbc
          cases hbc
        | some y =>
          rw [hb] at hab hbc
          exact hTrans.isLE_trans hab hbc
  case swap =>
    intro a b
    cases key a with
    | none => cases key b <;> rfl
    | some x =>
      cases key b with
      | none => rfl
      | some y => exact hTrans.eq_swap

theorem transCmp_compareAll {cmps : List (α → α → Ordering)} (hAll : ∀ cmp ∈ cmps, TransCmp cmp) :
  TransCmp (compareAll cmps) := by
  induction cmps with
  | nil =>
    exact { eq_swap := rfl, isLE_trans := fun _ _ => rfl }
  | cons cmp cmps ih =>
    have hFirst := hAll cmp List.mem_cons_self
    have hRest := ih fun other hMem => hAll other (List.mem_cons_of_mem _ hMem)
    exact inferInstanceAs (TransCmp (compareLex cmp (compareAll cmps)))

variable (cmp : α → α → Ordering) (l : List α)

theorem sortBy_perm : (sortBy cmp l).Perm l := List.perm_insertionSort _ l

section Trans

variable [TransCmp cmp]

theorem total_isLE : Std.Total fun a b => (cmp a b).isLE = true where
  total a b := by
    have hSwap : cmp b a = (cmp a b).swap := OrientedCmp.eq_swap
    rw [hSwap]
    cases cmp a b
    · exact Or.inl rfl
    · exact Or.inl rfl
    · exact Or.inr rfl

theorem isTrans_isLE : IsTrans α fun a b => (cmp a b).isLE = true where
  trans _ _ _ := TransCmp.isLE_trans

theorem pairwise_sortBy : (sortBy cmp l).Pairwise fun a b => (cmp a b).isLE := by
  have := total_isLE cmp
  have := isTrans_isLE cmp
  exact List.pairwise_insertionSort _ l

/-- What the comparison does not tell apart from an element stays in order. -/
theorem sortBy_stable (e : α) :
  (sortBy cmp l).filter (fun a => cmp e a == .eq) = l.filter fun a => cmp e a == .eq := by
  have hAlike : (l.filter fun a => cmp e a == .eq).Pairwise fun a b => (cmp a b).isLE := by
    apply List.pairwise_filter.2
    apply List.pairwise_of_forall
    intro a b ha hb
    have hSame : cmp a e = .eq := OrientedCmp.eq_symm (beq_iff_eq.1 ha)
    exact TransCmp.isLE_trans (Ordering.isLE_of_eq_eq hSame)
      (Ordering.isLE_of_eq_eq (beq_iff_eq.1 hb))
  have hSublist := (List.sublist_insertionSort hAlike List.filter_sublist).filter
    fun a => cmp e a == .eq
  rw [List.filter_filter] at hSublist
  simp only [Bool.and_self] at hSublist
  exact (hSublist.eq_of_length ((sortBy_perm cmp l).filter _).length_eq.symm).symm

theorem sortBy_eq_self_iff : sortBy cmp l = l ↔ l.Pairwise fun a b => (cmp a b).isLE := by
  constructor
  · intro hSame
    have hSorted := pairwise_sortBy cmp l
    rwa [hSame] at hSorted
  · intro hSorted
    exact hSorted.insertionSort_eq

end Trans

end StableSort
