import Mathlib.Data.List.Nodup
import Mathlib.Data.List.Perm.Basic

/-! What happens to the concatenated contents of a list of containers when one
container is taken out, put in or exchanged for another. -/

namespace Pieces

open List

variable {α β : Type*}

variable {l : List α} {i j : Nat} {a : α}

section

variable (f : α → List β)

theorem flatMap_perm_eraseIdx (hAt : l[i]? = some a) :
  l.flatMap f ~ f a ++ (l.eraseIdx i).flatMap f := by
  obtain ⟨hi, rfl⟩ := List.getElem?_eq_some_iff.1 hAt
  have hPerm := (List.getElem_cons_eraseIdx_perm hi).symm.flatMap_right f
  simpa using hPerm

theorem flatMap_set_perm (b : α) (hAt : l[i]? = some a) :
  (l.set i b).flatMap f ~ f b ++ (l.eraseIdx i).flatMap f := by
  obtain ⟨hi, rfl⟩ := List.getElem?_eq_some_iff.1 hAt
  have hPerm := (List.set_perm_cons_eraseIdx hi b).flatMap_right f
  simpa using hPerm

theorem flatMap_insertIdx_perm (a : α) (hi : i ≤ l.length) :
  (l.insertIdx i a).flatMap f ~ f a ++ l.flatMap f := by
  have hPerm := (List.perm_insertIdx a l hi).flatMap_right f
  simpa using hPerm

theorem flatMap_move_perm (hAt : l[i]? = some a) (hj : j ≤ (l.eraseIdx i).length) :
  ((l.eraseIdx i).insertIdx j a).flatMap f ~ l.flatMap f :=
  (flatMap_insertIdx_perm f a hj).trans (flatMap_perm_eraseIdx f hAt).symm

theorem flatMap_set_perm_of_perm {b : α} (hAt : l[i]? = some a)
  (hSame : f b ~ f a) : (l.set i b).flatMap f ~ l.flatMap f :=
  (flatMap_set_perm f b hAt).trans
    ((hSame.append_right _).trans (flatMap_perm_eraseIdx f hAt).symm)

end

theorem move_perm (hAt : l[i]? = some a) (hj : j ≤ (l.eraseIdx i).length) :
  (l.eraseIdx i).insertIdx j a ~ l := by
  obtain ⟨hi, rfl⟩ := List.getElem?_eq_some_iff.1 hAt
  exact (List.perm_insertIdx _ _ hj).trans (List.getElem_cons_eraseIdx_perm hi)

theorem index_unique (f : α → List β) (hNodup : (l.flatMap f).Nodup) {b : α} (hi : l[i]? = some a)
  (hj : l[j]? = some b) {x : β} (hx : x ∈ f a) (hy : x ∈ f b) :
  i = j := by
  obtain ⟨hLeft, rfl⟩ := List.getElem?_eq_some_iff.1 hi
  obtain ⟨hRight, rfl⟩ := List.getElem?_eq_some_iff.1 hj
  have hApart := List.pairwise_iff_getElem.1 (List.nodup_flatMap.1 hNodup).2
  by_contra hNe
  rcases Nat.lt_or_gt_of_ne hNe with hLt | hGt
  · exact hApart i j hLeft hRight hLt hx hy
  · exact hApart j i hRight hLeft hGt hy hx

theorem filter_eraseIdx {p : α → Bool} (hAt : l[i]? = some a) (hDropped : p a = false) :
  (l.eraseIdx i).filter p = l.filter p := by
  obtain ⟨hi, rfl⟩ := List.getElem?_eq_some_iff.1 hAt
  have hSplit : l.take i ++ l[i] :: l.drop (i + 1) = l := by simp
  have hFilter := congrArg (List.filter p) hSplit
  rw [List.filter_append, List.filter_cons_of_neg (by simp [hDropped])] at hFilter
  rw [List.eraseIdx_eq_take_drop_succ, List.filter_append]
  exact hFilter

theorem filter_insertIdx {p : α → Bool} (hDropped : p a = false) :
  (l.insertIdx j a).filter p = l.filter p := by
  induction l generalizing j with
  | nil => cases j <;> simp [hDropped]
  | cons b l ih =>
    cases j with
    | zero => simp [hDropped]
    | succ j => simp [List.insertIdx_succ_cons, List.filter_cons, ih]

end Pieces
