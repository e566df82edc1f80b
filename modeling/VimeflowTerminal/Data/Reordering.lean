import Mathlib.Data.List.Sort

/-! The items of a list have distinct keys. Sorting them by the place of their keys
in a list gives that list; moving items to a place keeps the order of the others. -/

namespace Reordering

variable {α κ : Type} {key : α → κ}

variable {items order : List α}

theorem key_inj (hNodup : (items.map key).Nodup) {a b : α} (hA : a ∈ items) (hB : b ∈ items)
  (hKey : key a = key b) : a = b :=
  List.inj_on_of_nodup_map hNodup hA hB hKey

variable [DecidableEq κ]

theorem pairwise_place (hNodup : (order.map key).Nodup) :
  order.Pairwise fun a b => (order.map key).idxOf (key a) ≤ (order.map key).idxOf (key b) := by
  rw [List.pairwise_iff_getElem]
  intro i j hI hJ hLt
  have hPlace : ∀ k (hK : k < order.length), (order.map key).idxOf (key order[k]) = k := by
    intro k hK
    have hAt := hNodup.idxOf_getElem k (by rwa [List.length_map])
    rwa [List.getElem_map] at hAt
  rw [hPlace i hI, hPlace j hJ]
  exact Nat.le_of_lt hLt

/-- Sorting items by their place in a reordering of them gives that reordering. -/
theorem sort_eq (hNodup : (items.map key).Nodup) (hPerm : order.Perm items) :
  (items.insertionSort fun a b =>
    (order.map key).idxOf (key a) ≤ (order.map key).idxOf (key b)) = order := by
  have hOrder : (order.map key).Nodup := (hPerm.map key).nodup_iff.2 hNodup
  have hSorted := items.perm_insertionSort fun a b =>
    (order.map key).idxOf (key a) ≤ (order.map key).idxOf (key b)
  refine List.Perm.eq_of_pairwise ?_ ?_ (pairwise_place hOrder) (hSorted.trans hPerm.symm)
  · intro a b hA hB hLeft hRight
    have hMem : a ∈ order := hPerm.mem_iff.2 (hSorted.mem_iff.1 hA)
    have hPlace := Nat.le_antisymm hLeft hRight
    exact key_inj hOrder hMem hB ((List.idxOf_inj (List.mem_map_of_mem hMem)).1 hPlace)
  · have hTotal : Std.Total fun a b : α =>
        (order.map key).idxOf (key a) ≤ (order.map key).idxOf (key b) :=
      ⟨fun a b => Nat.le_total _ _⟩
    have hTrans : IsTrans α fun a b =>
        (order.map key).idxOf (key a) ≤ (order.map key).idxOf (key b) :=
      ⟨fun a b c => Nat.le_trans⟩
    exact List.pairwise_insertionSort _ items

theorem eq_of_keys (hNodup : (items.map key).Nodup) (hPerm : order.Perm items)
  (hSame : items.map key = order.map key) : items = order := by
  have hSelf := sort_eq hNodup (List.Perm.refl items)
  rw [hSame, sort_eq hNodup hPerm] at hSelf
  exact hSelf.symm

/-- The items with some keys, in the order of the keys. -/
def pick (key : α → κ) (items : List α) (keys : List κ) : List α :=
  keys.filterMap fun k => items.find? fun item => key item = k

theorem key_of_found {k : κ} {found : α}
  (hFound : items.find? (fun item => key item = k) = some found) : key found = k := by
  have hHolds := (List.find?_eq_some_iff_append.1 hFound).1
  exact of_decide_eq_true hHolds

section Pick

variable {items : List α} {keys : List κ} (hAll : ∀ k ∈ keys, k ∈ items.map key)

include hAll

theorem map_pick : (pick key items keys).map key = keys := by
  induction keys with
  | nil => rfl
  | cons k keys ih =>
    obtain ⟨item, hItem, hKey⟩ := List.mem_map.1 (hAll k List.mem_cons_self)
    have hSome : (items.find? fun item => key item = k).isSome := by
      rw [List.find?_isSome]
      exact ⟨item, hItem, decide_eq_true hKey⟩
    obtain ⟨found, hFound⟩ := Option.isSome_iff_exists.1 hSome
    have hRest := ih fun k hMem => hAll k (List.mem_cons_of_mem _ hMem)
    have hHead := key_of_found hFound
    have hPick : pick key items (k :: keys) = found :: pick key items keys := by
      simp only [pick, List.filterMap_cons, hFound]
    rw [hPick, List.map_cons, hHead, hRest]

theorem mem_pick (hNodup : (items.map key).Nodup) {item : α} :
  item ∈ pick key items keys ↔ item ∈ items ∧ key item ∈ keys := by
  constructor
  · intro hMem
    obtain ⟨k, hK, hFound⟩ := List.mem_filterMap.1 hMem
    have hKey := key_of_found hFound
    exact ⟨List.mem_of_find?_eq_some hFound, hKey ▸ hK⟩
  · rintro ⟨hItem, hKey⟩
    rw [← map_pick hAll] at hKey
    obtain ⟨picked, hPicked, hSame⟩ := List.mem_map.1 hKey
    obtain ⟨k, -, hFound⟩ := List.mem_filterMap.1 hPicked
    rwa [← key_inj hNodup (List.mem_of_find?_eq_some hFound) hItem hSame]

/-- The picked items and the others make up all of them. -/
theorem pick_append_perm (hNodup : (items.map key).Nodup) (hKeys : keys.Nodup) :
  (pick key items keys ++ items.filter (key · ∉ keys)).Perm items := by
  have hPicked : (pick key items keys).Nodup :=
    List.Nodup.of_map key ((map_pick hAll).symm ▸ hKeys)
  have hItems : items.Nodup := List.Nodup.of_map key hNodup
  refine (List.perm_ext_iff_of_nodup ?_ hItems).2 fun item => ?_
  · refine List.nodup_append.2 ⟨hPicked, hItems.filter _, ?_⟩
    rintro a hA b hB rfl
    exact of_decide_eq_true (List.mem_filter.1 hB).2 ((mem_pick hAll hNodup).1 hA).2
  · rw [List.mem_append, mem_pick hAll hNodup, List.mem_filter, decide_eq_true_eq]
    tauto

end Pick

theorem filter_key_ne {before after : List α} {item : α}
  (hNodup : ((before ++ item :: after).map key).Nodup) :
  before.filter (key · ≠ key item) = before ∧ after.filter (key · ≠ key item) = after := by
  rw [List.map_append, List.map_cons, List.nodup_append] at hNodup
  obtain ⟨-, hAfter, hDisjoint⟩ := hNodup
  constructor
  · refine List.filter_eq_self.2 fun other hMem => decide_eq_true fun hKey => ?_
    exact hDisjoint _ (List.mem_map_of_mem hMem) _ List.mem_cons_self hKey
  · refine List.filter_eq_self.2 fun other hMem => decide_eq_true fun hKey => ?_
    exact (List.nodup_cons.1 hAfter).1 (hKey ▸ List.mem_map_of_mem hMem)

theorem insertIdx_between (front back : List α) (item : α) :
  (front ++ back).insertIdx front.length item = front ++ item :: back := by
  induction front with
  | nil => exact List.insertIdx_zero
  | cons first front ih => exact congrArg (first :: ·) ih

theorem eraseIdx_between (before after : List α) (item : α) :
  (before ++ item :: after).eraseIdx before.length = before ++ after := by
  rw [List.eraseIdx_append_of_length_le (Nat.le_refl _), Nat.sub_self, List.eraseIdx_cons_zero]

/-- An item taken out of a list and put back, at a place before it or after it. -/
theorem insertIdx_eraseIdx {before after : List α} {item : α}
  (hNodup : ((before ++ item :: after).map key).Nodup) {place : Nat}
  (hPlace : place ≤ (before ++ item :: after).length) :
  ((before ++ item :: after).eraseIdx before.length).insertIdx
      (if before.length < place then place - 1 else place) item =
    ((before ++ item :: after).take place).filter (key · ≠ key item) ++ [item] ++
      ((before ++ item :: after).drop place).filter (key · ≠ key item) := by
  obtain ⟨hBefore, hAfter⟩ := filter_key_ne hNodup
  have hKept : ∀ part : List α, part.Sublist before ∨ part.Sublist after →
      part.filter (key · ≠ key item) = part := by
    intro part hPart
    rw [List.filter_eq_self] at hBefore hAfter ⊢
    intro other hMem
    rcases hPart with hPart | hPart
    · exact hBefore other (hPart.subset hMem)
    · exact hAfter other (hPart.subset hMem)
  have hSelf : ∀ part : List α, (item :: part).filter (key · ≠ key item) =
      part.filter (key · ≠ key item) := by
    intro part
    exact List.filter_cons_of_neg (by simp)
  rw [eraseIdx_between]
  split
  case isTrue hLater =>
    obtain ⟨k, rfl⟩ := Nat.exists_eq_add_of_lt hLater
    have hTake : (before ++ item :: after).take (before.length + k + 1) =
        before ++ item :: after.take k := by
      rw [Nat.add_assoc, List.take_length_add_append, List.take_succ_cons]
    have hDrop : (before ++ item :: after).drop (before.length + k + 1) = after.drop k := by
      rw [Nat.add_assoc, List.drop_length_add_append, List.drop_succ_cons]
    rw [List.length_append, List.length_cons] at hPlace
    have hInsert := insertIdx_between (before ++ after.take k) (after.drop k) item
    rw [List.append_assoc, List.take_append_drop, List.length_append,
      List.length_take_of_le (by omega)] at hInsert
    rw [Nat.add_sub_cancel, hInsert, hTake, hDrop, List.filter_append, hSelf, hBefore,
      hKept _ (Or.inr (List.take_sublist k after)), hKept _ (Or.inr (List.drop_sublist k after))]
    simp
  case isFalse hEarlier =>
    have hInsert := insertIdx_between (before.take place) (before.drop place ++ after) item
    rw [← List.append_assoc, List.take_append_drop, List.length_take_of_le (by omega)] at hInsert
    rw [hInsert, List.take_append_of_le_length (by omega),
      List.drop_append_of_le_length (by omega), List.filter_append, hSelf, hAfter,
      hKept _ (Or.inl (List.take_sublist place before)),
      hKept _ (Or.inl (List.drop_sublist place before))]
    simp

end Reordering
