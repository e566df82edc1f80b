import Mathlib.Data.List.Nodup
import Mathlib.Data.List.Zip

/-! Some items of a list are dropped. Positions in the list are then positions in
what is left only up to the first item that was dropped before a survivor. -/

namespace Survivors

variable {α : Type}

theorem getElem?_eq_some_iff {front back : List α} {item : α}
  (hNodup : (front ++ item :: back).Nodup) {idx : Nat} :
  (front ++ item :: back)[idx]? = some item ↔ idx = front.length := by
  have hAt : (front ++ item :: back)[front.length]? = some item := by simp
  constructor
  · intro hFound
    have hInRange : front.length < (front ++ item :: back).length := by simp
    exact ((List.getElem?_inj hInRange hNodup).1 (hAt.trans hFound.symm)).symm
  · rintro rfl
    exact hAt

/-- An index kept for what is left, but no greater than its last index, finds the item that
it was the index of exactly if nothing is dropped before the item, or everything after it. -/
theorem getElem?_min_iff {slots : List (Option α)} {idx : Nat} {item : α}
  (hAt : slots[idx]? = some (some item)) (hNodup : (slots.filterMap id).Nodup) :
  (slots.filterMap id)[min idx ((slots.filterMap id).length - 1)]? = some item ↔
    (∀ slot ∈ slots.take idx, slot.isSome) ∨ ∀ slot ∈ slots.drop (idx + 1), slot = none := by
  obtain ⟨hLt, hItem⟩ := List.getElem?_eq_some_iff.1 hAt
  have hSplit : slots.filterMap id =
      (slots.take idx).filterMap id ++ item :: (slots.drop (idx + 1)).filterMap id := by
    conv_lhs => rw [← List.take_append_drop idx slots, List.drop_eq_getElem_cons hLt, hItem]
    rw [List.filterMap_append]
    rfl
  have hEarlier : ((slots.take idx).filterMap id).length = idx ↔
      ∀ slot ∈ slots.take idx, slot.isSome := by
    have hAll := List.filterMap_length_eq_length (f := (id : Option α → Option α))
      (l := slots.take idx)
    rwa [List.length_take_of_le (Nat.le_of_lt hLt)] at hAll
  have hLater : ((slots.drop (idx + 1)).filterMap id).length = 0 ↔
      ∀ slot ∈ slots.drop (idx + 1), slot = none := by
    rw [List.length_eq_zero_iff, List.filterMap_eq_nil_iff]
    rfl
  have hBound : ((slots.take idx).filterMap id).length ≤ idx :=
    Nat.le_trans (List.length_filterMap_le _ _) (List.length_take_le _ _)
  rw [hSplit] at hNodup ⊢
  rw [getElem?_eq_some_iff hNodup, ← hEarlier, ← hLater, List.length_append, List.length_cons]
  omega

section Pairs

variable {γ P : Type} {keep : α → Option γ} {pairs : α → γ → List P} {items : List α}

/-- Nothing that is kept stands after something that is dropped. -/
def InOrder (keep : α → Option γ) (items : List α) : Prop :=
  items.Pairwise fun earlier later => (keep later).isSome = true → (keep earlier).isSome = true

/-- Items paired with what is left of the list, position by position. -/
def zipped (keep : α → Option γ) (pairs : α → γ → List P) (items : List α) : List P :=
  (items.zip (items.filterMap keep)).flatMap fun pair => pairs pair.1 pair.2

theorem InOrder.cons {item : α} (hOrder : InOrder keep (item :: items)) :
  InOrder keep items ∧ ((keep item).isSome = true ∨ items.filterMap keep = []) := by
  obtain ⟨hHead, hRest⟩ := List.pairwise_cons.1 hOrder
  refine ⟨hRest, ?_⟩
  by_cases hKept : (keep item).isSome = true
  · exact Or.inl hKept
  refine Or.inr (List.filterMap_eq_nil_iff.2 fun later hMem => ?_)
  rw [← Option.not_isSome_iff_eq_none]
  exact fun hLater => hKept (hHead later hMem hLater)

/-- In order, every item is paired with what it has become. -/
theorem zipped_eq (hOrder : InOrder keep items) :
  zipped keep pairs items = items.flatMap fun item => (keep item).elim [] (pairs item) := by
  induction items with
  | nil => rfl
  | cons item items ih =>
    obtain ⟨hRest, hKept⟩ := hOrder.cons
    have ih := ih hRest
    unfold zipped at ih ⊢
    cases hItem : keep item with
    | some kept =>
      rw [List.filterMap_cons_some hItem, List.zip_cons_cons, List.flatMap_cons,
        List.flatMap_cons, ih, hItem]
      rfl
    | none =>
      have hNone : items.filterMap keep = [] := by
        rw [hItem] at hKept
        exact hKept.resolve_left (by simp)
      rw [hNone, List.zip_nil_right] at ih
      rw [List.filterMap_cons_none hItem, hNone, List.zip_nil_right, List.flatMap_cons, ← ih,
        hItem]
      rfl

/-- Suppose that pairs that are all right tell what an item was paired with. Then all pairs are
right exactly if the items are in order and each item is rightly paired with what it became. -/
theorem zipped_right_iff {right : P → Prop}
  (hTell : ∀ item ∈ items, ∀ other ∈ items, ∀ kept, keep other = some kept →
    (∀ pair ∈ pairs item kept, right pair) → (keep item).isSome = true) :
  (∀ pair ∈ zipped keep pairs items, right pair) ↔ InOrder keep items ∧
    ∀ item ∈ items, ∀ kept, keep item = some kept → ∀ pair ∈ pairs item kept, right pair := by
  induction items with
  | nil => simp [zipped, InOrder]
  | cons item items ih =>
    have ih := ih fun first hFirst other hOther =>
      hTell first (List.mem_cons_of_mem _ hFirst) other (List.mem_cons_of_mem _ hOther)
    rw [List.forall_mem_cons]
    cases hItem : keep item with
    | some kept =>
      have hOrder : InOrder keep (item :: items) ↔ InOrder keep items := by
        refine List.pairwise_cons.trans (and_iff_right fun _ _ _ => ?_)
        rw [hItem, Option.isSome_some]
      have hZipped : zipped keep pairs (item :: items) =
          pairs item kept ++ zipped keep pairs items := by
        rw [zipped, List.filterMap_cons_some hItem, List.zip_cons_cons, List.flatMap_cons]
        rfl
      have hHead : (∀ kept', some kept = some kept' → ∀ pair ∈ pairs item kept', right pair) ↔
          ∀ pair ∈ pairs item kept, right pair := by
        simp
      rw [hZipped, hOrder, hHead, List.forall_mem_append, ih]
      tauto
    | none =>
      cases hKept : items.filterMap keep with
      | nil =>
        have hNone := List.filterMap_eq_nil_iff.1 hKept
        have hZipped : zipped keep pairs (item :: items) = [] := by
          rw [zipped, List.filterMap_cons_none hItem, hKept, List.zip_nil_right]
          rfl
        rw [hZipped]
        refine iff_of_true (fun _ hMem => nomatch hMem) ⟨?_, ?_, ?_⟩
        · have hDropped : ∀ other ∈ item :: items, keep other = none := by
            rw [List.forall_mem_cons]
            exact ⟨hItem, hNone⟩
          refine List.pairwise_of_forall_mem_list fun _ _ later hLater hSome => ?_
          rw [hDropped later hLater] at hSome
          cases hSome
        · intro kept hSome
          cases hSome
        · intro other hMem kept hSome
          rw [hNone other hMem] at hSome
          cases hSome
      | cons kept rest =>
        obtain ⟨other, hOther, hSome⟩ : ∃ other ∈ items, keep other = some kept :=
          List.mem_filterMap.1 (hKept ▸ List.mem_cons_self)
        refine iff_of_false (fun hAll => ?_) (fun hOrder => ?_)
        · have hTold := hTell item List.mem_cons_self other (List.mem_cons_of_mem _ hOther)
            kept hSome fun pair hPair => hAll pair (by
              rw [zipped, List.filterMap_cons_none hItem, hKept, List.zip_cons_cons,
                List.flatMap_cons]
              exact List.mem_append_left _ hPair)
          rw [hItem] at hTold
          cases hTold
        · have hHead := (List.pairwise_cons.1 hOrder.1).1 other hOther
          rw [hSome, hItem] at hHead
          exact nomatch hHead rfl

end Pairs

section Parts

variable {γ P Q : Type} (part : P → Q) {pairs : α → γ → List P}

theorem flatMap_zip_sublist_left (content : α → List Q)
  (hPart : ∀ first second, ((pairs first second).map part).Sublist (content first))
  (firsts : List α) (seconds : List γ) :
  (((firsts.zip seconds).flatMap fun pair => pairs pair.1 pair.2).map part).Sublist
    (firsts.flatMap content) := by
  induction firsts generalizing seconds with
  | nil => exact List.Sublist.refl _
  | cons first firsts ih =>
    cases seconds with
    | nil => exact List.nil_sublist _
    | cons second seconds =>
      rw [List.zip_cons_cons, List.flatMap_cons, List.map_append, List.flatMap_cons]
      exact (hPart first second).append (ih seconds)

theorem flatMap_zip_sublist_right (content : γ → List Q)
  (hPart : ∀ first second, ((pairs first second).map part).Sublist (content second))
  (firsts : List α) (seconds : List γ) :
  (((firsts.zip seconds).flatMap fun pair => pairs pair.1 pair.2).map part).Sublist
    (seconds.flatMap content) := by
  have hLeft := @flatMap_zip_sublist_left _ _ _ _ part (fun second first => pairs first second)
    content (fun second first => hPart first second) seconds firsts
  rwa [← List.zip_swap, List.flatMap_map] at hLeft

theorem map_fst_zip_sublist (firsts : List α) (seconds : List γ) :
  ((firsts.zip seconds).map Prod.fst).Sublist firsts := by
  have hParts := flatMap_zip_sublist_left Prod.fst (fun first : α => [first])
    (fun first (second : γ) => List.Sublist.refl ([(first, second)].map Prod.fst)) firsts seconds
  rwa [List.flatMap_singleton', List.flatMap_singleton'] at hParts

theorem map_snd_zip_sublist (firsts : List α) (seconds : List γ) :
  ((firsts.zip seconds).map Prod.snd).Sublist seconds := by
  have hParts := flatMap_zip_sublist_right Prod.snd (fun second : γ => [second])
    (fun (first : α) second => List.Sublist.refl ([(first, second)].map Prod.snd)) firsts seconds
  rwa [List.flatMap_singleton', List.flatMap_singleton'] at hParts

end Parts

end Survivors
