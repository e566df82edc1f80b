import VimeflowTerminal.Data.FinMap
import Mathlib.Data.List.Perm.Basic

/-! Members of a group get numbers from a counter that only grows. A registry maps
the members to their numbers; the ledger lists the numbers in the order in
which they were handed out. -/

namespace Numbering

open Numbering

variable {κ : Type} [DecidableEq κ] {m : FinMap κ Nat} {next : Nat}

/-- The registered numbers are positive, distinct and below the counter. -/
structure Numbered (m : FinMap κ Nat) (next : Nat) : Prop where
  pos : 0 < next
  bounds : ∀ k n, m.lookup k = some n → 0 < n ∧ n < next
  inj : ∀ k l n, m.lookup k = some n → m.lookup l = some n → k = l

/-- Register `k` under `n` and move the counter past `n`. -/
def register (m : FinMap κ Nat) (next : Nat) (k : κ) (n : Nat) : FinMap κ Nat × Nat :=
  (m.insert k n, max next (n + 1))

theorem Numbered.empty : Numbered (∅ : FinMap κ Nat) 1 := by
  refine ⟨Nat.one_pos, ?_, ?_⟩ <;> intro <;> simp

variable {n next' : Nat} {k : κ} {numbers before after ledger : List Nat}

/-- A number not below the counter is new. -/
theorem Numbered.register (h : Numbered m next) (k : κ) (hNew : next ≤ n) :
  Numbered (register m next k n).1 (register m next k n).2 := by
  have hPos := h.pos
  refine ⟨by unfold Numbering.register; omega, ?_, ?_⟩
  · intro l i hLookup
    unfold Numbering.register at hLookup ⊢
    by_cases hKey : l = k
    · subst hKey
      rw [AList.lookup_insert, Option.some.injEq] at hLookup
      omega
    · rw [AList.lookup_insert_ne hKey] at hLookup
      have hBounds := h.bounds l i hLookup
      omega
  · intro l l' i hLeft hRight
    unfold Numbering.register at hLeft hRight
    by_cases hKey : l = k
    · by_cases hKey' : l' = k
      · rw [hKey, hKey']
      · subst hKey
        rw [AList.lookup_insert, Option.some.injEq] at hLeft
        rw [AList.lookup_insert_ne hKey'] at hRight
        have hBounds := h.bounds l' i hRight
        omega
    · by_cases hKey' : l' = k
      · subst hKey'
        rw [AList.lookup_insert, Option.some.injEq] at hRight
        rw [AList.lookup_insert_ne hKey] at hLeft
        have hBounds := h.bounds l i hLeft
        omega
      · rw [AList.lookup_insert_ne hKey] at hLeft
        rw [AList.lookup_insert_ne hKey'] at hRight
        exact h.inj l l' i hLeft hRight

theorem lookup_of_erase {l : κ} (hLookup : (m.erase k).lookup l = some n) :
  m.lookup l = some n := by
  by_cases hKey : l = k
  · subst hKey
    rw [AList.lookup_erase] at hLookup
    cases hLookup
  · rwa [AList.lookup_erase_ne hKey] at hLookup

theorem Numbered.erase (h : Numbered m next) (k : κ) : Numbered (m.erase k) next :=
  ⟨h.pos, fun l n hLookup => h.bounds l n (lookup_of_erase hLookup),
    fun l l' n hLeft hRight => h.inj l l' n (lookup_of_erase hLeft) (lookup_of_erase hRight)⟩

/-- Drop the listed members. -/
def eraseAll (m : FinMap κ Nat) (ks : List κ) : FinMap κ Nat := ks.foldl (fun m k => m.erase k) m

theorem mem_eraseAll {ks : List κ} : k ∈ eraseAll m ks ↔ k ∈ m ∧ k ∉ ks := by
  unfold eraseAll
  induction ks generalizing m with
  | nil => simp
  | cons l ks ih =>
    rw [List.foldl_cons, ih, AList.mem_erase, List.mem_cons]
    tauto

theorem Numbered.eraseAll (h : Numbered m next) (ks : List κ) :
  Numbered (eraseAll m ks) next := by
  induction ks generalizing m with
  | nil => exact h
  | cons k ks ih => exact ih (h.erase k)

/-- Members keep their numbers, and every other number is new. -/
structure Extends (m : FinMap κ Nat) (next : Nat) (m' : FinMap κ Nat) (next' : Nat) : Prop where
  grows : next ≤ next'
  numbers : ∀ k n, m'.lookup k = some n → m.lookup k = some n ∨ next ≤ n

theorem Extends.refl (m : FinMap κ Nat) (next : Nat) : Extends m next m next :=
  ⟨Nat.le_refl _, fun _ _ hLookup => Or.inl hLookup⟩

theorem Extends.trans {m' m'' : FinMap κ Nat} {next'' : Nat} (hFirst : Extends m next m' next')
  (hSecond : Extends m' next' m'' next'') :
  Extends m next m'' next'' := by
  have hGrows := hFirst.grows
  refine ⟨Nat.le_trans hGrows hSecond.grows, ?_⟩
  intro k n hLookup
  rcases hSecond.numbers k n hLookup with hMiddle | hNew
  · exact hFirst.numbers k n hMiddle
  · exact Or.inr (by omega)

theorem Extends.register (m : FinMap κ Nat) (next : Nat) (k : κ) (hNew : next ≤ n) :
  Extends m next (register m next k n).1 (register m next k n).2 := by
  unfold Numbering.register
  refine ⟨Nat.le_max_left _ _, ?_⟩
  intro l i hLookup
  by_cases hKey : l = k
  · subst hKey
    rw [AList.lookup_insert, Option.some.injEq] at hLookup
    exact Or.inr (by omega)
  · rw [AList.lookup_insert_ne hKey] at hLookup
    exact Or.inl hLookup

theorem Extends.erase (m : FinMap κ Nat) (next : Nat) (k : κ) :
  Extends m next (m.erase k) next :=
  ⟨Nat.le_refl _, fun _ _ hLookup => Or.inl (lookup_of_erase hLookup)⟩

theorem Extends.eraseAll (m : FinMap κ Nat) (next : Nat) (ks : List κ) :
  Extends m next (eraseAll m ks) next := by
  induction ks generalizing m with
  | nil => exact Extends.refl m next
  | cons k ks ih => exact (Extends.erase m next k).trans (ih (m.erase k))

/-- Different members carry different numbers, so the list of numbers has no repetition. -/
theorem Numbered.nodup_values (h : Numbered m next) : m.values.Nodup := by
  have hPairwise : m.entries.Pairwise fun a b => a.1 ≠ b.1 := by
    have hKeys := m.nodupKeys
    rwa [List.NodupKeys, List.keys, List.Nodup, List.pairwise_map] at hKeys
  unfold FinMap.values
  rw [List.Nodup, List.pairwise_map]
  refine hPairwise.imp_of_mem ?_
  intro a b hLeft hRight hKeys hEq
  exact hKeys (h.inj a.1 b.1 a.2 (FinMap.mem_entries_iff.1 hLeft)
    (hEq ▸ FinMap.mem_entries_iff.1 hRight))

/-- The members are distinct and numbered. Every other registered key is away. -/
structure Roster (members : List κ) (m : FinMap κ Nat) (next : Nat) (away : List κ) : Prop where
  nodup : members.Nodup
  numbered : Numbered m next
  registered : ∀ k ∈ members, k ∈ m
  stale : ∀ k ∈ m, k ∈ members ∨ k ∈ away

variable {members away : List κ}

theorem Roster.perm {members' : List κ} (h : Roster members m next away)
  (hPerm : members'.Perm members) : Roster members' m next away := by
  refine ⟨hPerm.nodup_iff.2 h.nodup, h.numbered, ?_, ?_⟩
  · intro k hMem
    exact h.registered k (hPerm.mem_iff.1 hMem)
  intro k hMem
  rw [hPerm.mem_iff]
  exact h.stale k hMem

/-- A new member gets a new number. -/
theorem Roster.register (h : Roster members m next away) {k : κ} (hFresh : k ∉ members) {n : Nat}
  (hNew : next ≤ n) : Roster (k :: members) (register m next k n).1
    (register m next k n).2 away := by
  refine ⟨List.nodup_cons.2 ⟨hFresh, h.nodup⟩, h.numbered.register k hNew, ?_, ?_⟩
  · intro l hMem
    refine (AList.mem_insert _).2 ?_
    rcases List.mem_cons.1 hMem with rfl | hOld
    · exact Or.inl rfl
    · exact Or.inr (h.registered l hOld)
  · intro l hMem
    rcases (AList.mem_insert _).1 hMem with rfl | hOld
    · exact Or.inl List.mem_cons_self
    rcases h.stale l hOld with hMember | hAway
    · exact Or.inl (List.mem_cons_of_mem _ hMember)
    · exact Or.inr hAway

/-- A key that comes back finds the number it had. -/
theorem Roster.back (h : Roster members m next away) (hFresh : k ∉ members) (hMem : k ∈ m) :
  Roster (k :: members) m next away := by
  refine ⟨List.nodup_cons.2 ⟨hFresh, h.nodup⟩, h.numbered, ?_, ?_⟩
  · intro l hMember
    rcases List.mem_cons.1 hMember with rfl | hOld
    · exact hMem
    · exact h.registered l hOld
  · intro l hRegistered
    rcases h.stale l hRegistered with hMember | hAway
    · exact Or.inl (List.mem_cons_of_mem _ hMember)
    · exact Or.inr hAway

theorem Roster.absent {away' : List κ} (h : Roster members m next away)
  (hAway : ∀ k ∈ m, k ∈ away → k ∈ members ∨ k ∈ away') : Roster members m next away' := by
  refine ⟨h.nodup, h.numbered, h.registered, ?_⟩
  intro k hMem
  rcases h.stale k hMem with hMember | hOld
  · exact Or.inl hMember
  · exact hAway k hMem hOld

/-- A member that goes away keeps its number. -/
theorem Roster.leave (h : Roster (k :: members) m next away) :
  Roster members m next (k :: away) := by
  refine ⟨(List.nodup_cons.1 h.nodup).2, h.numbered, ?_, ?_⟩
  · intro l hMem
    exact h.registered l (List.mem_cons_of_mem _ hMem)
  intro l hMem
  rcases h.stale l hMem with hMember | hAway
  · rcases List.mem_cons.1 hMember with rfl | hOther
    · exact Or.inr List.mem_cons_self
    · exact Or.inl hOther
  · exact Or.inr (List.mem_cons_of_mem _ hAway)

theorem Roster.erase (h : Roster members m next away) {k : κ} (hGone : k ∉ members) :
  Roster members (m.erase k) next (away.filter fun l => l ≠ k) := by
  refine ⟨h.nodup, h.numbered.erase k, ?_, ?_⟩
  · intro l hMem
    refine AList.mem_erase.2 ⟨?_, h.registered l hMem⟩
    rintro rfl
    exact hGone hMem
  · intro l hMem
    obtain ⟨hNe, hOld⟩ := AList.mem_erase.1 hMem
    rcases h.stale l hOld with hMember | hAway
    · exact Or.inl hMember
    · exact Or.inr (List.mem_filter.2 ⟨hAway, by simpa using hNe⟩)

/-- Members dropped from the roster lose their numbers. -/
theorem Roster.drop {gone : List κ} (h : Roster (gone ++ members) m next away) :
  Roster members (eraseAll m gone) next away := by
  obtain ⟨-, hNodup, hApart⟩ := List.nodup_append.1 h.nodup
  refine ⟨hNodup, h.numbered.eraseAll gone, ?_, ?_⟩
  · intro k hMem
    refine mem_eraseAll.2 ⟨h.registered k (List.mem_append_right _ hMem), ?_⟩
    intro hGone
    exact hApart k hGone k hMem rfl
  · intro k hMem
    obtain ⟨hOld, hNot⟩ := mem_eraseAll.1 hMem
    rcases h.stale k hOld with hMember | hAway
    · rcases List.mem_append.1 hMember with hGone | hKept
      · exact absurd hGone hNot
      · exact Or.inl hKept
    · exact Or.inr hAway

theorem Roster.dropOne (h : Roster (k :: members) m next away) :
  Roster members (m.erase k) next away :=
  Roster.drop (show Roster ([k] ++ members) m next away from h)

/-- Positive distinct numbers below the counter. -/
structure Series (numbers : List Nat) (next : Nat) : Prop where
  pos : 0 < next
  nodup : numbers.Nodup
  bounds : ∀ n ∈ numbers, 0 < n ∧ n < next

theorem Series.one : Series [1] 2 :=
  ⟨Nat.two_pos, List.nodup_singleton 1, fun n hMem => by rw [List.mem_singleton.1 hMem]; omega⟩

theorem Series.grow (h : Series numbers next) (hGrows : next ≤ next') : Series numbers next' := by
  have hPos := h.pos
  refine ⟨by omega, h.nodup, ?_⟩
  intro n hMem
  have hBounds := h.bounds n hMem
  omega

theorem Series.perm {numbers' : List Nat} (h : Series numbers next)
  (hPerm : numbers'.Perm numbers) : Series numbers' next :=
  ⟨h.pos, hPerm.nodup_iff.2 h.nodup, fun n hMem => h.bounds n (hPerm.mem_iff.1 hMem)⟩

theorem Series.sublist {numbers' : List Nat} (h : Series numbers next)
  (hSublist : numbers'.Sublist numbers) : Series numbers' next :=
  ⟨h.pos, hSublist.nodup h.nodup, fun n hMem => h.bounds n (hSublist.subset hMem)⟩

theorem Series.handOut (h : Series numbers next) : Series (numbers ++ [next]) (next + 1) := by
  have hPos := h.pos
  refine ⟨by omega, ?_, ?_⟩
  · refine List.nodup_append.2 ⟨h.nodup, List.nodup_singleton _, ?_⟩
    intro n hMem i hNew
    have hBelow := (h.bounds n hMem).2
    rw [List.mem_singleton.1 hNew]
    omega
  · intro n hMem
    rcases List.mem_append.1 hMem with hOld | hNew
    · have hBounds := h.bounds n hOld
      omega
    · rw [List.mem_singleton.1 hNew]
      omega

/-- What the second list holds and the first did not. -/
def gained (before after : List Nat) : List Nat := after.filter fun n => n ∉ before

theorem mem_gained : n ∈ gained before after ↔ n ∈ after ∧ n ∉ before := by
  simp [gained]

theorem subset_append_gained (hBefore : before ⊆ ledger) :
  after ⊆ ledger ++ gained before after := by
  intro n hMem
  by_cases hOld : n ∈ before
  · exact List.mem_append_left _ (hBefore hOld)
  · exact List.mem_append_right _ (mem_gained.2 ⟨hMem, hOld⟩)

/-- No number of the ledger was handed out twice, and all are below the counter. -/
structure Ledger (ledger : List Nat) (next : Nat) : Prop where
  nodup : ledger.Nodup
  below : ∀ n ∈ ledger, n < next

theorem Ledger.append (h : Ledger ledger next) (hGrows : next ≤ next') (hNodup : numbers.Nodup)
  (hRange : ∀ n ∈ numbers, next ≤ n ∧ n < next') : Ledger (ledger ++ numbers) next' := by
  refine ⟨?_, ?_⟩
  · refine List.nodup_append.2 ⟨h.nodup, hNodup, ?_⟩
    intro n hOld i hNew
    have hBelow := h.below n hOld
    have hAbove := (hRange i hNew).1
    omega
  · intro n hMem
    rcases List.mem_append.1 hMem with hOld | hNew
    · have hBelow := h.below n hOld
      omega
    · exact (hRange n hNew).2

theorem Ledger.registry {m' : FinMap κ Nat} (h : Ledger ledger next) (hAfter : Numbered m' next')
  (hExtends : Extends m next m' next') :
  Ledger (ledger ++ gained m.values m'.values) next' := by
  refine h.append hExtends.grows (hAfter.nodup_values.filter _) ?_
  intro n hMem
  obtain ⟨hMem, hNot⟩ := mem_gained.1 hMem
  obtain ⟨k, hLookup⟩ := FinMap.mem_values.1 hMem
  refine ⟨?_, (hAfter.bounds k n hLookup).2⟩
  rcases hExtends.numbers k n hLookup with hOld | hNew
  · exact absurd (FinMap.mem_values.2 ⟨k, hOld⟩) hNot
  · exact hNew

theorem Ledger.series (h : Ledger ledger next) (hAfter : Series after next')
  (hGrows : next ≤ next') (hNumbers : ∀ n ∈ after, n ∈ before ∨ next ≤ n) :
  Ledger (ledger ++ gained before after) next' := by
  refine h.append hGrows (hAfter.nodup.filter _) ?_
  intro n hMem
  obtain ⟨hMem, hNot⟩ := mem_gained.1 hMem
  rcases hNumbers n hMem with hOld | hNew
  · exact absurd hOld hNot
  · exact ⟨hNew, (hAfter.bounds n hMem).2⟩

end Numbering
