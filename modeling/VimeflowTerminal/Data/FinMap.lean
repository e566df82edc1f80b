import Mathlib.Data.List.AList

/-! Hash maps as association lists with distinct keys. The order of the entries
is the order in which the map is iterated. Mathlib supplies lookup, insertion
and removal; this file adds filtering and value updates. -/

/-- A finite map from `κ` to `ν`. -/
abbrev FinMap (κ ν : Type) := AList (fun _ : κ => ν)

namespace FinMap

variable {κ ν : Type}

private theorem nodupKeys_map (f : κ → ν → ν) {l : List (Sigma fun _ : κ => ν)}
  (hNodup : l.NodupKeys) :
  (l.map fun e => (⟨e.1, f e.1 e.2⟩ : Sigma fun _ : κ => ν)).NodupKeys := by
  have hKeys : (l.map fun e => (⟨e.1, f e.1 e.2⟩ : Sigma fun _ : κ => ν)).keys = l.keys := by
    simp [List.keys, Function.comp_def]
  unfold List.NodupKeys
  rw [hKeys]
  exact hNodup

/-- Keep the entries accepted by `keep`, in order. -/
def retain (m : FinMap κ ν) (keep : κ → ν → Bool) : FinMap κ ν :=
  ⟨m.entries.filter fun e => keep e.1 e.2, m.nodupKeys.sublist List.filter_sublist⟩

/-- Rewrite every value in place. -/
def mapValues (m : FinMap κ ν) (f : κ → ν → ν) : FinMap κ ν :=
  ⟨m.entries.map fun e => ⟨e.1, f e.1 e.2⟩, nodupKeys_map f m.nodupKeys⟩

/-- The values in iteration order. -/
def values (m : FinMap κ ν) : List ν := m.entries.map Sigma.snd

/-- Collect a result for each entry that yields one, in iteration order. -/
def collect {β : Type} (m : FinMap κ ν) (f : κ → ν → Option β) : List β :=
  m.entries.filterMap fun e => f e.1 e.2

/-- Build a map from pairs inserted from left to right. -/
def ofPairs [DecidableEq κ] (pairs : List (κ × ν)) : FinMap κ ν :=
  pairs.foldl (fun m pair => m.insert pair.1 pair.2) ∅

/-- Two maps hold the same entries, whatever their iteration orders. -/
def SameEntries (m n : FinMap κ ν) : Prop := m.entries.Perm n.entries

instance [DecidableEq κ] [DecidableEq ν] (m n : FinMap κ ν) : Decidable (SameEntries m n) :=
  inferInstanceAs (Decidable (m.entries.Perm n.entries))

theorem SameEntries.refl (m : FinMap κ ν) : SameEntries m m := List.Perm.refl _

/-- Results collected from different entries carry different keys. -/
theorem nodup_collect_map {β : Type} (m : FinMap κ ν) (f : κ → ν → Option β) (tag : β → κ)
  (hTag : ∀ k v b, f k v = some b → tag b = k) : ((m.collect f).map tag).Nodup := by
  have hSublist : ∀ l : List (Sigma fun _ : κ => ν),
      ((l.filterMap fun e => f e.1 e.2).map tag).Sublist l.keys := by
    intro l
    induction l with
    | nil => exact List.Sublist.slnil
    | cons e l ih =>
      cases hResult : f e.1 e.2 with
      | none => simpa [List.filterMap_cons, hResult] using ih.cons e.1
      | some b =>
        have hKey := hTag e.1 e.2 b hResult
        simpa [List.filterMap_cons, hResult, hKey] using ih.cons_cons e.1
  exact (hSublist m.entries).nodup m.nodupKeys

theorem mapValues_mapValues (m : FinMap κ ν) (f g : κ → ν → ν) :
  (m.mapValues f).mapValues g = m.mapValues fun k v => g k (f k v) := by
  apply AList.ext
  simp [mapValues, Function.comp_def]

section Lookup

variable [DecidableEq κ]

private theorem dlookup_filter (keep : κ → ν → Bool) (k : κ) :
  ∀ {l : List (Sigma fun _ : κ => ν)}, l.NodupKeys →
    List.dlookup k (l.filter fun e => keep e.1 e.2) =
      (List.dlookup k l).filter (keep k)
  | [], _ => rfl
  | ⟨a, v⟩ :: l, hNodup => by
    have ih := dlookup_filter keep k (l := l) (List.nodupKeys_cons.1 hNodup).2
    have hFresh : a ∉ l.keys := (List.nodupKeys_cons.1 hNodup).1
    by_cases hKey : k = a
    · subst hKey
      cases hKeep : keep k v with
      | true => simp [hKeep, Option.filter]
      | false =>
        have hNone : List.dlookup k l = none := List.dlookup_eq_none.2 hFresh
        simp [hKeep, ih, hNone, Option.filter]
    · cases hKeep : keep a v with
      | true => simp [hKeep, hKey, List.dlookup_cons_ne, ih]
      | false => simp [hKeep, hKey, List.dlookup_cons_ne, ih]

@[simp] theorem lookup_retain (m : FinMap κ ν) (keep : κ → ν → Bool) (k : κ) :
  (m.retain keep).lookup k = (m.lookup k).filter (keep k) :=
  dlookup_filter keep k m.nodupKeys

private theorem dlookup_map (f : κ → ν → ν) (k : κ) (l : List (Sigma fun _ : κ => ν)) :
  List.dlookup k (l.map fun e => (⟨e.1, f e.1 e.2⟩ : Sigma fun _ : κ => ν)) =
    (List.dlookup k l).map (f k) := by
  induction l with
  | nil => rfl
  | cons e l ih =>
    obtain ⟨a, v⟩ := e
    by_cases hKey : k = a
    · subst hKey
      simp
    · simp [hKey, List.dlookup_cons_ne, ih]

@[simp] theorem lookup_mapValues (m : FinMap κ ν) (f : κ → ν → ν) (k : κ) :
  (m.mapValues f).lookup k = (m.lookup k).map (f k) :=
  dlookup_map f k m.entries

variable {m : FinMap κ ν} {k : κ} {v : ν} {pairs : List (κ × ν)}

@[simp] theorem mem_mapValues {f : κ → ν → ν} : k ∈ m.mapValues f ↔ k ∈ m := by
  rw [← AList.lookup_isSome, ← AList.lookup_isSome, lookup_mapValues, Option.isSome_map]

theorem mem_retain {keep : κ → ν → Bool} :
  v ∈ (m.retain keep).lookup k ↔ v ∈ m.lookup k ∧ keep k v = true := by
  simp [Option.filter_eq_some_iff]

theorem mem_entries_iff {m : FinMap κ ν} {e : Sigma fun _ : κ => ν} :
  e ∈ m.entries ↔ m.lookup e.1 = some e.2 :=
  AList.mem_lookup_iff.symm

/-- An entry is the first of the others up to the order of iteration. -/
theorem perm_cons_erase (hLookup : m.lookup k = some v) :
  m.entries.Perm (⟨k, v⟩ :: (m.erase k).entries) := by
  have hKey : k ∈ m.entries.keys := by
    rw [← List.dlookup_isSome]
    exact Option.isSome_iff_exists.2 ⟨v, hLookup⟩
  obtain ⟨w, before, after, -, hSplit, hErase⟩ := List.exists_of_kerase hKey
  have hEntry : (⟨k, w⟩ : Sigma fun _ : κ => ν) ∈ m.entries := by
    rw [hSplit]
    simp
  have hValue : w = v := by
    have hFound := mem_entries_iff.1 hEntry
    rw [hLookup, Option.some.injEq] at hFound
    exact hFound.symm
  subst hValue
  show m.entries.Perm (⟨k, w⟩ :: m.entries.kerase k)
  rw [hErase, hSplit]
  exact List.perm_middle

theorem mem_collect {β : Type} {f : κ → ν → Option β} {b : β} :
  b ∈ m.collect f ↔ ∃ k v, m.lookup k = some v ∧ f k v = some b := by
  constructor
  · intro hMem
    obtain ⟨e, hEntry, hValue⟩ := List.mem_filterMap.1 hMem
    exact ⟨e.1, e.2, mem_entries_iff.1 hEntry, hValue⟩
  · rintro ⟨k, v, hLookup, hValue⟩
    exact List.mem_filterMap.2 ⟨⟨k, v⟩, mem_entries_iff.2 hLookup, hValue⟩

theorem mem_values : v ∈ m.values ↔ ∃ k, m.lookup k = some v := by
  constructor
  · intro hMem
    obtain ⟨e, hEntry, rfl⟩ := List.mem_map.1 hMem
    exact ⟨e.1, mem_entries_iff.1 hEntry⟩
  · rintro ⟨k, hLookup⟩
    exact List.mem_map.2 ⟨⟨k, v⟩, mem_entries_iff.2 hLookup, rfl⟩

theorem lookup_foldl_insert (hAbsent : k ∉ pairs.map Prod.fst) (m : FinMap κ ν) :
  (pairs.foldl (fun m pair => m.insert pair.1 pair.2) m).lookup k = m.lookup k := by
  induction pairs generalizing m with
  | nil => rfl
  | cons pair pairs ih =>
    rw [List.map_cons, List.mem_cons, not_or] at hAbsent
    rw [List.foldl_cons, ih hAbsent.2, AList.lookup_insert_ne hAbsent.1]

/-- The pairs, the later ones over the earlier ones, over the entries. -/
def insertAll (m : FinMap κ ν) (pairs : List (κ × ν)) : FinMap κ ν :=
  pairs.foldl (fun m pair => m.insert pair.1 pair.2) m

/-- What is found was among the pairs, or is an entry that none of them replaces. -/
theorem of_lookup_insertAll (hLookup : (m.insertAll pairs).lookup k = some v) :
  (k, v) ∈ pairs ∨ k ∉ pairs.map Prod.fst ∧ m.lookup k = some v := by
  induction pairs generalizing m with
  | nil => exact Or.inr ⟨List.not_mem_nil, hLookup⟩
  | cons pair pairs ih =>
    rcases ih hLookup with hLater | ⟨hNot, hOld⟩
    · exact Or.inl (List.mem_cons_of_mem _ hLater)
    by_cases hKey : k = pair.1
    · subst hKey
      rw [AList.lookup_insert, Option.some.injEq] at hOld
      exact Or.inl (List.mem_cons.2 (Or.inl (by rw [← hOld])))
    · rw [AList.lookup_insert_ne hKey] at hOld
      refine Or.inr ⟨?_, hOld⟩
      rw [List.map_cons, List.mem_cons, not_or]
      exact ⟨hKey, hNot⟩

theorem lookup_ofPairs (hNodup : (pairs.map Prod.fst).Nodup) (hMem : (k, v) ∈ pairs) :
  (ofPairs pairs).lookup k = some v := by
  obtain ⟨before, after, rfl⟩ := List.append_of_mem hMem
  rw [List.map_append, List.map_cons] at hNodup
  have hAbsent : k ∉ after.map Prod.fst :=
    (List.nodup_cons.1 (List.nodup_append.1 hNodup).2.1).1
  unfold ofPairs
  rw [List.foldl_append, List.foldl_cons, lookup_foldl_insert hAbsent, AList.lookup_insert]

theorem mem_ofPairs : k ∈ ofPairs pairs ↔ k ∈ pairs.map Prod.fst := by
  have hFold : ∀ m : FinMap κ ν, k ∈ pairs.foldl (fun m pair => m.insert pair.1 pair.2) m ↔
      k ∈ pairs.map Prod.fst ∨ k ∈ m := by
    induction pairs with
    | nil => simp
    | cons pair pairs ih =>
      intro m
      rw [List.foldl_cons, ih, AList.mem_insert, List.map_cons, List.mem_cons]
      tauto
  have hEmpty : k ∉ (∅ : FinMap κ ν) := AList.notMem_empty k
  exact (hFold ∅).trans (or_iff_left hEmpty)

theorem mem_of_lookup_ofPairs (hLookup : (ofPairs pairs).lookup k = some v) : (k, v) ∈ pairs := by
  refine List.foldlRecOn pairs _ (b := (∅ : FinMap κ ν))
    (motive := fun m => m.lookup k = some v → (k, v) ∈ pairs) ?_ ?_ hLookup
  · intro hEmpty
    rw [AList.lookup_empty] at hEmpty
    cases hEmpty
  · intro m hOlder pair hMem hInsert
    by_cases hKey : k = pair.1
    · rw [hKey, AList.lookup_insert, Option.some.injEq] at hInsert
      rwa [hKey, ← hInsert]
    · rw [AList.lookup_insert_ne hKey] at hInsert
      exact hOlder hInsert

theorem lookup_ofPairs_iff (hNodup : (pairs.map Prod.fst).Nodup) :
  (ofPairs pairs).lookup k = some v ↔ (k, v) ∈ pairs :=
  ⟨mem_of_lookup_ofPairs, lookup_ofPairs hNodup⟩

/-- Every entry satisfies the predicate. -/
def Forall (P : κ → ν → Prop) (m : FinMap κ ν) : Prop := ∀ k v, m.lookup k = some v → P k v

section Forall

variable {P Q : κ → ν → Prop} {m : FinMap κ ν}

theorem Forall.empty : Forall P (∅ : FinMap κ ν) := by
  intro k v hLookup
  simp at hLookup

theorem Forall.mono (h : Forall P m) (hImp : ∀ k v, P k v → Q k v) : Forall Q m :=
  fun k v hLookup => hImp k v (h k v hLookup)

theorem Forall.insert (h : Forall P m) {k : κ} {v : ν} (hNew : P k v) :
  Forall P (m.insert k v) := by
  intro key value hLookup
  by_cases hKey : key = k
  · subst hKey
    rw [AList.lookup_insert, Option.some.injEq] at hLookup
    exact hLookup ▸ hNew
  · rw [AList.lookup_insert_ne hKey] at hLookup
    exact h key value hLookup

theorem Forall.erase (h : Forall P m) (k : κ) : Forall P (m.erase k) := by
  intro key value hLookup
  by_cases hKey : key = k
  · subst hKey
    simp at hLookup
  · rw [AList.lookup_erase_ne hKey] at hLookup
    exact h key value hLookup

theorem Forall.retain (h : Forall P m) (keep : κ → ν → Bool) : Forall P (m.retain keep) :=
  fun key value hLookup => h key value (mem_retain.1 hLookup).1

theorem Forall.mapValues (h : Forall P m) {f : κ → ν → ν} (hKept : ∀ k v, P k v → P k (f k v)) :
  Forall P (m.mapValues f) := by
  intro key value hLookup
  rw [lookup_mapValues] at hLookup
  obtain ⟨old, hOld, rfl⟩ := Option.map_eq_some_iff.1 hLookup
  exact hKept key old (h key old hOld)

end Forall

end Lookup

end FinMap
