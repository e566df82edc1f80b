import VimeflowTerminal.Data.FinMap
import Mathlib.Data.List.Perm.Basic

/-! A table that lists the running jobs by some key, with the id of each. It is
filled when a job starts and cleared when that job ends, in any order. -/

namespace JobTable

variable {κ ν J : Type} [DecidableEq κ]

/-- The table lists exactly the jobs, no two of them under one key. -/
structure Lists (key : J → κ) (id : J → ν) (table : FinMap κ ν) (jobs : List J) : Prop where
  nodup : (jobs.map key).Nodup
  lookup : ∀ k v, table.lookup k = some v ↔ ∃ job ∈ jobs, key job = k ∧ id job = v

namespace Lists

variable {key : J → κ} {id : J → ν} {table : FinMap κ ν} {jobs : List J}

theorem empty : Lists key id (∅ : FinMap κ ν) [] := by
  refine ⟨by simp, ?_⟩
  intro k v
  simp

variable {job : J}

section

variable (h : Lists key id table jobs)
include h

theorem lookup_of_mem (hMem : job ∈ jobs) :
  table.lookup (key job) = some (id job) :=
  (h.lookup _ _).2 ⟨job, hMem, rfl, rfl⟩

theorem mem_iff {k : κ} : k ∈ table ↔ ∃ job ∈ jobs, key job = k := by
  rw [← AList.lookup_isSome, Option.isSome_iff_exists]
  constructor
  · rintro ⟨v, hLookup⟩
    obtain ⟨job, hMem, hKey, -⟩ := (h.lookup k v).1 hLookup
    exact ⟨job, hMem, hKey⟩
  · rintro ⟨job, hMem, rfl⟩
    exact ⟨id job, h.lookup_of_mem hMem⟩

/-- A job with a key of its own starts. -/
theorem insert (hFresh : key job ∉ table) :
  Lists key id (table.insert (key job) (id job)) (jobs ++ [job]) := by
  have hOther : ∀ other ∈ jobs, key other ≠ key job := by
    intro other hMem hEq
    exact hFresh (h.mem_iff.2 ⟨other, hMem, hEq⟩)
  refine ⟨?_, ?_⟩
  · rw [List.map_append, List.map_singleton, List.nodup_append]
    refine ⟨h.nodup, by simp, ?_⟩
    intro a hA b hB
    obtain ⟨other, hMem, rfl⟩ := List.mem_map.1 hA
    rw [List.mem_singleton.1 hB]
    exact hOther other hMem
  · intro k v
    by_cases hKey : k = key job
    · subst hKey
      rw [AList.lookup_insert]
      constructor
      · intro hValue
        exact ⟨job, by simp, rfl, Option.some.inj hValue⟩
      · rintro ⟨other, hMem, hSame, rfl⟩
        rcases List.mem_append.1 hMem with hOld | hNew
        · exact absurd hSame (hOther other hOld)
        · rw [List.mem_singleton.1 hNew]
    · rw [AList.lookup_insert_ne hKey, h.lookup]
      constructor
      · rintro ⟨other, hMem, hSame⟩
        exact ⟨other, List.mem_append_left _ hMem, hSame⟩
      · rintro ⟨other, hMem, rfl, hId⟩
        rcases List.mem_append.1 hMem with hOld | hNew
        · exact ⟨other, hOld, rfl, hId⟩
        · rw [List.mem_singleton.1 hNew] at hKey
          exact absurd rfl hKey

/-- Taking out the job at an index leaves the jobs with another key. -/
theorem mem_eraseIdx_iff {i : Nat} {other : J}
  (hAt : jobs[i]? = some job) : other ∈ jobs.eraseIdx i ↔ other ∈ jobs ∧ key other ≠ key job := by
  obtain ⟨hi, rfl⟩ := List.getElem?_eq_some_iff.1 hAt
  have hPerm := List.getElem_cons_eraseIdx_perm hi
  have hKeys := (hPerm.map key).nodup_iff.2 h.nodup
  rw [List.map_cons, List.nodup_cons] at hKeys
  constructor
  · intro hMem
    refine ⟨List.mem_of_mem_eraseIdx hMem, ?_⟩
    intro hSame
    exact hKeys.1 (hSame ▸ List.mem_map_of_mem hMem)
  · rintro ⟨hMem, hNe⟩
    rcases List.mem_cons.1 (hPerm.mem_iff.2 hMem) with rfl | hRest
    · exact absurd rfl hNe
    · exact hRest

/-- A job ends: its entry, and no other, is cleared. -/
theorem erase {i : Nat} {job : J} (hAt : jobs[i]? = some job) :
  Lists key id (table.erase (key job)) (jobs.eraseIdx i) := by
  refine ⟨h.nodup.sublist ((List.eraseIdx_sublist jobs i).map key), ?_⟩
  intro k v
  by_cases hKey : k = key job
  · subst hKey
    rw [AList.lookup_erase]
    simp only [reduceCtorEq, false_iff, not_exists, not_and]
    intro other hMem hSame
    exact absurd hSame ((h.mem_eraseIdx_iff hAt).1 hMem).2
  · rw [AList.lookup_erase_ne hKey, h.lookup]
    constructor
    · rintro ⟨other, hMem, rfl, hId⟩
      exact ⟨other, (h.mem_eraseIdx_iff hAt).2 ⟨hMem, hKey⟩, rfl, hId⟩
    · rintro ⟨other, hMem, hSame⟩
      exact ⟨other, ((h.mem_eraseIdx_iff hAt).1 hMem).1, hSame⟩

end

theorem eq_empty (h : Lists key id table []) : table = ∅ := by
  apply AList.ext
  rw [AList.empty_entries]
  cases hEntries : table.entries with
  | nil => rfl
  | cons entry entries =>
    have hMem : entry ∈ table.entries := by simp [hEntries]
    obtain ⟨job, hJob, -⟩ := (h.lookup _ _).1 (FinMap.mem_entries_iff.1 hMem)
    cases hJob

end Lists

end JobTable
