import VimeflowTerminal.Data.FinMap
import Mathlib.Order.Basic

/-! A finite map together with the log of its writes, newest first. No operation
reads the log: it records, for statements about whole runs, when an entry was
recorded and when it was removed. -/

/-- One write to a map. Removing an absent key writes nothing. -/
inductive MapWrite (κ ν : Type) where
  | recorded (key : κ) (value : ν)
  | removed (key : κ)
  deriving DecidableEq

namespace MapWrite

variable {κ ν : Type} [DecidableEq κ]

/-- The value a log leaves at `k`. -/
def current (k : κ) : List (MapWrite κ ν) → Option ν
  | [] => none
  | recorded key value :: log => if key = k then some value else current k log
  | removed key :: log => if key = k then none else current k log

/-- Each recorded value exceeds the one it overwrites. -/
def Increasing [LT ν] : List (MapWrite κ ν) → Prop
  | [] => True
  | recorded key value :: log => (∀ old ∈ current key log, old < value) ∧ Increasing log
  | removed _ :: log => Increasing log

@[simp] theorem current_recorded_self (k : κ) (v : ν) (log : List (MapWrite κ ν)) :
  current k (recorded k v :: log) = some v := by
  simp [current]

variable {k : κ}

theorem current_recorded_ne {key : κ} (hNe : key ≠ k) (v : ν) (log : List (MapWrite κ ν)) :
  current k (recorded key v :: log) = current k log := by
  simp [current, hNe]

theorem current_removals (k : κ) (keys : List κ) (log : List (MapWrite κ ν)) :
  current k (keys.map removed ++ log) = if k ∈ keys then none else current k log := by
  induction keys with
  | nil => simp
  | cons key keys ih =>
    by_cases hKey : key = k
    · simp [current, hKey]
    · have hNe : k ≠ key := fun h => hKey h.symm
      simp [current, hKey, hNe, ih]

theorem increasing_removals [LT ν] (keys : List κ) {log : List (MapWrite κ ν)}
  (hLog : Increasing log) : Increasing (keys.map removed ++ log) := by
  induction keys with
  | nil => exact hLog
  | cons key keys ih => exact ih

theorem Increasing.of_append [LT ν] {newer older : List (MapWrite κ ν)}
  (hLog : Increasing (newer ++ older)) : Increasing older := by
  induction newer with
  | nil => exact hLog
  | cons w newer ih =>
    cases w with
    | recorded key value => exact ih hLog.2
    | removed key => exact ih hLog

/-- As long as `k` is not removed, what a log leaves at `k` only grows. -/
theorem Increasing.le_current [Preorder ν] {newer older : List (MapWrite κ ν)}
  (hLog : Increasing (newer ++ older)) (hKept : removed k ∉ newer) {old : ν}
  (hOld : current k older = some old) :
  ∃ value, current k (newer ++ older) = some value ∧ old ≤ value := by
  induction newer with
  | nil => exact ⟨old, hOld, le_refl old⟩
  | cons w newer ih =>
    have hRest : removed k ∉ newer := fun h => hKept (List.mem_cons_of_mem _ h)
    cases w with
    | recorded key value =>
      obtain ⟨middle, hMiddle, hLe⟩ := ih hLog.2 hRest
      by_cases hKey : key = k
      · subst hKey
        refine ⟨value, by simp, ?_⟩
        exact hLe.trans (le_of_lt (hLog.1 middle hMiddle))
      · exact ⟨middle, by simp [current, hKey, hMiddle], hLe⟩
    | removed key =>
      obtain ⟨middle, hMiddle, hLe⟩ := ih hLog hRest
      have hKey : key ≠ k := by
        rintro rfl
        exact hKept List.mem_cons_self
      exact ⟨middle, by simp [current, hKey, hMiddle], hLe⟩

/-- Between two removals of a key every value recorded for it is larger than
all values recorded before. -/
theorem Increasing.lt_of_recorded [Preorder ν] {newest middle oldest : List (MapWrite κ ν)}
  {old new : ν}
  (hLog : Increasing (newest ++ recorded k new :: (middle ++ recorded k old :: oldest)))
  (hKept : removed k ∉ middle) : old < new := by
  obtain ⟨hNew, hRest⟩ := hLog.of_append
  obtain ⟨value, hValue, hLe⟩ :=
    hRest.le_current hKept (current_recorded_self k old oldest)
  exact lt_of_le_of_lt hLe (hNew value hValue)

end MapWrite

/-- A finite map with the log of its writes. -/
structure LoggedMap (κ ν : Type) [DecidableEq κ] where
  entries : FinMap κ ν
  log : List (MapWrite κ ν)
  entries_eq : ∀ k, entries.lookup k = MapWrite.current k log

namespace LoggedMap

variable {κ ν : Type} [DecidableEq κ]

def empty : LoggedMap κ ν := ⟨∅, [], fun _ => rfl⟩

instance : EmptyCollection (LoggedMap κ ν) := ⟨empty⟩

def lookup (m : LoggedMap κ ν) (k : κ) : Option ν := m.entries.lookup k

def contains (m : LoggedMap κ ν) (k : κ) : Bool := (m.lookup k).isSome

def insert (m : LoggedMap κ ν) (k : κ) (v : ν) : LoggedMap κ ν where
  entries := m.entries.insert k v
  log := .recorded k v :: m.log
  entries_eq key := by
    by_cases hKey : k = key
    · subst hKey
      simp
    · have hNe : key ≠ k := fun h => hKey h.symm
      rw [AList.lookup_insert_ne hNe, MapWrite.current_recorded_ne hKey, m.entries_eq]

/-- Remove the listed keys, logging those that were present. -/
def removeAll (m : LoggedMap κ ν) (keys : List κ) : LoggedMap κ ν where
  entries := m.entries.retain fun k _ => decide (k ∉ keys)
  log := (keys.filter m.contains).map .removed ++ m.log
  entries_eq key := by
    rw [FinMap.lookup_retain, MapWrite.current_removals, ← m.entries_eq]
    by_cases hKey : key ∈ keys
    · cases hEntry : m.entries.lookup key with
      | none => simp
      | some v => simp [hKey, contains, lookup, hEntry, Option.filter]
    · cases hEntry : m.entries.lookup key with
      | none => simp
      | some v => simp [hKey, Option.filter]

def remove (m : LoggedMap κ ν) (k : κ) : LoggedMap κ ν := m.removeAll [k]

/-- Keep the entries whose key is accepted. -/
def retain (m : LoggedMap κ ν) (keep : κ → Bool) : LoggedMap κ ν :=
  m.removeAll (m.entries.keys.filter fun k => !keep k)

variable {k : κ} {m : LoggedMap κ ν}

section

variable (m : LoggedMap κ ν)

theorem lookup_insert_ne {key : κ} (hNe : key ≠ k) (v : ν) :
  (m.insert k v).lookup key = m.lookup key :=
  AList.lookup_insert_ne hNe

@[simp] theorem log_insert (k : κ) (v : ν) :
  (m.insert k v).log = .recorded k v :: m.log := rfl

theorem lookup_removeAll (keys : List κ) (k : κ) :
  (m.removeAll keys).lookup k = if k ∈ keys then none else m.lookup k := by
  show (m.entries.retain _).lookup k = _
  rw [FinMap.lookup_retain]
  by_cases hKey : k ∈ keys
  · cases hEntry : m.entries.lookup k with
    | none => simp [lookup, hEntry]
    | some v => simp [hKey, Option.filter]
  · cases hEntry : m.entries.lookup k with
    | none => simp [lookup, hEntry]
    | some v => simp [hKey, lookup, hEntry, Option.filter]

@[simp] theorem lookup_remove (k : κ) : (m.remove k).lookup k = none := by
  simp [remove, lookup_removeAll]

theorem lookup_retain (keep : κ → Bool) (k : κ) :
  (m.retain keep).lookup k = if keep k then m.lookup k else none := by
  rw [retain, lookup_removeAll]
  cases hEntry : m.lookup k with
  | none => cases keep k <;> simp
  | some v =>
    have hKey : k ∈ m.entries.keys :=
      AList.mem_keys.2 (AList.lookup_isSome.1 (Option.isSome_iff_exists.2 ⟨v, hEntry⟩))
    cases hKeep : keep k <;> simp [hKey, hKeep]

end

/-- The values recorded for every key grow until the key is removed. -/
def Increasing [LT ν] (m : LoggedMap κ ν) : Prop := MapWrite.Increasing m.log

theorem increasing_empty [LT ν] : (∅ : LoggedMap κ ν).Increasing := trivial

theorem Increasing.insert [LT ν] (hLog : m.Increasing) {v : ν}
  (hFresh : ∀ old ∈ m.lookup k, old < v) : (m.insert k v).Increasing := by
  refine ⟨?_, hLog⟩
  intro old hOld
  exact hFresh old (by rw [lookup, m.entries_eq]; exact hOld)

theorem Increasing.removeAll [LT ν] (hLog : m.Increasing) (keys : List κ) :
  (m.removeAll keys).Increasing :=
  MapWrite.increasing_removals _ hLog

/-- `n` is `m` after some writes, which keep recorded values growing. -/
structure Grows [LT ν] (m n : LoggedMap κ ν) : Prop where
  log : ∃ newer, n.log = newer ++ m.log
  increasing : m.Increasing → n.Increasing

theorem Grows.refl [LT ν] (m : LoggedMap κ ν) : Grows m m := ⟨⟨[], rfl⟩, id⟩

theorem Grows.trans [LT ν] {n o : LoggedMap κ ν} (hLeft : Grows m n) (hRight : Grows n o) :
  Grows m o := by
  obtain ⟨first, hFirst⟩ := hLeft.log
  obtain ⟨second, hSecond⟩ := hRight.log
  exact ⟨⟨second ++ first, by rw [hSecond, hFirst, List.append_assoc]⟩,
    hRight.increasing ∘ hLeft.increasing⟩

theorem grows_insert [LT ν] {v : ν} (hFresh : ∀ old ∈ m.lookup k, old < v) :
  Grows m (m.insert k v) :=
  ⟨⟨[.recorded k v], rfl⟩, fun hLog => hLog.insert hFresh⟩

theorem grows_removeAll [LT ν] (m : LoggedMap κ ν) (keys : List κ) : Grows m (m.removeAll keys) :=
  ⟨⟨_, rfl⟩, fun hLog => hLog.removeAll keys⟩

theorem grows_remove [LT ν] (m : LoggedMap κ ν) (k : κ) : Grows m (m.remove k) :=
  m.grows_removeAll [k]

theorem grows_retain [LT ν] (m : LoggedMap κ ν) (keep : κ → Bool) : Grows m (m.retain keep) :=
  m.grows_removeAll _

theorem log_remove_of_contains (hPresent : m.contains k = true) :
  (m.remove k).log = .removed k :: m.log := by
  simp [remove, removeAll, hPresent]

theorem lookup_eq_current (m : LoggedMap κ ν) (k : κ) : m.lookup k = MapWrite.current k m.log :=
  m.entries_eq k

end LoggedMap
