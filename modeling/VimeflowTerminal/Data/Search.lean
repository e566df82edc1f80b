import Mathlib.Data.List.Basic

/-! What is found in the beginning of a list is found at the same place when the
list goes on. -/

namespace Search

variable {α : Type*} [DecidableEq α]

/-- Where a list that is not empty begins in another, for the first time. -/
def findSubsequence (needle : List α) : List α → Option Nat
  | [] => none
  | x :: rest =>
    if needle <+: x :: rest then some 0 else (findSubsequence needle rest).map (· + 1)

variable {text needle : List α} {index : Nat} {p : α → Bool}

omit [DecidableEq α] in
theorem prefix_append_iff {start : List α} (hLength : start.length ≤ text.length) (more : List α) :
  start <+: text ++ more ↔ start <+: text := by
  constructor
  · intro hPrefix
    exact List.prefix_of_prefix_length_le hPrefix (List.prefix_append text more) hLength
  · intro hPrefix
    exact List.prefix_append_of_prefix hPrefix

theorem findSubsequence_bound (hFound : findSubsequence needle text = some index) :
  index + needle.length ≤ text.length := by
  induction text generalizing index with
  | nil => cases hFound
  | cons x rest ih =>
    rw [findSubsequence] at hFound
    split at hFound
    case isTrue hPrefix =>
      cases hFound
      have hLength := hPrefix.length_le
      omega
    case isFalse =>
      obtain ⟨before, hBefore, rfl⟩ := Option.map_eq_some_iff.1 hFound
      have hRest := ih hBefore
      rw [List.length_cons]
      omega

theorem findSubsequence_append (hFound : findSubsequence needle text = some index) (more : List α) :
  findSubsequence needle (text ++ more) = some index := by
  induction text generalizing index with
  | nil => cases hFound
  | cons x rest ih =>
    have hBound := findSubsequence_bound hFound
    have hSame := prefix_append_iff (show needle.length ≤ (x :: rest).length by omega) more
    rw [List.cons_append] at hSame
    rw [findSubsequence] at hFound
    rw [List.cons_append, findSubsequence, if_congr hSame rfl rfl]
    split at hFound
    case isTrue hPrefix => rw [if_pos hPrefix, hFound]
    case isFalse hNot =>
      obtain ⟨before, hBefore, rfl⟩ := Option.map_eq_some_iff.1 hFound
      rw [if_neg hNot, ih hBefore]
      rfl

/-- What is not found before more comes ends in what comes. -/
theorem findSubsequence_late (hNeedle : needle ≠ []) (hNone : findSubsequence needle text = none)
  {more : List α} (hFound : findSubsequence needle (text ++ more) = some index) :
  text.length < index + needle.length := by
  induction text generalizing index with
  | nil =>
    have hPos := List.length_pos_iff.2 hNeedle
    rw [List.length_nil]
    omega
  | cons x rest ih =>
    rw [findSubsequence] at hNone
    rw [List.cons_append, findSubsequence] at hFound
    split at hNone
    case isTrue => cases hNone
    case isFalse hNot =>
      split at hFound
      case isTrue hPrefix =>
        cases hFound
        by_contra hShort
        have hLong : needle.length ≤ (x :: rest).length := by omega
        exact hNot ((prefix_append_iff hLong more).1 hPrefix)
      case isFalse =>
        obtain ⟨before, hBefore, rfl⟩ := Option.map_eq_some_iff.1 hFound
        have hRest := ih (Option.map_eq_none_iff.1 hNone) hBefore
        rw [List.length_cons]
        omega

omit [DecidableEq α] in
theorem findIdx?_append (hFound : text.findIdx? p = some index) (more : List α) :
  (text ++ more).findIdx? p = some index := by
  rw [List.findIdx?_append, hFound, Option.some_or]

omit [DecidableEq α] in
theorem findIdx?_bound (hFound : text.findIdx? p = some index) : index < text.length := by
  rw [List.findIdx?_eq_some_iff_getElem] at hFound
  exact hFound.1

theorem findSubsequence_spec (hFound : findSubsequence needle text = some index) :
  ∃ before behind, text = before ++ (needle ++ behind) ∧ before.length = index := by
  induction text generalizing index with
  | nil => cases hFound
  | cons x rest ih =>
    rw [findSubsequence] at hFound
    split at hFound
    case isTrue hPrefix =>
      obtain ⟨behind, hBehind⟩ := hPrefix
      cases hFound
      exact ⟨[], behind, hBehind.symm, rfl⟩
    case isFalse =>
      obtain ⟨earlier, hEarlier, rfl⟩ := Option.map_eq_some_iff.1 hFound
      obtain ⟨before, behind, rfl, rfl⟩ := ih hEarlier
      exact ⟨x :: before, behind, rfl, rfl⟩

/-- What is found is found in the part up to its end. -/
theorem findSubsequence_take (hNeedle : needle ≠ [])
  (hFound : findSubsequence needle text = some index) :
  findSubsequence needle (text.take (index + needle.length)) = some index := by
  induction text generalizing index with
  | nil => cases hFound
  | cons x rest ih =>
    have hBound := findSubsequence_bound hFound
    rw [findSubsequence] at hFound
    split at hFound
    case isTrue hPrefix =>
      cases hFound
      rw [Nat.zero_add] at hBound ⊢
      have hTake : (x :: rest).take needle.length = needle :=
        (List.prefix_iff_eq_take.1 hPrefix).symm
      rw [hTake]
      cases needle with
      | nil => exact absurd rfl hNeedle
      | cons y needle => exact if_pos (List.prefix_refl _)
    case isFalse hNot =>
      obtain ⟨before, hBefore, rfl⟩ := Option.map_eq_some_iff.1 hFound
      rw [Nat.succ_add, List.take_succ_cons, findSubsequence, if_neg, ih hBefore]
      · rfl
      · intro hPrefix
        exact hNot (hPrefix.trans ((List.prefix_cons_inj x).2 (List.take_prefix _ _)))

omit [DecidableEq α] in
theorem findIdx?_spec (hFound : text.findIdx? p = some index) :
  ∃ before x behind, text = before ++ x :: behind ∧ before.length = index ∧ p x = true := by
  obtain ⟨hBound, hHolds, -⟩ := List.findIdx?_eq_some_iff_getElem.1 hFound
  refine ⟨text.take index, text[index], text.drop (index + 1), ?_, ?_, hHolds⟩
  · rw [List.getElem_cons_drop, List.take_append_drop]
  · exact List.length_take_of_le (Nat.le_of_lt hBound)

omit [DecidableEq α] in
theorem findIdx?_take (hFound : text.findIdx? p = some index) :
  (text.take (index + 1)).findIdx? p = some index := by
  rw [List.findIdx?_take, hFound]
  simp [Option.guard]

end Search
