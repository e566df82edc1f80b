import Mathlib.Data.List.Induction
import Mathlib.Data.List.Nodup
import Mathlib.Data.Prod.Lex

/-! A loop keeps the best candidate it has seen and replaces it only by a better
one: it ends with the earliest of the best candidates. -/

namespace Selection

variable {α β : Type} [LinearOrder β] (score : α → β)

/-- Replace the best candidate by a better one. -/
def keepBetter (best : Option α) (candidate : α) : Option α :=
  match best with
  | none => some candidate
  | some current => if score current < score candidate then some candidate else some current

/-- The earliest of the best candidates. -/
def firstBest (candidates : List α) : Option α := candidates.foldl (keepBetter score) none

/-- No earlier candidate is as good, and no later one is better. -/
def IsFirstBest (candidates : List α) (best : α) : Prop :=
  ∃ before after, candidates = before ++ best :: after ∧
    (∀ candidate ∈ before, score candidate < score best) ∧
      ∀ candidate ∈ after, score candidate ≤ score best

variable {score} {candidates : List α} {best : α}

theorem firstBest_append (candidates : List α) (candidate : α) :
  firstBest score (candidates ++ [candidate]) =
    keepBetter score (firstBest score candidates) candidate := by
  unfold firstBest
  rw [List.foldl_append]
  rfl

theorem firstBest_eq_none : firstBest score candidates = none ↔ candidates = [] := by
  constructor
  · intro hNone
    induction candidates using List.reverseRecOn with
    | nil => rfl
    | append_singleton candidates candidate _ =>
      rw [firstBest_append] at hNone
      unfold keepBetter at hNone
      split at hNone
      · cases hNone
      split at hNone
      · cases hNone
      · cases hNone
  · rintro rfl
    rfl

/-- What the loop ends with is the earliest of the best candidates. -/
theorem isFirstBest_of_firstBest (hBest : firstBest score candidates = some best) :
  IsFirstBest score candidates best := by
  induction candidates using List.reverseRecOn generalizing best with
  | nil => cases hBest
  | append_singleton candidates candidate ih =>
    rw [firstBest_append] at hBest
    cases hPrevious : firstBest score candidates with
    | none =>
      rw [hPrevious] at hBest
      obtain rfl : candidate = best := Option.some.inj hBest
      obtain rfl := firstBest_eq_none.1 hPrevious
      exact ⟨[], [], rfl, by simp, by simp⟩
    | some previous =>
      obtain ⟨before, after, rfl, hBefore, hAfter⟩ := ih hPrevious
      rw [hPrevious] at hBest
      unfold keepBetter at hBest
      dsimp only at hBest
      split at hBest
      case isTrue hBetter =>
        obtain rfl : candidate = best := Option.some.inj hBest
        refine ⟨before ++ previous :: after, [], rfl, ?_, by simp⟩
        intro other hMem
        rcases List.mem_append.1 hMem with hMem | hMem
        · exact (hBefore other hMem).trans hBetter
        rcases List.mem_cons.1 hMem with rfl | hMem
        · exact hBetter
        · exact (hAfter other hMem).trans_lt hBetter
      case isFalse hWorse =>
        obtain rfl : previous = best := Option.some.inj hBest
        refine ⟨before, after ++ [candidate], by simp, hBefore, ?_⟩
        intro other hMem
        rcases List.mem_append.1 hMem with hMem | hMem
        · exact hAfter other hMem
        · obtain rfl := List.mem_singleton.1 hMem
          exact not_lt.1 hWorse

/-- The best candidate, when the scores are distinct. -/
theorem firstBest_eq_some_iff (hScores : (candidates.map score).Nodup) :
  firstBest score candidates = some best ↔
    best ∈ candidates ∧ ∀ candidate ∈ candidates, candidate ≠ best →
      score candidate < score best := by
  constructor
  · intro hBest
    obtain ⟨before, after, rfl, hBefore, hAfter⟩ := isFirstBest_of_firstBest hBest
    refine ⟨by simp, fun candidate hMem hNe => ?_⟩
    rcases List.mem_append.1 hMem with hMem | hMem
    · exact hBefore candidate hMem
    have hLater := (List.mem_cons.1 hMem).resolve_left hNe
    refine lt_of_le_of_ne (hAfter candidate hLater) fun hSame => hNe ?_
    exact List.inj_on_of_nodup_map hScores (by simp [hLater]) (by simp) hSame
  · rintro ⟨hMem, hAll⟩
    cases hFound : firstBest score candidates with
    | none =>
      rw [firstBest_eq_none.1 hFound] at hMem
      cases hMem
    | some found =>
      obtain ⟨before, after, rfl, hBefore, hAfter⟩ := isFirstBest_of_firstBest hFound
      by_contra hNe
      have hOther : found ≠ best := fun hSame => hNe (congrArg some hSame)
      have hLess := hAll found (by simp) hOther
      rcases List.mem_append.1 hMem with hMem | hMem
      · exact lt_asymm hLess (hBefore best hMem)
      rcases List.mem_cons.1 hMem with rfl | hMem
      · exact hOther rfl
      · exact not_lt.2 (hAfter best hMem) hLess

/-- With distinct scores, the order of the candidates does not matter. -/
theorem firstBest_perm {other : List α} (hScores : (candidates.map score).Nodup)
  (hPerm : candidates.Perm other) : firstBest score candidates = firstBest score other := by
  have hOther : (other.map score).Nodup := (hPerm.map score).nodup_iff.1 hScores
  cases hFound : firstBest score candidates with
  | none =>
    obtain rfl := firstBest_eq_none.1 hFound
    obtain rfl : other = [] := hPerm.nil_eq.symm
    rfl
  | some found =>
    obtain ⟨hMem, hAll⟩ := (firstBest_eq_some_iff hScores).1 hFound
    exact ((firstBest_eq_some_iff hOther).2 ⟨hPerm.mem_iff.1 hMem, fun candidate hCandidate =>
      hAll candidate (hPerm.mem_iff.2 hCandidate)⟩).symm

end Selection
