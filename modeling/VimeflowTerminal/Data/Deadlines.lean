import Mathlib.Data.List.ReduceOption
import Mathlib.Order.MinMax

/-! Optional points in time, as a loop keeps them that sleeps until the earliest. A deadline
is due when it has passed and later when it is absent or still to come. The loop does
not spin when whatever is due before its tasks is later after them. -/

namespace Deadlines

variable {τ : Type*} [LinearOrder τ] {now : τ}

/-- The deadline has passed. -/
def Due (now : τ) (deadline : Option τ) : Prop := (deadline.any fun d => d ≤ now) = true

instance (now : τ) (deadline : Option τ) : Decidable (Due now deadline) :=
  inferInstanceAs (Decidable (_ = true))

/-- The deadline is absent or still to come. -/
def Later (now : τ) (deadline : Option τ) : Prop := ∀ d, deadline = some d → now < d

@[simp] theorem not_due_none : ¬ Due now none := by simp [Due]

@[simp] theorem due_some {d : τ} : Due now (some d) ↔ d ≤ now := by simp [Due]

@[simp] theorem later_none : Later now none := by simp [Later]

@[simp] theorem later_some {d : τ} : Later now (some d) ↔ now < d := by simp [Later]

variable {deadline : Option τ}

theorem due_iff : Due now deadline ↔ ∃ d, deadline = some d ∧ d ≤ now := by
  cases deadline <;> simp

theorem not_due_iff : ¬ Due now deadline ↔ Later now deadline := by
  cases deadline <;> simp

theorem Later.not_due (h : Later now deadline) : ¬ Due now deadline :=
  not_due_iff.2 h

/-- The first of several deadlines. -/
def earliest (deadlines : List (Option τ)) : Option τ := deadlines.reduceOption.min?

theorem due_min? {times : List τ} : Due now times.min? ↔ ∃ d ∈ times, d ≤ now := by
  rw [due_iff]
  constructor
  · rintro ⟨d, hMin, hDue⟩
    exact ⟨d, List.min?_mem hMin, hDue⟩
  · rintro ⟨d, hMem, hDue⟩
    obtain ⟨first, hMin⟩ : ∃ first, times.min? = some first := by
      cases hMin : times.min? with
      | none => simp [List.min?_eq_none_iff.1 hMin] at hMem
      | some first => exact ⟨first, rfl⟩
    have hLe : first ≤ d := (List.min?_eq_some_iff.1 hMin).2 d hMem
    exact ⟨first, hMin, hLe.trans hDue⟩

theorem later_min? {times : List τ} : Later now times.min? ↔ ∀ d ∈ times, now < d := by
  rw [← not_due_iff, due_min?]
  simp only [not_exists, not_and, not_le]

theorem later_earliest {deadlines : List (Option τ)} :
  Later now (earliest deadlines) ↔ ∀ deadline ∈ deadlines, Later now deadline := by
  unfold earliest
  rw [later_min?]
  constructor
  · rintro hAll deadline hMem d rfl
    exact hAll d (List.reduceOption_mem_iff.2 hMem)
  · intro hAll d hMem
    exact hAll (some d) (List.reduceOption_mem_iff.1 hMem) d rfl

end Deadlines
