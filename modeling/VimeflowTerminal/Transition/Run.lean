import Mathlib.Data.List.Induction

/-! Finite runs of a labelled step relation, the invariant rules for them, and
runs whose steps all meet a condition on the state before the step. -/

namespace Transition

variable {σ α : Type*}

/-- The run performs the listed labels in order. -/
inductive Run (Step : σ → α → σ → Prop) : σ → List α → σ → Prop where
  | zero (s : σ) : Run Step s [] s
  | succ {s t u : σ} {labels : List α} {label : α}
      (prior : Run Step s labels t) (last : Step t label u) :
      Run Step s (labels ++ [label]) u

/-- The step relation of a total step function. -/
def ofFunction (step : σ → α → σ) (s : σ) (label : α) (t : σ) : Prop := t = step s label

/-- The step relation of a step function that may refuse a label. -/
def ofPartial (step : σ → α → Option σ) (s : σ) (label : α) (t : σ) : Prop :=
  step s label = some t

/-- Steps of `Step` taken only where `Allowed` holds of the state and the label. -/
def restrict (Step : σ → α → σ → Prop) (Allowed : σ → α → Prop) (s : σ) (label : α) (t : σ) :
  Prop :=
  Step s label t ∧ Allowed s label

variable {Step : σ → α → σ → Prop}

theorem Run.preserves {Inv : σ → Prop} {s t : σ} {labels : List α}
  (run : Run Step s labels t) (hInit : Inv s)
  (hStep : ∀ u label v, Inv u → Step u label v → Inv v) : Inv t := by
  induction run with
  | zero => exact hInit
  | succ prior last ih => exact hStep _ _ _ ih last

variable {s t : σ} {labels : List α} {Allowed : σ → α → Prop} {step : σ → α → Option σ}

theorem Run.preserves_history {Inv : List α → σ → Prop} (run : Run Step s labels t)
  (hInit : Inv [] s)
  (hStep : ∀ history u label v, Inv history u → Step u label v → Inv (history ++ [label]) v) :
  Inv labels t := by
  induction run with
  | zero => exact hInit
  | succ prior last ih => exact hStep _ _ _ _ ih last

theorem Run.preserves_of_mem {Inv : σ → Prop} {Label : α → Prop} {s t : σ} {labels : List α}
  (run : Run Step s labels t) (hLabels : ∀ label ∈ labels, Label label) (hInit : Inv s)
  (hStep : ∀ u label v, Label label → Inv u → Step u label v → Inv v) : Inv t := by
  induction run with
  | zero => exact hInit
  | succ prior last ih =>
    have hPrior := ih fun label hMem => hLabels label (List.mem_append_left _ hMem)
    exact hStep _ _ _ (hLabels _ (by simp)) hPrior last

theorem Run.trans {u : σ} {first second : List α} (left : Run Step s first t)
  (right : Run Step t second u) : Run Step s (first ++ second) u := by
  induction right with
  | zero => simpa using left
  | succ prior last ih => simpa [List.append_assoc] using Run.succ ih last

theorem Run.single {label : α} (hStep : Step s label t) : Run Step s [label] t := by
  simpa using Run.succ (Run.zero s) hStep

theorem Run.mono {Step' : σ → α → σ → Prop} (run : Run Step s labels t)
  (hImp : ∀ u label v, Step u label v → Step' u label v) : Run Step' s labels t := by
  induction run with
  | zero => exact Run.zero _
  | succ prior last ih => exact Run.succ ih (hImp _ _ _ last)

theorem Run.of_restrict (run : Run (restrict Step Allowed) s labels t) : Run Step s labels t := by
  induction run with
  | zero => exact Run.zero _
  | succ prior last ih => exact Run.succ ih last.1

/-- Each label in turn is allowed in the state the labels before it lead to. -/
def AllowedAlong (step : σ → α → σ) (Allowed : σ → α → Prop) (s : σ) : List α → Prop
  | [] => True
  | label :: labels => Allowed s label ∧ AllowedAlong step Allowed (step s label) labels

instance AllowedAlong.decidable (step : σ → α → σ) (Allowed : σ → α → Prop)
  [∀ s label, Decidable (Allowed s label)] (s : σ) :
  (labels : List α) → Decidable (AllowedAlong step Allowed s labels)
  | [] => isTrue trivial
  | label :: labels =>
    have := AllowedAlong.decidable step Allowed (step s label) labels
    inferInstanceAs (Decidable (_ ∧ _))

theorem run_of_allowedAlong {step : σ → α → σ} (h : AllowedAlong step Allowed s labels) :
  Run (restrict (ofFunction step) Allowed) s labels (labels.foldl step s) := by
  induction labels generalizing s with
  | nil => exact Run.zero s
  | cons label labels ih => exact (Run.single ⟨rfl, h.1⟩).trans (ih h.2)

/-- Labels accepted one after the other make up a run. -/
theorem run_of_foldlM (hFold : labels.foldlM step s = some t) :
  Run (ofPartial step) s labels t := by
  induction labels generalizing s with
  | nil =>
    rw [List.foldlM_nil] at hFold
    cases hFold
    exact Run.zero t
  | cons label labels ih =>
    rw [List.foldlM_cons] at hFold
    obtain ⟨u, hFirst, hRest⟩ := Option.bind_eq_some_iff.1 hFold
    exact (Run.single hFirst).trans (ih hRest)

/-- The steps of a step function that the condition allows. -/
def guarded (step : σ → α → Option σ) (Allowed : σ → α → Prop)
  [∀ s label, Decidable (Allowed s label)] (s : σ) (label : α) : Option σ :=
  if Allowed s label then step s label else none

theorem run_of_guarded [∀ s label, Decidable (Allowed s label)]
  (hFold : labels.foldlM (guarded step Allowed) s = some t) :
  Run (restrict (ofPartial step) Allowed) s labels t := by
  refine (run_of_foldlM hFold).mono ?_
  intro u label v hStep
  obtain ⟨hAllowed, hTaken⟩ := Option.ite_none_right_eq_some.1 hStep
  exact ⟨hTaken, hAllowed⟩

/-- The state a list of accepted labels leads to. -/
def reached (step : σ → α → Option σ) (s : σ) (labels : List α) : σ :=
  (labels.foldlM step s).getD s

theorem run_reached (hDone : (labels.foldlM step s).isSome) :
  Run (ofPartial step) s labels (reached step s labels) := by
  obtain ⟨t, hFold⟩ := Option.isSome_iff_exists.1 hDone
  rw [reached, hFold]
  exact run_of_foldlM hFold

/-- Accepted labels make up a restricted run if each is allowed where the ones before it lead. -/
theorem run_reached_restrict (hDone : (labels.foldlM step s).isSome)
  (hAllowed : ∀ i (hi : i < labels.length), Allowed (reached step s (labels.take i)) labels[i]) :
  Run (restrict (ofPartial step) Allowed) s labels (reached step s labels) := by
  induction labels using List.reverseRecOn with
  | nil => exact Run.zero s
  | append_singleton labels label ih =>
    obtain ⟨u, hFold⟩ := Option.isSome_iff_exists.1 hDone
    rw [List.foldlM_append] at hFold
    obtain ⟨t, hPrior, hLast⟩ := Option.bind_eq_some_iff.1 hFold
    rw [List.foldlM_cons] at hLast
    obtain ⟨v, hStep, hEnd⟩ := Option.bind_eq_some_iff.1 hLast
    have hReached : reached step s labels = t := by simp [reached, hPrior]
    have hAll : reached step s (labels ++ [label]) = v := by
      simp [reached, List.foldlM_append, hPrior, hStep]
    rw [hAll]
    refine Run.succ (ih (by simp [hPrior]) ?_) ⟨?_, ?_⟩
    · intro i hi
      have hEarlier := hAllowed i (by rw [List.length_append]; omega)
      rwa [List.take_append_of_le_length (by omega), List.getElem_append_left hi] at hEarlier
    · rw [hReached]
      exact hStep
    · simpa using hAllowed labels.length (by simp)

theorem run_reached_guarded [∀ s label, Decidable (Allowed s label)]
  (hDone : (labels.foldlM (guarded step Allowed) s).isSome) :
  Run (restrict (ofPartial step) Allowed) s labels (reached (guarded step Allowed) s labels) := by
  obtain ⟨t, hFold⟩ := Option.isSome_iff_exists.1 hDone
  rw [reached, hFold]
  exact run_of_guarded hFold

/-- A total step function has exactly one run for each list of labels. -/
theorem run_ofFunction_iff (step : σ → α → σ) :
  Run (ofFunction step) s labels t ↔ t = labels.foldl step s := by
  constructor
  · intro run
    induction run with
    | zero => rfl
    | succ prior last ih =>
      subst ih
      simpa [ofFunction] using last
  · rintro rfl
    induction labels using List.reverseRecOn with
    | nil => exact Run.zero s
    | append_singleton labels label ih =>
      rw [List.foldl_append]
      exact Run.succ ih rfl

/-- Two step functions stay related along labels exactly if the condition that decides it for one
step holds along the labels. -/
theorem related_along_iff {τ : Type*} {step : σ → α → σ} {other : τ → α → τ}
  {Related : σ → τ → Prop} {Condition : τ → α → Prop} (hStep : ∀ s t label, Related s t →
    (Related (step s label) (other t label) ↔ Condition t label)) {t : τ}
  (hRelated : Related s t) (labels : List α) :
  (∀ front, front <+: labels → Related (front.foldl step s) (front.foldl other t)) ↔
    AllowedAlong other Condition t labels := by
  induction labels generalizing s t with
  | nil =>
    refine ⟨fun _ => trivial, fun _ front hFront => ?_⟩
    obtain rfl := List.prefix_nil.1 hFront
    exact hRelated
  | cons label labels ih =>
    constructor
    · intro hAll
      have hNext := hAll [label] ⟨labels, rfl⟩
      refine ⟨(hStep s t label hRelated).1 hNext, (ih hNext).1 fun front hFront => ?_⟩
      exact hAll (label :: front) (List.cons_prefix_cons.2 ⟨rfl, hFront⟩)
    · rintro ⟨hCondition, hRest⟩ front hFront
      have hNext := (hStep s t label hRelated).2 hCondition
      cases front with
      | nil => exact hRelated
      | cons first front =>
        obtain ⟨rfl, hBehind⟩ := List.cons_prefix_cons.1 hFront
        exact (ih hNext).2 hRest front hBehind

end Transition
