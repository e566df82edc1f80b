import Mathlib.Data.List.Basic

/-! A reader takes pieces off a buffer as long as it can, step by step, and gets more
input in between. When no step changes its mind as more input comes, how the
input is cut does not matter. -/

namespace Streaming

/-- What a reader does next: it waits in some state, it breaks down, or it gives
out pieces and goes on. -/
inductive Step (σ β : Type*) where
  | wait (state : σ)
  | fail
  | next (pieces : List β) (state : σ)

/-- A reader whose steps come to an end. -/
structure Reader (α σ β : Type*) where
  feed : List α → σ → σ
  step : σ → Step σ β
  measure : σ → Nat
  feed_append : ∀ xs ys state, feed (xs ++ ys) state = feed ys (feed xs state)
  decreases : ∀ {state pieces after}, step state = .next pieces after → measure after < measure state

namespace Reader

variable {α σ β : Type*} (reader : Reader α σ β)

def runFor : Nat → σ → Option (List β × σ)
  | 0, state => some ([], state)
  | fuel + 1, state =>
    match reader.step state with
    | .wait after => some ([], after)
    | .fail => none
    | .next pieces after =>
      (runFor fuel after).map fun (rest, last) => (pieces ++ rest, last)

/-- Step until the reader waits. -/
def run (state : σ) : Option (List β × σ) := reader.runFor (reader.measure state + 1) state

/-- Take more input and step until the reader waits. -/
def push (data : List α) (state : σ) : Option (List β × σ) := reader.run (reader.feed data state)

variable {state last : σ} {pieces : List β}

theorem runFor_enough {fuel : Nat} (hFuel : reader.measure state < fuel) :
  reader.runFor fuel state = reader.run state := by
  suffices hMore : ∀ fuel more state, reader.measure state < fuel → fuel ≤ more →
      reader.runFor more state = reader.runFor fuel state by
    exact hMore _ _ state (Nat.lt_succ_self _) hFuel
  intro fuel
  induction fuel with
  | zero => intro more state hBelow; omega
  | succ fuel ih =>
    intro more state hBelow hMore
    obtain ⟨more, rfl⟩ : ∃ fewer, more = fewer + 1 := ⟨more - 1, by omega⟩
    unfold runFor
    cases hStep : reader.step state with
    | wait after => rfl
    | fail => rfl
    | next pieces after =>
      have hLess := reader.decreases hStep
      simp only [ih more after (by omega) (by omega)]

theorem run_eq (state : σ) :
  reader.run state =
    match reader.step state with
      | .wait after => some ([], after)
      | .fail => none
      | .next pieces after =>
        (reader.run after).map fun (rest, last) => (pieces ++ rest, last) := by
  rw [run, runFor]
  cases hStep : reader.step state with
  | wait after => rfl
  | fail => rfl
  | next pieces after =>
    have hLess := reader.decreases hStep
    simp only [reader.runFor_enough hLess]

/-- A reader that never breaks down always comes to wait. -/
theorem run_isSome (hNever : ∀ state, reader.step state ≠ .fail) (state : σ) :
  ∃ done, reader.run state = some done := by
  induction hMeasure : reader.measure state using Nat.strongRecOn generalizing state with
  | _ bound ih =>
    rw [reader.run_eq state]
    cases hStep : reader.step state with
    | wait after => exact ⟨_, rfl⟩
    | fail => exact absurd hStep (hNever state)
    | next pieces after =>
      have hLess := reader.decreases hStep
      obtain ⟨done, hRun⟩ := ih _ (by omega) after rfl
      exact ⟨_, congrArg (Option.map _) hRun⟩

/-- The states in which a run takes its steps, the last one included. -/
inductive Visits (reader : Reader α σ β) : σ → σ → Prop
  | here (state : σ) : Visits reader state state
  | next {state after visited : σ} {pieces : List β}
      (hStep : reader.step state = .next pieces after) (hLater : Visits reader after visited) :
      Visits reader state visited

/-- Steps from the states of `Good` are not changed by more input. -/
structure Stable (Good : σ → Prop) : Prop where
  feed : ∀ {state} data, Good state → Good (reader.feed data state)
  wait : ∀ {state after}, Good state → reader.step state = .wait after → after = state
  fail : ∀ {state} data, Good state → reader.step state = .fail →
    reader.step (reader.feed data state) = .fail
  next : ∀ {state pieces after}, Good state → reader.step state = .next pieces after →
    Good after ∧ ∀ data, reader.step (reader.feed data state) = .next pieces (reader.feed data after)

variable {reader} {Good : σ → Prop}

theorem run_induction (reader : Reader α σ β) {motive : σ → Prop}
  (hStep : ∀ state, (∀ pieces after, reader.step state = .next pieces after → motive after) →
    motive state) (state : σ) : motive state := by
  induction hMeasure : reader.measure state using Nat.strongRecOn generalizing state with
  | _ bound ih =>
    refine hStep state fun pieces after hNext => ?_
    have hLess := reader.decreases hNext
    exact ih _ (by omega) after rfl

/-- A run that comes to its end, step by step. -/
theorem run_steps {motive : σ → List β → σ → Prop}
  (hWait : ∀ {state after}, reader.step state = .wait after → motive state [] after)
  (hNext : ∀ {state out after rest last}, reader.step state = .next out after →
    motive after rest last → motive state (out ++ rest) last)
  (hRun : reader.run state = some (pieces, last)) : motive state pieces last := by
  induction state using run_induction reader generalizing pieces with
  | hStep state ih =>
    rw [reader.run_eq state] at hRun
    cases hStep : reader.step state with
    | wait after =>
      simp only [hStep, Option.some.injEq, Prod.mk.injEq] at hRun
      obtain ⟨rfl, rfl⟩ := hRun
      exact hWait hStep
    | fail => simp [hStep] at hRun
    | next out after =>
      simp only [hStep, Option.map_eq_some_iff] at hRun
      obtain ⟨⟨rest, last'⟩, hRest, hEq⟩ := hRun
      cases hEq
      exact hNext hStep (ih out after hStep hRest)

/-- A run ends in a state that the reader waits in. -/
theorem run_waits (hRun : reader.run state = some (pieces, last)) :
  ∃ before, reader.step before = .wait last :=
  run_steps (motive := fun _ _ last => ∃ before, reader.step before = .wait last)
    (fun hStep => ⟨_, hStep⟩) (fun _ hRest => hRest) hRun

/-- What every step keeps, a run keeps. -/
theorem run_preserves {P : σ → Prop}
  (hWait : ∀ {state after}, P state → reader.step state = .wait after → P after)
  (hNext : ∀ {state pieces after}, P state → reader.step state = .next pieces after → P after)
  {state last : σ} {pieces : List β} (hState : P state)
  (hRun : reader.run state = some (pieces, last)) : P last :=
  run_steps (motive := fun state _ last => P state → P last)
    (fun hStep hState => hWait hState hStep)
    (fun hStep hRest hState => hRest (hNext hState hStep)) hRun hState

/-- All pieces of a run are good when no visited state gives a bad one. -/
theorem run_pieces_iff {P : β → Prop} {Q : σ → Prop}
  (hNext : ∀ {state pieces after}, reader.step state = .next pieces after →
    ((∀ piece ∈ pieces, P piece) ↔ Q state))
  (hWait : ∀ {state after}, reader.step state = .wait after → Q state)
  (hRun : reader.run state = some (pieces, last)) :
  (∀ piece ∈ pieces, P piece) ↔ ∀ visited, reader.Visits state visited → Q visited := by
  refine run_steps (motive := fun state pieces _ => (∀ piece ∈ pieces, P piece) ↔
    ∀ visited, reader.Visits state visited → Q visited) ?_ ?_ hRun
  · intro state after hStep
    refine iff_of_true (by simp) fun visited hVisits => ?_
    cases hVisits with
    | here => exact hWait hStep
    | next hOther => rw [hStep] at hOther; cases hOther
  · intro state out after rest last hStep hRest
    rw [List.forall_mem_append, hNext hStep, hRest]
    constructor
    · rintro ⟨hHere, hLater⟩ visited hVisits
      cases hVisits with
      | here => exact hHere
      | next hOther hVisits =>
        obtain ⟨-, rfl⟩ := Step.next.inj (hStep.symm.trans hOther)
        exact hLater visited hVisits
    · intro hAll
      exact ⟨hAll state (.here state), fun visited hVisits =>
        hAll visited (.next hStep hVisits)⟩

section

variable (hStable : reader.Stable Good)
include hStable

theorem Stable.run_feed (hGood : Good state) (data : List α) :
  reader.run (reader.feed data state) =
    (reader.run state).bind fun (first, middle) =>
      (reader.run (reader.feed data middle)).map fun (second, last) => (first ++ second, last) := by
  induction state using run_induction reader with
  | hStep state ih =>
    rw [reader.run_eq state]
    cases hStep : reader.step state with
    | wait after =>
      obtain rfl := hStable.wait hGood hStep
      simp
    | fail =>
      rw [reader.run_eq, hStable.fail data hGood hStep]
      rfl
    | next pieces after =>
      obtain ⟨hAfter, hFeed⟩ := hStable.next hGood hStep
      rw [reader.run_eq, hFeed data]
      simp only [ih pieces after hStep hAfter]
      cases reader.run after with
      | none => rfl
      | some done => simp [Function.comp_def]

theorem Stable.run_good (hGood : Good state)
  (hRun : reader.run state = some (pieces, last)) : Good last :=
  run_preserves (fun hGood hStep => hStable.wait hGood hStep ▸ hGood)
    (fun hGood hStep => (hStable.next hGood hStep).1) hGood hRun

theorem Stable.push_good {data : List α} (hGood : Good state)
  (hPush : reader.push data state = some (pieces, last)) :
  Good last := hStable.run_good (hStable.feed data hGood) hPush

theorem Stable.push_append {state : σ} (hGood : Good state)
  (xs ys : List α) :
  reader.push (xs ++ ys) state =
    (reader.push xs state).bind fun (first, middle) =>
      (reader.push ys middle).map fun (second, last) => (first ++ second, last) := by
  have hFed := hStable.feed xs hGood
  rw [push, reader.feed_append, hStable.run_feed hFed ys]
  rfl

/-- What every step hands on, a run hands on. -/
theorem Stable.run_content {γ : Type*} {content : σ → List γ}
  {text : List β → List γ} (hNil : text [] = [])
  (hAppend : ∀ xs ys, text (xs ++ ys) = text xs ++ text ys)
  (hStep : ∀ {state pieces after}, Good state → reader.step state = .next pieces after →
    text pieces ++ content after = content state) (hGood : Good state)
  (hRun : reader.run state = some (pieces, last)) :
  text pieces ++ content last = content state := by
  refine run_steps (motive := fun state pieces last => Good state →
    text pieces ++ content last = content state) ?_ ?_ hRun hGood
  · intro state after hCase hGood
    rw [hNil, hStable.wait hGood hCase]
    rfl
  · intro state out after rest last hCase hRest hGood
    rw [hAppend, List.append_assoc, hRest (hStable.next hGood hCase).1, hStep hGood hCase]

end

end Reader

end Streaming
