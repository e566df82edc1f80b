import VimeflowTerminal.Transition.Run

/-! A machine that reads symbols and gives one output for each. Its input may come in pieces;
two machines are compared along an input by a relation between their states. -/

namespace Mealy

open Transition

variable {σ τ α β : Type*}

/-- The state after one symbol. -/
def next (step : σ → α → σ × β) (state : σ) (symbol : α) : σ := (step state symbol).1

/-- The state after a list of symbols. -/
def after (step : σ → α → σ × β) (state : σ) (symbols : List α) : σ :=
  symbols.foldl (next step) state

def outputs (step : σ → α → σ × β) : σ → List α → List β
  | _, [] => []
  | state, symbol :: symbols =>
    (step state symbol).2 :: outputs step (next step state symbol) symbols

variable {step : σ → α → σ × β} {other : τ → α → τ × β}

@[simp] theorem length_outputs (state : σ) (symbols : List α) :
  (outputs step state symbols).length = symbols.length := by
  induction symbols generalizing state with
  | nil => rfl
  | cons symbol symbols ih => simp [outputs, ih]

theorem outputs_append (state : σ) (first second : List α) :
  outputs step state (first ++ second) =
    outputs step state first ++ outputs step (after step state first) second := by
  induction first generalizing state with
  | nil => rfl
  | cons symbol first ih => simp [outputs, after, ih]

theorem after_append_singleton (state : σ) (symbols : List α) (symbol : α) :
  after step state (symbols ++ [symbol]) = next step (after step state symbols) symbol := by
  rw [after, List.foldl_append]
  rfl

theorem getElem?_outputs (state : σ) (symbols : List α) (i : Nat) :
  (outputs step state symbols)[i]? =
    symbols[i]?.map fun symbol => (step (after step state (symbols.take i)) symbol).2 := by
  induction symbols generalizing state i with
  | nil => rfl
  | cons symbol symbols ih =>
    cases i with
    | zero => rfl
    | succ i => exact ih (next step state symbol) i

/-- Related machines give the same outputs along an input exactly if a condition on the first
holds along it: the condition decides each output and, where it holds, keeps the relation. -/
theorem outputs_eq_iff {Related : σ → τ → Prop} {Domain Condition : σ → α → Prop}
  (hStep : ∀ s t symbol, Related s t → Domain s symbol →
    ((step s symbol).2 = (other t symbol).2 ↔ Condition s symbol) ∧
      (Condition s symbol → Related (next step s symbol) (next other t symbol)))
  {s : σ} {t : τ} {symbols : List α} (hRelated : Related s t)
  (hDomain : AllowedAlong (next step) Domain s symbols) :
  outputs step s symbols = outputs other t symbols ↔
    AllowedAlong (next step) Condition s symbols := by
  induction symbols generalizing s t with
  | nil => simp [outputs, AllowedAlong]
  | cons symbol symbols ih =>
    obtain ⟨hSame, hKept⟩ := hStep s t symbol hRelated hDomain.1
    rw [outputs, outputs, List.cons.injEq, AllowedAlong, hSame]
    refine and_congr_right fun hCondition => ?_
    exact ih (hKept hCondition) hDomain.2

theorem outputs_eq {Related : σ → τ → Prop} {Domain : σ → α → Prop}
  (hStep : ∀ s t symbol, Related s t → Domain s symbol →
    (step s symbol).2 = (other t symbol).2 ∧
      Related (next step s symbol) (next other t symbol)) {s : σ} {t : τ} {symbols : List α}
  (hRelated : Related s t) (hDomain : AllowedAlong (next step) Domain s symbols) :
  outputs step s symbols = outputs other t symbols := by
  induction symbols generalizing s t with
  | nil => rfl
  | cons symbol symbols ih =>
    obtain ⟨hSame, hKept⟩ := hStep s t symbol hRelated hDomain.1
    rw [outputs, outputs, hSame, ih hKept hDomain.2]

/-- The outputs that are there, each with the number of symbols read up to it. -/
def marksFrom {β : Type*} (offset : Nat) : List (Option β) → List (Nat × β)
  | [] => []
  | none :: rest => marksFrom (offset + 1) rest
  | some output :: rest => (offset + 1, output) :: marksFrom (offset + 1) rest

def marks {β : Type*} (outputs : List (Option β)) : List (Nat × β) := marksFrom 0 outputs

variable {β : Type*}

theorem lt_of_mem_marksFrom {offset position : Nat} {outputs : List (Option β)} {output : β}
  (hMem : (position, output) ∈ marksFrom offset outputs) : offset < position := by
  induction outputs generalizing offset with
  | nil => cases hMem
  | cons first rest ih =>
    cases first with
    | none => exact Nat.lt_of_succ_lt (ih hMem)
    | some value =>
      rcases List.mem_cons.1 hMem with hHere | hLater
      · obtain ⟨rfl, -⟩ := Prod.mk.inj hHere
        exact Nat.lt_succ_self _
      · exact Nat.lt_of_succ_lt (ih hLater)

/-- The marks determine the outputs. -/
theorem marksFrom_inj {offset : Nat} {xs ys : List (Option β)} (hLength : xs.length = ys.length) :
  marksFrom offset xs = marksFrom offset ys ↔ xs = ys := by
  refine ⟨fun hEq => ?_, fun hEq => hEq ▸ rfl⟩
  induction xs generalizing offset ys with
  | nil => exact (List.length_eq_zero_iff.1 hLength.symm).symm
  | cons x xs ih =>
    obtain ⟨y, ys, rfl⟩ := List.exists_cons_of_length_eq_add_one hLength.symm
    have hRest := Nat.succ.inj hLength
    cases x with
    | none =>
      cases y with
      | none => rw [ih hRest hEq]
      | some output =>
        have hMem : (offset + 1, output) ∈ marksFrom (offset + 1) xs := by
          rw [marksFrom, marksFrom] at hEq
          rw [hEq]
          exact List.mem_cons_self
        exact absurd (lt_of_mem_marksFrom hMem) (Nat.lt_irrefl _)
    | some output =>
      cases y with
      | none =>
        have hMem : (offset + 1, output) ∈ marksFrom (offset + 1) ys := by
          rw [marksFrom, marksFrom] at hEq
          rw [← hEq]
          exact List.mem_cons_self
        exact absurd (lt_of_mem_marksFrom hMem) (Nat.lt_irrefl _)
      | some other =>
        obtain ⟨hHead, hTail⟩ := List.cons.inj hEq
        obtain ⟨-, rfl⟩ := Prod.mk.inj hHead
        rw [ih hRest hTail]

theorem marksFrom_append (offset : Nat) (xs ys : List (Option β)) :
  marksFrom offset (xs ++ ys) = marksFrom offset xs ++ marksFrom (offset + xs.length) ys := by
  induction xs generalizing offset with
  | nil => rfl
  | cons x xs ih =>
    have hOffset : offset + 1 + xs.length = offset + (x :: xs).length := by
      rw [List.length_cons]
      omega
    cases x with
    | none => rw [List.cons_append, marksFrom, marksFrom, ih, hOffset]
    | some output =>
      rw [List.cons_append, marksFrom, marksFrom, ih, hOffset, List.cons_append]

theorem marksFrom_add (start offset : Nat) (outputs : List (Option β)) :
  marksFrom (start + offset) outputs =
    (marksFrom offset outputs).map fun (position, output) => (start + position, output) := by
  induction outputs generalizing offset with
  | nil => rfl
  | cons first rest ih =>
    cases first with
    | none => exact ih (offset + 1)
    | some output =>
      rw [marksFrom, marksFrom, List.map_cons, ← ih (offset + 1)]
      rfl

theorem marksFrom_replicate_none (offset count : Nat) :
  marksFrom offset (List.replicate count (none : Option β)) = [] := by
  induction count generalizing offset with
  | zero => rfl
  | succ count ih => exact ih (offset + 1)

/-- Reading the symbols leads from a state to another without an output. -/
inductive Silent {σ α β : Type*} (step : σ → α → σ × Option β) : σ → List α → σ → Prop where
  | zero (s : σ) : Silent step s [] s
  | succ {s t u : σ} {symbol : α} {symbols : List α} (first : step s symbol = (t, none))
      (rest : Silent step t symbols u) : Silent step s (symbol :: symbols) u

namespace Silent

variable {σ α β : Type*} {step : σ → α → σ × Option β} {s t u : σ} {first second : List α}

theorem single {symbol : α} (hStep : step s symbol = (t, none)) : Silent step s [symbol] t :=
  succ hStep (zero t)

theorem trans (left : Silent step s first t) (right : Silent step t second u) :
  Silent step s (first ++ second) u := by
  induction left with
  | zero => exact right
  | succ hStep _ ih => exact succ hStep (ih right)

theorem of_forall (hStep : ∀ symbol ∈ first, step s symbol = (s, none)) : Silent step s first s := by
  induction first with
  | nil => exact zero s
  | cons symbol first ih =>
    refine succ (hStep symbol List.mem_cons_self) (ih fun later hMem => ?_)
    exact hStep later (List.mem_cons_of_mem _ hMem)

theorem after_eq (silent : Silent step s first t) : after step s first = t := by
  induction silent with
  | zero => rfl
  | @succ s t u symbol symbols hStep _ ih =>
    rw [after, List.foldl_cons, next, hStep]
    exact ih

theorem outputs_eq (silent : Silent step s first t) :
  outputs step s first = List.replicate first.length none := by
  induction silent with
  | zero => rfl
  | @succ s t u symbol symbols hStep _ ih =>
    rw [outputs, next, hStep, ih]
    rfl

end Silent

/-- Reading the symbols leads from a state to another, and only the last of them may have an
output. -/
structure Yields {σ α β : Type*} (step : σ → α → σ × Option β) (s : σ) (symbols : List α) (t : σ)
  (output : Option β) : Prop where
  after_eq : after step s symbols = t
  marksFrom_eq : ∀ offset, marksFrom offset (outputs step s symbols) =
    output.toList.map fun output => (offset + symbols.length, output)

namespace Silent

variable {σ α β : Type*} {step : σ → α → σ × Option β} {s t u : σ} {symbols : List α}

theorem yields (silent : Silent step s symbols t) : Yields step s symbols t none where
  after_eq := silent.after_eq
  marksFrom_eq offset := by
    rw [silent.outputs_eq, marksFrom_replicate_none]
    rfl

theorem yields_last {last : α} {output : Option β} (silent : Silent step s symbols t)
  (hLast : step t last = (u, output)) : Yields step s (symbols ++ [last]) u output where
  after_eq := by rw [after_append_singleton, silent.after_eq, next, hLast]
  marksFrom_eq offset := by
    rw [outputs_append, silent.outputs_eq, silent.after_eq, outputs, outputs, hLast,
      marksFrom_append, marksFrom_replicate_none, List.length_replicate, List.length_append]
    cases output with
    | none => rfl
    | some output => rfl

end Silent

/-- The marks of every piece of an input, counted from the beginning of the piece. -/
def marksByPiece {σ α γ : Type*} (step : σ → α → σ × Option γ) :
  σ → List (List α) → List (List (Nat × γ))
  | _, [] => []
  | state, piece :: pieces =>
    marks (outputs step state piece) :: marksByPiece step (after step state piece) pieces

/-- Two machines mark the same in every piece exactly if they agree on the whole input, however
it is cut. -/
theorem marksByPiece_eq_iff {γ : Type*} {step : σ → α → σ × Option γ}
  {other : τ → α → τ × Option γ} (s : σ) (t : τ) (pieces : List (List α)) :
  marksByPiece step s pieces = marksByPiece other t pieces ↔
    outputs step s pieces.flatten = outputs other t pieces.flatten := by
  induction pieces generalizing s t with
  | nil => simp [marksByPiece, outputs]
  | cons piece pieces ih =>
    rw [marksByPiece, marksByPiece, List.flatten_cons, outputs_append, outputs_append,
      List.cons.injEq, ih, marks, marks, marksFrom_inj (by simp)]
    constructor
    · rintro ⟨hFirst, hRest⟩
      rw [hFirst, hRest]
    · intro hEq
      exact List.append_inj hEq (by simp)

end Mealy
