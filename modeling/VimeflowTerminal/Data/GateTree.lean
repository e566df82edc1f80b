import Mathlib.Data.List.Forall2

/-! A tree holds if the condition at its root does, all trees of a first list do,
one of a second if there are any, and none of a third. The conditions may be
compiled before they are evaluated. -/

inductive GateTree (α : Type) where
  | node (label : α) (all any notAny : List (GateTree α)) : GateTree α

namespace GateTree

variable {α β ε : Type}

@[elab_as_elim, induction_eliminator]
theorem induct {motive : GateTree α → Prop}
  (node : ∀ label all any notAny, (∀ t ∈ all, motive t) → (∀ t ∈ any, motive t) →
    (∀ t ∈ notAny, motive t) → motive (.node label all any notAny)) (t : GateTree α) :
  motive t :=
  match t with
  | .node label all any notAny =>
    node label all any notAny (fun t _ => induct node t) (fun t _ => induct node t)
      fun t _ => induct node t

/-- The value of a tree. -/
def eval (p : α → Bool) : GateTree α → Bool
  | .node label all any notAny =>
    p label && (all.attach.all fun ⟨t, _⟩ => eval p t) &&
      (any.isEmpty || any.attach.any fun ⟨t, _⟩ => eval p t) &&
        !notAny.attach.any fun ⟨t, _⟩ => eval p t

/-- What the tree says. -/
def Holds (P : α → Prop) : GateTree α → Prop
  | .node label all any notAny =>
    P label ∧ (∀ t : {t // t ∈ all}, Holds P t.1) ∧
      (any = [] ∨ ∃ t : {t // t ∈ any}, Holds P t.1) ∧ ∀ t : {t // t ∈ notAny}, ¬ Holds P t.1
decreasing_by
  all_goals
    have hLt := List.sizeOf_lt_of_mem t.2
    simp only [node.sizeOf_spec]
    omega

/-- Every condition of the tree has a property. -/
def All (P : α → Prop) : GateTree α → Prop
  | .node label all any notAny =>
    P label ∧ (∀ t : {t // t ∈ all}, All P t.1) ∧ (∀ t : {t // t ∈ any}, All P t.1) ∧
      ∀ t : {t // t ∈ notAny}, All P t.1
decreasing_by
  all_goals
    have hLt := List.sizeOf_lt_of_mem t.2
    simp only [node.sizeOf_spec]
    omega

/-- Compile the conditions; the first error is the result. -/
def traverse (f : α → Except ε β) : GateTree α → Except ε (GateTree β)
  | .node label all any notAny => do
    let all ← all.mapM (traverse f)
    let any ← any.mapM (traverse f)
    let notAny ← notAny.mapM (traverse f)
    return .node (← f label) all any notAny

variable {label : α} {all any notAny : List (GateTree α)}

theorem eval_node (p : α → Bool) : eval p (.node label all any notAny) =
  (p label && all.all (eval p) && (any.isEmpty || any.any (eval p)) &&
    !notAny.any (eval p)) := by
  rw [eval]
  simp

theorem holds_node (P : α → Prop) : Holds P (.node label all any notAny) ↔
  P label ∧ (∀ t ∈ all, Holds P t) ∧ (any = [] ∨ ∃ t ∈ any, Holds P t) ∧
    ∀ t ∈ notAny, ¬ Holds P t := by
  rw [Holds]
  simp

theorem all_node (P : α → Prop) : All P (.node label all any notAny) ↔
  P label ∧ (∀ t ∈ all, All P t) ∧ (∀ t ∈ any, All P t) ∧ ∀ t ∈ notAny, All P t := by
  rw [All]
  simp

theorem all_imp {P Q : α → Prop} (hImp : ∀ a, P a → Q a) {t : GateTree α} (hAll : All P t) :
  All Q t := by
  induction t with
  | node label all any notAny hFirst hSecond hThird =>
    obtain ⟨hLabel, hFirst', hSecond', hThird'⟩ := (all_node P).1 hAll
    exact (all_node Q).2 ⟨hImp label hLabel, fun t hMem => hFirst t hMem (hFirst' t hMem),
      fun t hMem => hSecond t hMem (hSecond' t hMem),
      fun t hMem => hThird t hMem (hThird' t hMem)⟩

/-- Evaluation decides what the tree says. -/
theorem eval_eq_true_iff {p : α → Bool} {P : α → Prop} (hLabels : ∀ a, p a = true ↔ P a)
  (t : GateTree α) : eval p t = true ↔ Holds P t := by
  induction t with
  | node label all any notAny hAll hAny hNot =>
    have hSecond : (any.isEmpty || any.any (eval p)) = true ↔
        any = [] ∨ ∃ t ∈ any, Holds P t := by
      rw [Bool.or_eq_true, List.isEmpty_iff, List.any_eq_true]
      exact or_congr_right ⟨fun ⟨t, hMem, hEval⟩ => ⟨t, hMem, (hAny t hMem).1 hEval⟩,
        fun ⟨t, hMem, hHolds⟩ => ⟨t, hMem, (hAny t hMem).2 hHolds⟩⟩
    have hThird : (!notAny.any (eval p)) = true ↔ ∀ t ∈ notAny, ¬ Holds P t := by
      rw [Bool.not_eq_true', List.any_eq_false]
      exact ⟨fun hNone t hMem hHolds => hNone t hMem ((hNot t hMem).2 hHolds),
        fun hNone t hMem hEval => hNone t hMem ((hNot t hMem).1 hEval)⟩
    rw [eval_node, holds_node, Bool.and_eq_true, Bool.and_eq_true, Bool.and_eq_true, hLabels,
      hSecond, hThird, List.all_eq_true, and_assoc, and_assoc]
    exact and_congr_right fun _ => and_congr_left fun _ =>
      ⟨fun hEach t hMem => (hAll t hMem).1 (hEach t hMem),
        fun hEach t hMem => (hAll t hMem).2 (hEach t hMem)⟩

variable {γ δ : Type} {f : γ → Except ε δ} {l : List γ}

theorem mapM_ok {Good : γ → δ → Prop} (hMembers : ∀ a ∈ l, ∃ b, f a = .ok b ∧ Good a b) :
  ∃ l', l.mapM f = .ok l' ∧ List.Forall₂ Good l l' := by
  induction l with
  | nil => exact ⟨[], rfl, .nil⟩
  | cons a l ih =>
    obtain ⟨b, hHere, hGood⟩ := hMembers a List.mem_cons_self
    obtain ⟨l', hRest, hOthers⟩ := ih fun other hMem => hMembers other (List.mem_cons_of_mem _ hMem)
    refine ⟨b :: l', ?_, .cons hGood hOthers⟩
    rw [List.mapM_cons, hHere, hRest]
    rfl

theorem exists_mapM_ok (hMembers : ∀ a ∈ l, ∃ b, f a = .ok b) : ∃ l', l.mapM f = .ok l' := by
  have hAll : ∀ a ∈ l, ∃ b, f a = .ok b ∧ True := fun a hMem =>
    (hMembers a hMem).imp fun b hHere => ⟨hHere, trivial⟩
  obtain ⟨l', hList, -⟩ := mapM_ok hAll
  exact ⟨l', hList⟩

theorem mapM_eq_ok_iff {l' : List δ} :
  l.mapM f = .ok l' ↔ List.Forall₂ (fun a b => f a = .ok b) l l' := by
  constructor
  · intro hList
    induction l generalizing l' with
    | nil =>
      cases hList
      exact .nil
    | cons a l ih =>
      rw [List.mapM_cons] at hList
      cases hHere : f a with
      | error err =>
        rw [hHere] at hList
        cases hList
      | ok b =>
        cases hRest : l.mapM f with
        | error err =>
          rw [hHere, hRest] at hList
          cases hList
        | ok others =>
          rw [hHere, hRest] at hList
          cases hList
          exact .cons hHere (ih hRest)
  · intro hMembers
    induction hMembers with
    | nil => rfl
    | cons hHere _ ih =>
      rw [List.mapM_cons, hHere, ih]
      rfl

/-- Every member is reached when a fold makes no error. -/
theorem exists_of_foldlM_ok {σ : Type} {f : σ → γ → Except ε σ} {s s' : σ}
  (hFold : l.foldlM f s = .ok s') {a : γ} (hMem : a ∈ l) : ∃ t t', f t a = .ok t' := by
  induction l generalizing s with
  | nil => cases hMem
  | cons b l ih =>
    rw [List.foldlM_cons] at hFold
    cases hHere : f s b with
    | error err =>
      rw [hHere] at hFold
      cases hFold
    | ok t =>
      rw [hHere] at hFold
      rcases List.mem_cons.1 hMem with rfl | hLater
      · exact ⟨s, t, hHere⟩
      · exact ih hFold hLater

theorem forall_of_foldlM_ok {σ : Type} {f : σ → γ → Except ε σ} {s s' : σ} {p : γ → Prop}
  (hFold : l.foldlM f s = .ok s') (hStep : ∀ a ∈ l, ∀ t t', f t a = .ok t' → p a) :
  ∀ a ∈ l, p a := by
  intro a hMem
  obtain ⟨t, t', hHere⟩ := exists_of_foldlM_ok hFold hMem
  exact hStep a hMem t t' hHere

theorem map_eq_of_forall₂ {ζ : Type} {g : γ → ζ} {h : δ → ζ} {l' : List δ}
  (hMembers : List.Forall₂ (fun a b => h b = g a) l l') : l'.map h = l.map g := by
  induction hMembers with
  | nil => rfl
  | cons hHere _ ih => rw [List.map_cons, List.map_cons, hHere, ih]

/-- A tree whose conditions compile does, and keeps its value. -/
theorem traverse_ok {f : α → Except ε β} {t : GateTree α}
  (hLabels : All (fun a => ∃ b, f a = .ok b) t) :
  ∃ t', traverse f t = .ok t' ∧ ∀ (p : α → Bool) (q : β → Bool),
    (∀ a b, f a = .ok b → q b = p a) → eval q t' = eval p t := by
  induction t with
  | node label all any notAny hAll hAny hNot =>
    obtain ⟨⟨b, hLabel⟩, hFirst, hSecond, hThird⟩ := (all_node _).1 hLabels
    obtain ⟨all', hAll', hAllEval⟩ := mapM_ok fun t hMem => hAll t hMem (hFirst t hMem)
    obtain ⟨any', hAny', hAnyEval⟩ := mapM_ok fun t hMem => hAny t hMem (hSecond t hMem)
    obtain ⟨notAny', hNot', hNotEval⟩ := mapM_ok fun t hMem => hNot t hMem (hThird t hMem)
    refine ⟨.node b all' any' notAny', ?_, fun p q hSame => ?_⟩
    · rw [traverse, hAll', hAny', hNot', hLabel]
      rfl
    have hMaps : ∀ {l : List (GateTree α)} {l' : List (GateTree β)},
        List.Forall₂ (fun t t' => ∀ (p : α → Bool) (q : β → Bool),
          (∀ a b, f a = .ok b → q b = p a) → eval q t' = eval p t) l l' →
            l'.map (eval q) = l.map (eval p) := by
      intro l l' hMembers
      exact map_eq_of_forall₂ (List.Forall₂.imp (fun _ _ hEach => hEach p q hSame) hMembers)
    have hEmpty : any'.isEmpty = any.isEmpty := by
      cases hAnyEval with
      | nil => rfl
      | cons => rfl
    rw [eval_node, eval_node, hSame label b hLabel, hEmpty]
    have hAll'' := congrArg (List.all · id) (hMaps hAllEval)
    have hAny'' := congrArg (List.any · id) (hMaps hAnyEval)
    have hNot'' := congrArg (List.any · id) (hMaps hNotEval)
    simp only [List.all_map, List.any_map, Function.id_comp] at hAll'' hAny'' hNot''
    rw [hAll'', hAny'', hNot'']

end GateTree
