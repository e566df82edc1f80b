import Mathlib.Data.List.Infix

/-! One pass over a list that leaves out every occurrence of some patterns. The patterns
begin with a marker that does not occur again in them, and none is the beginning of
another, so their occurrences never overlap. What is left can still contain a pattern: the
rests on both sides of an occurrence may join to one. -/

namespace Deletion

variable {α : Type*} [DecidableEq α]

/-- The first pattern the list begins with. -/
def matching (patterns : List (List α)) (symbols : List α) : Option (List α) :=
  patterns.find? fun pattern => pattern.isPrefixOf symbols

/-- The pass over a list of which `skip` symbols are still to be left out. -/
def deleteFrom (patterns : List (List α)) : Nat → List α → List α
  | _, [] => []
  | skip + 1, _ :: rest => deleteFrom patterns skip rest
  | 0, symbol :: rest =>
    match matching patterns (symbol :: rest) with
    | some pattern => deleteFrom patterns (pattern.length - 1) rest
    | none => symbol :: deleteFrom patterns 0 rest

def delete (patterns : List (List α)) (symbols : List α) : List α := deleteFrom patterns 0 symbols

/-- The patterns begin with the marker, which does not occur again, and none begins another. -/
structure Marked (marker : α) (patterns : List (List α)) : Prop where
  shape : ∀ pattern ∈ patterns, ∃ tail, pattern = marker :: tail ∧ marker ∉ tail ∧ tail ≠ []
  prefixFree : ∀ p ∈ patterns, ∀ q ∈ patterns, p <+: q → p = q

/-- The symbols of `cs` in their order, with patterns between them. -/
inductive Spread (patterns : List (List α)) : List α → List α → Prop where
  | last (c : α) : Spread patterns [c] [c]
  | next (c : α) {cs text : List α} {between : List (List α)}
      (hBetween : ∀ pattern ∈ between, pattern ∈ patterns) (hRest : Spread patterns cs text) :
      Spread patterns (c :: cs) (c :: (between.flatten ++ text))

/-- The list holds the pattern torn apart by occurrences of the patterns. -/
def Torn (patterns : List (List α)) (pattern symbols : List α) : Prop :=
  ∃ before text after,
    symbols = before ++ text ++ after ∧ Spread patterns pattern text ∧ text ≠ pattern

variable {marker : α} {patterns : List (List α)}

variable {pattern symbols rest cs text : List α} {between : List (List α)}

theorem matching_eq_some (hMatching : matching patterns symbols = some pattern) :
  pattern ∈ patterns ∧ pattern <+: symbols := by
  exact ⟨List.mem_of_find?_eq_some hMatching,
    List.isPrefixOf_iff_prefix.1 (by simpa using List.find?_some hMatching)⟩

theorem matching_eq_none :
  matching patterns symbols = none ↔ ∀ pattern ∈ patterns, ¬ pattern <+: symbols := by
  unfold matching
  rw [List.find?_eq_none]
  simp only [List.isPrefixOf_iff_prefix]

theorem Marked.matching_of_ne (hMarked : Marked marker patterns) {symbol : α}
  (hNe : symbol ≠ marker) : matching patterns (symbol :: rest) = none := by
  refine matching_eq_none.2 fun pattern hMem hPrefix => hNe ?_
  obtain ⟨tail, rfl, _⟩ := hMarked.shape pattern hMem
  exact (List.cons_prefix_cons.1 hPrefix).1.symm

theorem deleteFrom_eq_drop (skip : Nat) (symbols : List α) :
  deleteFrom patterns skip symbols = delete patterns (symbols.drop skip) := by
  induction skip generalizing symbols with
  | zero => rfl
  | succ skip ih =>
    cases symbols with
    | nil => rfl
    | cons symbol rest => exact ih rest

@[simp] theorem delete_nil : delete patterns [] = [] := rfl

theorem delete_cons_of_none {symbol : α} (hNone : matching patterns (symbol :: rest) = none) :
  delete patterns (symbol :: rest) = symbol :: delete patterns rest := by
  unfold delete
  rw [deleteFrom, hNone]

omit [DecidableEq α] in
theorem Marked.ne_nil (hMarked : Marked marker patterns) (hMem : pattern ∈ patterns) :
  pattern ≠ [] := by
  obtain ⟨tail, rfl, _⟩ := hMarked.shape pattern hMem
  exact List.cons_ne_nil _ _

section

variable (hMarked : Marked marker patterns)
include hMarked

/-- The pattern at the beginning is the only one there, and it is left out. -/
theorem Marked.delete_append (hMem : pattern ∈ patterns)
  (rest : List α) :
  delete patterns (pattern ++ rest) = delete patterns rest := by
  obtain ⟨tail, rfl, _, _⟩ := hMarked.shape pattern hMem
  have hFound : matching patterns (marker :: tail ++ rest) = some (marker :: tail) := by
    cases hMatching : matching patterns (marker :: tail ++ rest) with
    | none => exact absurd (List.prefix_append _ _) (matching_eq_none.1 hMatching _ hMem)
    | some other =>
      obtain ⟨hOther, hPrefix⟩ := matching_eq_some hMatching
      rcases List.prefix_or_prefix_of_prefix hPrefix (List.prefix_append _ rest) with hLe | hLe
      · rw [hMarked.prefixFree other hOther _ hMem hLe]
      · rw [hMarked.prefixFree _ hMem other hOther hLe]
  rw [List.cons_append] at hFound ⊢
  rw [delete, deleteFrom, hFound]
  dsimp only
  rw [deleteFrom_eq_drop]
  simp

theorem Marked.delete_flatten
  (hBetween : ∀ pattern ∈ between, pattern ∈ patterns) (rest : List α) :
  delete patterns (between.flatten ++ rest) = delete patterns rest := by
  induction between with
  | nil => rfl
  | cons pattern between ih =>
    rw [List.flatten_cons, List.append_assoc,
      hMarked.delete_append (hBetween pattern List.mem_cons_self)]
    exact ih fun other hMem => hBetween other (List.mem_cons_of_mem _ hMem)

/-- A list either begins with a pattern or keeps its first symbol. -/
theorem delete_cases (symbols : List α) :
  symbols = [] ∨ (∃ pattern ∈ patterns, ∃ rest, symbols = pattern ++ rest ∧
    delete patterns symbols = delete patterns rest ∧ rest.length < symbols.length) ∨
  ∃ symbol rest, symbols = symbol :: rest ∧ matching patterns symbols = none ∧
    delete patterns symbols = symbol :: delete patterns rest := by
  cases symbols with
  | nil => exact Or.inl rfl
  | cons symbol rest =>
    cases hMatching : matching patterns (symbol :: rest) with
    | none => exact Or.inr (Or.inr ⟨symbol, rest, rfl, rfl, delete_cons_of_none hMatching⟩)
    | some pattern =>
      obtain ⟨hMem, rest', hEq⟩ := matching_eq_some hMatching
      refine Or.inr (Or.inl ⟨pattern, hMem, rest', hEq.symm, ?_, ?_⟩)
      · rw [← hEq]
        exact hMarked.delete_append hMem rest'
      rw [← hEq, List.length_append]
      have hPos := List.length_pos_iff.2 (hMarked.ne_nil hMem)
      omega

theorem length_delete_le (symbols : List α) :
  (delete patterns symbols).length ≤ symbols.length := by
  induction hLength : symbols.length using Nat.strong_induction_on generalizing symbols with
  | _ length ih =>
    rcases delete_cases hMarked symbols with rfl | ⟨pattern, _, rest, _, hDelete, hShorter⟩ |
      ⟨symbol, rest, rfl, _, hDelete⟩
    · simp
    · rw [hDelete]
      exact (ih rest.length (hLength ▸ hShorter) rest rfl).trans (hLength ▸ hShorter.le)
    · rw [hDelete]
      have hRest := ih rest.length (by simp [← hLength]) rest rfl
      simp only [List.length_cons] at hLength ⊢
      omega

/-- What the pass keeps at its beginning is spread over the list, with patterns before it. -/
theorem spread_of_prefix (hNonempty : cs ≠ [])
  (hPrefix : cs <+: delete patterns symbols) :
  ∃ (between : List (List α)) (text after : List α),
    symbols = between.flatten ++ text ++ after ∧
    (∀ pattern ∈ between, pattern ∈ patterns) ∧ Spread patterns cs text ∧
    ∀ pattern ∈ patterns, ¬ pattern <+: text ++ after := by
  induction hLength : symbols.length using Nat.strong_induction_on generalizing symbols cs with
  | _ length ih =>
    rcases delete_cases hMarked symbols with rfl |
      ⟨pattern, hMem, rest, rfl, hDelete, hShorter⟩ | ⟨symbol, rest, rfl, hNone, hDelete⟩
    · exact absurd (List.prefix_nil.1 hPrefix) hNonempty
    · rw [hDelete] at hPrefix
      obtain ⟨between, text, after, rfl, hBetween, hSpread, hFree⟩ :=
        ih rest.length (hLength ▸ hShorter) hNonempty hPrefix rfl
      refine ⟨pattern :: between, text, after, ?_, ?_, hSpread, hFree⟩
      · simp
      intro other hOther
      rcases List.mem_cons.1 hOther with rfl | hOther
      · exact hMem
      · exact hBetween other hOther
    · rw [hDelete] at hPrefix
      obtain ⟨c, cs, rfl⟩ := List.exists_cons_of_ne_nil hNonempty
      obtain ⟨rfl, hKept⟩ := List.cons_prefix_cons.1 hPrefix
      have hFree := matching_eq_none.1 hNone
      cases cs with
      | nil => exact ⟨[], [c], rest, rfl, by simp, Spread.last c, hFree⟩
      | cons d cs =>
        obtain ⟨between, text, after, rfl, hBetween, hSpread, _⟩ :=
          ih rest.length (by simp [← hLength]) (List.cons_ne_nil d cs) hKept rfl
        refine ⟨[], c :: (between.flatten ++ text), after, by simp, by simp,
          Spread.next c hBetween hSpread, ?_⟩
        simpa using hFree

theorem spread_of_infix (hNonempty : cs ≠ [])
  (hInfix : cs <:+: delete patterns symbols) :
  ∃ before text after, symbols = before ++ text ++ after ∧ Spread patterns cs text ∧
    ∀ pattern ∈ patterns, ¬ pattern <+: text ++ after := by
  induction hLength : symbols.length using Nat.strong_induction_on generalizing symbols with
  | _ length ih =>
    rcases delete_cases hMarked symbols with rfl |
      ⟨pattern, hMem, rest, rfl, hDelete, hShorter⟩ | ⟨symbol, rest, rfl, _, hDelete⟩
    · exact absurd (List.infix_nil.1 hInfix) hNonempty
    · rw [hDelete] at hInfix
      obtain ⟨before, text, after, rfl, hSpread⟩ :=
        ih rest.length (hLength ▸ hShorter) hInfix rfl
      exact ⟨pattern ++ before, text, after, by simp, hSpread⟩
    · have hHere := hInfix
      rw [hDelete] at hInfix
      rcases List.infix_cons_iff.1 hInfix with hPrefix | hInfix
      · rw [← hDelete] at hPrefix
        obtain ⟨between, text, after, hEq, _, hSpread⟩ :=
          spread_of_prefix hMarked hNonempty hPrefix
        exact ⟨between.flatten, text, after, hEq, hSpread⟩
      · obtain ⟨before, text, after, rfl, hSpread⟩ :=
          ih rest.length (by simp [← hLength]) hInfix rfl
        exact ⟨symbol :: before, text, after, by simp, hSpread⟩

/-- The marker begins a new occurrence or none: what stands before it is deleted by itself. -/
theorem Marked.delete_append_marker (before after : List α) :
  delete patterns (before ++ marker :: after) =
    delete patterns before ++ delete patterns (marker :: after) := by
  induction hLength : before.length using Nat.strong_induction_on generalizing before with
  | _ length ih =>
    rcases delete_cases hMarked (before ++ marker :: after) with hNil |
      ⟨pattern, hMem, rest, hEq, _, _⟩ | ⟨symbol, rest, hEq, hNone, hDelete⟩
    · simp at hNil
    · obtain ⟨tail, rfl, hMarker, _⟩ := hMarked.shape pattern hMem
      cases before with
      | nil => rfl
      | cons symbol before =>
        rcases List.append_eq_append_iff.1 hEq with ⟨gap, hPattern, hRest⟩ | ⟨gap, hBefore, rfl⟩
        · cases gap with
          | nil =>
            rw [List.append_nil] at hPattern
            rw [← hPattern, ← List.append_nil (marker :: tail), List.append_assoc,
              hMarked.delete_append hMem, hMarked.delete_append hMem]
            rfl
          | cons _ gap =>
            obtain ⟨rfl, _⟩ := List.cons.inj hRest
            obtain ⟨rfl, rfl⟩ := List.cons.inj hPattern
            exact absurd (by simp) hMarker
        · rw [hBefore, List.append_assoc, hMarked.delete_append hMem,
            hMarked.delete_append hMem]
          have hShorter : gap.length < length := by
            rw [← hLength, hBefore, List.length_append, List.length_cons]
            omega
          exact ih gap.length hShorter gap rfl
    · cases before with
      | nil => rfl
      | cons first before =>
        obtain ⟨rfl, rfl⟩ := List.cons.inj hEq
        have hAlone : matching patterns (first :: before) = none :=
          matching_eq_none.2 fun pattern hMem hPrefix =>
            matching_eq_none.1 hNone pattern hMem
              (hPrefix.trans (List.prefix_append _ (marker :: after)))
        rw [hDelete, List.append_eq, ih before.length (by simp [← hLength]) before rfl,
          delete_cons_of_none hAlone, List.cons_append]

theorem Spread.delete_append
  (hSpread : Spread patterns cs text) (hMarker : marker ∉ cs) (after : List α) :
  delete patterns (text ++ after) = cs ++ delete patterns after := by
  induction hSpread with
  | last c =>
    exact delete_cons_of_none (hMarked.matching_of_ne (List.ne_of_not_mem_cons hMarker).symm)
  | @next c cs text between hBetween hRest ih =>
    rw [List.cons_append, delete_cons_of_none
        (hMarked.matching_of_ne (List.ne_of_not_mem_cons hMarker).symm),
      List.append_assoc, hMarked.delete_flatten hBetween,
      ih (List.not_mem_of_not_mem_cons hMarker), List.cons_append]

end

omit [DecidableEq α] in
/-- A list without the marker goes no further than the first pattern in between. -/
theorem Marked.between_cases (hMarked : Marked marker patterns)
  (hBetween : ∀ pattern ∈ between, pattern ∈ patterns) {other : List α}
  (hMarker : marker ∉ other) (hPrefix : other <+: between.flatten ++ rest) :
  between.flatten = [] ∨ other = [] := by
  cases between with
  | nil => exact Or.inl rfl
  | cons pattern between =>
    obtain ⟨tail, rfl, _⟩ := hMarked.shape pattern (hBetween pattern List.mem_cons_self)
    cases other with
    | nil => exact Or.inr rfl
    | cons first other =>
      rw [List.flatten_cons, List.append_assoc, List.cons_append] at hPrefix
      have hFirst := (List.cons_prefix_cons.1 hPrefix).1
      exact absurd (hFirst ▸ List.mem_cons_self) hMarker

omit [DecidableEq α] in
/-- A list without the marker that begins a spread text begins what is spread there, and does
not reach its end unless nothing stands between. -/
theorem Spread.of_prefix (hMarked : Marked marker patterns) (hSpread : Spread patterns cs text)
  {other after : List α} (hMarker : marker ∉ other)
  (hBetween : ∀ pattern ∈ between, pattern ∈ patterns)
  (hPrefix : other <+: between.flatten ++ (text ++ after)) :
  between.flatten ++ text = cs ∨ other <+: cs ∧ other ≠ cs := by
  induction hSpread generalizing other between with
  | last c =>
    rcases hMarked.between_cases hBetween hMarker hPrefix with hFlatten | rfl
    · exact Or.inl (by rw [hFlatten, List.nil_append])
    · exact Or.inr ⟨List.nil_prefix, (List.cons_ne_nil c []).symm⟩
  | @next c cs text inner hInner hRest ih =>
    rcases hMarked.between_cases hBetween hMarker hPrefix with hFlatten | rfl
    · rw [hFlatten, List.nil_append] at hPrefix ⊢
      cases other with
      | nil => exact Or.inr ⟨List.nil_prefix, (List.cons_ne_nil c cs).symm⟩
      | cons first other =>
        rw [List.cons_append, List.append_assoc] at hPrefix
        obtain ⟨rfl, hKept⟩ := List.cons_prefix_cons.1 hPrefix
        rcases ih (List.not_mem_of_not_mem_cons hMarker) hInner hKept with hText |
          ⟨hOther, hNe⟩
        · exact Or.inl (by rw [hText])
        · refine Or.inr ⟨List.cons_prefix_cons.2 ⟨rfl, hOther⟩, ?_⟩
          exact fun hEq => hNe (List.cons.inj hEq).2
    · exact Or.inr ⟨List.nil_prefix, (List.cons_ne_nil c cs).symm⟩

/-- No pattern begins where a torn one does. -/
theorem Marked.matching_of_torn (hMarked : Marked marker patterns) (hMem : pattern ∈ patterns)
  (hSpread : Spread patterns pattern text) (hNe : text ≠ pattern) (after : List α) :
  matching patterns (text ++ after) = none := by
  refine matching_eq_none.2 fun other hOther hPrefix => ?_
  obtain ⟨tail, rfl, _, hTail⟩ := hMarked.shape pattern hMem
  obtain ⟨otherTail, rfl, hMarker, hOtherTail⟩ := hMarked.shape other hOther
  cases hSpread with
  | last c => exact hTail rfl
  | @next c cs text between hBetween hRest =>
    rw [List.cons_append, List.append_assoc] at hPrefix
    have hKept := (List.cons_prefix_cons.1 hPrefix).2
    rcases hRest.of_prefix hMarked hMarker hBetween hKept with hText | ⟨hBegins, hShorter⟩
    · exact hNe (by rw [hText])
    have hSame := hMarked.prefixFree _ hOther _ hMem
      (List.cons_prefix_cons.2 ⟨rfl, hBegins⟩)
    exact hShorter (List.cons.inj hSame).2

/-- The pass leaves a pattern behind exactly where patterns tore it apart. -/
theorem infix_delete_iff (hMarked : Marked marker patterns) (hMem : pattern ∈ patterns)
  (symbols : List α) :
  pattern <:+: delete patterns symbols ↔ Torn patterns pattern symbols := by
  constructor
  · intro hInfix
    obtain ⟨before, text, after, hEq, hSpread, hFree⟩ :=
      spread_of_infix hMarked (hMarked.ne_nil hMem) hInfix
    refine ⟨before, text, after, hEq, hSpread, ?_⟩
    rintro rfl
    exact hFree text hMem (List.prefix_append _ _)
  · rintro ⟨before, text, after, rfl, hSpread, hNe⟩
    have hNone := hMarked.matching_of_torn hMem hSpread hNe after
    obtain ⟨tail, rfl, hMarker, hTail⟩ := hMarked.shape pattern hMem
    cases hSpread with
    | last c => exact absurd rfl hTail
    | @next c cs text between hBetween hRest =>
      rw [List.cons_append] at hNone
      rw [List.append_assoc, List.cons_append, hMarked.delete_append_marker,
        delete_cons_of_none hNone, List.append_assoc,
        hMarked.delete_flatten hBetween, hRest.delete_append hMarked hMarker]
      exact ⟨delete patterns before, delete patterns after, by simp⟩

/-- The pass changes a list that holds a pattern. -/
theorem length_delete_lt (hMarked : Marked marker patterns) (hMem : pattern ∈ patterns)
  (hInfix : pattern <:+: symbols) :
  (delete patterns symbols).length < symbols.length := by
  obtain ⟨before, after, rfl⟩ := hInfix
  have hAfter := hMarked.delete_append hMem after
  have hPos := List.length_pos_iff.2 (hMarked.ne_nil hMem)
  obtain ⟨tail, rfl, _⟩ := hMarked.shape pattern hMem
  rw [List.cons_append] at hAfter
  rw [List.append_assoc, List.cons_append, hMarked.delete_append_marker, hAfter]
  have hBeforeLe := length_delete_le hMarked before
  have hAfterLe := length_delete_le hMarked after
  simp only [List.length_append, List.length_cons]
  omega

theorem delete_of_none (symbols : List α) (hNone : ∀ pattern ∈ patterns, ¬ pattern <:+: symbols) :
  delete patterns symbols = symbols := by
  induction symbols with
  | nil => rfl
  | cons symbol rest ih =>
    rw [delete_cons_of_none (matching_eq_none.2 fun pattern hMem hPrefix =>
      hNone pattern hMem hPrefix.isInfix)]
    rw [ih fun pattern hMem hInfix => hNone pattern hMem (List.infix_cons hInfix)]

theorem delete_eq_self_iff (hMarked : Marked marker patterns) (symbols : List α) :
  delete patterns symbols = symbols ↔ ∀ pattern ∈ patterns, ¬ pattern <:+: symbols := by
  constructor
  · intro hSame pattern hMem hInfix
    have hShorter := length_delete_lt hMarked hMem hInfix
    rw [hSame] at hShorter
    exact lt_irrefl _ hShorter
  · exact delete_of_none symbols

end Deletion
