import Mathlib.Data.List.Forall2

/-! A pattern occurs in a text where its items stand in a relation to those of the text. A
search takes the occurrences from the left, each behind the end of the one before. -/

namespace LiteralSearch

variable {α β : Type*} (same : α → β → Bool)

/-- The pattern is at the front of the text. -/
def atFront : List α → List β → Bool
  | [], _ => true
  | _ :: _, [] => false
  | item :: pattern, symbol :: text => same item symbol && atFront pattern text

/-- The pattern and a text of its length agree item by item. -/
def Agree (pattern : List α) (text : List β) : Prop :=
  List.Forall₂ (fun item symbol => same item symbol = true) pattern text

/-- The pattern is in the text at the index. -/
def Occurs (pattern : List α) (text : List β) (index : Nat) : Prop :=
  atFront same pattern (text.drop index) = true

/-- The occurrences from an index on that do not overlap, each as far left as it can be. -/
def leftmost (pattern : List α) (text : List β) (index : Nat) : List Nat :=
  if index < text.length then
    if atFront same pattern (text.drop index) then
      index :: leftmost pattern text (index + (pattern.length - 1) + 1)
    else leftmost pattern text (index + 1)
  else []
  termination_by text.length - index

variable {same} {pattern : List α} {text : List β} {index : Nat}

theorem atFront_append {run : List β} (hAgree : Agree same pattern run) (rest : List β) :
  atFront same pattern (run ++ rest) = true := by
  induction hAgree with
  | nil => rfl
  | cons hHead _ ih => exact Bool.and_eq_true_iff.2 ⟨hHead, ih⟩

theorem agree_of_atFront (hFront : atFront same pattern text = true) :
  Agree same pattern (text.take pattern.length) := by
  induction pattern generalizing text with
  | nil => exact List.Forall₂.nil
  | cons item pattern ih =>
    cases text with
    | nil => cases hFront
    | cons symbol text =>
      obtain ⟨hHead, hRest⟩ := Bool.and_eq_true_iff.1 hFront
      exact List.Forall₂.cons hHead (ih hRest)

theorem Agree.length_eq {run : List β} (hAgree : Agree same pattern run) :
  pattern.length = run.length := List.Forall₂.length_eq hAgree

theorem occurs_iff :
  Occurs same pattern text index ↔
    Agree same pattern ((text.drop index).take pattern.length) := by
  constructor
  · exact agree_of_atFront
  · intro hAgree
    have hFront := atFront_append hAgree ((text.drop index).drop pattern.length)
    rw [List.take_append_drop] at hFront
    exact hFront

theorem Occurs.index_add_length_le (hPattern : pattern ≠ [])
  (hOccurs : Occurs same pattern text index) : index + pattern.length ≤ text.length := by
  have hLength := (occurs_iff.1 hOccurs).length_eq
  have hPos := List.length_pos_of_ne_nil hPattern
  rw [List.length_take, List.length_drop] at hLength
  omega

theorem occurs_of_mem_leftmost {found : Nat} (hMem : found ∈ leftmost same pattern text index) :
  Occurs same pattern text found ∧ index ≤ found := by
  fun_induction leftmost same pattern text index with
  | case1 index hLt hFront ih =>
    obtain rfl | hMem := List.mem_cons.1 hMem
    · exact ⟨hFront, Nat.le_refl _⟩
    · obtain ⟨hOccurs, hLe⟩ := ih hMem
      exact ⟨hOccurs, by omega⟩
  | case2 index hLt hNot ih =>
    obtain ⟨hOccurs, hLe⟩ := ih hMem
    exact ⟨hOccurs, by omega⟩
  | case3 index hEnd => cases hMem

section

variable (hPattern : pattern ≠ [])
include hPattern

/-- What is found does not overlap. -/
theorem leftmost_pairwise :
  (leftmost same pattern text index).Pairwise fun first second =>
    first + pattern.length ≤ second := by
  have hPos := List.length_pos_of_ne_nil hPattern
  fun_induction leftmost same pattern text index with
  | case1 index hLt hFront ih =>
    refine List.pairwise_cons.2 ⟨?_, ih⟩
    intro second hMem
    have hBehind := (occurs_of_mem_leftmost hMem).2
    omega
  | case2 index hLt hNot ih => exact ih
  | case3 index hEnd => exact List.Pairwise.nil

/-- Every occurrence is reached by one that begins no later. -/
theorem exists_leftmost {place : Nat}
  (hOccurs : Occurs same pattern text place) (hLe : index ≤ place) :
  ∃ found ∈ leftmost same pattern text index,
    found ≤ place ∧ place < found + pattern.length := by
  have hPos := List.length_pos_of_ne_nil hPattern
  have hEnd := hOccurs.index_add_length_le hPattern
  fun_induction leftmost same pattern text index with
  | case1 index hLt hFront ih =>
    by_cases hNear : place < index + pattern.length
    · exact ⟨index, List.mem_cons_self, hLe, hNear⟩
    · obtain ⟨found, hMem, hFound⟩ := ih (by omega)
      exact ⟨found, List.mem_cons_of_mem _ hMem, hFound⟩
  | case2 index hLt hNot ih =>
    have hNe : index ≠ place := by
      rintro rfl
      exact hNot hOccurs
    exact ih (by omega)
  | case3 index hDone => omega

theorem eq_of_overlap {first second : Nat}
  (hFirst : first ∈ leftmost same pattern text index)
  (hSecond : second ∈ leftmost same pattern text index)
  (hLeft : first < second + pattern.length) (hRight : second < first + pattern.length) :
  first = second := by
  have hPairs := @leftmost_pairwise _ _ same pattern text index hPattern
  have hApart : ∀ ⦃a⦄, a ∈ leftmost same pattern text index →
      ∀ ⦃b⦄, b ∈ leftmost same pattern text index →
      a = b ∨ a + pattern.length ≤ b ∨ b + pattern.length ≤ a := by
    apply List.Pairwise.forall_of_forall_of_flip
    · exact fun a _ => Or.inl rfl
    · exact hPairs.imp fun hLe => Or.inr (Or.inl hLe)
    · exact hPairs.imp fun hLe => Or.inr (Or.inr hLe)
  have := hApart hFirst hSecond
  omega

/-- Of what is found only the good is kept. A good occurrence then overlaps something that is
kept, unless the occurrence that reaches it from the left is not good and none that is good
begins inside it. -/
theorem overlapped_iff {Good : Nat → Prop} {place : Nat}
  (hOccurs : Occurs same pattern text place) (hGood : Good place) :
  (∃ found ∈ leftmost same pattern text 0, Good found ∧
    place < found + pattern.length ∧ found < place + pattern.length) ↔
  ∀ left ∈ leftmost same pattern text 0, ¬ Good left → left < place →
    place < left + pattern.length →
    ∃ right ∈ leftmost same pattern text 0, Good right ∧ place < right ∧
      right < place + pattern.length := by
  constructor
  · rintro ⟨found, hFound, hKept, hLeft, hRight⟩ left hMem hBad hBefore hReach
    refine ⟨found, hFound, hKept, ?_, hRight⟩
    by_contra hNot
    obtain rfl := eq_of_overlap hPattern hMem hFound (by omega) (by omega)
    exact hBad hKept
  · intro hAll
    obtain ⟨left, hMem, hLe, hReach⟩ := exists_leftmost hPattern hOccurs (Nat.zero_le place)
    by_cases hLeft : Good left
    · exact ⟨left, hMem, hLeft, hReach, by omega⟩
    have hNe : left ≠ place := by
      rintro rfl
      exact hLeft hGood
    obtain ⟨right, hRight, hKept, hBehind, hInside⟩ := hAll left hMem hLeft (by omega) hReach
    exact ⟨right, hRight, hKept, by omega, hInside⟩

end

end LiteralSearch
