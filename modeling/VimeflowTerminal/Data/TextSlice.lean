import Mathlib.Algebra.GroupWithZero.Nat
import Mathlib.Algebra.BigOperators.Group.List.Basic

/-! A text is cut by offsets into its encoding. A cut is only possible between two
characters. -/

namespace TextSlice

/-- The number of bytes that encode a text. -/
def byteLength (text : List Char) : Nat := (text.map Char.utf8Size).sum

/-- The two parts at an offset: there are none inside a character or behind the end. -/
def splitAt : List Char → Nat → Option (List Char × List Char)
  | text, 0 => some ([], text)
  | [], _ + 1 => none
  | ch :: rest, offset + 1 =>
    if ch.utf8Size ≤ offset + 1 then
      (splitAt rest (offset + 1 - ch.utf8Size)).map fun parts => (ch :: parts.1, parts.2)
    else none

/-- `&text[start..]`. -/
def sliceFrom (text : List Char) (start : Nat) : Option (List Char) :=
  (splitAt text start).map Prod.snd

/-- `&text[..stop]`. -/
def sliceTo (text : List Char) (stop : Nat) : Option (List Char) :=
  (splitAt text stop).map Prod.fst

/-- `&text[start..stop]`. -/
def slice (text : List Char) (start stop : Nat) : Option (List Char) :=
  if start ≤ stop then (sliceFrom text start).bind (sliceTo · (stop - start)) else none

@[simp] theorem byteLength_nil : byteLength [] = 0 := rfl

@[simp] theorem byteLength_cons (ch : Char) (text : List Char) :
  byteLength (ch :: text) = ch.utf8Size + byteLength text := rfl

theorem byteLength_append (first second : List Char) :
  byteLength (first ++ second) = byteLength first + byteLength second := by
  rw [byteLength, List.map_append, List.sum_append]
  rfl

variable {text first second : List Char} {start stop : Nat}

theorem byteLength_pos (hText : text ≠ []) : 0 < byteLength text := by
  cases text with
  | nil => exact absurd rfl hText
  | cons ch rest =>
    rw [byteLength_cons]
    exact Nat.add_pos_left ch.utf8Size_pos _

theorem byteLength_le_of_isPrefix (hPrefix : first <+: second) :
  byteLength first ≤ byteLength second := by
  obtain ⟨rest, rfl⟩ := hPrefix
  rw [byteLength_append]
  exact Nat.le_add_right _ _

theorem byteLength_lt_of_isPrefix (hPrefix : first <+: second)
  (hLength : first.length < second.length) : byteLength first < byteLength second := by
  obtain ⟨rest, rfl⟩ := hPrefix
  have hRest : rest ≠ [] := by
    rintro rfl
    rw [List.append_nil] at hLength
    exact Nat.lt_irrefl _ hLength
  have hPos := byteLength_pos hRest
  rw [byteLength_append]
  omega

/-- An offset cuts a text in one place only. -/
theorem eq_of_byteLength_eq (hFirst : first <+: text) (hSecond : second <+: text)
  (hSame : byteLength first = byteLength second) :
  first = second := by
  obtain hPrefix | hPrefix := List.prefix_or_prefix_of_prefix hFirst hSecond
  · refine hPrefix.eq_of_length_le ?_
    by_contra hLess
    have := byteLength_lt_of_isPrefix hPrefix (by omega)
    omega
  · refine (hPrefix.eq_of_length_le ?_).symm
    by_contra hLess
    have := byteLength_lt_of_isPrefix hPrefix (by omega)
    omega

/-- A text can be cut between any two characters. -/
theorem splitAt_append (before after : List Char) :
  splitAt (before ++ after) (byteLength before) = some (before, after) := by
  induction before with
  | nil =>
    rw [List.nil_append, byteLength_nil]
    cases after with
    | nil => rfl
    | cons ch rest => rfl
  | cons ch before ih =>
    obtain ⟨size, hSize⟩ : ∃ size, ch.utf8Size = size + 1 :=
      ⟨ch.utf8Size - 1, (Nat.sub_add_cancel ch.utf8Size_pos).symm⟩
    have hOffset : byteLength (ch :: before) = (size + byteLength before) + 1 := by
      rw [byteLength_cons, hSize]
      omega
    rw [List.cons_append, hOffset, splitAt, if_pos (by omega),
      show size + byteLength before + 1 - ch.utf8Size = byteLength before by omega, ih]
    rfl

/-- A cut is between two characters. -/
theorem eq_append_of_splitAt {before after : List Char} {offset : Nat}
  (hSplit : splitAt text offset = some (before, after)) :
  text = before ++ after ∧ byteLength before = offset := by
  induction text generalizing offset before with
  | nil =>
    cases offset with
    | zero =>
      cases hSplit
      exact ⟨rfl, rfl⟩
    | succ offset => cases hSplit
  | cons ch rest ih =>
    cases offset with
    | zero =>
      cases hSplit
      exact ⟨rfl, rfl⟩
    | succ offset =>
      rw [splitAt] at hSplit
      split at hSplit
      case isFalse => cases hSplit
      case isTrue hSize =>
        obtain ⟨⟨first, second⟩, hRest, hParts⟩ := Option.map_eq_some_iff.1 hSplit
        cases hParts
        obtain ⟨rfl, hLength⟩ := ih hRest
        refine ⟨rfl, ?_⟩
        rw [byteLength_cons, hLength]
        omega

theorem sliceFrom_append (before after : List Char) :
  sliceFrom (before ++ after) (byteLength before) = some after := by
  rw [sliceFrom, splitAt_append]
  rfl

theorem sliceTo_append (before after : List Char) :
  sliceTo (before ++ after) (byteLength before) = some before := by
  rw [sliceTo, splitAt_append]
  rfl

theorem slice_append (before middle after : List Char) :
  slice (before ++ middle ++ after) (byteLength before) (byteLength (before ++ middle)) =
    some middle := by
  rw [slice, byteLength_append, if_pos (Nat.le_add_right _ _), Nat.add_sub_cancel_left,
    List.append_assoc, sliceFrom_append, Option.bind_some, sliceTo_append]

theorem slice_eq_some {middle : List Char} (hSlice : slice text start stop = some middle) :
  ∃ before after, text = before ++ middle ++ after ∧ byteLength before = start ∧
    byteLength (before ++ middle) = stop := by
  rw [slice] at hSlice
  split at hSlice
  case isFalse => cases hSlice
  case isTrue hLe =>
    obtain ⟨rest, hFrom, hTo⟩ := Option.bind_eq_some_iff.1 hSlice
    obtain ⟨⟨before, rest'⟩, hSplit, hRest⟩ := Option.map_eq_some_iff.1 hFrom
    obtain ⟨⟨middle', after⟩, hSplit', hMiddle⟩ := Option.map_eq_some_iff.1 hTo
    obtain rfl : rest' = rest := hRest
    obtain rfl : middle' = middle := hMiddle
    obtain ⟨rfl, hStart⟩ := eq_append_of_splitAt hSplit
    obtain ⟨rfl, hStop⟩ := eq_append_of_splitAt hSplit'
    refine ⟨before, after, (List.append_assoc _ _ _).symm, hStart, ?_⟩
    rw [byteLength_append, hStart, hStop]
    omega

/-- An offset between two characters, or at an end of the text. -/
def IsBoundary (text : List Char) (offset : Nat) : Prop :=
  ∃ before after, text = before ++ after ∧ byteLength before = offset

theorem splitAt_isSome_iff {offset : Nat} :
  (splitAt text offset).isSome ↔ IsBoundary text offset := by
  constructor
  · intro hSome
    obtain ⟨⟨before, after⟩, hSplit⟩ := Option.isSome_iff_exists.1 hSome
    exact ⟨before, after, eq_append_of_splitAt hSplit⟩
  · rintro ⟨before, after, rfl, rfl⟩
    rw [splitAt_append]
    rfl

theorem sliceFrom_isSome_iff : (sliceFrom text start).isSome ↔ IsBoundary text start := by
  rw [sliceFrom, Option.isSome_map, splitAt_isSome_iff]

theorem sliceTo_isSome_iff : (sliceTo text stop).isSome ↔ IsBoundary text stop := by
  rw [sliceTo, Option.isSome_map, splitAt_isSome_iff]

/-- Of two prefixes, the longer begins with the shorter. -/
theorem slice_isSome_iff (hLe : start ≤ stop) :
  (slice text start stop).isSome ↔ IsBoundary text start ∧ IsBoundary text stop := by
  rw [slice, if_pos hLe]
  constructor
  · intro hSome
    obtain ⟨run, hRun⟩ := Option.isSome_iff_exists.1 hSome
    obtain ⟨rest, hFrom, hTo⟩ := Option.bind_eq_some_iff.1 hRun
    obtain ⟨⟨before, rest'⟩, hSplit, hRest⟩ := Option.map_eq_some_iff.1 hFrom
    obtain rfl : rest' = rest := hRest
    obtain ⟨⟨run', after⟩, hSplit', -⟩ := Option.map_eq_some_iff.1 hTo
    obtain ⟨rfl, hStart⟩ := eq_append_of_splitAt hSplit
    obtain ⟨rfl, hStop⟩ := eq_append_of_splitAt hSplit'
    refine ⟨⟨before, run' ++ after, rfl, hStart⟩, before ++ run', after, ?_, ?_⟩
    · rw [List.append_assoc]
    · rw [byteLength_append, hStart, hStop]
      omega
  · rintro ⟨⟨before, after, hText, hStart⟩, ⟨before', after', hText', hStop⟩⟩
    rcases List.append_eq_append_iff.1 (hText.symm.trans hText') with
      ⟨middle, rfl, hAfter⟩ | ⟨middle, hBefore, rfl⟩
    · rw [hText, ← hStart, sliceFrom_append, Option.bind_some, sliceTo_isSome_iff, hAfter]
      refine ⟨middle, after', rfl, ?_⟩
      rw [← hStop, byteLength_append]
      omega
    · rw [hBefore, byteLength_append] at hStart
      rw [hText, ← hStart, hBefore]
      rw [← byteLength_append, sliceFrom_append, Option.bind_some, sliceTo_isSome_iff]
      refine ⟨[], after, rfl, ?_⟩
      rw [byteLength_append, byteLength_nil]
      omega

end TextSlice
