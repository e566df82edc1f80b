import Mathlib.Data.List.Range

/-! A row of a terminal screen whose glyphs are one or two columns wide, what
putting one glyph does to the glyphs it lands on, and the replacement of one
row of glyphs by another from left to right. -/

namespace GlyphRow

/-- One column of a row. A wide glyph has its head in one column and its tail in
the next; a glyph that has lost one of its halves leaves a blank. -/
inductive Cell (γ : Type*) where
  | blank
  | narrow (glyph : γ)
  | wideHead (glyph : γ)
  | wideTail
deriving DecidableEq

variable {γ : Type*}

def Cell.isHead : Cell γ → Bool
  | .wideHead _ => true
  | _ => false

def Cell.isTail : Cell γ → Bool
  | .wideTail => true
  | _ => false

/-- A tail whose head is gone shows nothing. -/
def Cell.orphaned : Cell γ → Cell γ
  | .wideTail => .blank
  | cell => cell

/-- Put a glyph at a column. Halves of wide glyphs it cuts off go blank. -/
def put (row : Nat → Cell γ) (col : Nat) (glyph : γ × Bool) : Nat → Cell γ := fun j =>
  let last := if glyph.2 then col + 1 else col
  if j = col then if glyph.2 then .wideHead glyph.1 else .narrow glyph.1
  else if j = last then .wideTail
  else if j + 1 = col ∧ (row j).isHead ∧ (row col).isTail then .blank
  else if j = last + 1 ∧ (row last).isHead ∧ (row j).isTail then .blank
  else row j

/-- The column lies under the tail of a wide glyph. -/
def covered (content : Nat → γ × Bool) : Nat → Bool
  | 0 => false
  | col + 1 => (content col).2

/-- The row that shows the given content: in each column a glyph, with whether it
is wide. What stands under a tail is not shown. -/
def drawn (content : Nat → γ × Bool) (col : Nat) : Cell γ :=
  if covered content col then .wideTail
  else if (content col).2 then .wideHead (content col).1
  else .narrow (content col).1

/-- No wide glyph under the tail of another. -/
def Spaced (content : Nat → γ × Bool) : Prop :=
  ∀ col, (content col).2 = true → (content (col + 1)).2 = false

/-- The first column not yet shown once the columns before `col` have been gone
through: a wide glyph reaches one further. -/
def reach (content : Nat → γ × Bool) (col : Nat) : Nat :=
  if covered content col then col + 1 else col

section Drawn

variable {content : Nat → γ × Bool} {col : Nat}

theorem covered_succ : covered content (col + 1) = (content col).2 := rfl

theorem drawn_of_covered (hCovered : covered content col = true) :
  drawn content col = .wideTail := by
  simp [drawn, hCovered]

theorem drawn_isTail : (drawn content col).isTail = covered content col := by
  unfold drawn
  split
  · simp_all [Cell.isTail]
  · split <;> simp_all [Cell.isTail]

theorem drawn_isHead (hFree : covered content col = false) :
  (drawn content col).isHead = (content col).2 := by
  unfold drawn
  rw [if_neg (by simp [hFree])]
  split <;> simp_all [Cell.isHead]

theorem drawn_orphaned (hFree : covered content col = false) :
  (drawn content col).orphaned = drawn content col := by
  unfold drawn
  rw [if_neg (by simp [hFree])]
  split <;> rfl

theorem Spaced.free (hSpaced : Spaced content) (hWide : (content col).2 = true) :
  covered content col = false := by
  cases col with
  | zero => rfl
  | succ before =>
    cases hBefore : (content before).2 with
    | false => exact hBefore
    | true => exact absurd (hSpaced before hBefore) (by simp [hWide])

theorem Spaced.free_after (hSpaced : Spaced content) (hCovered : covered content col = true) :
  (content col).2 = false := by
  cases hWide : (content col).2 with
  | false => rfl
  | true => exact absurd (hSpaced.free hWide) (by simp [hCovered])

theorem reach_of_free (hFree : covered content col = false) : reach content col = col := by
  simp [reach, hFree]

theorem reach_of_covered (hCovered : covered content col = true) : reach content col = col + 1 := by
  simp [reach, hCovered]

theorem Spaced.reach_covered (hSpaced : Spaced content) (hCovered : covered content col = true) :
  reach content (col + 1) = reach content col := by
  rw [reach_of_covered hCovered, reach_of_free]
  exact hSpaced.free_after hCovered

theorem le_reach : col ≤ reach content col := by
  unfold reach
  split <;> omega

end Drawn

/-- The columns reached so far show the content. -/
def Drawing (content : Nat → γ × Bool) (col : Nat) (row : Nat → Cell γ) : Prop :=
  ∀ j < reach content col, row j = drawn content j

section Drawing

variable {content : Nat → γ × Bool} {col : Nat} {row : Nat → Cell γ}

theorem Drawing.start : Drawing content 0 row := by
  intro j hj
  exact absurd hj (by simp [reach, covered])

theorem Drawing.pass (hDrawing : Drawing content col row) (hSpaced : Spaced content)
  (hCovered : covered content col = true) : Drawing content (col + 1) row := by
  intro j hj
  rw [hSpaced.reach_covered hCovered] at hj
  exact hDrawing j hj

/-- The columns before the glyph put do not change: the column to its left is
shown already and holds no wide head. -/
theorem Drawing.put_before (hDrawing : Drawing content col row)
  (hFree : covered content col = false) {glyph : γ × Bool} {j : Nat} (hj : j < col) :
  put row col glyph j = drawn content j := by
  have hShown : row j = drawn content j := hDrawing j (by rwa [reach_of_free hFree])
  have hLast : col ≤ if glyph.2 then col + 1 else col := by split <;> omega
  have hNoHead : ¬ (j + 1 = col ∧ (row j).isHead = true ∧ (row col).isTail = true) := by
    rintro ⟨rfl, hHead, -⟩
    rw [hShown] at hHead
    have hNarrow : (content j).2 = false := hFree
    unfold drawn at hHead
    split at hHead
    · simp [Cell.isHead] at hHead
    · simp [hNarrow, Cell.isHead] at hHead
  unfold put
  simp only
  rw [if_neg (by omega), if_neg (by omega), if_neg hNoHead, if_neg (by omega), hShown]

theorem Drawing.put (hDrawing : Drawing content col row) (hFree : covered content col = false) :
  Drawing content (col + 1) (put row col (content col)) := by
  intro j hj
  by_cases hBefore : j < col
  · exact hDrawing.put_before hFree hBefore
  cases hWide : (content col).2 with
  | false =>
    have hReach : reach content (col + 1) = col + 1 := reach_of_free hWide
    obtain rfl : j = col := by omega
    simp [GlyphRow.put, drawn, hFree, hWide]
  | true =>
    have hReach : reach content (col + 1) = col + 2 := reach_of_covered hWide
    obtain rfl | rfl : j = col ∨ j = col + 1 := by omega
    · simp [GlyphRow.put, drawn, hFree, hWide]
    · simp [GlyphRow.put, drawn, covered, hWide]

end Drawing

/-- The row on the way from the old content to the new one: shown up to `col`,
old beyond it. The first old column may have lost the head it belonged to. -/
structure Replacing (old new : Nat → γ × Bool) (width col : Nat) (row : Nat → Cell γ) : Prop where
  done : Drawing new col row
  edge : reach new col < width → row (reach new col) = (drawn old (reach new col)).orphaned
  rest : ∀ j, reach new col < j → j < width → row j = drawn old j

section Replacing

variable {old new : Nat → γ × Bool} {width col : Nat} {row : Nat → Cell γ}

theorem Replacing.start (hOld : ∀ j < width, row j = drawn old j) :
  Replacing old new width 0 row where
  done := Drawing.start
  edge hLt := by
    rw [hOld _ hLt]
    exact (drawn_orphaned rfl).symm
  rest j _ hj := hOld j hj

theorem Replacing.pass (hRow : Replacing old new width col row) (hSpaced : Spaced new)
  (hCovered : covered new col = true) : Replacing old new width (col + 1) row where
  done := hRow.done.pass hSpaced hCovered
  edge := by
    rw [hSpaced.reach_covered hCovered]
    exact hRow.edge
  rest := by
    rw [hSpaced.reach_covered hCovered]
    exact hRow.rest

/-- An equal glyph that lies under no tail, old or new, is shown already, with
its own tail. -/
theorem Replacing.keep (hRow : Replacing old new width col row) (hOldSpaced : Spaced old)
  (hFree : covered new col = false) (hOldFree : covered old col = false)
  (hEq : old col = new col) (hCol : col < width) (hFits : (new col).2 = true → col + 1 < width) :
  Replacing old new width (col + 1) row := by
  have hReach : reach new col = col := reach_of_free hFree
  have hHere : row col = drawn new col := by
    have hEdge := hRow.edge (by omega)
    rw [hReach, drawn_orphaned hOldFree] at hEdge
    rw [hEdge]
    simp [drawn, hFree, hOldFree, hEq]
  have hBefore : ∀ j < col, row j = drawn new j := fun j hj => hRow.done j (by omega)
  cases hWide : (new col).2 with
  | false =>
    have hNext : reach new (col + 1) = col + 1 := reach_of_free hWide
    have hOldNext : covered old (col + 1) = false := by rw [covered_succ, hEq, hWide]
    refine ⟨?_, ?_, ?_⟩
    · intro j hj
      obtain hLt | rfl : j < col ∨ j = col := by omega
      · exact hBefore j hLt
      · exact hHere
    · intro hLt
      rw [hNext] at hLt ⊢
      rw [hRow.rest _ (by omega) hLt, drawn_orphaned hOldNext]
    · intro j hj hLt
      exact hRow.rest j (by omega) hLt
  | true =>
    have hNext : reach new (col + 1) = col + 2 := reach_of_covered hWide
    have hOldWide : (old col).2 = true := by rw [hEq, hWide]
    have hTail : row (col + 1) = drawn new (col + 1) := by
      rw [hRow.rest _ (by omega) (hFits hWide)]
      rw [drawn_of_covered (by exact hOldWide), drawn_of_covered (by exact hWide)]
    have hOldAfter : covered old (col + 2) = false := hOldSpaced col hOldWide
    refine ⟨?_, ?_, ?_⟩
    · intro j hj
      obtain hLt | rfl | rfl : j < col ∨ j = col ∨ j = col + 1 := by omega
      · exact hBefore j hLt
      · exact hHere
      · exact hTail
    · intro hLt
      rw [hNext] at hLt ⊢
      rw [hRow.rest _ (by omega) hLt, drawn_orphaned hOldAfter]
    · intro j hj hLt
      exact hRow.rest j (by omega) hLt

/-- Right of the glyph put, a tail whose head the glyph replaced goes blank and
everything else stays. -/
theorem put_after {glyph : γ × Bool} {last j : Nat}
  (hLast : last = if glyph.2 then col + 1 else col) (hj : last < j) :
  put row col glyph j =
    if j = last + 1 ∧ (row last).isHead = true ∧ (row j).isTail = true then .blank
    else row j := by
  subst hLast
  have hCol : col ≤ if glyph.2 then col + 1 else col := by split <;> omega
  unfold put
  simp only
  rw [if_neg (by omega), if_neg (by omega), if_neg (by omega)]

/-- The last column under the glyph holds a head exactly when the column after it
is an old tail. -/
theorem Replacing.isHead_last (hRow : Replacing old new width col row) (hOldSpaced : Spaced old)
  {last : Nat} (hFrom : reach new col ≤ last) (hLast : last < width)
  (hTail : covered old (last + 1) = true) : (row last).isHead = true := by
  have hFree : covered old last = false := hOldSpaced.free hTail
  have hOld : row last = drawn old last := by
    obtain hEq | hLt : reach new col = last ∨ reach new col < last := by omega
    · subst hEq
      rw [hRow.edge hLast, drawn_orphaned hFree]
    · exact hRow.rest last hLt hLast
  rw [hOld, drawn_isHead hFree]
  exact hTail

theorem Replacing.put (hRow : Replacing old new width col row) (hOldSpaced : Spaced old)
  (hFree : covered new col = false) :
  Replacing old new width (col + 1) (put row col (new col)) := by
  have hReach : reach new col = col := reach_of_free hFree
  obtain ⟨last, hLast⟩ : ∃ last, last = if (new col).2 then col + 1 else col := ⟨_, rfl⟩
  have hFrom : reach new col ≤ last := by rw [hReach, hLast]; split <;> omega
  have hNext : reach new (col + 1) = last + 1 := by
    rw [hLast]
    cases hWide : (new col).2 with
    | false => exact reach_of_free hWide
    | true => exact reach_of_covered hWide
  refine ⟨hRow.done.put hFree, ?_, ?_⟩
  · intro hLt
    rw [hNext] at hLt ⊢
    rw [put_after hLast (Nat.lt_succ_self _), hRow.rest _ (by omega) hLt, drawn_isTail]
    cases hTail : covered old (last + 1) with
    | false => simp [drawn_orphaned hTail]
    | true =>
      have hHead := hRow.isHead_last hOldSpaced hFrom (by omega) hTail
      simp [hHead, drawn_of_covered hTail, Cell.orphaned]
  · intro j hj hLt
    rw [hNext] at hj
    rw [put_after hLast (by omega), if_neg (by omega)]
    exact hRow.rest j (by omega) hLt

theorem Drawing.finish (hRow : Drawing new width row) : ∀ j < width, row j = drawn new j :=
  fun j hj => hRow j (Nat.lt_of_lt_of_le hj le_reach)

end Replacing

theorem foldl_range_preserves {σ : Type*} {step : σ → Nat → σ} (Inv : Nat → σ → Prop)
  {count : Nat} {start : σ} (hStart : Inv 0 start)
  (hStep : ∀ col s, col < count → Inv col s → Inv (col + 1) (step s col)) :
  Inv count ((List.range count).foldl step start) := by
  induction count with
  | zero => exact hStart
  | succ count ih =>
    rw [List.range_succ, List.foldl_append]
    have hPrior := ih fun col s hCol hInv => hStep col s (by omega) hInv
    exact hStep count _ (Nat.lt_succ_self _) hPrior

end GlyphRow
