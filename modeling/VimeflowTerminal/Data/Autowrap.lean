import Mathlib.Algebra.GroupWithZero.Nat
import Mathlib.Data.Nat.Basic
import Mathlib.Algebra.BigOperators.Group.List.Basic
import VimeflowTerminal.Data.Mealy

/-! Characters of no, one or two columns are printed on rows of a fixed width. A
full row is left only when the next character comes, a character of two
columns is never cut at the end of a row, and one of none joins the character
before it. -/

namespace Autowrap

open Mealy

variable {α : Type} (width : α → Nat) (paneWidth : Nat)

/-- The cursor, and where the last character was printed. -/
structure Cursor where
  row : Nat
  col : Nat
  pendingWrap : Bool
  last : Option (Nat × Nat)
  deriving DecidableEq

def Cursor.start : Cursor := ⟨0, 0, false, none⟩

/-- Where the next character goes, once a pending wrap is made. -/
def wrapped (row col : Nat) (pendingWrap : Bool) : Nat × Nat :=
  if pendingWrap then (row + 1, 0) else (row, col)

/-- The row and column of a character: two columns do not begin in the last one. -/
def fitted (place : Nat × Nat) (columns : Nat) : Nat × Nat :=
  if columns = 2 ∧ place.2 + 1 = paneWidth then (place.1 + 1, 0) else place

/-- Print a character that takes columns at the place the cursor stands for. -/
def put (place : Nat × Nat) (columns : Nat) : Cursor × Option (Nat × Nat) :=
  let place := fitted paneWidth place columns
  let next := place.2 + columns
  (⟨place.1, if next = paneWidth then paneWidth - 1 else next, next = paneWidth, some place⟩,
    some place)

def print (cursor : Cursor) (ch : α) : Cursor × Option (Nat × Nat) :=
  if width ch = 0 then (cursor, cursor.last)
  else put paneWidth (wrapped cursor.row cursor.col cursor.pendingWrap) (width ch)

/-- Where each character of a line is printed, if it is. -/
def places (line : List α) : List (Option (Nat × Nat)) :=
  outputs (print width paneWidth) Cursor.start line

/-- The number of columns that characters take. -/
def columns (line : List α) : Nat := (line.map width).sum

theorem columns_append (first second : List α) :
  columns width (first ++ second) = columns width first + columns width second := by
  rw [columns, List.map_append, List.sum_append]
  rfl

theorem columns_singleton (ch : α) : columns width [ch] = width ch := by
  rw [columns, List.map_singleton, List.sum_singleton]

variable {width paneWidth}

/-- The cursor stands behind a number of columns; behind a full row it waits to wrap. -/
def Behind (paneWidth columns row col : Nat) (pendingWrap : Bool) : Prop :=
  if pendingWrap then col + 1 = paneWidth ∧ (row + 1) * paneWidth = columns
  else col < paneWidth ∧ row * paneWidth + col = columns

theorem behind_start (hPos : 0 < paneWidth) : Behind paneWidth 0 0 0 false := by
  refine ⟨hPos, ?_⟩
  rw [Nat.zero_mul]

/-- The next character goes to the place of that number of columns. -/
theorem Behind.wrapped_eq {columns row col : Nat} {pendingWrap : Bool}
  (h : Behind paneWidth columns row col pendingWrap) :
  wrapped row col pendingWrap = (columns / paneWidth, columns % paneWidth) := by
  cases pendingWrap with
  | true =>
    obtain ⟨hCol, hColumns⟩ := h
    have hPos : 0 < paneWidth := by omega
    rw [← hColumns, Nat.mul_div_cancel _ hPos, Nat.mul_mod_left]
    rfl
  | false =>
    obtain ⟨hCol, hColumns⟩ := h
    rw [← hColumns, Nat.mul_comm, Nat.mul_add_div (by omega), Nat.mul_add_mod,
      Nat.mod_eq_of_lt hCol, Nat.div_eq_of_lt hCol]
    rfl

/-- A character that fits on its row moves the cursor by its columns. -/
theorem behind_advance {columns count : Nat} (hCount : 0 < count)
  (hFits : columns % paneWidth + count ≤ paneWidth) :
  Behind paneWidth (columns + count) (columns / paneWidth)
    (if columns % paneWidth + count = paneWidth then paneWidth - 1
      else columns % paneWidth + count)
    (decide (columns % paneWidth + count = paneWidth)) := by
  have hColumns := Nat.div_add_mod columns paneWidth
  rw [Nat.mul_comm] at hColumns
  by_cases hFull : columns % paneWidth + count = paneWidth
  · rw [if_pos hFull, decide_eq_true hFull]
    refine ⟨by omega, ?_⟩
    rw [Nat.add_mul, Nat.one_mul]
    omega
  · rw [if_neg hFull, decide_eq_false hFull]
    exact ⟨by omega, by omega⟩

/-- A character of two columns does not begin in the last one. -/
def FitsAt (width : α → Nat) (paneWidth : Nat) (line : List α) (i : Nat) : Prop :=
  ∀ ch, (line)[i]? = some ch → width ch = 2 →
    columns width (line.take i) % paneWidth + 1 ≠ paneWidth

/-- All characters take one or two columns. -/
def Visible (width : α → Nat) (line : List α) : Prop := ∀ ch ∈ line, 0 < width ch ∧ width ch ≤ 2

variable {line : List α} {i : Nat} {ch : α}

theorem take_succ_of_getElem? (hAt : (line)[i]? = some ch) :
  line.take (i + 1) = line.take i ++ [ch] := by
  rw [List.take_add_one, hAt]
  rfl

theorem columns_take_succ (hAt : (line)[i]? = some ch) :
  columns width (line.take (i + 1)) = columns width (line.take i) + width ch := by
  rw [take_succ_of_getElem? hAt, columns_append, columns_singleton]

theorem FitsAt.le (h : FitsAt width paneWidth line i) (hPane : 0 < paneWidth)
  (hWidth : width ch ≤ 2) (hAt : (line)[i]? = some ch) :
  columns width (line.take i) % paneWidth + width ch ≤ paneWidth := by
  have hMod := Nat.mod_lt (columns width (line.take i)) hPane
  by_cases hTwo : width ch = 2
  · have hNotLast := h ch hAt hTwo
    omega
  · omega

theorem fitted_eq_of_fits (h : FitsAt width paneWidth line i) (hAt : (line)[i]? = some ch)
  (row : Nat) :
  fitted paneWidth (row, columns width (line.take i) % paneWidth) (width ch) =
    (row, columns width (line.take i) % paneWidth) :=
  if_neg fun hLast => h ch hAt hLast.1 hLast.2

theorem print_of_pos {cursor : Cursor} (hPos : 0 < width ch) :
  print width paneWidth cursor ch =
    put paneWidth (wrapped cursor.row cursor.col cursor.pendingWrap) (width ch) :=
  if_neg (Nat.ne_of_gt hPos)

/-- As long as the characters fit, the cursor is behind the columns printed. -/
theorem behind_after {n : Nat} (hPane : 0 < paneWidth) (hVisible : Visible width line)
  (hLength : n ≤ line.length) (hFits : ∀ i < n, FitsAt width paneWidth line i) :
  Behind paneWidth (columns width (line.take n))
    (after (print width paneWidth) Cursor.start (line.take n)).row
    (after (print width paneWidth) Cursor.start (line.take n)).col
    (after (print width paneWidth) Cursor.start (line.take n)).pendingWrap := by
  induction n with
  | zero => exact behind_start hPane
  | succ n ih =>
    have hBehind := ih (by omega) fun i hLt => hFits i (Nat.lt_succ_of_lt hLt)
    obtain ⟨ch, hAt⟩ : ∃ ch, (line)[n]? = some ch := ⟨_, List.getElem?_eq_getElem (by omega)⟩
    obtain ⟨hPos, hTwo⟩ := hVisible ch (List.mem_of_getElem? hAt)
    have hHere := hFits n (Nat.lt_succ_self n)
    rw [columns_take_succ hAt, take_succ_of_getElem? hAt, after_append_singleton]
    rw [next, print_of_pos hPos, hBehind.wrapped_eq, put, fitted_eq_of_fits hHere hAt]
    exact behind_advance hPos (hHere.le hPane hTwo hAt)

theorem place_eq (hPane : 0 < paneWidth) (hVisible : Visible width line)
  (hFits : ∀ j < i, FitsAt width paneWidth line j) (hAt : (line)[i]? = some ch) :
  (places width paneWidth line)[i]? = some (some (fitted paneWidth
    (columns width (line.take i) / paneWidth, columns width (line.take i) % paneWidth)
      (width ch))) := by
  have hLt := (List.getElem?_eq_some_iff.1 hAt).1
  have hBehind := behind_after hPane hVisible (Nat.le_of_lt hLt) hFits
  have hPos := (hVisible ch (List.mem_of_getElem? hAt)).1
  rw [places, getElem?_outputs, hAt, Option.map_some, print_of_pos hPos, hBehind.wrapped_eq]
  rfl

theorem after_of_invisible {cursor : Cursor} {marks : List α}
  (hMarks : ∀ ch ∈ marks, width ch = 0) :
  after (print width paneWidth) cursor marks = cursor := by
  induction marks with
  | nil => rfl
  | cons ch marks ih =>
    have hStep : next (print width paneWidth) cursor ch = cursor := by
      rw [next, print, if_pos (hMarks ch List.mem_cons_self)]
    rw [after, List.foldl_cons, hStep]
    exact ih fun other hMem => hMarks other (List.mem_cons_of_mem _ hMem)

end Autowrap
