import Mathlib.Data.List.TakeWhile
import VimeflowTerminal.App.TextCells
import VimeflowTerminal.Data.Autowrap

/-! The rows and columns of a pane at which the characters of a line are shown,
compared with those at which a wrapping terminal prints them. -/

namespace App

open Mealy Autowrap TextSlice

variable (width : Char → Nat) (paneWidth : Nat)

/-- Where the next character is shown after some characters of a line. -/
def positionAfter (line : List Char) : VisiblePosition :=
  after (visibleStep width paneWidth) ⟨0, 0, 0, 0, false⟩ line

variable {width paneWidth}

variable {position : VisiblePosition} {line body marks : List Char} {ch : Char} {i : Nat}

theorem visibleCellsFrom_eq (hLine : '\n' ∉ line) :
  visibleCellsFrom width paneWidth position line =
    outputs (visibleStep width paneWidth) position line := by
  induction line generalizing position with
  | nil => rfl
  | cons ch rest ih =>
    have hHere : ch ≠ '\n' := fun hEq => hLine (hEq ▸ List.mem_cons_self)
    rw [visibleCellsFrom, if_neg hHere, ih fun hMem => hLine (List.mem_cons_of_mem _ hMem)]
    rfl

theorem getElem?_visibleTextCells (hPane : 0 < paneWidth) (hLine : '\n' ∉ line) (i : Nat) :
  (visibleTextCells width line paneWidth)[i]? = (line)[i]?.map fun ch =>
    (visibleStep width paneWidth (positionAfter width paneWidth (line.take i)) ch).2 := by
  rw [visibleTextCells, if_neg (Nat.ne_of_gt hPane), visibleCellsFrom_eq hLine, getElem?_outputs]
  rfl

theorem saturatingAdd16_le (a b : Nat) : saturatingAdd16 a b ≤ 65535 := Nat.min_le_right _ _

theorem saturatingAdd16_eq {a b : Nat} (hSum : a + b ≤ 65535) : saturatingAdd16 a b = a + b :=
  Nat.min_eq_left hSum

theorem wrapColumn_of_le {steps row col : Nat} (hCol : col ≤ paneWidth) :
  wrapColumn paneWidth steps row col = (row, col) := by
  cases steps with
  | zero => rfl
  | succ steps => exact if_neg (Nat.not_lt.2 hCol)

theorem wrapColumn_row_le {steps row col : Nat} (hRow : row ≤ 65535) :
  (wrapColumn paneWidth steps row col).1 ≤ 65535 := by
  induction steps generalizing row col with
  | zero => exact hRow
  | succ steps ih =>
    rw [wrapColumn]
    split
    · exact ih (saturatingAdd16_le _ _)
    · exact hRow

theorem place_row_le (hRow : position.screenRow ≤ 65535) : position.place.1 ≤ 65535 := by
  rw [VisiblePosition.place]
  split
  · exact saturatingAdd16_le _ _
  · exact hRow

theorem screenRow_positionAfter (line : List Char) :
  (positionAfter width paneWidth line).screenRow ≤ 65535 := by
  induction line using List.reverseRecOn with
  | nil => exact Nat.zero_le _
  | append_singleton line ch ih =>
    rw [positionAfter, after_append_singleton]
    exact wrapColumn_row_le (place_row_le ih)

theorem byteIndex_positionAfter (line : List Char) :
  (positionAfter width paneWidth line).byteIndex = byteLength line := by
  induction line using List.reverseRecOn with
  | nil => rfl
  | append_singleton line ch ih =>
    rw [positionAfter, after_append_singleton, byteLength_append, ← ih]
    rfl

theorem place_eq_wrapped
  (hRow : (wrapped position.screenRow position.screenCol position.pendingWrap).1 ≤ 65535) :
  position.place =
    wrapped position.screenRow position.screenCol position.pendingWrap := by
  rw [VisiblePosition.place]
  rw [wrapped] at hRow ⊢
  split
  case isTrue hPending =>
    rw [if_pos hPending] at hRow
    rw [saturatingAdd16_eq hRow]
  case isFalse => rfl

theorem visibleStep_of_fits (hPane : paneWidth ≤ 65535)
  (hFits : position.place.2 + width ch ≤ paneWidth) :
  visibleStep width paneWidth position ch =
    (⟨position.byteIndex + ch.utf8Size, position.place.1,
        if 0 < width ch ∧ position.place.2 + width ch = paneWidth then paneWidth - 1
          else position.place.2 + width ch,
        saturatingAdd16 position.logicalCol (width ch),
        decide (0 < width ch ∧ position.place.2 + width ch = paneWidth)⟩,
      ⟨position.byteIndex, ch, position.logicalCol, position.place.1, position.place.2⟩) := by
  unfold visibleStep
  dsimp only
  rw [saturatingAdd16_eq (by omega), wrapColumn_of_le hFits]

/-- The row of a character has a number, and a character of two columns does not begin in the
last one. -/
def RowFits (width : Char → Nat) (paneWidth : Nat) (line : List Char) (i : Nat) : Prop :=
  columns width (line.take i) / paneWidth ≤ 65535 ∧ FitsAt width paneWidth line i

theorem place_of_behind {count : Nat}
  (hBehind : Behind paneWidth count position.screenRow position.screenCol position.pendingWrap)
  (hRow : count / paneWidth ≤ 65535) :
  position.place = (count / paneWidth, count % paneWidth) := by
  have hWrapped := hBehind.wrapped_eq
  rw [place_eq_wrapped (by rw [hWrapped]; exact hRow), hWrapped]

section Fitting

variable {line : List Char} (hPos : 0 < paneWidth) (hPane : paneWidth ≤ 65535)
  (hVisible : Visible width line)

include hPos hPane hVisible

/-- As long as the characters fit, the next one is shown behind their columns. -/
theorem behind_positionAfter {n : Nat} (hLength : n ≤ line.length)
  (hFits : ∀ i < n, RowFits width paneWidth line i) :
  Behind paneWidth (columns width (line.take n))
    (positionAfter width paneWidth (line.take n)).screenRow
    (positionAfter width paneWidth (line.take n)).screenCol
    (positionAfter width paneWidth (line.take n)).pendingWrap := by
  induction n with
  | zero => exact behind_start hPos
  | succ n ih =>
    have hBehind := ih (by omega) fun i hLt => hFits i (Nat.lt_succ_of_lt hLt)
    obtain ⟨ch, hAt⟩ : ∃ ch, (line)[n]? = some ch := ⟨_, List.getElem?_eq_getElem (by omega)⟩
    obtain ⟨hSome, hTwo⟩ := hVisible ch (List.mem_of_getElem? hAt)
    obtain ⟨hRow, hHere⟩ := hFits n (Nat.lt_succ_self n)
    have hPlace := place_of_behind hBehind hRow
    have hEnds := hHere.le hPos hTwo hAt
    rw [columns_take_succ hAt, take_succ_of_getElem? hAt, positionAfter, after_append_singleton]
    rw [← positionAfter, next, visibleStep_of_fits hPane (by rw [hPlace]; exact hEnds), hPlace]
    have hAdvance := behind_advance hSome hEnds
    simpa only [hSome, true_and] using hAdvance

theorem cell_eq {i : Nat} {ch : Char} (hAt : (line)[i]? = some ch)
  (hFits : ∀ j < i, RowFits width paneWidth line j)
  (hRow : columns width (line.take i) / paneWidth ≤ 65535) :
  (visibleStep width paneWidth (positionAfter width paneWidth (line.take i)) ch).2 =
    ⟨byteLength (line.take i), ch,
      (positionAfter width paneWidth (line.take i)).logicalCol,
      columns width (line.take i) / paneWidth, columns width (line.take i) % paneWidth⟩ := by
  have hLt := (List.getElem?_eq_some_iff.1 hAt).1
  have hBehind := behind_positionAfter hPos hPane hVisible (Nat.le_of_lt hLt) hFits
  have hPlace := place_of_behind hBehind hRow
  unfold visibleStep
  rw [hPlace, byteIndex_positionAfter]

end Fitting

/-- Every character that is printed is shown at its place, and found at each of its columns. -/
def ShownAsPrinted (width : Char → Nat) (paneWidth : Nat) (line : List Char) : Prop :=
  ∀ i place, (places width paneWidth line)[i]? = some (some place) →
    ∃ cell, (visibleTextCells width line paneWidth)[i]? = some cell ∧
      (line)[i]? = some cell.ch ∧ cell.byteIndex = byteLength (line.take i) ∧
      (cell.screenRow, cell.screenCol) = place ∧
      ∀ column < width cell.ch,
        logicalCellForVisibleCell width line paneWidth place.1 (place.2 + column) = some cell

/-- All characters fit on rows that have a number. -/
def AllFit (width : Char → Nat) (paneWidth : Nat) (line : List Char) : Prop :=
  Visible width line ∧ ∀ i < line.length, RowFits width paneWidth line i

/-- A line of the two columns of a pane that ends with a character of two columns on the last row
that has a number. -/
def FillsLastRow (width : Char → Nat) (paneWidth : Nat) (line : List Char) : Prop :=
  paneWidth = 2 ∧ columns width line = 131072 ∧ ∃ ch, line.getLast? = some ch ∧ width ch = 2

/-- The lines that are shown as they are printed: no character takes a column; or all of them
do and fit; or those that take none come after the last row that has a number. -/
def Showable (width : Char → Nat) (paneWidth : Nat) (line : List Char) : Prop :=
  (∀ ch ∈ line, width ch = 0) ∨
    ∃ body marks, line = body ++ marks ∧ AllFit width paneWidth body ∧
      (∀ ch ∈ marks, width ch = 0) ∧ (marks = [] ∨ FillsLastRow width paneWidth body)

theorem places_of_invisible (hLine : ∀ ch ∈ line, width ch = 0) (i : Nat) (place : Nat × Nat) :
  (places width paneWidth line)[i]? ≠ some (some place) := by
  rw [places, getElem?_outputs]
  intro hPlace
  obtain ⟨ch, hAt, hPrinted⟩ := Option.map_eq_some_iff.1 hPlace
  rw [after_of_invisible fun other hMem => hLine other (List.mem_of_mem_take hMem), print,
    if_pos (hLine ch (List.mem_of_getElem? hAt))] at hPrinted
  cases hPrinted

theorem places_append_left (marks : List Char) (hLt : i < body.length) :
  (places width paneWidth (body ++ marks))[i]? = (places width paneWidth body)[i]? := by
  rw [places, outputs_append, List.getElem?_append_left (by rw [length_outputs]; exact hLt)]
  rfl

theorem take_append_left (hLe : i ≤ body.length) : (body ++ marks).take i = body.take i := by
  rw [List.take_append_of_le_length hLe]

theorem columns_take_le (width : Char → Nat) {j : Nat} (hLt : j < i) (hAt : (line)[j]? = some ch) :
  columns width (line.take j) + width ch ≤ columns width (line.take i) := by
  rw [← columns_take_succ hAt]
  obtain ⟨rest, hRest⟩ := List.take_prefix_take_left (l := line) (show j + 1 ≤ i from hLt)
  rw [← hRest, columns_append]
  exact Nat.le_add_right _ _

theorem find?_of_first {α : Type} {accepts : α → Bool} {l : List α} {a : α} (hAt : l[i]? = some a)
  (hAccepts : accepts a = true) (hFirst : ∀ j < i, ∀ b, l[j]? = some b → accepts b = false) :
  l.find? accepts = some a := by
  obtain ⟨hLt, hGet⟩ := List.getElem?_eq_some_iff.1 hAt
  rw [List.find?_eq_some_iff_getElem]
  refine ⟨hAccepts, i, hLt, hGet, fun j hj => ?_⟩
  rw [hFirst j hj _ (List.getElem?_eq_getElem (Nat.lt_trans hj hLt))]
  rfl

theorem covers_of_pos {cell : VisibleTextCell} (hPos : 0 < width cell.ch) (targetRow targetCol : Nat) :
  cell.covers width targetRow targetCol = true ↔ cell.screenRow = targetRow ∧
    cell.screenCol ≤ targetCol ∧
      targetCol < saturatingAdd16 cell.screenCol (width cell.ch) := by
  rw [VisibleTextCell.covers, if_neg (Nat.ne_of_gt hPos), Bool.and_eq_true, decide_eq_true_eq,
    decide_eq_true_eq]

section Sufficient

variable {body marks : List Char} (hPos : 0 < paneWidth) (hPane : paneWidth ≤ 65535)
  (hLine : '\n' ∉ body ++ marks) (hFit : AllFit width paneWidth body)

include hPos hPane hLine hFit

variable {i : Nat}

theorem visibleCell_of_fits {ch : Char} (hAt : body[i]? = some ch) :
  (visibleTextCells width (body ++ marks) paneWidth)[i]? =
    some ⟨byteLength (body.take i), ch,
      (positionAfter width paneWidth (body.take i)).logicalCol,
      columns width (body.take i) / paneWidth, columns width (body.take i) % paneWidth⟩ := by
  have hLt := (List.getElem?_eq_some_iff.1 hAt).1
  rw [getElem?_visibleTextCells hPos hLine, List.getElem?_append_left hLt, hAt, Option.map_some,
    take_append_left (Nat.le_of_lt hLt)]
  exact congrArg some (cell_eq hPos hPane hFit.1 hAt
    (fun j hj => hFit.2 j (Nat.lt_trans hj hLt)) (hFit.2 i hLt).1)

/-- Each column of a character that fits belongs to no earlier one. -/
theorem logicalCell_of_fits {ch : Char} (hAt : body[i]? = some ch) {column : Nat}
  (hColumn : column < width ch) :
  logicalCellForVisibleCell width (body ++ marks) paneWidth
      (columns width (body.take i) / paneWidth)
      (columns width (body.take i) % paneWidth + column) =
    (visibleTextCells width (body ++ marks) paneWidth)[i]? := by
  have hLt := (List.getElem?_eq_some_iff.1 hAt).1
  have hCell := visibleCell_of_fits hPos hPane hLine hFit hAt
  have hEnds := (hFit.2 i hLt).2.le hPos (hFit.1 ch (List.mem_of_getElem? hAt)).2 hAt
  rw [hCell]
  refine find?_of_first hCell ?_ fun j hj other hOther => ?_
  · rw [covers_of_pos (Nat.zero_lt_of_lt hColumn)]
    refine ⟨rfl, Nat.le_add_right _ _, ?_⟩
    dsimp only
    rw [saturatingAdd16_eq (by omega)]
    omega
  · obtain ⟨before, hBefore⟩ : ∃ before, body[j]? = some before :=
      ⟨_, List.getElem?_eq_getElem (Nat.lt_trans hj hLt)⟩
    have hEarlier := columns_take_le width hj hBefore
    rw [visibleCell_of_fits hPos hPane hLine hFit hBefore] at hOther
    cases hOther
    by_contra hCovers
    rw [Bool.not_eq_false, covers_of_pos (hFit.1 before (List.mem_of_getElem? hBefore)).1]
      at hCovers
    obtain ⟨hRow, -, hCol⟩ := hCovers
    dsimp only at hRow hCol
    have hBound := Nat.lt_of_lt_of_le hCol (Nat.min_le_left _ _)
    have hColumns := Nat.div_add_mod (columns width (body.take i)) paneWidth
    have hColumns' := Nat.div_add_mod (columns width (body.take j)) paneWidth
    rw [hRow] at hColumns'
    omega

theorem shown_of_fits {place : Nat × Nat} (hLt : i < body.length)
  (hPlace : (places width paneWidth (body ++ marks))[i]? = some (some place)) :
  ∃ cell, (visibleTextCells width (body ++ marks) paneWidth)[i]? = some cell ∧
    (body ++ marks)[i]? = some cell.ch ∧
    cell.byteIndex = byteLength ((body ++ marks).take i) ∧
    (cell.screenRow, cell.screenCol) = place ∧
    ∀ column < width cell.ch,
      logicalCellForVisibleCell width (body ++ marks) paneWidth place.1 (place.2 + column) =
        some cell := by
  obtain ⟨ch, hAt⟩ : ∃ ch, body[i]? = some ch := ⟨_, List.getElem?_eq_getElem hLt⟩
  have hCell := visibleCell_of_fits hPos hPane hLine hFit hAt
  rw [places_append_left marks hLt,
    place_eq hPos hFit.1 (fun j hj => (hFit.2 j (Nat.lt_trans hj hLt)).2) hAt,
    fitted_eq_of_fits (hFit.2 i hLt).2 hAt] at hPlace
  obtain rfl := Option.some.inj (Option.some.inj hPlace)
  refine ⟨_, hCell, ?_, ?_, rfl, fun column hColumn => ?_⟩
  · rw [List.getElem?_append_left hLt, hAt]
  · rw [take_append_left (Nat.le_of_lt hLt)]
  · rw [← hCell]
    exact logicalCell_of_fits hPos hPane hLine hFit hAt hColumn

end Sufficient

section Last

variable {body : List Char} (hPos : 0 < paneWidth) (hPane : paneWidth ≤ 65535)
  (hFit : AllFit width paneWidth body)

include hPos hPane hFit

/-- The number of columns before the last character. -/
theorem position_of_last {init : List Char} {ch : Char} (hBody : body = init ++ [ch]) :
  columns width init / paneWidth ≤ 65535 ∧
    columns width init % paneWidth + width ch ≤ paneWidth ∧ 0 < width ch ∧
    (after (print width paneWidth) Cursor.start body).last =
      some (columns width init / paneWidth, columns width init % paneWidth) ∧
    (positionAfter width paneWidth body).place =
      if columns width init % paneWidth + width ch = paneWidth then
        (saturatingAdd16 (columns width init / paneWidth) 1, 0)
      else (columns width init / paneWidth, columns width init % paneWidth + width ch) := by
  have hLength : init.length < body.length := by rw [hBody, List.length_append]; simp
  have hTake : body.take init.length = init := by rw [hBody, List.take_left]
  have hAt : body[init.length]? = some ch := by rw [hBody, List.getElem?_concat_length]
  obtain ⟨hSome, hTwo⟩ := hFit.1 ch (List.mem_of_getElem? hAt)
  obtain ⟨hRow, hHere⟩ := hFit.2 init.length hLength
  have hEnds := hHere.le hPos hTwo hAt
  have hBefore : ∀ i < init.length, RowFits width paneWidth body i :=
    fun i hi => hFit.2 i (Nat.lt_trans hi hLength)
  have hPrinted := behind_after hPos hFit.1 (Nat.le_of_lt hLength) fun i hi => (hBefore i hi).2
  have hFitted := fitted_eq_of_fits hHere hAt (columns width (body.take init.length) / paneWidth)
  have hPlace := place_of_behind
    (behind_positionAfter hPos hPane hFit.1 (Nat.le_of_lt hLength) hBefore) hRow
  rw [hTake] at hRow hEnds hPrinted hFitted hPlace
  refine ⟨hRow, hEnds, hSome, ?_, ?_⟩
  · rw [hBody, after_append_singleton, next, print_of_pos hSome, hPrinted.wrapped_eq, put, hFitted]
  rw [hBody, positionAfter, after_append_singleton, ← positionAfter, next,
    visibleStep_of_fits hPane (by rw [hPlace]; exact hEnds), hPlace]
  rw [VisiblePosition.place]
  by_cases hFull : columns width init % paneWidth + width ch = paneWidth
  · rw [if_pos hFull, if_pos (decide_eq_true ⟨hSome, hFull⟩)]
  · rw [if_neg hFull, if_neg (by simp [hFull]), if_neg fun hBoth => hFull hBoth.2]

end Last

theorem place_of_marks (hPane : paneWidth ≤ 65535) (hMarks : ∀ ch ∈ marks, width ch = 0)
  (hCol : position.place.2 ≤ paneWidth) :
  (after (visibleStep width paneWidth) position marks).place = position.place := by
  induction marks using List.reverseRecOn with
  | nil => rfl
  | append_singleton marks ch ih =>
    have hBefore := ih fun other hMem => hMarks other (List.mem_append_left _ hMem)
    have hNone := hMarks ch (by simp)
    rw [after_append_singleton, next, visibleStep_of_fits hPane (by rw [hBefore, hNone]; exact hCol),
      hBefore, hNone]
    simp [VisiblePosition.place]

/-- What follows a line that ends in the last column of the last row is shown where it is
printed. -/
theorem shown_of_fillsLastRow (hPane : paneWidth ≤ 65535) (hLine : '\n' ∉ body ++ marks)
  (hFit : AllFit width paneWidth body) (hMarks : ∀ ch ∈ marks, width ch = 0)
  (hFills : FillsLastRow width paneWidth body) {place : Nat × Nat} (hBehind : body.length ≤ i)
  (hPlace : (places width paneWidth (body ++ marks))[i]? = some (some place)) :
  ∃ cell, (visibleTextCells width (body ++ marks) paneWidth)[i]? = some cell ∧
    (body ++ marks)[i]? = some cell.ch ∧
    cell.byteIndex = byteLength ((body ++ marks).take i) ∧
    (cell.screenRow, cell.screenCol) = place ∧ width cell.ch = 0 := by
  obtain ⟨hTwo, hColumns, ch, hLast, hWide⟩ := hFills
  have hPos : 0 < paneWidth := by omega
  obtain ⟨init, rfl⟩ := List.getLast?_eq_some_iff.1 hLast
  have hInit : columns width init = 131070 := by
    rw [columns_append, columns_singleton, hWide] at hColumns
    omega
  obtain ⟨-, -, -, hPrinted, hShown⟩ := position_of_last hPos hPane hFit rfl
  rw [hInit, hWide, hTwo, if_pos (by decide)] at hShown
  rw [hInit, hTwo] at hPrinted
  have hTail : ∀ other ∈ marks.take (i - (init ++ [ch]).length), width other = 0 :=
    fun other hMem => hMarks other (List.mem_of_mem_take hMem)
  have hTake : (init ++ [ch] ++ marks).take i =
      init ++ [ch] ++ marks.take (i - (init ++ [ch]).length) := by
    rw [List.take_append, List.take_of_length_le hBehind]
  rw [places, getElem?_outputs, List.getElem?_append_right hBehind] at hPlace
  obtain ⟨mark, hAt, hHere⟩ := Option.map_eq_some_iff.1 hPlace
  have hNone := hMarks mark (List.mem_of_getElem? hAt)
  rw [hTake, after, List.foldl_append, ← after, ← after, after_of_invisible hTail, print,
    if_pos hNone, hTwo, hPrinted] at hHere
  cases hHere
  refine ⟨(visibleStep width paneWidth
    (positionAfter width paneWidth ((init ++ [ch] ++ marks).take i)) mark).2, ?_, ?_, ?_, ?_, ?_⟩
  · rw [getElem?_visibleTextCells hPos hLine, List.getElem?_append_right hBehind, hAt]
    rfl
  · rw [List.getElem?_append_right hBehind, hAt]
    rfl
  · exact byteIndex_positionAfter _
  · have hAfter : (positionAfter width paneWidth ((init ++ [ch] ++ marks).take i)).place =
        (65535, 0) := by
      rw [hTake, positionAfter, after, List.foldl_append, ← after, ← after]
      rw [hTwo] at hPane ⊢
      rw [place_of_marks hPane hTail]
      · exact hShown
      · rw [← positionAfter, hShown]
        exact Nat.zero_le _
    show (positionAfter width paneWidth ((init ++ [ch] ++ marks).take i)).place = _
    rw [hAfter]
  · exact hNone

theorem shownAsPrinted_of_showable (hPos : 0 < paneWidth) (hPane : paneWidth ≤ 65535)
  (hLine : '\n' ∉ line) (h : Showable width paneWidth line) :
  ShownAsPrinted width paneWidth line := by
  intro i place hPlace
  rcases h with hInvisible | ⟨body, marks, rfl, hFit, hMarks, hEnd⟩
  · exact absurd hPlace (places_of_invisible hInvisible i place)
  by_cases hLt : i < body.length
  · exact shown_of_fits hPos hPane hLine hFit hLt hPlace
  rcases hEnd with rfl | hFills
  · have hNone : (places width paneWidth (body ++ []))[i]? = none := by
      rw [List.getElem?_eq_none_iff, places, length_outputs, List.append_nil]
      exact Nat.not_lt.1 hLt
    rw [hNone] at hPlace
    cases hPlace
  · obtain ⟨cell, hCell, hCh, hByte, hAt, hNone⟩ := shown_of_fillsLastRow hPane hLine hFit
      hMarks hFills (Nat.not_lt.1 hLt) hPlace
    refine ⟨cell, hCell, hCh, hByte, hAt, fun column hColumn => ?_⟩
    omega

section Necessary

variable {body tail : List Char} (hPane : paneWidth ≤ 65535)
  (hLine : '\n' ∉ body ++ tail) (hShown : ShownAsPrinted width paneWidth (body ++ tail))

include hLine hShown

theorem shown_place (hPos : 0 < paneWidth) {i : Nat} {place : Nat × Nat}
  (hPlace : (places width paneWidth (body ++ tail))[i]? = some (some place)) :
  (positionAfter width paneWidth ((body ++ tail).take i)).place = place ∧ place.1 ≤ 65535 := by
  obtain ⟨cell, hCell, -, -, hAt, -⟩ := hShown i place hPlace
  rw [getElem?_visibleTextCells hPos hLine] at hCell
  obtain ⟨ch, -, rfl⟩ := Option.map_eq_some_iff.1 hCell
  have hSame : (positionAfter width paneWidth ((body ++ tail).take i)).place = place := hAt
  exact ⟨hSame, hSame ▸ place_row_le (screenRow_positionAfter _)⟩

include hPane

/-- The characters before the first that takes no column fit. -/
theorem allFit_of_shown (hTwo : 2 ≤ paneWidth) (hVisible : Visible width body) :
  AllFit width paneWidth body := by
  have hPos : 0 < paneWidth := by omega
  refine ⟨hVisible, fun i => ?_⟩
  induction i using Nat.strong_induction_on with
  | _ i ih =>
    intro hLt
    have hBefore : ∀ j < i, RowFits width paneWidth body j :=
      fun j hj => ih j hj (Nat.lt_trans hj hLt)
    obtain ⟨ch, hAt⟩ : ∃ ch, body[i]? = some ch := ⟨_, List.getElem?_eq_getElem hLt⟩
    have hPlace := place_eq hPos hVisible (fun j hj => (hBefore j hj).2) hAt
    rw [← places_append_left tail hLt] at hPlace
    obtain ⟨hSame, hNumber⟩ := shown_place hLine hShown hPos hPlace
    rw [take_append_left (Nat.le_of_lt hLt)] at hSame
    have hRow : columns width (body.take i) / paneWidth ≤ 65535 := by
      refine Nat.le_trans ?_ hNumber
      rw [fitted]
      split
      · exact Nat.le_succ _
      · exact Nat.le_refl _
    have hBehind := behind_positionAfter hPos hPane hVisible (Nat.le_of_lt hLt) hBefore
    rw [place_of_behind hBehind hRow] at hSame
    refine ⟨hRow, fun other hOther hWide hEnd => ?_⟩
    obtain rfl : ch = other := Option.some.inj (hAt.symm.trans hOther)
    rw [fitted, if_pos ⟨hWide, hEnd⟩] at hSame
    have hFirst := congrArg Prod.fst hSame
    omega

/-- A character of no columns behind others is on the last row that has a number. -/
theorem fillsLastRow_of_shown (hTwo : 2 ≤ paneWidth) (hFit : AllFit width paneWidth body)
  (hBody : body ≠ []) {mark : Char} (hMark : tail.head? = some mark) (hNone : width mark = 0) :
  FillsLastRow width paneWidth body := by
  have hPos : 0 < paneWidth := by omega
  obtain ⟨init, ch, hLast⟩ := List.eq_nil_or_concat body |>.resolve_left hBody
  rw [List.concat_eq_append] at hLast
  obtain ⟨hRow, hEnds, hSome, hPrinted, hNext⟩ := position_of_last hPos hPane hFit hLast
  obtain ⟨rest, rfl⟩ := List.head?_eq_some_iff.1 hMark
  have hPlace : (places width paneWidth (body ++ mark :: rest))[body.length]? =
      some (some (columns width init / paneWidth, columns width init % paneWidth)) := by
    rw [places, getElem?_outputs, List.getElem?_append_right (Nat.le_refl _), Nat.sub_self,
      List.getElem?_cons_zero, Option.map_some, List.take_left, print, if_pos hNone, hPrinted]
  obtain ⟨hSame, -⟩ := shown_place hLine hShown hPos hPlace
  rw [List.take_left, hNext] at hSame
  have hWidth := (hFit.1 ch (by rw [hLast]; simp)).2
  have hColumns := Nat.div_add_mod (columns width init) paneWidth
  by_cases hFull : columns width init % paneWidth + width ch = paneWidth
  · rw [if_pos hFull] at hSame
    obtain ⟨hRows, hCols⟩ := Prod.mk.inj hSame
    have hEq : paneWidth = 2 := by omega
    have hLastRow : columns width init / paneWidth = 65535 := by
      unfold saturatingAdd16 at hRows
      omega
    refine ⟨hEq, ?_, ch, by rw [hLast, List.getLast?_concat], by omega⟩
    rw [hLast, columns_append, columns_singleton]
    rw [hLastRow, ← hCols, hEq] at hColumns
    omega
  · rw [if_neg hFull] at hSame
    have hCols := congrArg Prod.snd hSame
    omega

end Necessary

/-- The first character of a row is not found there behind one that takes no column. -/
theorem not_shown_behind_mark {mark : Char} {rest : List Char} (hTwo : 2 ≤ paneWidth)
  (hPane : paneWidth ≤ 65535) (hLine : '\n' ∉ (mark :: marks) ++ ch :: rest)
  (hMarks : ∀ other ∈ mark :: marks, width other = 0) (hSome : 0 < width ch) :
  ¬ ShownAsPrinted width paneWidth ((mark :: marks) ++ ch :: rest) := by
  intro hShown
  have hPos : 0 < paneWidth := by omega
  have hPlace : (places width paneWidth ((mark :: marks) ++ ch :: rest))[(mark :: marks).length]? =
      some (some (0, 0)) := by
    rw [places, getElem?_outputs, List.getElem?_append_right (Nat.le_refl _), Nat.sub_self,
      List.getElem?_cons_zero, Option.map_some, List.take_left, after_of_invisible hMarks,
      print_of_pos hSome]
    refine congrArg (some ∘ some) (if_neg fun hBoth => ?_)
    have hEnd : 0 + 1 = paneWidth := hBoth.2
    omega
  obtain ⟨cell, -, hCh, hByte, -, hFound⟩ := hShown _ _ hPlace
  rw [List.getElem?_append_right (Nat.le_refl _), Nat.sub_self, List.getElem?_cons_zero] at hCh
  cases hCh
  have hFirst : logicalCellForVisibleCell width ((mark :: marks) ++ cell.ch :: rest) paneWidth 0 0 =
      some ⟨0, mark, 0, 0, 0⟩ := by
    refine find?_of_first (i := 0) ?_ ?_ fun j hj => absurd hj (Nat.not_lt_zero j)
    · rw [getElem?_visibleTextCells hPos hLine]
      rfl
    · simp [VisibleTextCell.covers, hMarks mark List.mem_cons_self]
  have hSame := hFound 0 hSome
  rw [hFirst] at hSame
  have hOffset := congrArg VisibleTextCell.byteIndex (Option.some.inj hSame)
  rw [hByte, List.take_left, byteLength_cons] at hOffset
  have hSize := mark.utf8Size_pos
  dsimp only at hOffset
  omega

theorem showable_of_shownAsPrinted (hTwo : 2 ≤ paneWidth) (hPane : paneWidth ≤ 65535)
  (hLine : '\n' ∉ line) (hWidth : ∀ ch ∈ line, width ch ≤ 2)
  (hShown : ShownAsPrinted width paneWidth line) : Showable width paneWidth line := by
  have hPos : 0 < paneWidth := by omega
  -- the characters before the first that takes no column, those that take none, and the rest
  obtain ⟨body, marks, rest, rfl, hBody, hMarks, hRest, hFirst⟩ :
      ∃ body marks rest, line = body ++ (marks ++ rest) ∧ (∀ ch ∈ body, 0 < width ch) ∧
        (∀ ch ∈ marks, width ch = 0) ∧ (∀ ch, rest.head? = some ch → 0 < width ch) ∧
          (marks = [] → rest = []) := by
    let tail := line.dropWhile fun ch => 0 < width ch
    refine ⟨line.takeWhile fun ch => 0 < width ch, tail.takeWhile fun ch => width ch = 0,
      tail.dropWhile fun ch => width ch = 0, ?_, ?_, ?_, ?_, ?_⟩
    · rw [List.takeWhile_append_dropWhile, List.takeWhile_append_dropWhile]
    · intro ch hMem
      simpa using List.mem_takeWhile_imp hMem
    · intro ch hMem
      simpa using List.mem_takeWhile_imp hMem
    · intro ch hHead
      have hNot := List.head?_dropWhile_not (fun ch => decide (width ch = 0)) tail
      rw [hHead] at hNot
      simpa [Nat.pos_iff_ne_zero] using hNot
    · intro hNone
      have hHead := List.head?_dropWhile_not (fun ch => decide (0 < width ch)) line
      cases hTail : tail with
      | nil => rfl
      | cons ch others =>
        have hHere : line.dropWhile (fun ch => decide (0 < width ch)) = ch :: others := hTail
        rw [hHere] at hHead
        rw [hTail, List.takeWhile_cons_of_pos (by simpa using hHead)] at hNone
        cases hNone
  have hVisible : Visible width body := fun ch hMem =>
    ⟨hBody ch hMem, hWidth ch (List.mem_append_left _ hMem)⟩
  have hFit := allFit_of_shown hPane hLine hShown hTwo hVisible
  cases marks with
  | nil =>
    obtain rfl := hFirst rfl
    exact Or.inr ⟨body, [], by rw [List.append_nil], hFit, by simp, Or.inl rfl⟩
  | cons mark marks =>
    have hNone := hMarks mark List.mem_cons_self
    cases rest with
    | nil =>
      by_cases hEmpty : body = []
      · subst hEmpty
        exact Or.inl (by simpa using hMarks)
      · exact Or.inr ⟨body, mark :: marks, by rw [List.append_nil], hFit, hMarks,
          Or.inr (fillsLastRow_of_shown hPane hLine hShown hTwo hFit hEmpty rfl hNone)⟩
    | cons ch rest =>
      have hSome := hRest ch rfl
      by_cases hEmpty : body = []
      · subst hEmpty
        exact absurd hShown (not_shown_behind_mark hTwo hPane hLine hMarks hSome)
      obtain ⟨hEq, hColumns, -⟩ :=
        fillsLastRow_of_shown hPane hLine hShown hTwo hFit hEmpty rfl hNone
      -- the next character that takes columns is printed below the last row
      have hBehind := behind_after hPos hVisible (Nat.le_refl _) fun i hi => (hFit.2 i hi).2
      rw [List.take_length, hColumns, hEq] at hBehind
      have hPlace : (places width paneWidth (body ++ (mark :: marks ++ ch :: rest)))[
          (body ++ mark :: marks).length]? =
            some (some (fitted paneWidth (65536, 0) (width ch))) := by
        rw [← List.append_assoc, places, getElem?_outputs,
          List.getElem?_append_right (Nat.le_refl _), Nat.sub_self, List.getElem?_cons_zero,
          Option.map_some, List.take_left, after, List.foldl_append, ← after, ← after,
          after_of_invisible hMarks, print_of_pos hSome]
        rw [hEq, hBehind.wrapped_eq]
        rfl
      obtain ⟨-, hRow⟩ := shown_place hLine hShown hPos hPlace
      rw [fitted, if_neg (by rw [hEq]; omega)] at hRow
      omega

/-- A line is shown as it is printed exactly if it is showable. -/
theorem shownAsPrinted_iff (width : Char → Nat) (paneWidth : Nat) (line : List Char)
  (hTwo : 2 ≤ paneWidth) (hPane : paneWidth ≤ 65535) (hLine : '\n' ∉ line)
  (hWidth : ∀ ch ∈ line, width ch ≤ 2) :
  ShownAsPrinted width paneWidth line ↔ Showable width paneWidth line :=
  ⟨showable_of_shownAsPrinted hTwo hPane hLine hWidth,
    shownAsPrinted_of_showable (by omega) hPane hLine⟩

/-- The widths of a combining accent, of an ideograph and of letters. -/
def sampleWidth (ch : Char) : Nat :=
  if ch = '\u0301' then 0 else if ch = '世' then 2 else 1

theorem sampleWidth_le (ch : Char) : sampleWidth ch ≤ 2 := by
  unfold sampleWidth
  split
  · exact Nat.zero_le 2
  split
  · exact Nat.le_refl 2
  · exact Nat.le_succ 1

theorem shownAsPrinted_iff_wideLine :
  ShownAsPrinted sampleWidth 4 ['a', '世', 'b', 'c'] ↔
    Showable sampleWidth 4 ['a', '世', 'b', 'c'] :=
  shownAsPrinted_iff sampleWidth 4 ['a', '世', 'b', 'c'] (by decide) (by decide) (by decide)
    fun ch _ => sampleWidth_le ch

/-- An ideograph that does not fit in the last column is shown there. -/
theorem not_shownAsPrinted : ¬ ShownAsPrinted sampleWidth 2 ['a', '世'] := by
  intro hShown
  obtain ⟨cell, hCell, -, -, hPlace, -⟩ := hShown 1 (1, 0) (by decide +kernel)
  have hHere : (visibleTextCells sampleWidth ['a', '世'] 2)[1]? = some ⟨1, '世', 1, 0, 1⟩ := by
    decide +kernel
  rw [hHere] at hCell
  cases hCell
  cases hPlace

end App
