import VimeflowTerminal.Data.SliceScan
import VimeflowTerminal.Terminal.RetainedText

/-! The motions of copy mode over words, searched in a growing window of rows. The window
answers as the whole screen would. -/

namespace Terminal

open SliceScan TextAtom RetainedTextBuffer

inductive TerminalWordMotion where
  | nextStart
  | previousStart
  | nextEnd
  deriving DecidableEq

namespace TextAtom

def isBlank (atom : TextAtom) : Bool := atom.textClass == .whitespace

def hasClass (cls : TextClass) (atom : TextAtom) : Bool := atom.textClass == cls

/-- The cell of an atom covers a column of a row. -/
def covers (row col : Nat) (atom : TextAtom) : Bool :=
  atom.point.any fun point => point.row == row && point.col ≤ col && col ≤ atom.endCol

end TextAtom

/-- The first point from an atom on. -/
def nextPoint (atoms : List TextAtom) (index : Nat) : Option TerminalTextPoint :=
  (atoms.drop index).findSome? point

/-- The last point up to an atom. -/
def previousPoint (atoms : List TextAtom) : Nat → Option TerminalTextPoint
  | 0 => (atoms[0]?).bind point
  | index + 1 =>
    match atoms[index + 1]? with
    | none => none
    | some atom =>
      match atom.point with
      | some point => some point
      | none => previousPoint atoms index

def nextWordStart (atoms : List TextAtom) (current : Nat) : Option TerminalTextPoint :=
  match atoms[current]? with
  | none => none
  | some atom =>
    let next :=
      if atom.textClass ≠ .whitespace then
        skip (hasClass atom.textClass) atoms (current + 1)
      else current + 1
    nextPoint atoms (skip isBlank atoms next)

def previousWordStart (atoms : List TextAtom) : Nat → Option TerminalTextPoint
  | 0 => none
  | previous + 1 =>
    match skipBack isBlank atoms previous with
    | none => none
    | some previous =>
      match atoms[previous]? with
      | none => none
      | some atom =>
        previousPoint atoms (runStart (hasClass atom.textClass) atoms previous)

def nextWordEnd (atoms : List TextAtom) (current : Nat) : Option TerminalTextPoint :=
  let next := skip isBlank atoms (current + 1)
  match atoms[next]? with
  | none => none
  | some atom =>
    -- the last atom of the run, where the loop looks one atom ahead
    previousPoint atoms (skip (hasClass atom.textClass) atoms (next + 1) - 1)

def wordMotionFrom (atoms : List TextAtom) (motion : TerminalWordMotion) (current : Nat) :
  Option TerminalTextPoint :=
  match motion with
  | .nextStart => nextWordStart atoms current
  | .previousStart => previousWordStart atoms current
  | .nextEnd => nextWordEnd atoms current

namespace RetainedTextBuffer

def wordMotion (buffer : RetainedTextBuffer) (row col : Nat) (motion : TerminalWordMotion) :
  Option TerminalTextPoint :=
  (buffer.atoms.findIdx? (covers row col)).bind (wordMotionFrom buffer.atoms motion)

def pointIsFinalAtom (buffer : RetainedTextBuffer) (point : TerminalTextPoint) : Bool :=
  (buffer.atoms.reverse.find? fun atom => atom.point.isSome).any fun atom =>
    atom.point == some point

end RetainedTextBuffer

/-- The rows that a window of a size spans. -/
def motionRows (motion : TerminalWordMotion) (totalRows row windowRows : Nat) : Nat × Nat :=
  match motion with
  | .previousStart => (row - (windowRows - 1), row + 1)
  | _ => (row, min (row + windowRows) totalRows)

def reachedEdge (motion : TerminalWordMotion) (totalRows : Nat) (rows : Nat × Nat) : Bool :=
  match motion with
  | .previousStart => rows.1 == 0
  | _ => rows.2 == totalRows

/-- The first of the rows continues a line that begins before them. -/
def startsInContinuation (rows : List ScreenTextRow) (startRow : Nat) : Bool :=
  rows.head?.any fun row => row.wrapContinuation && decide (0 < startRow)

/-- The last of the rows is continued behind them. -/
def endsInContinuation (rows : List ScreenTextRow) (endRow totalRows : Nat) : Bool :=
  rows.getLast?.any fun row => row.softWrapped && decide (endRow < totalRows)

/-- The target of a motion in the window of a size, and whether it is final. -/
def lookInWindow (screen : ScreenSnapshot) (row col : Nat) (motion : TerminalWordMotion)
  (windowRows : Nat) : Option TerminalTextPoint × Bool :=
  let totalRows := screen.rows.length
  let (startRow, endRow) := motionRows motion totalRows row windowRows
  let rows := screenTextRowsRange screen.rows startRow endRow
  let buffer := newWords screen.cols rows startRow
  let target := buffer.wordMotion row col motion
  let needsMoreHistory := motion == .previousStart &&
    target.any fun target => startsInContinuation rows startRow && target.row == startRow
  let needsMoreFuture := motion == .nextEnd && endsInContinuation rows endRow totalRows &&
    target.any buffer.pointIsFinalAtom
  (target, (target.isSome && !needsMoreHistory && !needsMoreFuture) ||
    reachedEdge motion totalRows (startRow, endRow))

variable {screen : ScreenSnapshot} {row startRow : Nat} {atoms : List TextAtom} {atom : TextAtom}
  {rows : List ScreenTextRow}

theorem lookInWindow_final (col : Nat) (motion : TerminalWordMotion) {windowRows : Nat}
  (hRow : row < screen.rows.length) (hLarge : screen.rows.length ≤ windowRows) :
  (lookInWindow screen row col motion windowRows).2 = true := by
  have hEdge : reachedEdge motion screen.rows.length
      (motionRows motion screen.rows.length row windowRows) = true := by
    cases motion with
    | previousStart =>
      exact beq_iff_eq.2 (Nat.sub_eq_zero_of_le (by omega))
    | nextStart => exact beq_iff_eq.2 (Nat.min_eq_right (by omega))
    | nextEnd => exact beq_iff_eq.2 (Nat.min_eq_right (by omega))
  exact Bool.or_eq_true_iff.2 (.inr hEdge)

/-- Search in a window of 64 rows, doubled until the target is final. Only windows up to
the number of rows are tried, so that no size overflows. -/
def wordMotionTarget (screen : ScreenSnapshot) (row : UInt32) (col : UInt16)
  (motion : TerminalWordMotion) : Option TerminalTextPoint :=
  if hRow : row.toNat < screen.rows.length then
    GrowingWindow.search
      { total := screen.rows.length
        look := lookInWindow screen row.toNat col.toNat motion
        final_of_total_le := fun _ => lookInWindow_final col.toNat motion hRow }
      64 (by decide)
  else none

/-! ## Motions in a slice of the atoms -/

variable {before window after : List TextAtom} {current index : Nat} {target : TerminalTextPoint}

/-- Only blank atoms have no point. -/
def Pointed (atoms : List TextAtom) : Prop :=
  ∀ atom ∈ atoms, atom.point = none → atom.textClass = .whitespace

theorem Pointed.point (hPointed : Pointed atoms) (hAtom : atoms[index]? = some atom)
  (hClass : atom.textClass ≠ .whitespace) :
  ∃ point, atom.point = some point :=
  Option.ne_none_iff_exists'.1 fun hNone =>
    hClass (hPointed atom (List.mem_of_getElem? hAtom) hNone)

theorem lt_of_nextPoint (hFound : (nextPoint atoms index).isSome) : index < atoms.length := by
  by_contra hEnd
  rw [nextPoint, List.drop_eq_nil_of_le (Nat.not_lt.1 hEnd)] at hFound
  cases hFound

theorem nextPoint_slice (hFound : (nextPoint window index).isSome ∨ after = []) :
  nextPoint (before ++ window ++ after) (before.length + index) = nextPoint window index := by
  have hDrop : (before ++ window ++ after).drop (before.length + index) =
      window.drop index ++ after.drop (index - window.length) := by
    rw [List.append_assoc, List.drop_append, List.drop_append,
      List.drop_eq_nil_of_le (Nat.le_add_right _ _), Nat.add_sub_cancel_left, List.nil_append]
  rw [nextPoint, hDrop, List.findSome?_append]
  obtain hFound | rfl := hFound
  · obtain ⟨point, hPoint⟩ := Option.isSome_iff_exists.1 hFound
    rw [nextPoint] at hPoint ⊢
    rw [hPoint, Option.some_or]
  · rw [List.drop_nil, List.findSome?_nil, Option.or_none, nextPoint]

/-- The start of the next word, if it is found in the slice or nothing follows. -/
theorem nextWordStart_slice (hCurrent : current < window.length)
  (hFound : (nextWordStart window current).isSome ∨ after = []) :
  nextWordStart (before ++ window ++ after) (before.length + current) =
    nextWordStart window current := by
  obtain ⟨atom, hAtom⟩ : ∃ atom, window[current]? = some atom :=
    ⟨_, List.getElem?_eq_getElem hCurrent⟩
  unfold nextWordStart at hFound ⊢
  rw [getElem?_slice hCurrent, hAtom]
  rw [hAtom] at hFound
  dsimp only at hFound ⊢
  have hStop := hFound.imp_left lt_of_nextPoint
  by_cases hBlank : atom.textClass ≠ .whitespace
  · rw [if_pos hBlank] at hFound hStop ⊢
    have hRun : skip (hasClass atom.textClass) window (current + 1) < window.length ∨
        after = [] := hStop.imp_left (Nat.lt_of_le_of_lt le_skip)
    rw [if_pos hBlank, Nat.add_assoc, skip_slice hCurrent hRun, skip_slice (skip_le hCurrent) hStop,
      nextPoint_slice hFound]
  · rw [if_neg hBlank] at hFound hStop ⊢
    rw [if_neg hBlank, Nat.add_assoc, skip_slice hCurrent hStop, nextPoint_slice hFound]

theorem previousPoint_of_point (hAtom : atoms[index]? = some atom)
  (hPoint : atom.point = some target) :
  previousPoint atoms index = some target := by
  cases index with
  | zero => rw [previousPoint, hAtom, Option.bind_some, hPoint]
  | succ index =>
    rw [previousPoint, hAtom]
    dsimp only
    rw [hPoint]

theorem previousPoint_front (hIndex : index < window.length) :
  previousPoint (window ++ after) index = previousPoint window index := by
  induction index with
  | zero => rw [previousPoint, previousPoint, List.getElem?_append_left hIndex]
  | succ index ih =>
    rw [previousPoint, previousPoint, List.getElem?_append_left hIndex,
      ih (Nat.lt_of_succ_lt hIndex)]

/-- What follows does not matter to a motion backwards. -/
theorem previousWordStart_front (hCurrent : current < window.length) :
  previousWordStart (window ++ after) current = previousWordStart window current := by
  cases current with
  | zero => rfl
  | succ previous =>
    have hPrevious := Nat.lt_of_succ_lt hCurrent
    rw [previousWordStart, previousWordStart, skipBack_front hPrevious]
    cases hFound : skipBack isBlank window previous with
    | none => rfl
    | some found =>
      have hLt : found < window.length := Nat.lt_of_le_of_lt (skipBack_le hFound) hPrevious
      obtain ⟨atom, hAtom⟩ : ∃ atom, window[found]? = some atom :=
        ⟨_, List.getElem?_eq_getElem hLt⟩
      have hRun := @runStart_slice TextAtom (hasClass atom.textClass) [] window after
        found (Nat.le_of_lt hLt) (.inr rfl)
      rw [List.nil_append, List.length_nil, Nat.zero_add, Nat.zero_add] at hRun
      dsimp only
      rw [List.getElem?_append_left hLt, hAtom]
      dsimp only
      rw [hRun, previousPoint_front (Nat.lt_of_le_of_lt runStart_le hLt)]

/-- The word that a motion backwards finds. -/
theorem previousWordStart_some (hPointed : Pointed window) (hCurrent : current < window.length)
  (hTarget : previousWordStart window current = some target) :
  ∃ previous found atom first, current = previous + 1 ∧
    skipBack isBlank window previous = some found ∧ window[found]? = some atom ∧
    atom.textClass ≠ .whitespace ∧
    window[runStart (hasClass atom.textClass) window found]? = some first ∧
    first.point = some target := by
  cases current with
  | zero => cases hTarget
  | succ previous =>
    rw [previousWordStart] at hTarget
    cases hFound : skipBack isBlank window previous with
    | none =>
      rw [hFound] at hTarget
      cases hTarget
    | some found =>
      have hLt : found < window.length :=
        Nat.lt_of_le_of_lt (skipBack_le hFound) (Nat.lt_of_succ_lt hCurrent)
      obtain ⟨atom, hAtom⟩ : ∃ atom, window[found]? = some atom :=
        ⟨_, List.getElem?_eq_getElem hLt⟩
      rw [hFound] at hTarget
      dsimp only at hTarget
      rw [hAtom] at hTarget
      dsimp only at hTarget
      have hBlank := skipBack_fails hFound
      rw [hAtom, Option.any_some] at hBlank
      have hClass : atom.textClass ≠ .whitespace := fun hSame =>
        Bool.false_ne_true (hBlank.symm.trans (beq_iff_eq.2 hSame))
      have hFirst : ∃ first, window[runStart (hasClass atom.textClass) window found]? =
          some first ∧ first.textClass = atom.textClass := by
        rcases Nat.eq_or_lt_of_le (@runStart_le _ (hasClass atom.textClass) window
          found) with hSame | hEarlier
        · exact ⟨atom, by rw [hSame, hAtom], rfl⟩
        have hRun := runStart_passed (Nat.le_refl _) hEarlier
        obtain ⟨first, hFirst, hSat⟩ := (Option.any_eq_true _ _).1 hRun
        exact ⟨first, hFirst, beq_iff_eq.1 hSat⟩
      obtain ⟨first, hFirst, hSame⟩ := hFirst
      obtain ⟨point, hPoint⟩ := hPointed.point hFirst (hSame ▸ hClass)
      rw [previousPoint_of_point hFirst hPoint] at hTarget
      exact ⟨previous, found, atom, first, rfl, hFound, hAtom, hClass, hFirst,
        hPoint.trans hTarget⟩

/-- The start of the previous word, if it is not where the slice begins or a line ends
before the slice. -/
theorem previousWordStart_slice (hPointed : Pointed window) (hCurrent : current < window.length)
  (hTarget : previousWordStart window current = some target)
  (hEdge : before.getLast? = some lineEnd ∨
    ∀ atom, window.head? = some atom → atom.point ≠ some target) :
  previousWordStart (before ++ window ++ after) (before.length + current) = some target := by
  obtain ⟨previous, found, atom, first, rfl, hFound, hAtom, hClass, hFirst, hPoint⟩ :=
    previousWordStart_some hPointed hCurrent hTarget
  have hPrevious := Nat.lt_of_succ_lt hCurrent
  have hLt : found < window.length := Nat.lt_of_le_of_lt (skipBack_le hFound) hPrevious
  have hStart : 0 < runStart (hasClass atom.textClass) window found ∨
      before.getLast?.any (hasClass atom.textClass) = false := by
    obtain hEnd | hHead := hEdge
    · rw [hEnd, Option.any_some]
      exact .inr (beq_eq_false_iff_ne.2 fun hSame => hClass hSame.symm)
    · refine .inl (Nat.pos_of_ne_zero fun hZero => ?_)
      rw [hZero, ← List.head?_eq_getElem?] at hFirst
      exact hHead first hFirst hPoint
  rw [← Nat.add_assoc, previousWordStart, skipBack_slice hPrevious hFound]
  dsimp only
  rw [getElem?_slice hLt, hAtom]
  dsimp only
  rw [runStart_slice (Nat.le_of_lt hLt) hStart]
  refine previousPoint_of_point ?_ hPoint
  rw [getElem?_slice (Nat.lt_of_le_of_lt runStart_le hLt), hFirst]

theorem last_of_run (hAtom : window[index]? = some atom) :
  ∃ last, window[skip (hasClass atom.textClass) window (index + 1) - 1]? = some last ∧
    last.textClass = atom.textClass := by
  have hFrom := @le_skip _ (hasClass atom.textClass) window (index + 1)
  rcases Nat.eq_or_lt_of_le hFrom with hSame | hLater
  · exact ⟨atom, by rw [← hSame, Nat.add_sub_cancel, hAtom], rfl⟩
  obtain ⟨last, hLast, hSat⟩ := @skip_passed _ (hasClass atom.textClass) window
    (index + 1) (skip (hasClass atom.textClass) window (index + 1) - 1)
    (by omega) (by omega)
  exact ⟨last, hLast, beq_iff_eq.1 hSat⟩

/-- The end of the next word, if the word ends in the slice or nothing follows. -/
theorem nextWordEnd_slice (hPointed : Pointed window) (hCurrent : current < window.length)
  (hEdge : after = [] ∨ (nextWordEnd window current).isSome ∧
    ∀ atom, window.getLast? = some atom → atom.textClass ≠ .whitespace →
      atom.point ≠ nextWordEnd window current) :
  nextWordEnd (before ++ window ++ after) (before.length + current) =
    nextWordEnd window current := by
  have hNextLe : skip isBlank window (current + 1) ≤ window.length := skip_le hCurrent
  have hNextStop : skip isBlank window (current + 1) < window.length ∨ after = [] := by
    obtain hNone | ⟨hFound, -⟩ := hEdge
    · exact .inr hNone
    · refine .inl (Nat.lt_of_not_le fun hEnd => ?_)
      rw [nextWordEnd, List.getElem?_eq_none hEnd] at hFound
      cases hFound
  unfold nextWordEnd at hEdge ⊢
  rw [Nat.add_assoc, skip_slice hCurrent hNextStop]
  generalize hNext : skip isBlank window (current + 1) = next at hEdge hNextLe hNextStop ⊢
  dsimp only at hEdge ⊢
  rcases Nat.eq_or_lt_of_le hNextLe with hEnd | hLt
  · obtain hLt | rfl := hNextStop
    · exact absurd hEnd (Nat.ne_of_lt hLt)
    · rw [List.append_nil, List.getElem?_eq_none (Nat.le_of_eq hEnd.symm),
        List.getElem?_eq_none (by rw [List.length_append]; omega)]
  · obtain ⟨atom, hAtom⟩ : ∃ atom, window[next]? = some atom :=
      ⟨_, List.getElem?_eq_getElem hLt⟩
    have hBlank : isBlank atom = false := by
      rw [← hNext] at hAtom
      exact skip_fails hAtom
    have hClass : atom.textClass ≠ .whitespace := fun hSame =>
      Bool.false_ne_true (hBlank.symm.trans (beq_iff_eq.2 hSame))
    obtain ⟨last, hLast, hSame⟩ := last_of_run hAtom
    obtain ⟨point, hPoint⟩ := hPointed.point hLast (hSame ▸ hClass)
    rw [hAtom] at hEdge
    dsimp only at hEdge
    rw [previousPoint_of_point hLast hPoint] at hEdge
    rw [getElem?_slice hLt, hAtom]
    dsimp only
    rw [previousPoint_of_point hLast hPoint]
    have hStop : skip (hasClass atom.textClass) window (next + 1) < window.length ∨
        after = [] := by
      obtain hNone | ⟨-, hFinal⟩ := hEdge
      · exact .inr hNone
      · refine .inl (Nat.lt_of_not_le fun hEnd => hFinal last ?_ (hSame ▸ hClass) hPoint)
        have hAll := Nat.le_antisymm (skip_le hLt) hEnd
        rw [List.getLast?_eq_getElem?, ← hAll, hLast]
    have hPos : 1 ≤ skip (hasClass atom.textClass) window (next + 1) :=
      Nat.le_trans (Nat.succ_le_succ (Nat.zero_le next)) le_skip
    refine previousPoint_of_point ?_ hPoint
    rw [Nat.add_assoc, skip_slice hLt hStop, Nat.add_sub_assoc hPos,
      getElem?_slice (List.getElem?_eq_some_iff.1 hLast).1, hLast]

/-! ## The window as a slice of the screen -/

/-- A row that is soft-wrapped is continued by the next one, and only such a row is. -/
def WrapFlagsAgree (rows : List ScreenTextRow) : Prop :=
  ∀ index row next, rows[index]? = some row → rows[index + 1]? = some next →
    row.softWrapped = next.wrapContinuation

/-- The rows that continue a line begin with a cell of their own. -/
def ContinuationsOpen (rows : List ScreenTextRow) : Prop :=
  ∀ index row, rows[index + 1]? = some row → row.wrapContinuation = true →
    row.opensWithText = true

/-- The text of the whole retained screen. -/
def wholeScreen (screen : ScreenSnapshot) : RetainedTextBuffer :=
  newWords screen.cols (screenTextRows screen.rows) 0

/-- What precedes a window of rows in the atoms of the whole screen, and what follows it. -/
structure Framed (screen : ScreenSnapshot) (startRow endRow : Nat)
  (before window after : List TextAtom) : Prop where
  whole : (wholeScreen screen).atoms = before ++ window ++ after
  atoms : (newWords screen.cols
    (screenTextRowsRange screen.rows startRow endRow) startRow).atoms = window
  earlier : ∀ atom ∈ before, ∀ point, atom.point = some point → point.row < startRow
  later : ∀ atom ∈ after, ∀ point, atom.point = some point → endRow ≤ point.row
  pointed : Pointed window
  first : startRow = 0 → before = []
  last : screen.rows.length ≤ endRow → after = []
  starts : ∀ row, (screenTextRowsRange screen.rows startRow endRow).head? = some row →
    0 < startRow →
      if row.wrapContinuation then
        ∃ atom, window.head? = some atom ∧ ∃ col, atom.point = some ⟨startRow, col⟩
      else before.getLast? = some lineEnd
  ends : ∀ row, (screenTextRowsRange screen.rows startRow endRow).getLast? = some row →
    row.softWrapped = false → window.getLast? = some lineEnd

theorem row_of_screenTextRows {index : Nat} {row : ScreenTextRow}
  (hRow : (screenTextRows rows)[index]? = some row) : rows[index]? = some row := by
  rw [screenTextRows, screenTextRowsRange, List.drop_zero, List.getElem?_take] at hRow
  split at hRow
  · exact hRow
  · cases hRow

theorem pointed_screenAtoms (rowIdx : Nat) (last : TextClass) (rows : List ScreenTextRow) :
  Pointed (screenAtoms rowIdx last rows) := by
  intro atom hMem hNone
  obtain rfl | ⟨point, hPoint, -⟩ := mem_screenAtoms hMem
  · rfl
  · rw [hNone] at hPoint
    cases hPoint

theorem wholeScreen_atoms (screen : ScreenSnapshot) :
  (wholeScreen screen).atoms = screenAtoms 0 .whitespace (screenTextRows screen.rows) :=
  newWords_atoms screen.cols (by
    rw [Nat.zero_add]
    exact length_screenTextRows screen.rows)

/-- A line ends before a row that does not continue one. -/
theorem lineEnd_before (hFlags : WrapFlagsAgree rows) {row : ScreenTextRow} (hPos : 0 < startRow)
  (hRow : (screenTextRows rows)[startRow]? = some row) (hFresh : row.wrapContinuation = false) :
  (screenAtoms 0 .whitespace ((screenTextRows rows).take startRow)).getLast? = some lineEnd := by
  obtain ⟨index, rfl⟩ : ∃ index, startRow = index + 1 := ⟨startRow - 1, by omega⟩
  have hLt := (List.getElem?_eq_some_iff.1 hRow).1
  obtain ⟨previous, hPrevious⟩ : ∃ previous, (screenTextRows rows)[index]? = some previous :=
    ⟨_, List.getElem?_eq_getElem (Nat.lt_of_succ_lt hLt)⟩
  have hClosed := hFlags index previous row (row_of_screenTextRows hPrevious)
    (row_of_screenTextRows hRow)
  refine getLast?_screenAtoms ?_ (hClosed.trans hFresh)
  rw [List.getLast?_take, if_neg (Nat.succ_ne_zero index), Nat.add_sub_cancel, hPrevious,
    Option.some_or]

/-- The atoms of a row and its successors do not show what precedes them. -/
theorem screenAtoms_fresh (hFlags : WrapFlagsAgree rows) (hOpen : ContinuationsOpen rows)
  {row : ScreenTextRow} (hRow : (screenTextRows rows)[startRow]? = some row)
  (others : List ScreenTextRow) :
  screenAtoms startRow (classAfter .whitespace
      (screenAtoms 0 .whitespace ((screenTextRows rows).take startRow))) (row :: others) =
    screenAtoms startRow .whitespace (row :: others) := by
  rcases Nat.eq_zero_or_pos startRow with rfl | hPos
  · rfl
  cases hContinues : row.wrapContinuation with
  | false =>
    rw [classAfter, lineEnd_before hFlags hPos hRow hContinues]
    rfl
  | true =>
    obtain ⟨index, rfl⟩ : ∃ index, startRow = index + 1 := ⟨startRow - 1, by omega⟩
    have hOpens := hOpen index row (row_of_screenTextRows hRow) hContinues
    obtain ⟨atom, atoms, -, hAtoms⟩ := @screenAtoms_opens (index + 1) row others hOpens
    rw [hAtoms, hAtoms]

/-- The atoms of a window are a slice of the atoms of the whole screen. -/
theorem framed (hFlags : WrapFlagsAgree screen.rows) (hOpen : ContinuationsOpen screen.rows)
  {endRow : Nat} (hLe : startRow ≤ endRow)
  (hStart : startRow < (screenTextRows screen.rows).length) :
  ∃ before window after, Framed screen startRow endRow before window after := by
  have hBounded : (screenTextRows screen.rows).length ≤ screen.rows.length := by
    rw [screenTextRows, screenTextRowsRange, List.drop_zero, List.length_take]
    omega
  have hLength := length_screenTextRows screen.rows
  have hFront : ((screenTextRows screen.rows).take startRow).length = startRow :=
    List.length_take_of_le (Nat.le_of_lt hStart)
  have hRows := screenTextRowsRange_eq screen.rows startRow endRow
  generalize hRange : screenTextRowsRange screen.rows startRow endRow = range at hRows
  have hRangeLength : range.length =
      min endRow (screenTextRows screen.rows).length - startRow := by
    rw [hRows, List.length_drop, List.length_take]
  have hHead : ∀ row, range.head? = some row →
      (screenTextRows screen.rows)[startRow]? = some row := by
    intro row hRow
    rw [hRows, List.head?_drop, List.getElem?_take] at hRow
    split at hRow
    · exact hRow
    · cases hRow
  have hSplit : screenTextRows screen.rows =
      (screenTextRows screen.rows).take startRow ++
        (range ++ (screenTextRows screen.rows).drop endRow) := by
    have hTake : ((screenTextRows screen.rows).take endRow).take startRow =
        (screenTextRows screen.rows).take startRow := by
      rw [List.take_take, Nat.min_eq_left hLe]
    rw [hRows, ← hTake, ← List.append_assoc, List.take_append_drop, List.take_append_drop]
  have hFresh : screenAtoms startRow (classAfter .whitespace
      (screenAtoms 0 .whitespace ((screenTextRows screen.rows).take startRow))) range =
        screenAtoms startRow .whitespace range := by
    cases range with
    | nil => rfl
    | cons row others => exact screenAtoms_fresh hFlags hOpen (hHead row rfl) others
  refine ⟨screenAtoms 0 .whitespace ((screenTextRows screen.rows).take startRow),
    screenAtoms startRow .whitespace range,
    screenAtoms (startRow + range.length) (classAfter (classAfter .whitespace
      (screenAtoms 0 .whitespace ((screenTextRows screen.rows).take startRow)))
        (screenAtoms startRow .whitespace range)) ((screenTextRows screen.rows).drop endRow), ?_⟩
  constructor
  case whole =>
    rw [wholeScreen_atoms]
    conv_lhs => rw [hSplit]
    rw [screenAtoms_append, screenAtoms_append, hFront, Nat.zero_add, hFresh,
      List.append_assoc]
  case atoms =>
    rw [hRange]
    exact newWords_atoms screen.cols (by omega)
  case earlier =>
    intro atom hMem point hPoint
    obtain rfl | ⟨other, hOther, -, hTo⟩ := mem_screenAtoms hMem
    · cases hPoint
    · obtain rfl := Option.some.inj (hPoint.symm.trans hOther)
      rwa [hFront, Nat.zero_add] at hTo
  case later =>
    intro atom hMem point hPoint
    obtain rfl | ⟨other, hOther, hFrom, hTo⟩ := mem_screenAtoms hMem
    · cases hPoint
    · obtain rfl := Option.some.inj (hPoint.symm.trans hOther)
      rw [List.length_drop] at hTo
      omega
  case pointed => exact pointed_screenAtoms startRow .whitespace range
  case first =>
    rintro rfl
    rfl
  case last =>
    intro hEnd
    rw [List.drop_eq_nil_of_le (Nat.le_trans hBounded hEnd)]
    rfl
  case starts =>
    rw [hRange]
    intro row hRow hPos
    split
    case isTrue hContinues =>
      obtain ⟨index, rfl⟩ : ∃ index, startRow = index + 1 := ⟨startRow - 1, by omega⟩
      have hOpens := hOpen index row (row_of_screenTextRows (hHead row hRow)) hContinues
      obtain ⟨others, rfl⟩ := List.head?_eq_some_iff.1 hRow
      obtain ⟨atom, atoms, hPoint, hAtoms⟩ := @screenAtoms_opens (index + 1) row others hOpens
      exact ⟨atom, by rw [hAtoms, List.head?_cons], hPoint⟩
    case isFalse hNew =>
      exact lineEnd_before hFlags hPos (hHead row hRow) (Bool.not_eq_true _ ▸ hNew)
  case ends =>
    rw [hRange]
    intro row hRow hClosed
    exact getLast?_screenAtoms hRow hClosed

theorem covers_of_other_row (col : Nat)
  (hOther : ∀ point, atom.point = some point → point.row ≠ row) :
  covers row col atom = false := by
  cases hPoint : atom.point with
  | none => rw [covers, hPoint, Option.any_none]
  | some point =>
    rw [covers, hPoint, Option.any_some, beq_false_of_ne (hOther point hPoint),
      Bool.false_and, Bool.false_and]

namespace Framed

variable {screen : ScreenSnapshot} {startRow endRow : Nat}

variable {row : Nat}

/-- The atom that a motion starts from is found in the window as on the whole screen. -/
theorem findIdx? (hFramed : Framed screen startRow endRow before window after) (col : Nat)
  (hFrom : startRow ≤ row) (hTo : row < endRow) :
  (before ++ window ++ after).findIdx? (covers row col) =
    (window.findIdx? (covers row col)).map (before.length + ·) := by
  have hBefore : before.findIdx? (covers row col) = none :=
    List.findIdx?_eq_none_iff.2 fun atom hMem =>
      covers_of_other_row col fun point hPoint => by
        have hEarlier := hFramed.earlier atom hMem point hPoint
        omega
  have hAfter : after.findIdx? (covers row col) = none :=
    List.findIdx?_eq_none_iff.2 fun atom hMem =>
      covers_of_other_row col fun point hPoint => by
        have hLater := hFramed.later atom hMem point hPoint
        omega
  rw [List.findIdx?_append, List.findIdx?_append, hBefore, hAfter, Option.none_or, Option.map_none,
    Option.or_none]
  exact congrArg (Option.map · _) (funext fun index => Nat.add_comm index before.length)

theorem rows_ne_nil
  (hFramed : Framed screen startRow endRow before window after)
  (hCurrent : current < window.length) :
  screenTextRowsRange screen.rows startRow endRow ≠ [] := by
  intro hNone
  have hAtoms := hFramed.atoms
  rw [hNone] at hAtoms
  rw [← hAtoms] at hCurrent
  exact Nat.not_lt_zero current hCurrent

theorem nextWordStart
  (hFramed : Framed screen startRow endRow before window after) (hCurrent : current < window.length)
  (hFinal : (Terminal.nextWordStart window current).isSome ∨ screen.rows.length ≤ endRow) :
  Terminal.nextWordStart (before ++ window ++ after) (before.length + current) =
    Terminal.nextWordStart window current :=
  nextWordStart_slice hCurrent (hFinal.imp_right hFramed.last)

/-- A word that begins where the window begins may begin before it, but only if the first
row continues a line. -/
theorem previousWordStart
  (hFramed : Framed screen startRow endRow before window after) (hCurrent : current < window.length)
  (hFinal : startRow = 0 ∨ ∃ target, Terminal.previousWordStart window current = some target ∧
    ¬ (startsInContinuation (screenTextRowsRange screen.rows startRow endRow) startRow = true ∧
      target.row = startRow)) :
  Terminal.previousWordStart (before ++ window ++ after) (before.length + current) =
    Terminal.previousWordStart window current := by
  rcases Nat.eq_zero_or_pos startRow with hZero | hPos
  · rw [hFramed.first hZero, List.nil_append, List.length_nil, Nat.zero_add]
    exact previousWordStart_front hCurrent
  obtain hZero | ⟨target, hTarget, hEdge⟩ := hFinal
  · exact absurd hZero (Nat.ne_of_gt hPos)
  · obtain ⟨row, others, hRows⟩ := List.exists_cons_of_ne_nil (hFramed.rows_ne_nil hCurrent)
    have hStarts := hFramed.starts row (by rw [hRows, List.head?_cons]) hPos
    rw [hTarget]
    refine previousWordStart_slice hFramed.pointed hCurrent hTarget ?_
    split at hStarts
    case isFalse hNew => exact .inl hStarts
    case isTrue hContinues =>
      obtain ⟨atom, hHead, col, hPoint⟩ := hStarts
      refine .inr fun other hOther hSame => hEdge ⟨?_, ?_⟩
      · rw [startsInContinuation, hRows, List.head?_cons, Option.any_some, hContinues,
          Bool.true_and, decide_eq_true hPos]
      · obtain rfl := Option.some.inj (hHead.symm.trans hOther)
        rw [← Option.some.inj (hPoint.symm.trans hSame)]

/-- A word that ends where the window ends may end behind it, but only if the last row is
soft-wrapped. -/
theorem nextWordEnd
  (hFramed : Framed screen startRow endRow before window after) (hCurrent : current < window.length)
  (hFinal : screen.rows.length ≤ endRow ∨
    ∃ target, Terminal.nextWordEnd window current = some target ∧
      ¬ (endsInContinuation (screenTextRowsRange screen.rows startRow endRow) endRow
          screen.rows.length = true ∧
        (newWords screen.cols
          (screenTextRowsRange screen.rows startRow endRow) startRow).pointIsFinalAtom target =
            true)) :
  Terminal.nextWordEnd (before ++ window ++ after) (before.length + current) =
    Terminal.nextWordEnd window current := by
  refine nextWordEnd_slice hFramed.pointed hCurrent ?_
  rcases Nat.lt_or_ge endRow screen.rows.length with hInside | hEnd
  · obtain hEnd | ⟨target, hTarget, hEdge⟩ := hFinal
    · exact absurd hInside (Nat.not_lt.2 hEnd)
    · rw [hTarget]
      refine .inr ⟨rfl, fun last hLast hClass hPoint => ?_⟩
      have hSome := hFramed.rows_ne_nil hCurrent
      obtain ⟨row, hRow⟩ : ∃ row, (screenTextRowsRange screen.rows startRow endRow).getLast? =
          some row := ⟨_, List.getLast?_eq_some_getLast hSome⟩
      cases hWrapped : row.softWrapped with
      | false =>
        have hLineEnd := hFramed.ends row hRow hWrapped
        obtain rfl := Option.some.inj (hLineEnd.symm.trans hLast)
        exact hClass rfl
      | true =>
        refine hEdge ⟨?_, ?_⟩
        · rw [endsInContinuation, hRow, Option.any_some, hWrapped, Bool.true_and,
            decide_eq_true hInside]
        obtain ⟨others, hOthers⟩ := List.getLast?_eq_some_iff.1 hLast
        rw [pointIsFinalAtom, hFramed.atoms, hOthers, List.reverse_append,
          List.reverse_singleton, List.singleton_append, List.find?_cons_of_pos, Option.any_some,
          hPoint, beq_self_eq_true]
        rw [hPoint, Option.isSome_some]
  · exact .inl (hFramed.last hEnd)

theorem target_eq (hFramed : Framed screen startRow endRow before window after) {col : Nat}
  (motion : TerminalWordMotion) (hCurrent : window.findIdx? (covers row col) =
    some current) :
  (newWords screen.cols (screenTextRowsRange screen.rows startRow endRow)
      startRow).wordMotion row col motion = wordMotionFrom window motion current := by
  rw [wordMotion, hFramed.atoms, hCurrent, Option.bind_some]

theorem wordMotion (hFramed : Framed screen startRow endRow before window after) {col : Nat}
  (motion : TerminalWordMotion) (hFrom : startRow ≤ row) (hTo : row < endRow)
  (hMotion : ∀ current, window.findIdx? (covers row col) = some current →
    current < window.length →
      wordMotionFrom (before ++ window ++ after) motion (before.length + current) =
        wordMotionFrom window motion current) :
  (newWords screen.cols (screenTextRowsRange screen.rows startRow endRow)
      startRow).wordMotion row col motion = (wholeScreen screen).wordMotion row col motion := by
  rw [RetainedTextBuffer.wordMotion, RetainedTextBuffer.wordMotion, hFramed.whole,
    hFramed.findIdx? col hFrom hTo, hFramed.atoms]
  cases hCurrent : window.findIdx? (covers row col) with
  | none => rfl
  | some current =>
    have hLt := (List.findIdx?_eq_some_iff_getElem.1 hCurrent).1
    exact (hMotion current hCurrent hLt).symm

end Framed

/-- A window around a row answers as the whole screen, once the answer is final. -/
theorem lookInWindow_right (hFlags : WrapFlagsAgree screen.rows)
  (hOpen : ContinuationsOpen screen.rows) (col : Nat) (motion : TerminalWordMotion)
  {windowRows : Nat} (hRow : row < (screenTextRows screen.rows).length) (hPos : 0 < windowRows)
  (hFinal : (lookInWindow screen row col motion windowRows).2 = true) :
  (lookInWindow screen row col motion windowRows).1 =
    (wholeScreen screen).wordMotion row col motion := by
  have hTotal : row < screen.rows.length := by
    rw [screenTextRows, screenTextRowsRange, List.drop_zero, List.length_take] at hRow
    omega
  cases motion with
  | nextStart =>
    have hTo : row < min (row + windowRows) screen.rows.length := by omega
    obtain ⟨before, window, after, hFramed⟩ := framed hFlags hOpen (Nat.le_of_lt hTo) hRow
    refine hFramed.wordMotion .nextStart (Nat.le_refl row) hTo fun current hCurrent hLt => ?_
    refine hFramed.nextWordStart hLt ?_
    rcases Bool.or_eq_true_iff.1 hFinal with hFound | hEdge
    · refine .inl ?_
      have hTarget := hFramed.target_eq .nextStart hCurrent
      have hSome := (Bool.and_eq_true_iff.1 (Bool.and_eq_true_iff.1 hFound).1).1
      exact (congrArg Option.isSome hTarget).symm.trans hSome
    · exact .inr (Nat.le_of_eq (beq_iff_eq.1 hEdge).symm)
  | nextEnd =>
    have hTo : row < min (row + windowRows) screen.rows.length := by omega
    obtain ⟨before, window, after, hFramed⟩ := framed hFlags hOpen (Nat.le_of_lt hTo) hRow
    refine hFramed.wordMotion .nextEnd (Nat.le_refl row) hTo fun current hCurrent hLt => ?_
    refine hFramed.nextWordEnd hLt ?_
    rcases Bool.or_eq_true_iff.1 hFinal with hFound | hEdge
    · obtain ⟨hFound, hFuture⟩ := Bool.and_eq_true_iff.1 hFound
      obtain ⟨target, hTarget⟩ := Option.isSome_iff_exists.1 (Bool.and_eq_true_iff.1 hFound).1
      refine .inr ⟨target, (hFramed.target_eq .nextEnd hCurrent).symm.trans hTarget, ?_⟩
      rintro ⟨hEnds, hLast⟩
      rw [Bool.not_eq_true'] at hFuture
      exact Bool.false_ne_true (hFuture.symm.trans (Bool.and_eq_true_iff.2
        ⟨hEnds, (Option.any_eq_true _ _).2 ⟨target, hTarget, hLast⟩⟩))
    · exact .inl (Nat.le_of_eq (beq_iff_eq.1 hEdge).symm)
  | previousStart =>
    have hFrom : row - (windowRows - 1) ≤ row := Nat.sub_le _ _
    obtain ⟨before, window, after, hFramed⟩ :=
      framed hFlags hOpen (Nat.le_succ_of_le hFrom) (Nat.lt_of_le_of_lt hFrom hRow)
    refine hFramed.wordMotion .previousStart hFrom (Nat.lt_succ_self row)
      fun current hCurrent hLt => ?_
    refine hFramed.previousWordStart hLt ?_
    rcases Bool.or_eq_true_iff.1 hFinal with hFound | hEdge
    · obtain ⟨hFound, -⟩ := Bool.and_eq_true_iff.1 hFound
      obtain ⟨hSome, hHistory⟩ := Bool.and_eq_true_iff.1 hFound
      obtain ⟨target, hTarget⟩ := Option.isSome_iff_exists.1 hSome
      refine .inr ⟨target, (hFramed.target_eq .previousStart hCurrent).symm.trans hTarget, ?_⟩
      rintro ⟨hStarts, hTargetRow⟩
      rw [Bool.not_eq_true'] at hHistory
      exact Bool.false_ne_true (hHistory.symm.trans ((Option.any_eq_true _ _).2
        ⟨target, hTarget, Bool.and_eq_true_iff.2 ⟨hStarts, beq_iff_eq.2 hTargetRow⟩⟩))
    · exact .inl (beq_iff_eq.1 hEdge)

/-- The motion over a growing window of rows has the target of the motion over the whole
retained screen, if no row continues a line with the free place before a wide cell. -/
theorem word_motion_whole_screen {screen : ScreenSnapshot} (hFlags : WrapFlagsAgree screen.rows)
  (hOpen : ContinuationsOpen screen.rows) (row : UInt32) (col : UInt16)
  (motion : TerminalWordMotion) :
  wordMotionTarget screen row col motion =
    (wholeScreen screen).wordMotion row.toNat col.toNat motion := by
  have hRow32 : row.toNat < maxRow + 1 := row.toNat_lt
  have hLength : (screenTextRows screen.rows).length = min screen.rows.length (maxRow + 1) := by
    rw [screenTextRows, screenTextRowsRange, List.drop_zero, List.length_take]
    omega
  rw [wordMotionTarget]
  split
  case isTrue hRow =>
    refine GrowingWindow.search_eq _ fun size hPos hFinal => ?_
    exact lookInWindow_right hFlags hOpen col.toNat motion (by omega) hPos hFinal
  case isFalse hRow =>
    have hNone : (wholeScreen screen).atoms.findIdx? (covers row.toNat col.toNat) =
        none := by
      refine List.findIdx?_eq_none_iff.2 fun atom hMem => ?_
      refine covers_of_other_row col.toNat fun point hPoint => ?_
      rw [wholeScreen_atoms] at hMem
      obtain rfl | ⟨other, hOther, -, hTo⟩ := mem_screenAtoms hMem
      · cases hPoint
      · obtain rfl := Option.some.inj (hPoint.symm.trans hOther)
        omega
    rw [wordMotion, hNone, Option.bind_none]

def letterCell (ch : Char) : ScreenTextCell := ⟨.narrow, [ch.toNat]⟩

/-- A word that is wrapped in each of more rows than the first window has. -/
def wrappedWord : ScreenSnapshot where
  cols := 1
  rows := (List.range 100).map fun row => ⟨[letterCell 'a'], row < 99, 0 < row⟩

theorem row_wrappedWord {index : Nat} {row : ScreenTextRow}
  (hRow : wrappedWord.rows[index]? = some row) :
  index < 100 ∧ row = ⟨[letterCell 'a'], index < 99, 0 < index⟩ := by
  rw [wrappedWord, List.getElem?_map] at hRow
  obtain ⟨_, hIndex, rfl⟩ := Option.map_eq_some_iff.1 hRow
  obtain ⟨hLess, rfl⟩ := List.getElem?_eq_some_iff.1 hIndex
  rw [List.length_range] at hLess
  exact ⟨hLess, by rw [List.getElem_range]⟩

theorem wrapFlagsAgree_wrappedWord : WrapFlagsAgree wrappedWord.rows := by
  intro index row next hRow hNext
  obtain ⟨hLess, rfl⟩ := row_wrappedWord hNext
  obtain ⟨-, rfl⟩ := row_wrappedWord hRow
  simp
  omega

theorem continuationsOpen_wrappedWord : ContinuationsOpen wrappedWord.rows := by
  intro index row hRow _
  obtain ⟨-, rfl⟩ := row_wrappedWord hRow
  rfl

theorem word_motion_whole_screen_wrappedWord :
  wordMotionTarget wrappedWord 0 0 .nextEnd =
    (wholeScreen wrappedWord).wordMotion 0 0 .nextEnd :=
  word_motion_whole_screen wrapFlagsAgree_wrappedWord continuationsOpen_wrappedWord 0 0 .nextEnd

/-- A row that begins with the free place before a wide cell takes the class of what
precedes it, which a window beginning at the row does not contain. -/
def headAtFront : ScreenSnapshot where
  cols := 2
  rows :=
    [⟨[letterCell ' ', letterCell 'a'], true, false⟩,
     ⟨[⟨.spacerHead, []⟩, letterCell 'b'], false, true⟩]

theorem not_word_motion_whole_screen :
  ¬ ∀ screen : ScreenSnapshot, WrapFlagsAgree screen.rows → ∀ row col motion,
    wordMotionTarget screen row col motion =
      (wholeScreen screen).wordMotion row.toNat col.toNat motion := by
  intro hAll
  have hFlags : WrapFlagsAgree headAtFront.rows := by
    intro index row next hRow hNext
    rcases index with _ | index
    · cases hRow
      cases hNext
      rfl
    · rw [headAtFront, List.getElem?_eq_none (by simp)] at hNext
      cases hNext
  have hSame := hAll headAtFront hFlags 1 0 .nextStart
  have hWindow : wordMotionTarget headAtFront 1 0 .nextStart = some ⟨1, 1⟩ := by
    decide +kernel
  have hWhole : (wholeScreen headAtFront).wordMotion 1 0 .nextStart = none := by
    decide +kernel
  rw [hWindow] at hSame
  exact Option.some_ne_none _ (hSame.trans hWhole)

end Terminal
