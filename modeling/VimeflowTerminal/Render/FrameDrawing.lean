import VimeflowTerminal.Render.HostTerminal

/-! What the encoder writes for a frame, read by a terminal, leaves the frame on
its screen: the full redraw over any screen, and the changed cells over the
screen of the frame before. -/

namespace Render

open GlyphRow

section Content

variable {ρ : Type} (R : Rendering ρ) (symbolWidth : String → Nat)

/-- The glyph of a cell: its symbol, its style from scratch, its link as it is sent. -/
def cellGlyph (frame : FrameData) (cell : CellData) : Glyph ρ where
  symbol := cell.symbol
  rendition := renditionOf R (buildSgr cell.fg cell.bg cell.modifier)
  link := (cellHyperlinkUri frame cell).bind sanitizedHyperlinkUri

def rowContent (frame : FrameData) (row col : Nat) : Glyph ρ × Bool :=
  (cellGlyph R frame (frame.cell row col),
    decide (col < frame.width) && cellWidth symbolWidth (frame.cell row col) == 2)

/-- The screen shows exactly the cells of the frame. -/
def Shows (screen : Nat → Nat → Cell (Glyph ρ)) (frame : FrameData) : Prop :=
  ∀ row < frame.height, ∀ col < frame.width,
    screen row col = drawn (rowContent R symbolWidth frame row) col

end Content

section WellFormed

variable {ρ : Type} {R : Rendering ρ} {symbolWidth : String → Nat} {frame prev : FrameData}
  {row col : Nat}

theorem rowContent_wide (hCol : col < frame.width) :
  (rowContent R symbolWidth frame row col).2 =
    (cellWidth symbolWidth (frame.cell row col) == 2) := by
  simp [rowContent, hCol]

theorem covered_rowContent (hCol : col ≤ frame.width) :
  covered (rowContent R symbolWidth frame row) col = frame.continuation symbolWidth row col := by
  cases col with
  | zero => rfl
  | succ before => exact rowContent_wide hCol

theorem FrameData.WellFormed.spaced (hFrame : frame.WellFormed symbolWidth)
  (hRow : row < frame.height) : Spaced (rowContent R symbolWidth frame row) := by
  intro col hWide
  simp only [rowContent, Bool.and_eq_true, decide_eq_true_eq, beq_iff_eq] at hWide
  obtain ⟨hNext, hNarrow⟩ := hFrame.wide hRow hWide.1 hWide.2
  rw [rowContent_wide hNext, beq_eq_false_iff_ne]
  omega

theorem rowContent_eq (hWidth : prev.width = frame.width)
  (hEqual : cellsVisuallyEqual (sanitizedFrameHyperlinks frame) (frame.cell row col)
    (sanitizedFrameHyperlinks prev) (prev.cell row col) = true) :
  rowContent R symbolWidth prev row col = rowContent R symbolWidth frame row col := by
  simp only [cellsVisuallyEqual, Bool.and_eq_true, beq_iff_eq,
    sanitizedCellHyperlinkUri_frame] at hEqual
  obtain ⟨⟨⟨⟨hSymbol, hFg⟩, hBg⟩, hModifier⟩, hLink⟩ := hEqual
  simp [rowContent, cellGlyph, cellWidth, hSymbol, hFg, hBg, hModifier, hLink, hWidth]

end WellFormed

section Cells

variable {ρ : Type} (R : Rendering ρ) (symbolWidth : String → Nat)

/-- The terminal with a cell of the frame put in its place. -/
def putCell (frame : FrameData) (row col : Nat) (t : HostTerminal ρ) : HostTerminal ρ :=
  let cell := frame.cell row col
  { t with
    screen := Function.update t.screen row
      (put (t.screen row) col (rowContent R symbolWidth frame row col))
    cursor := (col + cellWidth symbolWidth cell, row)
    rendition := renditionOf R (buildSgr cell.fg cell.bg cell.modifier)
    link := (cellHyperlinkUri frame cell).bind sanitizedHyperlinkUri }

/-- The terminal writes in the style and with the link the encoder believes to be
in force. -/
structure HoldsPen (pen : Pen) (t : HostTerminal ρ) : Prop where
  link : t.link = pen.activeHyperlink
  rendition : pen.lastSgr ≠ "" → t.rendition = renditionOf R pen.lastSgr

end Cells

section Cells

variable {ρ : Type} {R : Rendering ρ} {symbolWidth : String → Nat} {frame prev : FrameData}
  {row col : Nat} {t : HostTerminal ρ}

open HostTerminal

theorem buildSgr_ne_empty (fg bg : UInt32) (modifier : UInt16) : buildSgr fg bg modifier ≠ "" := by
  intro hEmpty
  obtain ⟨rest, hRead⟩ := readSequence_buildSgr fg bg modifier
  rw [hEmpty] at hRead
  cases hRead

/-- The style in force after the writes of a cell is its own, whether it had to
be written or not. -/
theorem run_style {pen : Pen} (hPen : HoldsPen R pen t) (fg bg : UInt32) (modifier : UInt16) :
  t.run R symbolWidth
      (if buildSgr fg bg modifier ≠ pen.lastSgr then [.control (buildSgr fg bg modifier)] else []) =
    { t with rendition := renditionOf R (buildSgr fg bg modifier) } := by
  split
  · rw [run_cons, write_buildSgr, run_nil]
  rename_i hSame
  rw [not_not] at hSame
  rw [run_nil, hSame, ← hPen.rendition (hSame ▸ buildSgr_ne_empty fg bg modifier)]

theorem run_writeCell (symbolWidth : String → Nat) {pen : Pen} {cursorPosition : Option (Nat × Nat)}
  (hPen : HoldsPen R pen t) (hSkip : (frame.cell row col).skip = false)
  (hCursor : cursorPosition = some (col, row) ∨ cursorPosition = none ∧ t.cursor = (col, row))
  (hCol : col < frame.width) :
  t.run R symbolWidth (writeCell cursorPosition (frame.cell row col) pen frame).2 =
    putCell R symbolWidth frame row col t := by
  have hMoved : t.run R symbolWidth (cursorPosition.toList.map writeCursorPosition) =
      { t with cursor := (col, row) } := by
    rcases hCursor with rfl | ⟨rfl, hAt⟩
    · simp
    · show t = _
      rw [← hAt]
  have hPen' : HoldsPen R pen { t with cursor := (col, row) } := ⟨hPen.link, hPen.rendition⟩
  obtain ⟨styled, hStyled⟩ : ∃ styled, styled = { t with
      cursor := (col, row)
      rendition := renditionOf R (buildSgr (frame.cell row col).fg (frame.cell row col).bg
        (frame.cell row col).modifier) } := ⟨_, rfl⟩
  have hLink : styled.link = pen.activeHyperlink := by rw [hStyled]; exact hPen.link
  simp only [writeCell, hSkip, Bool.false_eq_true, if_false, run_append, hMoved, run_style hPen']
  rw [← hStyled, run_writeHyperlinkIfChanged hLink, run_cons, run_nil, hStyled]
  simp only [write, putSymbol, putCell, rowContent, cellGlyph, cellWidth, hCol, decide_true,
    Bool.true_and]

theorem holdsPen_putCell (R : Rendering ρ) (symbolWidth : String → Nat) (t : HostTerminal ρ)
  (pen : Pen) (cursorPosition : Option (Nat × Nat)) (hSkip : (frame.cell row col).skip = false) :
  HoldsPen R (writeCell cursorPosition (frame.cell row col) pen frame).1
    (putCell R symbolWidth frame row col t) := by
  simp only [writeCell, hSkip, Bool.false_eq_true, if_false]
  refine ⟨?_, ?_⟩
  · rw [writeHyperlinkIfChanged_active]
    rfl
  · intro _
    simp only [putCell]

end Cells

section Changed

variable {ρ : Type} (R : Rendering ρ) (symbolWidth : String → Nat)

/-- A frame that is drawn over one of its own size. -/
structure Successor (prev frame : FrameData) : Prop where
  prevWellFormed : prev.WellFormed symbolWidth
  wellFormed : frame.WellFormed symbolWidth
  unskipped : frame.Unskipped symbolWidth
  width_eq : prev.width = frame.width
  height_eq : prev.height = frame.height

/-- The cells before `col` of the row have been gone through. The other rows and
the shape of the cursor are those of `start`. -/
structure ChangedAt (frame prev : FrameData) (start : HostTerminal ρ) (row col : Nat)
  (s : ChangedScan) (t : HostTerminal ρ) : Prop where
  replacing : Replacing (rowContent R symbolWidth prev row) (rowContent R symbolWidth frame row)
    frame.width col (t.screen row)
  others : ∀ other, other ≠ row → t.screen other = start.screen other
  shape : t.cursorShape = start.cursorShape
  pen : HoldsPen R s.pen t
  inline : ∀ k, s.nextInlineCol = some k → t.cursor = (k, row)
  toSkip : s.toSkip = if covered (rowContent R symbolWidth frame row) col then 1 else 0
  invalidated : s.invalidated =
    if covered (rowContent R symbolWidth frame row) col ||
      covered (rowContent R symbolWidth prev row) col then 1 else 0

end Changed

section Changed

variable {ρ : Type} {R : Rendering ρ} {symbolWidth : String → Nat} {frame prev : FrameData}
  {row col : Nat} {start t t₀ : HostTerminal ρ} {s : ChangedScan}

open HostTerminal

theorem FrameData.WellFormed.toSkip (hFrame : frame.WellFormed symbolWidth)
  (hRow : row < frame.height) (hCol : col < frame.width) :
  cellWidth symbolWidth (frame.cell row col) - 1 =
    if covered (rowContent R symbolWidth frame row) (col + 1) then 1 else 0 := by
  have hLe := hFrame.width_le hRow hCol
  rw [covered_succ, rowContent_wide hCol]
  split
  · rename_i hWide
    rw [beq_iff_eq] at hWide
    omega
  · rename_i hNarrow
    rw [beq_iff_eq] at hNarrow
    omega

/-- A column is invalidated by a wide symbol before it, in the frame or in the
one it replaces. -/
theorem Successor.invalidated (hPair : Successor symbolWidth prev frame)
  (hRow : row < frame.height) (hCol : col < frame.width) {before : Nat} (hBefore : before ≤ 1) :
  max (max (cellWidth symbolWidth (frame.cell row col))
      (cellWidth symbolWidth (prev.cell row col))) before - 1 =
    if covered (rowContent R symbolWidth frame row) (col + 1) ||
      covered (rowContent R symbolWidth prev row) (col + 1) then 1 else 0 := by
  have hPrevCol : col < prev.width := hPair.width_eq ▸ hCol
  have hLe := hPair.wellFormed.width_le hRow hCol
  have hPrevLe := hPair.prevWellFormed.width_le (hPair.height_eq ▸ hRow) hPrevCol
  rw [covered_succ, covered_succ, rowContent_wide hCol, rowContent_wide hPrevCol]
  split
  · rename_i hWide
    rw [Bool.or_eq_true, beq_iff_eq, beq_iff_eq] at hWide
    omega
  · rename_i hNarrow
    rw [Bool.or_eq_true, beq_iff_eq, beq_iff_eq] at hNarrow
    omega

theorem Successor.prev_cell (hPair : Successor symbolWidth prev frame) :
  prev.cells[row * frame.width + col]! = prev.cell row col := by
  rw [FrameData.cell, hPair.width_eq]

section

variable (hAt : ChangedAt R symbolWidth frame prev start row col s t)
include hAt

/-- A cell that nothing covers is left as it is only if it is shown already. -/
theorem ChangedAt.shown
  (hPair : Successor symbolWidth prev frame) (hRow : row < frame.height)
  (hCol : col < frame.width) (hKept : cellToWrite frame prev row s col = false)
  (hFree : covered (rowContent R symbolWidth frame row) col = false) :
  covered (rowContent R symbolWidth prev row) col = false ∧
    rowContent R symbolWidth prev row col = rowContent R symbolWidth frame row col := by
  have hSkip := hPair.unskipped row hRow col hCol (covered_rowContent hCol.le ▸ hFree)
  have hToSkip : s.toSkip = 0 := by rw [hAt.toSkip, hFree]; rfl
  simp only [cellToWrite, hSkip, hToSkip, hPair.prev_cell, Bool.not_false, Bool.true_and,
    beq_self_eq_true, Bool.and_true, Bool.or_eq_false_iff, Bool.not_eq_false',
    decide_eq_false_iff_not] at hKept
  have hInvalidated := hAt.invalidated
  rw [hFree, Bool.false_or] at hInvalidated
  refine ⟨?_, rowContent_eq hPair.width_eq hKept.1⟩
  cases hOld : covered (rowContent R symbolWidth prev row) col with
  | false => rfl
  | true =>
    rw [hOld, if_pos rfl] at hInvalidated
    omega

/-- Going past a cell that is not written. -/
theorem ChangedAt.pass
  (hPair : Successor symbolWidth prev frame) (hRow : row < frame.height)
  (hCol : col < frame.width) (hKept : cellToWrite frame prev row s col = false) :
  Replacing (rowContent R symbolWidth prev row) (rowContent R symbolWidth frame row)
    frame.width (col + 1) (t.screen row) := by
  have hSpaced := hPair.wellFormed.spaced (R := R) hRow
  have hPrevSpaced := hPair.prevWellFormed.spaced (R := R) (hPair.height_eq ▸ hRow)
  cases hFree : covered (rowContent R symbolWidth frame row) col with
  | true => exact hAt.replacing.pass hSpaced hFree
  | false =>
    obtain ⟨hOldFree, hSame⟩ := hAt.shown hPair hRow hCol hKept hFree
    refine hAt.replacing.keep hPrevSpaced hFree hOldFree hSame hCol ?_
    intro hWide
    rw [rowContent_wide hCol, beq_iff_eq] at hWide
    exact (hPair.wellFormed.wide hRow hCol hWide).1

theorem ChangedAt.free_of_write
  (hWrite : cellToWrite frame prev row s col = true) :
  covered (rowContent R symbolWidth frame row) col = false ∧
    (frame.cell row col).skip = false := by
  simp only [cellToWrite, Bool.and_eq_true, Bool.not_eq_true', beq_iff_eq] at hWrite
  refine ⟨?_, hWrite.1.1⟩
  have hToSkip := hAt.toSkip
  rw [hWrite.2] at hToSkip
  cases hCovered : covered (rowContent R symbolWidth frame row) col with
  | false => rfl
  | true => rw [hCovered, if_pos rfl] at hToSkip; omega

end

theorem ChangedAt.run_changedCell
  (hAt : ChangedAt R symbolWidth frame prev start row col s (t₀.run R symbolWidth s.written))
  (hCol : col < frame.width) (hSkip : (frame.cell row col).skip = false) :
  t₀.run R symbolWidth (writeChangedCell symbolWidth frame row s col).written =
    putCell R symbolWidth frame row col (t₀.run R symbolWidth s.written) := by
  simp only [writeChangedCell, run_append]
  refine run_writeCell symbolWidth hAt.pen hSkip ?_ hCol
  split
  · exact .inl rfl
  rename_i hInline
  rw [not_or, not_not] at hInline
  exact .inr ⟨rfl, hAt.inline col hInline.1⟩

/-- The row after one more of its cells. -/
theorem ChangedAt.step
  (hAt : ChangedAt R symbolWidth frame prev start row col s (t₀.run R symbolWidth s.written))
  (hPair : Successor symbolWidth prev frame) (hRow : row < frame.height)
  (hCol : col < frame.width) :
  ChangedAt R symbolWidth frame prev start row (col + 1)
    (writeChangedStep symbolWidth frame prev row s col)
    (t₀.run R symbolWidth (writeChangedStep symbolWidth frame prev row s col).written) := by
  have hBefore : s.invalidated ≤ 1 := by rw [hAt.invalidated]; split <;> omega
  have hToSkip := hPair.wellFormed.toSkip (R := R) hRow hCol
  have hInvalidated := hPair.invalidated (R := R) hRow hCol hBefore
  unfold writeChangedStep
  simp only [hPair.prev_cell]
  cases hWrite : cellToWrite frame prev row s col with
  | false =>
    exact ⟨hAt.pass hPair hRow hCol hWrite, hAt.others, hAt.shape, hAt.pen, hAt.inline, hToSkip,
      hInvalidated⟩
  | true =>
    obtain ⟨hFree, hSkip⟩ := hAt.free_of_write hWrite
    have hPrevSpaced := hPair.prevWellFormed.spaced (R := R) (hPair.height_eq ▸ hRow)
    have hRun := hAt.run_changedCell hCol hSkip
    refine ⟨?_, ?_, ?_, ?_, ?_, hToSkip, hInvalidated⟩
    · simp only [if_true, hRun, putCell, Function.update_self]
      exact hAt.replacing.put hPrevSpaced hFree
    · intro other hOther
      simp only [if_true, hRun, putCell, Function.update_of_ne hOther]
      exact hAt.others other hOther
    · simp only [if_true, hRun]
      exact hAt.shape
    · simp only [if_true, hRun]
      exact holdsPen_putCell _ _ _ _ _ hSkip
    · intro k hInline
      simp only [if_true, hRun, putCell]
      obtain ⟨hNarrow, hNext⟩ := Option.ite_none_right_eq_some.1 hInline
      cases hNext
      rw [Bool.and_eq_true, beq_iff_eq] at hNarrow
      rw [hNarrow.2]

theorem run_writeChangedRow (hPair : Successor symbolWidth prev frame) (hRow : row < frame.height)
  (hPen : HoldsPen R s.pen (t₀.run R symbolWidth s.written))
  (hOld : ∀ col < frame.width, (t₀.run R symbolWidth s.written).screen row col =
    drawn (rowContent R symbolWidth prev row) col) :
  ChangedAt R symbolWidth frame prev (t₀.run R symbolWidth s.written) row frame.width
    (writeChangedRow symbolWidth frame prev s row)
    (t₀.run R symbolWidth (writeChangedRow symbolWidth frame prev s row).written) := by
  refine foldl_range_preserves (fun col s' => ChangedAt R symbolWidth frame prev
    (t₀.run R symbolWidth s.written) row col s' (t₀.run R symbolWidth s'.written)) ?_ ?_
  · exact ⟨Replacing.start hOld, fun _ _ => rfl, rfl, ⟨hPen.link, hPen.rendition⟩, nofun, rfl, rfl⟩
  · intro col s' hCol hAt
    exact hAt.step hPair hRow hCol

/-- The rows before `rows` show the frame, those after it the frame before. -/
structure ChangedRows (R : Rendering ρ) (symbolWidth : String → Nat) (frame prev : FrameData)
  (start : HostTerminal ρ) (rows : Nat) (s : ChangedScan) (t : HostTerminal ρ) : Prop where
  done : ∀ row < rows, ∀ col < frame.width,
    t.screen row col = drawn (rowContent R symbolWidth frame row) col
  rest : ∀ row, rows ≤ row → t.screen row = start.screen row
  shape : t.cursorShape = start.cursorShape
  pen : HoldsPen R s.pen t

theorem ChangedRows.step {rows : Nat}
  (hRows : ChangedRows R symbolWidth frame prev start rows s (t₀.run R symbolWidth s.written))
  (hPair : Successor symbolWidth prev frame) (hStart : Shows R symbolWidth start.screen prev)
  (hRow : rows < frame.height) :
  ChangedRows R symbolWidth frame prev start (rows + 1)
    (writeChangedRow symbolWidth frame prev s rows)
    (t₀.run R symbolWidth (writeChangedRow symbolWidth frame prev s rows).written) := by
  have hOld : ∀ col < frame.width, (t₀.run R symbolWidth s.written).screen rows col =
      drawn (rowContent R symbolWidth prev rows) col := by
    intro col hCol
    rw [hRows.rest rows (Nat.le_refl _)]
    exact hStart rows (hPair.height_eq ▸ hRow) col (hPair.width_eq ▸ hCol)
  have hAfter := run_writeChangedRow hPair hRow hRows.pen hOld
  refine ⟨?_, ?_, hAfter.shape.trans hRows.shape, hAfter.pen⟩
  · intro row hLt col hCol
    obtain hBefore | rfl : row < rows ∨ row = rows := by omega
    · rw [hAfter.others row (by omega)]
      exact hRows.done row hBefore col hCol
    · exact hAfter.replacing.done.finish col hCol
  · intro row hLe
    rw [hAfter.others row (by omega)]
    exact hRows.rest row (by omega)

/-- The changed cells turn the screen of the previous frame into that of the frame. -/
theorem run_writeChangedCells (hPair : Successor symbolWidth prev frame)
  (hStart : Shows R symbolWidth start.screen prev) (hLink : start.link = none) :
  Shows R symbolWidth (start.run R symbolWidth (writeChangedCells symbolWidth frame prev)).screen
      frame ∧
    (start.run R symbolWidth (writeChangedCells symbolWidth frame prev)).cursorShape =
      start.cursorShape := by
  obtain ⟨last, hLast⟩ : ∃ last, last = (List.range frame.height).foldl
      (writeChangedRow symbolWidth frame prev) ⟨0, 0, none, ⟨"", none⟩, []⟩ := ⟨_, rfl⟩
  have hRows : ChangedRows R symbolWidth frame prev start frame.height last
      (start.run R symbolWidth last.written) := by
    rw [hLast]
    refine foldl_range_preserves (fun rows s => ChangedRows R symbolWidth frame prev start rows s
      (start.run R symbolWidth s.written)) ?_ ?_
    · exact ⟨nofun, fun _ _ => rfl, rfl, hLink, fun hNe => absurd rfl hNe⟩
    · intro rows s hRow hInv
      exact hInv.step hPair hStart hRow
  simp only [writeChangedCells, ← hLast, run_append, run_closeHyperlink hRows.pen.link]
  split
  · exact ⟨hRows.done, hRows.shape⟩
  · exact ⟨hRows.done, hRows.shape⟩

end Changed

section All

variable {ρ : Type} {R : Rendering ρ} {symbolWidth : String → Nat} {frame : FrameData}
  {row col : Nat} {start t t₀ : HostTerminal ρ} {s : AllCellsScan}

open HostTerminal

/-- The cells before `col` of the row are drawn. The other rows and the shape of
the cursor are those of `start`. -/
structure AllAt (R : Rendering ρ) (symbolWidth : String → Nat) (frame : FrameData)
  (start : HostTerminal ρ) (row col : Nat) (s : AllCellsScan) (t : HostTerminal ρ) : Prop where
  drawing : Drawing (rowContent R symbolWidth frame row) col (t.screen row)
  others : ∀ other, other ≠ row → t.screen other = start.screen other
  shape : t.cursorShape = start.cursorShape
  link : t.link = s.activeHyperlink
  toSkip : s.toSkip = if covered (rowContent R symbolWidth frame row) col then 1 else 0

/-- The full redraw writes a cell as it is written when no style is known to be in
force. -/
theorem writeAllCellsStep_free (hToSkip : s.toSkip = 0)
  (hSkip : (frame.cell row col).skip = false) :
  writeAllCellsStep symbolWidth frame row s col =
    { toSkip := cellWidth symbolWidth (frame.cell row col) - 1
      activeHyperlink := (writeCell (some (col, row)) (frame.cell row col)
        ⟨"", s.activeHyperlink⟩ frame).1.activeHyperlink
      written := s.written ++ (writeCell (some (col, row)) (frame.cell row col)
        ⟨"", s.activeHyperlink⟩ frame).2 } := by
  simp [writeAllCellsStep, writeCell, hToSkip, hSkip, buildSgr_ne_empty]

theorem AllAt.step
  (hAt : AllAt R symbolWidth frame start row col s (t₀.run R symbolWidth s.written))
  (hFrame : frame.WellFormed symbolWidth) (hUnskipped : frame.Unskipped symbolWidth)
  (hRow : row < frame.height) (hCol : col < frame.width) :
  AllAt R symbolWidth frame start row (col + 1) (writeAllCellsStep symbolWidth frame row s col)
    (t₀.run R symbolWidth (writeAllCellsStep symbolWidth frame row s col).written) := by
  have hSpaced := hFrame.spaced (R := R) hRow
  cases hFree : covered (rowContent R symbolWidth frame row) col with
  | true =>
    have hOne : s.toSkip = 1 := by rw [hAt.toSkip, hFree]; rfl
    have hNext : covered (rowContent R symbolWidth frame row) (col + 1) = false :=
      hSpaced.free_after hFree
    simp only [writeAllCellsStep, hOne, Nat.lt_add_one, if_true]
    exact ⟨hAt.drawing.pass hSpaced hFree, hAt.others, hAt.shape, hAt.link, by simp [hNext]⟩
  | false =>
    have hZero : s.toSkip = 0 := by rw [hAt.toSkip, hFree]; rfl
    have hSkip := hUnskipped row hRow col hCol (covered_rowContent hCol.le ▸ hFree)
    have hPen : HoldsPen R ⟨"", s.activeHyperlink⟩ (t₀.run R symbolWidth s.written) :=
      ⟨hAt.link, fun hNe => absurd rfl hNe⟩
    have hRun := run_writeCell symbolWidth hPen hSkip (.inl rfl) hCol
    have hHolds := holdsPen_putCell R symbolWidth (t₀.run R symbolWidth s.written)
      ⟨"", s.activeHyperlink⟩ (some (col, row)) hSkip
    rw [writeAllCellsStep_free hZero hSkip]
    simp only [run_append, hRun]
    refine ⟨?_, ?_, hAt.shape, hHolds.link, hFrame.toSkip hRow hCol⟩
    · simp only [putCell, Function.update_self]
      exact hAt.drawing.put hFree
    intro other hOther
    simp only [putCell, Function.update_of_ne hOther]
    exact hAt.others other hOther

theorem run_writeAllCellsRow (hFrame : frame.WellFormed symbolWidth)
  (hUnskipped : frame.Unskipped symbolWidth) (hRow : row < frame.height)
  (hLink : (t₀.run R symbolWidth s.written).link = s.activeHyperlink) :
  AllAt R symbolWidth frame (t₀.run R symbolWidth s.written) row frame.width
    (writeAllCellsRow symbolWidth frame s row)
    (t₀.run R symbolWidth (writeAllCellsRow symbolWidth frame s row).written) := by
  refine foldl_range_preserves (fun col s' => AllAt R symbolWidth frame
    (t₀.run R symbolWidth s.written) row col s' (t₀.run R symbolWidth s'.written)) ?_ ?_
  · exact ⟨Drawing.start, fun _ _ => rfl, rfl, hLink, rfl⟩
  · intro col s' hCol hAt
    exact hAt.step hFrame hUnskipped hRow hCol

/-- The rows before `rows` show the frame. -/
structure AllRows (R : Rendering ρ) (symbolWidth : String → Nat) (frame : FrameData)
  (start : HostTerminal ρ) (rows : Nat) (s : AllCellsScan) (t : HostTerminal ρ) : Prop where
  done : ∀ row < rows, ∀ col < frame.width,
    t.screen row col = drawn (rowContent R symbolWidth frame row) col
  shape : t.cursorShape = start.cursorShape
  link : t.link = s.activeHyperlink

theorem AllRows.step {rows : Nat}
  (hRows : AllRows R symbolWidth frame start rows s (t₀.run R symbolWidth s.written))
  (hFrame : frame.WellFormed symbolWidth) (hUnskipped : frame.Unskipped symbolWidth)
  (hRow : rows < frame.height) :
  AllRows R symbolWidth frame start (rows + 1) (writeAllCellsRow symbolWidth frame s rows)
    (t₀.run R symbolWidth (writeAllCellsRow symbolWidth frame s rows).written) := by
  have hAfter := run_writeAllCellsRow hFrame hUnskipped hRow hRows.link
  refine ⟨?_, hAfter.shape.trans hRows.shape, hAfter.link⟩
  intro row hLt col hCol
  obtain hBefore | rfl : row < rows ∨ row = rows := by omega
  · rw [hAfter.others row (by omega)]
    exact hRows.done row hBefore col hCol
  · exact hAfter.drawing.finish col hCol

/-- A full redraw shows the frame, whatever the screen was. -/
theorem run_writeAllCells (hFrame : frame.WellFormed symbolWidth)
  (hUnskipped : frame.Unskipped symbolWidth) (hLink : start.link = none) :
  Shows R symbolWidth (start.run R symbolWidth (writeAllCells symbolWidth frame)).screen frame ∧
    (start.run R symbolWidth (writeAllCells symbolWidth frame)).cursorShape =
      start.cursorShape := by
  obtain ⟨last, hLast⟩ : ∃ last, last = (List.range frame.height).foldl
      (writeAllCellsRow symbolWidth frame) ⟨0, none, []⟩ := ⟨_, rfl⟩
  have hRows : AllRows R symbolWidth frame start frame.height last
      (start.run R symbolWidth last.written) := by
    rw [hLast]
    refine foldl_range_preserves (fun rows s => AllRows R symbolWidth frame start rows s
      (start.run R symbolWidth s.written)) ?_ ?_
    · exact ⟨nofun, rfl, hLink⟩
    · intro rows s hRow hInv
      exact hInv.step hFrame hUnskipped hRow
  simp only [writeAllCells, ← hLast, run_append, run_closeHyperlink hRows.link]
  exact ⟨hRows.done, hRows.shape⟩

end All

section Frames

variable {ρ : Type} {R : Rendering ρ} {symbolWidth : String → Nat} {repeatImeAnchor : Bool}
  {frame : FrameData} {t : HostTerminal ρ}

open HostTerminal

theorem sizeChanged_some {prev : FrameData} (hSame : sizeChanged frame (some prev) = false) :
  prev.width = frame.width ∧ prev.height = frame.height := by
  simpa [sizeChanged] using hSame

/-- The screen is that of the previous frame, as far as the encoder relies on it. -/
def Follows (R : Rendering ρ) (symbolWidth : String → Nat) (t : HostTerminal ρ)
  (prev : Option FrameData) (frame : FrameData) : Prop :=
  ∀ old, prev = some old → old.WellFormed symbolWidth ∧
    (sizeChanged frame (some old) = false → Shows R symbolWidth t.screen old)

theorem run_writeAllCells_cleared (hFrame : frame.WellFormed symbolWidth)
  (hUnskipped : frame.Unskipped symbolWidth) (hLink : t.link = none) (clear : Bool) :
  Shows R symbolWidth (t.run R symbolWidth
      ((if clear then [.control "\x1b[2J"] else []) ++ writeAllCells symbolWidth frame)).screen
      frame ∧
    (t.run R symbolWidth ((if clear then [.control "\x1b[2J"] else []) ++
      writeAllCells symbolWidth frame)).cursorShape = t.cursorShape := by
  rw [run_append]
  cases clear with
  | false => exact run_writeAllCells hFrame hUnskipped hLink
  | true =>
    have hBlank : ({ t with screen := fun _ _ => .blank } : HostTerminal ρ).link = none := hLink
    simpa using run_writeAllCells (R := R) hFrame hUnskipped hBlank

theorem run_writeCells {prev : Option FrameData} (hFrame : frame.WellFormed symbolWidth)
  (hUnskipped : frame.Unskipped symbolWidth) (hPrev : Follows R symbolWidth t prev frame)
  (hLink : t.link = none) (clear : Bool) :
  Shows R symbolWidth (t.run R symbolWidth (writeCells symbolWidth frame prev clear)).screen
      frame ∧
    (t.run R symbolWidth (writeCells symbolWidth frame prev clear)).cursorShape =
      t.cursorShape := by
  have hAll := run_writeAllCells_cleared (R := R) hFrame hUnskipped hLink clear
  cases prev with
  | none => exact hAll
  | some old =>
    unfold writeCells
    cases hSize : sizeChanged frame (some old) with
    | true => simpa [hSize] using hAll
    | false =>
      obtain ⟨hOld, hShown⟩ := hPrev old rfl
      obtain ⟨hWidth, hHeight⟩ := sizeChanged_some hSize
      have hPair : Successor symbolWidth old frame :=
        ⟨hOld, hFrame, hUnskipped, hWidth, hHeight⟩
      simpa [hSize] using run_writeChangedCells hPair (hShown hSize) hLink

theorem run_writeHostCursorState (cursor : HostCursorState) (lastShape : Nat) :
  t.run R symbolWidth (writeHostCursorState cursor lastShape).2 =
    { t with
      cursor := cursor.position
      cursorShape := if cursor.shape ≠ lastShape then cursor.shape else t.cursorShape
      cursorVisible := cursor.visible } := by
  simp only [writeHostCursorState, run_append, run_cons, run_nil, write_cursorPosition]
  split
  · rw [run_cons, write_cursorShape, run_nil, write_cursorVisibility]
  · rw [run_nil, write_cursorVisibility]

theorem run_imeAnchor (cursor : HostCursorState) (hCursor : t.cursor = cursor.position)
  (hVisible : t.cursorVisible = cursor.visible) :
  t.run R symbolWidth (if repeatImeAnchor then writeImeAnchorCursorState cursor else []) = t := by
  split
  · simp only [writeImeAnchorCursorState, run_cons, run_nil, write_cursorPosition,
      write_cursorVisibility, ← hCursor, ← hVisible]
  · rfl

/-- The frame is shown, and the cursor is where and as the encoder decided. The
shape stays what it was where it is taken to be the last one. -/
structure Blitted (R : Rendering ρ) (symbolWidth : String → Nat) (frame : FrameData)
  (cursor : HostCursorState) (lastShape : Nat) (before after : HostTerminal ρ) : Prop where
  shows : Shows R symbolWidth after.screen frame
  position : after.cursor = cursor.position
  visible : after.cursorVisible = cursor.visible
  shape : after.cursorShape = if cursor.shape ≠ lastShape then cursor.shape else before.cursorShape

theorem run_blitFrame {prev : Option FrameData} (hFrame : frame.WellFormed symbolWidth)
  (hUnskipped : frame.Unskipped symbolWidth) (hPrev : Follows R symbolWidth t prev frame)
  (lastVisibleCursor : Option (Nat × Nat)) (lastShape : Nat) (clear suppress : Bool) :
  Blitted R symbolWidth frame (hostCursor frame lastVisibleCursor suppress) lastShape t
    (t.run R symbolWidth (blitFrame symbolWidth repeatImeAnchor frame prev lastVisibleCursor
      lastShape clear suppress).bytes) := by
  obtain ⟨opened, hOpened⟩ : ∃ opened, opened = { t with cursorVisible := false, link := none } :=
    ⟨_, rfl⟩
  have hCells := run_writeCells (R := R) (t := opened) hFrame hUnskipped
    (by rw [hOpened]; exact hPrev) (by rw [hOpened]) clear
  obtain ⟨painted, hPainted⟩ : ∃ painted,
      painted = opened.run R symbolWidth (writeCells symbolWidth frame prev clear) := ⟨_, rfl⟩
  rw [← hPainted] at hCells
  obtain ⟨cursor, hCursor⟩ : ∃ cursor, cursor = hostCursor frame lastVisibleCursor suppress :=
    ⟨_, rfl⟩
  have hRun : t.run R symbolWidth (blitFrame symbolWidth repeatImeAnchor frame prev
      lastVisibleCursor lastShape clear suppress).bytes =
      painted.run R symbolWidth (writeHostCursorState cursor lastShape).2 := by
    simp only [blitFrame, run_append, run_cons, run_nil, write_beginSync, write_hideCursor,
      write_closeHyperlink, ← hOpened, ← hPainted, ← hCursor, write_syncOutputEnd]
    rw [run_writeHostCursorState, run_imeAnchor cursor rfl rfl]
  rw [hRun, run_writeHostCursorState, ← hCursor]
  refine ⟨hCells.1, rfl, rfl, ?_⟩
  rw [hCells.2, hOpened]

theorem run_encodeInner {encoder : BlitEncoder} (hFrame : frame.WellFormed symbolWidth)
  (hUnskipped : frame.Unskipped symbolWidth)
  (hPrev : Follows R symbolWidth t encoder.lastFrame frame) (repaint suppress : Bool) :
  Blitted R symbolWidth frame (hostCursor frame encoder.lastVisibleCursor suppress)
    encoder.lastCursorShape t
    (t.run R symbolWidth (encoder.encodeInner symbolWidth repeatImeAnchor frame repaint
      suppress).bytes) := by
  refine run_blitFrame hFrame hUnskipped ?_ _ _ _ _
  split
  · intro old hNone
    cases hNone
  · exact hPrev

end Frames

end Render
