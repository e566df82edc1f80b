import VimeflowTerminal.Data.Checked
import VimeflowTerminal.Graphics.HostCache

/-! Clipping with arithmetic that has no result on an overflow. Where a source has no length, the
whole image is scaled, and its cropped part is added to where the source begins: only there can
clipping overflow. What it places is inside the pane and shows a part of the image. -/

namespace Graphics

open Checked

def maxU16 : Nat := 2 ^ 16 - 1

def maxU32 : Nat := 2 ^ 32 - 1

/-- The cells of one axis that are visible. -/
def checkedCells (areaLength gridCells : Nat) (viewport : Int) : Option Nat := do
  let rest ← sub areaLength viewport.toNat
  some (min (gridCells - clippedCells viewport) rest)

/-- Where the visible part of the image begins on one axis. -/
def checkedSource (cellPx : Nat) (viewport : Int)
  (gridCells pixels imageLength sourceFirst sourceLength : Nat) : Option Nat :=
  let wholeLength := if sourceLength = 0 then imageLength else sourceLength
  let wholePixels := max (max pixels (saturatingMul gridCells cellPx)) 1
  add maxU32 sourceFirst
    (scalePixels (saturatingMul (clippedCells viewport) cellPx) wholeLength wholePixels)

/-- The length of the visible part of the image on one axis. -/
def visibleLength (cellPx gridCells pixels imageLength sourceLength cells source : Nat) : Nat :=
  let wholeLength := if sourceLength = 0 then imageLength else sourceLength
  let wholePixels := max (max pixels (saturatingMul gridCells cellPx)) 1
  min (max (scalePixels (saturatingMul cells cellPx) wholeLength wholePixels) 1)
    (imageLength - source)

/-- `clipped_placement` in the order of its operations; an overflow has no result. -/
def checkedClippedPlacement (placement : HostPlacement) : Option (Option ClippedPlacement) :=
  let area := placement.area
  let image := placement.placement
  let render := image.render
  let cell := placement.cellSize
  if area.width = 0 ∨ area.height = 0 then some none
  else if render.gridCols = 0 ∨ render.gridRows = 0 then some none
  else if area.width ≤ render.viewportCol.toNat ∨ area.height ≤ render.viewportRow.toNat then
    some none
  else do
    let cols ← checkedCells area.width render.gridCols render.viewportCol
    let rows ← checkedCells area.height render.gridRows render.viewportRow
    if cols = 0 ∨ rows = 0 then some none
    else do
      let sourceX ← checkedSource cell.widthPx render.viewportCol render.gridCols render.pixelWidth
        image.imageWidth render.sourceX render.sourceWidth
      let sourceY ← checkedSource cell.heightPx render.viewportRow render.gridRows
        render.pixelHeight image.imageHeight render.sourceY render.sourceHeight
      let sourceWidth := visibleLength cell.widthPx render.gridCols render.pixelWidth
        image.imageWidth render.sourceWidth cols sourceX
      let sourceHeight := visibleLength cell.heightPx render.gridRows render.pixelHeight
        image.imageHeight render.sourceHeight rows sourceY
      if sourceWidth = 0 ∨ sourceHeight = 0 then some none
      else do
        let x ← add maxU16 area.x render.viewportCol.toNat
        let y ← add maxU16 area.y render.viewportRow.toNat
        some (some
          { x
            y
            cols
            rows
            sourceX
            sourceY
            sourceWidth
            sourceHeight
            xOffset := if clippedCells render.viewportCol = 0 then image.xOffset else 0
            yOffset := if clippedCells render.viewportRow = 0 then image.yOffset else 0 })

/-- A part of an image on one axis: inside of it, or of length zero. -/
def SourceInside (imageLength sourceFirst sourceLength : Nat) : Prop :=
  sourceFirst + sourceLength ≤ imageLength ∨ sourceLength = 0

/-- Where the source has no length, its beginning and the pixels of the image that the cells cut
off take have a sum of 32 bits. -/
def CropFits (cellPx : Nat) (viewport : Int)
  (gridCells pixels imageLength sourceFirst sourceLength : Nat) : Prop :=
  sourceLength = 0 → sourceFirst + scalePixels (saturatingMul (clippedCells viewport) cellPx)
    imageLength (max (max pixels (saturatingMul gridCells cellPx)) 1) ≤ maxU32

theorem saturatingMul_le_left {a b factor : Nat} (hLe : a ≤ b) :
  saturatingMul a factor ≤ saturatingMul b factor := by
  have hMul := Nat.mul_le_mul_right factor hLe
  unfold saturatingMul
  omega

theorem scalePixels_le {value source dest : Nat} (hLe : value ≤ dest) :
  scalePixels value source dest ≤ source := by
  have hMin : min (value * source) (2 ^ 64 - 1) ≤ max dest 1 * source :=
    calc min (value * source) (2 ^ 64 - 1) ≤ value * source := Nat.min_le_left _ _
      _ ≤ dest * source := Nat.mul_le_mul_right source hLe
      _ ≤ max dest 1 * source := Nat.mul_le_mul_right source (Nat.le_max_left dest 1)
  exact (Nat.min_le_left _ _).trans (Nat.div_le_of_le_mul hMin)

section Axis

variable {areaFirst areaLength cellPx gridCells pixels imageLength sourceFirst sourceLength offset : Nat}
  {viewport : Int}

/-- What is cropped of a source with a length is no more than that, so that its end stays in the
image. -/
theorem sourceFirst_add_le (hSource : SourceInside imageLength sourceFirst sourceLength)
  (hImage : imageLength ≤ maxU32) (hVisible : clippedCells viewport ≤ gridCells)
  (hCrop : CropFits cellPx viewport gridCells pixels imageLength sourceFirst sourceLength) :
  sourceFirst + scalePixels (saturatingMul (clippedCells viewport) cellPx)
      (if sourceLength = 0 then imageLength else sourceLength)
      (max (max pixels (saturatingMul gridCells cellPx)) 1) ≤ maxU32 := by
  split
  case isTrue hZero => exact hCrop hZero
  case isFalse hLength =>
    have hInside := hSource.resolve_right hLength
    have hCropped := @saturatingMul_le_left _ _ cellPx hVisible
    have hScaled := @scalePixels_le (saturatingMul (clippedCells viewport) cellPx) sourceLength
      (max (max pixels (saturatingMul gridCells cellPx)) 1) (by omega)
    omega

theorem checkedSource_eq (hSource : SourceInside imageLength sourceFirst sourceLength)
  (hImage : imageLength ≤ maxU32) (hVisible : clippedCells viewport ≤ gridCells)
  (hCrop : CropFits cellPx viewport gridCells pixels imageLength sourceFirst sourceLength) :
  checkedSource cellPx viewport gridCells pixels imageLength sourceFirst sourceLength =
    some (clippedAxis areaFirst areaLength cellPx viewport gridCells pixels imageLength
      sourceFirst sourceLength offset).source := by
  have hFits := sourceFirst_add_le hSource hImage hVisible hCrop
  rw [checkedSource, add_eq hFits]
  exact congrArg some (Nat.mod_eq_of_lt (Nat.lt_succ_of_le hFits)).symm

theorem cropFits_of_checkedSource {source : Nat}
  (hSource : checkedSource cellPx viewport gridCells pixels imageLength sourceFirst sourceLength =
    some source) :
  CropFits cellPx viewport gridCells pixels imageLength sourceFirst sourceLength := by
  intro hZero
  rw [checkedSource, if_pos hZero] at hSource
  by_contra hOver
  rw [add_eq_none_iff.2 (Nat.lt_of_not_le hOver)] at hSource
  cases hSource

theorem cells_ne_zero_iff {axis : ClippedAxis} (hAxis : clippedAxis areaFirst areaLength cellPx
    viewport gridCells pixels imageLength sourceFirst sourceLength offset = axis) :
  axis.cells ≠ 0 ↔ clippedCells viewport < gridCells ∧ viewport.toNat < areaLength := by
  subst hAxis
  simp only [clippedAxis]
  omega

theorem checkedCells_eq (hViewport : viewport.toNat ≤ areaLength) :
  checkedCells areaLength gridCells viewport =
    some (clippedAxis areaFirst areaLength cellPx viewport gridCells pixels imageLength
      sourceFirst sourceLength offset).cells := by
  rw [checkedCells, sub_eq hViewport]
  rfl

theorem checkedFirst_eq (hArea : areaFirst + areaLength ≤ maxU16 + 1)
  (hViewport : viewport.toNat < areaLength) :
  add maxU16 areaFirst viewport.toNat =
    some (clippedAxis areaFirst areaLength cellPx viewport gridCells pixels imageLength
      sourceFirst sourceLength offset).first := by
  unfold maxU16 at hArea
  rw [add_eq (by unfold maxU16; omega), clippedAxis, Nat.mod_eq_of_lt (by omega)]

theorem clippedAxis_cells_inside (hArea : areaFirst + areaLength ≤ maxU16 + 1)
  (hViewport : viewport.toNat < areaLength) {axis : ClippedAxis}
  (hAxis : clippedAxis areaFirst areaLength cellPx viewport gridCells pixels imageLength
    sourceFirst sourceLength offset = axis) :
  areaFirst ≤ axis.first ∧ axis.first + axis.cells ≤ areaFirst + areaLength := by
  subst hAxis
  have hFirst : (areaFirst + viewport.toNat) % 2 ^ 16 = areaFirst + viewport.toNat := by
    apply Nat.mod_eq_of_lt
    unfold maxU16 at hArea
    omega
  simp only [clippedAxis, hFirst]
  omega

theorem clippedAxis_source_inside {axis : ClippedAxis}
  (hAxis : clippedAxis areaFirst areaLength cellPx viewport gridCells pixels imageLength
    sourceFirst sourceLength offset = axis) (hLength : axis.sourceLength ≠ 0) :
  axis.source + axis.sourceLength ≤ imageLength := by
  subst hAxis
  have hRest : (clippedAxis areaFirst areaLength cellPx viewport gridCells pixels imageLength
      sourceFirst sourceLength offset).sourceLength ≤ imageLength -
        (clippedAxis areaFirst areaLength cellPx viewport gridCells pixels imageLength
          sourceFirst sourceLength offset).source := Nat.min_le_right _ _
  omega

end Axis

/-- The cells of the pane have coordinates, the image has sides of 32 bits, and the source
rectangle is inside of it or has length zero. -/
structure HostPlacement.WellFormed (placement : HostPlacement) : Prop where
  width : placement.area.x + placement.area.width ≤ maxU16 + 1
  height : placement.area.y + placement.area.height ≤ maxU16 + 1
  imageWidth : placement.placement.imageWidth ≤ maxU32
  imageHeight : placement.placement.imageHeight ≤ maxU32
  sourceWidth : SourceInside placement.placement.imageWidth placement.placement.render.sourceX
    placement.placement.render.sourceWidth
  sourceHeight : SourceInside placement.placement.imageHeight placement.placement.render.sourceY
    placement.placement.render.sourceHeight

/-- The cells are some of the area. -/
structure ClippedPlacement.InArea (clipped : ClippedPlacement) (area : Rect) : Prop where
  cols : 0 < clipped.cols
  rows : 0 < clipped.rows
  left : area.x ≤ clipped.x
  top : area.y ≤ clipped.y
  right : clipped.x + clipped.cols ≤ area.x + area.width
  bottom : clipped.y + clipped.rows ≤ area.y + area.height

/-- What is shown is a part of the image. -/
structure ClippedPlacement.InImage (clipped : ClippedPlacement) (image : KittyImagePlacement) :
  Prop where
  width : 0 < clipped.sourceWidth
  height : 0 < clipped.sourceHeight
  right : clipped.sourceX + clipped.sourceWidth ≤ image.imageWidth
  bottom : clipped.sourceY + clipped.sourceHeight ≤ image.imageHeight

namespace HostPlacement

def horizontal (placement : HostPlacement) : ClippedAxis :=
  clippedAxis placement.area.x placement.area.width placement.cellSize.widthPx
    placement.placement.render.viewportCol placement.placement.render.gridCols
    placement.placement.render.pixelWidth placement.placement.imageWidth
    placement.placement.render.sourceX placement.placement.render.sourceWidth
    placement.placement.xOffset

def vertical (placement : HostPlacement) : ClippedAxis :=
  clippedAxis placement.area.y placement.area.height placement.cellSize.heightPx
    placement.placement.render.viewportRow placement.placement.render.gridRows
    placement.placement.render.pixelHeight placement.placement.imageHeight
    placement.placement.render.sourceY placement.placement.render.sourceHeight
    placement.placement.yOffset

/-- A cell of the placement is in the area. -/
structure Visible (placement : HostPlacement) : Prop where
  cols : clippedCells placement.placement.render.viewportCol < placement.placement.render.gridCols
  left : placement.placement.render.viewportCol.toNat < placement.area.width
  rows : clippedCells placement.placement.render.viewportRow < placement.placement.render.gridRows
  top : placement.placement.render.viewportRow.toNat < placement.area.height

/-- What is cropped fits on both axes. -/
def CropsFit (placement : HostPlacement) : Prop :=
  CropFits placement.cellSize.widthPx placement.placement.render.viewportCol
      placement.placement.render.gridCols placement.placement.render.pixelWidth
      placement.placement.imageWidth placement.placement.render.sourceX
      placement.placement.render.sourceWidth ∧
    CropFits placement.cellSize.heightPx placement.placement.render.viewportRow
      placement.placement.render.gridRows placement.placement.render.pixelHeight
      placement.placement.imageHeight placement.placement.render.sourceY
      placement.placement.render.sourceHeight

theorem visible_of_cells {placement : HostPlacement} (hCols : placement.horizontal.cells ≠ 0)
  (hRows : placement.vertical.cells ≠ 0) : placement.Visible := by
  obtain ⟨hCol, hLeft⟩ := (cells_ne_zero_iff rfl).1 hCols
  obtain ⟨hRow, hTop⟩ := (cells_ne_zero_iff rfl).1 hRows
  exact ⟨hCol, hLeft, hRow, hTop⟩

end HostPlacement

/-- Where what is cropped fits, the clipping is the one with wrapping arithmetic. -/
theorem checkedClippedPlacement_eq {placement : HostPlacement} (hWell : placement.WellFormed)
  (hCrops : placement.Visible → placement.CropsFit) :
  checkedClippedPlacement placement = some (clippedPlacement placement) := by
  unfold checkedClippedPlacement clippedPlacement
  dsimp only
  split
  case isTrue => rfl
  case isFalse =>
    split
    case isTrue => rfl
    case isFalse =>
      split
      case isTrue => rfl
      case isFalse hView =>
        obtain ⟨hCol, hRow⟩ := not_or.1 hView
        have hCol' := Nat.lt_of_not_le hCol
        have hRow' := Nat.lt_of_not_le hRow
        have hCols : checkedCells placement.area.width placement.placement.render.gridCols
            placement.placement.render.viewportCol = some placement.horizontal.cells :=
          checkedCells_eq (Nat.le_of_lt hCol')
        have hRows : checkedCells placement.area.height placement.placement.render.gridRows
            placement.placement.render.viewportRow = some placement.vertical.cells :=
          checkedCells_eq (Nat.le_of_lt hRow')
        rw [hCols, hRows]
        change (if placement.horizontal.cells = 0 ∨ placement.vertical.cells = 0 then _ else _) =
          some (if placement.horizontal.cells = 0 ∨ placement.vertical.cells = 0 then _ else _)
        split
        case isTrue => rfl
        case isFalse hCells =>
          obtain ⟨hColCells, hRowCells⟩ := not_or.1 hCells
          have hVisible := HostPlacement.visible_of_cells hColCells hRowCells
          obtain ⟨hCropX, hCropY⟩ := hCrops hVisible
          have hX : checkedSource placement.cellSize.widthPx placement.placement.render.viewportCol
              placement.placement.render.gridCols placement.placement.render.pixelWidth
              placement.placement.imageWidth placement.placement.render.sourceX
              placement.placement.render.sourceWidth = some placement.horizontal.source :=
            checkedSource_eq hWell.sourceWidth hWell.imageWidth (Nat.le_of_lt hVisible.cols) hCropX
          have hY : checkedSource placement.cellSize.heightPx placement.placement.render.viewportRow
              placement.placement.render.gridRows placement.placement.render.pixelHeight
              placement.placement.imageHeight placement.placement.render.sourceY
              placement.placement.render.sourceHeight = some placement.vertical.source :=
            checkedSource_eq hWell.sourceHeight hWell.imageHeight (Nat.le_of_lt hVisible.rows) hCropY
          rw [hX, hY]
          change (if placement.horizontal.sourceLength = 0 ∨ placement.vertical.sourceLength = 0
              then _ else _) =
            some (if placement.horizontal.sourceLength = 0 ∨ placement.vertical.sourceLength = 0
              then _ else _)
          split
          case isTrue => rfl
          case isFalse =>
            have hFirstX : add maxU16 placement.area.x placement.placement.render.viewportCol.toNat =
                some placement.horizontal.first := checkedFirst_eq hWell.width hCol'
            have hFirstY : add maxU16 placement.area.y placement.placement.render.viewportRow.toNat =
                some placement.vertical.first := checkedFirst_eq hWell.height hRow'
            rw [hFirstX, hFirstY]
            rfl

theorem clippedPlacement_inside {placement : HostPlacement} (hWell : placement.WellFormed)
  {clipped : ClippedPlacement} (hClipped : clippedPlacement placement = some clipped) :
  clipped.InArea placement.area ∧ clipped.InImage placement.placement := by
  unfold clippedPlacement at hClipped
  dsimp only at hClipped
  split at hClipped
  case isTrue => cases hClipped
  case isFalse =>
    split at hClipped
    case isTrue => cases hClipped
    case isFalse =>
      split at hClipped
      case isTrue => cases hClipped
      case isFalse hView =>
        obtain ⟨hCol, hRow⟩ := not_or.1 hView
        split at hClipped
        case isTrue => cases hClipped
        case isFalse hCells =>
          obtain ⟨hCols, hRows⟩ := not_or.1 hCells
          split at hClipped
          case isTrue => cases hClipped
          case isFalse hLengths =>
            obtain ⟨hWidth, hHeight⟩ := not_or.1 hLengths
            cases hClipped
            have hColumns : placement.area.x ≤ placement.horizontal.first ∧
                placement.horizontal.first + placement.horizontal.cells ≤
                  placement.area.x + placement.area.width :=
              clippedAxis_cells_inside hWell.width (Nat.lt_of_not_le hCol) rfl
            have hLines : placement.area.y ≤ placement.vertical.first ∧
                placement.vertical.first + placement.vertical.cells ≤
                  placement.area.y + placement.area.height :=
              clippedAxis_cells_inside hWell.height (Nat.lt_of_not_le hRow) rfl
            constructor
            · exact ⟨Nat.pos_of_ne_zero hCols, Nat.pos_of_ne_zero hRows, hColumns.1, hLines.1,
                hColumns.2, hLines.2⟩
            · exact ⟨Nat.pos_of_ne_zero hWidth, Nat.pos_of_ne_zero hHeight,
                clippedAxis_source_inside rfl hWidth, clippedAxis_source_inside rfl hHeight⟩

/-- A visible placement that is clipped without an overflow is cropped without one. -/
theorem cropsFit_of_checked {placement : HostPlacement} {clipped : Option ClippedPlacement}
  (hVisible : placement.Visible) (hChecked : checkedClippedPlacement placement = some clipped) :
  placement.CropsFit := by
  obtain ⟨hCol, hLeft, hRow, hTop⟩ := hVisible
  unfold checkedClippedPlacement at hChecked
  rw [if_neg (by omega), if_neg (by omega), if_neg (by omega), checkedCells, checkedCells,
    sub_eq (Nat.le_of_lt hLeft), sub_eq (Nat.le_of_lt hTop)] at hChecked
  simp only [Option.bind_eq_bind, Option.bind_some] at hChecked
  rw [if_neg (by omega)] at hChecked
  obtain ⟨sourceX, hX, hRest⟩ := Option.bind_eq_some_iff.1 hChecked
  obtain ⟨sourceY, hY, -⟩ := Option.bind_eq_some_iff.1 hRest
  exact ⟨cropFits_of_checkedSource hX, cropFits_of_checkedSource hY⟩

/-- Clipping overflows nowhere, and what it places is cells of the pane with a part of the
image. -/
def HostPlacement.ClipsInBounds (placement : HostPlacement) : Prop :=
  checkedClippedPlacement placement = some (clippedPlacement placement) ∧
    ∀ clipped, clippedPlacement placement = some clipped →
      clipped.InArea placement.area ∧ clipped.InImage placement.placement

/-- Clipping keeps its bounds exactly if no cell is in the area or what is cropped fits. -/
theorem clipsInBounds_iff {placement : HostPlacement} (hWell : placement.WellFormed) :
  placement.ClipsInBounds ↔ (placement.Visible → placement.CropsFit) := by
  constructor
  · rintro ⟨hChecked, -⟩ hVisible
    exact cropsFit_of_checked hVisible hChecked
  · intro hCrops
    exact ⟨checkedClippedPlacement_eq hWell hCrops,
      fun _ hClipped => clippedPlacement_inside hWell hClipped⟩

/-- A source rectangle at the corner of the largest image, left of the pane for the most part. -/
def cornerPlacement : HostPlacement where
  paneId := 1
  area := { x := 65530, y := 65530, width := 6, height := 6 }
  cellSize := { widthPx := 10, heightPx := 20 }
  sourceKey := .terminal 1 7
  scrollbackOffset := 0
  placement :=
    { imageId := 7
      placementId := 1
      z := 0
      xOffset := 0
      yOffset := 0
      imageWidth := 4294967295
      imageHeight := 100
      format := .rgb
      dataLen := 0
      dataFingerprint := 0
      data := []
      render :=
        { pixelWidth := 0, pixelHeight := 0, gridCols := 4, gridRows := 3, viewportCol := -3
          viewportRow := 4, sourceX := 4294967195, sourceY := 0, sourceWidth := 100
          sourceHeight := 0 } }

theorem clipsInBounds_corner : cornerPlacement.ClipsInBounds ∧ cornerPlacement.Visible ∧
  clippedPlacement cornerPlacement =
    some ⟨65530, 65534, 1, 2, 4294967270, 0, 25, 66, 0, 0⟩ := by
  have hWell : cornerPlacement.WellFormed :=
    ⟨by decide, by decide, by decide, by decide, .inl (by decide), .inl (by decide)⟩
  refine ⟨(clipsInBounds_iff hWell).2 fun _ => ⟨?_, ?_⟩, ⟨by decide, by decide, by decide, by decide⟩,
    by decide +kernel⟩
  · intro hZero
    cases hZero
  · intro _
    decide +kernel

/-- The same source without a width, which stands for the whole image. -/
def widthlessPlacement : HostPlacement :=
  { cornerPlacement with
    placement :=
      { cornerPlacement.placement with
        render := { cornerPlacement.placement.render with sourceWidth := 0 } } }

/-- What is cropped of the whole image is added to a beginning near its end. -/
theorem not_clipsInBounds :
  widthlessPlacement.WellFormed ∧ ¬ widthlessPlacement.ClipsInBounds := by
  refine ⟨⟨by decide, by decide, by decide, by decide, .inl (by decide), .inl (by decide)⟩, ?_⟩
  rintro ⟨hChecked, -⟩
  have hNone : checkedClippedPlacement widthlessPlacement = none := by decide +kernel
  rw [hNone] at hChecked
  cases hChecked

end Graphics
