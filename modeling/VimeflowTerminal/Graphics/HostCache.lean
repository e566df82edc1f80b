import Mathlib.Algebra.GroupWithZero.Nat
import VimeflowTerminal.Data.FinMap

/-! Which images and placements the host terminal holds, and the commands that turn
what it holds into the placements of an update. -/

namespace Graphics

/-- Raw pane ids. -/
abbrev PaneId := UInt32

structure HostCellSize where
  widthPx : Nat
  heightPx : Nat
  deriving DecidableEq

structure Rect where
  x : Nat
  y : Nat
  width : Nat
  height : Nat
  deriving DecidableEq

inductive KittyImageFormat where
  | rgb
  | rgba
  | png
  deriving DecidableEq

structure KittyPlacementRenderInfo where
  pixelWidth : Nat
  pixelHeight : Nat
  gridCols : Nat
  gridRows : Nat
  viewportCol : Int
  viewportRow : Int
  sourceX : Nat
  sourceY : Nat
  sourceWidth : Nat
  sourceHeight : Nat
  deriving DecidableEq

structure KittyImagePlacement where
  imageId : UInt32
  placementId : UInt32
  z : Int
  xOffset : Nat
  yOffset : Nat
  imageWidth : Nat
  imageHeight : Nat
  format : KittyImageFormat
  dataLen : Nat
  dataFingerprint : UInt64
  data : List UInt8
  render : KittyPlacementRenderInfo
  deriving DecidableEq

inductive HostSourceKey where
  | terminal (paneId : PaneId) (imageId : UInt32)
  | paneLayer (paneId : PaneId)
  deriving DecidableEq

structure HostPlacement where
  paneId : PaneId
  area : Rect
  cellSize : HostCellSize
  sourceKey : HostSourceKey
  placement : KittyImagePlacement
  scrollbackOffset : Nat
  deriving DecidableEq

structure ImageSignature where
  imageWidth : Nat
  imageHeight : Nat
  formatCode : Nat
  dataLen : Nat
  dataFingerprint : UInt64
  deriving DecidableEq

structure ClippedPlacement where
  x : Nat
  y : Nat
  cols : Nat
  rows : Nat
  sourceX : Nat
  sourceY : Nat
  sourceWidth : Nat
  sourceHeight : Nat
  xOffset : Nat
  yOffset : Nat
  deriving DecidableEq

/-- The clipped placement, flat in the source, with its order and the position of
the scrollback. -/
structure PlacementSignature where
  clipped : ClippedPlacement
  z : Int
  scrollbackOffset : Nat
  deriving DecidableEq

/-- Products of `u32` stay at its largest value. -/
def saturatingMul (a b : Nat) : Nat := min (a * b) (2 ^ 32 - 1)

/-- How far a coordinate is before the first cell; `i32::MIN` has no negation. -/
def clippedCells (viewport : Int) : Nat := min (-viewport).toNat (2 ^ 31 - 1)

def scalePixels (value source dest : Nat) : Nat :=
  min (min (value * source) (2 ^ 64 - 1) / max dest 1) (2 ^ 32 - 1)

def kittyFormatCode : KittyImageFormat → Nat
  | .rgb => 24
  | .rgba => 32
  | .png => 100

/-- The part of `clipped_placement` that is the same for both axes: the first
screen cell, the cells that are visible, and the part of the image in them. -/
structure ClippedAxis where
  first : Nat
  cells : Nat
  source : Nat
  sourceLength : Nat
  offset : Nat
  deriving DecidableEq

/-- One axis of `clipped_placement`, from where the cells are known to be visible. -/
def clippedAxis (areaFirst areaLength cellPx : Nat) (viewport : Int)
  (gridCells pixels imageLength sourceFirst sourceLength offset : Nat) : ClippedAxis :=
  let clip := clippedCells viewport
  let cells := min (gridCells - clip) (areaLength - viewport.toNat)
  let wholeLength := if sourceLength = 0 then imageLength else sourceLength
  let wholePixels := max (max pixels (saturatingMul gridCells cellPx)) 1
  let source := (sourceFirst + scalePixels (saturatingMul clip cellPx) wholeLength wholePixels) % 2 ^ 32
  { first := (areaFirst + viewport.toNat) % 2 ^ 16
    cells
    source
    sourceLength :=
      min (max (scalePixels (saturatingMul cells cellPx) wholeLength wholePixels) 1)
        (imageLength - source)
    offset := if clip = 0 then offset else 0 }

/-- `clipped_placement`; the format code is that of the placement's image. -/
def clippedPlacement (placement : HostPlacement) : Option ClippedPlacement :=
  let area := placement.area
  let render := placement.placement.render
  if area.width = 0 ∨ area.height = 0 then none
  else if render.gridCols = 0 ∨ render.gridRows = 0 then none
  else if area.width ≤ render.viewportCol.toNat ∨ area.height ≤ render.viewportRow.toNat then none
  else
    let horizontal := clippedAxis area.x area.width placement.cellSize.widthPx render.viewportCol
      render.gridCols render.pixelWidth placement.placement.imageWidth render.sourceX
      render.sourceWidth placement.placement.xOffset
    let vertical := clippedAxis area.y area.height placement.cellSize.heightPx render.viewportRow
      render.gridRows render.pixelHeight placement.placement.imageHeight render.sourceY
      render.sourceHeight placement.placement.yOffset
    if horizontal.cells = 0 ∨ vertical.cells = 0 then none
    else if horizontal.sourceLength = 0 ∨ vertical.sourceLength = 0 then none
    else
      some
        { x := horizontal.first
          y := vertical.first
          cols := horizontal.cells
          rows := vertical.cells
          sourceX := horizontal.source
          sourceY := vertical.source
          sourceWidth := horizontal.sourceLength
          sourceHeight := vertical.sourceLength
          xOffset := horizontal.offset
          yOffset := vertical.offset }

/-- The hashes of the host ids. -/
structure Hashes where
  image : PaneId → ImageSignature → UInt64
  /-- The layer of a pane has a prefix of its own. -/
  placement : Bool → PaneId → UInt32 → UInt32 → UInt64

/-- `HOST_IMAGE_ID_BASE` -/
def hostImageIdBase : UInt32 := 10000

namespace HostPlacement

def imageSignature (placement : HostPlacement) : ImageSignature :=
  { imageWidth := placement.placement.imageWidth
    imageHeight := placement.placement.imageHeight
    formatCode := kittyFormatCode placement.placement.format
    dataLen := placement.placement.dataLen
    dataFingerprint := placement.placement.dataFingerprint }

/-- `placement_signature` of a placement that is clipped so. -/
def placementSignature (placement : HostPlacement) (clipped : ClippedPlacement) :
  PlacementSignature :=
  { clipped, z := placement.placement.z, scrollbackOffset := placement.scrollbackOffset }

end HostPlacement

def hostImageIdForSignature (hash : Hashes) (paneId : PaneId) (signature : ImageSignature) : UInt32 :=
  hostImageIdBase + (hash.image paneId signature).toUInt32 % 900000

def hostImageId (hash : Hashes) (placement : HostPlacement) : UInt32 :=
  hostImageIdForSignature hash placement.paneId placement.imageSignature

def hostPlacementId (hash : Hashes) (placement : HostPlacement) : UInt32 :=
  let hashed :=
    match placement.sourceKey with
    | .terminal paneId _ =>
      hash.placement false paneId placement.placement.imageId placement.placement.placementId
    | .paneLayer paneId =>
      hash.placement true paneId placement.placement.imageId placement.placement.placementId
  1 + hashed.toUInt32 % 900000

/-- The image and placement id of a placement on the host terminal. -/
def placementKey (hash : Hashes) (placement : HostPlacement) : UInt32 × UInt32 :=
  (hostImageId hash placement, hostPlacementId hash placement)

/-- The commands to the host terminal. Displaying begins with a cursor move to the
clipped position. -/
inductive Command where
  | deleteImage (id : UInt32)
  | deletePlacement (id placementId : UInt32)
  | upload (id : UInt32) (formatCode width height : Nat) (data : List UInt8)
  | display (id placementId : UInt32) (clipped : ClippedPlacement) (z : Int)
  deriving DecidableEq

structure HostViewKey where
  workspaceIndex : Nat
  tabIndex : Nat
  deriving DecidableEq

structure HostGraphicsCache where
  images : FinMap UInt32 ImageSignature
  placements : FinMap (UInt32 × UInt32) PlacementSignature
  /-- The host image behind each source. -/
  sources : FinMap HostSourceKey UInt32
  view : Option HostViewKey

namespace HostGraphicsCache

def empty : HostGraphicsCache := { images := ∅, placements := ∅, sources := ∅, view := none }

def clearBytes (cache : HostGraphicsCache) : HostGraphicsCache × List Command :=
  (empty, cache.images.keys.map .deleteImage)

def updateView (cache : HostGraphicsCache) (view : Option HostViewKey) : HostGraphicsCache × Bool :=
  if cache.view = view then (cache, false) else ({ cache with view }, true)

/-- Sources of terminals are current also while they are hidden. -/
def currentSources (placements : List HostPlacement) : List HostSourceKey :=
  (placements.filter fun placement =>
    match placement.sourceKey with
    | .terminal _ _ => true
    | .paneLayer _ => (clippedPlacement placement).isSome).map HostPlacement.sourceKey

/-- The sources an update keeps at its start. -/
def keptSources (cache : HostGraphicsCache) (placements : List HostPlacement) :
  FinMap HostSourceKey UInt32 :=
  cache.sources.retain fun source _ => source ∈ currentSources placements

/-- The images of the pane layers an update finds removed or hidden. -/
def removedPaneLayerImages (cache : HostGraphicsCache) (placements : List HostPlacement) :
  List UInt32 :=
  (cache.sources.collect fun source hostId =>
    match source with
    | .terminal _ _ => none
    | .paneLayer _ => if source ∈ currentSources placements then none else some hostId).dedup

end HostGraphicsCache

/-- An update under way: the placements that are current so far and the commands
written. -/
structure Pass where
  cache : HostGraphicsCache
  current : List (UInt32 × UInt32)
  commands : List Command

namespace Pass

/-- The host image is deleted, and with it its placements. -/
def deleteImage (pass : Pass) (hostId : UInt32) : Pass :=
  { cache :=
      { pass.cache with
        placements := pass.cache.placements.retain fun key _ => key.1 ≠ hostId }
    current := pass.current.filter fun key => !(key.1 = hostId && key ∈ pass.cache.placements)
    commands := pass.commands ++ [.deleteImage hostId] }

def forgetImage (pass : Pass) (hostId : UInt32) : Pass :=
  { pass with cache := { pass.cache with images := pass.cache.images.erase hostId } }

/-- A removed pane layer's image goes unless another source has it. -/
def dropLayerImage (pass : Pass) (hostId : UInt32) : Pass :=
  if hostId ∈ pass.cache.sources.values then pass
  else (pass.deleteImage hostId).forgetImage hostId

/-- The sources that are not current any more are pruned. -/
def start (cache : HostGraphicsCache) (placements : List HostPlacement) : Pass :=
  (cache.removedPaneLayerImages placements).foldl dropLayerImage
    { cache := { cache with sources := cache.keptSources placements }
      current := []
      commands := [] }

/-- `encode_upload_image` with the record of the upload; there is nothing to
upload without data. -/
def uploadImage (pass : Pass) (placement : HostPlacement) (hostId : UInt32) : Pass × Bool :=
  if placement.placement.data = [] then (pass, false)
  else
    let signature := placement.imageSignature
    ({ pass with
        cache := { pass.cache with images := pass.cache.images.insert hostId signature }
        commands := pass.commands ++
          [.upload hostId signature.formatCode signature.imageWidth signature.imageHeight
            placement.placement.data] }, true)

/-- The host terminal gets the image unless it has it. -/
def ensureImage (pass : Pass) (placement : HostPlacement) (hostId : UInt32) : Pass × Bool :=
  match pass.cache.images.lookup hostId with
  | some existing =>
    if existing = placement.imageSignature then (pass, true)
    else (pass.deleteImage hostId).uploadImage placement hostId
  | none => pass.uploadImage placement hostId

/-- `release_superseded_source_image` -/
def releaseSupersededSourceImage (pass : Pass) (source : HostSourceKey) (hostId : UInt32) : Pass :=
  let sources : FinMap HostSourceKey UInt32 := pass.cache.sources.insert source hostId
  let after := { pass with cache := { pass.cache with sources } }
  match pass.cache.sources.lookup source with
  | none => after
  | some previous =>
    if previous = hostId ∨ previous ∈ sources.values then after
    else (after.deleteImage previous).forgetImage previous

/-- A placement is displayed if it is new or changed, or the view has changed. -/
def displayPlacement (pass : Pass) (viewChanged : Bool) (key : UInt32 × UInt32)
  (signature : PlacementSignature) : Pass :=
  if !viewChanged && pass.cache.placements.lookup key = some signature then pass
  else
    { pass with
      cache := { pass.cache with placements := pass.cache.placements.insert key signature }
      commands := pass.commands ++ [.display key.1 key.2 signature.clipped signature.z] }

variable (hash : Hashes)

/-- The turn of one placement -/
def place (viewChanged : Bool) (pass : Pass) (placement : HostPlacement) : Pass :=
  match clippedPlacement placement with
  | none => pass
  | some clipped =>
    let hostId := hostImageId hash placement
    let key := placementKey hash placement
    match { pass with current := key :: pass.current }.ensureImage placement hostId with
    | (pass, false) => pass
    | (pass, true) =>
      (pass.releaseSupersededSourceImage placement.sourceKey hostId).displayPlacement viewChanged
        key (placement.placementSignature clipped)

/-- A placement that is not current is deleted. -/
def deleteStale (pass : Pass) (key : UInt32 × UInt32) : Pass :=
  if key ∈ pass.current then pass
  else
    { pass with
      cache := { pass.cache with placements := pass.cache.placements.erase key }
      commands := pass.commands ++ [.deletePlacement key.1 key.2] }

end Pass

/-- `encode_graphics_update` -/
def encodeGraphicsUpdate (hash : Hashes) (cache : HostGraphicsCache)
  (placements : List HostPlacement) (viewChanged : Bool) : HostGraphicsCache × List Command :=
  let pass := placements.foldl (Pass.place hash viewChanged) (.start cache placements)
  let pass := pass.cache.placements.keys.foldl Pass.deleteStale pass
  (pass.cache, pass.commands)

/-- `encode_local_pane_graphics`, given the placements it collects. The graphics
are cleared outside terminal mode and while the size of a cell is not known. -/
def encodeLocalPaneGraphics (hash : Hashes) (cache : HostGraphicsCache) (shown : Bool)
  (view : Option HostViewKey) (placements : List HostPlacement) :
  HostGraphicsCache × List Command :=
  if !shown then cache.clearBytes
  else
    let (cache, viewChanged) := cache.updateView view
    encodeGraphicsUpdate hash cache placements viewChanged

end Graphics
