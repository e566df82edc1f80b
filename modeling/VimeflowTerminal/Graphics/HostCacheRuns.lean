import VimeflowTerminal.Graphics.HostCacheDisplay
import VimeflowTerminal.Transition.Run

/-! A cache and the terminal it writes to, from an empty cache on, over any updates,
changes of view and clears. -/

namespace Graphics

open Transition

structure Host where
  cache : HostGraphicsCache
  terminal : KittyTerminal

def Host.empty : Host := { cache := .empty, terminal := .empty }

inductive Label where
  | paint (shown : Bool) (view : Option HostViewKey) (placements : List HostPlacement)
  | clear

/-- The terminal executes what the update writes. -/
def step (hash : Hashes) (host : Host) : Label → Host
  | .paint shown view placements =>
    let (cache, commands) := encodeLocalPaneGraphics hash host.cache shown view placements
    { cache, terminal := host.terminal.run commands }
  | .clear =>
    let (cache, commands) := host.cache.clearBytes
    { cache, terminal := host.terminal.run commands }

variable (hash : Hashes) (content : ImageSignature → List UInt8)
  (known : Set (PaneId × ImageSignature))

/-- The updates of a run come with the data they need. -/
def Given (host : Host) : Label → Prop
  | .paint _ _ placements => Supplied hash content known host.cache placements
  | .clear => True

/-- The data of an image comes with an update exactly when the cache does not hold
the image. -/
def GivenExactly (host : Host) : Label → Prop
  | .paint _ _ placements => ∀ placement ∈ placements,
      (placement.paneId, placement.imageSignature) ∈ known ∧
        content placement.imageSignature ≠ [] ∧
        placement.placement.data =
          if host.cache.images.lookup (hostImageId hash placement) = some placement.imageSignature
          then [] else content placement.imageSignature
  | .clear => True

/-- What the terminal displays after a step. -/
def Shows (terminal : KittyTerminal) : Label → Prop
  | .paint true _ placements => Displays hash content terminal placements
  | _ => ∀ key, terminal.placements key = none

/-- No image that is needed is released. -/
def Keeps (host : Host) : Label → Prop
  | .paint true _ placements => Unreleased hash host.cache placements
  | _ => True

theorem given_of_exactly {host : Host} {label : Label}
  (h : GivenExactly hash content known host label) : Given hash content known host label := by
  cases label with
  | clear => trivial
  | paint shown view placements =>
    refine ⟨fun placement hMem => (h placement hMem).1, fun placement hMem => ?_,
      fun placement hMem hMissing => ?_⟩
    · obtain ⟨-, -, hData⟩ := h placement hMem
      split at hData
      · exact Or.inl hData
      · exact Or.inr hData
    · obtain ⟨-, hContent, hData⟩ := h placement hMem
      rw [hData, if_neg hMissing]
      exact hContent

section Steps

variable {hash content known} {host : Host} {label : Label}

theorem updateView_maps (cache : HostGraphicsCache) (view : Option HostViewKey) :
  (cache.updateView view).1.images = cache.images ∧
    (cache.updateView view).1.placements = cache.placements ∧
    (cache.updateView view).1.sources = cache.sources := by
  unfold HostGraphicsCache.updateView
  split <;> exact ⟨rfl, rfl, rfl⟩

theorem Supplied.congr {cache other : HostGraphicsCache} {placements : List HostPlacement}
  (h : Supplied hash content known cache placements) (hImages : other.images = cache.images) :
  Supplied hash content known other placements where
  known := h.known
  data := h.data
  supplied := by
    rw [hImages]
    exact h.supplied

theorem Unreleased.congr {cache other : HostGraphicsCache} {placements : List HostPlacement}
  (h : Unreleased hash cache placements) (hSources : other.sources = cache.sources) :
  Unreleased hash other placements := by
  have hKept : other.keptSources placements = cache.keptSources placements := by
    rw [HostGraphicsCache.keptSources, hSources, HostGraphicsCache.keptSources]
  have hRemoved : other.removedPaneLayerImages placements =
      cache.removedPaneLayerImages placements := by
    rw [HostGraphicsCache.removedPaneLayerImages, hSources,
      HostGraphicsCache.removedPaneLayerImages]
  have hBacking : backing hash other placements = backing hash cache placements := by
    funext prior source
    rw [backing, hKept, backing]
  refine ⟨?_, ?_, h.alike⟩
  · rw [hRemoved, hKept]
    exact h.layers
  · rw [hBacking]
    exact h.superseded

theorem Sound.updateView {cache : HostGraphicsCache} {terminal : KittyTerminal}
  (h : Sound hash content known cache terminal) (view : Option HostViewKey) :
  Sound hash content known (cache.updateView view).1 terminal := by
  obtain ⟨hImages, hPlacements, -⟩ := updateView_maps cache view
  exact h.congr hImages hPlacements

theorem Sound.step (h : Sound hash content known host.cache host.terminal)
  (hFree : CollisionFree hash known) (hGiven : Given hash content known host label) :
  Sound hash content known (Graphics.step hash host label).cache
    (Graphics.step hash host label).terminal := by
  cases label with
  | clear => exact h.clear
  | paint shown view placements =>
    cases shown with
    | false => exact h.clear
    | true =>
      have hViewed := h.updateView view
      obtain ⟨hImages, -, -⟩ := updateView_maps host.cache view
      have hSupplied := Supplied.congr hGiven hImages
      exact hViewed.update hFree hSupplied _

theorem Sound.shows (h : Sound hash content known host.cache host.terminal)
  (hFree : CollisionFree hash known) (hGiven : Given hash content known host label)
  (hKeeps : Keeps hash host label) :
  Shows hash content (Graphics.step hash host label).terminal label := by
  have hCleared : ∀ key, (host.terminal.run host.cache.clearBytes.2).placements key = none :=
    fun key => h.clear.mirrors.placements key
  cases label with
  | clear => exact hCleared
  | paint shown view placements =>
    cases shown with
    | false => exact hCleared
    | true =>
      have hViewed := h.updateView view
      obtain ⟨hImages, -, hSources⟩ := updateView_maps host.cache view
      have hSupplied := Supplied.congr hGiven hImages
      have hUnreleased := Unreleased.congr hKeeps hSources
      exact hViewed.displays hFree hSupplied hUnreleased _

end Steps

/-- After every run the terminal holds what the cache has recorded, and an update
that releases no image it still needs leaves its visible placements displayed, and
no others. -/
theorem shows_of_keeps {labels : List Label} {host : Host} {label : Label}
  (hFree : CollisionFree hash known)
  (hRun : Run (restrict (ofFunction (step hash)) (Given hash content known)) .empty labels host)
  (hGiven : Given hash content known host label) :
  Mirrors content (step hash host label).cache (step hash host label).terminal ∧
    (Keeps hash host label → Shows hash content (step hash host label).terminal label) := by
  have hInit : Sound hash content known Host.empty.cache Host.empty.terminal := sound_empty
  have hStep : ∀ (u : Host) (label : Label) (v : Host),
      Sound hash content known u.cache u.terminal →
        restrict (ofFunction (step hash)) (Given hash content known) u label v →
          Sound hash content known v.cache v.terminal := by
    rintro u label v hSound ⟨rfl, hAllowed⟩
    exact hSound.step hFree hAllowed
  have hSound := @Run.preserves _ _ _
    (fun host : Host => Sound hash content known host.cache host.terminal) _ _ _ hRun hInit hStep
  exact ⟨(hSound.step hFree hGiven).mirrors, hSound.shows hFree hGiven⟩

/-- Ids taken from the fingerprint and from the placement's own id. -/
def plainHashes : Hashes where
  image := fun _ signature => signature.dataFingerprint
  placement := fun _ _ _ placementId => placementId.toUInt64

/-- An image of one pixel. -/
def onePixel (fingerprint : UInt64) : ImageSignature :=
  { imageWidth := 1, imageHeight := 1, formatCode := 24, dataLen := 3, dataFingerprint := fingerprint }

def pixelContent (signature : ImageSignature) : List UInt8 :=
  [signature.dataFingerprint.toUInt8, 0, 0]

/-- The image with the id `imageId` in the first pane, in one cell. -/
def oneCell (imageId : UInt32) (fingerprint : UInt64) (data : List UInt8) : HostPlacement where
  paneId := 1
  area := { x := 0, y := 0, width := 20, height := 10 }
  cellSize := { widthPx := 10, heightPx := 10 }
  sourceKey := .terminal 1 imageId
  scrollbackOffset := 0
  placement :=
    { imageId
      placementId := imageId
      z := 0
      xOffset := 0
      yOffset := 0
      imageWidth := 1
      imageHeight := 1
      format := .rgb
      dataLen := 3
      dataFingerprint := fingerprint
      data
      render :=
        { pixelWidth := 0, pixelHeight := 0, gridCols := 1, gridRows := 1, viewportCol := 0
          viewportRow := 0, sourceX := 0, sourceY := 0, sourceWidth := 0, sourceHeight := 0 } }

def twoImages : Set (PaneId × ImageSignature) := {(1, onePixel 1), (1, onePixel 2)}

theorem collisionFree_twoImages : CollisionFree plainHashes twoImages := by
  rintro first (rfl | rfl) second (rfl | rfl) hSame
  · rfl
  · exact absurd hSame (by decide)
  · exact absurd hSame (by decide)
  · rfl

def firstUpdate : Label :=
  .paint true none [oneCell 7 1 (pixelContent (onePixel 1)), oneCell 8 2 (pixelContent (onePixel 2))]

theorem given_firstUpdate : GivenExactly plainHashes pixelContent twoImages .empty firstUpdate := by
  intro placement hMem
  rcases List.mem_pair.1 hMem with rfl | rfl
  · exact ⟨Or.inl (by decide), by decide, by decide⟩
  · exact ⟨Or.inr (by decide), by decide, by decide⟩

/-- The second source goes on with a new image. -/
def replacingUpdate : Label :=
  .paint true none [oneCell 8 1 []]

theorem given_replacingUpdate :
  GivenExactly plainHashes pixelContent twoImages (step plainHashes .empty firstUpdate)
    replacingUpdate := by
  intro placement hMem
  obtain rfl := List.mem_singleton.1 hMem
  exact ⟨Or.inl (by decide), by decide, by decide⟩

theorem run_firstUpdate :
  Run (restrict (ofFunction (step plainHashes)) (Given plainHashes pixelContent twoImages))
    .empty [firstUpdate] (step plainHashes .empty firstUpdate) :=
  Run.single ⟨rfl, given_of_exactly _ _ _ given_firstUpdate⟩

/-- The image that is replaced is not needed any more. -/
theorem shows_replacingUpdate :
  Shows plainHashes pixelContent
    (step plainHashes (step plainHashes .empty firstUpdate) replacingUpdate).terminal
    replacingUpdate := by
  refine (shows_of_keeps plainHashes pixelContent twoImages collisionFree_twoImages run_firstUpdate
    (given_of_exactly _ _ _ given_replacingUpdate)).2 ⟨?_, ?_, ?_⟩
  · intro id hRemoved
    have hNone : (step plainHashes .empty firstUpdate).cache.removedPaneLayerImages
        [oneCell 8 1 []] = [] := by decide
    rw [hNone] at hRemoved
    cases hRemoved
  · intro prior placement rest hSplit previous hPrevious hOther hUnused other hVisible hSame
    have hOne : visible [oneCell 8 1 []] = [oneCell 8 1 []] := by decide
    rw [hOne] at hSplit hVisible
    obtain rfl := List.mem_singleton.1 hVisible
    obtain ⟨rfl, hPlacement⟩ : prior = [] ∧ oneCell 8 1 [] = placement := by
      cases prior with
      | nil => exact ⟨rfl, (List.cons.inj hSplit).1⟩
      | cons first more =>
        have hLength := congrArg List.length hSplit
        simp at hLength
    rw [hPlacement] at hSame
    exact hOther hSame.symm
  · intro first hFirst second hSecond _
    have hOne : visible [oneCell 8 1 []] = [oneCell 8 1 []] := by decide
    rw [hOne] at hFirst hSecond
    rw [List.mem_singleton.1 hFirst, List.mem_singleton.1 hSecond]
    exact ⟨rfl, rfl⟩

/-- The two sources change their images with one another. -/
def swappingUpdate : Label := .paint true none [oneCell 7 2 [], oneCell 8 1 []]

theorem given_swappingUpdate :
  GivenExactly plainHashes pixelContent twoImages (step plainHashes .empty firstUpdate)
    swappingUpdate := by
  intro placement hMem
  rcases List.mem_pair.1 hMem with rfl | rfl
  · exact ⟨Or.inr (by decide), by decide, by decide⟩
  · exact ⟨Or.inl (by decide), by decide, by decide⟩

/-- The image of the first source is deleted before the second one needs it. -/
theorem not_shows_swappingUpdate :
  ¬∀ (hash : Hashes) (content : ImageSignature → List UInt8)
    (known : Set (PaneId × ImageSignature)) (labels : List Label) (host : Host) (label : Label),
    CollisionFree hash known →
    Run (restrict (ofFunction (step hash)) (GivenExactly hash content known)) .empty labels host →
    GivenExactly hash content known host label →
    Mirrors content (step hash host label).cache (step hash host label).terminal ∧
      Shows hash content (step hash host label).terminal label := by
  intro hShows
  have hRun : Run
      (restrict (ofFunction (step plainHashes)) (GivenExactly plainHashes pixelContent twoImages))
      .empty [firstUpdate] (step plainHashes .empty firstUpdate) :=
    Run.single ⟨rfl, given_firstUpdate⟩
  obtain ⟨-, hShown, -⟩ :=
    hShows _ _ _ _ _ _ collisionFree_twoImages hRun given_swappingUpdate
  have hSecond := (hShown (oneCell 8 1 []) (by simp) _ rfl).1
  revert hSecond
  decide

end Graphics
