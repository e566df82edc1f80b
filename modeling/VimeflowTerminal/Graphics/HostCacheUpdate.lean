import VimeflowTerminal.Graphics.KittyTerminal
import Mathlib.Data.Set.Function

/-! Every update keeps the terminal a mirror of the cache. An update that releases
no image it still needs displays its placements, and no others. -/

namespace Graphics

variable (hash : Hashes)

def visible (placements : List HostPlacement) : List HostPlacement :=
  placements.filter fun placement => (clippedPlacement placement).isSome

theorem mem_visible {placements : List HostPlacement} {placement : HostPlacement} :
  placement ∈ visible placements ↔
    placement ∈ placements ∧ (clippedPlacement placement).isSome := List.mem_filter

/-- The terminal displays the visible placements and nothing else. -/
structure Displays (content : ImageSignature → List UInt8) (terminal : KittyTerminal)
  (placements : List HostPlacement) : Prop where
  shown : ∀ placement ∈ placements, ∀ clipped, clippedPlacement placement = some clipped →
    terminal.images (hostImageId hash placement) = some (placement.imageSignature.image content) ∧
      terminal.placements (placementKey hash placement) = some (clipped, placement.placement.z)
  nothingElse : ∀ key, (terminal.placements key).isSome →
    ∃ placement ∈ visible placements, placementKey hash placement = key

/-- The images of the update are among those whose ids do not collide, and the data
of an image comes with it whenever the cache does not hold it. -/
structure Supplied (content : ImageSignature → List UInt8) (known : Set (PaneId × ImageSignature))
  (cache : HostGraphicsCache) (placements : List HostPlacement) : Prop where
  known : ∀ placement ∈ placements, (placement.paneId, placement.imageSignature) ∈ known
  data : ∀ placement ∈ placements,
    placement.placement.data = [] ∨ placement.placement.data = content placement.imageSignature
  supplied : ∀ placement ∈ placements,
    cache.images.lookup (hostImageId hash placement) ≠ some placement.imageSignature →
      placement.placement.data ≠ []

/-- No two of the images have one id. -/
def CollisionFree (known : Set (PaneId × ImageSignature)) : Prop :=
  Set.InjOn (fun image => hostImageIdForSignature hash image.1 image.2) known

/-- The image behind a source after the listed placements: that of its last one, or
the one the cache has kept. -/
def backing (cache : HostGraphicsCache) (placements prior : List HostPlacement)
  (source : HostSourceKey) : Option UInt32 :=
  match prior.reverse.find? fun placement => placement.sourceKey = source with
  | some placement => some (hostImageId hash placement)
  | none => (cache.keptSources placements).lookup source

/-- The update releases no image that one of its visible placements shows, and
placements that share their ids are displayed alike. -/
structure Unreleased (cache : HostGraphicsCache) (placements : List HostPlacement) : Prop where
  layers : ∀ id ∈ cache.removedPaneLayerImages placements,
    (∀ source, (cache.keptSources placements).lookup source ≠ some id) →
      ∀ placement ∈ visible placements, hostImageId hash placement ≠ id
  superseded : ∀ prior placement rest, visible placements = prior ++ placement :: rest →
    ∀ previous, backing hash cache placements prior placement.sourceKey = some previous →
      previous ≠ hostImageId hash placement →
      (∀ source, source ≠ placement.sourceKey →
        backing hash cache placements prior source ≠ some previous) →
      ∀ other ∈ visible placements, hostImageId hash other ≠ previous
  alike : ∀ first ∈ visible placements, ∀ second ∈ visible placements,
    placementKey hash first = placementKey hash second →
      clippedPlacement first = clippedPlacement second ∧ first.placement.z = second.placement.z

theorem backing_snoc (cache : HostGraphicsCache) (placements prior : List HostPlacement)
  (placement : HostPlacement) (source : HostSourceKey) :
  backing hash cache placements (prior ++ [placement]) source =
    if source = placement.sourceKey then some (hostImageId hash placement)
    else backing hash cache placements prior source := by
  unfold backing
  rw [List.reverse_append, List.reverse_singleton, List.singleton_append, List.find?_cons]
  by_cases hSource : placement.sourceKey = source
  · simp [hSource]
  · have hOther : source ≠ placement.sourceKey := fun h => hSource h.symm
    simp [hSource, hOther]

/-- Each image is recorded under its own id. -/
def Genuine (known : Set (PaneId × ImageSignature)) (cache : HostGraphicsCache) : Prop :=
  ∀ id signature, cache.images.lookup id = some signature →
    ∃ paneId, (paneId, signature) ∈ known ∧ id = hostImageIdForSignature hash paneId signature

/-- A cache that mirrors the terminal, with its images under their ids. -/
structure Sound (content : ImageSignature → List UInt8) (known : Set (PaneId × ImageSignature))
  (cache : HostGraphicsCache) (terminal : KittyTerminal) : Prop where
  mirrors : Mirrors content cache terminal
  genuine : Genuine hash known cache

section Sound

variable {hash} {content : ImageSignature → List UInt8} {known : Set (PaneId × ImageSignature)}
  {cache : HostGraphicsCache} {terminal : KittyTerminal}

section

variable (h : Sound hash content known cache terminal)
include h

theorem Sound.recorded
  (hFree : CollisionFree hash known) {placement : HostPlacement}
  (hKnown : (placement.paneId, placement.imageSignature) ∈ known) {existing : ImageSignature}
  (hLookup : cache.images.lookup (hostImageId hash placement) = some existing) :
  existing = placement.imageSignature := by
  obtain ⟨paneId, hExisting, hId⟩ := h.genuine _ _ hLookup
  exact (Prod.mk.inj (hFree hExisting hKnown hId.symm)).2

theorem Sound.deleteImage (id : UInt32) :
  Sound hash content known
    { cache with
      images := cache.images.erase id
      placements := cache.placements.retain fun key _ => key.1 ≠ id }
    (terminal.exec (.deleteImage id)) where
  mirrors := h.mirrors.deleteImage id
  genuine := fun other signature hLookup => by
    by_cases hSame : other = id
    · rw [hSame] at hLookup
      simp at hLookup
    · rw [AList.lookup_erase_ne hSame] at hLookup
      exact h.genuine other signature hLookup

theorem Sound.congr {other : HostGraphicsCache}
  (hImages : other.images = cache.images) (hPlacements : other.placements = cache.placements) :
  Sound hash content known other terminal where
  mirrors := h.mirrors.congr hImages hPlacements
  genuine := by
    rw [Genuine, hImages]
    exact h.genuine

end

theorem sound_empty : Sound hash content known .empty .empty :=
  ⟨mirrors_empty, fun _ _ hLookup => nomatch hLookup⟩

/-- A cleared cache mirrors the terminal that was told to delete every image. -/
theorem Sound.clear (h : Sound hash content known cache terminal) :
  Sound hash content known cache.clearBytes.1 (terminal.run cache.clearBytes.2) := by
  have hRun : ∀ (ids : List UInt32) (t : KittyTerminal),
      (∀ id, id ∉ ids → t.images id = none) →
      (∀ key : UInt32 × UInt32, key.1 ∉ ids → t.placements key = none) →
      t.run (ids.map .deleteImage) = .empty := by
    intro ids
    induction ids with
    | nil =>
      intro t hImages hPlacements
      have hNoImages : t.images = fun _ => none := funext fun id => hImages id List.not_mem_nil
      have hNoPlacements : t.placements = fun _ => none :=
        funext fun key => hPlacements key List.not_mem_nil
      obtain ⟨images, placements⟩ := t
      simp only at hNoImages hNoPlacements
      rw [hNoImages, hNoPlacements]
      rfl
    | cons first rest ih =>
      intro t hImages hPlacements
      refine ih (t.exec (.deleteImage first)) ?_ ?_
      · intro id hNot
        by_cases hSame : id = first
        · rw [hSame]
          exact Function.update_self _ _ _
        have hKept : (t.exec (.deleteImage first)).images id = t.images id :=
          Function.update_of_ne hSame _ _
        rw [hKept]
        exact hImages id (by simp [hSame, hNot])
      · intro key hNot
        show (if key.1 = first then none else t.placements key) = none
        split
        case isTrue => rfl
        case isFalse hOther => exact hPlacements key (by simp [hOther, hNot])
  have hEmpty : terminal.run cache.clearBytes.2 = .empty := by
    refine hRun _ terminal ?_ ?_
    · intro id hNot
      have hNone : cache.images.lookup id = none := AList.lookup_eq_none.2 hNot
      rw [h.mirrors.images, hNone]
      rfl
    · intro key hNot
      rw [h.mirrors.placements]
      cases hLookup : cache.placements.lookup key with
      | none => rfl
      | some signature =>
        have hPlaced := h.mirrors.placed key (by rw [hLookup]; rfl)
        exact absurd (AList.lookup_isSome.1 hPlaced) hNot
  rw [hEmpty]
  exact sound_empty

end Sound

namespace Pass

variable {hash} {content : ImageSignature → List UInt8} {known : Set (PaneId × ImageSignature)}
  {terminal : KittyTerminal} {pass : Pass}

/-- The terminal has executed what the update has written so far. -/
def SoundFrom (hash : Hashes) (content : ImageSignature → List UInt8)
  (known : Set (PaneId × ImageSignature)) (terminal : KittyTerminal) (pass : Pass) : Prop :=
  Sound hash content known pass.cache (terminal.run pass.commands)

theorem SoundFrom.drop (h : pass.SoundFrom hash content known terminal) (id : UInt32) :
  ((pass.deleteImage id).forgetImage id).SoundFrom hash content known terminal := by
  have hDeleted := Sound.deleteImage h id
  rw [← KittyTerminal.run_snoc] at hDeleted
  exact hDeleted

theorem SoundFrom.dropLayerImage (h : pass.SoundFrom hash content known terminal) (id : UInt32) :
  (pass.dropLayerImage id).SoundFrom hash content known terminal := by
  unfold Pass.dropLayerImage
  split
  · exact h
  · exact h.drop id

variable {placement : HostPlacement}

theorem SoundFrom.uploadImage (h : pass.SoundFrom hash content known terminal)
  (hKnown : (placement.paneId, placement.imageSignature) ∈ known)
  (hData : placement.placement.data = [] ∨
    placement.placement.data = content placement.imageSignature)
  (hAbsent : pass.cache.images.lookup (hostImageId hash placement) = none) :
  (pass.uploadImage placement (hostImageId hash placement)).1.SoundFrom hash content known
    terminal := by
  unfold Pass.uploadImage
  split
  case isTrue => exact h
  case isFalse hSome =>
    have hContent := hData.resolve_left hSome
    have hMirrors := h.mirrors.upload hAbsent hContent
    rw [← KittyTerminal.run_snoc] at hMirrors
    refine ⟨hMirrors, fun id signature hLookup => ?_⟩
    by_cases hSame : id = hostImageId hash placement
    · rw [hSame, AList.lookup_insert, Option.some.injEq] at hLookup
      exact ⟨placement.paneId, hLookup ▸ hKnown, by rw [hSame, ← hLookup]; rfl⟩
    · rw [AList.lookup_insert_ne hSame] at hLookup
      exact h.genuine id signature hLookup

/-- What becomes of a pass that makes sure of an image. -/
structure Ensured (hash : Hashes) (content : ImageSignature → List UInt8)
  (known : Set (PaneId × ImageSignature)) (terminal : KittyTerminal) (pass after : Pass)
  (placement : HostPlacement) (held : Bool) : Prop where
  sound : after.SoundFrom hash content known terminal
  sources : after.cache.sources = pass.cache.sources
  placements : after.cache.placements = pass.cache.placements
  current : after.current = pass.current
  other : ∀ id, id ≠ hostImageId hash placement →
    after.cache.images.lookup id = pass.cache.images.lookup id
  image : held = true →
    after.cache.images.lookup (hostImageId hash placement) = some placement.imageSignature
  missing : held = false →
    pass.cache.images.lookup (hostImageId hash placement) = none ∧ placement.placement.data = []

theorem ensureImage_ensured (hFree : CollisionFree hash known)
  (h : pass.SoundFrom hash content known terminal)
  (hKnown : (placement.paneId, placement.imageSignature) ∈ known)
  (hData : placement.placement.data = [] ∨
    placement.placement.data = content placement.imageSignature) :
  Ensured hash content known terminal pass
    (pass.ensureImage placement (hostImageId hash placement)).1 placement
    (pass.ensureImage placement (hostImageId hash placement)).2 := by
  unfold Pass.ensureImage
  cases hLookup : pass.cache.images.lookup (hostImageId hash placement) with
  | some existing =>
    have hSame := h.recorded hFree hKnown hLookup
    dsimp only
    rw [if_pos hSame]
    exact ⟨h, rfl, rfl, rfl, fun _ _ => rfl, fun _ => by rw [hLookup, hSame], fun h => nomatch h⟩
  | none =>
    have hSound := h.uploadImage hKnown hData hLookup
    unfold Pass.uploadImage at hSound ⊢
    dsimp only
    split
    case isTrue hEmpty =>
      exact ⟨h, rfl, rfl, rfl, fun _ _ => rfl, fun h => absurd h Bool.false_ne_true,
        fun _ => ⟨hLookup, hEmpty⟩⟩
    case isFalse hSome =>
      rw [if_neg hSome] at hSound
      exact ⟨hSound, rfl, rfl, rfl, fun id hOther => AList.lookup_insert_ne hOther,
        fun _ => AList.lookup_insert _, fun h => nomatch h⟩

/-- The source is taken down, and the image it had before goes if no other source
has it. -/
theorem release_cases (pass : Pass) (source : HostSourceKey) (hostId : UInt32) :
  pass.releaseSupersededSourceImage source hostId =
      { pass with
        cache := { pass.cache with sources := pass.cache.sources.insert source hostId } } ∨
    ∃ previous, pass.cache.sources.lookup source = some previous ∧ previous ≠ hostId ∧
      (∀ other, other ≠ source → pass.cache.sources.lookup other ≠ some previous) ∧
      pass.releaseSupersededSourceImage source hostId =
        (({ pass with
            cache := { pass.cache with sources := pass.cache.sources.insert source hostId } } :
              Pass).deleteImage previous).forgetImage previous := by
  unfold releaseSupersededSourceImage
  cases hLookup : pass.cache.sources.lookup source with
  | none => exact Or.inl rfl
  | some previous =>
    dsimp only
    split
    case isTrue => exact Or.inl rfl
    case isFalse hGone =>
      obtain ⟨hOther, hUnused⟩ := not_or.1 hGone
      refine Or.inr ⟨previous, rfl, hOther, fun other hNot hHas => hUnused ?_, rfl⟩
      refine FinMap.mem_values.2 ⟨other, ?_⟩
      rw [AList.lookup_insert_ne hNot]
      exact hHas

theorem SoundFrom.release (h : pass.SoundFrom hash content known terminal)
  (source : HostSourceKey) (hostId : UInt32) :
  (pass.releaseSupersededSourceImage source hostId).SoundFrom hash content known terminal := by
  have hAfter : SoundFrom hash content known terminal
      { pass with cache := { pass.cache with sources := pass.cache.sources.insert source hostId } } :=
    Sound.congr h rfl rfl
  rcases pass.release_cases source hostId with hSame | ⟨previous, -, -, -, hDrop⟩
  · rw [hSame]
    exact hAfter
  · rw [hDrop]
    exact hAfter.drop previous

theorem SoundFrom.displayPlacement (h : pass.SoundFrom hash content known terminal)
  {key : UInt32 × UInt32} (hImage : (pass.cache.images.lookup key.1).isSome) (viewChanged : Bool)
  (signature : PlacementSignature) :
  (pass.displayPlacement viewChanged key signature).SoundFrom hash content known terminal := by
  unfold Pass.displayPlacement
  split
  case isTrue => exact h
  case isFalse =>
    have hMirrors := h.mirrors.display hImage signature
    rw [← KittyTerminal.run_snoc] at hMirrors
    exact ⟨hMirrors, h.genuine⟩

theorem release_image {source : HostSourceKey} {id : UInt32} {signature : ImageSignature}
  (hImage : pass.cache.images.lookup id = some signature) :
  (pass.releaseSupersededSourceImage source id).cache.images.lookup id = some signature := by
  rcases pass.release_cases source id with hSame | ⟨previous, -, hOther, -, hDrop⟩
  · rw [hSame]
    exact hImage
  rw [hDrop]
  show (pass.cache.images.erase previous).lookup id = some signature
  rw [AList.lookup_erase_ne hOther.symm]
  exact hImage

theorem SoundFrom.place (hFree : CollisionFree hash known)
  (h : pass.SoundFrom hash content known terminal)
  (hKnown : (placement.paneId, placement.imageSignature) ∈ known)
  (hData : placement.placement.data = [] ∨
    placement.placement.data = content placement.imageSignature) (viewChanged : Bool) :
  (pass.place hash viewChanged placement).SoundFrom hash content known terminal := by
  unfold Pass.place
  split
  case h_1 => exact h
  case h_2 clipped hClipped =>
    have hBegun : SoundFrom hash content known terminal
        { pass with current := placementKey hash placement :: pass.current } := h
    have hEnsured := ensureImage_ensured hFree hBegun hKnown hData
    dsimp only
    split
    case h_1 after hResult =>
      rw [hResult] at hEnsured
      exact hEnsured.sound
    case h_2 after hResult =>
      rw [hResult] at hEnsured
      refine (hEnsured.sound.release _ _).displayPlacement ?_ viewChanged _
      show (AList.lookup (hostImageId hash placement) _).isSome = true
      rw [release_image (hEnsured.image rfl)]
      rfl

theorem SoundFrom.deleteStale (h : pass.SoundFrom hash content known terminal)
  (key : UInt32 × UInt32) : (pass.deleteStale key).SoundFrom hash content known terminal := by
  unfold Pass.deleteStale
  split
  case isTrue => exact h
  case isFalse =>
    have hMirrors := h.mirrors.deletePlacement key
    rw [← KittyTerminal.run_snoc] at hMirrors
    exact ⟨hMirrors, h.genuine⟩

theorem SoundFrom.start {cache : HostGraphicsCache} (h : Sound hash content known cache terminal)
  (placements : List HostPlacement) :
  (start cache placements).SoundFrom hash content known terminal := by
  unfold Pass.start
  generalize cache.removedPaneLayerImages placements = removed
  have hInit : SoundFrom hash content known terminal
      { cache := { cache with sources := cache.keptSources placements }
        current := []
        commands := [] } := h.congr rfl rfl
  exact List.foldlRecOn removed Pass.dropLayerImage hInit fun pass hPass id _ => hPass.dropLayerImage id

end Pass

theorem Sound.update {hash : Hashes} {content : ImageSignature → List UInt8}
  {known : Set (PaneId × ImageSignature)} {cache : HostGraphicsCache} {terminal : KittyTerminal}
  {placements : List HostPlacement} (hFree : CollisionFree hash known)
  (h : Sound hash content known cache terminal)
  (hSupplied : Supplied hash content known cache placements) (viewChanged : Bool) :
  Sound hash content known (encodeGraphicsUpdate hash cache placements viewChanged).1
    (terminal.run (encodeGraphicsUpdate hash cache placements viewChanged).2) := by
  have hPlaced : (placements.foldl (Pass.place hash viewChanged)
      (.start cache placements)).SoundFrom hash content known terminal :=
    List.foldlRecOn placements _ (Pass.SoundFrom.start h placements) fun pass hPass placement hMem =>
      hPass.place hFree (hSupplied.known placement hMem) (hSupplied.data placement hMem) viewChanged
  exact List.foldlRecOn _ Pass.deleteStale hPlaced fun pass hPass key _ => hPass.deleteStale key

end Graphics
