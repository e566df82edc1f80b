import VimeflowTerminal.Graphics.HostCacheUpdate

/-! How far an update has come after some of its visible placements, if it releases
no image that it still needs. -/

namespace Graphics

namespace Pass

variable {hash : Hashes} {content : ImageSignature → List UInt8}
  {known : Set (PaneId × ImageSignature)} {terminal : KittyTerminal}

/-- What a pass has done when it has placed `prior`. -/
structure Progress (hash : Hashes) (content : ImageSignature → List UInt8)
  (known : Set (PaneId × ImageSignature)) (terminal : KittyTerminal) (cache : HostGraphicsCache)
  (placements prior : List HostPlacement) (pass : Pass) : Prop where
  sound : pass.SoundFrom hash content known terminal
  sources : ∀ source, pass.cache.sources.lookup source = backing hash cache placements prior source
  /-- What the cache held of the images of the update, it holds. -/
  held : ∀ placement ∈ visible placements,
    cache.images.lookup (hostImageId hash placement) = some placement.imageSignature →
      pass.cache.images.lookup (hostImageId hash placement) = some placement.imageSignature
  displayed : ∀ placement ∈ prior, ∀ clipped, clippedPlacement placement = some clipped →
    pass.cache.images.lookup (hostImageId hash placement) = some placement.imageSignature ∧
      ∃ signature, pass.cache.placements.lookup (placementKey hash placement) = some signature ∧
        signature.geometry = (clipped, placement.placement.z)
  current : ∀ key, key ∈ pass.current ↔ ∃ placement ∈ prior, placementKey hash placement = key

section Drop

variable {pass : Pass} {id : UInt32}

theorem drop_images {other : UInt32} (hOther : other ≠ id) :
  ((pass.deleteImage id).forgetImage id).cache.images.lookup other =
    pass.cache.images.lookup other := AList.lookup_erase_ne hOther

theorem drop_placements {key : UInt32 × UInt32} (hOther : key.1 ≠ id) :
  ((pass.deleteImage id).forgetImage id).cache.placements.lookup key =
    pass.cache.placements.lookup key := by
  show (pass.cache.placements.retain fun key _ => key.1 ≠ id).lookup key = _
  rw [lookup_retain_image, if_neg hOther]

theorem drop_current (hUnused : ∀ key ∈ pass.current, key.1 ≠ id) :
  ((pass.deleteImage id).forgetImage id).current = pass.current := by
  refine List.filter_eq_self.2 fun key hMem => ?_
  simp [hUnused key hMem]

end Drop

variable {cache : HostGraphicsCache} {placements : List HostPlacement}

/-- The layers' images that go are not those of the update. -/
theorem progress_start (h : Sound hash content known cache terminal)
  (hUnreleased : Unreleased hash cache placements) :
  Progress hash content known terminal cache placements [] (start cache placements) := by
  have hRule : ∀ pass : Pass,
      (pass.SoundFrom hash content known terminal ∧ pass.current = [] ∧
        pass.cache.sources = cache.keptSources placements ∧
        ∀ placement ∈ visible placements,
          pass.cache.images.lookup (hostImageId hash placement) =
            cache.images.lookup (hostImageId hash placement)) →
      ∀ id ∈ cache.removedPaneLayerImages placements,
        ((pass.dropLayerImage id).SoundFrom hash content known terminal ∧
          (pass.dropLayerImage id).current = [] ∧
          (pass.dropLayerImage id).cache.sources = cache.keptSources placements ∧
          ∀ placement ∈ visible placements,
            (pass.dropLayerImage id).cache.images.lookup (hostImageId hash placement) =
              cache.images.lookup (hostImageId hash placement)) := by
    rintro pass ⟨hSound, hCurrent, hSources, hImages⟩ id hMem
    refine ⟨hSound.dropLayerImage id, ?_⟩
    unfold Pass.dropLayerImage
    split
    case isTrue => exact ⟨hCurrent, hSources, hImages⟩
    case isFalse hGone =>
      have hUnused : ∀ source, (cache.keptSources placements).lookup source ≠ some id := by
        intro source hHas
        exact hGone (FinMap.mem_values.2 ⟨source, hSources ▸ hHas⟩)
      refine ⟨?_, hSources, fun placement hVisible => ?_⟩
      · rw [drop_current (by rw [hCurrent]; exact fun _ h => nomatch h)]
        exact hCurrent
      · rw [drop_images (hUnreleased.layers id hMem hUnused placement hVisible)]
        exact hImages placement hVisible
  have hInit : SoundFrom hash content known terminal
      { cache := { cache with sources := cache.keptSources placements }
        current := []
        commands := [] } := h.congr rfl rfl
  obtain ⟨hSound, hCurrent, hSources, hImages⟩ := List.foldlRecOn
    (cache.removedPaneLayerImages placements) Pass.dropLayerImage
    ⟨hInit, rfl, rfl, fun _ _ => rfl⟩ hRule
  exact
    { sound := hSound
      sources := fun source => congrArg (AList.lookup source) hSources
      held := fun placement hVisible hHeld => (hImages placement hVisible).trans hHeld
      displayed := fun _ hMem => nomatch hMem
      current := fun key => by
        rw [start, hCurrent]
        simp }

variable {prior rest : List HostPlacement} {placement : HostPlacement} {pass : Pass}

/-- The image a source had before is none of the update's. -/
theorem release_visible (hSources : ∀ source, pass.cache.sources.lookup source =
    backing hash cache placements prior source) (hUnreleased : Unreleased hash cache placements)
  (hSplit : visible placements = prior ++ placement :: rest)
  (hCurrent : ∀ key ∈ pass.current, ∃ other ∈ visible placements, placementKey hash other = key) :
  let released := pass.releaseSupersededSourceImage placement.sourceKey (hostImageId hash placement)
  (∀ other ∈ visible placements,
      released.cache.images.lookup (hostImageId hash other) =
        pass.cache.images.lookup (hostImageId hash other)) ∧
    (∀ other ∈ visible placements,
      released.cache.placements.lookup (placementKey hash other) =
        pass.cache.placements.lookup (placementKey hash other)) ∧
    released.current = pass.current ∧
    released.cache.sources =
      pass.cache.sources.insert placement.sourceKey (hostImageId hash placement) := by
  rcases pass.release_cases placement.sourceKey (hostImageId hash placement) with
    hSame | ⟨previous, hPrevious, hOther, hUnused, hDrop⟩
  · rw [hSame]
    exact ⟨fun _ _ => rfl, fun _ _ => rfl, rfl, rfl⟩
  have hNeeded : ∀ other ∈ visible placements, hostImageId hash other ≠ previous := by
    refine hUnreleased.superseded prior placement rest hSplit previous ?_ hOther ?_
    · rw [← hSources]
      exact hPrevious
    intro source hSource
    rw [← hSources]
    exact hUnused source hSource
  rw [hDrop]
  refine ⟨fun other hMem => drop_images (hNeeded other hMem),
    fun other hMem => drop_placements (hNeeded other hMem), drop_current ?_, rfl⟩
  intro key hKey
  obtain ⟨other, hVisible, rfl⟩ := hCurrent key hKey
  exact hNeeded other hVisible

theorem displayPlacement_lookup (pass : Pass) (viewChanged : Bool) (key : UInt32 × UInt32)
  (signature : PlacementSignature) :
  (pass.displayPlacement viewChanged key signature).cache.placements.lookup key = some signature ∧
    (∀ other, other ≠ key →
      (pass.displayPlacement viewChanged key signature).cache.placements.lookup other =
        pass.cache.placements.lookup other) ∧
    (pass.displayPlacement viewChanged key signature).cache.images = pass.cache.images ∧
    (pass.displayPlacement viewChanged key signature).cache.sources = pass.cache.sources ∧
    (pass.displayPlacement viewChanged key signature).current = pass.current := by
  unfold displayPlacement
  split
  case isTrue hSame =>
    have hLookup := of_decide_eq_true (Bool.and_eq_true_iff.1 hSame).2
    exact ⟨hLookup, fun _ _ => rfl, rfl, rfl, rfl⟩
  case isFalse =>
    exact ⟨AList.lookup_insert _, fun other hOther => AList.lookup_insert_ne hOther, rfl, rfl, rfl⟩

/-- The image of the next placement is there or is sent. -/
theorem Progress.ensures (h : Progress hash content known terminal cache placements prior pass)
  (hFree : CollisionFree hash known) (hSupplied : Supplied hash content known cache placements)
  (hSplit : visible placements = prior ++ placement :: rest) :
  ∃ after, { pass with current := placementKey hash placement :: pass.current }.ensureImage
      placement (hostImageId hash placement) = (after, true) ∧
    Ensured hash content known terminal
      { pass with current := placementKey hash placement :: pass.current } after placement true := by
  have hVisible : placement ∈ visible placements := by rw [hSplit]; simp
  have hMem := (mem_visible.1 hVisible).1
  have hBegun : SoundFrom hash content known terminal
      { pass with current := placementKey hash placement :: pass.current } := h.sound
  have hEnsured := ensureImage_ensured hFree hBegun (hSupplied.known placement hMem)
    (hSupplied.data placement hMem)
  generalize { pass with current := placementKey hash placement :: pass.current }.ensureImage
    placement (hostImageId hash placement) = result at hEnsured
  obtain ⟨after, held⟩ := result
  cases held with
  | true => exact ⟨after, rfl, hEnsured⟩
  | false =>
    obtain ⟨hNone, hEmpty⟩ := hEnsured.missing rfl
    refine absurd hEmpty (hSupplied.supplied placement hMem fun hHeld => ?_)
    have hStill := h.held placement hVisible hHeld
    rw [hNone] at hStill
    cases hStill

theorem Progress.place (h : Progress hash content known terminal cache placements prior pass)
  (hFree : CollisionFree hash known) (hSupplied : Supplied hash content known cache placements)
  (hUnreleased : Unreleased hash cache placements)
  (hSplit : visible placements = prior ++ placement :: rest) (viewChanged : Bool) :
  Progress hash content known terminal cache placements (prior ++ [placement])
    (pass.place hash viewChanged placement) := by
  have hVisible : placement ∈ visible placements := by rw [hSplit]; simp
  have hPrior : ∀ other ∈ prior, other ∈ visible placements := by
    intro other hMem
    rw [hSplit]
    exact List.mem_append_left _ hMem
  obtain ⟨hMem, hSome⟩ := mem_visible.1 hVisible
  obtain ⟨clipped, hClipped⟩ := Option.isSome_iff_exists.1 hSome
  have hSound := h.sound.place hFree (hSupplied.known placement hMem)
    (hSupplied.data placement hMem) viewChanged
  obtain ⟨after, hAfter, hEnsured⟩ := h.ensures hFree hSupplied hSplit
  have hCurrent : ∀ key ∈ after.current, ∃ other ∈ visible placements,
      placementKey hash other = key := by
    rw [hEnsured.current]
    intro key hKey
    rcases List.mem_cons.1 hKey with rfl | hKey
    · exact ⟨placement, hVisible, rfl⟩
    · obtain ⟨other, hOther, rfl⟩ := (h.current key).1 hKey
      exact ⟨other, hPrior other hOther, rfl⟩
  obtain ⟨hImages, hPlacements, hSameCurrent, hSources⟩ := release_visible
    (fun source => (congrArg (AList.lookup source) hEnsured.sources).trans (h.sources source))
    hUnreleased hSplit hCurrent
  obtain ⟨hShown, hOthers, hKeptImages, hKeptSources, hKeptCurrent⟩ := displayPlacement_lookup
    (after.releaseSupersededSourceImage placement.sourceKey (hostImageId hash placement)) viewChanged
    (placementKey hash placement) (placement.placementSignature clipped)
  have hPlace : pass.place hash viewChanged placement =
      (after.releaseSupersededSourceImage placement.sourceKey
        (hostImageId hash placement)).displayPlacement viewChanged (placementKey hash placement)
          (placement.placementSignature clipped) := by
    unfold Pass.place
    rw [hClipped]
    dsimp only
    rw [hAfter]
  -- The images of the update are those of `after`, and of `pass` beside the new one.
  have hLookup : ∀ other ∈ visible placements,
      (pass.place hash viewChanged placement).cache.images.lookup (hostImageId hash other) =
        after.cache.images.lookup (hostImageId hash other) := by
    intro other hOther
    rw [hPlace, hKeptImages]
    exact hImages other hOther
  have hStays : ∀ other ∈ visible placements,
      pass.cache.images.lookup (hostImageId hash other) = some other.imageSignature →
        after.cache.images.lookup (hostImageId hash other) = some other.imageSignature := by
    intro other hOther hHeld
    by_cases hSame : hostImageId hash other = hostImageId hash placement
    · have hNow := hEnsured.image rfl
      rw [← hSame] at hNow
      have hRecorded := hEnsured.sound.recorded hFree
        (hSupplied.known other (mem_visible.1 hOther).1) hNow
      rw [hNow, hRecorded]
    · exact (hEnsured.other _ hSame).trans hHeld
  refine ⟨hSound, ?_, ?_, ?_, ?_⟩
  · intro source
    rw [hPlace, hKeptSources, hSources, hEnsured.sources, backing_snoc]
    by_cases hSource : source = placement.sourceKey
    · rw [if_pos hSource, hSource, AList.lookup_insert]
    · rw [if_neg hSource, AList.lookup_insert_ne hSource]
      exact h.sources source
  · intro other hOther hHeld
    rw [hLookup other hOther]
    exact hStays other hOther (h.held other hOther hHeld)
  · intro other hOther otherClipped hOtherClipped
    rcases List.mem_append.1 hOther with hOther | hOther
    case inr =>
      obtain rfl := List.mem_singleton.1 hOther
      rw [hClipped, Option.some.injEq] at hOtherClipped
      refine ⟨(hLookup other hVisible).trans (hEnsured.image rfl),
        other.placementSignature clipped, ?_, ?_⟩
      · rw [hPlace]
        exact hShown
      · rw [← hOtherClipped]
        rfl
    case inl =>
      obtain ⟨hImage, signature, hSignature, hGeometry⟩ :=
        h.displayed other hOther otherClipped hOtherClipped
      refine ⟨(hLookup other (hPrior other hOther)).trans
        (hStays other (hPrior other hOther) hImage), ?_⟩
      rw [hPlace]
      by_cases hKey : placementKey hash other = placementKey hash placement
      · obtain ⟨hAlike, hZ⟩ := hUnreleased.alike other (hPrior other hOther) placement hVisible hKey
        refine ⟨placement.placementSignature clipped, by rw [hKey]; exact hShown, ?_⟩
        rw [hOtherClipped, hClipped, Option.some.injEq] at hAlike
        rw [hAlike, hZ]
        rfl
      · refine ⟨signature, ?_, hGeometry⟩
        rw [hOthers _ hKey, hPlacements other (hPrior other hOther), hEnsured.placements]
        exact hSignature
  · intro key
    rw [hPlace, hKeptCurrent, hSameCurrent, hEnsured.current, List.mem_cons, h.current key]
    constructor
    · rintro (rfl | ⟨other, hOther, rfl⟩)
      · exact ⟨placement, by simp, rfl⟩
      · exact ⟨other, by simp [hOther], rfl⟩
    · rintro ⟨other, hOther, rfl⟩
      rcases List.mem_append.1 hOther with hOther | hOther
      · exact Or.inr ⟨other, hOther, rfl⟩
      · obtain rfl := List.mem_singleton.1 hOther
        exact Or.inl rfl

/-- The placements that are hidden are passed over. -/
theorem foldl_place_visible (pass : Pass) (viewChanged : Bool) (placements : List HostPlacement) :
  placements.foldl (Pass.place hash viewChanged) pass =
    (visible placements).foldl (Pass.place hash viewChanged) pass := by
  induction placements generalizing pass with
  | nil => rfl
  | cons first rest ih =>
    rw [List.foldl_cons, ih]
    cases hClipped : clippedPlacement first with
    | none =>
      have hSkip : pass.place hash viewChanged first = pass := by rw [Pass.place, hClipped]
      have hHidden : visible (first :: rest) = visible rest :=
        List.filter_cons_of_neg (by rw [hClipped]; exact Bool.false_ne_true)
      rw [hSkip, hHidden]
    | some clipped =>
      have hShown : visible (first :: rest) = first :: visible rest :=
        List.filter_cons_of_pos (by rw [hClipped]; rfl)
      rw [hShown, List.foldl_cons]

theorem Progress.placeAll (hFree : CollisionFree hash known)
  (hSupplied : Supplied hash content known cache placements)
  (hUnreleased : Unreleased hash cache placements) (viewChanged : Bool) :
  ∀ {rest prior : List HostPlacement} {pass : Pass}, visible placements = prior ++ rest →
    Progress hash content known terminal cache placements prior pass →
    Progress hash content known terminal cache placements (visible placements)
      (rest.foldl (Pass.place hash viewChanged) pass) := by
  intro rest
  induction rest with
  | nil =>
    intro prior pass hSplit h
    rw [List.append_nil] at hSplit
    rw [hSplit]
    exact h
  | cons placement rest ih =>
    intro prior pass hSplit h
    have hNext := h.place hFree hSupplied hUnreleased hSplit viewChanged
    exact ih (by rw [hSplit, List.append_assoc]; rfl) hNext

/-- What deleting the stale ones among the keys has done. -/
theorem deleteStale_fold (keys : List (UInt32 × UInt32)) (pass : Pass) :
  (keys.foldl deleteStale pass).cache.images = pass.cache.images ∧
    (keys.foldl deleteStale pass).current = pass.current ∧
    ∀ key, (keys.foldl deleteStale pass).cache.placements.lookup key =
      if key ∈ keys ∧ key ∉ pass.current then none else pass.cache.placements.lookup key := by
  induction keys generalizing pass with
  | nil => exact ⟨rfl, rfl, fun key => by simp⟩
  | cons first rest ih =>
    obtain ⟨hImages, hCurrent, hLookup⟩ := ih (pass.deleteStale first)
    rw [List.foldl_cons]
    by_cases hStale : first ∈ pass.current
    · have hSame : pass.deleteStale first = pass := if_pos hStale
      rw [hSame] at hImages hCurrent hLookup ⊢
      refine ⟨hImages, hCurrent, fun key => ?_⟩
      rw [hLookup key]
      by_cases hKey : key = first
      · simp [hKey, hStale]
      · simp [hKey]
    · have hDeleted : pass.deleteStale first =
          { pass with
            cache := { pass.cache with placements := pass.cache.placements.erase first }
            commands := pass.commands ++ [.deletePlacement first.1 first.2] } := if_neg hStale
      rw [hDeleted] at hImages hCurrent hLookup ⊢
      refine ⟨hImages, hCurrent, fun key => ?_⟩
      rw [hLookup key]
      show (if key ∈ rest ∧ key ∉ pass.current then none
        else (pass.cache.placements.erase first).lookup key) = _
      by_cases hKey : key = first
      · rw [hKey, AList.lookup_erase, ite_self, if_pos ⟨List.mem_cons_self, hStale⟩]
      · rw [AList.lookup_erase_ne hKey]
        simp [hKey]

end Pass

/-- An update that releases no image it still needs displays its placements. -/
theorem Sound.displays {hash : Hashes} {content : ImageSignature → List UInt8}
  {known : Set (PaneId × ImageSignature)} {cache : HostGraphicsCache} {terminal : KittyTerminal}
  {placements : List HostPlacement} (h : Sound hash content known cache terminal)
  (hFree : CollisionFree hash known) (hSupplied : Supplied hash content known cache placements)
  (hUnreleased : Unreleased hash cache placements) (viewChanged : Bool) :
  Displays hash content (terminal.run (encodeGraphicsUpdate hash cache placements viewChanged).2)
    placements := by
  have hSound := h.update hFree hSupplied viewChanged
  have hSplit : visible placements = [] ++ visible placements := rfl
  have hProgress := Pass.Progress.placeAll hFree hSupplied hUnreleased viewChanged hSplit
    (Pass.progress_start h hUnreleased)
  rw [← Pass.foldl_place_visible] at hProgress
  simp only [encodeGraphicsUpdate] at hSound ⊢
  generalize placements.foldl (Pass.place hash viewChanged) (.start cache placements) = pass
    at hProgress hSound ⊢
  obtain ⟨hImages, -, hLookup⟩ := Pass.deleteStale_fold pass.cache.placements.keys pass
  constructor
  · intro placement hMem clipped hClipped
    have hVisible : placement ∈ visible placements :=
      mem_visible.2 ⟨hMem, by rw [hClipped]; rfl⟩
    obtain ⟨hImage, signature, hSignature, hGeometry⟩ :=
      hProgress.displayed placement hVisible clipped hClipped
    have hCurrent : placementKey hash placement ∈ pass.current :=
      (hProgress.current _).2 ⟨placement, hVisible, rfl⟩
    constructor
    · rw [hSound.mirrors.images, hImages, hImage]
      rfl
    · rw [hSound.mirrors.placements, hLookup, if_neg (by simp [hCurrent]), hSignature]
      exact congrArg some hGeometry
  · intro key hKey
    rw [hSound.mirrors.placements, Option.isSome_map, hLookup] at hKey
    split at hKey
    case isTrue => cases hKey
    case isFalse hNot =>
      have hHeld : key ∈ pass.cache.placements.keys := AList.lookup_isSome.1 hKey
      have hCurrent : key ∈ pass.current := by
        by_contra hStale
        exact hNot ⟨hHeld, hStale⟩
      exact (hProgress.current key).1 hCurrent

end Graphics
