import VimeflowTerminal.Graphics.HostCache

/-! A reference terminal that executes the commands, and what it means that a cache
mirrors it. The pixels of an image are those that its signature stands for. -/

namespace Graphics

structure Image where
  formatCode : Nat
  width : Nat
  height : Nat
  data : List UInt8
  deriving DecidableEq

/-- The images and placements a terminal holds. -/
structure KittyTerminal where
  images : UInt32 → Option Image
  placements : UInt32 × UInt32 → Option (ClippedPlacement × Int)

namespace KittyTerminal

def empty : KittyTerminal := { images := fun _ => none, placements := fun _ => none }

/-- The placements of an image go with it. -/
def deleteImage (terminal : KittyTerminal) (id : UInt32) : KittyTerminal :=
  { images := Function.update terminal.images id none
    placements := fun key => if key.1 = id then none else terminal.placements key }

def exec (terminal : KittyTerminal) : Command → KittyTerminal
  | .deleteImage id => terminal.deleteImage id
  | .deletePlacement id placementId =>
    { terminal with placements := Function.update terminal.placements (id, placementId) none }
  | .upload id formatCode width height data =>
    -- An image that is sent again loses its placements.
    let terminal := terminal.deleteImage id
    { terminal with
      images := Function.update terminal.images id (some { formatCode, width, height, data }) }
  | .display id placementId clipped z =>
    -- A placement of an image that is not there is refused.
    if (terminal.images id).isSome then
      { terminal with
        placements := Function.update terminal.placements (id, placementId) (some (clipped, z)) }
    else terminal

def run (terminal : KittyTerminal) (commands : List Command) : KittyTerminal :=
  commands.foldl exec terminal

theorem run_append (terminal : KittyTerminal) (first second : List Command) :
  terminal.run (first ++ second) = (terminal.run first).run second :=
  List.foldl_append

theorem run_snoc (terminal : KittyTerminal) (commands : List Command) (command : Command) :
  terminal.run (commands ++ [command]) = (terminal.run commands).exec command := by
  rw [run_append]
  rfl

end KittyTerminal

def ImageSignature.image (signature : ImageSignature) (content : ImageSignature → List UInt8) : Image :=
  { formatCode := signature.formatCode
    width := signature.imageWidth
    height := signature.imageHeight
    data := content signature }

def PlacementSignature.geometry (signature : PlacementSignature) : ClippedPlacement × Int :=
  (signature.clipped, signature.z)

/-- The terminal holds what the cache has recorded, no more and no less. -/
structure Mirrors (content : ImageSignature → List UInt8) (cache : HostGraphicsCache)
  (terminal : KittyTerminal) : Prop where
  images : ∀ id, terminal.images id =
    (cache.images.lookup id).map fun signature => signature.image content
  placements : ∀ key, terminal.placements key =
    (cache.placements.lookup key).map PlacementSignature.geometry
  /-- Each placement has its image. -/
  placed : ∀ key, (cache.placements.lookup key).isSome → (cache.images.lookup key.1).isSome

section Mirrors

variable {content : ImageSignature → List UInt8} {cache : HostGraphicsCache}
  {terminal : KittyTerminal}

theorem mirrors_empty : Mirrors content .empty .empty where
  images := fun _ => rfl
  placements := fun _ => rfl
  placed := fun _ hSome => nomatch hSome

theorem Mirrors.congr {other : HostGraphicsCache} (h : Mirrors content cache terminal)
  (hImages : other.images = cache.images) (hPlacements : other.placements = cache.placements) :
  Mirrors content other terminal where
  images := by
    rw [hImages]
    exact h.images
  placements := by
    rw [hPlacements]
    exact h.placements
  placed := by
    rw [hImages, hPlacements]
    exact h.placed

theorem lookup_retain_image (placements : FinMap (UInt32 × UInt32) PlacementSignature)
  (id : UInt32) (key : UInt32 × UInt32) :
  (placements.retain fun key _ => key.1 ≠ id).lookup key =
    if key.1 = id then none else placements.lookup key := by
  rw [FinMap.lookup_retain]
  by_cases hKey : key.1 = id
  · rw [if_pos hKey]
    cases placements.lookup key with
    | none => rfl
    | some signature => simp [Option.filter, hKey]
  · rw [if_neg hKey]
    cases placements.lookup key with
    | none => rfl
    | some signature => simp [Option.filter, hKey]

section

variable (h : Mirrors content cache terminal)
include h

/-- An image is deleted and forgotten. -/
theorem Mirrors.deleteImage (id : UInt32) :
  Mirrors content
    { cache with
      images := cache.images.erase id
      placements := cache.placements.retain fun key _ => key.1 ≠ id }
    (terminal.exec (.deleteImage id)) where
  images := fun other => by
    by_cases hSame : other = id
    · rw [hSame]
      simp [KittyTerminal.exec, KittyTerminal.deleteImage]
    have hKept : (terminal.exec (.deleteImage id)).images other = terminal.images other :=
      Function.update_of_ne hSame _ _
    rw [hKept, h.images other]
    simp [AList.lookup_erase_ne hSame]
  placements := fun key => by
    rw [lookup_retain_image]
    show (if key.1 = id then none else terminal.placements key) = _
    split
    · rfl
    · exact h.placements key
  placed := fun key hSome => by
    rw [lookup_retain_image] at hSome
    split at hSome
    case isTrue => cases hSome
    case isFalse hOther =>
      rw [AList.lookup_erase_ne hOther]
      exact h.placed key hSome

/-- An image the terminal does not have is sent. -/
theorem Mirrors.upload {id : UInt32}
  {signature : ImageSignature} {data : List UInt8} (hAbsent : cache.images.lookup id = none)
  (hData : data = content signature) :
  Mirrors content { cache with images := cache.images.insert id signature }
    (terminal.exec
      (.upload id signature.formatCode signature.imageWidth signature.imageHeight data)) where
  images := fun other => by
    by_cases hSame : other = id
    · rw [hSame]
      simp [KittyTerminal.exec, ImageSignature.image, hData]
    have hKept : (terminal.exec (.upload id signature.formatCode signature.imageWidth
        signature.imageHeight data)).images other = terminal.images other := by
      simp [KittyTerminal.exec, KittyTerminal.deleteImage, hSame]
    rw [hKept, h.images other]
    simp [AList.lookup_insert_ne hSame]
  placements := fun key => by
    show (if key.1 = id then none else terminal.placements key) = _
    split
    case isTrue hKey =>
      have hNone : cache.placements.lookup key = none := by
        cases hLookup : cache.placements.lookup key with
        | none => rfl
        | some signature =>
          have hPlaced := h.placed key (by rw [hLookup]; rfl)
          rw [hKey, hAbsent] at hPlaced
          cases hPlaced
      rw [hNone]
      rfl
    case isFalse => exact h.placements key
  placed := fun key hSome => by
    by_cases hKey : key.1 = id
    · rw [hKey]
      simp
    · rw [AList.lookup_insert_ne hKey]
      exact h.placed key hSome

/-- A placement of an image the terminal has is displayed. -/
theorem Mirrors.display {key : UInt32 × UInt32}
  (hImage : (cache.images.lookup key.1).isSome) (signature : PlacementSignature) :
  Mirrors content { cache with placements := cache.placements.insert key signature }
    (terminal.exec (.display key.1 key.2 signature.clipped signature.z)) where
  images := fun id => by
    have hKept : (terminal.exec (.display key.1 key.2 signature.clipped signature.z)).images id =
        terminal.images id := by
      rw [KittyTerminal.exec]
      split <;> rfl
    rw [hKept]
    exact h.images id
  placements := fun other => by
    have hHeld : (terminal.images key.1).isSome := by
      rw [h.images, Option.isSome_map]
      exact hImage
    rw [KittyTerminal.exec, if_pos hHeld]
    by_cases hSame : other = key
    · rw [hSame]
      simp [PlacementSignature.geometry]
    show Function.update terminal.placements key _ other = _
    rw [Function.update_of_ne hSame, h.placements other]
    simp [AList.lookup_insert_ne hSame]
  placed := fun other hSome => by
    by_cases hSame : other = key
    · rw [hSame]
      exact hImage
    · rw [AList.lookup_insert_ne hSame] at hSome
      exact h.placed other hSome

theorem Mirrors.deletePlacement (key : UInt32 × UInt32) :
  Mirrors content { cache with placements := cache.placements.erase key }
    (terminal.exec (.deletePlacement key.1 key.2)) where
  images := h.images
  placements := fun other => by
    show Function.update terminal.placements key none other = _
    by_cases hSame : other = key
    · rw [hSame]
      simp
    · rw [Function.update_of_ne hSame, h.placements other]
      simp [AList.lookup_erase_ne hSame]
  placed := fun other hSome => by
    by_cases hSame : other = key
    · rw [hSame] at hSome
      simp at hSome
    · rw [AList.lookup_erase_ne hSame] at hSome
      exact h.placed other hSome

end

end Mirrors

end Graphics
