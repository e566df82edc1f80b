import Mathlib.Data.Rat.Floor
import VimeflowTerminal.Layout.TileLayout

/-! The rectangles a layout gives its panes, in the arithmetic of `u16`, and that
they partition the area. Ratios are rationals; rounding is half away from zero. -/

namespace Layout

structure Rect where
  x : Nat
  y : Nat
  width : Nat
  height : Nat
  deriving DecidableEq

/-- `u16::MAX` -/
def maxU16 : Nat := 2 ^ 16 - 1

/-- The addition of `u16`, which wraps around. -/
def addU16 (a b : Nat) : Nat := (a + b) % 2 ^ 16

/-- `round` and the cast to `u16`, which stays in its range. -/
def roundToU16 (value : ℚ) : Nat := min ⌊value + 1 / 2⌋.toNat maxU16

namespace Rect

/-- A rectangle is cut off at the largest coordinate. -/
def new (x y width height : Nat) : Rect :=
  { x, y, width := min width (maxU16 - x), height := min height (maxU16 - y) }

/-- The coordinates of the rectangle are in range. -/
structure Fits (area : Rect) : Prop where
  right : area.x + area.width ≤ maxU16
  bottom : area.y + area.height ≤ maxU16

def contains (area : Rect) (x y : Nat) : Bool :=
  area.x ≤ x && x < area.x + area.width && area.y ≤ y && y < area.y + area.height

/-- The rectangle lies inside the area, also when it is empty. -/
structure Within (rect area : Rect) : Prop where
  left : area.x ≤ rect.x
  right : rect.x + rect.width ≤ area.x + area.width
  top : area.y ≤ rect.y
  bottom : rect.y + rect.height ≤ area.y + area.height

theorem Within.refl (area : Rect) : area.Within area :=
  ⟨le_refl _, le_refl _, le_refl _, le_refl _⟩

theorem Within.trans {inner rect area : Rect} (h : inner.Within rect) (hOuter : rect.Within area) :
  inner.Within area where
  left := hOuter.left.trans h.left
  right := h.right.trans hOuter.right
  top := hOuter.top.trans h.top
  bottom := h.bottom.trans hOuter.bottom

theorem Within.fits {rect area : Rect} (h : rect.Within area) (hFits : area.Fits) : rect.Fits where
  right := h.right.trans hFits.right
  bottom := h.bottom.trans hFits.bottom

end Rect

/-- `split_rect` -/
def splitRect (area : Rect) (direction : Direction) (ratio : ℚ) : Rect × Rect :=
  match direction with
  | .horizontal =>
    let firstWidth := roundToU16 (area.width * ratio)
    let secondWidth := area.width - firstWidth
    (.new area.x area.y firstWidth area.height,
      .new (addU16 area.x firstWidth) area.y secondWidth area.height)
  | .vertical =>
    let firstHeight := roundToU16 (area.height * ratio)
    let secondHeight := area.height - firstHeight
    (.new area.x area.y area.width firstHeight,
      .new area.x (addU16 area.y firstHeight) area.width secondHeight)

/-- The borders drawn around a pane; `NONE` has no flags. -/
structure Borders where
  flags : Nat
  deriving DecidableEq

structure PaneInfo where
  id : PaneId
  rect : Rect
  innerRect : Rect
  scrollbarRect : Option Rect
  borders : Borders
  isFocused : Bool
  deriving DecidableEq

namespace Node

/-- `collect_panes` -/
def collectPanes (focus : PaneId) : Node → Rect → List PaneInfo
  | .pane id, area =>
    [{ id, rect := area, innerRect := area, scrollbarRect := none, borders := ⟨0⟩
       isFocused := id = focus }]
  | .split direction ratio first second, area =>
    collectPanes focus first (splitRect area direction ratio).1 ++
      collectPanes focus second (splitRect area direction ratio).2

/-- Every ratio of the tree satisfies the predicate. -/
def AllRatios (P : ℚ → Prop) : Node → Prop
  | .pane _ => True
  | .split _ ratio first second => P ratio ∧ AllRatios P first ∧ AllRatios P second

theorem AllRatios.mono {P Q : ℚ → Prop} (hImp : ∀ ratio, P ratio → Q ratio) {node : Node}
  (h : AllRatios P node) : AllRatios Q node := by
  induction node with
  | pane => trivial
  | split direction ratio first second ihFirst ihSecond =>
    exact ⟨hImp ratio h.1, ihFirst h.2.1, ihSecond h.2.2⟩

end Node

/-- `panes` -/
def TileLayout.panes (l : TileLayout) (area : Rect) : List PaneInfo :=
  l.root.collectPanes l.focus area

namespace Rect

/-- The extent that a split in the direction divides. -/
def length (area : Rect) : Direction → Nat
  | .horizontal => area.width
  | .vertical => area.height

/-- Where that extent begins. -/
def start (area : Rect) : Direction → Nat
  | .horizontal => area.x
  | .vertical => area.y

/-- The first `n` cells of the extent. -/
def before (area : Rect) (n : Nat) : Direction → Rect
  | .horizontal => { area with width := n }
  | .vertical => { area with height := n }

/-- The rest of the extent. -/
def after (area : Rect) (n : Nat) : Direction → Rect
  | .horizontal => { area with x := area.x + n, width := area.width - n }
  | .vertical => { area with y := area.y + n, height := area.height - n }

variable {area : Rect} {n : Nat} {direction : Direction}

theorem Fits.length_le (h : area.Fits) (direction : Direction) :
  area.start direction + area.length direction ≤ maxU16 := by
  cases direction with
  | horizontal => exact h.right
  | vertical => exact h.bottom

theorem before_within (hPart : n ≤ area.length direction) :
  (area.before n direction).Within area := by
  cases direction with
  | horizontal =>
    exact ⟨le_refl _, Nat.add_le_add_left hPart _, le_refl _, le_refl _⟩
  | vertical =>
    exact ⟨le_refl _, le_refl _, le_refl _, Nat.add_le_add_left hPart _⟩

theorem after_within (hPart : n ≤ area.length direction) :
  (area.after n direction).Within area := by
  cases direction with
  | horizontal =>
    simp only [length] at hPart
    constructor <;> simp only [after] <;> omega
  | vertical =>
    simp only [length] at hPart
    constructor <;> simp only [after] <;> omega

/-- A cell of the area is in one of the two parts, and not in both. -/
theorem contains_parts (hPart : n ≤ area.length direction) (x y : Nat) :
  (if area.contains x y then 1 else 0) =
    (if (area.before n direction).contains x y then 1 else 0) +
      if (area.after n direction).contains x y then 1 else 0 := by
  cases direction with
  | horizontal =>
    simp only [length] at hPart
    simp only [contains, before, after, Bool.and_eq_true, decide_eq_true_eq]
    grind
  | vertical =>
    simp only [length] at hPart
    simp only [contains, before, after, Bool.and_eq_true, decide_eq_true_eq]
    grind

end Rect

theorem roundToU16_le {length : Nat} {ratio : ℚ} (hRatio : ratio ≤ 1) :
  roundToU16 (length * ratio) ≤ length := by
  have hPart : (length : ℚ) * ratio ≤ length := by
    calc (length : ℚ) * ratio ≤ length * 1 := by gcongr
      _ = length := mul_one _
  have hFloor : ⌊(length : ℚ) * ratio + 1 / 2⌋ ≤ (length : ℤ) := by
    have hBelow : (length : ℚ) * ratio + 1 / 2 < ((length : ℤ) + 1 : ℤ) := by
      push_cast
      linarith
    have hLess := Int.floor_lt.2 hBelow
    omega
  unfold roundToU16
  omega

/-- A split divides the extent exactly: nothing wraps around, nothing is cut off. -/
theorem splitRect_eq {area : Rect} {ratio : ℚ} (direction : Direction) (hFits : area.Fits)
  (hRatio : ratio ≤ 1) :
  roundToU16 (area.length direction * ratio) ≤ area.length direction ∧
    splitRect area direction ratio =
      (area.before (roundToU16 (area.length direction * ratio)) direction,
        area.after (roundToU16 (area.length direction * ratio)) direction) := by
  have hPart := @roundToU16_le (area.length direction) ratio hRatio
  refine ⟨hPart, ?_⟩
  obtain ⟨hRight, hBottom⟩ := hFits
  cases direction with
  | horizontal =>
    simp only [Rect.length] at hPart
    simp only [splitRect, Rect.length, Rect.before, Rect.after, Rect.new, addU16]
    generalize roundToU16 (area.width * ratio) = first at hPart ⊢
    have hStart : (area.x + first) % 2 ^ 16 = area.x + first :=
      Nat.mod_eq_of_lt (by unfold maxU16 at hRight; omega)
    rw [hStart]
    congr 2 <;> omega
  | vertical =>
    simp only [Rect.length] at hPart
    simp only [splitRect, Rect.length, Rect.before, Rect.after, Rect.new, addU16]
    generalize roundToU16 (area.height * ratio) = first at hPart ⊢
    have hStart : (area.y + first) % 2 ^ 16 = area.y + first :=
      Nat.mod_eq_of_lt (by unfold maxU16 at hBottom; omega)
    rw [hStart]
    congr 2 <;> omega

namespace Node

/-- At every split of the recursion the first part is no longer than the extent and
its end is a coordinate, so that no sum wraps around and no difference is cut off. -/
def Exact : Node → Rect → Prop
  | .pane _, _ => True
  | .split direction ratio first second, area =>
    roundToU16 (area.length direction * ratio) ≤ area.length direction ∧
      area.start direction + roundToU16 (area.length direction * ratio) ≤ maxU16 ∧
      Exact first (splitRect area direction ratio).1 ∧
      Exact second (splitRect area direction ratio).2

variable {focus : PaneId} {node : Node} {area : Rect}

theorem map_id_collectPanes (focus : PaneId) (node : Node) (area : Rect) :
  (node.collectPanes focus area).map PaneInfo.id = node.collectIds := by
  induction node generalizing area with
  | pane id => rfl
  | split direction ratio first second ihFirst ihSecond =>
    rw [collectPanes, List.map_append, ihFirst, ihSecond, collectIds]

theorem exact_of_ratios (hFits : area.Fits) (hRatios : node.AllRatios (· ≤ 1)) :
  node.Exact area := by
  induction node generalizing area with
  | pane id => trivial
  | split direction ratio first second ihFirst ihSecond =>
    obtain ⟨hRatio, hFirst, hSecond⟩ := hRatios
    obtain ⟨hPart, hSplit⟩ := splitRect_eq direction hFits hRatio
    have hLength := hFits.length_le direction
    refine ⟨hPart, by omega, ?_, ?_⟩
    · rw [hSplit]
      exact ihFirst ((Rect.before_within hPart).fits hFits) hFirst
    · rw [hSplit]
      exact ihSecond ((Rect.after_within hPart).fits hFits) hSecond

theorem collectPanes_within (hFits : area.Fits) (hRatios : node.AllRatios (· ≤ 1)) :
  ∀ info ∈ node.collectPanes focus area, info.rect.Within area := by
  induction node generalizing area with
  | pane id =>
    intro info hMem
    obtain rfl := List.mem_singleton.1 hMem
    exact .refl area
  | split direction ratio first second ihFirst ihSecond =>
    obtain ⟨hRatio, hFirst, hSecond⟩ := hRatios
    obtain ⟨hPart, hSplit⟩ := splitRect_eq direction hFits hRatio
    have hBefore := @Rect.before_within area _ direction hPart
    have hAfter := @Rect.after_within area _ direction hPart
    intro info hMem
    rw [collectPanes, hSplit] at hMem
    rcases List.mem_append.1 hMem with hMem | hMem
    · exact (ihFirst (hBefore.fits hFits) hFirst info hMem).trans hBefore
    · exact (ihSecond (hAfter.fits hFits) hSecond info hMem).trans hAfter

/-- The number of panes whose rectangle has a cell. -/
theorem countP_collectPanes (hFits : area.Fits) (hRatios : node.AllRatios (· ≤ 1)) (x y : Nat) :
  (node.collectPanes focus area).countP (fun info => info.rect.contains x y) =
    if area.contains x y then 1 else 0 := by
  induction node generalizing area with
  | pane id =>
    rw [collectPanes, List.countP_singleton]
  | split direction ratio first second ihFirst ihSecond =>
    obtain ⟨hRatio, hFirst, hSecond⟩ := hRatios
    obtain ⟨hPart, hSplit⟩ := splitRect_eq direction hFits hRatio
    have hBefore := @Rect.before_within area _ direction hPart
    have hAfter := @Rect.after_within area _ direction hPart
    rw [collectPanes, hSplit, List.countP_append, ihFirst (hBefore.fits hFits) hFirst,
      ihSecond (hAfter.fits hFits) hSecond, ← Rect.contains_parts hPart]

end Node

/-- The rectangles of the panes partition the area. -/
structure Partitions (l : TileLayout) (area : Rect) : Prop where
  ids : (l.panes area).map PaneInfo.id = l.paneIds
  within : ∀ info ∈ l.panes area, info.rect.Within area
  cells : ∀ x y, (l.panes area).countP (fun info => info.rect.contains x y) =
    if area.contains x y then 1 else 0
  exact : l.root.Exact area

theorem panes_partition {l : TileLayout} {area : Rect}
  (hRatios : l.root.AllRatios fun ratio => 1 / 10 ≤ ratio ∧ ratio ≤ 9 / 10) (hFits : area.Fits) :
  Partitions l area := by
  have hBelow : l.root.AllRatios (· ≤ 1) := hRatios.mono fun ratio h => by linarith [h.2]
  exact
    { ids := Node.map_id_collectPanes _ _ _
      within := Node.collectPanes_within hFits hBelow
      cells := Node.countP_collectPanes hFits hBelow
      exact := Node.exact_of_ratios hFits hBelow }

/-- Three panes in an area of seven cells by one. -/
def threePanes : TileLayout where
  root := .split .horizontal (1 / 2) (.pane ⟨1⟩) (.split .vertical (9 / 10) (.pane ⟨2⟩) (.pane ⟨3⟩))
  focus := ⟨2⟩

theorem threePanes_partition : Partitions threePanes { x := 0, y := 0, width := 7, height := 1 } :=
  panes_partition ⟨by norm_num, trivial, by norm_num, trivial, trivial⟩ ⟨by decide, by decide⟩

end Layout
