import Mathlib.Data.List.MinMax
import VimeflowTerminal.Layout.Geometry

/-! A pane is resized by the split whose border is nearest to an edge of the pane,
compared on the screen. That split is above the pane in the tree. -/

namespace Layout

inductive NavDirection where
  | left
  | right
  | up
  | down
  deriving DecidableEq

/-- The splits that a move in the direction resizes. -/
def NavDirection.axis : NavDirection → Direction
  | .left | .right => .horizontal
  | .up | .down => .vertical

/-- `opposite_direction` -/
def NavDirection.opposite : NavDirection → NavDirection
  | .left => .right
  | .right => .left
  | .up => .down
  | .down => .up

structure SplitBorder where
  pos : Nat
  direction : Direction
  ratio : ℚ
  area : Rect
  /-- The way from the root to the split, `true` for second. -/
  path : List Bool
  deriving DecidableEq

namespace Node

/-- `collect_splits` -/
def collectSplits : Node → Rect → List Bool → List SplitBorder
  | .pane _, _, _ => []
  | .split direction ratio first second, area, path =>
    let (a, b) := splitRect area direction ratio
    let pos :=
      match direction with
      | .horizontal => addU16 a.x a.width
      | .vertical => addU16 a.y a.height
    { pos, direction, ratio, area, path } ::
      (collectSplits first a (path ++ [false]) ++ collectSplits second b (path ++ [true]))

/-- `split_ratios` -/
def splitRatios : Node → List Bool → List (List Bool × ℚ)
  | .pane _, _ => []
  | .split _ ratio first second, path =>
    (path, ratio) :: (splitRatios first (path ++ [false]) ++ splitRatios second (path ++ [true]))

def getRatioAt : Node → List Bool → Option ℚ
  | .pane _, _ => none
  | .split _ ratio _ _, [] => some ratio
  | .split _ _ first second, step :: path => if step then second.getRatioAt path else first.getRatioAt path

/-- The tree with the ratio at the path replaced, and whether there is one. -/
def setRatioAt (ratio : ℚ) : Node → List Bool → Node × Bool
  | .pane id, _ => (.pane id, false)
  | .split direction _ first second, [] => (.split direction ratio first second, true)
  | .split direction old first second, step :: path =>
    if step then
      let (second, changed) := second.setRatioAt ratio path
      (.split direction old first second, changed)
    else
      let (first, changed) := first.setRatioAt ratio path
      (.split direction old first second, changed)

end Node

/-- `ranges_overlap`, with the sums of `u16` -/
def rangesOverlap (aStart aLen bStart bLen : Nat) : Bool :=
  aStart < addU16 bStart bLen && bStart < addU16 aStart aLen

def splitEdgeDistance (border : SplitBorder) (focused : Rect) : NavDirection → Nat
  | .left => ((border.pos : Int) - focused.x).natAbs
  | .right => ((border.pos : Int) - addU16 focused.x focused.width).natAbs
  | .up => ((border.pos : Int) - focused.y).natAbs
  | .down => ((border.pos : Int) - addU16 focused.y focused.height).natAbs

def splitOnRequestedEdge (border : SplitBorder) (focused : Rect) (nav : NavDirection) : Bool :=
  splitEdgeDistance border focused nav ≤ 1

def splitAreaOverlapsFocusedPane (border : SplitBorder) (focused : Rect) : NavDirection → Bool
  | .left | .right => rangesOverlap border.area.y border.area.height focused.y focused.height
  | .up | .down => rangesOverlap border.area.x border.area.width focused.x focused.width

/-- The split with the nearest border, the first of several. -/
def nearestResizeSplit (splits : List SplitBorder) (targetDir : Direction) (focused : Rect)
  (nav : NavDirection) : Option SplitBorder :=
  (((splits.filter fun border => border.direction = targetDir).filter fun border =>
    splitAreaOverlapsFocusedPane border focused nav).filter fun border =>
      splitOnRequestedEdge border focused nav).argmin fun border =>
        splitEdgeDistance border focused nav

namespace TileLayout

def splits (l : TileLayout) (area : Rect) : List SplitBorder := l.root.collectSplits area []

/-- `set_ratio_at` clamps the ratio. -/
def setRatioAt (l : TileLayout) (path : List Bool) (ratio : ℚ) : TileLayout × Bool :=
  let (root, changed) := l.root.setRatioAt (max (1 / 10) (min (9 / 10) ratio)) path
  ({ l with root }, changed)

def resizeFocused (l : TileLayout) (nav : NavDirection) (delta : ℚ) (area : Rect) : TileLayout :=
  match (l.panes area).find? fun info => info.isFocused with
  | none => l
  | some focused =>
    let splits := l.splits area
    let grows := nav = .right ∨ nav = .down
    match (nearestResizeSplit splits nav.axis focused.rect nav).or
        (nearestResizeSplit splits nav.axis focused.rect nav.opposite) with
    | none => l
    | some split =>
      let currentRatio := (l.root.getRatioAt split.path).getD (1 / 2)
      (l.setRatioAt split.path (currentRatio + if grows then delta else -delta)).1

/-- The layout after resizing the pane, and whether a ratio has changed. -/
def resizePane (l : TileLayout) (paneId : PaneId) (nav : NavDirection) (delta : ℚ) (area : Rect) :
  TileLayout × Bool :=
  if paneId ∉ l.paneIds then (l, false)
  else
    let resized := { l with focus := paneId }.resizeFocused nav delta area
    ({ resized with focus := l.focus }, resized.root.splitRatios [] ≠ l.root.splitRatios [])

end TileLayout

/-! ## The first minimum -/

section Argmin

variable {α : Type} {f : α → Nat} {m : α}

/-- The first minimum of two lists is that of the first, or it is that of the second
and below all of the first. -/
theorem argmin_append {first second : List α} (hMin : (first ++ second).argmin f = some m) :
  first.argmin f = some m ∨ second.argmin f = some m ∧ ∀ a ∈ first, f m < f a := by
  induction first with
  | nil => exact Or.inr ⟨hMin, fun _ hMem => nomatch hMem⟩
  | cons a rest ih =>
    rw [List.cons_append, List.argmin_cons] at hMin
    rw [List.argmin_cons]
    cases hRest : (rest ++ second).argmin f with
    | none =>
      obtain ⟨rfl, -⟩ := List.append_eq_nil_iff.1 (List.argmin_eq_none.1 hRest)
      rw [hRest] at hMin
      exact Or.inl hMin
    | some best =>
      rw [hRest] at hMin
      dsimp only at hMin
      split at hMin
      case isTrue hLess =>
        cases hMin
        rcases ih hRest with hFirst | ⟨hSecond, hBelow⟩
        · rw [hFirst]
          exact Or.inl (if_pos hLess)
        refine Or.inr ⟨hSecond, fun b hMem => ?_⟩
        rcases List.mem_cons.1 hMem with rfl | hMem
        · exact hLess
        · exact hBelow b hMem
      case isFalse hNot =>
        cases hMin
        cases hOwn : rest.argmin f with
        | none => exact Or.inl rfl
        | some other =>
          have hMem := List.mem_append_left second (List.argmin_mem hOwn)
          have hBest := List.le_of_mem_argmin hMem hRest
          exact Or.inl (if_neg (by omega))

/-- A head that is as good as every later element of a list leaves nothing to it. -/
theorem argmin_cons_filter {p : α → Bool} {head : α} {first second : List α}
  (hMin : ((head :: (first ++ second)).filter p).argmin f = some m) :
  ((∀ a ∈ second, p a = true → p head = true ∧ f head ≤ f a) →
      m = head ∨ (first.filter p).argmin f = some m) ∧
    ((∀ a ∈ first, p a = true → p head = true ∧ f head ≤ f a) →
      m = head ∨ (second.filter p).argmin f = some m) := by
  by_cases hHead : p head = true
  case pos =>
    rw [List.filter_cons_of_pos hHead, List.filter_append] at hMin
    rcases @argmin_append _ _ _ [head] _ hMin with hOne | ⟨hRest, hLess⟩
    · have hSame : m = head := (Option.some.inj hOne).symm
      exact ⟨fun _ => Or.inl hSame, fun _ => Or.inl hSame⟩
    have hBelow := hLess head (List.mem_singleton_self head)
    have hOut : ∀ {l : List α}, (∀ a ∈ l, p a = true → p head = true ∧ f head ≤ f a) →
        (l.filter p).argmin f ≠ some m := by
      intro l hLater hArg
      obtain ⟨hMem, hPasses⟩ := List.mem_filter.1 (List.argmin_mem hArg)
      have hBest := (hLater m hMem hPasses).2
      omega
    rcases argmin_append hRest with hFirst | ⟨hSecond, -⟩
    · exact ⟨fun _ => Or.inr hFirst, fun hLater => absurd hFirst (hOut hLater)⟩
    · exact ⟨fun hLater => absurd hSecond (hOut hLater), fun _ => Or.inr hSecond⟩
  case neg =>
    rw [List.filter_cons_of_neg hHead, List.filter_append] at hMin
    have hEmpty : ∀ {l : List α}, (∀ a ∈ l, p a = true → p head = true ∧ f head ≤ f a) →
        l.filter p = [] := by
      intro l hLater
      refine List.filter_eq_nil_iff.2 fun a hMem hPasses => ?_
      exact hHead (hLater a hMem hPasses).1
    refine ⟨fun hLater => Or.inr ?_, fun hLater => Or.inr ?_⟩
    · rw [hEmpty hLater, List.append_nil] at hMin
      exact hMin
    · rw [hEmpty hLater, List.nil_append] at hMin
      exact hMin

end Argmin

/-! ## Borders on the screen -/

def Direction.other : Direction → Direction
  | .horizontal => .vertical
  | .vertical => .horizontal

/-- The coordinate of the edge of a pane that lies in the direction. -/
def Rect.edge (rect : Rect) : NavDirection → Nat
  | .left => rect.x
  | .right => rect.x + rect.width
  | .up => rect.y
  | .down => rect.y + rect.height

namespace Rect

variable {area rect : Rect} {n : Nat}

theorem Within.along (h : rect.Within area) (direction : Direction) :
  area.start direction ≤ rect.start direction ∧
    rect.start direction + rect.length direction ≤
      area.start direction + area.length direction := by
  cases direction with
  | horizontal => exact ⟨h.left, h.right⟩
  | vertical => exact ⟨h.top, h.bottom⟩

theorem edge_bounds (rect : Rect) (nav : NavDirection) :
  rect.start nav.axis ≤ rect.edge nav ∧
    rect.edge nav ≤ rect.start nav.axis + rect.length nav.axis := by
  cases nav <;> simp [NavDirection.axis, edge, start, length]

theorem start_before (direction : Direction) :
  (area.before n direction).start direction = area.start direction ∧
    (area.before n direction).length direction = n := by
  cases direction <;> exact ⟨rfl, rfl⟩

theorem start_after (direction : Direction) :
  (area.after n direction).start direction = area.start direction + n ∧
    (area.after n direction).length direction = area.length direction - n := by
  cases direction <;> exact ⟨rfl, rfl⟩

end Rect

theorem addU16_eq {a b : Nat} (h : a + b ≤ maxU16) : addU16 a b = a + b :=
  Nat.mod_eq_of_lt (by unfold maxU16 at h; omega)

theorem splitEdgeDistance_eq {focused : Rect} (hFocused : focused.Fits) (border : SplitBorder)
  (nav : NavDirection) :
  splitEdgeDistance border focused nav = ((border.pos : Int) - focused.edge nav).natAbs := by
  cases nav with
  | left => rfl
  | right => rw [splitEdgeDistance, addU16_eq hFocused.right]; rfl
  | up => rfl
  | down => rw [splitEdgeDistance, addU16_eq hFocused.bottom]; rfl

theorem splitAreaOverlaps_iff {focused : Rect} {border : SplitBorder} (hFocused : focused.Fits)
  (hArea : border.area.Fits) (nav : NavDirection) :
  splitAreaOverlapsFocusedPane border focused nav = true ↔
    border.area.start nav.axis.other <
        focused.start nav.axis.other + focused.length nav.axis.other ∧
      focused.start nav.axis.other <
        border.area.start nav.axis.other + border.area.length nav.axis.other := by
  have hRows : rangesOverlap border.area.y border.area.height focused.y focused.height = true ↔
      border.area.y < focused.y + focused.height ∧
        focused.y < border.area.y + border.area.height := by
    rw [rangesOverlap, addU16_eq hFocused.bottom, addU16_eq hArea.bottom, Bool.and_eq_true,
      decide_eq_true_eq, decide_eq_true_eq]
  have hColumns : rangesOverlap border.area.x border.area.width focused.x focused.width = true ↔
      border.area.x < focused.x + focused.width ∧
        focused.x < border.area.x + border.area.width := by
    rw [rangesOverlap, addU16_eq hFocused.right, addU16_eq hArea.right, Bool.and_eq_true,
      decide_eq_true_eq, decide_eq_true_eq]
  cases nav with
  | left => exact hRows
  | right => exact hRows
  | up => exact hColumns
  | down => exact hColumns

/-- What `nearest_resize_split` asks of a split. -/
def suits (focused : Rect) (nav : NavDirection) (border : SplitBorder) : Bool :=
  border.direction = nav.axis && splitAreaOverlapsFocusedPane border focused nav &&
    splitOnRequestedEdge border focused nav

theorem nearestResizeSplit_eq (splits : List SplitBorder) (focused : Rect) (nav : NavDirection) :
  nearestResizeSplit splits nav.axis focused nav =
    (splits.filter (suits focused nav)).argmin fun border =>
      splitEdgeDistance border focused nav := by
  rw [nearestResizeSplit, List.filter_filter, List.filter_filter]
  congr 2
  funext border
  simp only [suits]
  cases splitAreaOverlapsFocusedPane border focused nav <;>
    cases splitOnRequestedEdge border focused nav <;> simp

/-! ## Splits of the tree -/

namespace Node

/-- The way to the first leaf with the id. -/
def pathTo (id : PaneId) : Node → Option (List Bool)
  | .pane other => if other = id then some [] else none
  | .split _ _ first second =>
    ((first.pathTo id).map (false :: ·)).or ((second.pathTo id).map (true :: ·))

variable {focus : PaneId} {node : Node} {area : Rect} {path : List Bool}

/-- The border of a split that divides its extent exactly. -/
theorem collectSplits_split {direction : Direction} {ratio : ℚ} {first second : Node}
  (hFits : area.Fits) (hRatio : ratio ≤ 1) :
  ∃ n ≤ area.length direction,
    splitRect area direction ratio = (area.before n direction, area.after n direction) ∧
    collectSplits (.split direction ratio first second) area path =
      { pos := area.start direction + n, direction, ratio, area, path } ::
        (collectSplits first (area.before n direction) (path ++ [false]) ++
          collectSplits second (area.after n direction) (path ++ [true])) := by
  obtain ⟨hPart, hSplit⟩ := splitRect_eq direction hFits hRatio
  have hLength := hFits.length_le direction
  generalize roundToU16 (area.length direction * ratio) = n at hPart hSplit
  refine ⟨n, hPart, hSplit, ?_⟩
  rw [collectSplits, hSplit]
  have hPos : addU16 (area.start direction) n = area.start direction + n := addU16_eq (by omega)
  cases direction with
  | horizontal =>
    dsimp only [Rect.before, Rect.start] at hPos ⊢
    rw [hPos]
  | vertical =>
    dsimp only [Rect.before, Rect.start] at hPos ⊢
    rw [hPos]

/-- The borders lie in the area, at the ends of its extent or between them. -/
theorem collectSplits_within (hFits : area.Fits) (hRatios : node.AllRatios (· ≤ 1)) :
  ∀ border ∈ node.collectSplits area path, border.area.Within area ∧
    area.start border.direction ≤ border.pos ∧
    border.pos ≤ area.start border.direction + area.length border.direction := by
  induction node generalizing area path with
  | pane id => exact fun _ hMem => nomatch hMem
  | split direction ratio first second ihFirst ihSecond =>
    obtain ⟨hRatio, hFirst, hSecond⟩ := hRatios
    obtain ⟨n, hPart, -, hSplits⟩ := @collectSplits_split area path direction ratio first second
      hFits hRatio
    have hBefore := @Rect.before_within area n direction hPart
    have hAfter := @Rect.after_within area n direction hPart
    intro border hMem
    rw [hSplits] at hMem
    rcases List.mem_cons.1 hMem with rfl | hMem
    · refine ⟨.refl area, ?_, ?_⟩
      · exact Nat.le_add_right _ _
      · exact Nat.add_le_add_left hPart _
    · rcases List.mem_append.1 hMem with hMem | hMem
      · obtain ⟨hArea, hStart, hEnd⟩ := ihFirst (hBefore.fits hFits) hFirst border hMem
        have hAlong := hBefore.along border.direction
        exact ⟨hArea.trans hBefore, by omega, by omega⟩
      · obtain ⟨hArea, hStart, hEnd⟩ := ihSecond (hAfter.fits hFits) hSecond border hMem
        have hAlong := hAfter.along border.direction
        exact ⟨hArea.trans hAfter, by omega, by omega⟩

end Node

/-- A split between a pane and a border on its other side is as near to the pane as
that border, if the border is one to resize by. -/
theorem split_nearer {area focused : Rect} {n : Nat} {direction : Direction} {ratio : ℚ}
  {path : List Bool} {nav : NavDirection} {border : SplitBorder} (hFits : area.Fits)
  (hPart : n ≤ area.length direction)
  (hSides : focused.Within (area.before n direction) ∧
      border.area.Within (area.after n direction) ∧
      (area.after n direction).start border.direction ≤ border.pos ∨
    focused.Within (area.after n direction) ∧ border.area.Within (area.before n direction) ∧
      border.pos ≤ (area.before n direction).start border.direction +
        (area.before n direction).length border.direction)
  (hSuits : suits focused nav border = true) :
  let split : SplitBorder := { pos := area.start direction + n, direction, ratio, area, path }
  suits focused nav split = true ∧
    splitEdgeDistance split focused nav ≤ splitEdgeDistance border focused nav := by
  have hBefore := @Rect.before_within area n direction hPart
  have hAfter := @Rect.after_within area n direction hPart
  have hFocused : focused.Within area := by
    rcases hSides with ⟨hPane, -, -⟩ | ⟨hPane, -, -⟩
    · exact hPane.trans hBefore
    · exact hPane.trans hAfter
  have hBorder : border.area.Within area := by
    rcases hSides with ⟨-, hArea, -⟩ | ⟨-, hArea, -⟩
    · exact hArea.trans hAfter
    · exact hArea.trans hBefore
  have hFocusedFits := hFocused.fits hFits
  obtain ⟨hDirected, hNear⟩ := Bool.and_eq_true_iff.1 hSuits
  obtain ⟨hAxis, hOverlap⟩ := Bool.and_eq_true_iff.1 hDirected
  replace hAxis := of_decide_eq_true hAxis
  replace hNear := of_decide_eq_true hNear
  rw [splitAreaOverlaps_iff hFocusedFits (hBorder.fits hFits)] at hOverlap
  rw [splitEdgeDistance_eq hFocusedFits] at hNear
  have hStarts := @Rect.start_before area n direction
  have hStartsAfter := @Rect.start_after area n direction
  by_cases hSame : direction = nav.axis
  case neg =>
    -- The split runs the other way, so that the border is not beside the pane.
    have hOther : direction = nav.axis.other := by
      cases direction <;> cases hNav : nav.axis <;> simp_all [Direction.other]
    subst hOther
    exfalso
    rcases hSides with ⟨hPane, hArea, -⟩ | ⟨hPane, hArea, -⟩
    · have hPaneAlong := hPane.along nav.axis.other
      have hAreaAlong := hArea.along nav.axis.other
      omega
    · have hPaneAlong := hPane.along nav.axis.other
      have hAreaAlong := hArea.along nav.axis.other
      omega
  case pos =>
    subst hSame
    dsimp only
    have hEdge := focused.edge_bounds nav
    rw [splitEdgeDistance_eq hFocusedFits, splitEdgeDistance_eq hFocusedFits]
    have hCloser : (((area.start nav.axis + n : Nat) : Int) - focused.edge nav).natAbs ≤
        ((border.pos : Int) - focused.edge nav).natAbs := by
      rw [hAxis] at hSides
      rcases hSides with ⟨hPane, -, hPos⟩ | ⟨hPane, -, hPos⟩
      · have hPaneAlong := hPane.along nav.axis
        omega
      · have hPaneAlong := hPane.along nav.axis
        omega
    refine ⟨?_, hCloser⟩
    have hSplitNear : splitOnRequestedEdge
        { pos := area.start nav.axis + n, direction := nav.axis, ratio, area, path } focused nav =
          true := by
      rw [splitOnRequestedEdge, splitEdgeDistance_eq hFocusedFits]
      exact decide_eq_true (hCloser.trans hNear)
    have hSplitOverlap : splitAreaOverlapsFocusedPane
        { pos := area.start nav.axis + n, direction := nav.axis, ratio, area, path } focused nav =
          true := by
      rw [splitAreaOverlaps_iff hFocusedFits hFits]
      have hAlong := hBorder.along nav.axis.other
      dsimp only
      omega
    simp [suits, hSplitNear, hSplitOverlap]

namespace Node

variable {focus : PaneId} {node : Node} {area : Rect} {path : List Bool}

theorem find_collectPanes_isSome :
  ((node.collectPanes focus area).find? fun info => info.isFocused).isSome =
    (node.pathTo focus).isSome := by
  induction node generalizing area with
  | pane id =>
    rw [collectPanes, pathTo, List.find?_singleton]
    by_cases hId : id = focus <;> simp [hId]
  | split direction ratio first second ihFirst ihSecond =>
    rw [collectPanes, pathTo, List.find?_append, Option.isSome_or, Option.isSome_or, ihFirst,
      ihSecond, Option.isSome_map, Option.isSome_map]

/-- The nearest border is that of a split above the pane. -/
theorem nearest_above {info : PaneInfo} {nav : NavDirection} {border : SplitBorder}
  (hFits : area.Fits) (hRatios : node.AllRatios (· ≤ 1))
  (hFind : (node.collectPanes focus area).find? (fun info => info.isFocused) = some info)
  (hMin : ((node.collectSplits area path).filter (suits info.rect nav)).argmin
    (fun border => splitEdgeDistance border info.rect nav) = some border) :
  ∃ steps leaf, border.path = path ++ steps ∧ node.pathTo focus = some leaf ∧
    steps <+: leaf ∧ steps ≠ leaf := by
  induction node generalizing area path with
  | pane id => cases hMin
  | split direction ratio first second ihFirst ihSecond =>
    obtain ⟨hRatio, hFirst, hSecond⟩ := hRatios
    obtain ⟨n, hPart, hSplit, hSplits⟩ := @collectSplits_split area path direction ratio first
      second hFits hRatio
    have hBefore := @Rect.before_within area n direction hPart
    have hAfter := @Rect.after_within area n direction hPart
    rw [collectPanes, hSplit, List.find?_append] at hFind
    rw [hSplits] at hMin
    obtain ⟨hInFirst, hInSecond⟩ := argmin_cons_filter hMin
    rw [pathTo]
    cases hFound : (first.collectPanes focus (area.before n direction)).find?
        fun info => info.isFocused with
    | some found =>
      rw [hFound, Option.some_or, Option.some.injEq] at hFind
      subst hFind
      have hPane := collectPanes_within (hBefore.fits hFits) hFirst found
        (List.mem_of_find?_eq_some hFound)
      have hLeaf : (first.pathTo focus).isSome := by
        rw [← @find_collectPanes_isSome focus first (area.before n direction), hFound]
        rfl
      obtain ⟨leaf, hLeaf⟩ := Option.isSome_iff_exists.1 hLeaf
      have hLater : ∀ other ∈ second.collectSplits (area.after n direction) (path ++ [true]),
          suits found.rect nav other = true → _ := fun other hMem hSuits =>
        have hOther := collectSplits_within (hAfter.fits hFits) hSecond other hMem
        @split_nearer area found.rect n direction ratio path nav other hFits hPart
          (Or.inl ⟨hPane, hOther.1, hOther.2.1⟩) hSuits
      rw [hLeaf, Option.map_some, Option.some_or]
      rcases hInFirst hLater with rfl | hMin
      · exact ⟨[], false :: leaf, by simp, rfl, List.nil_prefix, by simp⟩
      obtain ⟨steps, leaf', hPath, hLeaf', hPrefix, hStrict⟩ :=
        ihFirst (hBefore.fits hFits) hFirst hFound hMin
      rw [hLeaf, Option.some.injEq] at hLeaf'
      subst hLeaf'
      refine ⟨false :: steps, false :: leaf, ?_, rfl, ?_, ?_⟩
      · rw [hPath, List.append_assoc]
        rfl
      · exact List.cons_prefix_cons.2 ⟨rfl, hPrefix⟩
      · simpa using hStrict
    | none =>
      rw [hFound, Option.none_or] at hFind
      have hPane := collectPanes_within (hAfter.fits hFits) hSecond info
        (List.mem_of_find?_eq_some hFind)
      have hNone : first.pathTo focus = none := by
        have hSome := @find_collectPanes_isSome focus first (area.before n direction)
        rw [hFound] at hSome
        exact Option.isNone_iff_eq_none.1 (by rw [← Option.not_isSome, ← hSome]; rfl)
      have hLater : ∀ other ∈ first.collectSplits (area.before n direction) (path ++ [false]),
          suits info.rect nav other = true → _ := fun other hMem hSuits =>
        have hOther := collectSplits_within (hBefore.fits hFits) hFirst other hMem
        @split_nearer area info.rect n direction ratio path nav other hFits hPart
          (Or.inr ⟨hPane, hOther.1, hOther.2.2⟩) hSuits
      have hLeaf : (second.pathTo focus).isSome := by
        rw [← @find_collectPanes_isSome focus second (area.after n direction), hFind]
        rfl
      obtain ⟨leaf, hLeaf⟩ := Option.isSome_iff_exists.1 hLeaf
      rw [hNone, hLeaf, Option.map_none, Option.none_or, Option.map_some]
      rcases hInSecond hLater with rfl | hMin
      · exact ⟨[], true :: leaf, by simp, rfl, List.nil_prefix, by simp⟩
      obtain ⟨steps, leaf', hPath, hLeaf', hPrefix, hStrict⟩ :=
        ihSecond (hAfter.fits hFits) hSecond hFind hMin
      rw [hLeaf, Option.some.injEq] at hLeaf'
      subst hLeaf'
      refine ⟨true :: steps, true :: leaf, ?_, rfl, ?_, ?_⟩
      · rw [hPath, List.append_assoc]
        rfl
      · exact List.cons_prefix_cons.2 ⟨rfl, hPrefix⟩
      · simpa using hStrict

/-- The direction of the split at the path. -/
def directionAt : Node → List Bool → Option Direction
  | .pane _, _ => none
  | .split direction _ _ _, [] => some direction
  | .split _ _ first second, step :: path =>
    if step then second.directionAt path else first.directionAt path

/-- The tree without its ratios. -/
def shape : Node → Node
  | .pane id => .pane id
  | .split direction _ first second => .split direction 0 first.shape second.shape

/-- A border has the direction of its split. -/
theorem directionAt_border {border : SplitBorder} (hMem : border ∈ node.collectSplits area path) :
  ∃ steps, border.path = path ++ steps ∧ node.directionAt steps = some border.direction := by
  induction node generalizing area path with
  | pane id => cases hMem
  | split direction ratio first second ihFirst ihSecond =>
    rw [collectSplits] at hMem
    rcases List.mem_cons.1 hMem with rfl | hMem
    · exact ⟨[], by simp, rfl⟩
    rcases List.mem_append.1 hMem with hMem | hMem
    · obtain ⟨steps, hPath, hDirection⟩ := ihFirst hMem
      exact ⟨false :: steps, by rw [hPath, List.append_assoc]; rfl, hDirection⟩
    · obtain ⟨steps, hPath, hDirection⟩ := ihSecond hMem
      exact ⟨true :: steps, by rw [hPath, List.append_assoc]; rfl, hDirection⟩

theorem shape_setRatioAt (ratio : ℚ) (node : Node) (path : List Bool) :
  (node.setRatioAt ratio path).1.shape = node.shape := by
  induction node generalizing path with
  | pane id => rfl
  | split direction old first second ihFirst ihSecond =>
    cases path with
    | nil => rfl
    | cons step path =>
      cases step with
      | false =>
        show Node.split direction 0 (first.setRatioAt ratio path).1.shape second.shape = _
        rw [ihFirst]
        rfl
      | true =>
        show Node.split direction 0 first.shape (second.setRatioAt ratio path).1.shape = _
        rw [ihSecond]
        rfl

theorem collectIds_shape (node : Node) : node.shape.collectIds = node.collectIds := by
  induction node with
  | pane id => rfl
  | split direction ratio first second ihFirst ihSecond =>
    rw [shape, collectIds, ihFirst, ihSecond, collectIds]

/-- The other ratios stay as they are. -/
theorem getRatioAt_setRatioAt_ne {ratio : ℚ} {node : Node} {path other : List Bool}
  (hOther : other ≠ path) :
  (node.setRatioAt ratio path).1.getRatioAt other = node.getRatioAt other := by
  induction node generalizing path other with
  | pane id => rfl
  | split direction old first second ihFirst ihSecond =>
    cases path with
    | nil =>
      cases other with
      | nil => exact absurd rfl hOther
      | cons step other => rfl
    | cons step path =>
      cases other with
      | nil => cases step <;> rfl
      | cons otherStep other =>
        cases step with
        | false =>
          cases otherStep with
          | false => exact ihFirst fun h => hOther (by rw [h])
          | true => rfl
        | true =>
          cases otherStep with
          | false => rfl
          | true => exact ihSecond fun h => hOther (by rw [h])

theorem getRatioAt_setRatioAt {ratio : ℚ} {node : Node} {path : List Bool}
  (hSplit : (node.directionAt path).isSome) :
  (node.setRatioAt ratio path).1.getRatioAt path = some ratio := by
  induction node generalizing path with
  | pane id => cases hSplit
  | split direction old first second ihFirst ihSecond =>
    cases path with
    | nil => rfl
    | cons step path =>
      cases step with
      | false => exact ihFirst hSplit
      | true => exact ihSecond hSplit

end Node

/-! ## Resizing -/

/-- The layout after a pane is resized: at most the ratio of one split has changed,
one above the pane that the direction moves, and it is in range. -/
structure Resized (l : TileLayout) (pane : PaneId) (nav : NavDirection) (l' : TileLayout) : Prop where
  focus : l'.focus = l.focus
  shape : l'.root.shape = l.root.shape
  ids : l'.paneIds = l.paneIds
  ratios : l'.root = l.root ∨
    ∃ path leaf ratio, l.root.pathTo pane = some leaf ∧ path <+: leaf ∧ path ≠ leaf ∧
      l.root.directionAt path = some nav.axis ∧ l'.root.getRatioAt path = some ratio ∧
      1 / 10 ≤ ratio ∧ ratio ≤ 9 / 10 ∧
      ∀ other, other ≠ path → l'.root.getRatioAt other = l.root.getRatioAt other

namespace TileLayout

variable {l : TileLayout} {area : Rect}

theorem axis_opposite (nav : NavDirection) : nav.opposite.axis = nav.axis := by
  cases nav <;> rfl

theorem resized_self (l : TileLayout) (pane : PaneId) (nav : NavDirection) : Resized l pane nav l :=
  ⟨rfl, rfl, rfl, Or.inl rfl⟩

theorem resized_setRatioAt {nav : NavDirection} {path leaf : List Bool} (ratio : ℚ)
  (hLeaf : l.root.pathTo l.focus = some leaf) (hPrefix : path <+: leaf) (hStrict : path ≠ leaf)
  (hDirection : l.root.directionAt path = some nav.axis) :
  Resized l l.focus nav (l.setRatioAt path ratio).1 where
  focus := rfl
  shape := Node.shape_setRatioAt _ _ _
  ids := by
    show (l.root.setRatioAt _ path).1.collectIds = l.root.collectIds
    rw [← Node.collectIds_shape, Node.shape_setRatioAt, Node.collectIds_shape]
  ratios := by
    refine Or.inr ⟨path, leaf, _, hLeaf, hPrefix, hStrict, hDirection,
      Node.getRatioAt_setRatioAt (by rw [hDirection]; rfl), le_max_left _ _, ?_,
      fun other hOther => Node.getRatioAt_setRatioAt_ne hOther⟩
    exact max_le (by norm_num) (min_le_left _ _)

theorem resizeFocused_resized (hFits : area.Fits) (hRatios : l.root.AllRatios (· ≤ 1))
  (nav : NavDirection) (delta : ℚ) :
  Resized l l.focus nav (l.resizeFocused nav delta area) := by
  unfold resizeFocused
  split
  case h_1 => exact resized_self l l.focus nav
  case h_2 focused hFind =>
    dsimp only
    split
    case h_1 => exact resized_self l l.focus nav
    case h_2 border hBest =>
      have hNearest : ∃ edge : NavDirection, edge.axis = nav.axis ∧
          ((l.splits area).filter (suits focused.rect edge)).argmin
            (fun border => splitEdgeDistance border focused.rect edge) = some border := by
        rcases Option.or_eq_some_iff.1 hBest with hEdge | ⟨-, hEdge⟩
        · exact ⟨nav, rfl, by rw [← nearestResizeSplit_eq]; exact hEdge⟩
        refine ⟨nav.opposite, axis_opposite nav, ?_⟩
        rw [← nearestResizeSplit_eq, axis_opposite]
        exact hEdge
      obtain ⟨edge, hAxis, hMin⟩ := hNearest
      obtain ⟨steps, leaf, hPath, hLeaf, hPrefix, hStrict⟩ :=
        Node.nearest_above hFits hRatios hFind hMin
      rw [List.nil_append] at hPath
      obtain ⟨hMem, hSuits⟩ := List.mem_filter.1 (List.argmin_mem hMin)
      obtain ⟨ownSteps, hOwn, hDirection⟩ := Node.directionAt_border hMem
      rw [List.nil_append] at hOwn
      have hBorder : border.direction = edge.axis :=
        of_decide_eq_true (Bool.and_eq_true_iff.1 (Bool.and_eq_true_iff.1 hSuits).1).1
      rw [← hOwn, hBorder, hAxis] at hDirection
      rw [← hPath] at hPrefix hStrict
      exact resized_setRatioAt _ hLeaf hPrefix hStrict hDirection

theorem resizePane_resized (hFits : area.Fits) (hRatios : l.root.AllRatios (· ≤ 1))
  (pane : PaneId) (nav : NavDirection) (delta : ℚ) :
  Resized l pane nav (l.resizePane pane nav delta area).1 := by
  unfold resizePane
  split
  case isTrue => exact resized_self l pane nav
  case isFalse =>
    have hResized := @resizeFocused_resized { l with focus := pane } area hFits hRatios nav delta
    exact ⟨rfl, hResized.shape, hResized.ids, hResized.ratios⟩

end TileLayout

/-- Resizing changes one ratio at most, that of a split above the pane. -/
theorem resize_resized {l : TileLayout} {area : Rect} (hRatios : l.root.AllRatios (· ≤ 1))
  (hFits : area.Fits) (nav : NavDirection) (delta : ℚ) :
  Resized l l.focus nav (l.resizeFocused nav delta area) ∧
    ∀ pane, Resized l pane nav (l.resizePane pane nav delta area).1 :=
  ⟨TileLayout.resizeFocused_resized hFits hRatios nav delta,
    fun pane => TileLayout.resizePane_resized hFits hRatios pane nav delta⟩

/-- The second of two panes grows to the left. -/
theorem resize_threePanes :
  Resized threePanes threePanes.focus .left
      (threePanes.resizeFocused .left (1 / 20) { x := 0, y := 0, width := 7, height := 1 }) ∧
    ∀ pane, Resized threePanes pane .left
      (threePanes.resizePane pane .left (1 / 20) { x := 0, y := 0, width := 7, height := 1 }).1 :=
  @resize_resized threePanes _ ⟨by norm_num, trivial, by norm_num, trivial, trivial⟩
    ⟨by decide, by decide⟩ .left (1 / 20)

/-- A restored layout whose second split has a ratio above 1. -/
def overfullLayout : TileLayout :=
  .fromSaved
    (.split .horizontal (1 / 2) (.split .horizontal (7 / 5) (.pane ⟨1⟩) (.pane ⟨2⟩))
      (.split .horizontal (2 / 5) (.pane ⟨3⟩) (.pane ⟨4⟩))) ⟨4⟩

/-- The border of that split is beyond its own area, and the pane there is not below it. -/
theorem not_resized_overfullLayout :
  ¬∀ (l : TileLayout) (area : Rect) (nav : NavDirection) (delta : ℚ), area.Fits →
    Resized l l.focus nav (l.resizeFocused nav delta area) ∧
      ∀ pane, Resized l pane nav (l.resizePane pane nav delta area).1 := by
  intro hResized
  have hOne := (hResized overfullLayout { x := 0, y := 0, width := 100, height := 10 } .left
    (1 / 10) ⟨by decide, by decide⟩).1.ratios
  have hRatio : (overfullLayout.resizeFocused .left (1 / 10)
      { x := 0, y := 0, width := 100, height := 10 }).root.getRatioAt [false] = some (9 / 10) := by
    decide +kernel
  rcases hOne with hSame | ⟨path, leaf, ratio, hLeaf, hPrefix, -, -, -, -, -, hOthers⟩
  · rw [hSame] at hRatio
    revert hRatio
    decide +kernel
  · have hNot : [false] ≠ path := by
      rintro rfl
      have hPath : overfullLayout.root.pathTo overfullLayout.focus = some [true, true] := by decide
      rw [hPath, Option.some.injEq] at hLeaf
      rw [← hLeaf] at hPrefix
      revert hPrefix
      decide
    rw [hOthers _ hNot] at hRatio
    revert hRatio
    decide +kernel

end Layout
