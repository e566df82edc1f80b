import Mathlib.Data.Nat.Log
import VimeflowTerminal.App.State
import VimeflowTerminal.Data.Checked
import VimeflowTerminal.Layout.Geometry

/-! The capsule of the active workspace: its tabs in pages, one marker for each, an indicator of the
page and the bell. Arithmetic that leaves its range has no result. -/

namespace Ui

open App Checked Layout Workspaces

inductive IslandPositionConfig where
  | center
  | left
  deriving DecidableEq

inductive IslandDisplayConfig where
  | dots
  | numbers
  | labels
  deriving DecidableEq

inductive IslandCapsConfig where
  | round
  | square
  deriving DecidableEq

structure IslandConfig where
  position : IslandPositionConfig
  caps : IslandCapsConfig
  bell : String

structure IslandApp extends AppState where
  island : IslandConfig

structure PagePlan where
  start : Nat
  pageSize : Nat
  totalPages : Nat
  indicatorWidth : Nat
  deriving DecidableEq

structure MarkerLayout where
  tabIdx : Nat
  rect : Rect
  text : String
  deriving DecidableEq

structure IslandLayout where
  display : IslandDisplayConfig
  activeTitleBudget : Nat
  capsule : Rect
  indicator : Option (Rect × String)
  markers : List MarkerLayout
  bell : Option (Rect × String)
  deriving DecidableEq

def capsulePaddingBudget : Nat := 1

def markerGap : Nat := 1

def maxPageSize : Nat := 10

def activeTitleMaxWidth : Nat := 10

def labelMaxWidth : Nat := 16

/-- The cast to `u16`. -/
def asU16 (value : Nat) : Nat := value % 2 ^ 16

/-- The cells that texts and single characters take. The width of a text need not be the sum of
those of its characters. -/
structure CellWidths where
  text : String → Nat
  char : Char → Nat

namespace CellWidths

variable (widths : CellWidths)

def displayWidthU16 (text : String) : Nat := min (widths.text text) maxU16

/-- The characters that fit, after some cells are taken. -/
def takeWidth (maxWidth : Nat) : Nat → List Char → List Char
  | _, [] => []
  | width, ch :: rest =>
    if maxWidth < width + widths.char ch then []
    else ch :: takeWidth maxWidth (width + widths.char ch) rest

def takePrefixWidth (text : String) (maxWidth : Nat) : String :=
  String.ofList (widths.takeWidth maxWidth 0 text.toList)

def truncateEnd (text : String) (maxWidth : Nat) : String :=
  if widths.text text ≤ maxWidth then text
  else if maxWidth = 0 then ""
  else if maxWidth = 1 then "…"
  else widths.takePrefixWidth text (maxWidth - 1) ++ "…"

def validateIslandBell (mark : String) : String :=
  match widths.text mark with
  | 1 => mark ++ " "
  | 2 => mark
  | _ => "! "

/-- Texts that nothing would be seen of are rejected. -/
def sanitizedLabel (name : String) : Option String :=
  let cleaned := String.ofList (name.toList.filter fun ch => !Utf8.isControl ch)
  if 0 < widths.text cleaned ∧ !cleaned.toList.all Detect.isWhitespace then some cleaned else none

end CellWidths

def blanks (count : Nat) : String := String.ofList (List.replicate count ' ')

def leftCap : String := "\ue0b6"

def rightCap : String := "\ue0b4"

def roundDot : String := "⬤"

def tabDisplayName (ws : Workspace) (tabIdx : Nat) : Option String :=
  ws.tabs[tabIdx]?.map fun tab => tab.customName.getD (toString (tabIdx + 1))

section Texts

variable (widths : CellWidths) (ws : Workspace) (tabIdx : Nat)

/-- The title of an active tab behind its mark, if it fits the budget. -/
def titled (activeTitleBudget : Nat) (mark : Option String) (untitled : String) : String :=
  if activeTitleBudget = 0 then untitled
  else
    match (ws.tabs[tabIdx]?.bind (·.customName)).bind widths.sanitizedLabel with
    | none => untitled
    | some title =>
      let fixedWidth := (mark.elim 0 fun mark => widths.text mark + 1) + 2
      let untitledWidth := widths.text untitled
      if activeTitleBudget ≤ fixedWidth ∨ activeTitleBudget < untitledWidth then untitled
      else
        let title := widths.truncateEnd title (activeTitleBudget - fixedWidth)
        let padding := untitledWidth - (fixedWidth + widths.text title)
        match mark with
        | some mark => " " ++ mark ++ " " ++ title ++ blanks padding ++ " "
        | none => " " ++ title ++ blanks padding ++ " "

/-- The padding of a label has no result if the label is still too wide when it is truncated. -/
def markerTextForActive (activeTab : Nat) (display : IslandDisplayConfig) (caps : IslandCapsConfig)
  (activeTitleBudget : Nat) : Option String :=
  let active := tabIdx = activeTab
  match display with
  | .dots =>
    if ¬ active ∧ caps = .round then some roundDot
    else if active then some (titled widths ws tabIdx activeTitleBudget (some roundDot) "   ")
    else some "●"
  | .numbers =>
    let number := toString (tabIdx + 1)
    if active then
      some (titled widths ws tabIdx activeTitleBudget none (" " ++ number ++ " "))
    else if caps = .round then some (leftCap ++ number ++ rightCap)
    else some number
  | .labels =>
    let name := ((tabDisplayName ws tabIdx).bind widths.sanitizedLabel).getD
      (toString (tabIdx + 1))
    if ¬ active then
      let label := widths.truncateEnd name (labelMaxWidth - 2)
      if caps = .round then some (leftCap ++ label ++ rightCap) else some label
    else
      let width := max 3 (min (widths.text name + 2) labelMaxWidth)
      let label := widths.truncateEnd name (width - 2)
      (sub (width - 2) (widths.text label)).map fun padding =>
        " " ++ label ++ blanks padding ++ " "

end Texts

def digits (value : Nat) : Nat := Nat.log 10 (max value 1) + 1

def capsWidth : IslandCapsConfig → Nat
  | .round => 2
  | .square => 0

def capsulePadding (caps : IslandCapsConfig) (adjacentMarkerCap : Bool) : Nat :=
  if caps = .round ∧ adjacentMarkerCap then 0 else 1

def markerBudget (display : IslandDisplayConfig) (tabCount : Nat) (caps : IslandCapsConfig)
  (activeTitle : Bool) : Nat :=
  let activeWidth := (match display with
    | .dots => if activeTitle then activeTitleMaxWidth else 3
    | .numbers => if activeTitle then activeTitleMaxWidth else digits tabCount + 2
    | .labels => labelMaxWidth) + capsWidth caps
  let inactiveWidth := match display, caps with
    | .dots, _ => 1
    | .numbers, .round => digits tabCount + 2
    | .numbers, .square => digits tabCount
    | .labels, caps => labelMaxWidth + capsWidth caps
  max activeWidth inactiveWidth

def markersWidth (count markerWidth : Nat) : Nat := count * markerWidth + (count - 1) * markerGap

def pagePlan (tabCount activeTab areaWidth : Nat) (display : IslandDisplayConfig)
  (caps : IslandCapsConfig) (activeTitle : Bool) (bellAddonWidth : Nat) : PagePlan :=
  let markerWidth := markerBudget display tabCount caps activeTitle
  let fixedWidth := 2 * capsulePaddingBudget + capsWidth caps + bellAddonWidth
  if tabCount ≤ maxPageSize ∧ fixedWidth + markersWidth tabCount markerWidth ≤ areaWidth then
    { start := 0, pageSize := max tabCount 1, totalPages := 1, indicatorWidth := 0 }
  else
    let indicatorWidth := 2 * digits tabCount + 3
    let available := areaWidth - (fixedWidth + indicatorWidth)
    let markersThatFit :=
      if available < markerWidth then 0
      else (available + markerGap) / (markerWidth + markerGap)
    let pageSize := min (max 1 (min markersThatFit maxPageSize)) (max tabCount 1)
    let activeTab := min activeTab (tabCount - 1)
    { start := activeTab / pageSize * pageSize
      pageSize
      totalPages := max ((tabCount + pageSize - 1) / pageSize) 1
      indicatorWidth }

namespace IslandApp

variable (widths : CellWidths) (app : IslandApp)

def islandBellText : Option String :=
  if app.islandRecords.isEmpty then none
  else
    let unread := (app.islandRecords.filter fun record => !record.read).length
    let count := if 9 < unread then "9+" else toString unread
    some (widths.validateIslandBell app.island.bell ++ count)

def bellAddonWidth (bellText : Option String) : Nat :=
  bellText.elim 0 fun text => markerGap + widths.text text + capsWidth app.island.caps

/-- The markers of a page with one of its tabs active, and the width they take. -/
structure Candidate where
  markerTexts : List (Nat × String)
  leftPadding : Nat
  capsuleWidth : Nat
  deriving DecidableEq

variable (ws : Workspace) (display : IslandDisplayConfig) (page : PagePlan)

def pageEnd : Nat := min (page.start + page.pageSize) ws.tabs.length

def pageTabs : List Nat := List.range' page.start (pageEnd ws page - page.start)

def hasCap (candidateActive : Nat) (marker : Option (Nat × String)) : Bool :=
  marker.any fun marker => decide (marker.1 = candidateActive) ||
    decide (app.island.caps = .round ∧ (display = .numbers ∨ display = .labels))

def candidateLayout (candidateActive activeTitleBudget : Nat) : Option Candidate := do
  let markerTexts ← (pageTabs ws page).mapM fun tabIdx =>
    (markerTextForActive widths ws tabIdx candidateActive display app.island.caps
      activeTitleBudget).map fun text => (tabIdx, text)
  let markerWidth := (markerTexts.map fun marker => widths.text marker.2).sum +
    (markerTexts.length - 1) * markerGap + capsWidth app.island.caps
  let firstMarkerHasCap := app.hasCap display candidateActive markerTexts.head?
  let lastMarkerHasCap := app.hasCap display candidateActive markerTexts.getLast?
  let leftPadding := capsulePadding app.island.caps
    (decide (page.indicatorWidth = 0) && firstMarkerHasCap)
  let rightPadding := capsulePadding app.island.caps lastMarkerHasCap
  some {
    markerTexts
    leftPadding
    capsuleWidth := capsWidth app.island.caps + leftPadding + rightPadding + page.indicatorWidth +
      markerWidth }

/-- The page as it is, and the width that it has room in whichever of its tabs is active. -/
def measured (activeTab activeTitleBudget : Nat) : Option (Candidate × Nat) := do
  let current ← app.candidateLayout widths ws display page activeTab activeTitleBudget
  let others ← ((pageTabs ws page).filter fun tabIdx => tabIdx ≠ activeTab).mapM
    fun candidateActive =>
      app.candidateLayout widths ws display page candidateActive activeTitleBudget
  some (current, (others.map (·.capsuleWidth)).foldl max current.capsuleWidth)

/-- The first budget with which the page fits. -/
def firstFitting (activeTab available bellAddonWidth : Nat) :
  List Nat → Option (Option (Nat × Candidate × Nat))
  | [] => some none
  | activeTitleBudget :: budgets => do
    let (current, baseCapsuleWidth) ←
      app.measured widths ws display page activeTab activeTitleBudget
    if baseCapsuleWidth + bellAddonWidth ≤ available then
      some (some (activeTitleBudget, current, baseCapsuleWidth))
    else firstFitting activeTab available bellAddonWidth budgets

def titleBudgets (activeTitle : Bool) : List Nat :=
  let maximumTitleBudget :=
    if activeTitle ∧ (display = .dots ∨ display = .numbers) then activeTitleMaxWidth else 0
  let minimumTitleBudget := match display with
    | .dots => 5
    | .numbers => 3
    | .labels => 1
  (List.range' minimumTitleBudget (maximumTitleBudget + 1 - minimumTitleBudget)).reverse ++ [0]

/-- A step to the right that is only made under a condition. -/
def advanceIf (condition : Bool) (x width : Nat) : Option Nat :=
  if condition then add maxU16 x width else some x

/-- The markers from a column on; all but the first are set off. -/
def placeMarkers (y activeTab : Nat) (roundCaps : Bool) (setOff : Bool) (x : Nat) :
  List (Nat × String) → Option (List MarkerLayout)
  | [] => some []
  | (tabIdx, text) :: rest => do
    let x ← advanceIf setOff x markerGap
    let active := decide (tabIdx = activeTab)
    let x ← advanceIf (active && roundCaps) x 1
    let rect := Rect.new x y (widths.displayWidthU16 text) 1
    let x ← add maxU16 x rect.width
    let x ← advanceIf (active && roundCaps) x 1
    let markers ← placeMarkers y activeTab roundCaps true x rest
    some (⟨tabIdx, rect, text⟩ :: markers)

def placeBell (area capsule : Rect) (text : String) : Option (Rect × String) := do
  let roundCaps := decide (app.island.caps = .round)
  let width ← add maxU16 (widths.displayWidthU16 text) (roundCaps.toNat * 2)
  let outerCapWidth := roundCaps.toNat
  let trailingPadding := asU16 (capsulePadding app.island.caps roundCaps)
  let behind ← add maxU16 outerCapWidth trailingPadding
  let extent ← add maxU16 behind width
  let right := min maxU16 (capsule.x + capsule.width)
  some (Rect.new (right - extent) area.y width 1, text)

def placeIndicator (area : Rect) (x : Nat) : Option (Nat × Option (Rect × String)) :=
  if 0 < page.indicatorWidth then do
    let rect := Rect.new x area.y (asU16 page.indicatorWidth) 1
    let currentPage := page.start / page.pageSize + 1
    let x ← add maxU16 x rect.width
    some (x, some (rect, "‹" ++ toString currentPage ++ "/" ++ toString page.totalPages ++ "›"))
  else some (x, none)

def capsuleX (area : Rect) (capsuleWidth : Nat) : Option Nat :=
  match app.island.position with
  | .center => add maxU16 area.x ((area.width - capsuleWidth) / 2)
  | .left => some area.x

/-- The layout once the budget of the title is chosen. -/
def place (area : Rect) (activeTab : Nat) (bellText : Option String) (activeTitleBudget : Nat)
  (current : Candidate) (baseCapsuleWidth : Nat) : Option IslandLayout := do
  let contentOffset := (baseCapsuleWidth - current.capsuleWidth) / 2
  let capsuleWidth := asU16 (baseCapsuleWidth + app.bellAddonWidth widths bellText)
  let capsuleX ← app.capsuleX area capsuleWidth
  let capsule := Rect.new capsuleX area.y capsuleWidth 1
  let roundCaps := decide (app.island.caps = .round)
  let x ← add maxU16 capsule.x (asU16 contentOffset)
  let x ← add maxU16 x (asU16 current.leftPadding)
  let x ← add maxU16 x roundCaps.toNat
  let (x, indicator) ← placeIndicator page area x
  let markers ← placeMarkers widths area.y activeTab roundCaps false x current.markerTexts
  let bell ← bellText.elim (some none) fun text => (app.placeBell widths area capsule text).map some
  some { display, activeTitleBudget, capsule, indicator, markers, bell }

/-- Nothing is drawn without room or tabs. -/
def layoutForDisplayActive (area : Rect) (display : IslandDisplayConfig) (activeTab : Nat)
  (activeTitle : Bool) : Option (Option IslandLayout) :=
  if area.width = 0 ∨ area.height = 0 then some none
  else
    match app.active.bind fun idx => app.workspaces[idx]? with
    | none => some none
    | some ws =>
      if ws.tabs.isEmpty then some none
      else do
        let bellText := app.islandBellText widths
        let bellAddonWidth := app.bellAddonWidth widths bellText
        let page := pagePlan ws.tabs.length activeTab area.width display app.island.caps
          activeTitle bellAddonWidth
        let chosen ← app.firstFitting widths ws display page activeTab area.width bellAddonWidth
          (titleBudgets display activeTitle)
        match chosen with
        | none => some none
        | some (activeTitleBudget, current, baseCapsuleWidth) =>
          (app.place widths display page area activeTab bellText activeTitleBudget current
            baseCapsuleWidth).map some

end IslandApp

end Ui
