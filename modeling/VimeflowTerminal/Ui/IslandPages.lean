import VimeflowTerminal.App.Overlays
import VimeflowTerminal.Ui.IslandLayout

/-! A page is planned with room for any of its tabs as the active one, so that the capsule stays
where it is and what is placed in it neither overlaps nor leaves it. -/

namespace Ui

open App Checked Layout Workspaces

/-! ## Pages -/

section Plan

variable (tabCount areaWidth : Nat) (display : IslandDisplayConfig) (caps : IslandCapsConfig)
  (activeTitle : Bool) (bellAddonWidth : Nat)

/-- All plans cut the tabs into parts of one size, and differ in the part that they start with. -/
theorem pagePlan_uniform : ∃ pageSize totalPages indicatorWidth, 0 < pageSize ∧
  ∀ activeTab < tabCount,
    pagePlan tabCount activeTab areaWidth display caps activeTitle bellAddonWidth =
      ⟨activeTab / pageSize * pageSize, pageSize, totalPages, indicatorWidth⟩ := by
  by_cases hFits : tabCount ≤ maxPageSize ∧
      2 * capsulePaddingBudget + capsWidth caps + bellAddonWidth +
        markersWidth tabCount (markerBudget display tabCount caps activeTitle) ≤ areaWidth
  · refine ⟨max tabCount 1, 1, 0, Nat.lt_of_lt_of_le Nat.one_pos (Nat.le_max_right _ _), ?_⟩
    intro activeTab hActive
    have hFirst : activeTab / max tabCount 1 = 0 :=
      Nat.div_eq_of_lt (Nat.lt_of_lt_of_le hActive (Nat.le_max_left _ _))
    unfold pagePlan
    rw [if_pos hFits, hFirst, Nat.zero_mul]
  · have hPlan : ∀ activeTab < tabCount, _ := fun activeTab (hActive : activeTab < tabCount) => by
      have hMin : min activeTab (tabCount - 1) = activeTab := by omega
      have hUnfold :=
        pagePlan.eq_1 tabCount activeTab areaWidth display caps activeTitle bellAddonWidth
      rw [if_neg hFits, hMin] at hUnfold
      exact hUnfold
    refine ⟨_, _, _, ?_, hPlan⟩
    exact Nat.lt_min.2 ⟨Nat.lt_of_lt_of_le Nat.one_pos (Nat.le_max_left _ _),
      Nat.lt_of_lt_of_le Nat.one_pos (Nat.le_max_right _ _)⟩

end Plan

namespace IslandApp

variable {widths : CellWidths} {app : IslandApp} {ws : Workspace} {display : IslandDisplayConfig}
  {page : PagePlan} {activeTab activeTitleBudget : Nat}

variable {tabIdx x : Nat} {current : Candidate}

theorem mem_pageTabs : tabIdx ∈ pageTabs ws page ↔
  page.start ≤ tabIdx ∧ tabIdx < page.start + page.pageSize ∧ tabIdx < ws.tabs.length := by
  unfold pageTabs pageEnd
  rw [List.mem_range'_1]
  omega

/-- The lists part the tabs into consecutive runs, each of them the list of all its tabs. -/
structure Partitions (tabCount : Nat) (tabsOf : Nat → List Nat) : Prop where
  consecutive : ∀ activeTab < tabCount, ∃ start count, tabsOf activeTab = List.range' start count
  range : ∀ activeTab < tabCount, ∀ tabIdx ∈ tabsOf activeTab, tabIdx < tabCount
  own : ∀ activeTab < tabCount, activeTab ∈ tabsOf activeTab
  same : ∀ activeTab < tabCount, ∀ tabIdx ∈ tabsOf activeTab, tabsOf tabIdx = tabsOf activeTab

variable (widths app ws display) in
def planFor (area : Rect) (activeTitle : Bool) (activeTab : Nat) : PagePlan :=
  pagePlan ws.tabs.length activeTab area.width display app.island.caps activeTitle
    (app.bellAddonWidth widths (app.islandBellText widths))

variable {area : Rect} {activeTitle : Bool}

theorem planFor_eq (hActive : activeTab < ws.tabs.length)
  (hMem : tabIdx ∈ pageTabs ws (app.planFor widths ws display area activeTitle activeTab)) :
  app.planFor widths ws display area activeTitle tabIdx =
    app.planFor widths ws display area activeTitle activeTab := by
  obtain ⟨pageSize, totalPages, indicatorWidth, hSize, hPlan⟩ :=
    pagePlan_uniform ws.tabs.length area.width display app.island.caps activeTitle
      (app.bellAddonWidth widths (app.islandBellText widths))
  obtain ⟨hStart, hEnd, hTab⟩ := mem_pageTabs.1 hMem
  unfold planFor at hStart hEnd ⊢
  rw [hPlan activeTab hActive] at hStart hEnd
  have hSame : tabIdx / pageSize = activeTab / pageSize :=
    Nat.div_eq_of_lt_le hStart (by rwa [Nat.succ_mul])
  rw [hPlan tabIdx hTab, hPlan activeTab hActive, hSame]

theorem mem_own_page (hActive : activeTab < ws.tabs.length) :
  activeTab ∈ pageTabs ws (app.planFor widths ws display area activeTitle activeTab) := by
  obtain ⟨pageSize, totalPages, indicatorWidth, hSize, hPlan⟩ :=
    pagePlan_uniform ws.tabs.length area.width display app.island.caps activeTitle
      (app.bellAddonWidth widths (app.islandBellText widths))
  unfold planFor
  rw [mem_pageTabs, hPlan activeTab hActive]
  exact ⟨Nat.div_mul_le_self _ _, Nat.lt_div_mul_add hSize, hActive⟩

variable (widths app ws display area activeTitle) in
/-- The tabs on the page of the active one. -/
def pageFor (activeTab : Nat) : List Nat :=
  pageTabs ws (app.planFor widths ws display area activeTitle activeTab)

variable (widths app ws display area activeTitle) in
theorem partitions_pageFor :
  Partitions ws.tabs.length (app.pageFor widths ws display area activeTitle) where
  consecutive _ _ := ⟨_, _, rfl⟩
  range _ _ _ hMem := (mem_pageTabs.1 hMem).2.2
  own _ hActive := mem_own_page hActive
  same _ hActive _ hMem := congrArg (pageTabs ws) (planFor_eq hActive hMem)

/-! ## Candidates -/

theorem map_fst_of_mapM {α β : Type} {f : α → Option β} {items : List α} {results : List (α × β)}
  (hMap : (items.mapM fun item => (f item).map fun result => (item, result)) = some results) :
  results.map Prod.fst = items := by
  induction items generalizing results with
  | nil =>
    cases hMap
    rfl
  | cons item items ih =>
    rw [List.mapM_cons] at hMap
    obtain ⟨first, hFirst, hRest⟩ := Option.bind_eq_some_iff.1 hMap
    obtain ⟨rest, hItems, hSame⟩ := Option.bind_eq_some_iff.1 hRest
    obtain ⟨result, -, rfl⟩ := Option.map_eq_some_iff.1 hFirst
    cases hSame
    rw [List.map_cons, ih hItems]

theorem candidateLayout_spec {candidate : Candidate}
  (hCandidate : app.candidateLayout widths ws display page activeTab activeTitleBudget =
    some candidate) :
  candidate.markerTexts.map Prod.fst = pageTabs ws page ∧ candidate.leftPadding ≤ 1 ∧
    2 * (decide (app.island.caps = .round)).toNat + candidate.leftPadding + page.indicatorWidth +
      (candidate.markerTexts.map fun marker => widths.text marker.2).sum +
      (candidate.markerTexts.length - 1) + capsWidth app.island.caps ≤
        candidate.capsuleWidth := by
  obtain ⟨markerTexts, hTexts, hRest⟩ := Option.bind_eq_some_iff.1 hCandidate
  cases hRest
  have hPadding : ∀ cap, capsulePadding app.island.caps cap ≤ 1 := by
    intro cap
    unfold capsulePadding
    split
    · exact Nat.zero_le _
    · exact Nat.le_refl _
  have hCaps : capsWidth app.island.caps = 2 * (decide (app.island.caps = .round)).toNat := by
    cases app.island.caps <;> rfl
  refine ⟨?_, hPadding _, ?_⟩
  · exact map_fst_of_mapM hTexts
  dsimp only
  unfold markerGap
  omega

/-! ## The chosen budget -/

theorem foldl_max_le_iff {values : List Nat} {first bound : Nat} :
  values.foldl max first ≤ bound ↔ first ≤ bound ∧ ∀ value ∈ values, value ≤ bound := by
  induction values generalizing first with
  | nil => simp
  | cons value values ih =>
    rw [List.foldl_cons, ih, Nat.max_le, List.forall_mem_cons, and_assoc]

theorem map_of_mapM {α β : Type} {f : α → Option β} (g : β → Nat) {items : List α}
  {results : List β} (hMap : items.mapM f = some results) :
  (∀ item ∈ items, (f item).isSome) ∧
    results.map g = items.map fun item => (f item).elim 0 g := by
  induction items generalizing results with
  | nil =>
    cases hMap
    exact ⟨fun _ hMem => absurd hMem List.not_mem_nil, rfl⟩
  | cons item items ih =>
    rw [List.mapM_cons] at hMap
    obtain ⟨first, hFirst, hRest⟩ := Option.bind_eq_some_iff.1 hMap
    obtain ⟨rest, hItems, hSame⟩ := Option.bind_eq_some_iff.1 hRest
    cases hSame
    obtain ⟨hEach, hResults⟩ := ih hItems
    refine ⟨List.forall_mem_cons.2 ⟨Option.isSome_of_eq_some hFirst, hEach⟩, ?_⟩
    rw [List.map_cons, List.map_cons, hResults, hFirst]
    rfl

variable (widths app ws display page activeTitleBudget) in
/-- The width that is taken with a tab active. -/
def widthOf (tabIdx : Nat) : Nat :=
  (app.candidateLayout widths ws display page tabIdx activeTitleBudget).elim 0 (·.capsuleWidth)

/-- The width has room for each candidate of the page, and no more. -/
theorem measured_spec {baseCapsuleWidth : Nat} (hMem : activeTab ∈ pageTabs ws page)
  (hMeasured : app.measured widths ws display page activeTab activeTitleBudget =
    some (current, baseCapsuleWidth)) :
  app.candidateLayout widths ws display page activeTab activeTitleBudget = some current ∧
    (∀ tabIdx ∈ pageTabs ws page,
      (app.candidateLayout widths ws display page tabIdx activeTitleBudget).isSome) ∧
    ∀ bound, baseCapsuleWidth ≤ bound ↔ ∀ tabIdx ∈ pageTabs ws page,
      app.widthOf widths ws display page activeTitleBudget tabIdx ≤ bound := by
  obtain ⟨candidate, hCurrent, hRest⟩ := Option.bind_eq_some_iff.1 hMeasured
  obtain ⟨others, hOthers, hSame⟩ := Option.bind_eq_some_iff.1 hRest
  cases hSame
  obtain ⟨hEach, hWidths⟩ := map_of_mapM (·.capsuleWidth) hOthers
  have hOwn : app.widthOf widths ws display page activeTitleBudget activeTab =
      current.capsuleWidth := by
    rw [widthOf, hCurrent]
    rfl
  refine ⟨hCurrent, fun tabIdx hTab => ?_, fun bound => ?_⟩
  · by_cases hActive : tabIdx = activeTab
    · rw [hActive, hCurrent]
      rfl
    · exact hEach tabIdx (List.mem_filter.2 ⟨hTab, decide_eq_true hActive⟩)
  · rw [foldl_max_le_iff, hWidths, List.forall_mem_map]
    constructor
    · rintro ⟨hCandidate, hOther⟩ tabIdx hTab
      by_cases hActive : tabIdx = activeTab
      · rw [hActive, hOwn]
        exact hCandidate
      · exact hOther tabIdx (List.mem_filter.2 ⟨hTab, decide_eq_true hActive⟩)
    · intro hAll
      exact ⟨hOwn ▸ hAll activeTab hMem,
        fun tabIdx hTab => hAll tabIdx (List.mem_of_mem_filter hTab)⟩

theorem measured_isSome (hEach : ∀ tabIdx ∈ pageTabs ws page,
    (app.candidateLayout widths ws display page tabIdx activeTitleBudget).isSome)
  (hMem : activeTab ∈ pageTabs ws page) :
  ∃ current baseCapsuleWidth, app.measured widths ws display page activeTab activeTitleBudget =
    some (current, baseCapsuleWidth) := by
  obtain ⟨current, hCurrent⟩ := Option.isSome_iff_exists.1 (hEach activeTab hMem)
  have hOther : ∀ tabIdx ∈ (pageTabs ws page).filter (· ≠ activeTab), _ := fun tabIdx hTab =>
    hEach tabIdx (List.mem_of_mem_filter hTab)
  obtain ⟨others, hOthers⟩ := mapM_isSome hOther
  refine ⟨current, (others.map (·.capsuleWidth)).foldl max current.capsuleWidth, ?_⟩
  unfold measured
  rw [hCurrent, Option.bind_eq_bind, Option.bind_some, hOthers]
  rfl

/-- The same budget is chosen for all tabs of the page, with room for each of them. -/
theorem firstFitting_page {available bellAddonWidth : Nat} {budgets : List Nat} {budget : Nat}
  {baseCapsuleWidth : Nat} (hMem : activeTab ∈ pageTabs ws page)
  (hChosen : app.firstFitting widths ws display page activeTab available bellAddonWidth budgets =
    some (some (budget, current, baseCapsuleWidth))) (hTab : tabIdx ∈ pageTabs ws page) :
  baseCapsuleWidth + bellAddonWidth ≤ available ∧ ∃ candidate,
    app.candidateLayout widths ws display page tabIdx budget = some candidate ∧
      candidate.capsuleWidth ≤ baseCapsuleWidth ∧
      app.firstFitting widths ws display page tabIdx available bellAddonWidth budgets =
        some (some (budget, candidate, baseCapsuleWidth)) := by
  induction budgets with
  | nil => cases hChosen
  | cons first budgets ih =>
    obtain ⟨⟨mine, base⟩, hMeasured, hRest⟩ := Option.bind_eq_some_iff.1 hChosen
    obtain ⟨hCurrent, hEach, hBase⟩ := measured_spec hMem hMeasured
    obtain ⟨candidate, base', hOther⟩ := measured_isSome hEach hTab
    obtain ⟨hCandidate, -, hBase'⟩ := measured_spec hTab hOther
    have hSame : base' = base :=
      eq_of_forall_ge_iff fun bound => (hBase' bound).trans (hBase bound).symm
    subst hSame
    dsimp only at hRest
    split at hRest
    next hFits =>
      cases hRest
      have hWidth := (hBase _).1 (Nat.le_refl _) tabIdx hTab
      rw [widthOf, hCandidate] at hWidth
      refine ⟨hFits, candidate, hCandidate, hWidth, ?_⟩
      rw [firstFitting, hOther, Option.bind_eq_bind, Option.bind_some]
      exact if_pos hFits
    next hFits =>
      obtain ⟨hRoom, candidate, hCandidate, hWidth, hSame⟩ := ih hRest
      refine ⟨hRoom, candidate, hCandidate, hWidth, ?_⟩
      rw [firstFitting, hOther, Option.bind_eq_bind, Option.bind_some]
      exact (if_neg hFits).trans hSame

/-! ## Placing -/

section Row

variable (widths) (y activeTab : Nat) (roundCaps : Bool)

/-- The cells of the cap at one side of a marker. -/
def capOf (tabIdx : Nat) : Nat := (decide (tabIdx = activeTab) && roundCaps).toNat

/-- The cells that markers take, with what sets them off. -/
def extent (setOff : Bool) : List (Nat × String) → Nat
  | [] => 0
  | (tabIdx, text) :: rest =>
    setOff.toNat + 2 * capOf activeTab roundCaps tabIdx + widths.text text + extent true rest

/-- The markers from a column on, with each in its full width. -/
def markersFrom (setOff : Bool) (x : Nat) : List (Nat × String) → List MarkerLayout
  | [] => []
  | (tabIdx, text) :: rest =>
    let left := x + setOff.toNat + capOf activeTab roundCaps tabIdx
    ⟨tabIdx, ⟨left, y, widths.text text, 1⟩, text⟩ ::
      markersFrom true (left + widths.text text + capOf activeTab roundCaps tabIdx) rest

variable {widths y activeTab roundCaps}

variable {x : Nat} {markerTexts : List (Nat × String)}

theorem advanceIf_eq {condition : Bool} (hFits : x + condition.toNat ≤ maxU16) :
  advanceIf condition x 1 = some (x + condition.toNat) := by
  cases condition with
  | false => rfl
  | true => exact add_eq hFits

theorem placeMarkers_eq (hRow : y + 1 ≤ maxU16) {setOff : Bool}
  (hFits : x + extent widths activeTab roundCaps setOff markerTexts ≤ maxU16) :
  placeMarkers widths y activeTab roundCaps setOff x markerTexts =
    some (markersFrom widths y activeTab roundCaps setOff x markerTexts) := by
  induction markerTexts generalizing setOff x with
  | nil => rfl
  | cons marker rest ih =>
    obtain ⟨tabIdx, text⟩ := marker
    unfold extent at hFits
    have hWidth : widths.displayWidthU16 text = widths.text text :=
      Nat.min_eq_left (by omega)
    have hCap : (decide (tabIdx = activeTab) && roundCaps).toNat =
      capOf activeTab roundCaps tabIdx := rfl
    have hRect : Rect.new (x + setOff.toNat + capOf activeTab roundCaps tabIdx) y
        (widths.text text) 1 =
        ⟨x + setOff.toNat + capOf activeTab roundCaps tabIdx, y, widths.text text, 1⟩ := by
      unfold Rect.new
      rw [Nat.min_eq_left (by omega), Nat.min_eq_left (by omega)]
    unfold placeMarkers markersFrom
    dsimp only
    rw [markerGap, advanceIf_eq (by omega), Option.bind_eq_bind, Option.bind_some,
      advanceIf_eq (by omega), hWidth, hCap, Option.bind_some, hRect,
      add_eq (by dsimp only; omega), Option.bind_some, advanceIf_eq (by dsimp only; omega), hCap,
      Option.bind_some,
      ih (by dsimp only; omega)]
    rfl

variable (widths y activeTab roundCaps) in
theorem map_markersFrom (setOff : Bool) (x : Nat) (markerTexts : List (Nat × String)) :
  (markersFrom widths y activeTab roundCaps setOff x markerTexts).map (·.tabIdx) =
    markerTexts.map Prod.fst := by
  induction markerTexts generalizing setOff x with
  | nil => rfl
  | cons marker rest ih => exact congrArg (marker.1 :: ·) (ih true _)

theorem mem_markersFrom {setOff : Bool} {marker : MarkerLayout}
  (hMem : marker ∈ markersFrom widths y activeTab roundCaps setOff x markerTexts) :
  x ≤ marker.rect.x ∧ marker.rect.x + marker.rect.width ≤
      x + extent widths activeTab roundCaps setOff markerTexts ∧
    marker.rect.y = y ∧ marker.rect.height = 1 := by
  induction markerTexts generalizing setOff x with
  | nil => exact absurd hMem List.not_mem_nil
  | cons first rest ih =>
    unfold extent
    rcases List.mem_cons.1 hMem with rfl | hRest
    · dsimp only
      omega
    · obtain ⟨hLeft, hRight, hRow⟩ := ih hRest
      exact ⟨by omega, by omega, hRow⟩

variable (widths y activeTab roundCaps) in
theorem pairwise_markersFrom (setOff : Bool) (x : Nat) (markerTexts : List (Nat × String)) :
  (markersFrom widths y activeTab roundCaps setOff x markerTexts).Pairwise fun left right =>
    left.rect.x + left.rect.width ≤ right.rect.x := by
  induction markerTexts generalizing setOff x with
  | nil => exact List.Pairwise.nil
  | cons first rest ih =>
    refine List.Pairwise.cons (fun right hMem => ?_) (ih true _)
    have hLeft := (mem_markersFrom hMem).1
    dsimp only at hLeft ⊢
    omega

variable (widths activeTab roundCaps) in
theorem extent_true_le (hNodup : (markerTexts.map Prod.fst).Nodup) :
  extent widths activeTab roundCaps true markerTexts ≤
    (markerTexts.map fun marker => widths.text marker.2).sum + markerTexts.length +
      if activeTab ∈ markerTexts.map Prod.fst then 2 * roundCaps.toNat else 0 := by
  induction markerTexts with
  | nil => exact Nat.zero_le _
  | cons marker rest ih =>
    obtain ⟨tabIdx, text⟩ := marker
    rw [List.map_cons, List.nodup_cons] at hNodup
    have hRest := ih hNodup.2
    simp only [extent, capOf, List.map_cons, List.sum_cons, List.length_cons, List.mem_cons,
      Bool.toNat_true]
    by_cases hActive : tabIdx = activeTab
    · -- The only marker with caps of its own.
      subst hActive
      rw [if_neg hNodup.1] at hRest
      simp only [decide_true, Bool.true_and, true_or, if_true]
      omega
    · simp only [hActive, Ne.symm hActive, decide_false, Bool.false_and, Bool.toNat_false,
        false_or]
      omega

variable (widths activeTab roundCaps) in
theorem extent_le (hNodup : (markerTexts.map Prod.fst).Nodup) :
  extent widths activeTab roundCaps false markerTexts ≤
    (markerTexts.map fun marker => widths.text marker.2).sum + (markerTexts.length - 1) +
      2 * roundCaps.toNat := by
  have hTrue := extent_true_le widths activeTab roundCaps hNodup
  cases markerTexts with
  | nil => exact Nat.zero_le _
  | cons marker rest =>
    have hCaps : (if activeTab ∈ (marker :: rest).map Prod.fst then 2 * roundCaps.toNat else 0) ≤
        2 * roundCaps.toNat := by
      split
      · exact Nat.le_refl _
      · exact Nat.zero_le _
    unfold extent at hTrue ⊢
    rw [Bool.toNat_true] at hTrue
    rw [Bool.toNat_false, List.length_cons] at *
    omega

end Row

/-! ## What is placed -/

/-- The markers of the page, in order and apart from each other, from the indicator and from the
bell, all in the capsule, which is in the area. -/
structure Placed (area : Rect) (tabs : List Nat) (layout : IslandLayout) : Prop where
  tabs : layout.markers.map (·.tabIdx) = tabs
  ordered : layout.markers.Pairwise fun left right =>
    left.tabIdx < right.tabIdx ∧ left.rect.x + left.rect.width ≤ right.rect.x
  markers : ∀ marker ∈ layout.markers, marker.rect.Within layout.capsule
  indicator : ∀ indicator ∈ layout.indicator, indicator.1.Within layout.capsule ∧
    ∀ marker ∈ layout.markers, indicator.1.x + indicator.1.width ≤ marker.rect.x
  bell : ∀ bell ∈ layout.bell, bell.1.Within layout.capsule ∧
    (∀ marker ∈ layout.markers, marker.rect.x + marker.rect.width ≤ bell.1.x) ∧
    ∀ indicator ∈ layout.indicator, indicator.1.x + indicator.1.width ≤ bell.1.x
  capsule : layout.capsule.Within area

variable {bellText : Option String} {current : Candidate} {baseCapsuleWidth : Nat}

variable (widths app area) in
/-- The capsule around a page. -/
def capsuleOf (bellText : Option String) (baseCapsuleWidth : Nat) : Rect :=
  let width := baseCapsuleWidth + app.bellAddonWidth widths bellText
  let x := match app.island.position with
    | .center => area.x + (area.width - width) / 2
    | .left => area.x
  ⟨x, area.y, width, 1⟩

variable (widths app) in
/-- The bell at the end of the capsule. -/
def bellOf (area : Rect) (text : String) (baseCapsuleWidth : Nat) : Rect × String :=
  (⟨(app.capsuleOf widths area (some text) baseCapsuleWidth).x + baseCapsuleWidth, area.y,
    widths.text text + 2 * (decide (app.island.caps = .round)).toNat, 1⟩, text)

theorem capsuleOf_within (hArea : 0 < area.height)
  (hRoom : baseCapsuleWidth + app.bellAddonWidth widths bellText ≤ area.width) :
  (app.capsuleOf widths area bellText baseCapsuleWidth).Within area := by
  unfold capsuleOf
  cases app.island.position <;>
    exact ⟨by dsimp only; omega, by dsimp only; omega, Nat.le_refl _, by dsimp only; omega⟩

theorem asU16_eq {value : Nat} (hFits : value ≤ maxU16) : asU16 value = value :=
  Nat.mod_eq_of_lt (Nat.lt_of_le_of_lt hFits (by decide))

theorem new_eq {y width : Nat} (hRight : x + width ≤ maxU16) (hRow : y + 1 ≤ maxU16) :
  Rect.new x y width 1 = ⟨x, y, width, 1⟩ := by
  unfold Rect.new
  rw [Nat.min_eq_left (by omega), Nat.min_eq_left (by omega)]

theorem capsuleX_eq (hFits : area.Fits)
  (hRoom : baseCapsuleWidth + app.bellAddonWidth widths bellText ≤ area.width) :
  app.capsuleX area (baseCapsuleWidth + app.bellAddonWidth widths bellText) =
    some (app.capsuleOf widths area bellText baseCapsuleWidth).x := by
  have hRight := hFits.right
  unfold capsuleX capsuleOf
  cases app.island.position with
  | center => exact add_eq (by omega)
  | left => rfl

theorem placeIndicator_eq (hRow : area.y + 1 ≤ maxU16) (hFits : x + page.indicatorWidth ≤ maxU16) :
  ∃ indicator, placeIndicator page area x = some (x + page.indicatorWidth, indicator) ∧
    ∀ shown ∈ indicator, shown.1 = ⟨x, area.y, page.indicatorWidth, 1⟩ := by
  unfold placeIndicator
  split
  next hSome =>
    dsimp only
    rw [asU16_eq (Nat.le_trans (Nat.le_add_left _ _) hFits), new_eq hFits hRow, add_eq hFits]
    refine ⟨_, rfl, fun shown hMem => ?_⟩
    cases hMem
    rfl
  next hNone =>
    have hZero : page.indicatorWidth = 0 := Nat.eq_zero_of_not_pos hNone
    exact ⟨none, by rw [hZero, Nat.add_zero], fun _ hMem => absurd hMem (Option.not_mem_none _)⟩

theorem placeBell_eq (hFits : area.Fits) (hArea : 0 < area.height) {text : String}
  (hRoom : baseCapsuleWidth + app.bellAddonWidth widths (some text) ≤ area.width) :
  app.placeBell widths area (app.capsuleOf widths area (some text) baseCapsuleWidth) text =
    some (app.bellOf widths area text baseCapsuleWidth) := by
  have hWithin := (capsuleOf_within hArea hRoom).fits hFits
  have hWidth : (app.capsuleOf widths area (some text) baseCapsuleWidth).width =
    baseCapsuleWidth + app.bellAddonWidth widths (some text) := rfl
  have hBottom := hFits.bottom
  have hRight := hWithin.right
  unfold bellOf placeBell
  generalize app.capsuleOf widths area (some text) baseCapsuleWidth = capsule at hWidth hRight ⊢
  have hSmall : capsule.x + baseCapsuleWidth + (markerGap + widths.text text +
      capsWidth app.island.caps) ≤ maxU16 := by
    rw [hWidth] at hRight
    rw [Nat.add_assoc]
    exact hRight
  have hText : widths.displayWidthU16 text = widths.text text := Nat.min_eq_left (by omega)
  have hEnd : min maxU16 (capsule.x + capsule.width) = capsule.x + baseCapsuleWidth +
      (markerGap + widths.text text + capsWidth app.island.caps) := by
    rw [hWidth, Nat.min_eq_right (by rw [← hWidth]; exact hRight), Nat.add_assoc]
    rfl
  rw [hText, hEnd]
  generalize app.island.caps = caps at hSmall ⊢
  cases caps with
  | round =>
    simp only [capsWidth, markerGap] at hSmall
    simp only [capsWidth, markerGap, decide_true, Bool.toNat_true, capsulePadding, and_self,
      if_true]
    rw [add_eq (by omega), Option.bind_eq_bind, Option.bind_some, asU16_eq (Nat.zero_le _),
      add_eq (by omega), Option.bind_some, add_eq (by omega), Option.bind_some,
      show capsule.x + baseCapsuleWidth + (1 + widths.text text + 2) -
        (1 + 0 + (widths.text text + 1 * 2)) = capsule.x + baseCapsuleWidth by omega,
      new_eq (by omega) (by omega)]
  | square =>
    simp only [capsWidth, markerGap] at hSmall
    have hNot : decide (IslandCapsConfig.square = IslandCapsConfig.round) = false := rfl
    simp only [capsWidth, markerGap, hNot, Bool.toNat_false, capsulePadding, Bool.false_eq_true,
      and_false, if_false]
    rw [add_eq (by omega), Option.bind_eq_bind, Option.bind_some, asU16_eq (by decide),
      add_eq (by omega), Option.bind_some, add_eq (by omega), Option.bind_some,
      show capsule.x + baseCapsuleWidth + (1 + widths.text text + 0) -
        (0 + 1 + (widths.text text + 0 * 2)) = capsule.x + baseCapsuleWidth by omega,
      new_eq (by omega) (by omega)]

theorem capsWidth_eq (caps : IslandCapsConfig) :
  capsWidth caps = 2 * (decide (caps = .round)).toNat := by
  cases caps <;> rfl

theorem bell_placed (hFits : area.Fits) (hArea : 0 < area.height)
  (hRoom : baseCapsuleWidth + app.bellAddonWidth widths bellText ≤ area.width) :
  ∃ bell, bellText.elim (some none) (fun text => (app.placeBell widths area
      (app.capsuleOf widths area bellText baseCapsuleWidth) text).map some) = some bell ∧
    ∀ shown ∈ bell, shown.1.Within (app.capsuleOf widths area bellText baseCapsuleWidth) ∧
      shown.1.x = (app.capsuleOf widths area bellText baseCapsuleWidth).x + baseCapsuleWidth := by
  cases bellText with
  | none => exact ⟨none, rfl, fun _ hMem => absurd hMem (Option.not_mem_none _)⟩
  | some text =>
    refine ⟨some (app.bellOf widths area text baseCapsuleWidth), ?_, fun shown hMem => ?_⟩
    · rw [Option.elim_some, placeBell_eq hFits hArea hRoom]
      rfl
    cases hMem
    have hWidth : (app.capsuleOf widths area (some text) baseCapsuleWidth).width =
      baseCapsuleWidth + (markerGap + widths.text text + capsWidth app.island.caps) := rfl
    refine ⟨⟨Nat.le_add_right _ _, ?_, Nat.le_refl _, Nat.le_refl _⟩, rfl⟩
    rw [hWidth, capsWidth_eq]
    dsimp only [bellOf]
    omega

/-- A row of an indicator, markers and the bell in a capsule. -/
theorem placed_row {capsule : Rect} {activeTitleBudget : Nat}
  {indicator bell : Option (Rect × String)} {markerTexts : List (Nat × String)}
  {roundCaps : Bool} (hCapsule : capsule.Within area) (hRow : capsule.y = area.y)
  (hHeight : capsule.height = 1) (hLeft : capsule.x ≤ x)
  (hBase : baseCapsuleWidth ≤ capsule.width)
  (hEnd : x + page.indicatorWidth + extent widths activeTab roundCaps false markerTexts ≤
    capsule.x + baseCapsuleWidth) (hTabs : markerTexts.map Prod.fst = pageTabs ws page)
  (hIndicator : ∀ shown ∈ indicator, shown.1 = ⟨x, area.y, page.indicatorWidth, 1⟩)
  (hBell : ∀ shown ∈ bell, shown.1.Within capsule ∧ shown.1.x = capsule.x + baseCapsuleWidth) :
  Placed area (pageTabs ws page) { display, activeTitleBudget, capsule, indicator, bell
                                   markers := markersFrom widths area.y activeTab roundCaps false
                                     (x + page.indicatorWidth) markerTexts } := by
  have hMap := map_markersFrom widths area.y activeTab roundCaps false (x + page.indicatorWidth)
    markerTexts
  have hApart := pairwise_markersFrom widths area.y activeTab roundCaps false
    (x + page.indicatorWidth) markerTexts
  have hEach : ∀ marker ∈ markersFrom widths area.y activeTab roundCaps false
      (x + page.indicatorWidth) markerTexts, x + page.indicatorWidth ≤ marker.rect.x ∧
        marker.rect.x + marker.rect.width ≤ capsule.x + baseCapsuleWidth ∧
        marker.rect.y = area.y ∧ marker.rect.height = 1 := fun marker hMem => by
    obtain ⟨hStart, hStop, hSame⟩ := mem_markersFrom hMem
    exact ⟨hStart, by omega, hSame⟩
  rw [hTabs] at hMap
  have hAscending : (pageTabs ws page).Pairwise (· < ·) := List.pairwise_lt_range'
  rw [← hMap, List.pairwise_map] at hAscending
  refine ⟨hMap, hAscending.and hApart, ?_, ?_, ?_, hCapsule⟩
  · intro marker hMem
    obtain ⟨hStart, hStop, hSame, hOne⟩ := hEach marker hMem
    exact ⟨by dsimp only; omega, by dsimp only; omega, by dsimp only; omega, by dsimp only; omega⟩
  · intro shown hMem
    rw [hIndicator shown hMem]
    refine ⟨⟨hLeft, by dsimp only; omega, by dsimp only; omega, by dsimp only; omega⟩, ?_⟩
    intro marker hMarker
    exact (hEach marker hMarker).1
  · intro shown hMem
    obtain ⟨hWithin, hStart⟩ := hBell shown hMem
    refine ⟨hWithin, fun marker hMarker => ?_, fun other hOther => ?_⟩
    · rw [hStart]
      exact (hEach marker hMarker).2.1
    rw [hStart, hIndicator other hOther]
    dsimp only
    omega

theorem place_placed (hFits : area.Fits) (hArea : 0 < area.height)
  (hRoom : baseCapsuleWidth + app.bellAddonWidth widths bellText ≤ area.width)
  (hCandidate : app.candidateLayout widths ws display page activeTab activeTitleBudget =
    some current) (hWidth : current.capsuleWidth ≤ baseCapsuleWidth) :
  ∃ layout, app.place widths display page area activeTab bellText activeTitleBudget current
      baseCapsuleWidth = some layout ∧ Placed area (pageTabs ws page) layout ∧
    layout.capsule = app.capsuleOf widths area bellText baseCapsuleWidth := by
  obtain ⟨hTabs, hPadding, hContent⟩ := candidateLayout_spec hCandidate
  have hWithin := capsuleOf_within hArea hRoom
  obtain ⟨bell, hBell, hBellPlaced⟩ := bell_placed hFits hArea hRoom
  have hNodup : (current.markerTexts.map Prod.fst).Nodup := by
    rw [hTabs]
    exact List.nodup_range'
  have hExtent := extent_le widths activeTab (decide (app.island.caps = .round)) hNodup
  have hX := capsuleX_eq hFits hRoom
  have hCapsuleWidth : (app.capsuleOf widths area bellText baseCapsuleWidth).width =
    baseCapsuleWidth + app.bellAddonWidth widths bellText := rfl
  have hRight := (hWithin.fits hFits).right
  have hBottom := hFits.bottom
  have hNew : Rect.new (app.capsuleOf widths area bellText baseCapsuleWidth).x area.y
      (baseCapsuleWidth + app.bellAddonWidth widths bellText) 1 =
      app.capsuleOf widths area bellText baseCapsuleWidth := by
    rw [new_eq (by omega) (by omega)]
    rfl
  have hRow : (app.capsuleOf widths area bellText baseCapsuleWidth).y = area.y := rfl
  have hHeight : (app.capsuleOf widths area bellText baseCapsuleWidth).height = 1 := rfl
  rw [capsWidth_eq] at hContent
  unfold place
  dsimp only
  rw [asU16_eq (by omega : baseCapsuleWidth + app.bellAddonWidth widths bellText ≤ maxU16), hX,
    Option.bind_eq_bind, Option.bind_some, hNew, hBell]
  generalize app.capsuleOf widths area bellText baseCapsuleWidth = capsule at *
  generalize decide (app.island.caps = .round) = roundCaps at *
  rw [asU16_eq (by omega : (baseCapsuleWidth - current.capsuleWidth) / 2 ≤ maxU16),
    add_eq (by omega), Option.bind_some, asU16_eq (by omega : current.leftPadding ≤ maxU16),
    add_eq (by omega), Option.bind_some, add_eq (by omega), Option.bind_some]
  have hEnd : capsule.x + (baseCapsuleWidth - current.capsuleWidth) / 2 + current.leftPadding +
      roundCaps.toNat + page.indicatorWidth ≤ maxU16 := by omega
  have hAreaRow : area.y + 1 ≤ maxU16 := by omega
  obtain ⟨indicator, hIndicator, hShown⟩ := placeIndicator_eq hAreaRow hEnd
  rw [hIndicator]
  simp only [Option.bind_eq_bind, Option.bind_some]
  rw [placeMarkers_eq (by omega) (by omega), Option.bind_some]
  exact ⟨_, rfl, placed_row hWithin hRow hHeight (by omega) (by omega) (by omega) hTabs hShown
    hBellPlaced, rfl⟩

/-! ## The layout -/

variable (widths display activeTitle activeTab) in
theorem layout_eq (hWorkspace : (app.active.bind fun idx => app.workspaces[idx]?) = some ws)
  (hTabs : ws.tabs ≠ []) (hWidth : 0 < area.width) (hArea : 0 < area.height) :
  app.layoutForDisplayActive widths area display activeTab activeTitle =
    (app.firstFitting widths ws display (app.planFor widths ws display area activeTitle activeTab)
      activeTab area.width (app.bellAddonWidth widths (app.islandBellText widths))
      (titleBudgets display activeTitle)).bind fun chosen => chosen.elim (some none) fun chosen =>
        (app.place widths display (app.planFor widths ws display area activeTitle activeTab) area
          activeTab (app.islandBellText widths) chosen.1 chosen.2.1 chosen.2.2).map some := by
  have hNot : ¬ (area.width = 0 ∨ area.height = 0) := by omega
  unfold layoutForDisplayActive
  rw [if_neg hNot, hWorkspace]
  dsimp only
  rw [if_neg (by simpa using hTabs)]
  refine congrArg (Option.bind _) (funext fun chosen => ?_)
  cases chosen <;> rfl

/-- The layout that is returned for a tab, once the budget is chosen for another of its page. -/
theorem layout_of_chosen
  (hWorkspace : (app.active.bind fun idx => app.workspaces[idx]?) = some ws)
  (hTabs : ws.tabs ≠ []) (hFits : area.Fits) (hWidth : 0 < area.width) (hArea : 0 < area.height)
  (hActive : activeTab < ws.tabs.length) {budget : Nat}
  (hChosen : app.firstFitting widths ws display
    (app.planFor widths ws display area activeTitle activeTab) activeTab area.width
    (app.bellAddonWidth widths (app.islandBellText widths)) (titleBudgets display activeTitle) =
      some (some (budget, current, baseCapsuleWidth)))
  (hTab : tabIdx ∈ app.pageFor widths ws display area activeTitle activeTab) :
  ∃ layout, app.layoutForDisplayActive widths area display tabIdx activeTitle =
      some (some layout) ∧
    Placed area (app.pageFor widths ws display area activeTitle tabIdx) layout ∧
    layout.capsule =
      app.capsuleOf widths area (app.islandBellText widths) baseCapsuleWidth := by
  obtain ⟨hRoom, candidate, hCandidate, hCandidateWidth, hSame⟩ :=
    firstFitting_page (mem_own_page hActive) hChosen hTab
  obtain ⟨layout, hPlace, hPlaced, hCapsule⟩ :=
    place_placed hFits hArea hRoom hCandidate hCandidateWidth
  refine ⟨layout, ?_, ?_, hCapsule⟩
  · rw [layout_eq widths display tabIdx activeTitle hWorkspace hTabs hWidth hArea,
      planFor_eq hActive hTab, hSame, Option.bind_some, Option.elim_some, hPlace]
    rfl
  · rw [pageFor, planFor_eq hActive hTab]
    exact hPlaced

/-- The pages part the tabs. What is returned is placed on the page of the active tab, and it is
returned for all tabs of the page, with the same capsule. -/
theorem layoutForDisplayActive_placed {app : IslandApp} {ws : Workspace}
  (hWorkspace : (app.active.bind fun idx => app.workspaces[idx]?) = some ws)
  (hTabs : ws.tabs ≠ []) {area : Rect} (hFits : area.Fits) (widths : CellWidths)
  (display : IslandDisplayConfig) (activeTitle : Bool) :
  Partitions ws.tabs.length (app.pageFor widths ws display area activeTitle) ∧
  ∀ activeTab < ws.tabs.length, ∀ layout,
    app.layoutForDisplayActive widths area display activeTab activeTitle = some (some layout) →
      Placed area (app.pageFor widths ws display area activeTitle activeTab) layout ∧
      ∀ other ∈ app.pageFor widths ws display area activeTitle activeTab, ∃ layout',
        app.layoutForDisplayActive widths area display other activeTitle = some (some layout') ∧
          layout'.capsule = layout.capsule := by
  refine ⟨partitions_pageFor widths app ws display area activeTitle, ?_⟩
  intro activeTab hActive layout hLayout
  have hRoom : 0 < area.width ∧ 0 < area.height := by
    by_contra hNot
    have hNone : area.width = 0 ∨ area.height = 0 := by omega
    rw [layoutForDisplayActive, if_pos hNone] at hLayout
    cases hLayout
  have hReturned := hLayout
  rw [layout_eq widths display activeTab activeTitle hWorkspace hTabs hRoom.1 hRoom.2] at hReturned
  obtain ⟨chosen, hChosen, hPlace⟩ := Option.bind_eq_some_iff.1 hReturned
  cases chosen with
  | none => cases hPlace
  | some chosen =>
    obtain ⟨own, hOwn, hPlaced, hCapsule⟩ := layout_of_chosen hWorkspace hTabs hFits hRoom.1
      hRoom.2 hActive hChosen (mem_own_page hActive)
    obtain rfl : own = layout := Option.some.inj (Option.some.inj (hOwn.symm.trans hLayout))
    refine ⟨hPlaced, fun other hOther => ?_⟩
    obtain ⟨layout', hLayout', -, hCapsule'⟩ := layout_of_chosen hWorkspace hTabs hFits hRoom.1
      hRoom.2 hActive hChosen hOther
    exact ⟨layout', hLayout', hCapsule'.trans hCapsule.symm⟩

/-- A workspace with three tabs, with room for two of them at a time. -/
def threeTabs : IslandApp where
  toAppState := (((AppState.initial ⟨false, .island, .toast, 0, .off⟩).createWorkspaceWithLaunchEnv
    true true).createTab 0 none true true |>.bind fun s => s.createTab 0 none true true).get
      (by decide)
  island := ⟨.center, .round, "!"⟩

def narrowArea : Rect := ⟨4, 2, 20, 1⟩

/-- A character takes one cell. -/
def oneCell : CellWidths := ⟨String.length, fun _ => 1⟩

theorem layoutForDisplayActive_placed_threeTabs :
  ∃ layout, threeTabs.layoutForDisplayActive oneCell narrowArea .dots 1 false =
    some (some layout) ∧ Placed narrowArea [0, 1] layout ∧ ∃ layout',
      threeTabs.layoutForDisplayActive oneCell narrowArea .dots 0 false = some (some layout') ∧
        layout'.capsule = layout.capsule := by
  have hWorkspace : (threeTabs.active.bind fun idx => threeTabs.workspaces[idx]?) =
    some threeTabs.workspaces[0] := rfl
  have hFits : narrowArea.Fits := ⟨by decide, by decide⟩
  have hPlaced := layoutForDisplayActive_placed hWorkspace (by decide) hFits oneCell .dots false
  obtain ⟨layout, hLayout⟩ : ∃ layout,
      threeTabs.layoutForDisplayActive oneCell narrowArea .dots 1 false = some (some layout) :=
    ⟨_, rfl⟩
  obtain ⟨hOwn, hOthers⟩ := hPlaced.2 1 (by decide) layout hLayout
  exact ⟨layout, hLayout, hOwn, hOthers 0 (by decide)⟩

end IslandApp

end Ui
