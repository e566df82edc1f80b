import VimeflowTerminal.Ui.NotificationRects

/-! The boxes of a frame in closed form, and when they all lie inside the areas that they are drawn
on: what a diagnostic and a toast push down at the top must have the rows for it. -/

namespace Ui

open Checked Layout Rect

/-- Drawing the box writes to no cell outside of the area. -/
def Drawn (rect area : Rect) : Prop := isEmpty rect = true ∨ rect.Within area

theorem toastWidth_pos (displayWidth : TextWidth) (toast : ToastNotification) :
  0 < toastWidth displayWidth toast := by
  simp only [toastWidth, maxU16]
  omega

theorem three_le_toastHeight (toast : ToastNotification) : 3 ≤ toastHeight toast := by
  rw [toastHeight]
  split <;> omega

theorem toastHeight_le (toast : ToastNotification) : toastHeight toast ≤ 4 := by
  rw [toastHeight]
  split <;> omega

namespace ToastClipboardPosition

def start (position : ToastClipboardPosition) (area : Rect) (width : Nat) : Nat :=
  match position with
  | topLeft | bottomLeft => area.x
  | topCenter | bottomCenter => area.x + (area.width - width) / 2
  | topRight | bottomRight => area.x + (area.width - width)

theorem start_bounds (position : ToastClipboardPosition) {area : Rect} {width : Nat}
  (hWidth : width ≤ area.width) :
  area.x ≤ position.start area width ∧
    position.start area width + width ≤ area.x + area.width := by
  cases position <;> simp only [start] <;> omega

theorem column_eq (position : ToastClipboardPosition) {area : Rect} {width : Nat}
  (hFits : area.Fits) : position.column area width = some (position.start area width) := by
  have hRight := hFits.right
  cases position
  all_goals
    simp only [column, start]
    try exact add_eq (by omega)

end ToastClipboardPosition

/-- The box of feedback below some rows, or above them. -/
def feedbackBox (area : Rect) (feedback : CopyFeedback) (rows : Nat)
  (position : ToastClipboardPosition) : Rect :=
  if area.width = 0 ∨ area.height = 0 then noRect
  else
    let width := min (feedback.message.utf8ByteSize % 2 ^ 16 + 4) area.width
    let height := min 3 area.height
    let y := if position.isTop then min rows area.height else area.height - (height + rows)
    new (position.start area width) (area.y + y) width height

/-- The length of the message is in range with the frame of the box. -/
def MessageFits (area : Rect) (feedback : CopyFeedback) : Prop :=
  area.width = 0 ∨ area.height = 0 ∨ feedback.message.utf8ByteSize % 2 ^ 16 + 4 ≤ maxU16

theorem copyFeedbackRect_eq {area : Rect} {feedback : CopyFeedback} {rows : Nat}
  {position : ToastClipboardPosition} (hFits : area.Fits) (hMessage : MessageFits area feedback)
  (hRows : 3 + rows ≤ maxU16) :
  copyFeedbackRect area feedback rows position =
    some (feedbackBox area feedback rows position) := by
  have hBottom := hFits.bottom
  rw [copyFeedbackRect, feedbackBox]
  split
  case isTrue => rfl
  case isFalse hArea =>
    have hContent : feedback.message.utf8ByteSize % 2 ^ 16 + 4 ≤ maxU16 := by
      obtain hWidth | hHeight | hContent := hMessage
      · exact absurd (.inl hWidth) hArea
      · exact absurd (.inr hHeight) hArea
      · exact hContent
    simp only [add_eq hContent, Option.bind_eq_bind, Option.bind_some, position.column_eq hFits]
    split
    case isTrue => rw [add_eq (by omega), Option.bind_some]
    case isFalse =>
      rw [add_eq (by omega), Option.bind_some, add_eq (by omega), Option.bind_some]

variable {area : Rect} {height : Nat}

theorem copyFeedbackRect_eq_none {feedback : CopyFeedback} {rows : Nat}
  {position : ToastClipboardPosition} (hMessage : ¬ MessageFits area feedback) :
  copyFeedbackRect area feedback rows position = none := by
  simp only [MessageFits, not_or] at hMessage
  obtain ⟨hWidth, hHeight, hContent⟩ := hMessage
  rw [copyFeedbackRect, if_neg (not_or.2 ⟨hWidth, hHeight⟩),
    add_eq_none_iff.2 (Nat.lt_of_not_le hContent)]
  rfl

/-- The rows that the capsule of the island leaves begin here. -/
def islandTop (area capsule : Rect) (tabBarPosition : TabBarPositionConfig) : Nat :=
  if isEmpty capsule || tabBarPosition = .bottom then area.y
  else max area.y (min (bottom capsule) (area.y + area.height))

def islandBottom (area capsule : Rect) (tabBarPosition : TabBarPositionConfig) : Nat :=
  if isEmpty capsule || tabBarPosition = .top then area.y + area.height
  else max area.y (min capsule.y (area.y + area.height))

/-- The box of a toast that opens from the island, next to the capsule. -/
def islandBox (area : Rect) (width height warningRows : Nat) (capsule : Rect)
  (tabBarPosition : TabBarPositionConfig) : Rect :=
  let anchor := if isEmpty capsule then area else capsule
  let desiredX := (anchor.x * 2 + anchor.width - width) / 2
  let x := max area.x (min desiredX (area.x + area.width - width))
  let top := islandTop area capsule tabBarPosition
  let bottom := islandBottom area capsule tabBarPosition
  let height := min height (bottom - top)
  let warningRows := min warningRows (bottom - top - height)
  let y :=
    if !isEmpty capsule && tabBarPosition = .bottom then bottom - height - warningRows
    else top + warningRows
  new x y width height

def toastBox (displayWidth : TextWidth) (area : Rect) (toast : ToastNotification)
  (warningRows : Nat) (position : ToastHerdrPosition) (capsule : Rect)
  (tabBarPosition : TabBarPositionConfig) : Rect :=
  let width := min (toastWidth displayWidth toast) area.width
  let height := min (toastHeight toast) area.height
  let right := area.x + (area.width - width)
  let top := area.y + min warningRows area.height
  let bottom := area.y + (area.height - (height + warningRows))
  match position with
  | .island => islandBox area width height warningRows capsule tabBarPosition
  | .topLeft => new area.x top width height
  | .topRight => new right top width height
  | .bottomLeft => new area.x bottom width height
  | .bottomRight => new right bottom width height

theorem Rect.bottom_eq (hFits : area.Fits) : bottom area = area.y + area.height :=
  Nat.min_eq_right hFits.bottom

theorem Rect.right_eq (hFits : area.Fits) : right area = area.x + area.width :=
  Nat.min_eq_right hFits.right

theorem islandTop_le (area capsule : Rect) (tabBarPosition : TabBarPositionConfig) :
  area.y ≤ islandTop area capsule tabBarPosition ∧
    islandTop area capsule tabBarPosition ≤ islandBottom area capsule tabBarPosition ∧
    islandBottom area capsule tabBarPosition ≤ area.y + area.height := by
  cases tabBarPosition <;> simp only [islandTop, islandBottom] <;>
    cases isEmpty capsule <;> simp

theorem islandTop_eq (hFits : area.Fits) (capsule : Rect) (tabBarPosition : TabBarPositionConfig) :
  (if isEmpty capsule || tabBarPosition = .bottom then some area.y
    else clamp (bottom capsule) area.y (bottom area)) =
      some (islandTop area capsule tabBarPosition) := by
  rw [bottom_eq hFits, clamp_eq (Nat.le_add_right _ _), islandTop, apply_ite some]

theorem islandBottom_eq (hFits : area.Fits) (capsule : Rect)
  (tabBarPosition : TabBarPositionConfig) :
  (if isEmpty capsule || tabBarPosition = .top then some (bottom area)
    else clamp capsule.y area.y (bottom area)) =
      some (islandBottom area capsule tabBarPosition) := by
  rw [bottom_eq hFits, clamp_eq (Nat.le_add_right _ _), islandBottom, apply_ite some]

theorem islandRows_eq {warningRows : Nat} {capsule : Rect} {tabBarPosition : TabBarPositionConfig}
  (hFits : area.Fits) :
  let top := islandTop area capsule tabBarPosition
  let bottom := islandBottom area capsule tabBarPosition
  let free := bottom - top - min height (bottom - top)
  islandRows area height warningRows capsule tabBarPosition =
    some (if !isEmpty capsule && tabBarPosition = .bottom then
        bottom - min height (bottom - top) - min warningRows free
      else top + min warningRows free, min height (bottom - top)) := by
  have hEnd := hFits.bottom
  obtain ⟨hTop, hRange, hBottom⟩ := islandTop_le area capsule tabBarPosition
  simp only [islandRows, islandTop_eq hFits, islandBottom_eq hFits, Option.bind_eq_bind,
    Option.bind_some]
  generalize islandTop area capsule tabBarPosition = top at *
  generalize islandBottom area capsule tabBarPosition = bottom at *
  have hHeight : min height (bottom - top) ≤ bottom - top := Nat.min_le_right _ _
  simp only [sub_eq hRange, Option.bind_some, sub_eq hHeight]
  generalize min height (bottom - top) = height at *
  split
  case isTrue =>
    have hFirst : height ≤ bottom := by omega
    have hSecond : min warningRows (bottom - top - height) ≤ bottom - height := by omega
    simp only [sub_eq hFirst, Option.bind_some, sub_eq hSecond]
  case isFalse =>
    have hFirst : top + min warningRows (bottom - top - height) ≤ maxU16 := by omega
    simp only [add_eq hFirst, Option.bind_some]

theorem toastNotificationRect_eq (displayWidth : TextWidth) (toast : ToastNotification)
  (warned : Bool) (position : ToastHerdrPosition) (capsule : Rect)
  (tabBarPosition : TabBarPositionConfig) (hFits : area.Fits) :
  toastNotificationRect displayWidth area toast warned position capsule tabBarPosition =
    some (toastBox displayWidth area toast (if warned then 1 else 0) position capsule
      tabBarPosition) := by
  have hRight := hFits.right
  have hBottom := hFits.bottom
  have hRows : (if warned then 1 else 0) ≤ 1 := by split <;> omega
  have hHeight := (Nat.min_le_left (toastHeight toast) area.height).trans (toastHeight_le toast)
  unfold toastNotificationRect toastBox
  generalize (if warned then 1 else 0) = rows at *
  have hWidth := Nat.min_le_right (toastWidth displayWidth toast) area.width
  generalize min (toastWidth displayWidth toast) area.width = width at *
  generalize min (toastHeight toast) area.height = height at *
  have hLast : area.x + (area.width - width) ≤ maxU16 := by omega
  have hTop : area.y + min rows area.height ≤ maxU16 := by omega
  have hStacked : height + rows ≤ maxU16 := by unfold maxU16; omega
  have hAbove : area.y + (area.height - (height + rows)) ≤ maxU16 := by omega
  cases position with
  | island =>
    have hSub : width ≤ area.x + area.width := by omega
    have hRange : area.x ≤ area.x + area.width - width := by omega
    simp only [Option.bind_eq_bind, Option.bind_some, right_eq hFits, sub_eq hSub,
      clamp_eq hRange, islandRows_eq hFits, islandBox]
  | topLeft => simp only [Option.bind_eq_bind, Option.bind_some, add_eq hTop]
  | topRight => simp only [Option.bind_eq_bind, Option.bind_some, add_eq hTop, add_eq hLast]
  | bottomLeft => simp only [Option.bind_eq_bind, Option.bind_some, add_eq hStacked, add_eq hAbove]
  | bottomRight =>
    simp only [Option.bind_eq_bind, Option.bind_some, add_eq hStacked, add_eq hAbove,
      add_eq hLast]

theorem new_within {x y width : Nat} (hLeft : area.x ≤ x)
  (hRight : x + width ≤ area.x + area.width) (hTop : area.y ≤ y)
  (hBottom : y + height ≤ area.y + area.height) : (new x y width height).Within area where
  left := hLeft
  right := (Nat.add_le_add_left (Nat.min_le_left _ _) x).trans hRight
  top := hTop
  bottom := (Nat.add_le_add_left (Nat.min_le_left _ _) y).trans hBottom

/-- A box that starts below some rows of the area has room there. At the last coordinate it is
cut off, and so has room as well. -/
def TopRoom (area : Rect) (height rows : Nat) : Prop :=
  area.width = 0 ∨ area.height = 0 ∨ rows + min height area.height ≤ area.height ∨
    area.y + area.height = maxU16

theorem drawn_top_iff {x width rows : Nat} (hFits : area.Fits) (hLeft : area.x ≤ x)
  (hRight : x + min width area.width ≤ area.x + area.width) (hWidth : 0 < width)
  (hHeight : 0 < height) :
  Drawn (new x (area.y + min rows area.height) (min width area.width)
      (min height area.height)) area ↔ TopRoom area height rows := by
  have hEndX := hFits.right
  have hEndY := hFits.bottom
  constructor
  · intro hDrawn
    rw [TopRoom]
    obtain hEmpty | hWithin := hDrawn
    · simp only [isEmpty, new, Bool.or_eq_true, beq_iff_eq] at hEmpty
      omega
    · have hLast := hWithin.bottom
      simp only [new] at hLast
      omega
  · intro hRoom
    obtain hNone | hNone | hRows | hEnd := hRoom
    · exact .inl (by simp [isEmpty, new, hNone])
    · exact .inl (by simp [isEmpty, new, hNone])
    · exact .inr (new_within hLeft hRight (Nat.le_add_right _ _) (by omega))
    · refine .inr ⟨hLeft, ?_, Nat.le_add_right _ _, ?_⟩
      · exact (Nat.add_le_add_left (Nat.min_le_left _ _) x).trans hRight
      · simp only [new]
        omega

theorem toastBox_drawn_iff (displayWidth : TextWidth) (toast : ToastNotification)
  (warningRows : Nat) (position : ToastHerdrPosition) (capsule : Rect)
  (tabBarPosition : TabBarPositionConfig) (hFits : area.Fits) :
  Drawn (toastBox displayWidth area toast warningRows position capsule tabBarPosition) area ↔
    (position = .topLeft ∨ position = .topRight →
      TopRoom area (toastHeight toast) warningRows) := by
  have hWidth := toastWidth_pos displayWidth toast
  have hHeight : 0 < toastHeight toast :=
    Nat.lt_of_lt_of_le (by decide) (three_le_toastHeight toast)
  cases position with
  | island =>
    simp only [reduceCtorEq, or_self, false_implies, iff_true]
    obtain ⟨hTop, hRange, hBottom⟩ := islandTop_le area capsule tabBarPosition
    refine .inr (new_within ?_ ?_ ?_ ?_)
    · omega
    · omega
    · split <;> omega
    · split <;> omega
  | topLeft =>
    simp only [true_or, true_implies]
    exact drawn_top_iff hFits (le_refl _) (by omega) hWidth hHeight
  | topRight =>
    simp only [or_true, true_implies]
    exact drawn_top_iff hFits (Nat.le_add_right _ _) (by omega) hWidth hHeight
  | bottomLeft =>
    simp only [reduceCtorEq, or_self, false_implies, iff_true]
    exact .inr (new_within (le_refl _) (by omega) (Nat.le_add_right _ _) (by omega))
  | bottomRight =>
    simp only [reduceCtorEq, or_self, false_implies, iff_true]
    exact .inr (new_within (Nat.le_add_right _ _) (by omega) (Nat.le_add_right _ _) (by omega))

theorem feedbackBox_drawn_iff (feedback : CopyFeedback) (rows : Nat)
  (position : ToastClipboardPosition) (hFits : area.Fits) :
  Drawn (feedbackBox area feedback rows position) area ↔
    (position.isTop = true → TopRoom area 3 rows) := by
  rw [feedbackBox]
  split
  case isTrue hArea =>
    have hRoom : TopRoom area 3 rows := by
      rw [TopRoom]
      omega
    exact ⟨fun _ _ => hRoom, fun _ => .inl rfl⟩
  case isFalse hArea =>
    have hWidth := Nat.min_le_right (feedback.message.utf8ByteSize % 2 ^ 16 + 4) area.width
    obtain ⟨hLeft, hRight⟩ := position.start_bounds hWidth
    cases hTop : position.isTop with
    | true =>
      simp only [if_true, true_implies]
      exact drawn_top_iff hFits hLeft hRight (Nat.succ_pos _) (by decide)
    | false =>
      simp only [Bool.false_eq_true, if_false, false_implies, iff_true]
      exact .inr (new_within hLeft hRight (Nat.le_add_right _ _) (by omega))

/-- The rows of a diagnostic always have a box inside the area. -/
theorem diagnosticRowRect_eq (hFits : area.Fits) (line : List Char) {row : Nat}
  (hRow : row < area.height) :
  ∃ rect, diagnosticRowRect area line row = some rect ∧ rect.Within area := by
  have hRight := hFits.right
  have hBottom := hFits.bottom
  unfold diagnosticRowRect
  have hWidth := Nat.min_le_right ((" " ++ String.ofList line ++ " ").utf8ByteSize % 2 ^ 16)
    area.width
  generalize min ((" " ++ String.ofList line ++ " ").utf8ByteSize % 2 ^ 16) area.width = width at *
  have hX : area.x + (area.width - width) ≤ maxU16 := by omega
  have hY : area.y + row ≤ maxU16 := by omega
  simp only [add_eq hX, add_eq hY, Option.bind_eq_bind, Option.bind_some]
  exact ⟨_, rfl, new_within (Nat.le_add_right _ _) (by omega) (Nat.le_add_right _ _) (by omega)⟩

theorem diagnosticRects_eq (hFits : area.Fits) (message : String) :
  ∃ rects, diagnosticRects area message = some rects ∧ ∀ rect ∈ rects, rect.Within area := by
  apply mapM_eq_some_forall
  rintro ⟨line, row⟩ hMem
  apply diagnosticRowRect_eq hFits line
  have hRow := (List.mem_zipIdx hMem).2.1
  rw [List.length_take] at hRow
  omega

/-- The box of the banner, above the row of a diagnostic. -/
def bannerBox (area : Rect) (warningRows : Nat) : Rect :=
  if area.width = 0 ∨ area.height = 0 then noRect
  else new area.x (area.y + (area.height - (1 + warningRows))) area.width 1

theorem mobileToastBannerRect_eq (hFits : area.Fits) (warned : Bool) :
  mobileToastBannerRect area warned = some (bannerBox area (if warned then 1 else 0)) := by
  have hBottom := hFits.bottom
  rw [mobileToastBannerRect, bannerBox]
  split
  case isTrue => rfl
  case isFalse =>
    have hY : area.y + (area.height - (1 + if warned then 1 else 0)) ≤ maxU16 := by omega
    rw [add_eq hY]
    rfl

theorem bannerBox_drawn (area : Rect) (warningRows : Nat) :
  Drawn (bannerBox area warningRows) area := by
  rw [bannerBox]
  split
  case isTrue => exact .inl rfl
  case isFalse hArea =>
    exact .inr (new_within (le_refl _) (le_refl _) (Nat.le_add_right _ _) (by omega))

namespace NotificationView

variable (displayWidth : TextWidth) (view : NotificationView)

def warningRows : Nat := if view.configDiagnostic.isSome then 1 else 0

/-- The box of a toast on the frame. -/
def toastBox (toast : ToastNotification) : Rect :=
  if view.mobile then bannerBox view.frame view.warningRows
  else
    Ui.toastBox displayWidth view.frame toast view.warningRows
      (toast.position.getD view.toastPosition) view.capsule view.tabBarPosition

/-- The rows that feedback is kept away from the edge: those of the diagnostic, and those of a
toast that it would otherwise lie over. -/
def feedbackRows (feedback : CopyFeedback) : Nat :=
  match view.toast with
  | none => view.warningRows
  | some toast =>
    let box := feedbackBox view.feedbackArea feedback view.warningRows view.clipboardPosition
    if rectsOverlap box (view.toastBox displayWidth toast) then
      view.warningRows + (view.toastBox displayWidth toast).height
    else view.warningRows

theorem warningRows_le : view.warningRows ≤ 1 := by
  rw [warningRows]
  split <;> omega

theorem toastBox_height_le (toast : ToastNotification) :
  (view.toastBox displayWidth toast).height ≤ 4 := by
  have hHeight := toastHeight_le toast
  rw [toastBox]
  split
  case isTrue =>
    rw [bannerBox]
    split
    · exact Nat.zero_le _
    · exact (Nat.min_le_left _ _).trans (by decide)
  case isFalse =>
    unfold Ui.toastBox islandBox
    split <;> simp only [new] <;> omega

theorem feedbackRows_le (feedback : CopyFeedback) :
  view.feedbackRows displayWidth feedback ≤ 5 := by
  have hWarning := view.warningRows_le
  rw [feedbackRows]
  split
  next => omega
  next toast _ =>
    have hHeight := view.toastBox_height_le displayWidth toast
    dsimp only
    split <;> omega

variable {displayWidth view} (hFrame : view.frame.Fits) (hTerminal : view.terminalArea.Fits)

include hFrame in
theorem toastRect_eq (toast : ToastNotification) :
  view.toastRect displayWidth toast = some (view.toastBox displayWidth toast) := by
  rw [toastRect, toastBox]
  split
  case isTrue => exact mobileToastBannerRect_eq hFrame _
  case isFalse => exact toastNotificationRect_eq displayWidth toast _ _ _ _ hFrame

include hFrame hTerminal in
theorem feedbackArea_fits : view.feedbackArea.Fits := by
  rw [feedbackArea]
  split
  · exact hFrame
  · exact hTerminal

include hFrame hTerminal in
theorem diagnosticArea_fits : view.diagnosticArea.Fits := by
  rw [diagnosticArea]
  split
  · exact hTerminal
  · exact hFrame

include hFrame hTerminal in
theorem copyFeedbackOffset_eq (feedback : CopyFeedback)
  (hMessage : MessageFits view.feedbackArea feedback) :
  view.copyFeedbackOffset feedback (view.toast.map (view.toastBox displayWidth)) =
    some (view.feedbackRows displayWidth feedback) := by
  have hWarning := view.warningRows_le
  unfold copyFeedbackOffset feedbackRows
  cases view.toast with
  | none => rfl
  | some toast =>
    have hHeight := view.toastBox_height_le displayWidth toast
    have hRect := @copyFeedbackRect_eq _ _ _ view.clipboardPosition
      (feedbackArea_fits hFrame hTerminal) hMessage
      (show 3 + view.warningRows ≤ maxU16 by unfold maxU16; omega)
    change (copyFeedbackRect view.feedbackArea feedback view.warningRows
      view.clipboardPosition).bind _ = _
    rw [hRect, Option.bind_some]
    have hSum : view.warningRows + (view.toastBox displayWidth toast).height ≤ maxU16 := by
      unfold maxU16
      omega
    change some (if _ then min maxU16 (view.warningRows + _) else view.warningRows) = _
    rw [Nat.min_eq_right hSum]

include hFrame hTerminal in
/-- All boxes of a frame, where the message of the feedback is not too long. -/
theorem notificationRects_eq (hMessage : ∀ feedback, view.copyFeedback = some feedback →
    MessageFits view.feedbackArea feedback) :
  ∃ diagnostics : List Rect, (∀ rect ∈ diagnostics, rect.Within view.diagnosticArea) ∧
    view.notificationRects displayWidth =
      some (diagnostics.map (fun rect => (rect, view.diagnosticArea)) ++
        (view.toast.map (view.toastBox displayWidth)).toList.map
          (fun rect => (rect, view.frame)) ++
        (view.copyFeedback.map fun feedback => feedbackBox view.feedbackArea feedback
          (view.feedbackRows displayWidth feedback) view.clipboardPosition).toList.map
            fun rect => (rect, view.feedbackArea)) := by
  have hDiagnostics : ∃ diagnostics : List Rect,
      (∀ rect ∈ diagnostics, rect.Within view.diagnosticArea) ∧
        view.configDiagnostic.elim (some []) (diagnosticRects view.diagnosticArea) =
          some diagnostics := by
    cases view.configDiagnostic with
    | none => exact ⟨[], fun _ hMem => absurd hMem List.not_mem_nil, rfl⟩
    | some message =>
      obtain ⟨diagnostics, hRects, hWithin⟩ :=
        diagnosticRects_eq (diagnosticArea_fits hFrame hTerminal) message
      exact ⟨diagnostics, hWithin, hRects⟩
  have hToast : (view.toast.elim (some none) fun toast =>
      (view.toastRect displayWidth toast).map some) =
        some (view.toast.map (view.toastBox displayWidth)) := by
    cases view.toast with
    | none => rfl
    | some toast => simp only [Option.elim_some, toastRect_eq hFrame, Option.map_some]
  obtain ⟨diagnostics, hWithin, hRects⟩ := hDiagnostics
  refine ⟨diagnostics, hWithin, ?_⟩
  simp only [notificationRects, hRects, hToast, Option.bind_eq_bind, Option.bind_some]
  cases hFeedback : view.copyFeedback with
  | none => rfl
  | some feedback =>
    have hRows := view.feedbackRows_le displayWidth feedback
    have hRect := @copyFeedbackRect_eq _ _ _ view.clipboardPosition
      (feedbackArea_fits hFrame hTerminal) (hMessage feedback hFeedback)
      (show 3 + view.feedbackRows displayWidth feedback ≤ maxU16 by unfold maxU16; omega)
    simp only [Option.elim_some,
      copyFeedbackOffset_eq hFrame hTerminal feedback (hMessage feedback hFeedback), hRect,
      Option.bind_some, Option.map_some]

/-- A message whose length is too large for the box has no result. -/
theorem notificationRects_eq_none {feedback : CopyFeedback}
  (hFeedback : view.copyFeedback = some feedback)
  (hMessage : ¬ MessageFits view.feedbackArea feedback) :
  view.notificationRects displayWidth = none := by
  have hNone : ∀ toastRect, (do
      let offset ← view.copyFeedbackOffset feedback toastRect
      let rect ← copyFeedbackRect view.feedbackArea feedback offset view.clipboardPosition
      some (some rect)) = none := by
    intro toastRect
    cases view.copyFeedbackOffset feedback toastRect with
    | none => rfl
    | some offset =>
        rw [Option.bind_eq_bind, Option.bind_some, copyFeedbackRect_eq_none hMessage]
        rfl
  rw [notificationRects, hFeedback]
  cases view.configDiagnostic.elim (some []) (diagnosticRects view.diagnosticArea) with
  | none => rfl
  | some diagnostics =>
    cases view.toast.elim (some none) fun toast =>
        (view.toastRect displayWidth toast).map some with
    | none => rfl
    | some toastRect => exact congrArg (Option.bind · _) (hNone toastRect)

variable (displayWidth view)

/-- Every box of the frame has a result, and lies inside the area that it is drawn on. -/
def Contained : Prop :=
  ∃ rects, view.notificationRects displayWidth = some rects ∧
    ∀ box ∈ rects, Drawn box.1 box.2

/-- The rows that overlays push each other down at the top of an area are there, and the width of
a message with its frame is in range. -/
structure HasRoom : Prop where
  toast : ∀ toast, view.toast = some toast → view.mobile = false →
    (toast.position.getD view.toastPosition = .topLeft ∨
      toast.position.getD view.toastPosition = .topRight) →
    TopRoom view.frame (toastHeight toast) view.warningRows
  message : ∀ feedback, view.copyFeedback = some feedback →
    MessageFits view.feedbackArea feedback
  feedback : ∀ feedback, view.copyFeedback = some feedback →
    view.clipboardPosition.isTop = true →
    TopRoom view.feedbackArea 3 (view.feedbackRows displayWidth feedback)

variable {displayWidth view}

include hFrame in
theorem toastBox_drawn_iff (toast : ToastNotification) :
  Drawn (view.toastBox displayWidth toast) view.frame ↔
    (view.mobile = false →
      (toast.position.getD view.toastPosition = .topLeft ∨
        toast.position.getD view.toastPosition = .topRight) →
      TopRoom view.frame (toastHeight toast) view.warningRows) := by
  rw [toastBox]
  cases view.mobile with
  | true => simp [bannerBox_drawn]
  | false => simp [Ui.toastBox_drawn_iff displayWidth toast _ _ _ _ hFrame]

/-- The boxes of notifications are computed without an overflow and stay inside their areas just
where there is room for them. -/
theorem contained_iff (hFrame : view.frame.Fits) (hTerminal : view.terminalArea.Fits) :
  view.Contained displayWidth ↔ view.HasRoom displayWidth := by
  have hArea := feedbackArea_fits hFrame hTerminal
  constructor
  · rintro ⟨rects, hRects, hDrawn⟩
    have hMessage : ∀ feedback, view.copyFeedback = some feedback →
        MessageFits view.feedbackArea feedback := by
      intro feedback hFeedback
      by_contra hLong
      rw [notificationRects_eq_none hFeedback hLong] at hRects
      cases hRects
    obtain ⟨diagnostics, _, hEq⟩ := notificationRects_eq hFrame hTerminal hMessage
    obtain rfl := Option.some.inj (hEq.symm.trans hRects)
    refine ⟨?_, hMessage, ?_⟩
    · intro toast hToast
      have hBox : Drawn (view.toastBox displayWidth toast) view.frame :=
        hDrawn (view.toastBox displayWidth toast, view.frame) (by simp [hToast])
      exact (toastBox_drawn_iff hFrame toast).1 hBox
    · intro feedback hFeedback
      have hBox : Drawn (feedbackBox view.feedbackArea feedback
          (view.feedbackRows displayWidth feedback) view.clipboardPosition) view.feedbackArea :=
        hDrawn (feedbackBox view.feedbackArea feedback (view.feedbackRows displayWidth feedback)
          view.clipboardPosition, view.feedbackArea) (by simp [hFeedback])
      exact (feedbackBox_drawn_iff feedback _ _ hArea).1 hBox
  · rintro ⟨hToast, hMessage, hFeedback⟩
    obtain ⟨diagnostics, hWithin, hEq⟩ := notificationRects_eq hFrame hTerminal hMessage
    refine ⟨_, hEq, ?_⟩
    rintro ⟨rect, area⟩ hMem
    simp only [List.mem_append, List.mem_map, Option.mem_toList, Option.map_eq_some_iff,
      Prod.mk.injEq] at hMem
    obtain (⟨_, hRect, rfl, rfl⟩ | ⟨_, ⟨toast, hSome, rfl⟩, rfl, rfl⟩) |
      ⟨_, ⟨feedback, hSome, rfl⟩, rfl, rfl⟩ := hMem
    · exact .inr (hWithin _ hRect)
    · exact (toastBox_drawn_iff hFrame toast).2 (hToast toast hSome)
    · exact (feedbackBox_drawn_iff feedback _ _ hArea).2 (hFeedback feedback hSome)

/-- A diagnostic and a toast at the top of a desktop frame of four rows. -/
def lowFrame : NotificationView where
  mobile := false
  frame := ⟨0, 0, 80, 4⟩
  terminalArea := ⟨26, 1, 54, 3⟩
  capsule := noRect
  tabBarPosition := .top
  toastPosition := .topLeft
  clipboardPosition := .bottomRight
  toast := some { title := "agent", context := "tab 1", position := none }
  copyFeedback := none
  configDiagnostic := some "unknown key"

theorem contained_iff_lowFrame :
  lowFrame.Contained ⟨String.length⟩ ↔ lowFrame.HasRoom ⟨String.length⟩ :=
  contained_iff ⟨by decide, by decide⟩ ⟨by decide, by decide⟩

/-- The toast with its four rows begins below the diagnostic, and ends below the frame. -/
theorem not_contained : ¬ ∀ (displayWidth : TextWidth) (view : NotificationView),
  view.frame.Fits → view.terminalArea.Fits → view.Contained displayWidth := by
  intro hContained
  obtain ⟨rects, hRects, hDrawn⟩ := hContained ⟨String.length⟩ lowFrame
    ⟨by decide, by decide⟩ ⟨by decide, by decide⟩
  have hBoxes : lowFrame.notificationRects ⟨String.length⟩ =
      some [(⟨67, 0, 13, 1⟩, ⟨0, 0, 80, 4⟩), (⟨0, 1, 11, 4⟩, ⟨0, 0, 80, 4⟩)] := by
    decide +kernel
  obtain rfl := Option.some.inj (hBoxes.symm.trans hRects)
  obtain hEmpty | hWithin := hDrawn _ (List.mem_cons_of_mem _ List.mem_cons_self)
  · cases hEmpty
  · exact absurd hWithin.bottom (by decide)

end NotificationView

end Ui
