import VimeflowTerminal.Data.Checked
import VimeflowTerminal.Data.TextLines
import VimeflowTerminal.Detect.Agent
import VimeflowTerminal.Layout.Geometry

/-! Where toasts, copy feedback and configuration diagnostics are drawn. Arithmetic that leaves 16
bits has no result. -/

namespace Ui

open Checked Layout

inductive ToastClipboardPosition where
  | topLeft
  | topCenter
  | topRight
  | bottomLeft
  | bottomCenter
  | bottomRight
  deriving DecidableEq

inductive ToastHerdrPosition where
  | island
  | topLeft
  | topRight
  | bottomLeft
  | bottomRight
  deriving DecidableEq

inductive TabBarPositionConfig where
  | top
  | bottom
  deriving DecidableEq

structure CopyFeedback where
  message : String
  deriving DecidableEq

structure ToastNotification where
  title : String
  context : String
  position : Option ToastHerdrPosition
  deriving DecidableEq

def noRect : Rect := ⟨0, 0, 0, 0⟩

def Rect.isEmpty (rect : Rect) : Bool := rect.width == 0 || rect.height == 0

/-- The column behind a rectangle, at most the largest one. -/
def Rect.right (rect : Rect) : Nat := min maxU16 (rect.x + rect.width)

def Rect.bottom (rect : Rect) : Nat := min maxU16 (rect.y + rect.height)

def rectsOverlap (a b : Rect) : Bool :=
  a.x < Rect.right b && b.x < Rect.right a && a.y < Rect.bottom b && b.y < Rect.bottom a

namespace ToastClipboardPosition

def isTop (position : ToastClipboardPosition) : Bool :=
  position = topLeft || position = topCenter || position = topRight

/-- The column of a box of a width. -/
def column (position : ToastClipboardPosition) (area : Rect) (width : Nat) : Option Nat :=
  match position with
  | topLeft | bottomLeft => some area.x
  | topCenter | bottomCenter => add maxU16 area.x ((area.width - width) / 2)
  | topRight | bottomRight => add maxU16 area.x (area.width - width)

end ToastClipboardPosition

def copyFeedbackRect (area : Rect) (feedback : CopyFeedback) (offsetRows : Nat)
  (position : ToastClipboardPosition) : Option Rect :=
  if area.width = 0 ∨ area.height = 0 then some noRect
  else do
    let contentWidth ← add maxU16 (feedback.message.utf8ByteSize % 2 ^ 16) 4
    let width := min contentWidth area.width
    let height := min 3 area.height
    let x ← position.column area width
    let y ←
      if position.isTop then add maxU16 area.y (min offsetRows area.height)
      else do
        let stacked ← add maxU16 height offsetRows
        add maxU16 area.y (area.height - stacked)
    some (Rect.new x y width height)

/-- The widths that texts are drawn in; long ones are cut off at the largest number. -/
structure TextWidth where
  width : String → Nat

def toastWidth (displayWidth : TextWidth) (toast : ToastNotification) : Nat :=
  let texts := max (displayWidth.width toast.title) (displayWidth.width toast.context)
  min maxU16 (min maxU16 (texts + 4) + 2)

/-- The rows of a toast with its border. -/
def toastHeight (toast : ToastNotification) : Nat :=
  (if toast.context.isEmpty then 1 else 2) + 2

/-- The place of a toast that opens from the island: the row and the height. -/
def islandRows (area : Rect) (height warningOffset : Nat) (capsule : Rect)
  (tabBarPosition : TabBarPositionConfig) : Option (Nat × Nat) := do
  let top ← (if Rect.isEmpty capsule || tabBarPosition = .bottom then some area.y
    else clamp (Rect.bottom capsule) area.y (Rect.bottom area))
  let bottom ← (if Rect.isEmpty capsule || tabBarPosition = .top then some (Rect.bottom area)
    else clamp capsule.y area.y (Rect.bottom area))
  let rows ← sub bottom top
  let height := min height rows
  let free ← sub rows height
  let warningOffset := min warningOffset free
  let y ←
    if !Rect.isEmpty capsule && tabBarPosition = .bottom then do
      let start ← sub bottom height
      sub start warningOffset
    else add maxU16 top warningOffset
  some (y, height)

def toastNotificationRect (displayWidth : TextWidth) (area : Rect) (toast : ToastNotification)
  (offsetForWarning : Bool) (position : ToastHerdrPosition) (capsule : Rect)
  (tabBarPosition : TabBarPositionConfig) : Option Rect := do
  let width := min (toastWidth displayWidth toast) area.width
  let height := min (toastHeight toast) area.height
  let x ←
    match position with
    | .island => do
      let anchor := if Rect.isEmpty capsule then area else capsule
      -- in 32 bits, with nothing to overflow
      let desiredX := (anchor.x * 2 + anchor.width - width) / 2
      let last ← sub (Rect.right area) width
      clamp desiredX area.x last
    | .topLeft | .bottomLeft => some area.x
    | .topRight | .bottomRight => add maxU16 area.x (area.width - width)
  let warningOffset := if offsetForWarning then 1 else 0
  let (y, height) ←
    match position with
    | .island => islandRows area height warningOffset capsule tabBarPosition
    | .topLeft | .topRight => do
      let y ← add maxU16 area.y (min warningOffset area.height)
      some (y, height)
    | .bottomLeft | .bottomRight => do
      let stacked ← add maxU16 height warningOffset
      let y ← add maxU16 area.y (area.height - stacked)
      some (y, height)
  some (Rect.new x y width height)

def mobileToastBannerRect (area : Rect) (offsetForWarning : Bool) : Option Rect :=
  if area.width = 0 ∨ area.height = 0 then some noRect
  else do
    let y ← add maxU16 area.y (area.height - (1 + if offsetForWarning then 1 else 0))
    some (Rect.new area.x y area.width 1)

/-- The lines of a diagnostic that are drawn. -/
def diagnosticLines (message : String) : List (List Char) :=
  (TextLines.lines message.toList).filter fun line => !line.all Detect.isWhitespace

/-- The box of the text of a line and a blank on either side. -/
def diagnosticRowRect (area : Rect) (line : List Char) (row : Nat) : Option Rect := do
  let width := min ((" " ++ String.ofList line ++ " ").utf8ByteSize % 2 ^ 16) area.width
  let x ← add maxU16 area.x (area.width - width)
  let y ← add maxU16 area.y row
  some (Rect.new x y width 1)

def diagnosticRects (area : Rect) (message : String) : Option (List Rect) :=
  ((diagnosticLines message).take area.height).zipIdx.mapM fun (line, row) =>
    diagnosticRowRect area line row

/-- What the boxes of a frame are computed from. The capsule is that of the island. -/
structure NotificationView where
  mobile : Bool
  frame : Rect
  terminalArea : Rect
  capsule : Rect
  tabBarPosition : TabBarPositionConfig
  toastPosition : ToastHerdrPosition
  clipboardPosition : ToastClipboardPosition
  toast : Option ToastNotification
  copyFeedback : Option CopyFeedback
  configDiagnostic : Option String

namespace NotificationView

variable (displayWidth : TextWidth)

/-- The box of a toast, which the view keeps for the desktop. -/
def toastRect (view : NotificationView) (toast : ToastNotification) : Option Rect :=
  if view.mobile then mobileToastBannerRect view.frame view.configDiagnostic.isSome
  else
    toastNotificationRect displayWidth view.frame toast view.configDiagnostic.isSome
      (toast.position.getD view.toastPosition) view.capsule view.tabBarPosition

def feedbackArea (view : NotificationView) : Rect :=
  if view.mobile then view.frame else view.terminalArea

def diagnosticArea (view : NotificationView) : Rect :=
  if view.mobile then view.terminalArea else view.frame

/-- The rows that copy feedback leaves to the diagnostic, and to a toast where it would lie over
it. -/
def copyFeedbackOffset (view : NotificationView) (feedback : CopyFeedback)
  (toastRect : Option Rect) : Option Nat :=
  let baseOffset := if view.configDiagnostic.isSome then 1 else 0
  match toastRect with
  | none => some baseOffset
  | some toastRect => do
    let feedbackRect ← copyFeedbackRect view.feedbackArea feedback baseOffset
      view.clipboardPosition
    some (if rectsOverlap feedbackRect toastRect then min maxU16 (baseOffset + toastRect.height)
      else baseOffset)

/-- `render_notifications`: each box with the area it is drawn on. -/
def notificationRects (view : NotificationView) : Option (List (Rect × Rect)) := do
  let diagnostics ← view.configDiagnostic.elim (some []) (diagnosticRects view.diagnosticArea)
  let toastRect ← view.toast.elim (some none) fun toast =>
    (view.toastRect displayWidth toast).map some
  let feedback ← view.copyFeedback.elim (some none) fun feedback => do
    let offset ← view.copyFeedbackOffset feedback toastRect
    let rect ← copyFeedbackRect view.feedbackArea feedback offset view.clipboardPosition
    some (some rect)
  some (diagnostics.map (fun rect => (rect, view.diagnosticArea)) ++
    toastRect.toList.map (fun rect => (rect, view.frame)) ++
    feedback.toList.map fun rect => (rect, view.feedbackArea))

end NotificationView

end Ui
