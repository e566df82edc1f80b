import VimeflowTerminal.App.State

/-! Switching workspaces and tabs, focusing panes, and remembering the pane that
had the focus before. -/

namespace App

open Layout Workspaces

namespace Tree

def currentPaneFocusTarget (t : Tree) : Option PaneFocusTarget := do
  let wsIdx ← t.active
  let ws ← t.workspaces[wsIdx]?
  let paneId ← ws.focusedPaneId
  some ⟨ws.id, paneId⟩

def switchWorkspace (t : Tree) (idx : Nat) : Tree :=
  match t.workspaces[idx]? with
  | none => t
  | some ws =>
    { t with
      active := some idx
      selected := idx
      workspaces := t.workspaces.set idx (ws.switchTab ws.activeTab) }

def switchWorkspaceTab (t : Tree) (wsIdx tabIdx : Nat) : Tree :=
  match t.workspaces[wsIdx]? with
  | none => t
  | some ws =>
    if ws.tabs.length ≤ tabIdx then t
    else
      { t with
        active := some wsIdx
        selected := wsIdx
        workspaces := t.workspaces.set wsIdx (ws.switchTab tabIdx) }

def focusPaneInTab (t : Tree) (wsIdx tabIdx : Nat) (paneId : PaneId) : Tree :=
  t.updateWorkspace wsIdx fun ws => ws.updateTab tabIdx fun tab => tab.focusPane paneId

def paneIsInActiveTab (t : Tree) (wsIdx : Nat) (paneId : PaneId) : Bool :=
  match t.active, t.workspaces[wsIdx]? with
  | some active, some ws =>
    active = wsIdx && decide (ws.findTabIndexForPane paneId = some ws.activeTab)
  | _, _ => false

end Tree

namespace AppState

variable (s : AppState)

def recordPaneFocusTransition (previous : Option PaneFocusTarget) : AppState :=
  { s with previousPaneFocus := previous }

def recordPaneFocusChange (previous : Option PaneFocusTarget) (wsIdx : Nat) (paneId : PaneId) :
  AppState :=
  match s.workspaces[wsIdx]? with
  | none => s
  | some ws =>
    if previous = some ⟨ws.id, paneId⟩ then s else s.recordPaneFocusTransition previous

def recordPaneFocusAfterNavigation (previous : Option PaneFocusTarget) : AppState :=
  if previous = s.currentPaneFocusTarget then s else s.recordPaneFocusTransition previous

def switchWorkspace (idx : Nat) : AppState :=
  if idx < s.workspaces.length then
    ({ s with toTree := s.toTree.switchWorkspace idx } : AppState).recordPaneFocusAfterNavigation
      s.currentPaneFocusTarget
  else s

def switchWorkspaceTab (wsIdx tabIdx : Nat) : AppState :=
  match s.workspaces[wsIdx]? with
  | none => s
  | some ws =>
    if ws.tabs.length ≤ tabIdx then s
    else
      ({ s with toTree := s.toTree.switchWorkspaceTab wsIdx tabIdx } :
        AppState).recordPaneFocusAfterNavigation s.currentPaneFocusTarget

/-- Focus a pane of a workspace, unless it has the focus. -/
def focusPaneInWorkspace (wsIdx : Nat) (paneId : PaneId) : AppState :=
  match s.workspaces[wsIdx]? with
  | none => s
  | some ws =>
    match ws.findTabIndexForPane paneId with
    | none => s
    | some tabIdx =>
      let previous := s.currentPaneFocusTarget
      if previous = some ⟨ws.id, paneId⟩ then s
      else
        let t := (s.switchWorkspaceTab wsIdx tabIdx).focusPaneInTab wsIdx tabIdx paneId
        ({ s with toTree := t } : AppState).recordPaneFocusTransition previous

def settleTerminalModeAfterFocus : AppState := { s with mode := .terminal }

end AppState

end App
