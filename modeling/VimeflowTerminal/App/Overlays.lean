import VimeflowTerminal.App.Closing

/-! An overlay is a zoomed pane split off the focused one. When its process ends, the focus and the
zoom of before are restored, at the position that was recorded when the overlay opened. -/

namespace Workspaces

open Layout

namespace Workspace

/-- Split the focused pane of the active tab. -/
def splitFocusedCommand (ws : Workspace) (direction : Direction) (spawned : Bool)
  (ids : IdCounters) : IdCounters × Workspace × Option NewPane :=
  let paneNumber := ws.nextPublicPaneNumber
  match ws.activeTab? with
  | none => (ids, ws, none)
  | some tab =>
    match tab.splitFocusedWithRuntime direction none spawned ids with
    | (ids, tab, none) => (ids, { ws with tabs := ws.tabs.set ws.activeTab tab }, none)
    | (ids, tab, some newPane) =>
      let ws := { ws with tabs := ws.tabs.set ws.activeTab tab }
      (ids, ws.registerNewPaneWithNumber newPane.paneId paneNumber, some newPane)

end Workspace

end Workspaces

namespace App

open Layout Workspaces Terminal Transition

/-- Where an overlay was opened, and what was focused and zoomed before. -/
structure OverlayPaneState where
  wsIdx : Nat
  tabIdx : Nat
  previousFocus : PaneId
  previousZoomed : Bool
  deriving DecidableEq

/-- The state of the program with the records of its overlay panes. -/
structure OverlayApp where
  state : AppState
  overlayPanes : FinMap PaneId OverlayPaneState

inductive PaneZoomCommand where
  | toggle
  | on
  | off
  deriving DecidableEq

/-- The tab of an overlay with the focus and the zoom of before. -/
def OverlayPaneState.restoredTab (overlay : OverlayPaneState) (tab : Tab) : Tab :=
  let tab := if overlay.previousFocus ∈ tab.panes then tab.focusPane overlay.previousFocus else tab
  { tab with zoomed := overlay.previousZoomed }

namespace Tree

variable (t : Tree)

/-- The tab at a position. -/
def tabAt (wsIdx tabIdx : Nat) : Option Tab := t.workspaces[wsIdx]?.bind fun ws => ws.tabs[tabIdx]?

def updateTab (wsIdx tabIdx : Nat) (update : Tab → Tab) : Tree :=
  t.updateWorkspace wsIdx fun ws => ws.updateTab tabIdx update

def putWorkspace (wsIdx : Nat) (ws : Workspace) (ids : IdCounters) : Tree :=
  { t with workspaces := t.workspaces.set wsIdx ws, ids }

def isActivePane (wsIdx tabIdx : Nat) (paneId : PaneId) : Bool :=
  decide (t.active = some wsIdx) &&
    t.workspaces[wsIdx]?.any fun ws =>
      decide (ws.activeTab = tabIdx) && decide (ws.focusedPaneId = some paneId)

/-- `restore_overlay_after_exit`, on the tree. -/
def restoreOverlayAfterExit (overlay : OverlayPaneState)
  (wasOverlayActive wasOverlayFocusedInTab : Bool) (tabZoomedBeforeExit : Option Bool) : Tree :=
  match t.workspaces[overlay.wsIdx]? with
  | none => t
  | some ws =>
    if ws.tabs.length ≤ overlay.tabIdx then t
    else if !wasOverlayFocusedInTab then
      match tabZoomedBeforeExit with
      | none => t
      | some zoomed => t.updateTab overlay.wsIdx overlay.tabIdx fun tab => { tab with zoomed }
    else
      let t :=
        if wasOverlayActive then
          t.updateWorkspace overlay.wsIdx fun ws => { ws with activeTab := overlay.tabIdx }
        else t
      t.updateTab overlay.wsIdx overlay.tabIdx overlay.restoredTab

/-- The death of an overlay pane: the pane is removed, then the recorded position restored. -/
def overlayDied (paneId : PaneId) (overlay : OverlayPaneState) : Tree :=
  let tabBeforeExit := t.tabAt overlay.wsIdx overlay.tabIdx
  (t.paneDied paneId).restoreOverlayAfterExit overlay
    (t.isActivePane overlay.wsIdx overlay.tabIdx paneId)
    (tabBeforeExit.any fun tab => decide (tab.layout.focused = paneId))
    (tabBeforeExit.map (·.zoomed))

end Tree

namespace AppState

variable (s : AppState)

/-- The active workspace with its index and its active tab. -/
def activeTab? : Option (Nat × Workspace × Tab) := do
  let wsIdx ← s.active
  let ws ← s.workspaces[wsIdx]?
  let tab ← ws.activeTab?
  some (wsIdx, ws, tab)

def withTree (t : Tree) : AppState := { s with toTree := t }

def insertTerminal (newPane : NewPane) : AppState :=
  let s := { s with terminals := s.terminals.insert newPane.terminal TerminalState.new }
  s.removeAliasShadowedByNewPane newPane.paneId

def createWorkspaceWithLaunchEnv (focus spawned : Bool) : AppState :=
  match Workspace.newWithTab spawned s.ids with
  | (ids, none) => { s with ids }
  | (ids, some (ws, newPane)) =>
    let idx := s.workspaces.length
    let created := s.withTree { s.toTree with ids, workspaces := s.workspaces ++ [ws] }
    let created := created.insertTerminal newPane
    if focus ∨ s.active = none then { created.switchWorkspace idx with mode := .terminal }
    else created

/-- Create a tab. A workspace without tabs stops the program. -/
def createTab (wsIdx : Nat) (label : Option String) (focus spawned : Bool) : Option AppState :=
  match s.workspaces[wsIdx]? with
  | none => some s
  | some ws =>
    (ws.createTabWithRuntime spawned s.ids).map fun
      | (ids, ws, none) => s.withTree (s.putWorkspace wsIdx ws ids)
      | (ids, ws, some (tabIdx, newPane)) =>
        let ws := label.elim ws fun label => ws.updateTab tabIdx (·.setCustomName label)
        let created := (s.withTree (s.putWorkspace wsIdx ws ids)).insertTerminal newPane
        if focus then { created.switchWorkspaceTab wsIdx tabIdx with mode := .terminal }
        else created

def moveTab (wsIdx tabIdx insertIdx : Nat) : AppState :=
  s.withTree (s.updateWorkspace wsIdx fun ws => (ws.moveTab tabIdx insertIdx).1)

def selectWorkspace (wsIdx : Nat) : AppState := { s with selected := wsIdx }

/-- Close a workspace, with its group if it is the parent of one. -/
def closeWorkspace (wsIdx : Nat) : AppState :=
  if s.workspaces.length ≤ wsIdx then s
  else
    let paneIds := s.paneIdsForWorkspace wsIdx
    (s.selectWorkspace wsIdx).closeSelectedWorkspace.removePluginPaneRecords paneIds

/-- Close a tab. The last one takes the workspace along. -/
def closeTab (wsIdx tabIdx : Nat) : AppState :=
  match s.workspaces[wsIdx]? with
  | none => s
  | some ws =>
    if ws.tabs.length ≤ tabIdx then s
    else
      let paneIds := s.paneIdsForTab wsIdx tabIdx
      if ws.tabs.length ≤ 1 then
        match s.confirmImplicitWorktreeGroupClose wsIdx with
        | (asked, true) => asked
        | (s, false) =>
          (s.selectWorkspace wsIdx).closeSelectedWorkspace.removePluginPaneRecords paneIds
      else
        let terminalIds := s.terminalIdsForTab wsIdx tabIdx
        let closed := s.putWorkspace wsIdx (ws.closeTab tabIdx).1 s.ids
        let s := s.withTree (closed.removeUnattachedTerminalIds terminalIds)
        s.removePluginPaneRecords paneIds

def closePane (wsIdx : Nat) (paneId : PaneId) : AppState :=
  let (s, deferred) :=
    if s.closePaneWouldCloseWorkspace wsIdx paneId then s.confirmImplicitWorktreeGroupClose wsIdx
    else (s, false)
  if deferred then s
  else
    match s.workspaces[wsIdx]? with
    | none => s
    | some ws =>
      let terminalIds := (s.terminalIdForPane wsIdx paneId).toList
      let (ws, shouldCloseWorkspace) := ws.closePane paneId
      let closed := (s.withTree (s.putWorkspace wsIdx ws s.ids)).removePluginPaneRecords [paneId]
      if shouldCloseWorkspace then (closed.selectWorkspace wsIdx).closeSelectedWorkspace
      else closed.withTree (closed.removeUnattachedTerminalIds terminalIds)

def splitPane (wsIdx : Nat) (paneId : PaneId) (direction : Direction) (ratio : Option (Option ℚ))
  (focus spawned : Bool) : AppState :=
  match s.workspaces[wsIdx]? with
  | none => s
  | some ws =>
    match ws.splitPaneWithRuntime paneId direction ratio focus spawned s.ids with
    | (ids, ws, some (some (tabIdx, newPane))) =>
      let previous := s.currentPaneFocusTarget
      let split := s.withTree (s.putWorkspace wsIdx ws ids)
      let split :=
        if focus then
          let focused := split.switchWorkspaceTab wsIdx tabIdx
          let focused := focused.recordPaneFocusChange previous wsIdx newPane.paneId
          focused.settleTerminalModeAfterFocus
        else split
      split.insertTerminal newPane
    | (ids, ws, _) => s.withTree (s.putWorkspace wsIdx ws ids)

/-- Focus a pane and set the zoom of its tab. A tab of one pane is not zoomed. -/
def applyPaneZoom (wsIdx : Nat) (paneId : PaneId) (command : PaneZoomCommand) : AppState :=
  match s.workspaces[wsIdx]?.bind fun ws => ws.findTabIndexForPane paneId with
  | none => s
  | some tabIdx =>
    let focused := s.focusPaneInWorkspace wsIdx paneId
    let zoom (tab : Tab) : Tab :=
      if tab.layout.paneCount ≤ 1 then tab
      else
        { tab with
          zoomed := match command with
            | .toggle => !tab.zoomed
            | .on => true
            | .off => false }
    focused.withTree (focused.updateTab wsIdx tabIdx zoom)

/-- Open an overlay for a command. -/
def spawnPaneCommand (spawned : Bool) : AppState × Option (PaneId × OverlayPaneState) :=
  match s.activeTab? with
  | none => (s, none)
  | some (wsIdx, ws, tab) =>
    match ws.splitFocusedCommand .horizontal spawned s.ids with
    | (ids, ws, none) => (s.withTree (s.putWorkspace wsIdx ws ids), none)
    | (ids, ws, some newPane) =>
      let ws := ws.updateTab ws.activeTab fun tab =>
        { tab.focusPane newPane.paneId with zoomed := true }
      let previous := s.currentPaneFocusTarget
      let opened := (s.withTree (s.putWorkspace wsIdx ws ids)).insertTerminal newPane
      let opened := opened.recordPaneFocusChange previous wsIdx newPane.paneId
      ({ opened with mode := .terminal },
        some (newPane.paneId, ⟨wsIdx, ws.activeTab, tab.layout.focused, tab.zoomed⟩))

/-- Open an overlay for the command of a plugin. -/
def spawnOverlayArgvCommand (spawned : Bool) : AppState × Option (PaneId × OverlayPaneState) :=
  match s.activeTab? with
  | none => (s, none)
  | some (wsIdx, ws, tab) =>
    let previousFocus := tab.layout.focused
    match ws.splitPaneWithRuntime previousFocus .horizontal none true spawned s.ids with
    | (ids, ws, some (some (tabIdx, newPane))) =>
      let ws := ws.updateTab tabIdx fun tab => { tab with zoomed := true }
      let previous := s.currentPaneFocusTarget
      let opened := s.withTree (s.putWorkspace wsIdx ws ids)
      let opened := opened.recordPaneFocusChange previous wsIdx newPane.paneId
      let opened := (opened.switchWorkspaceTab wsIdx tabIdx).insertTerminal newPane
      ({ opened with mode := .terminal },
        some (newPane.paneId, ⟨wsIdx, tabIdx, previousFocus, tab.zoomed⟩))
    | (ids, ws, _) => (s.withTree (s.putWorkspace wsIdx ws ids), none)

def restoreOverlayAfterExit (overlay : OverlayPaneState)
  (wasOverlayActive wasOverlayFocusedInTab : Bool) (tabZoomedBeforeExit : Option Bool) :
  AppState :=
  let restored := s.withTree (s.toTree.restoreOverlayAfterExit overlay wasOverlayActive
    wasOverlayFocusedInTab tabZoomedBeforeExit)
  if (s.tabAt overlay.wsIdx overlay.tabIdx).isSome ∧ wasOverlayFocusedInTab ∧ wasOverlayActive ∧
      s.active = some overlay.wsIdx then { restored with mode := .terminal }
  else restored

end AppState

namespace OverlayApp

/-- What changes the tree while overlays are open. The flag of a spawn says whether the process
could be started, the one of a death whether the shell is started again in its place. -/
inductive Operation where
  | createWorkspace (focus spawned : Bool)
  | createTab (wsIdx : Nat) (label : Option String) (focus spawned : Bool)
  | moveWorkspace (sourceIdx insertIdx : Nat)
  | moveWorkspaceBlock (workspaceIds : List String) (before : Option String)
  | moveTab (wsIdx tabIdx insertIdx : Nat)
  | closeWorkspace (wsIdx : Nat)
  | closeTab (wsIdx tabIdx : Nat)
  | closePane (wsIdx : Nat) (paneId : PaneId)
  | switchWorkspace (idx : Nat)
  | switchWorkspaceTab (wsIdx tabIdx : Nat)
  | focusPane (wsIdx : Nat) (paneId : PaneId)
  | zoomPane (wsIdx : Nat) (paneId : PaneId) (command : PaneZoomCommand)
  | splitPane (wsIdx : Nat) (paneId : PaneId) (direction : Direction) (ratio : Option (Option ℚ))
      (focus spawned : Bool)
  | spawnPaneCommand (spawned : Bool)
  | spawnOverlayArgvCommand (spawned : Bool)
  | paneDied (paneId : PaneId) (respawned : Bool)

variable (app : OverlayApp)

def recordOverlay (opened : AppState × Option (PaneId × OverlayPaneState)) : OverlayApp where
  state := opened.1
  overlayPanes := opened.2.elim app.overlayPanes fun overlay =>
    app.overlayPanes.insert overlay.1 overlay.2

/-- The end of a pane's process. -/
def paneDied (paneId : PaneId) (respawned : Bool) : OverlayApp :=
  let rest := app.overlayPanes.erase paneId
  if respawned then { app with overlayPanes := rest }
  else
    let s := app.state.handlePaneDied paneId
    match app.overlayPanes.lookup paneId with
    | none => ⟨s, rest⟩
    | some overlay =>
      let wasOverlayActive := app.state.isActivePane overlay.wsIdx overlay.tabIdx paneId
      let tabBeforeExit := app.state.tabAt overlay.wsIdx overlay.tabIdx
      let wasOverlayFocusedInTab :=
        tabBeforeExit.any fun tab => decide (tab.layout.focused = paneId)
      ⟨s.restoreOverlayAfterExit overlay wasOverlayActive wasOverlayFocusedInTab
        (tabBeforeExit.map (·.zoomed)), rest⟩

def step (app : OverlayApp) : Operation → Option OverlayApp
  | .createWorkspace focus spawned =>
    some { app with state := app.state.createWorkspaceWithLaunchEnv focus spawned }
  | .createTab wsIdx label focus spawned =>
    (app.state.createTab wsIdx label focus spawned).map fun state => { app with state }
  | .moveWorkspace sourceIdx insertIdx =>
    let t := (app.state.toTree.moveWorkspace sourceIdx insertIdx).1
    some { app with state := app.state.withTree t }
  | .moveWorkspaceBlock workspaceIds before =>
    let t := (app.state.toTree.moveWorkspaceBlock workspaceIds before).1
    some { app with state := app.state.withTree t }
  | .moveTab wsIdx tabIdx insertIdx =>
    some { app with state := app.state.moveTab wsIdx tabIdx insertIdx }
  | .closeWorkspace wsIdx => some { app with state := app.state.closeWorkspace wsIdx }
  | .closeTab wsIdx tabIdx => some { app with state := app.state.closeTab wsIdx tabIdx }
  | .closePane wsIdx paneId => some { app with state := app.state.closePane wsIdx paneId }
  | .switchWorkspace idx => some { app with state := app.state.switchWorkspace idx }
  | .switchWorkspaceTab wsIdx tabIdx =>
    some { app with state := app.state.switchWorkspaceTab wsIdx tabIdx }
  | .focusPane wsIdx paneId =>
    some { app with state := app.state.focusPaneInWorkspace wsIdx paneId }
  | .zoomPane wsIdx paneId command =>
    some { app with state := app.state.applyPaneZoom wsIdx paneId command }
  | .splitPane wsIdx paneId direction ratio focus spawned =>
    some { app with state := app.state.splitPane wsIdx paneId direction ratio focus spawned }
  | .spawnPaneCommand spawned => some (app.recordOverlay (app.state.spawnPaneCommand spawned))
  | .spawnOverlayArgvCommand spawned =>
    some (app.recordOverlay (app.state.spawnOverlayArgvCommand spawned))
  | .paneDied paneId respawned => some (app.paneDied paneId respawned)

end OverlayApp

end App
