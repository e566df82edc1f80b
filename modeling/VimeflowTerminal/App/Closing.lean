import VimeflowTerminal.App.Focus

/-! The end of panes and workspaces: which records are dropped with them, and how
the two positional indices are repaired. -/

namespace App

open Layout Workspaces

namespace Tree

variable (t : Tree)

def terminalIdsForWorkspace (wsIdx : Nat) : List TerminalId :=
  (t.workspaces[wsIdx]?.map fun ws => ws.attachments.map Prod.snd).getD []

def paneIdsForWorkspace (wsIdx : Nat) : List PaneId :=
  (t.workspaces[wsIdx]?.map fun ws => ws.tabs.flatMap fun tab => tab.layout.paneIds).getD []

def terminalIdsForTab (wsIdx tabIdx : Nat) : List TerminalId :=
  ((t.workspaces[wsIdx]?.bind fun ws => ws.tabs[tabIdx]?).map fun tab =>
    tab.attachments.map Prod.snd).getD []

def paneIdsForTab (wsIdx tabIdx : Nat) : List PaneId :=
  ((t.workspaces[wsIdx]?.bind fun ws => ws.tabs[tabIdx]?).map fun tab =>
    tab.layout.paneIds).getD []

def terminalIdForPane (wsIdx : Nat) (paneId : PaneId) : Option TerminalId :=
  (t.workspaces[wsIdx]?.bind fun ws => ws.paneState paneId).map (·.attachedTerminalId)

/-- Drop the terminals that no pane is attached to any more. -/
def removeUnattachedTerminalIds (terminalIds : List TerminalId) : Tree :=
  let remove (terminals : FinMap TerminalId Terminal.TerminalState) (id : TerminalId) :=
    if id ∈ t.attachments.map Prod.snd then terminals else terminals.erase id
  { t with terminals := terminalIds.foldl remove t.terminals }

/-- The indices of the workspaces grouped under a worktree key. -/
def worktreeGroup (key : String) : List Nat :=
  (List.range t.workspaces.length).filter fun idx =>
    ((t.workspaces[idx]?.bind (·.worktreeSpace)).map (·.key)) = some key

/-- The space of a workspace that is the parent of a worktree group. -/
def parentSpace (wsIdx : Nat) : Option WorktreeSpaceMembership :=
  (t.workspaces[wsIdx]?.bind (·.worktreeSpace)).filter fun space => !space.isLinkedWorktree

/-- Closing the parent of a group closes the whole group. -/
def closeIndices : List Nat :=
  match t.parentSpace t.selected with
  | none => [t.selected]
  | some space =>
    let indices := t.worktreeGroup space.key
    if 2 ≤ indices.length then indices else [t.selected]

def removeWorkspaces (indices : List Nat) : List Workspace :=
  indices.reverse.foldl (fun workspaces idx => workspaces.eraseIdx idx) t.workspaces

/-- The indices after some workspaces are gone: the active workspace stays
selected if it is still there, and becomes active again. -/
def settleAfterClose (activeWorkspaceId : Option String) : Tree :=
  if t.workspaces.isEmpty then { t with active := none, selected := 0 }
  else
    let selected := (activeWorkspaceId.bind t.position).getD t.selected
    let selected := if t.workspaces.length ≤ selected then t.workspaces.length - 1 else selected
    { t with active := some selected, selected }

def activeWorkspaceId : Option String := t.active.bind t.publicWorkspaceId

/-- The tree without the selected workspace, or its group. -/
def closeSelectedWorkspace : Tree :=
  if t.workspaces.isEmpty then t
  else
    let terminalIds := t.closeIndices.flatMap t.terminalIdsForWorkspace
    let rest := { t with workspaces := t.removeWorkspaces t.closeIndices }
    (rest.removeUnattachedTerminalIds terminalIds).settleAfterClose t.activeWorkspaceId

/-- The indices after the workspace of a dead pane is gone: both follow their
workspaces, and stay in range if these are gone. -/
def settleAfterPaneDied (activeWorkspaceId selectedWorkspaceId : Option String) : Tree :=
  if t.workspaces.isEmpty then { t with active := none, selected := 0 }
  else
    let active := ((activeWorkspaceId.bind t.position).map some).getD t.active
    let active := active.map fun active => min active (t.workspaces.length - 1)
    let selected := (selectedWorkspaceId.bind t.position).getD t.selected
    { t with active, selected := min selected (t.workspaces.length - 1) }

/-- The workspace that contains a pane. -/
def workspaceOfPane (paneId : PaneId) : Option Nat :=
  t.workspaces.findIdx? fun ws => (ws.findTabIndexForPane paneId).isSome

/-- The tree after a pane has died. -/
def paneDied (paneId : PaneId) : Tree :=
  match t.workspaceOfPane paneId with
  | none => t
  | some wsIdx =>
    match t.workspaces[wsIdx]? with
    | none => t
    | some ws =>
      let (ws', shouldCloseWorkspace) := ws.removePane paneId
      let terminalIds :=
        if shouldCloseWorkspace then t.terminalIdsForWorkspace wsIdx
        else (t.terminalIdForPane wsIdx paneId).toList
      let rest := { t with workspaces := t.workspaces.set wsIdx ws' }
      if shouldCloseWorkspace then
        let rest := { rest with workspaces := rest.workspaces.eraseIdx wsIdx }
        (rest.removeUnattachedTerminalIds terminalIds).settleAfterPaneDied t.activeWorkspaceId
          (t.publicWorkspaceId t.selected)
      else rest.removeUnattachedTerminalIds terminalIds

def workspaceCloseWouldCloseWorktreeGroup (wsIdx : Nat) : Bool :=
  match t.parentSpace wsIdx with
  | none => false
  | some space => 2 ≤ (t.worktreeGroup space.key).length

def closePaneWouldCloseWorkspace (wsIdx : Nat) (paneId : PaneId) : Bool :=
  match t.workspaces[wsIdx]? with
  | none => false
  | some ws =>
    match ws.findTabForPane paneId with
    | none => false
    | some (_, tab) => tab.layout.paneCount ≤ 1 && ws.tabs.length ≤ 1

end Tree

namespace AppState

variable (s : AppState)

/-- Drop the island records of panes that are being closed. -/
def pruneIslandRecords (paneIds : List PaneId) : AppState :=
  { s with toIsland := s.toIsland.pruneIslandRecords paneIds }

/-- Drop what is recorded about panes that are being closed. -/
def removePluginPaneRecords (paneIds : List PaneId) : AppState :=
  let s := s.pruneIslandRecords paneIds
  match s.previousPaneFocus with
  | none => s
  | some focus => if focus.paneId ∈ paneIds then { s with previousPaneFocus := none } else s

def closeSelectedWorkspace : AppState :=
  if s.workspaces.isEmpty then s
  else
    let paneIds := s.closeIndices.flatMap s.paneIdsForWorkspace
    { s.removePluginPaneRecords paneIds with toTree := s.toTree.closeSelectedWorkspace }

/-- The mode after the death of a pane: without workspaces there is no terminal. -/
def modeAfterPaneDied (t : Tree) (mode : Mode) : Mode :=
  if t.workspaces.isEmpty ∧ mode = .terminal then .navigate else mode

/-- A pane's process has ended. -/
def handlePaneDied (paneId : PaneId) : AppState :=
  let s := { s with
    pendingAgentNotifications := s.pendingAgentNotifications.erase paneId }
  let s := s.removePluginPaneRecords [paneId]
  match s.workspaceOfPane paneId with
  | none => s
  | some _ =>
    let t := s.toTree.paneDied paneId
    { s with
      paneIdAliases := s.paneIdAliases.retain fun _ aliased => aliased ≠ paneId
      publicPaneIdAliases := s.publicPaneIdAliases.retain fun _ aliased => aliased ≠ paneId
      toTree := t
      mode := modeAfterPaneDied t s.mode }

/-- Ask before a close that would take a worktree group along. -/
def confirmImplicitWorktreeGroupClose (wsIdx : Nat) : AppState × Bool :=
  if s.config.confirmClose && s.workspaceCloseWouldCloseWorktreeGroup wsIdx then
    ({ s with selected := wsIdx, mode := .confirmClose }, true)
  else (s, false)

def removeAliasShadowedByNewPane (paneId : PaneId) : AppState :=
  { s with paneIdAliases := s.paneIdAliases.erase paneId.raw }

end AppState

namespace Tree

variable (t : Tree)

/-- The same workspaces in another order: both indices follow their workspaces. -/
def reordered (workspaces : List Workspace) : Tree :=
  let t' := { t with workspaces }
  { t' with
    active := t.activeWorkspaceId.bind t'.position
    selected := ((t.publicWorkspaceId t.selected).bind t'.position).getD 0 }

def moveWorkspace (sourceIdx insertIdx : Nat) : Tree × Bool :=
  match t.workspaces[sourceIdx]? with
  | none => (t, false)
  | some ws =>
    if t.workspaces.length < insertIdx then (t, false)
    else
      let targetIdx := if sourceIdx < insertIdx then insertIdx - 1 else insertIdx
      if sourceIdx = targetIdx then (t, false)
      else (t.reordered ((t.workspaces.eraseIdx sourceIdx).insertIdx targetIdx ws), true)

/-- The order that puts a block of workspaces before another workspace, or last. -/
def desiredIds (workspaceIds : List String) (before : Option String) : List String :=
  let rest := (t.workspaces.map (·.id)).filter (· ∉ workspaceIds)
  let insertIdx := (before.bind fun id => rest.findIdx? (· = id)).getD rest.length
  rest.take insertIdx ++ workspaceIds ++ rest.drop insertIdx

def isWorkspaceBlock (workspaceIds : List String) (before : Option String) : Bool :=
  !workspaceIds.isEmpty && decide workspaceIds.Nodup
    && workspaceIds.all (fun id => (t.position id).isSome)
    && before.all fun id => id ∉ workspaceIds && (t.position id).isSome

/-- Sort the workspaces by their place in a list of ids. -/
def sortByIds (ids : List String) (workspaces : List Workspace) : List Workspace :=
  workspaces.insertionSort fun ws ws' => ids.idxOf ws.id ≤ ids.idxOf ws'.id

def moveWorkspaceBlock (workspaceIds : List String) (before : Option String) : Tree × Bool :=
  if !t.isWorkspaceBlock workspaceIds before then (t, false)
  else
    let ids := t.desiredIds workspaceIds before
    if t.workspaces.map (·.id) = ids then (t, false)
    else (t.reordered (sortByIds ids t.workspaces), true)

end Tree

end App
