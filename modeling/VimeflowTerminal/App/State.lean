import VimeflowTerminal.App.Island
import VimeflowTerminal.Data.Text
import VimeflowTerminal.Terminal.Transitions
import VimeflowTerminal.Workspaces.Operations

/-! The tree of workspaces with its two positional indices and the terminals
attached to the panes, the tables that refer to panes and workspaces, the
notification island, and the modal part of the user interface. -/

namespace App

open Layout Workspaces Terminal

/-- The workspaces and the terminals. -/
structure Tree where
  workspaces : List Workspace
  active : Option Nat
  selected : Nat
  terminals : FinMap TerminalId TerminalState
  ids : IdCounters

structure PaneFocusTarget where
  workspaceId : String
  paneId : PaneId
  deriving DecidableEq

structure PendingAgentNotification where
  paneId : PaneId
  workspaceId : String
  agentLabel : String
  knownAgent : Option Detect.Agent
  kind : ToastKind
  state : Detect.AgentState
  deliverStockToast : Bool
  deadline : Instant
  deriving DecidableEq

inductive Mode where
  | onboarding
  | releaseNotes
  | productAnnouncement
  | navigate
  | prefixKey
  | copy
  | terminal
  | renameWorkspace
  | renameTab
  | renamePane
  | newLinkedWorktree
  | openExistingWorktree
  | confirmRemoveWorktree
  | resize
  | agents
  | confirmClose
  | contextMenu
  | settings
  | globalMenu
  | keybindHelp
  | navigator
  deriving DecidableEq

/-- What a context menu was opened on. -/
inductive ContextMenuKind where
  | workspace (wsIdx : Nat)
  | gitWorkspace (wsIdx : Nat) (isLinkedWorktree hasWorktreeChildren collapsed : Bool)
  | tab (wsIdx tabIdx : Nat)
  | pane (wsIdx tabIdx : Nat) (paneId : PaneId) (sourcePaneId : Option PaneId)
      (hasManualLabel : Bool)
  deriving DecidableEq

inductive ToastDelivery where
  | off
  | herdr
  | terminal
  | system
  deriving DecidableEq

structure Config where
  confirmClose : Bool
  tabBarStyle : TabBarStyleConfig
  islandArrivals : IslandArrivalsConfig
  toastDelaySeconds : Nat
  toastDelivery : ToastDelivery

/-- The whole state. -/
structure AppState extends Tree, Island where
  config : Config
  outerTerminalFocus : Option Bool
  paneIdAliases : FinMap Nat PaneId
  publicPaneIdAliases : FinMap String PaneId
  previousPaneFocus : Option PaneFocusTarget
  pendingAgentNotifications : FinMap PaneId PendingAgentNotification
  nextAgentStateChangeSeq : Nat
  mode : Mode
  contextMenu : Option ContextMenuKind
  renamePaneTarget : Option PaneId
  nameInput : String
  creatingNewTab : Bool
  pendingWorkspaceCreateCwd : Option String
  requestNewLinkedWorktree : Option Nat
  requestRemoveLinkedWorktree : Option Nat
  requestOpenExistingWorktree : Option Nat
  collapsedSpaceKeys : List String

/-- The answer to an API request: success, or an error code with its message. -/
inductive Response where
  | success
  | error (code message : String)
  deriving DecidableEq

namespace Tree

/-- No workspaces yet. -/
def empty : Tree := ⟨[], none, 0, ∅, IdCounters.initial⟩

/-- The workspace a pane lives in, with its index. -/
def findPane (t : Tree) (paneId : PaneId) : Option (Nat × PaneState) :=
  (t.workspaces.findIdx? fun ws => (ws.paneState paneId).isSome).bind fun wsIdx =>
    (t.workspaces[wsIdx]?.bind fun ws => ws.paneState paneId).map fun pane => (wsIdx, pane)

def position (t : Tree) (workspaceId : String) : Option Nat :=
  t.workspaces.findIdx? fun ws => ws.id = workspaceId

/-- Change the workspace at an index in place. -/
def updateWorkspace (t : Tree) (wsIdx : Nat) (update : Workspace → Workspace) : Tree :=
  match t.workspaces[wsIdx]? with
  | none => t
  | some ws => { t with workspaces := t.workspaces.set wsIdx (update ws) }

/-- The panes of all workspaces with the terminals attached to them. -/
def attachments (t : Tree) : List (PaneId × TerminalId) :=
  t.workspaces.flatMap Workspace.attachments

end Tree

namespace AppState

/-- The state of a program that has just started. -/
def initial (config : Config) : AppState where
  toTree := Tree.empty
  toIsland := Island.initial
  config
  outerTerminalFocus := none
  paneIdAliases := ∅
  publicPaneIdAliases := ∅
  previousPaneFocus := none
  pendingAgentNotifications := ∅
  nextAgentStateChangeSeq := 0
  mode := .navigate
  contextMenu := none
  renamePaneTarget := none
  nameInput := ""
  creatingNewTab := false
  pendingWorkspaceCreateCwd := none
  requestNewLinkedWorktree := none
  requestRemoveLinkedWorktree := none
  requestOpenExistingWorktree := none
  collapsedSpaceKeys := []

end AppState

open Layout Workspaces Text

/-- The first number past `u32::MAX`. -/
def u32Limit : Nat := 2 ^ 32

def checkedPred (number : Nat) : Option Nat := if number = 0 then none else some (number - 1)

/-- A number that counts from one, as an index. -/
def parseIndex (text : String) : Option Nat := (parseUnsigned usizeLimit text).bind checkedPred

/-- The pane registered under a public number. -/
def paneWithNumber (ws : Workspace) (number : Nat) : Option PaneId :=
  ws.publicPaneNumbers.entries.findSome? fun e => if e.2 = number then some e.1 else none

namespace Tree

/-- Indexing past the end stops the program. -/
def publicWorkspaceId (t : Tree) (wsIdx : Nat) : Option String :=
  t.workspaces[wsIdx]?.map (·.id)

def publicTabId (t : Tree) (wsIdx tabIdx : Nat) : Option String := do
  let ws ← t.workspaces[wsIdx]?
  let tabNumber ← ws.publicTabNumber tabIdx
  some (publicTabIdForNumber ws.id tabNumber)

def publicPaneId (t : Tree) (wsIdx : Nat) (paneId : PaneId) : Option String := do
  let ws ← t.workspaces[wsIdx]?
  let paneNumber ← ws.publicPaneNumber paneId
  some (publicPaneIdForNumber ws.id paneNumber)

/-- The older forms of workspace ids are not checked against the list. -/
def parseWorkspaceId (t : Tree) (id : String) : Option Nat :=
  (t.position id).or (((stripPrefix "w_" id).bind parseIndex).or (parseIndex id))

def paneOfNumber (t : Tree) (wsIdx number : Nat) : Option (Nat × PaneId) := do
  let ws ← t.workspaces[wsIdx]?
  let paneId ← paneWithNumber ws number
  some (wsIdx, paneId)

end Tree

namespace AppState

variable (s : AppState)

def resolveRawPaneId (raw : Nat) : Option PaneId :=
  match s.paneIdAliases.lookup raw with
  | some aliased => (s.findPane aliased).map fun _ => aliased
  | none => (s.findPane ⟨raw⟩).map fun _ => ⟨raw⟩

def parseLegacyPaneId (rest : String) : Option (Nat × PaneId) :=
  match rsplitOnce "_" rest with
  | some (wsRaw, paneRaw) => do
    let wsIdx ← s.parseWorkspaceId wsRaw
    let raw ← parseUnsigned u32Limit paneRaw
    let paneId ← s.resolveRawPaneId raw
    let ws ← s.workspaces[wsIdx]?
    let _ ← ws.paneState paneId
    some (wsIdx, paneId)
  | none => do
    let raw ← parseUnsigned u32Limit rest
    let paneId ← s.resolveRawPaneId raw
    let (wsIdx, _) ← s.findPane paneId
    some (wsIdx, paneId)

/-- Aliases are looked up first, then the forms `p_…`, `…:p…` and `…-…`. -/
def parsePaneId (id : String) : Option (Nat × PaneId) :=
  match s.publicPaneIdAliases.lookup id with
  | some aliased => (s.findPane aliased).map fun (wsIdx, _) => (wsIdx, aliased)
  | none =>
    match stripPrefix "p_" id with
    | some rest => s.parseLegacyPaneId rest
    | none =>
      match rsplitOnce ":p" id with
      | some (wsRaw, numberRaw) => do
        let wsIdx ← s.parseWorkspaceId wsRaw
        let number ← decodePublicNumber numberRaw
        s.paneOfNumber wsIdx number
      | none => do
        let (wsRaw, numberRaw) ← rsplitOnce "-" id
        let wsIdx ← s.parseWorkspaceId wsRaw
        let number ← parseUnsigned usizeLimit numberRaw
        s.paneOfNumber wsIdx number

end AppState

end App
