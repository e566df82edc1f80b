import VimeflowTerminal.Terminal.ManagedAgent
import VimeflowTerminal.Workspaces.Workspace

/-! What is saved of the workspaces: the tree of splits of every tab with the raw
ids of its panes, and the data of each pane. Ratios are finite numbers. -/

namespace Persist

open Layout Workspaces Terminal AgentResume

inductive DirectionSnapshot where
  | horizontal
  | vertical
  deriving DecidableEq

/-- A serializable tree of splits. -/
inductive LayoutSnapshot where
  | pane (id : Nat)
  | split (direction : DirectionSnapshot) (ratio : ℚ) (first second : LayoutSnapshot)
  deriving DecidableEq

structure PaneAgentSessionSnapshot where
  source : String
  agent : String
  kind : AgentSessionRefKind
  value : String
  deriving DecidableEq

structure PaneSnapshot where
  label : Option String
  agentName : Option String
  managedAgentKind : Option String
  agentSession : Option PaneAgentSessionSnapshot
  launchArgv : Option (List String)
  deriving DecidableEq

structure TabSnapshot where
  customName : Option String
  layout : LayoutSnapshot
  panes : FinMap Nat PaneSnapshot
  zoomed : Bool
  focused : Option Nat
  rootPane : Option Nat
  deriving DecidableEq

structure WorkspaceSnapshot where
  id : Option String
  customName : Option String
  worktreeSpace : Option WorktreeSpaceMembership
  publicPaneNumbers : FinMap Nat Nat
  nextPublicPaneNumber : Nat
  publicTabNumbers : List Nat
  nextPublicTabNumber : Nat
  tabs : List TabSnapshot
  activeTab : Nat
  deriving DecidableEq

structure SessionSnapshot where
  workspaces : List WorkspaceSnapshot
  active : Option Nat
  selected : Nat
  deriving DecidableEq

namespace LayoutSnapshot

/-- The leaves from left to right. -/
def collectPaneIds : LayoutSnapshot → List Nat
  | .pane id => [id]
  | .split _ _ first second => first.collectPaneIds ++ second.collectPaneIds

theorem length_pos (layout : LayoutSnapshot) : 0 < layout.collectPaneIds.length := by
  induction layout with
  | pane => exact Nat.one_pos
  | split _ _ first second ihFirst _ =>
    rw [collectPaneIds, List.length_append]
    omega

end LayoutSnapshot

def captureDirection : Direction → DirectionSnapshot
  | .horizontal => .horizontal
  | .vertical => .vertical

def captureNode : Node → LayoutSnapshot
  | .pane id => .pane id.raw
  | .split direction ratio first second =>
    .split (captureDirection direction) ratio (captureNode first) (captureNode second)

def managedAgentLaunchPending (terminal : TerminalState) : Bool :=
  terminal.managedAgent.any fun managed =>
    match managed.phase with
    | .pending .. => true
    | .active => false

/-- The session of the hook authority, or else the persisted one. -/
def captureAgentSession (terminal : TerminalState) : Option PaneAgentSessionSnapshot :=
  let reported := terminal.hookAuthority.bind fun authority =>
    authority.sessionRef.map fun sessionRef =>
      (⟨authority.source, authority.agentLabel, sessionRef.kind, sessionRef.value⟩ :
        PaneAgentSessionSnapshot)
  reported.or (terminal.persistedAgentSession.map fun session =>
    ⟨session.source, session.agent, session.sessionRef.kind, session.sessionRef.value⟩)

/-- The data of a pane. The name of an agent that is still being launched is not saved. -/
def capturePane (terminal : Option TerminalState) : PaneSnapshot :=
  let launched := terminal.filter fun terminal => !managedAgentLaunchPending terminal
  { label := terminal.bind (·.manualLabel)
    agentName := launched.bind (·.agentName)
    managedAgentKind := launched.bind fun terminal =>
      terminal.managedAgent.map fun managed => Detect.agentLabel managed.kind
    agentSession := terminal.bind captureAgentSession
    launchArgv := terminal.bind (·.launchArgv) }

def captureTab (terminals : FinMap TerminalId TerminalState) (tab : Tab) : TabSnapshot where
  customName := tab.customName
  layout := captureNode tab.layout.root
  panes := FinMap.ofPairs (tab.panes.entries.map fun e =>
    (e.1.raw, capturePane (terminals.lookup e.2.attachedTerminalId)))
  zoomed := tab.zoomed
  focused := some tab.layout.focused.raw
  rootPane := some tab.rootPane.raw

def captureWorkspace (terminals : FinMap TerminalId TerminalState) (ws : Workspace) :
  WorkspaceSnapshot where
  id := some ws.id
  customName := ws.customName
  worktreeSpace := ws.worktreeSpace
  publicPaneNumbers := FinMap.ofPairs (ws.publicPaneNumbers.entries.map fun e => (e.1.raw, e.2))
  nextPublicPaneNumber := ws.nextPublicPaneNumber
  publicTabNumbers := ws.tabs.map (·.number)
  nextPublicTabNumber := ws.nextPublicTabNumber
  tabs := ws.tabs.map (captureTab terminals)
  activeTab := ws.activeTab

def capture (workspaces : List Workspace) (terminals : FinMap TerminalId TerminalState)
  (active : Option Nat) (selected : Nat) : SessionSnapshot where
  workspaces := workspaces.map (captureWorkspace terminals)
  active
  selected

end Persist
