import VimeflowTerminal.Persist.Snapshot

/-! Every pane of a snapshot gets a new id. A pane comes back with a pending resume
of its agent session, with a runtime handed over by the previous process, or
with a fresh shell; panes whose runtime fails to start are dropped. -/

namespace Persist

open Layout Workspaces Terminal AgentResume

/-- What restoring depends on besides the snapshot: the configuration, which runtimes
start, the time at which each pane is restored, and which checkouts still exist. -/
structure RestoreContext where
  resumeAgentsOnRestore : Bool
  starts : PaneId → Bool
  now : PaneId → Instant
  checkoutExists : WorktreeSpaceMembership → Bool

/-- What is threaded through the loops over workspaces, tabs and panes. The imported
runtimes are known by the raw ids of their panes. -/
structure RestoreState where
  ids : IdCounters
  resumedAgentSessions : Finset String
  importedPanes : Finset Nat
  failedImports : Nat

def restoreDirection : DirectionSnapshot → Direction
  | .horizontal => .horizontal
  | .vertical => .vertical

/-- Rebuild a tree of splits with new pane ids, recording which id became which. -/
def remapInner : LayoutSnapshot → IdCounters → FinMap Nat PaneId →
  Node × IdCounters × FinMap Nat PaneId
  | .pane oldId, ids, idMap =>
    let (newId, ids) := ids.allocPaneId
    (.pane newId, ids, idMap.insert oldId newId)
  | .split direction ratio first second, ids, idMap =>
    let (firstNode, ids, idMap) := remapInner first ids idMap
    let (secondNode, ids, idMap) := remapInner second ids idMap
    (.split (restoreDirection direction) ratio firstNode secondNode, ids, idMap)

def restoreNodeRemapped (layout : LayoutSnapshot) (ids : IdCounters) :
  Node × IdCounters × FinMap Nat PaneId :=
  remapInner layout ids ∅

def reverseIdMap (idMap : FinMap Nat PaneId) : FinMap PaneId Nat :=
  FinMap.ofPairs (idMap.entries.map fun e => (e.2, e.1))

def pruneRestoredNode (surviving : List PaneId) : Node → Option Node
  | .pane id => if id ∈ surviving then some (.pane id) else none
  | .split direction ratio first second =>
    match pruneRestoredNode surviving first, pruneRestoredNode surviving second with
    | some first, some second => some (.split direction ratio first second)
    | some remaining, none => some remaining
    | none, some remaining => some remaining
    | none, none => none

/-- The pane that a saved id became, or else the first of the tab. -/
def resolveRestoredPane (savedOldId : Option Nat) (idMap : FinMap Nat PaneId)
  (surviving paneIds : List PaneId) : Option PaneId :=
  ((savedOldId.bind idMap.lookup).filter (· ∈ surviving)).or paneIds.head?

def persistedAgentSessionFromSnapshot (session : PaneAgentSessionSnapshot) :
  Option PersistedAgentSession :=
  sessionRefFromSnapshot session.source session.agent session.kind session.value

def restorePlanForSnapshot (resumeAgentsOnRestore : Bool) (session : PaneAgentSessionSnapshot) :
  Option AgentResumePlan :=
  if resumeAgentsOnRestore then
    (persistedAgentSessionFromSnapshot session).bind fun persisted =>
      plan session.source session.agent persisted.sessionRef
  else none

structure PaneRestoreStartup where
  restorePlan : Option AgentResumePlan
  duplicateAgentSession : Bool
  reservedAgentSession : Option String
  deriving DecidableEq

/-- Reserve the session before anything is started, so that no later pane resumes it too. -/
def paneRestoreStartup (resumeAgentsOnRestore : Bool) (session : Option PaneAgentSessionSnapshot)
  (resumedSessions : Finset String) : PaneRestoreStartup × Finset String :=
  match session.bind (restorePlanForSnapshot resumeAgentsOnRestore) with
  | none => (⟨none, false, none⟩, resumedSessions)
  | some plan =>
    if plan.dedupeKey ∈ resumedSessions then (⟨none, true, none⟩, resumedSessions)
    else
      (⟨some plan, false, some plan.dedupeKey⟩, insert plan.dedupeKey resumedSessions)

def restoredTerminalAgentSession (session : Option PaneAgentSessionSnapshot)
  (duplicateAgentSession : Bool) : Option PersistedAgentSession :=
  if duplicateAgentSession then none else session.bind persistedAgentSessionFromSnapshot

/-- The saved label and session, on a new terminal. -/
def withSavedIdentity (terminal : TerminalState) (label : Option String)
  (session : Option PersistedAgentSession) : TerminalState :=
  let terminal := label.elim terminal terminal.setManualLabel
  match session with
  | none => terminal
  | some session => { terminal with persistedAgentSession := some session }

/-- The agent to be resumed is shown as idle until it is detected. -/
def withInitialRestoreAgent (terminal : TerminalState) (plan : Option AgentResumePlan)
  (now : Instant) : TerminalState :=
  match plan.bind fun plan => Detect.parseAgentLabel plan.agent with
  | none => terminal
  | some agent =>
    (terminal.setDetectedStateWithScreenSignalsAt
      ⟨some agent, .idle, false, false, false, false⟩ now now).1

def savedManagedAgent (saved : Option PaneSnapshot) : Option Detect.Agent :=
  (saved.bind (·.managedAgentKind)).bind Detect.parseCanonicalAgentLabel

/-- The terminal of a pane whose agent will be resumed. -/
def deferredTerminal (saved : Option PaneSnapshot) (session : Option PersistedAgentSession)
  (plan : AgentResumePlan) (now : Instant) : TerminalState :=
  let terminal := withSavedIdentity (TerminalState.new.withPendingAgentResumePlan plan)
    (saved.bind (·.label)) session
  let terminal :=
    match saved.bind (·.agentName), savedManagedAgent saved with
    | some agentName, some agent => terminal.restoreManagedAgent agentName agent
    | some _, none => terminal
    | none, _ => terminal
  withInitialRestoreAgent terminal (some plan) now

/-- The terminal of a pane with a runtime, imported or new. -/
def startedTerminal (saved : Option PaneSnapshot) (session : Option PersistedAgentSession)
  (plan : Option AgentResumePlan) (wasImported : Bool) (now : Instant) : TerminalState :=
  let terminal :=
    match saved.bind (·.launchArgv) with
    | some argv =>
      if wasImported then (TerminalState.new.withLaunchArgv argv).withRespawnShellOnExit
      else TerminalState.new
    | none => TerminalState.new
  let terminal := withSavedIdentity terminal (saved.bind (·.label)) session
  let terminal :=
    match saved.bind (·.agentName), savedManagedAgent saved with
    | some agentName, some agent =>
      if wasImported then terminal.restoreManagedAgent agentName agent else terminal
    | some agentName, none => if wasImported then terminal.setAgentName agentName else terminal
    | none, _ => terminal
  withInitialRestoreAgent terminal plan now

/-- What became of a pane of the snapshot: the terminal made for it, if it came back. -/
structure PaneOutcome where
  paneId : PaneId
  oldId : Option Nat
  session : Option PaneAgentSessionSnapshot
  startup : PaneRestoreStartup
  wasImported : Bool
  terminal : Option (TerminalId × TerminalState)

/-- One round of the loop over the panes of a tab. -/
def restorePane (ctx : RestoreContext) (snap : TabSnapshot) (reverse : FinMap PaneId Nat)
  (id : PaneId) (st : RestoreState) : PaneOutcome × RestoreState :=
  let oldId := reverse.lookup id
  let saved := oldId.bind snap.panes.lookup
  let session := saved.bind (·.agentSession)
  let (startup, resumed) := paneRestoreStartup ctx.resumeAgentsOnRestore session
    st.resumedAgentSessions
  let restoredSession := restoredTerminalAgentSession session startup.duplicateAgentSession
  let wasImported := oldId.any (· ∈ st.importedPanes)
  let st := { st with
    resumedAgentSessions := resumed
    importedPanes := oldId.elim st.importedPanes st.importedPanes.erase }
  let outcome (terminal : Option (TerminalId × TerminalState)) : PaneOutcome :=
    ⟨id, oldId, session, startup, wasImported, terminal⟩
  match if wasImported then none else startup.restorePlan with
  | some plan =>
    let (terminalId, ids) := st.ids.allocTerminalId
    (outcome (some (terminalId, deferredTerminal saved restoredSession plan (ctx.now id))),
      { st with ids })
  | none =>
    if ctx.starts id then
      let (terminalId, ids) := st.ids.allocTerminalId
      let terminal := startedTerminal saved restoredSession startup.restorePlan wasImported
        (ctx.now id)
      (outcome (some (terminalId, terminal)), { st with ids })
    else
      (outcome none, { st with
        resumedAgentSessions :=
          startup.reservedAgentSession.elim st.resumedAgentSessions
            st.resumedAgentSessions.erase
        failedImports := if wasImported then st.failedImports + 1 else st.failedImports })

def restorePanes (ctx : RestoreContext) (snap : TabSnapshot) (reverse : FinMap PaneId Nat) :
  List PaneId → RestoreState → List PaneOutcome × RestoreState
  | [], st => ([], st)
  | id :: ids, st =>
    let (outcome, st) := restorePane ctx snap reverse id st
    let (outcomes, st) := restorePanes ctx snap reverse ids st
    (outcome :: outcomes, st)

def PaneOutcome.restoredPane (outcome : PaneOutcome) : Option (PaneId × PaneState) :=
  outcome.terminal.map fun terminal => (outcome.paneId, PaneState.new terminal.1)

def restoredPanes (outcomes : List PaneOutcome) : FinMap PaneId PaneState :=
  FinMap.ofPairs (outcomes.filterMap PaneOutcome.restoredPane)

/-- A tab comes back with the raw ids its panes had, unless all of them failed. -/
structure RestoredTab where
  tab : Option (Tab × FinMap PaneId Nat)
  outcomes : List PaneOutcome
  state : RestoreState

/-- The tab around the panes that came back. -/
def rebuildTab (snap : TabSnapshot) (number : Nat) (node : Node) (idMap : FinMap Nat PaneId)
  (panes : FinMap PaneId PaneState) : Option Tab := do
  if panes.keys.isEmpty then none
  else
    let node ← pruneRestoredNode panes.keys node
    let focus ← resolveRestoredPane snap.focused idMap panes.keys node.collectIds
    let rootPane ← resolveRestoredPane snap.rootPane idMap panes.keys node.collectIds
    some {
      customName := snap.customName
      number
      rootPane
      layout := TileLayout.fromSaved node focus
      panes
      zoomed := snap.zoomed }

def restoreTab (ctx : RestoreContext) (snap : TabSnapshot) (number : Nat) (st : RestoreState) :
  RestoredTab :=
  let (node, ids, idMap) := restoreNodeRemapped snap.layout st.ids
  let reverse := reverseIdMap idMap
  let (outcomes, state) := restorePanes ctx snap reverse node.collectIds { st with ids }
  let tab := rebuildTab snap number node idMap (restoredPanes outcomes)
  ⟨tab.map fun tab => (tab, reverse), outcomes, state⟩

/-- The next number in a `usize`. Release builds wrap around at the limit. -/
def wrappingSucc (n : Nat) : Nat := (n + 1) % usizeLimit

def checkedSucc (n : Nat) : Option Nat := if n + 1 < usizeLimit then some (n + 1) else none

/-- The first number past the saved ones, and at least the saved next number. -/
def firstFreeNumber (saved : List Nat) (next : Nat) : Nat :=
  max ((saved.max?.bind checkedSucc).getD 1) next

/-- Give a number to a pane that was saved without one. -/
def migrateNumber (numbers : FinMap Nat Nat × Nat) (oldRaw : Nat) : FinMap Nat Nat × Nat :=
  if oldRaw ∈ numbers.1 then numbers
  else (numbers.1.insert oldRaw numbers.2, wrappingSucc numbers.2)

def migratedPublicPaneNumbersByOldRaw (snap : WorkspaceSnapshot) (next : Nat) :
  FinMap Nat Nat × Nat :=
  (snap.tabs.flatMap fun tab => tab.layout.collectPaneIds).foldl migrateNumber
    (snap.publicPaneNumbers, next)

/-- The number a tab was saved with, or else one past its index. -/
def savedTabNumber (snap : WorkspaceSnapshot) (idx : Nat) : Nat :=
  (snap.publicTabNumbers[idx]?).getD (idx + 1)

/-- A workspace in the course of its restoration. -/
structure WorkspaceBuild where
  tabs : List Tab
  publicPaneNumbers : FinMap PaneId Nat
  nextPublicPaneNumber : Nat
  nextPublicTabNumber : Nat
  terminals : List (TerminalId × TerminalState)
  outcomes : List PaneOutcome
  state : RestoreState

/-- Register a restored pane under its number. -/
def numberPane (migrated : FinMap Nat Nat) (reverse : FinMap PaneId Nat)
  (numbers : FinMap PaneId Nat × Nat) (id : PaneId) : FinMap PaneId Nat × Nat :=
  match migrated.lookup ((reverse.lookup id).getD id.raw) with
  | some number => (numbers.1.insert id number, max numbers.2 (wrappingSucc number))
  | none =>
    (numbers.1.insert id numbers.2, max (wrappingSucc numbers.2) (wrappingSucc numbers.2))

/-- One round of the loop over the tabs of a workspace. -/
def addRestoredTab (ctx : RestoreContext) (snap : WorkspaceSnapshot) (migrated : FinMap Nat Nat)
  (build : WorkspaceBuild) (entry : TabSnapshot × Nat) : WorkspaceBuild :=
  let restored := restoreTab ctx entry.1 (savedTabNumber snap entry.2) build.state
  let build := { build with
    outcomes := build.outcomes ++ restored.outcomes
    state := restored.state }
  match restored.tab with
  | none => build
  | some (tab, reverse) =>
    let numbers := tab.layout.paneIds.foldl (numberPane migrated reverse)
      (build.publicPaneNumbers, build.nextPublicPaneNumber)
    { build with
      tabs := build.tabs ++ [tab]
      publicPaneNumbers := numbers.1
      nextPublicPaneNumber := numbers.2
      nextPublicTabNumber := max build.nextPublicTabNumber (wrappingSucc tab.number)
      terminals := build.terminals ++ restored.outcomes.filterMap (·.terminal) }

structure RestoredWorkspace where
  workspace : Option Workspace
  terminals : List (TerminalId × TerminalState)
  outcomes : List PaneOutcome
  state : RestoreState

def restoredWorkspaceId (snap : WorkspaceSnapshot) (ids : IdCounters) : String × IdCounters :=
  match snap.id with
  | some id => (id, ids)
  | none => generateWorkspaceId ids

def restoreTabs (ctx : RestoreContext) (snap : WorkspaceSnapshot) (st : RestoreState) :
  WorkspaceBuild :=
  let next := firstFreeNumber snap.publicPaneNumbers.values snap.nextPublicPaneNumber
  let (migrated, next) := migratedPublicPaneNumbersByOldRaw snap next
  snap.tabs.zipIdx.foldl (addRestoredTab ctx snap migrated) {
    tabs := []
    publicPaneNumbers := ∅
    nextPublicPaneNumber := next
    nextPublicTabNumber := firstFreeNumber snap.publicTabNumbers snap.nextPublicTabNumber
    terminals := []
    outcomes := []
    state := st }

def restoreWorkspace (ctx : RestoreContext) (snap : WorkspaceSnapshot) (st : RestoreState) :
  RestoredWorkspace :=
  let (id, ids) := restoredWorkspaceId snap st.ids
  let build := restoreTabs ctx snap { st with ids }
  let workspace : Workspace := {
    id
    customName := snap.customName
    worktreeSpace := snap.worktreeSpace.filter ctx.checkoutExists
    publicPaneNumbers := build.publicPaneNumbers
    nextPublicPaneNumber := build.nextPublicPaneNumber
    nextPublicTabNumber := build.nextPublicTabNumber
    tabs := build.tabs
    activeTab := min snap.activeTab (build.tabs.length - 1) }
  ⟨if build.tabs.isEmpty then none else some workspace, build.terminals, build.outcomes,
    build.state⟩

structure RestoredSession where
  workspaces : List Workspace
  terminals : FinMap TerminalId TerminalState
  outcomes : List PaneOutcome
  state : RestoreState

/-- One round of the loop over the workspaces of a session. -/
def addRestoredWorkspace (ctx : RestoreContext) (session : RestoredSession)
  (snap : WorkspaceSnapshot) : RestoredSession :=
  let restored := restoreWorkspace ctx snap session.state
  let session := { session with
    outcomes := session.outcomes ++ restored.outcomes
    state := restored.state }
  match restored.workspace with
  | none => session
  | some workspace =>
    { session with
      workspaces := session.workspaces ++ [workspace]
      terminals := restored.terminals.foldl
        (fun terminals terminal => terminals.insert terminal.1 terminal.2) session.terminals }

/-- Restore a session into a process whose id counters stand at `ids`, with the runtimes
of some panes imported. -/
def restoreWithImports (ctx : RestoreContext) (snapshot : SessionSnapshot) (ids : IdCounters)
  (importedPanes : Finset Nat) : RestoredSession :=
  snapshot.workspaces.foldl (addRestoredWorkspace ctx) ⟨[], ∅, [], ⟨ids, ∅, importedPanes, 0⟩⟩

end Persist
