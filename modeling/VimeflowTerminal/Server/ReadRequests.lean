import VimeflowTerminal.App.TerminalTargets
import VimeflowTerminal.Server.AltScreenRead

/-! A read of the history of a program on the alternate screen goes on for many turns
of the server loop. Meanwhile other reads of the pane get the screen it started
with or wait, and nobody attaches to the terminal. Requests other than reads are
left out, with the notifications and redraws that a request leads to, and so are
clients that only observe a terminal. -/

namespace Server

open App Layout Workspaces Terminal

inductive ReadSource where
  | visible
  | recent
  | recentUnwrapped
  | detection
  deriving DecidableEq

inductive ReadFormat where
  | text
  | ansi
  deriving DecidableEq

inductive ReadIntent where
  | interactive
  | passive
  deriving DecidableEq

structure AgentReadParams where
  target : String
  source : ReadSource
  lines : Option Nat
  format : ReadFormat
  deriving DecidableEq

structure PaneReadParams where
  paneId : String
  source : ReadSource
  lines : Option Nat
  format : ReadFormat
  intent : ReadIntent
  deriving DecidableEq

inductive Method where
  | agentRead (params : AgentReadParams)
  | paneRead (params : PaneReadParams)
  deriving DecidableEq

namespace Method

def source : Method → ReadSource
  | .agentRead params => params.source
  | .paneRead params => params.source

def lines : Method → Option Nat
  | .agentRead params => params.lines
  | .paneRead params => params.lines

def format : Method → ReadFormat
  | .agentRead params => params.format
  | .paneRead params => params.format

/-- Only these reads may scroll the program. -/
def interactive : Method → Bool
  | .agentRead _ => true
  | .paneRead params => params.intent = .interactive

end Method

structure ReadRequest where
  id : String
  method : Method
  respondTo : Nat
  deriving DecidableEq

structure PaneReadResult where
  paneId : String
  workspaceId : String
  tabId : String
  source : ReadSource
  format : ReadFormat
  text : String
  revision : Nat
  truncated : Bool
  deriving DecidableEq

inductive Reply where
  | paneRead (read : PaneReadResult)
  | error (body : ErrorBody)
  deriving DecidableEq

structure ReadAnswer where
  respondTo : Nat
  id : String
  reply : Reply
  deriving DecidableEq

/-- What can be read of a terminal without scrolling it. -/
structure PaneRuntime extends TerminalRuntime where
  visibleText : String
  detectionText : String
  visibleAnsi : String
  recentText : Nat → TerminalReadSnapshot
  recentUnwrappedText : Nat → TerminalReadSnapshot
  recentAnsi : Nat → TerminalReadSnapshot
  recentUnwrappedAnsi : Nat → TerminalReadSnapshot

/-- The lines of a text with their endings. -/
def splitInclusive (current : List Char) : List Char → List (List Char)
  | [] => if current.isEmpty then [] else [current]
  | '\n' :: text => (current ++ ['\n']) :: splitInclusive [] text
  | ch :: text => splitInclusive (current ++ [ch]) text

def limitSnapshotLines (text : String) (limit : Option Nat) : TerminalReadSnapshot :=
  match limit with
  | none => ⟨text, false⟩
  | some limit =>
    let lines := splitInclusive [] text.toList
    ⟨String.ofList (lines.drop (lines.length - limit)).flatten, decide (limit < lines.length)⟩

def lineLimit (lines : Option Nat) : Option Nat := lines.map fun lines => min lines 1000

def recentLines (lines : Option Nat) : Nat := (lineLimit lines).getD 80

def readTerminalSnapshot (terminal : PaneRuntime) (source : ReadSource) (format : ReadFormat)
  (lines : Option Nat) : TerminalReadSnapshot :=
  match format, source with
  | .text, .visible => limitSnapshotLines terminal.visibleText (lineLimit lines)
  | .text, .recent => terminal.recentText (recentLines lines)
  | .text, .recentUnwrapped => terminal.recentUnwrappedText (recentLines lines)
  | .text, .detection => limitSnapshotLines terminal.detectionText (lineLimit lines)
  | .ansi, .visible => limitSnapshotLines terminal.visibleAnsi (lineLimit lines)
  | .ansi, .recent => terminal.recentAnsi (recentLines lines)
  | .ansi, .recentUnwrapped => terminal.recentUnwrappedAnsi (recentLines lines)
  | .ansi, .detection => limitSnapshotLines terminal.detectionText (lineLimit lines)

/-- The application as far as reads go. -/
structure Screens where
  app : AppState
  runtimes : FinMap TerminalId PaneRuntime

namespace Screens

variable (idText : TerminalId → String) (screens : Screens)

def lookupRuntime (wsIdx : Nat) (paneId : PaneId) : Option PaneRuntime := do
  let ws ← screens.app.workspaces[wsIdx]?
  let terminalId ← ws.terminalId paneId
  screens.runtimes.lookup terminalId

/-- The tab was just found, so its id is there. -/
def readResult (runtime : PaneRuntime) (paneId : String) (wsIdx tabIdx : Nat) (source : ReadSource)
  (format : ReadFormat) (lines : Option Nat) : PaneReadResult :=
  let snapshot := readTerminalSnapshot runtime source format lines
  { paneId
    workspaceId := (screens.app.publicWorkspaceId wsIdx).getD ""
    tabId := (screens.app.publicTabId wsIdx tabIdx).getD ""
    source
    format
    text := snapshot.text
    revision := 0
    truncated := snapshot.truncated }

def paneNotFound (paneId : String) : Reply :=
  .error ⟨"pane_not_found", "pane " ++ paneId ++ " not found"⟩

def handlePaneRead (params : PaneReadParams) : Reply :=
  let found := do
    let (wsIdx, paneId) ← screens.app.parsePaneId params.paneId
    let publicPaneId ← screens.app.publicPaneId wsIdx paneId
    let runtime ← screens.lookupRuntime wsIdx paneId
    let ws ← screens.app.workspaces[wsIdx]?
    let tabIdx ← ws.findTabIndexForPane paneId
    some (screens.readResult runtime publicPaneId wsIdx tabIdx params.source params.format
      params.lines)
  match found with
  | none => paneNotFound params.paneId
  | some read => .paneRead read

def handleAgentRead (params : AgentReadParams) : Reply :=
  match screens.app.resolveAgentTarget idText params.target with
  | .error err => .error (agentTargetErrorBody err)
  | .ok resolved =>
    match screens.lookupRuntime resolved.wsIdx resolved.paneId with
    | none => .error ⟨"agent_not_found", "agent target " ++ params.target ++ " not found"⟩
    | some runtime =>
      .paneRead (screens.readResult runtime
        ((screens.app.publicPaneId resolved.wsIdx resolved.paneId).getD params.target)
        resolved.wsIdx resolved.tabIdx params.source params.format params.lines)

def handleRead : Method → Reply
  | .agentRead params => screens.handleAgentRead idText params
  | .paneRead params => screens.handlePaneRead params

/-- The terminal that a read names. -/
def readTarget : Method → Option TerminalTarget
  | .agentRead params => (screens.app.resolveAgentTarget idText params.target).toOption
  | .paneRead params => (screens.app.resolveTerminalTarget idText params.paneId).toOption

end Screens

def agentStateLabel : Detect.AgentState → String
  | .idle => "idle"
  | .working => "working"
  | .blocked => "blocked"
  | .unknown => "unknown"

def ReadSource.isRecent : ReadSource → Bool
  | .recent | .recentUnwrapped => true
  | .visible | .detection => false

/-- A read in progress, with the request it will answer and what is answered if
it cannot be completed. -/
structure PendingRead where
  terminalId : TerminalId
  requestId : String
  respondTo : Nat
  read : PaneReadResult
  traversal : PendingAltScreenRead
  deriving DecidableEq

def PendingAltScreenRead.frozenSnapshot (read : PendingAltScreenRead) (source : ReadSource)
  (lines : Option Nat) : TerminalReadSnapshot :=
  let rows := read.initial.rows
  match source with
  | .recent | .recentUnwrapped =>
    let limit := recentLines lines
    snapshotText rows limit (source = .recentUnwrapped) (decide (limit < rows.length))
  | .visible | .detection =>
    limitSnapshotLines (snapshotText rows rows.length false false).text (lineLimit lines)

inductive ReadServer.ClientConnectionMode where
  | app
  | terminalAttach (terminalId : String)
  deriving DecidableEq

structure ReadServer.ClientConnection where
  mode : ClientConnectionMode
  pendingTerminalAttach : Bool
  deriving DecidableEq

/-- Requests are told apart by the count of requests received before. -/
structure ReadServer where
  screens : Screens
  clients : FinMap Nat ReadServer.ClientConnection
  terminalAttachOwners : FinMap String Nat
  pendingAltScreenReads : List PendingRead
  deferredAltScreenReads : List ReadRequest
  shuttingDown : Bool
  received : Nat
  answers : List ReadAnswer

structure AltScreenReadSpec where
  terminalId : TerminalId
  lines : Nat
  unwrap : Bool
  initial : ScreenSnapshot

inductive AltScreenReadConflict where
  | none
  | frozen (snapshot : TerminalReadSnapshot)
  | defer
  deriving DecidableEq

namespace ReadServer

def start (screens : Screens) : ReadServer where
  screens
  clients := ∅
  terminalAttachOwners := ∅
  pendingAltScreenReads := []
  deferredAltScreenReads := []
  shuttingDown := false
  received := 0
  answers := []

def respond (s : ReadServer) (request : ReadRequest) (reply : Reply) : ReadServer :=
  { s with answers := s.answers ++ [⟨request.respondTo, request.id, reply⟩] }

def serverUnavailable : Reply := .error ⟨"server_unavailable", "server is shutting down"⟩

section

variable (idText : TerminalId → String) (s : ReadServer)

def agentReadNotIdleError (method : Method) : Option ErrorBody :=
  match method with
  | .paneRead _ => none
  | .agentRead params => do
    let requested ← params.lines
    if params.format ≠ .text || !params.source.isRecent then none
    else do
      let target ← s.screens.readTarget idText method
      let (terminalId, terminal) ← s.screens.app.terminalByText idText target.terminalId
      if terminal.effectiveKnownAgent.isNone || terminal.state = .idle then none
      else do
        let runtime ← s.screens.runtimes.lookup terminalId
        let (screen, snapshot) ← runtime.screenText
        if screen ≠ .alternate || decide (min requested 1000 ≤ snapshot.rows.length) then none
        else some ⟨"agent_not_idle", "cannot read " ++ toString requested ++ " lines while " ++
          params.target ++ " is " ++ agentStateLabel terminal.state ++
          ": its alternate-screen history can only be captured by scrolling while idle. " ++
          "Wait and retry, or use --source visible"⟩

/-- The read in progress on a terminal. -/
def pendingRead (terminalId : String) : Option PendingRead :=
  s.pendingAltScreenReads.find? fun pending => idText pending.terminalId = terminalId

/-- A read that scrolls: of the history of an idle agent on the alternate screen
that takes wheel events, with nobody attached and no such read in progress. -/
def altScreenReadSpec (method : Method) : Option AltScreenReadSpec :=
  if !method.interactive then none
  else do
    let target ← s.screens.readTarget idText method
    if method.format ≠ .text || !method.source.isRecent then none
    else
      let lines := min (method.lines.getD 80) 1000
      if lines = 0 || decide (target.terminalId ∈ s.terminalAttachOwners) ||
          (s.pendingRead idText target.terminalId).isSome then none
      else do
        let (terminalId, terminal) ← s.screens.app.terminalByText idText target.terminalId
        if terminal.effectiveKnownAgent.isNone || terminal.state ≠ .idle then none
        else do
          let runtime ← s.screens.runtimes.lookup terminalId
          if runtime.wheelRouting ≠ some .mouseReport then none
          else do
            let (screen, initial) ← runtime.screenText
            if screen ≠ .alternate || decide (lines ≤ initial.rows.length) then none
            else some {
              terminalId
              lines
              unwrap := method.source = .recentUnwrapped
              initial }

def altScreenReadConflict (method : Method) : AltScreenReadConflict :=
  match (s.screens.readTarget idText method).bind fun target =>
      s.pendingRead idText target.terminalId with
  | none => .none
  | some pending =>
    if method.format = .text then
      .frozen (pending.traversal.frozenSnapshot method.source method.lines)
    else .defer

end

/-- Put the frozen screen in the place of what was read. -/
def freeze (frozen : Option TerminalReadSnapshot) (reply : Reply) : Reply :=
  match frozen, reply with
  | some snapshot, .paneRead read =>
    .paneRead { read with text := snapshot.text, truncated := snapshot.truncated }
  | _, reply => reply

/-- Answer the read, or start scrolling for it. -/
def answerRead (idText : TerminalId → String) (s : ReadServer) (request : ReadRequest)
  (frozen : Option TerminalReadSnapshot) (now : Instant) : ReadServer :=
  match s.agentReadNotIdleError idText request.method with
  | some error => s.respond request (.error error)
  | none =>
    let reply := freeze frozen (s.screens.handleRead idText request.method)
    match s.altScreenReadSpec idText request.method, reply with
    | some spec, .paneRead read =>
      let pending := {
        terminalId := spec.terminalId
        requestId := request.id
        respondTo := request.respondTo
        read
        traversal := .start "" spec.lines spec.unwrap spec.initial now }
      { s with pendingAltScreenReads := s.pendingAltScreenReads ++ [pending] }
    | _, reply => s.respond request reply

/-- A request is taken up. Internal events that were waiting are handled after the
reads in progress were looked at; `drained` is what they leave. -/
def handleApiRequest (idText : TerminalId → String) (s : ReadServer) (request : ReadRequest)
  (now : Instant) (drained : Screens) : ReadServer :=
  if s.shuttingDown then s.respond request serverUnavailable
  else
    match s.altScreenReadConflict idText request.method with
    | .defer => { s with deferredAltScreenReads := s.deferredAltScreenReads ++ [request] }
    | .frozen snapshot =>
      ({ s with screens := drained } : ReadServer).answerRead idText request (some snapshot) now
    | .none => ({ s with screens := drained } : ReadServer).answerRead idText request none now

/-- The first of the deferred requests is looked at again, and put last if it
still has to wait. -/
def processDeferredAltScreenRead (idText : TerminalId → String) (s : ReadServer)
  (now : Instant) (drained : Screens) : ReadServer :=
  match s.deferredAltScreenReads with
  | [] => s
  | request :: rest =>
    let s := { s with deferredAltScreenReads := rest }
    match s.altScreenReadConflict idText request.method with
    | .none => s.handleApiRequest idText request now drained
    | .frozen _ | .defer => { s with deferredAltScreenReads := rest ++ [request] }

/-- What a read in progress is told in a turn of the loop. -/
def pollStep (idText : TerminalId → String) (s : ReadServer) (pending : PendingRead)
  (now : Instant) : ReadStep :=
  let remainsIdle := (s.screens.app.terminals.lookup pending.terminalId).any fun terminal =>
    terminal.state = .idle
  let attached := decide (idText pending.terminalId ∈ s.terminalAttachOwners)
  { call := if remainsIdle && !attached then .poll else .abort
    runtime := (s.screens.runtimes.lookup pending.terminalId).map (·.toTerminalRuntime)
    now }

def complete (pending : PendingRead) (response : ReadResponse) : ReadAnswer where
  respondTo := pending.respondTo
  id := pending.requestId
  reply :=
    match response with
    | .success snapshot =>
      .paneRead { pending.read with text := snapshot.text, truncated := snapshot.truncated }
    | .fallback _ => .paneRead pending.read

/-- One read in progress, taken out of the list: it goes on or is answered. -/
def pollPending (idText : TerminalId → String) (now : Instant) (s : ReadServer)
  (pending : PendingRead) : ReadServer :=
  match (AltScreenRun.call pending.traversal (s.pollStep idText pending now)).1 with
  | .pending traversal =>
    { s with
      pendingAltScreenReads := s.pendingAltScreenReads ++ [{ pending with traversal }] }
  | .completed response => { s with answers := s.answers ++ [complete pending response] }

def pollPendingAltScreenReads (idText : TerminalId → String) (s : ReadServer) (now : Instant) :
  ReadServer :=
  s.pendingAltScreenReads.foldl (pollPending idText now) { s with pendingAltScreenReads := [] }

def removeClient (s : ReadServer) (clientId : Nat) : ReadServer :=
  let owners :=
    match s.clients.lookup clientId with
    | some ⟨.terminalAttach terminalId, _⟩ => s.terminalAttachOwners.erase terminalId
    | _ => s.terminalAttachOwners
  { s with clients := s.clients.erase clientId, terminalAttachOwners := owners }

def clientIsPendingTerminalMode (s : ReadServer) (clientId : Nat) : Bool :=
  (s.clients.lookup clientId).any fun client => client.pendingTerminalAttach && client.mode = .app

/-- The client becomes the owner of the terminal. -/
def becomeOwner (s : ReadServer) (clientId : Nat) (terminalId : String) : ReadServer :=
  if clientId ∈ s.clients then
    { s with
      clients := s.clients.insert clientId ⟨.terminalAttach terminalId, false⟩
      terminalAttachOwners := s.terminalAttachOwners.insert terminalId clientId }
  else s

def attachTerminalClient (idText : TerminalId → String) (s : ReadServer) (clientId : Nat)
  (terminalId : String) (takeover : Bool) : ReadServer :=
  if !s.clientIsPendingTerminalMode clientId then s.removeClient clientId
  else
    match s.screens.app.terminalByText idText terminalId with
    | none => s.removeClient clientId
    | some (realTerminalId, _) =>
      if (s.pendingRead idText (idText realTerminalId)).isSome then s.removeClient clientId
      else
        match s.terminalAttachOwners.lookup terminalId with
        | none => s.becomeOwner clientId terminalId
        | some existingOwner =>
          if existingOwner = clientId then s.becomeOwner clientId terminalId
          else if takeover then
            (s.removeClient existingOwner).becomeOwner clientId terminalId
          else s.removeClient clientId

end ReadServer

/-- Requests, the parts of a turn of the server loop, clients that come, attach and
go, and everything else that happens to panes, agents and terminals. -/
inductive ReadLabel where
  | request (id : String) (method : Method) (now : Instant) (drained : Screens)
  | poll (now : Instant)
  | processDeferred (now : Instant) (drained : Screens)
  | connect (clientId : Nat) (pendingTerminalAttach : Bool)
  | attach (clientId : Nat) (terminalId : String) (takeover : Bool)
  | disconnect (clientId : Nat)
  | outside (screens : Screens)
  | shutDown

namespace ReadServer

def step (idText : TerminalId → String) (s : ReadServer) : ReadLabel → ReadServer
  | .request id method now drained =>
    ({ s with received := s.received + 1 } : ReadServer).handleApiRequest idText
      ⟨id, method, s.received⟩ now drained
  | .poll now => s.pollPendingAltScreenReads idText now
  | .processDeferred now drained => s.processDeferredAltScreenRead idText now drained
  | .connect clientId pendingTerminalAttach =>
    { s with clients := s.clients.insert clientId ⟨.app, pendingTerminalAttach⟩ }
  | .attach clientId terminalId takeover => s.attachTerminalClient idText clientId terminalId takeover
  | .disconnect clientId => s.removeClient clientId
  | .outside screens => { s with screens }
  | .shutDown => { s with shuttingDown := true }

end ReadServer

end Server
