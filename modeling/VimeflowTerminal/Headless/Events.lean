import VimeflowTerminal.Headless.Delivery

/-! The events of clients, the events of the application and the requests of the API, with what each
does to the table of clients. What the application itself does with an event is part of the
event. -/

namespace Headless

/-- A change of the application that is decided elsewhere. -/
abbrev AppChange := ServerApp → ServerApp

/-- A notification for the client in the foreground. -/
structure Notification where
  kind : NotifyKind
  message : String
  body : Option String
  deriving DecidableEq

/-- Input of a client: whether it has an interaction, the reports of its terminal, and what the
keys do to the application and, with a configuration that was written on the way, to its
settings. -/
structure ClientInput where
  interaction : Bool
  outerTerminalFocus : Option Bool
  themeChanged : Bool
  routed : AppChange
  reloaded : Option AppChange

inductive ServerEvent where
  | clientConnected (clientId : ClientId) (directAttachRequested : Bool)
  | clientAttachTerminal (clientId : ClientId) (terminalId : String)
      (takeover found readInProgress : Bool)
  | clientObserveTerminal (clientId : ClientId) (target : String) (resolved : Option String)
  | clientControlTerminal (clientId : ClientId) (target : String) (resolved : Option String)
      (takeover found readInProgress : Bool)
  | clientInput (clientId : ClientId) (input : ClientInput)
  | clientInputEvents (clientId : ClientId) (input : ClientInput)
  | clientPasteRejected (clientId : ClientId) (size max : Nat)
  | clientClipboardImage (clientId : ClientId) (staged : Bool)
  | clientResize (clientId : ClientId)
  | clientDetach (clientId : ClientId)
  | clientDisconnected (clientId : ClientId)

/-- `ignore_client_event_during_handoff` -/
def ServerEvent.ignoredDuringHandoff : ServerEvent → Bool
  | .clientConnected .. | .clientDisconnected .. => false
  | _ => true

inductive InternalEvent where
  | clipboardWrite (content : List UInt8)
  | prefixInputSource
  | stateChanged (change : AppChange) (notifications : List Notification)
  | updateReady (change : AppChange) (notification : Option Notification)
  | paneDied (exited : List Notification) (change : AppChange) (terminalId : Option String)
  | other (change : AppChange)

inductive LiveHandoff where
  | refused
  | rolledBack
  | committed

/-- What a request does once the events of the application before it have been handled. -/
inductive ApiWork where
  | respondEarly
  | mutate (change : AppChange)
  | reloadConfig (change : AppChange)

inductive ApiRequest where
  | deferred
  | liveHandoff (handoff : LiveHandoff)
  | notificationShow (params : NotificationShowParams) (now clock : Terminal.Instant)
  | clientWindowTitle (title : Option String)
  | app (drained : List InternalEvent) (work : ApiWork) (notifications : List Notification)
      (defaultWorkspace : AppChange)

namespace HeadlessServer

variable (env : Environment)

def reloadServerConfig (s : HeadlessServer) (change : AppChange) : HeadlessServer :=
  syncForegroundClientState env { s with app := change s.app }

def sendNotification (s : HeadlessServer) (notification : Notification) : HeadlessServer :=
  (s.sendNotifyToForegroundClient env notification.kind notification.message
    notification.body).1

/-- A client that asked to be detached keeps its entry without a channel. -/
def detachWriter (s : HeadlessServer) (clientId : ClientId) : HeadlessServer :=
  match s.clients.lookup clientId with
  | none => s
  | some _ =>
    let s := s.updateClient clientId fun client => { client with writer := false }
    { s with notes := s.notes ++ [.detached clientId] }

def sendShutdown (s : HeadlessServer) (clientId : ClientId) (reason : String) : HeadlessServer :=
  (s.sendToClient env clientId (.serverShutdown (some reason))).1

/-- Tell a client why it is not served, and remove it. -/
def refuseClient (s : HeadlessServer) (clientId : ClientId) (reason : String) : HeadlessServer :=
  (s.sendShutdown env clientId reason).removeClientAndResizeIfNeeded env clientId

/-- What a client reports of the focus of its own terminal. -/
def noteOuterTerminalFocus (s : HeadlessServer) (clientId : ClientId) (focus : Option Bool) :
  HeadlessServer :=
  match focus with
  | none => s
  | some focus =>
    if (s.clients.lookup clientId).any ClientConnection.isFullAppClient then
      s.updateClient clientId fun client => { client with outerTerminalFocus := some focus }
    else s

/-- A client that interacts comes to the foreground, and its size counts from then on. -/
def promoteInteracting (s : HeadlessServer) (clientId : ClientId) (interaction : Bool) :
  HeadlessServer :=
  if interaction then
    let (s, foregroundChanged) := s.promoteClientToForeground env clientId
    if foregroundChanged then s.resizeSharedRuntimeToEffectiveSize env else s
  else s

def routeClientEvents (s : HeadlessServer) (input : ClientInput) : HeadlessServer :=
  let s := { s with app := input.routed s.app }
  match input.reloaded with
  | some change => s.reloadServerConfig env change
  | none => syncForegroundClientState env s

/-- A client whose input asked for it is told and detached. -/
def detachIfRequested (s : HeadlessServer) (clientId : ClientId) : HeadlessServer :=
  if s.app.detachRequested then
    let s := { s with app := { s.app with detachRequested := false } }
    (s.sendShutdown env clientId "detached").detachWriter clientId
  else s

def handleClientInputEvents (s : HeadlessServer) (clientId : ClientId) (input : ClientInput) :
  HeadlessServer :=
  let s := s.noteOuterTerminalFocus clientId input.outerTerminalFocus
  let s := s.promoteInteracting env clientId input.interaction
  let s :=
    if input.themeChanged && s.foregroundClientId = some clientId then
      s.resizeSharedRuntimeToEffectiveSize env
    else s
  (s.routeClientEvents env input).detachIfRequested env clientId

def modeOf (s : HeadlessServer) (clientId : ClientId) : Option ClientConnectionMode :=
  (s.clients.lookup clientId).map ClientConnection.mode

def clientIsPendingTerminalMode (s : HeadlessServer) (clientId : ClientId) : Bool :=
  (s.clients.lookup clientId).any fun client => client.pendingTerminalAttach && client.mode = .app

/-- A client of the application becomes one of a terminal, which is not in the foreground. -/
def leaveApp (s : HeadlessServer) (clientId : ClientId) (mode : ClientConnectionMode) :
  HeadlessServer :=
  let (s, stamp) := s.allocateActivityStamp
  let s := s.updateClient clientId fun client =>
    { client with mode, pendingTerminalAttach := false, lastActivity := stamp }
  if s.foregroundClientId = some clientId then (s.promoteLatestRemainingClient env).1 else s

/-- The client that had the terminal until now is told and removed. -/
def takeOverTerminal (s : HeadlessServer) (owner : Option ClientId) : HeadlessServer :=
  match owner with
  | none => s
  | some owner => s.refuseClient env owner "terminal attach taken over"

def attachTerminalClient (s : HeadlessServer) (clientId : ClientId) (terminalId : String)
  (takeover found readInProgress : Bool) : HeadlessServer :=
  let failed := "terminal attach failed: "
  if !s.clientIsPendingTerminalMode clientId then
    s.refuseClient env clientId (failed ++ "connection is not pending terminal attach")
  else if !found then
    s.refuseClient env clientId (failed ++ "terminal " ++ terminalId ++ " not found")
  else if readInProgress then
    s.refuseClient env clientId
      (failed ++ "terminal " ++ terminalId ++ " has a read in progress; retry")
  else
    let other := (s.terminalAttachOwners.lookup terminalId).filter fun owner => owner ≠ clientId
    if other.isSome && !takeover then
      s.refuseClient env clientId (failed ++ "terminal " ++ terminalId ++
        " already has an attached client; retry with --takeover")
    else
      let s := s.takeOverTerminal env other
      match s.clients.lookup clientId with
      | none => s.allocateActivityStamp.1
      | some _ =>
        let s := s.leaveApp env clientId (.terminalAttach terminalId)
        { s with terminalAttachOwners := s.terminalAttachOwners.insert terminalId clientId }

/-- `resolve_terminal_session_target`: the terminal of a session, or why there is none. -/
def resolveTerminalSessionTarget (s : HeadlessServer) (clientId : ClientId) (target : String)
  (resolved : Option String) (action : String) : Except String String :=
  let failed := "terminal session " ++ action ++ " failed: "
  if !s.clientIsPendingTerminalMode clientId then
    .error (failed ++ "connection is not pending terminal session")
  else
    match resolved with
    | none => .error (failed ++ "terminal target " ++ target ++ " not found")
    | some terminalId => .ok terminalId

def observeTerminalClient (s : HeadlessServer) (clientId : ClientId) (target : String)
  (resolved : Option String) : HeadlessServer :=
  match s.resolveTerminalSessionTarget clientId target resolved "observe" with
  | .error reason => s.refuseClient env clientId reason
  | .ok terminalId => s.leaveApp env clientId (.terminalObserve terminalId)

def controlTerminalClient (s : HeadlessServer) (clientId : ClientId) (target : String)
  (resolved : Option String) (takeover found readInProgress : Bool) : HeadlessServer :=
  match s.resolveTerminalSessionTarget clientId target resolved "control" with
  | .error reason => s.refuseClient env clientId reason
  | .ok terminalId =>
    s.attachTerminalClient env clientId terminalId takeover found readInProgress

/-- A new client is in the foreground, unless it is going to attach to a terminal. -/
def connectClient (s : HeadlessServer) (clientId : ClientId) (directAttachRequested : Bool) :
  HeadlessServer :=
  let (s, stamp) := s.allocateActivityStamp
  let client : ClientConnection := {
    mode := .app
    pendingTerminalAttach := directAttachRequested
    outerTerminalFocus := none
    lastActivity := stamp
    writer := true }
  let s := { s with
    clients := s.clients.insert clientId client
    connected := clientId :: s.connected
    foregroundClientId := if directAttachRequested then s.foregroundClientId else some clientId }
  (syncForegroundClientState env s).resizeSharedRuntimeToEffectiveSize env

def pasteClientClipboardImagePath (s : HeadlessServer) (clientId : ClientId) : HeadlessServer :=
  let (s, foregroundChanged) := s.promoteClientToForeground env clientId
  if foregroundChanged then s.resizeSharedRuntimeToEffectiveSize env else s

def handleServerEvent (s : HeadlessServer) (ev : ServerEvent) : HeadlessServer :=
  if s.handoffInProgress && ev.ignoredDuringHandoff then s
  else
    match ev with
    | .clientConnected clientId directAttachRequested =>
      if s.handoffInProgress then s else s.connectClient env clientId directAttachRequested
    | .clientAttachTerminal clientId terminalId takeover found readInProgress =>
      s.attachTerminalClient env clientId terminalId takeover found readInProgress
    | .clientObserveTerminal clientId target resolved =>
      s.observeTerminalClient env clientId target resolved
    | .clientControlTerminal clientId target resolved takeover found readInProgress =>
      s.controlTerminalClient env clientId target resolved takeover found readInProgress
    | .clientInput clientId input =>
      match s.modeOf clientId with
      | some (.terminalAttach _) | some (.terminalObserve _) => s
      | _ => s.handleClientInputEvents env clientId input
    | .clientInputEvents clientId input =>
      match s.modeOf clientId with
      | some (.terminalObserve _) => s
      | _ => s.handleClientInputEvents env clientId input
    | .clientPasteRejected clientId size max =>
      (s.sendToClient env clientId (.notify .toast "Paste rejected"
        (some ("Input message is " ++ toString size ++ " bytes; Herdr's limit is " ++
          toString max ++ " bytes")))).1
    | .clientClipboardImage clientId staged =>
      match s.modeOf clientId with
      | some (.terminalAttach _) | some (.terminalObserve _) => s
      | _ => if staged then s.pasteClientClipboardImagePath env clientId else s
    | .clientResize clientId =>
      match s.modeOf clientId with
      | some (.terminalAttach _) | some (.terminalObserve _) => s
      | _ => (s.promoteClientToForeground env clientId).1.resizeSharedRuntimeToEffectiveSize env
    | .clientDetach clientId =>
      let s :=
        match s.modeOf clientId with
        | some (.terminalAttach _) | some (.terminalObserve _) =>
          s.sendShutdown env clientId "detached"
        | _ => s
      s.removeClientAndResizeIfNeeded env clientId
    | .clientDisconnected clientId => s.removeClientAndResizeIfNeeded env clientId

def terminalStreamClientIds (s : HeadlessServer) (terminalId : String) : List ClientId :=
  (s.clients.entries.filter fun entry =>
    entry.2.mode = .terminalAttach terminalId ||
      entry.2.mode = .terminalObserve terminalId).map Sigma.fst

def shutdownTerminalStreamClients (s : HeadlessServer) (terminalId : String) : HeadlessServer :=
  (s.terminalStreamClientIds terminalId).foldl
    (fun s clientId => s.refuseClient env clientId ("terminal " ++ terminalId ++ " exited")) s

def performInternalEvent (s : HeadlessServer) (ev : InternalEvent) : HeadlessServer :=
  match ev with
  | .clipboardWrite content => (s.handleClipboardWrite env content).1
  | .prefixInputSource => s
  | .stateChanged change notifications =>
    let s := syncForegroundClientState env s
    notifications.foldl (sendNotification env) { s with app := change s.app }
  | .updateReady change notification =>
    notification.toList.foldl (sendNotification env) { s with app := change s.app }
  | .paneDied exited change terminalId =>
    let s := exited.foldl (sendNotification env) s
    let s := { s with app := change s.app }
    terminalId.elim s fun terminalId => s.shutdownTerminalStreamClients env terminalId
  | .other change => { s with app := change s.app }

def handleInternalEventWithForwarding (s : HeadlessServer) (ev : InternalEvent) :
  HeadlessServer :=
  syncDesiredPrefixInputSource env (s.performInternalEvent env ev)

/-- The clients that are there at the start are told and removed, one after the other. -/
def disconnectAllClientsForHandoff (s : HeadlessServer) : HeadlessServer :=
  let s := s.clients.keys.foldl (fun s clientId =>
    let s := s.sendShutdown env clientId
      "live update in progress; reconnect after handoff completes"
    ((s.detachWriter clientId).removeClient env clientId).1) s
  (syncForegroundClientState env
    { s with foregroundClientId := none }).resizeSharedRuntimeToEffectiveSize env

def performLiveHandoff (s : HeadlessServer) : LiveHandoff → HeadlessServer
  | .refused => s
  | .rolledBack =>
    { disconnectAllClientsForHandoff env { s with handoffInProgress := true } with
      handoffInProgress := false }
  | .committed =>
    { disconnectAllClientsForHandoff env { s with handoffInProgress := true } with
      shuttingDown := true }

def performApiWork (s : HeadlessServer) (notifications : List Notification)
  (defaultWorkspace : AppChange) : ApiWork → HeadlessServer
  | .respondEarly => s
  | .mutate change =>
    let s := notifications.foldl (sendNotification env) { s with app := change s.app }
    { s with app := defaultWorkspace s.app }
  | .reloadConfig change =>
    let s := notifications.foldl (sendNotification env) (s.reloadServerConfig env change)
    { s with app := defaultWorkspace s.app }

def performApiRequest (s : HeadlessServer) (request : ApiRequest) : HeadlessServer :=
  if s.shuttingDown then s
  else
    match request with
    | .deferred => s
    | .liveHandoff handoff => s.performLiveHandoff env handoff
    | .notificationShow params now clock => (s.handleNotificationShowApi env params now clock).1
    | .clientWindowTitle title => (s.handleClientWindowTitleApi env title).1
    | .app drained work notifications defaultWorkspace =>
      let s := drained.foldl (handleInternalEventWithForwarding env) s
      (syncForegroundClientState env s).performApiWork env notifications defaultWorkspace work

def handleApiRequest (s : HeadlessServer) (request : ApiRequest) : HeadlessServer :=
  syncDesiredPrefixInputSource env (s.performApiRequest env request)

/-- A message to all clients with a channel, and those whose channel turns out to be closed. -/
def broadcast (message : ServerMessage) :
  HeadlessServer → List ClientId → HeadlessServer × List ClientId
  | s, [] => (s, [])
  | s, clientId :: clientIds =>
    if env.delivers s.sends then
      broadcast message
        { s with sends := s.sends + 1, notes := s.notes ++ [.sent clientId message] } clientIds
    else
      let (s, broken) := broadcast message { s with sends := s.sends + 1 } clientIds
      (s, clientId :: broken)

def clientIdsWithWriter (s : HeadlessServer) : List ClientId :=
  (s.clients.entries.filter fun entry => entry.2.writer).map Sigma.fst

def removeBrokenClients (s : HeadlessServer) (broken : List ClientId) : HeadlessServer :=
  broken.foldl (removeClientAndResizeIfNeeded env) s

def sendToAllClients (s : HeadlessServer) (message : ServerMessage) : HeadlessServer :=
  if !env.fits message then s
  else
    let (s, broken) := broadcast env message s s.clientIdsWithWriter
    s.removeBrokenClients env broken

def initiateShutdown (s : HeadlessServer) : HeadlessServer :=
  if s.shuttingDown then s
  else
    sendToAllClients env { s with shuttingDown := true }
      (.serverShutdown (some "server is shutting down"))

end HeadlessServer

end Headless
