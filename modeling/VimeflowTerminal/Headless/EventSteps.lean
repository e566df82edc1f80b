import VimeflowTerminal.Headless.Events
import VimeflowTerminal.Headless.PrefixInputSource

/-! What is kept by every event of the server, given the changes that the events are made of. A
property may be lost while the application changes and hold again after the next switch-over of
the input source. -/

namespace Headless

/-- What the loop of the server goes through: events, a configuration that is read again, tasks
of the application between them, clients found broken while frames are sent, and the end. -/
inductive LoopEvent where
  | server (ev : ServerEvent)
  | internal (ev : InternalEvent)
  | api (request : ApiRequest)
  | settings (change : AppChange)
  | task (change : AppChange)
  | streamed (broken : List ClientId)
  | reloadClientConfig
  | shutdown

namespace HeadlessServer

def handleLoopEvent (env : Environment) (s : HeadlessServer) : LoopEvent → HeadlessServer
  | .server ev => s.handleServerEvent env ev
  | .internal ev => s.handleInternalEventWithForwarding env ev
  | .api request => s.handleApiRequest env request
  | .settings change => s.reloadServerConfig env change
  | .task change => { s with app := change s.app }
  | .streamed broken => s.removeBrokenClients env broken
  | .reloadClientConfig => s.sendToAllClients env .reloadSoundConfig
  | .shutdown => s.initiateShutdown env

/-- Events that end with a switch-over of the input source, whatever the state before them. -/
def switchesOver : LoopEvent → Bool
  | .internal _ | .api _ | .settings _ => true
  | _ => false

/-- The identity of a client that connects is new. -/
def Fresh (s : HeadlessServer) : LoopEvent → Prop
  | .server (.clientConnected clientId _) => clientId ∉ s.connected
  | _ => True

/-- The event leaves what the application wants of the input source, unless a switch-over
follows. -/
def Quiet (s : HeadlessServer) : LoopEvent → Prop
  | .task change =>
    ({ s with app := change s.app } : HeadlessServer).prefixInputSourceActive =
      s.prefixInputSourceActive
  | _ => True

/-- The states are the same as far as clients and the input source go. -/
structure Similar (s t : HeadlessServer) : Prop where
  clients : t.clients = s.clients
  foreground : t.foregroundClientId = s.foregroundClientId
  owner : t.prefixInputSourceClientId = s.prefixInputSourceClientId
  active : t.prefixInputSourceActive = s.prefixInputSourceActive
  leases : t.leases = s.leases
  connected : t.connected = s.connected
  resizes : t.resizes = s.resizes

/-- A property that is kept where no client is told about its input source first. -/
structure Lax (env : Environment) (R : HeadlessServer → Prop) : Prop where
  similar : ∀ s t, Similar s t → R s → R t
  updated : ∀ s clientId update, (∀ client, (update client).writer = client.writer) → R s →
    R (s.updateClient clientId update)
  detached : ∀ s clientId, R s → R (s.detachWriter clientId)
  removed : ∀ s clientId, R s → R (s.removeClient env clientId).1
  resized : ∀ s, R s → R (s.resizeSharedRuntimeToEffectiveSize env)

/-- The switch-over makes what is loose settle. -/
structure Discipline (env : Environment) (Loose Settled : HeadlessServer → Prop) : Prop where
  loose : Lax env Loose
  settled : Lax env Settled
  loosen : ∀ s, Settled s → Loose s
  changed : ∀ s app, Loose s → Loose { s with app }
  joined : ∀ s clientId client, clientId ∉ s.connected → Loose s →
    Loose { s with
      clients := s.clients.insert clientId client, connected := clientId :: s.connected }
  synced : ∀ s, Loose s → Settled (s.syncDesiredPrefixInputSource env)
  focused : ∀ s foregroundClientId, Loose s →
    Settled (syncForegroundClientState env { s with foregroundClientId })

variable {env : Environment} {s : HeadlessServer} {clientId : ClientId}

theorem similar_noted {message : ServerMessage} (hOther : message.isPrefixInputSource = false)
  (sends : Nat) :
  Similar s { s with sends, notes := s.notes ++ [.sent clientId message] } where
  clients := rfl
  foreground := rfl
  owner := rfl
  active := rfl
  connected := rfl
  resizes := rfl
  leases := by
    rw [@leases_of_notes s _ (.sent clientId message) rfl, ClientNote.lease_sent hOther]
    exact List.append_nil _

namespace Lax

variable {R : HeadlessServer → Prop} (hLax : Lax env R)

include hLax

theorem removeClientAndResizeIfNeeded (hStart : R s) (clientId : ClientId) :
  R (s.removeClientAndResizeIfNeeded env clientId) := by
  have hRemoved := hLax.removed s clientId hStart
  unfold HeadlessServer.removeClientAndResizeIfNeeded removeClientAndResizeIfNeededWith
  dsimp only
  split
  · exact hLax.resized _ hRemoved
  · exact hRemoved

variable {message : ServerMessage}

theorem sendToClient (hOther : message.isPrefixInputSource = false) (hStart : R s)
  (clientId : ClientId) : R (s.sendToClient env clientId message).1 := by
  have hSending := sendToClientWith_sending env (HeadlessServer.removeClientAndResizeIfNeeded env)
    s clientId message
  unfold HeadlessServer.sendToClient
  generalize sendToClientWith env _ s clientId message = result at *
  cases hSending with
  | tooLarge | absent | detached => exact hStart
  | queued => exact hLax.similar s _ (similar_noted hOther _) hStart
  | broken =>
    apply hLax.removeClientAndResizeIfNeeded
    exact hLax.similar s _ ⟨rfl, rfl, rfl, rfl, rfl, rfl, rfl⟩ hStart

theorem sendToForegroundClient {message : ServerMessage}
  (hOther : message.isPrefixInputSource = false) (hStart : R s) :
  R (s.sendToForegroundClient env message).1 := by
  unfold HeadlessServer.sendToForegroundClient
  split
  · exact hStart
  · exact hLax.sendToClient hOther hStart _

section

variable (hStart : R s)
include hStart

theorem sendNotification (notification : Notification) :
  R (s.sendNotification env notification) := hLax.sendToForegroundClient rfl hStart

theorem foldl_sendNotification (notifications : List Notification) :
  R (notifications.foldl (HeadlessServer.sendNotification env) s) := by
  induction notifications generalizing s with
  | nil => exact hStart
  | cons notification notifications ih => exact ih (hLax.sendNotification hStart notification)

theorem forwardApiNotificationSound (sound : NotificationShowSound) :
  R (s.forwardApiNotificationSound env sound) := by
  unfold HeadlessServer.forwardApiNotificationSound
  split
  · exact hStart
  · exact hLax.sendToForegroundClient rfl hStart

theorem sendShutdown (clientId : ClientId) (reason : String) :
  R (s.sendShutdown env clientId reason) := hLax.sendToClient rfl hStart clientId

theorem refuseClient (clientId : ClientId) (reason : String) :
  R (s.refuseClient env clientId reason) :=
  hLax.removeClientAndResizeIfNeeded (hLax.sendShutdown hStart clientId reason) clientId

theorem takeOverTerminal (owner : Option ClientId) :
  R (s.takeOverTerminal env owner) := by
  cases owner with
  | none => exact hStart
  | some owner => exact hLax.refuseClient hStart owner _

theorem shutdownTerminalStreamClients (terminalId : String) :
  R (s.shutdownTerminalStreamClients env terminalId) := by
  unfold HeadlessServer.shutdownTerminalStreamClients
  generalize s.terminalStreamClientIds terminalId = clientIds
  induction clientIds generalizing s with
  | nil => exact hStart
  | cons clientId clientIds ih => exact ih (hLax.refuseClient hStart clientId _)

theorem removeBrokenClients (broken : List ClientId) :
  R (s.removeBrokenClients env broken) := by
  induction broken generalizing s with
  | nil => exact hStart
  | cons clientId broken ih => exact ih (hLax.removeClientAndResizeIfNeeded hStart clientId)

end

theorem broadcast (hOther : message.isPrefixInputSource = false) (hStart : R s)
  (clientIds : List ClientId) : R (broadcast env message s clientIds).1 := by
  induction clientIds generalizing s with
  | nil => exact hStart
  | cons clientId clientIds ih =>
    unfold HeadlessServer.broadcast
    split
    · exact ih (hLax.similar s _ (similar_noted hOther _) hStart)
    · exact ih (hLax.similar s _ ⟨rfl, rfl, rfl, rfl, rfl, rfl, rfl⟩ hStart)

theorem sendToAllClients (hOther : message.isPrefixInputSource = false) (hStart : R s) :
  R (s.sendToAllClients env message) := by
  unfold HeadlessServer.sendToAllClients
  split
  · exact hStart
  · exact hLax.removeBrokenClients (hLax.broadcast hOther hStart _) _

theorem initiateShutdown (hStart : R s) : R (s.initiateShutdown env) := by
  unfold HeadlessServer.initiateShutdown
  split
  · exact hStart
  · apply hLax.sendToAllClients rfl
    exact hLax.similar s _ ⟨rfl, rfl, rfl, rfl, rfl, rfl, rfl⟩ hStart

theorem allocateActivityStamp (hStart : R s) : R s.allocateActivityStamp.1 :=
  hLax.similar s _ ⟨rfl, rfl, rfl, rfl, rfl, rfl, rfl⟩ hStart

theorem noteOuterTerminalFocus (hStart : R s) (clientId : ClientId) (focus : Option Bool) :
  R (s.noteOuterTerminalFocus clientId focus) := by
  unfold HeadlessServer.noteOuterTerminalFocus
  split
  · exact hStart
  split
  · exact hLax.updated s clientId _ (fun _ => rfl) hStart
  · exact hStart

theorem detachIfRequested (hStart : R s) (clientId : ClientId) :
  R (s.detachIfRequested env clientId) := by
  unfold HeadlessServer.detachIfRequested
  split
  · apply hLax.detached
    apply hLax.sendShutdown
    exact hLax.similar s _ ⟨rfl, rfl, rfl, rfl, rfl, rfl, rfl⟩ hStart
  · exact hStart

theorem disconnectClients (hStart : R s) (clientIds : List ClientId) (reason : String) :
  R (clientIds.foldl (fun s clientId =>
    ((s.sendShutdown env clientId reason).detachWriter clientId |>.removeClient env
      clientId).1) s) := by
  induction clientIds generalizing s with
  | nil => exact hStart
  | cons clientId clientIds ih =>
    apply ih
    apply hLax.removed
    apply hLax.detached
    exact hLax.sendShutdown hStart clientId _

end Lax

namespace Discipline

variable {Loose Settled : HeadlessServer → Prop} (hDiscipline : Discipline env Loose Settled)

include hDiscipline

theorem syncForegroundClientState (hStart : Loose s) : Settled (syncForegroundClientState env s) :=
  hDiscipline.focused s s.foregroundClientId hStart

theorem promoteClientToForeground (hStart : Settled s) (clientId : ClientId) :
  Settled (s.promoteClientToForeground env clientId).1 := by
  have hStamped := hDiscipline.settled.allocateActivityStamp hStart
  unfold HeadlessServer.promoteClientToForeground
  dsimp only
  split
  · exact hStamped
  apply hDiscipline.focused _ (some clientId)
  apply hDiscipline.loosen
  exact hDiscipline.settled.updated _ clientId _ (fun _ => rfl) hStamped

theorem promoteLatestRemainingClient (hStart : Loose s) :
  Settled (s.promoteLatestRemainingClient env).1 :=
  hDiscipline.focused s _ hStart

theorem reloadServerConfig (hStart : Loose s) (change : AppChange) :
  Settled (s.reloadServerConfig env change) :=
  hDiscipline.syncForegroundClientState (hDiscipline.changed s (change s.app) hStart)

theorem promoteInteracting (hStart : Settled s) (clientId : ClientId) (interaction : Bool) :
  Settled (s.promoteInteracting env clientId interaction) := by
  have hPromoted := hDiscipline.promoteClientToForeground hStart clientId
  unfold HeadlessServer.promoteInteracting
  dsimp only
  split
  · split
    · exact hDiscipline.settled.resized _ hPromoted
    · exact hPromoted
  · exact hStart

theorem routeClientEvents (hStart : Loose s) (input : ClientInput) :
  Settled (s.routeClientEvents env input) := by
  have hRouted := hDiscipline.changed s (input.routed s.app) hStart
  unfold HeadlessServer.routeClientEvents
  split
  · exact hDiscipline.reloadServerConfig hRouted _
  · exact hDiscipline.syncForegroundClientState hRouted

section

variable (hStart : Settled s)
include hStart

section

variable (clientId : ClientId)

theorem handleClientInputEvents (input : ClientInput) :
  Settled (s.handleClientInputEvents env clientId input) := by
  have hNoted := hDiscipline.settled.noteOuterTerminalFocus hStart clientId
    input.outerTerminalFocus
  have hPromoted := hDiscipline.promoteInteracting hNoted clientId input.interaction
  unfold HeadlessServer.handleClientInputEvents
  apply hDiscipline.settled.detachIfRequested
  apply hDiscipline.routeClientEvents
  apply hDiscipline.loosen
  split
  · exact hDiscipline.settled.resized _ hPromoted
  · exact hPromoted

theorem leaveApp (mode : ClientConnectionMode) :
  Settled (s.leaveApp env clientId mode) := by
  have hLeft := hDiscipline.settled.updated _ clientId
    (fun client => { client with
      mode, pendingTerminalAttach := false, lastActivity := s.allocateActivityStamp.2 })
    (fun _ => rfl) (hDiscipline.settled.allocateActivityStamp hStart)
  unfold HeadlessServer.leaveApp
  dsimp only
  split
  · exact hDiscipline.promoteLatestRemainingClient (hDiscipline.loosen _ hLeft)
  · exact hLeft

theorem attachTerminalClient (terminalId : String)
  (takeover found readInProgress : Bool) :
  Settled (s.attachTerminalClient env clientId terminalId takeover found readInProgress) := by
  have hSettled := hDiscipline.settled
  unfold HeadlessServer.attachTerminalClient
  dsimp only
  split
  · exact hSettled.refuseClient hStart clientId _
  split
  · exact hSettled.refuseClient hStart clientId _
  split
  · exact hSettled.refuseClient hStart clientId _
  generalize Option.filter _ _ = other
  split
  · exact hSettled.refuseClient hStart clientId _
  have hTaken := hSettled.takeOverTerminal hStart other
  split
  · exact hSettled.allocateActivityStamp hTaken
  refine hSettled.similar _ _ ?_
    (hDiscipline.leaveApp hTaken clientId (.terminalAttach terminalId))
  exact ⟨rfl, rfl, rfl, rfl, rfl, rfl, rfl⟩

theorem observeTerminalClient (target : String)
  (resolved : Option String) :
  Settled (s.observeTerminalClient env clientId target resolved) := by
  unfold HeadlessServer.observeTerminalClient
  split
  · exact hDiscipline.settled.refuseClient hStart clientId _
  · exact hDiscipline.leaveApp hStart clientId _

theorem controlTerminalClient (target : String)
  (resolved : Option String) (takeover found readInProgress : Bool) :
  Settled
    (s.controlTerminalClient env clientId target resolved takeover found readInProgress) := by
  unfold HeadlessServer.controlTerminalClient
  split
  · exact hDiscipline.settled.refuseClient hStart clientId _
  · exact hDiscipline.attachTerminalClient hStart clientId _ _ _ _

end

end

theorem connectClient (hFresh : clientId ∉ s.connected) (hStart : Settled s)
  (directAttachRequested : Bool) :
  Settled (s.connectClient env clientId directAttachRequested) := by
  have hStamped := hDiscipline.loosen _ (hDiscipline.settled.allocateActivityStamp hStart)
  apply hDiscipline.settled.resized
  exact hDiscipline.focused _ _ (hDiscipline.joined s.allocateActivityStamp.1 clientId _
    hFresh hStamped)

theorem pasteClientClipboardImagePath (hStart : Settled s) (clientId : ClientId) :
  Settled (s.pasteClientClipboardImagePath env clientId) := by
  have hPromoted := hDiscipline.promoteClientToForeground hStart clientId
  unfold HeadlessServer.pasteClientClipboardImagePath
  dsimp only
  split
  · exact hDiscipline.settled.resized _ hPromoted
  · exact hPromoted

theorem handleServerEvent {ev : ServerEvent} (hFresh : s.Fresh (.server ev))
  (hStart : Settled s) : Settled (s.handleServerEvent env ev) := by
  have hSettled := hDiscipline.settled
  unfold HeadlessServer.handleServerEvent
  split
  · exact hStart
  cases ev with
  | clientConnected clientId directAttachRequested =>
    dsimp only
    split
    · exact hStart
    · exact hDiscipline.connectClient hFresh hStart directAttachRequested
  | clientAttachTerminal => exact hDiscipline.attachTerminalClient hStart _ _ _ _ _
  | clientObserveTerminal => exact hDiscipline.observeTerminalClient hStart _ _ _
  | clientControlTerminal => exact hDiscipline.controlTerminalClient hStart _ _ _ _ _ _
  | clientInput clientId input =>
    dsimp only
    split
    · exact hStart
    · exact hStart
    · exact hDiscipline.handleClientInputEvents hStart clientId input
  | clientInputEvents clientId input =>
    dsimp only
    split
    · exact hStart
    · exact hDiscipline.handleClientInputEvents hStart clientId input
  | clientPasteRejected clientId => exact hSettled.sendToClient rfl hStart clientId
  | clientClipboardImage clientId staged =>
    dsimp only
    split
    · exact hStart
    · exact hStart
    · split
      · exact hDiscipline.pasteClientClipboardImagePath hStart clientId
      · exact hStart
  | clientResize clientId =>
    dsimp only
    split
    · exact hStart
    · exact hStart
    · exact hSettled.resized _ (hDiscipline.promoteClientToForeground hStart clientId)
  | clientDetach clientId =>
    apply hSettled.removeClientAndResizeIfNeeded
    split
    · exact hSettled.sendShutdown hStart clientId _
    · exact hSettled.sendShutdown hStart clientId _
    · exact hStart
  | clientDisconnected clientId => exact hSettled.removeClientAndResizeIfNeeded hStart clientId

section

variable (hStart : Loose s)
include hStart

theorem performInternalEvent (ev : InternalEvent) :
  Loose (s.performInternalEvent env ev) := by
  have hLoose := hDiscipline.loose
  have hChanged := hDiscipline.changed
  unfold HeadlessServer.performInternalEvent
  cases ev with
  | clipboardWrite content =>
    have hSent := @Lax.sendToForegroundClient env s _ hLoose (.clipboard content) rfl hStart
    unfold HeadlessServer.handleClipboardWrite
    dsimp only
    split
    · exact hChanged _ _ hSent
    · exact hSent
  | prefixInputSource => exact hStart
  | stateChanged change notifications =>
    apply hLoose.foldl_sendNotification
    apply hChanged
    exact hDiscipline.loosen _ (hDiscipline.syncForegroundClientState hStart)
  | updateReady change notification => exact hLoose.foldl_sendNotification (hChanged _ _ hStart) _
  | paneDied exited change terminalId =>
    have hExited := hChanged _ (change (exited.foldl (sendNotification env) s).app)
      (hLoose.foldl_sendNotification hStart exited)
    cases terminalId with
    | none => exact hExited
    | some terminalId => exact hLoose.shutdownTerminalStreamClients hExited terminalId
  | other change => exact hChanged _ _ hStart

theorem handleInternalEventWithForwarding (ev : InternalEvent) :
  Settled (s.handleInternalEventWithForwarding env ev) :=
  hDiscipline.synced _ (hDiscipline.performInternalEvent hStart ev)

theorem disconnectAllClientsForHandoff :
  Settled (s.disconnectAllClientsForHandoff env) := by
  apply hDiscipline.settled.resized
  apply hDiscipline.focused
  exact hDiscipline.loose.disconnectClients hStart _ _

theorem performLiveHandoff (handoff : LiveHandoff) :
  Loose (s.performLiveHandoff env handoff) := by
  have hLoose := hDiscipline.loose
  have hBegun : Loose { s with handoffInProgress := true } :=
    hLoose.similar s _ ⟨rfl, rfl, rfl, rfl, rfl, rfl, rfl⟩ hStart
  have hDone := hDiscipline.loosen _ (hDiscipline.disconnectAllClientsForHandoff hBegun)
  cases handoff with
  | refused => exact hStart
  | rolledBack =>
    refine hLoose.similar _ _ ?_ hDone
    exact ⟨rfl, rfl, rfl, rfl, rfl, rfl, rfl⟩
  | committed =>
    refine hLoose.similar _ _ ?_ hDone
    exact ⟨rfl, rfl, rfl, rfl, rfl, rfl, rfl⟩

theorem showOnClient (kind : NotifyKind) (title : String)
  (body : Option String) (sound : NotificationShowSound) (now clock : Terminal.Instant) :
  Loose (s.showOnClient env kind title body sound now clock).1 := by
  have hSent := @Lax.sendToForegroundClient env s _ hDiscipline.loose (.notify kind title body)
    rfl hStart
  unfold HeadlessServer.showOnClient
  split
  · exact hStart
  dsimp only
  split
  · exact hDiscipline.loose.forwardApiNotificationSound (hDiscipline.changed _ _ hSent) sound
  · exact hSent

theorem handleNotificationShowApi (params : NotificationShowParams)
  (now clock : Terminal.Instant) :
  Loose (s.handleNotificationShowApi env params now clock).1 := by
  unfold HeadlessServer.handleNotificationShowApi
  cases sanitizeNotificationText params.title 80 with
  | none => exact hStart
  | some title =>
    cases s.app.toastDelivery with
    | off => exact hStart
    | herdr =>
      have hShown := hDiscipline.changed s
        (s.app.handleNotificationShow title (params.body.bind fun body =>
          sanitizeNotificationText body 240) now clock).1 hStart
      dsimp only
      split
      · exact hDiscipline.loose.forwardApiNotificationSound hShown params.sound
      · exact hShown
    | terminal => exact hDiscipline.showOnClient hStart _ _ _ _ _ _
    | system => exact hDiscipline.showOnClient hStart _ _ _ _ _ _

theorem handleClientWindowTitleApi (title : Option String) :
  Loose (s.handleClientWindowTitleApi env title).1 := by
  unfold HeadlessServer.handleClientWindowTitleApi
  split
  · exact hStart
  · exact hDiscipline.loose.sendToForegroundClient rfl hStart

theorem foldl_internalEvents (drained : List InternalEvent) :
  Loose (drained.foldl (HeadlessServer.handleInternalEventWithForwarding env) s) := by
  induction drained generalizing s with
  | nil => exact hStart
  | cons ev drained ih =>
    exact ih (hDiscipline.loosen _ (hDiscipline.handleInternalEventWithForwarding hStart ev))

theorem performApiWork (notifications : List Notification)
  (defaultWorkspace : AppChange) (work : ApiWork) :
  Loose (s.performApiWork env notifications defaultWorkspace work) := by
  have hChanged := hDiscipline.changed
  cases work with
  | respondEarly => exact hStart
  | mutate change =>
    apply hChanged
    exact hDiscipline.loose.foldl_sendNotification (hChanged _ _ hStart) notifications
  | reloadConfig change =>
    apply hChanged
    apply hDiscipline.loose.foldl_sendNotification
    exact hDiscipline.loosen _ (hDiscipline.reloadServerConfig hStart change)

theorem performApiRequest (request : ApiRequest) :
  Loose (s.performApiRequest env request) := by
  unfold HeadlessServer.performApiRequest
  split
  · exact hStart
  cases request with
  | deferred => exact hStart
  | liveHandoff handoff => exact hDiscipline.performLiveHandoff hStart handoff
  | notificationShow params now clock => exact hDiscipline.handleNotificationShowApi hStart _ _ _
  | clientWindowTitle title => exact hDiscipline.handleClientWindowTitleApi hStart title
  | app drained work notifications defaultWorkspace =>
    apply hDiscipline.performApiWork
    apply hDiscipline.loosen
    apply hDiscipline.syncForegroundClientState
    exact hDiscipline.foldl_internalEvents hStart drained

theorem handleApiRequest (request : ApiRequest) :
  Settled (s.handleApiRequest env request) :=
  hDiscipline.synced _ (hDiscipline.performApiRequest hStart request)

end

/-- After a switch-over it is settled what was loose before. -/
theorem switchedOver {ev : LoopEvent} (hOver : switchesOver ev = true) (hStart : Loose s) :
  Settled (s.handleLoopEvent env ev) := by
  cases ev with
  | internal ev => exact hDiscipline.handleInternalEventWithForwarding hStart ev
  | api request => exact hDiscipline.handleApiRequest hStart request
  | settings change => exact hDiscipline.reloadServerConfig hStart change
  | server | task | streamed | reloadClientConfig | shutdown => cases hOver

/-- Every event keeps what is settled, except that a task of the application may have to wait for
the next switch-over. -/
theorem handleLoopEvent {ev : LoopEvent} (hFresh : s.Fresh ev) (hStart : Settled s)
  (hTask : ∀ change, ev = .task change → Settled { s with app := change s.app }) :
  Settled (s.handleLoopEvent env ev) := by
  have hLoose := hDiscipline.loosen s hStart
  cases ev with
  | server ev => exact hDiscipline.handleServerEvent hFresh hStart
  | internal | api | settings => exact hDiscipline.switchedOver rfl hLoose
  | task change => exact hTask change rfl
  | streamed broken => exact hDiscipline.settled.removeBrokenClients hStart broken
  | reloadClientConfig => exact hDiscipline.settled.sendToAllClients rfl hStart
  | shutdown => exact hDiscipline.settled.initiateShutdown hStart

end Discipline

end HeadlessServer

end Headless
