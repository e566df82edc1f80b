import VimeflowTerminal.App.State

/-! The connections of the server, the client in the foreground, and messages to single clients. A
message that cannot be sent removes its client, which can move another one to the foreground and
so send messages again. -/

namespace Headless

open App (Mode ToastDelivery)

abbrev ClientId := Nat

inductive NotifyKind where
  | sound
  | toast
  | systemToast
  deriving DecidableEq

/-- The messages of control; frames are sent on another channel. What is written to a clipboard
is sent in base64. -/
inductive ServerMessage where
  | prefixInputSource (active : Bool)
  | clipboard (content : List UInt8)
  | notify (kind : NotifyKind) (message : String) (body : Option String)
  | windowTitle (title : Option String)
  | reloadSoundConfig
  | serverShutdown (reason : Option String)
  deriving DecidableEq

/-- What is not up to the server: whether the writer of a client is alive when the message with
a number is put on its queue, whether a message fits in a frame, and what the change of size with
a number closes. -/
structure Environment where
  delivers : Nat → Bool
  fits : ServerMessage → Bool
  closesIslandPanel : Nat → Bool
  leavesAgentsMode : Nat → Bool

inductive ClientConnectionMode where
  | app
  | terminalAttach (terminalId : String)
  | terminalObserve (terminalId : String)
  deriving DecidableEq

/-- A client; `writer` tells whether the server still has its channel. -/
structure ClientConnection where
  mode : ClientConnectionMode
  pendingTerminalAttach : Bool
  outerTerminalFocus : Option Bool
  lastActivity : Nat
  writer : Bool
  deriving DecidableEq

def ClientConnection.isFullAppClient (client : ClientConnection) : Bool :=
  client.mode = .app && !client.pendingTerminalAttach

def ClientConnection.isTerminalStream (client : ClientConnection) : Bool :=
  match client.mode with
  | .app => false
  | .terminalAttach _ | .terminalObserve _ => true

/-- The part of the application that decides what is sent. -/
structure ServerApp where
  mode : Mode
  islandPanelOpen : Bool
  switchAsciiInputSourceInPrefix : Bool
  detachRequested : Bool
  toastDelivery : ToastDelivery
  clipboardFeedback : Bool
  copyFeedback : Option String
  toast : Option (String × String)
  lastApiNotificationAt : Option Terminal.Instant

namespace ServerApp

def modeWantsAsciiInput : Mode → Bool
  | .prefixKey | .navigate | .navigator | .copy | .resize | .agents | .confirmClose
  | .confirmRemoveWorktree | .contextMenu | .globalMenu | .keybindHelp => true
  | _ => false

def wantsAsciiInput (app : ServerApp) : Bool :=
  modeWantsAsciiInput app.mode || app.islandPanelOpen

def exitAgentsMode (app : ServerApp) : ServerApp :=
  if app.mode = .agents then { app with mode := .terminal } else app

def closeIslandPanel (app : ServerApp) : ServerApp := { app with islandPanelOpen := false }

end ServerApp

/-- What happens to a client, in order. -/
inductive ClientNote where
  | sent (clientId : ClientId) (message : ServerMessage)
  | detached (clientId : ClientId)
  | removed (clientId : ClientId)
  deriving DecidableEq

/-- The server; `sends` and `resizes` number what it has attempted so far, and `connected` has
the identities of all its clients. -/
structure HeadlessServer where
  clients : FinMap ClientId ClientConnection
  foregroundClientId : Option ClientId
  prefixInputSourceClientId : Option ClientId
  terminalAttachOwners : FinMap String ClientId
  nextActivityStamp : Nat
  handoffInProgress : Bool
  shuttingDown : Bool
  app : ServerApp
  sends : Nat
  resizes : Nat
  connected : List ClientId
  notes : List ClientNote

/-- The first entry with the largest activity; of several the one that comes last. -/
def latestAppClient (clients : FinMap ClientId ClientConnection) : Option ClientId :=
  ((clients.entries.filter fun entry => entry.2.isFullAppClient).foldl
    (fun latest entry =>
      match latest with
      | none => some entry
      | some best => if best.2.lastActivity ≤ entry.2.lastActivity then some entry else some best)
    none).map Sigma.fst

namespace HeadlessServer

def allocateActivityStamp (s : HeadlessServer) : HeadlessServer × Nat :=
  ({ s with nextActivityStamp := min (s.nextActivityStamp + 1) (2 ^ 64 - 1) },
    s.nextActivityStamp)

/-- Change the connection of a client. -/
def updateClient (s : HeadlessServer) (clientId : ClientId)
  (update : ClientConnection → ClientConnection) : HeadlessServer :=
  { s with
    clients := s.clients.mapValues fun id client =>
      if id = clientId then update client else client }

/-- A client that is gone is not in the foreground. What else is taken over from the client in
the foreground does not count here. -/
def syncForegroundClientStateInner (s : HeadlessServer) : HeadlessServer :=
  match s.foregroundClientId with
  | none => s
  | some clientId =>
    match s.clients.lookup clientId with
    | none => { s with foregroundClientId := none }
    | some _ => s

/-- Whether the client in the foreground should have an input source for commands. -/
def prefixInputSourceActive (s : HeadlessServer) : Bool :=
  s.app.switchAsciiInputSourceInPrefix && s.app.wantsAsciiInput

def prefixInputSourceTarget (s : HeadlessServer) : Option ClientId :=
  if s.prefixInputSourceActive then s.foregroundClientId else none

variable (env : Environment)

/-- Change the shared size to that of the client in the foreground, which can close panels. -/
def resizeSharedRuntimeToEffectiveSize (s : HeadlessServer) : HeadlessServer :=
  match s.foregroundClientId.bind fun clientId => s.clients.lookup clientId with
  | none => s
  | some _ =>
    let app := if env.leavesAgentsMode s.resizes then s.app.exitAgentsMode else s.app
    { s with
      resizes := s.resizes + 1
      app := if env.closesIslandPanel s.resizes then app.closeIslandPanel else app }

/-- `send_to_client`, with what is done to a client whose channel is closed. -/
def sendToClientWith (remove : HeadlessServer → ClientId → HeadlessServer) (s : HeadlessServer)
  (clientId : ClientId) (message : ServerMessage) : HeadlessServer × Bool :=
  if !env.fits message then (s, false)
  else
    match s.clients.lookup clientId with
    | none => (s, false)
    | some client =>
      if !client.writer then (s, true)
      else if env.delivers s.sends then
        ({ s with sends := s.sends + 1, notes := s.notes ++ [.sent clientId message] }, true)
      else (remove { s with sends := s.sends + 1 } clientId, false)

section Sync

variable (sync : HeadlessServer → HeadlessServer)

def syncForegroundClientStateWith (s : HeadlessServer) : HeadlessServer :=
  sync s.syncForegroundClientStateInner

def promoteLatestRemainingClientWith (s : HeadlessServer) : HeadlessServer × Bool :=
  let nextForeground := latestAppClient s.clients
  let changed := decide (nextForeground ≠ s.foregroundClientId)
  (syncForegroundClientStateWith sync { s with foregroundClientId := nextForeground }, changed)

/-- Take a client out of the table of clients. -/
def forgetClient (s : HeadlessServer) (clientId : ClientId) : HeadlessServer :=
  match s.clients.lookup clientId with
  | none => s
  | some client =>
    { s with
      clients := s.clients.erase clientId
      terminalAttachOwners :=
        match client.mode with
        | .terminalAttach terminalId => s.terminalAttachOwners.erase terminalId
        | _ => s.terminalAttachOwners
      notes := s.notes ++ [.removed clientId] }

def removeClientWith (s : HeadlessServer) (clientId : ClientId) : HeadlessServer × Bool :=
  if s.foregroundClientId = some clientId then
    promoteLatestRemainingClientWith sync (s.forgetClient clientId)
  else (s.forgetClient clientId, false)

def clientRemovalNeedsSharedResize (s : HeadlessServer) (clientId : ClientId) : Bool :=
  s.foregroundClientId = some clientId ||
    ((s.clients.lookup clientId).any ClientConnection.isTerminalStream &&
      s.foregroundClientId.isSome)

def removeClientAndResizeIfNeededWith (s : HeadlessServer) (clientId : ClientId) :
  HeadlessServer :=
  let needsSharedResize := s.clientRemovalNeedsSharedResize clientId
  let (s, foregroundChanged) := removeClientWith sync s clientId
  if needsSharedResize || foregroundChanged then s.resizeSharedRuntimeToEffectiveSize env else s

end Sync

section Send

variable (remove : HeadlessServer → ClientId → HeadlessServer)

/-- Tell the client that has the input source for commands to restore its own. -/
def restorePrefixInputSourceWith (s : HeadlessServer) : HeadlessServer :=
  match s.prefixInputSourceClientId with
  | none => s
  | some previous =>
    (sendToClientWith env remove { s with prefixInputSourceClientId := none } previous
      (.prefixInputSource false)).1

def switchPrefixInputSourceWith (s : HeadlessServer) (target : Option ClientId) :
  HeadlessServer :=
  match target with
  | none => s
  | some clientId =>
    let (s, sent) := sendToClientWith env remove s clientId (.prefixInputSource true)
    if sent then { s with prefixInputSourceClientId := some clientId } else s

end Send

/-- `sync_desired_prefix_input_source`. Each client that is removed on the way is one less to
send to, so that as many rounds as there are clients are enough. -/
def syncRounds : Nat → HeadlessServer → HeadlessServer
  | 0, s => s
  | rounds + 1, s =>
    let remove := removeClientAndResizeIfNeededWith env (syncRounds rounds)
    let target := s.prefixInputSourceTarget
    if s.prefixInputSourceClientId = target then s
    else switchPrefixInputSourceWith env remove (restorePrefixInputSourceWith env remove s) target

def syncDesiredPrefixInputSource (s : HeadlessServer) : HeadlessServer :=
  syncRounds env (s.clients.keys.length + 1) s

def syncForegroundClientState (s : HeadlessServer) : HeadlessServer :=
  syncForegroundClientStateWith (syncDesiredPrefixInputSource env) s

def promoteLatestRemainingClient (s : HeadlessServer) : HeadlessServer × Bool :=
  promoteLatestRemainingClientWith (syncDesiredPrefixInputSource env) s

def removeClient (s : HeadlessServer) (clientId : ClientId) : HeadlessServer × Bool :=
  removeClientWith (syncDesiredPrefixInputSource env) s clientId

def removeClientAndResizeIfNeeded (s : HeadlessServer) (clientId : ClientId) : HeadlessServer :=
  removeClientAndResizeIfNeededWith env (syncDesiredPrefixInputSource env) s clientId

def sendToClient (s : HeadlessServer) (clientId : ClientId) (message : ServerMessage) :
  HeadlessServer × Bool :=
  sendToClientWith env (removeClientAndResizeIfNeeded env) s clientId message

/-- Send a side effect to the client in the foreground only. -/
def sendToForegroundClient (s : HeadlessServer) (message : ServerMessage) :
  HeadlessServer × Bool :=
  match s.foregroundClientId with
  | none => (s, false)
  | some clientId => s.sendToClient env clientId message

def promoteClientToForeground (s : HeadlessServer) (clientId : ClientId) :
  HeadlessServer × Bool :=
  let (s, stamp) := s.allocateActivityStamp
  match s.clients.lookup clientId with
  | none => (s, false)
  | some _ =>
    let s := s.updateClient clientId fun client => { client with lastActivity := stamp }
    let changed := decide (s.foregroundClientId ≠ some clientId)
    (syncForegroundClientState env { s with foregroundClientId := some clientId }, changed)

variable {env : Environment}

/-- How a message to a client can go: it is too large, the client is not there, has no channel,
gets the message, or turns out to be gone. -/
inductive Sending (env : Environment) (remove : HeadlessServer → ClientId → HeadlessServer)
  (s : HeadlessServer) (clientId : ClientId) (message : ServerMessage) :
  HeadlessServer × Bool → Prop where
  | tooLarge (hFits : env.fits message = false) : Sending env remove s clientId message (s, false)
  | absent (hClient : s.clients.lookup clientId = none) :
      Sending env remove s clientId message (s, false)
  | detached {client : ClientConnection} (hClient : s.clients.lookup clientId = some client)
      (hClosed : client.writer = false) : Sending env remove s clientId message (s, true)
  | queued {client : ClientConnection} (hClient : s.clients.lookup clientId = some client)
      (hOpen : client.writer = true) (hDelivers : env.delivers s.sends = true) :
      Sending env remove s clientId message
        ({ s with sends := s.sends + 1, notes := s.notes ++ [.sent clientId message] }, true)
  | broken {client : ClientConnection} (hClient : s.clients.lookup clientId = some client)
      (hOpen : client.writer = true) (hDelivers : env.delivers s.sends = false) :
      Sending env remove s clientId message (remove { s with sends := s.sends + 1 } clientId, false)

theorem sendToClientWith_sending (env : Environment)
  (remove : HeadlessServer → ClientId → HeadlessServer) (s : HeadlessServer)
  (clientId : ClientId) (message : ServerMessage) :
  Sending env remove s clientId message (sendToClientWith env remove s clientId message) := by
  unfold sendToClientWith
  cases hFits : env.fits message with
  | false => exact .tooLarge hFits
  | true =>
    cases hClient : s.clients.lookup clientId with
    | none => exact .absent hClient
    | some client =>
      cases hOpen : client.writer with
      | false => simpa [hOpen] using .detached hClient hOpen
      | true =>
        cases hDelivers : env.delivers s.sends with
        | true => simpa [hOpen] using .queued hClient hOpen hDelivers
        | false => simpa [hOpen] using .broken hClient hOpen hDelivers

/-- A property that each single change of sending and removing keeps. -/
structure Kept (env : Environment) (P : HeadlessServer → Prop) : Prop where
  owner : ∀ s owner, P s → P { s with prefixInputSourceClientId := owner }
  attempted : ∀ s, P s → P { s with sends := s.sends + 1 }
  noted : ∀ s clientId message, P s → P { s with notes := s.notes ++ [.sent clientId message] }
  forgotten : ∀ s clientId, s.foregroundClientId ≠ some clientId → P s →
    P (s.forgetClient clientId)
  promoted : ∀ s clientId foreground, P s →
    P (syncForegroundClientStateInner
      { s.forgetClient clientId with foregroundClientId := foreground })
  resized : ∀ s, P s → P (s.resizeSharedRuntimeToEffectiveSize env)

namespace Kept

variable {P : HeadlessServer → Prop} {sync : HeadlessServer → HeadlessServer} {s : HeadlessServer}

theorem removeClientWith (hKept : Kept env P) (hSync : ∀ s, P s → P (sync s))
  (clientId : ClientId) (hStart : P s) : P (removeClientWith sync s clientId).1 := by
  unfold HeadlessServer.removeClientWith
  split
  case isTrue => exact hSync _ (hKept.promoted s clientId _ hStart)
  case isFalse hForeground => exact hKept.forgotten s clientId hForeground hStart

theorem removeClientAndResizeIfNeededWith (hKept : Kept env P) (hSync : ∀ s, P s → P (sync s))
  (clientId : ClientId) (hStart : P s) :
  P (removeClientAndResizeIfNeededWith env sync s clientId) := by
  have hRemoved := hKept.removeClientWith hSync clientId hStart
  unfold HeadlessServer.removeClientAndResizeIfNeededWith
  dsimp only
  split
  · exact hKept.resized _ hRemoved
  · exact hRemoved

variable {remove : HeadlessServer → ClientId → HeadlessServer}

section

variable (hKept : Kept env P)
include hKept

section

variable (hRemove : ∀ s clientId, P s → P (remove s clientId))
include hRemove

theorem sendToClientWith
  (clientId : ClientId)
  (message : ServerMessage) (hStart : P s) :
  P (sendToClientWith env remove s clientId message).1 := by
  have hAttempted := hKept.attempted s hStart
  have hSending := sendToClientWith_sending env remove s clientId message
  generalize HeadlessServer.sendToClientWith env remove s clientId message = result at *
  cases hSending with
  | tooLarge | absent | detached => exact hStart
  | queued => exact hKept.noted _ clientId message hAttempted
  | broken => exact hRemove _ clientId hAttempted

theorem restorePrefixInputSourceWith
  (hStart : P s) :
  P (restorePrefixInputSourceWith env remove s) := by
  unfold HeadlessServer.restorePrefixInputSourceWith
  split
  · exact hStart
  · exact hKept.sendToClientWith hRemove _ _ (hKept.owner s none hStart)

theorem switchPrefixInputSourceWith
  (target : Option ClientId)
  (hStart : P s) : P (switchPrefixInputSourceWith env remove s target) := by
  cases target with
  | none => exact hStart
  | some clientId =>
    have hSent := hKept.sendToClientWith hRemove clientId (.prefixInputSource true) hStart
    unfold HeadlessServer.switchPrefixInputSourceWith
    dsimp only
    split
    · exact hKept.owner _ _ hSent
    · exact hSent

end

theorem syncRounds (rounds : Nat) (hStart : P s) :
  P (syncRounds env rounds s) := by
  induction rounds generalizing s with
  | zero => exact hStart
  | succ rounds ih =>
    have hRemove : ∀ s clientId, P s →
        P (HeadlessServer.removeClientAndResizeIfNeededWith env
          (HeadlessServer.syncRounds env rounds) s clientId) :=
      fun s clientId => hKept.removeClientAndResizeIfNeededWith (fun _ => ih) clientId
    unfold HeadlessServer.syncRounds
    dsimp only
    split
    · exact hStart
    · apply hKept.switchPrefixInputSourceWith hRemove
      exact hKept.restorePrefixInputSourceWith hRemove hStart

theorem removeClientAndResizeIfNeeded (clientId : ClientId) (hStart : P s) :
  P (s.removeClientAndResizeIfNeeded env clientId) :=
  hKept.removeClientAndResizeIfNeededWith (fun _ => hKept.syncRounds _) clientId hStart

theorem sendToClient (clientId : ClientId) (message : ServerMessage)
  (hStart : P s) : P (s.sendToClient env clientId message).1 :=
  hKept.sendToClientWith (fun _ _ => hKept.removeClientAndResizeIfNeeded _) clientId message hStart

theorem sendToForegroundClient (message : ServerMessage) (hStart : P s) :
  P (s.sendToForegroundClient env message).1 := by
  unfold HeadlessServer.sendToForegroundClient
  split
  · exact hStart
  · exact hKept.sendToClient _ message hStart

end

end Kept

theorem notes_forgetClient (s : HeadlessServer) (clientId : ClientId) :
  s.notes <+: (s.forgetClient clientId).notes := by
  unfold forgetClient
  split
  · exact List.prefix_rfl
  · exact List.prefix_append _ _

/-- At most the client in the foreground changes. -/
theorem syncForegroundClientStateInner_eq (s : HeadlessServer) :
  ∃ foregroundClientId, s.syncForegroundClientStateInner = { s with foregroundClientId } := by
  unfold syncForegroundClientStateInner
  split
  · exact ⟨_, rfl⟩
  split
  · exact ⟨none, rfl⟩
  · exact ⟨_, rfl⟩

/-- Notes are only added. -/
theorem kept_notes (notes : List ClientNote) :
  Kept env fun s => notes <+: s.notes where
  owner _ _ h := h
  attempted _ h := h
  noted _ _ _ h := h.trans (List.prefix_append _ _)
  forgotten s clientId _ h := h.trans (notes_forgetClient s clientId)
  promoted s clientId foreground h := by
    obtain ⟨after, hAfter⟩ := syncForegroundClientStateInner_eq
      { s.forgetClient clientId with foregroundClientId := foreground }
    rw [hAfter]
    exact h.trans (notes_forgetClient s clientId)
  resized s h := by
    unfold resizeSharedRuntimeToEffectiveSize
    split <;> exact h

end HeadlessServer

end Headless
