import VimeflowTerminal.App.AgentNotifications
import VimeflowTerminal.Headless.Clients

/-! Effects that only the terminal of a client can have. They count as delivered if the message was
sent, but also where the client in the foreground has no channel any more. -/

namespace Headless

open App (Sound ToastDelivery)
open Terminal (Instant)

def soundNotifyMessage : Sound → String
  | .done => "agent done"
  | .request => "agent attention"

def toastNotifyKind : ToastDelivery → Option NotifyKind
  | .terminal => some .toast
  | .system => some .systemToast
  | .off | .herdr => none

/-- The characters that are left of a text, with one blank for each run of white space, until
there are as many as are allowed. -/
def sanitizedChars (maxChars : Nat) (sanitized : List Char) (previousSpace : Bool) :
  List Char → List Char
  | [] => sanitized
  | ch :: rest =>
    let replacement :=
      if ch = '\n' ∨ ch = '\r' ∨ ch = '\t' then some ' '
      else if Utf8.isControl ch then none
      else some ch
    match replacement with
    | none => sanitizedChars maxChars sanitized previousSpace rest
    | some ch =>
      if Detect.isWhitespace ch then
        if previousSpace then sanitizedChars maxChars sanitized previousSpace rest
        else
          let sanitized := sanitized ++ [' ']
          if maxChars ≤ sanitized.length then sanitized
          else sanitizedChars maxChars sanitized true rest
      else
        let sanitized := sanitized ++ [ch]
        if maxChars ≤ sanitized.length then sanitized
        else sanitizedChars maxChars sanitized false rest

def nonEmptyText (text : List Char) : Option String :=
  if text.isEmpty then none else some (String.ofList text)

def sanitizeNotificationText (value : String) (maxChars : Nat) : Option String :=
  nonEmptyText (Detect.trimChars (sanitizedChars maxChars [] false value.toList))

def sanitizeWindowTitleText (value : String) (maxChars : Nat) : Option String :=
  let kept := value.toList.filter fun ch =>
    !(ch = '\x1b' || ch = '\x07' || ch = '\u009c') && !Utf8.isControl ch
  nonEmptyText (Detect.trimChars (kept.take maxChars))

inductive NotificationShowSound where
  | none
  | done
  | request
  deriving DecidableEq

def NotificationShowSound.toSound : NotificationShowSound → Option Sound
  | .none => .none
  | .done => some .done
  | .request => some .request

structure NotificationShowParams where
  title : String
  body : Option String
  sound : NotificationShowSound
  deriving DecidableEq

inductive NotificationShowReason where
  | shown
  | disabled
  | rateLimited
  | noForegroundClient
  | busy
  deriving DecidableEq

inductive ClientWindowTitleReason where
  | set
  | cleared
  | noForegroundClient
  deriving DecidableEq

inductive ApiResponse where
  | error (code message : String)
  | notificationShow (shown : Bool) (reason : NotificationShowReason)
  | clientWindowTitle (changed : Bool) (reason : ClientWindowTitleReason)
  deriving DecidableEq

/-- Whether the answer tells that the effect took place. -/
def ApiResponse.told : ApiResponse → Bool
  | .error _ _ => false
  | .notificationShow shown _ => shown
  | .clientWindowTitle changed _ => changed

namespace ServerApp

def apiNotificationRateLimit : Terminal.Duration := App.seconds 1

def apiNotificationRateLimited (app : ServerApp) (now : Instant) : Bool :=
  app.lastApiNotificationAt.any fun last => now - last < apiNotificationRateLimit

def markApiNotificationShown (app : ServerApp) (now : Instant) : ServerApp :=
  { app with lastApiNotificationAt := some now }

def showClipboardFeedback (app : ServerApp) : ServerApp :=
  { app with copyFeedback := if app.clipboardFeedback then some "copied to clipboard" else none }

/-- `handle_notification_show` of the application, where it draws the toast itself. -/
def handleNotificationShow (app : ServerApp) (title : String) (body : Option String)
  (now clock : Instant) : ServerApp × ApiResponse :=
  if app.toast.isSome then (app, .notificationShow false .busy)
  else if app.apiNotificationRateLimited now then (app, .notificationShow false .rateLimited)
  else
    ({ app.markApiNotificationShown clock with toast := some (title, body.getD "") },
      .notificationShow true .shown)

end ServerApp

namespace HeadlessServer

variable (env : Environment)

def sendNotifyToForegroundClient (s : HeadlessServer) (kind : NotifyKind) (message : String)
  (body : Option String) : HeadlessServer × Bool :=
  s.sendToForegroundClient env (.notify kind message body)

def forwardSound (s : HeadlessServer) (sound : Sound) : HeadlessServer × Bool :=
  s.sendNotifyToForegroundClient env .sound (soundNotifyMessage sound) none

def forwardApiNotificationSound (s : HeadlessServer) (sound : NotificationShowSound) :
  HeadlessServer :=
  match sound.toSound with
  | none => s
  | some sound => (s.forwardSound env sound).1

/-- `AppEvent::ClipboardWrite` -/
def handleClipboardWrite (s : HeadlessServer) (content : List UInt8) : HeadlessServer × Bool :=
  let (s, sent) := s.sendToForegroundClient env (.clipboard content)
  if sent then ({ s with app := s.app.showClipboardFeedback }, true) else (s, false)

/-- A notification for the terminal or the system of the client. -/
def showOnClient (s : HeadlessServer) (kind : NotifyKind) (title : String) (body : Option String)
  (sound : NotificationShowSound) (now clock : Instant) : HeadlessServer × ApiResponse :=
  if s.app.apiNotificationRateLimited now then (s, .notificationShow false .rateLimited)
  else
    let (s, shown) := s.sendNotifyToForegroundClient env kind title body
    if shown then
      let s := { s with app := s.app.markApiNotificationShown clock }
      (s.forwardApiNotificationSound env sound, .notificationShow true .shown)
    else (s, .notificationShow false .noForegroundClient)

def handleNotificationShowApi (s : HeadlessServer) (params : NotificationShowParams)
  (now clock : Instant) : HeadlessServer × ApiResponse :=
  let body := params.body.bind fun body => sanitizeNotificationText body 240
  match sanitizeNotificationText params.title 80 with
  | none => (s, .error "invalid_params" "notification title is empty")
  | some title =>
    match s.app.toastDelivery with
    | .off => (s, .notificationShow false .disabled)
    | .herdr =>
      let (app, response) := s.app.handleNotificationShow title body now clock
      let s := { s with app }
      (if response.told then s.forwardApiNotificationSound env params.sound else s, response)
    | .terminal => s.showOnClient env .toast title body params.sound now clock
    | .system => s.showOnClient env .systemToast title body params.sound now clock

def handleClientWindowTitleApi (s : HeadlessServer) (title : Option String) :
  HeadlessServer × ApiResponse :=
  match title.map fun title => sanitizeWindowTitleText title 200 with
  | some none => (s, .error "invalid_params" "window title is empty")
  | sanitized =>
    let title := sanitized.join
    let (s, changed) := s.sendToForegroundClient env (.windowTitle title)
    let reason :=
      if changed then if title.isSome then .set else .cleared else .noForegroundClient
    (s, .clientWindowTitle changed reason)

end HeadlessServer

/-- What is directed at the client in the foreground. -/
inductive ForegroundEffect where
  | clipboardWrite (content : List UInt8)
  | notify (kind : NotifyKind) (message : String) (body : Option String)
  | agentSound (sound : Sound)
  | windowTitle (title : Option String)
  | notificationShow (params : NotificationShowParams) (now clock : Instant)

namespace ForegroundEffect

/-- The server afterwards, and whether the caller is told that the effect was delivered. -/
def perform (env : Environment) (s : HeadlessServer) : ForegroundEffect → HeadlessServer × Bool
  | .clipboardWrite content => s.handleClipboardWrite env content
  | .notify kind message body => s.sendNotifyToForegroundClient env kind message body
  | .agentSound sound => s.forwardSound env sound
  | .windowTitle title =>
    let (s, response) := s.handleClientWindowTitleApi env title
    (s, response.told)
  | .notificationShow params now clock =>
    let (s, response) := s.handleNotificationShowApi env params now clock
    (s, response.told)

/-- The message of the effect, where the server is to send one. -/
def message (s : HeadlessServer) : ForegroundEffect → Option ServerMessage
  | .clipboardWrite content => some (.clipboard content)
  | .notify kind message body => some (.notify kind message body)
  | .agentSound sound => some (.notify .sound (soundNotifyMessage sound) none)
  | .windowTitle none => some (.windowTitle none)
  | .windowTitle (some title) =>
    (sanitizeWindowTitleText title 200).map fun title => .windowTitle (some title)
  | .notificationShow params now _ => do
    let title ← sanitizeNotificationText params.title 80
    let kind ← toastNotifyKind s.app.toastDelivery
    if s.app.apiNotificationRateLimited now then none
    else
      some (.notify kind title (params.body.bind fun body => sanitizeNotificationText body 240))

/-- A toast that the server draws into its own frames is for no single client. -/
def Directed (s : HeadlessServer) : ForegroundEffect → Prop
  | .notificationShow _ _ _ => s.app.toastDelivery ≠ .herdr
  | _ => True

end ForegroundEffect

namespace HeadlessServer

variable {env : Environment} {s : HeadlessServer}

/-- The message was put on the queue of a client whose writer is alive. -/
def Enqueued (env : Environment) (s t : HeadlessServer) (message : ServerMessage) : Prop :=
  ∃ clientId client, s.foregroundClientId = some clientId ∧
    s.clients.lookup clientId = some client ∧ client.writer = true ∧
    env.delivers s.sends = true ∧ s.notes ++ [.sent clientId message] <+: t.notes

/-- The client in the foreground, if there is one, has a channel. -/
def ForegroundHasWriter (s : HeadlessServer) : Prop :=
  ∀ clientId client, s.foregroundClientId = some clientId →
    s.clients.lookup clientId = some client → client.writer = true

theorem sendToForegroundClient_enqueued {message : ServerMessage}
  (hTold : (s.sendToForegroundClient env message).2 = true) (hWriter : s.ForegroundHasWriter) :
  Enqueued env s (s.sendToForegroundClient env message).1 message := by
  unfold sendToForegroundClient at hTold ⊢
  cases hForeground : s.foregroundClientId with
  | none =>
    rw [hForeground] at hTold
    cases hTold
  | some clientId =>
    rw [hForeground] at hTold
    unfold sendToClient sendToClientWith at hTold ⊢
    cases hFits : env.fits message with
    | false => simp [hFits] at hTold
    | true =>
      simp only [hFits, Bool.not_true, Bool.false_eq_true, if_false] at hTold ⊢
      cases hClient : s.clients.lookup clientId with
      | none => simp [hClient] at hTold
      | some client =>
        have hOpen := hWriter clientId client hForeground hClient
        simp only [hClient, hOpen, Bool.not_true, Bool.false_eq_true, if_false] at hTold ⊢
        cases hDelivers : env.delivers s.sends with
        | false => simp [hDelivers] at hTold
        | true =>
          exact ⟨clientId, client, hForeground, hClient, hOpen, hDelivers,
            List.prefix_refl _⟩

theorem sendToForegroundClient_told {message : ServerMessage} {clientId : ClientId}
  {client : ClientConnection} (hFits : env.fits message = true)
  (hForeground : s.foregroundClientId = some clientId)
  (hClient : s.clients.lookup clientId = some client) (hClosed : client.writer = false) :
  (s.sendToForegroundClient env message).2 = true := by
  simp [sendToForegroundClient, sendToClient, sendToClientWith, hFits, hForeground, hClient,
    hClosed]

theorem sendToForegroundClient_not_told {message : ServerMessage}
  (hFits : env.fits message = false) : (s.sendToForegroundClient env message).2 = false := by
  unfold sendToForegroundClient
  split
  · rfl
  · simp [sendToClient, sendToClientWith, hFits]

end HeadlessServer

namespace ForegroundEffect

variable {env : Environment} {s : HeadlessServer} {effect : ForegroundEffect}

theorem notes_forwardApiNotificationSound (s : HeadlessServer) (sound : NotificationShowSound) :
  s.notes <+: (s.forwardApiNotificationSound env sound).notes := by
  unfold HeadlessServer.forwardApiNotificationSound
  split
  · exact List.prefix_refl _
  · exact (HeadlessServer.kept_notes s.notes).sendToForegroundClient _ (List.prefix_refl _)

theorem showOnClient_eq (s : HeadlessServer) (kind : NotifyKind) (title : String)
  (body : Option String) (sound : NotificationShowSound) (now clock : Instant)
  (hLimit : s.app.apiNotificationRateLimited now = false) :
  (s.showOnClient env kind title body sound now clock).2.told =
      (s.sendToForegroundClient env (.notify kind title body)).2 ∧
    (s.sendToForegroundClient env (.notify kind title body)).1.notes <+:
      (s.showOnClient env kind title body sound now clock).1.notes := by
  unfold HeadlessServer.showOnClient HeadlessServer.sendNotifyToForegroundClient
  simp only [hLimit, Bool.false_eq_true, if_false]
  generalize s.sendToForegroundClient env (.notify kind title body) = result
  obtain ⟨t, shown⟩ := result
  cases shown with
  | true =>
    exact ⟨rfl, notes_forwardApiNotificationSound
      { t with app := t.app.markApiNotificationShown clock } sound⟩
  | false => exact ⟨rfl, List.prefix_refl _⟩

/-- What `perform` comes to: the message is sent and the answer is that of the sending. -/
theorem perform_eq (hDirected : effect.Directed s) :
  match effect.message s with
    | none => (effect.perform env s).2 = false
    | some message =>
      (effect.perform env s).2 = (s.sendToForegroundClient env message).2 ∧
        (s.sendToForegroundClient env message).1.notes <+: (effect.perform env s).1.notes := by
  cases effect with
  | clipboardWrite content =>
    simp only [message, perform, HeadlessServer.handleClipboardWrite]
    cases (s.sendToForegroundClient env (.clipboard content)).2 with
    | true => simp
    | false => simp
  | notify kind message body => exact ⟨rfl, List.prefix_refl _⟩
  | agentSound sound => exact ⟨rfl, List.prefix_refl _⟩
  | windowTitle title =>
    cases title with
    | none => exact ⟨rfl, List.prefix_refl _⟩
    | some title =>
      simp only [message, perform, HeadlessServer.handleClientWindowTitleApi, Option.map_some]
      cases sanitizeWindowTitleText title 200 with
      | none => rfl
      | some title => exact ⟨rfl, List.prefix_refl _⟩
  | notificationShow params now clock =>
    simp only [message, perform, HeadlessServer.handleNotificationShowApi]
    cases sanitizeNotificationText params.title 80 with
    | none => rfl
    | some title =>
      cases hLimit : s.app.apiNotificationRateLimited now with
      | true =>
        cases hDelivery : s.app.toastDelivery with
        | herdr => exact absurd hDelivery hDirected
        | off => rfl
        | terminal => simp [HeadlessServer.showOnClient, hLimit, toastNotifyKind,
            ApiResponse.told]
        | system => simp [HeadlessServer.showOnClient, hLimit, toastNotifyKind,
            ApiResponse.told]
      | false =>
        cases hDelivery : s.app.toastDelivery with
        | herdr => exact absurd hDelivery hDirected
        | off => rfl
        | terminal => exact showOnClient_eq s _ _ _ _ _ _ hLimit
        | system => exact showOnClient_eq s _ _ _ _ _ _ hLimit

/-- The caller is told that the effect was delivered only if its message is on a queue. -/
def DeliveredOnlyIfEnqueued (env : Environment) (s : HeadlessServer) (effect : ForegroundEffect) :
  Prop :=
  (effect.perform env s).2 = true → ∃ message, effect.message s = some message ∧
    HeadlessServer.Enqueued env s (effect.perform env s).1 message

/-- The server has nothing to send for the effect, or cannot send it, or the client in the
foreground has a channel for it. -/
def HasChannel (env : Environment) (s : HeadlessServer) (effect : ForegroundEffect) : Prop :=
  ∀ message, effect.message s = some message → env.fits message = true → s.ForegroundHasWriter

/-- An effect counts as delivered without its message just where the client in the foreground
has been detached. -/
theorem deliveredOnlyIfEnqueued_iff (env : Environment) (s : HeadlessServer)
  (effect : ForegroundEffect) (hDirected : effect.Directed s) :
  effect.DeliveredOnlyIfEnqueued env s ↔ effect.HasChannel env s := by
  have hPerform := @perform_eq env s effect hDirected
  cases hMessage : effect.message s with
  | none =>
    rw [hMessage] at hPerform
    constructor
    · intro _ message hSome
      rw [hMessage] at hSome
      cases hSome
    · intro _ hTold
      rw [hPerform] at hTold
      cases hTold
  | some message =>
    rw [hMessage] at hPerform
    obtain ⟨hTold, hNotes⟩ := hPerform
    constructor
    · intro hDelivered other hSome hFits clientId client hForeground hClient
      obtain rfl := Option.some.inj (hMessage.symm.trans hSome)
      by_contra hClosed
      have hSent := HeadlessServer.sendToForegroundClient_told hFits hForeground hClient
        (Bool.eq_false_iff.2 hClosed)
      obtain ⟨_, _, otherId, other, hOther, hLookup, hOpen, _⟩ := hDelivered (hTold.trans hSent)
      obtain rfl := Option.some.inj (hForeground.symm.trans hOther)
      obtain rfl := Option.some.inj (hClient.symm.trans hLookup)
      exact hClosed hOpen
    · intro hChannel hDelivered
      have hSent := hTold.symm.trans hDelivered
      have hFits : env.fits message = true := by
        by_contra hLarge
        have hNot := HeadlessServer.sendToForegroundClient_not_told (s := s)
          (Bool.eq_false_iff.2 hLarge)
        exact Bool.false_ne_true (hNot.symm.trans hSent)
      obtain ⟨clientId, client, hForeground, hClient, hOpen, hAlive, hGrown⟩ :=
        HeadlessServer.sendToForegroundClient_enqueued hSent
          (hChannel message hMessage hFits)
      exact ⟨message, hMessage, clientId, client, hForeground, hClient, hOpen, hAlive,
        hGrown.trans hNotes⟩

/-- An environment in which every message fits and arrives. -/
def openEnvironment : Environment where
  delivers _ := true
  fits _ := true
  closesIslandPanel _ := false
  leavesAgentsMode _ := false

/-- A server that has just started. -/
def startedServer : HeadlessServer where
  clients := ∅
  foregroundClientId := none
  prefixInputSourceClientId := none
  terminalAttachOwners := ∅
  nextActivityStamp := 1
  handoffInProgress := false
  shuttingDown := false
  app := {
    mode := .terminal
    islandPanelOpen := false
    switchAsciiInputSourceInPrefix := false
    detachRequested := false
    toastDelivery := .terminal
    clipboardFeedback := true
    copyFeedback := none
    toast := none
    lastApiNotificationAt := none }
  sends := 0
  resizes := 0
  connected := []
  notes := []

/-- A server whose only client has asked to be detached. -/
def detachedServer : HeadlessServer :=
  { startedServer with
    clients := AList.insert 1
      { mode := .app, pendingTerminalAttach := false, outerTerminalFocus := none,
        lastActivity := 1, writer := false } ∅
    foregroundClientId := some 1
    connected := [1] }

theorem deliveredOnlyIfEnqueued_iff_detached :
  (notificationShow ⟨"done", none, .none⟩ 0 0).DeliveredOnlyIfEnqueued openEnvironment
      detachedServer ↔
    (notificationShow ⟨"done", none, .none⟩ 0 0).HasChannel openEnvironment detachedServer :=
  deliveredOnlyIfEnqueued_iff openEnvironment detachedServer _
    (show ToastDelivery.terminal ≠ .herdr by decide)

/-- The notification for a detached client is answered as shown, and no message is sent. -/
theorem not_deliveredOnlyIfEnqueued :
  ¬ ∀ (env : Environment) (s : HeadlessServer) (effect : ForegroundEffect),
    effect.Directed s → effect.DeliveredOnlyIfEnqueued env s := by
  intro hDelivered
  have hShown : ((notificationShow ⟨"done", none, .none⟩ 0 0).perform openEnvironment
      detachedServer).2 = true := by
    decide +kernel
  obtain ⟨_, _, clientId, client, hForeground, hClient, hOpen, _⟩ :=
    hDelivered openEnvironment detachedServer (.notificationShow ⟨"done", none, .none⟩ 0 0)
      (show ToastDelivery.terminal ≠ .herdr by decide) hShown
  obtain rfl : 1 = clientId := Option.some.inj hForeground
  obtain rfl := Option.some.inj (hClient.symm.trans rfl)
  cases hOpen

end ForegroundEffect

end Headless
