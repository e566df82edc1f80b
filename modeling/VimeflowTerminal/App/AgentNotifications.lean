import VimeflowTerminal.App.Focus
import VimeflowTerminal.Data.Deadlines

/-! What an agent's change of state announces: whether its pane has been seen, the record on
the island, and the toast and the sound, at once or after the configured delay. The
context line of a toast is left out. -/

namespace App

open Layout Workspaces Terminal Detect Deadlines

inductive Sound where
  | done
  | request
  deriving DecidableEq

structure AgentNotificationDelivery where
  paneId : PaneId
  workspaceId : String
  agentLabel : String
  knownAgent : Option Agent
  kind : ToastKind
  toast : Option ToastNotification
  clientNotification : Option ToastNotification
  sound : Option Sound
  deriving DecidableEq

def isBackgroundCompletionTransition (prevState newState : AgentState) : Bool :=
  newState == .idle && (prevState == .working || prevState == .blocked)

def isCompletionTransition (change : EffectiveStateChange) : Bool :=
  isBackgroundCompletionTransition change.previousState change.state ||
    (change.previousState == .unknown && change.state == .idle &&
      change.previousAgentLabel.isSome && change.previousAgentLabel == change.agentLabel)

def activeTabSuppressesNotifications (isActiveTab : Bool) (outerTerminalFocus : Option Bool) :
  Bool :=
  isActiveTab && outerTerminalFocus != some false

def notificationKindForEffectiveStateChange (change : EffectiveStateChange) : Option ToastKind :=
  if change.state = change.previousState then none
  else
    match change.state with
    | .blocked => some .needsAttention
    | .idle => if isCompletionTransition change then some .finished else none
    | _ => none

def soundForToastKind (kind : ToastKind) (suppressActiveTabNotifications : Bool) : Option Sound :=
  match kind with
  | .needsAttention => some .request
  | .finished => if suppressActiveTabNotifications then none else some .done
  | .updateInstalled => none

def maxToastDelaySeconds : Nat := 3600

/-- A number of seconds, in the nanoseconds of the clock. -/
def seconds (count : Nat) : Duration := count * 10 ^ 9

def milliseconds (count : Nat) : Duration := count * 10 ^ 6

/-- A reading of the clock at or after `now`, not so late that an instant at most a day
after it could not be represented. -/
structure Reading (now : Instant) where
  time : Instant
  notBefore : now ≤ time
  inRange : time + seconds 86400 < instantLimit

/-- What of the configuration and the view decides how a change is announced. -/
structure Announcing where
  view : IslandView
  soundAllows : Option Agent → Bool

end App

namespace Workspaces

open App Layout

/-- The workspace with every pane seen: what is left when no one looks at what was seen. -/
def Workspace.allSeen (ws : Workspace) : Workspace := { ws with tabs := ws.tabs.map markSeen }

/-- Note whether a pane has been seen. -/
def Workspace.setSeen (ws : Workspace) (paneId : PaneId) (seen : Bool) : Workspace :=
  match ws.findTabIndexForPane paneId with
  | none => ws
  | some tabIdx => ws.updateTab tabIdx fun tab =>
    { tab with panes := tab.panes.mapValues fun id pane =>
        if id = paneId then { pane with seen } else pane }

namespace Workspace

theorem markSeen_seen (tab : Tab) (paneId : PaneId) (seen : Bool) :
  markSeen { tab with panes := tab.panes.mapValues fun id pane =>
    if id = paneId then { pane with seen } else pane } = markSeen tab := by
  unfold markSeen
  congr 1
  rw [FinMap.mapValues_mapValues]
  congr 1
  funext id pane
  split <;> rfl

@[simp] theorem allSeen_setSeen (ws : Workspace) (paneId : PaneId) (seen : Bool) :
  (ws.setSeen paneId seen).allSeen = ws.allSeen := by
  unfold setSeen updateTab
  cases ws.findTabIndexForPane paneId with
  | none => rfl
  | some tabIdx =>
    dsimp only
    cases hTab : ws.tabs[tabIdx]? with
    | none => rfl
    | some tab =>
      obtain ⟨hLt, rfl⟩ := List.getElem?_eq_some_iff.1 hTab
      simp only [allSeen, List.map_set, markSeen_seen]
      rw [← List.map_set, List.set_getElem_self]

variable (ws : Workspace)

@[simp] theorem allSeen_id : ws.allSeen.id = ws.id := rfl

@[simp] theorem publicPaneNumber_allSeen (paneId : PaneId) :
  ws.allSeen.publicPaneNumber paneId = ws.publicPaneNumber paneId := rfl

@[simp] theorem findTabIndexForPane_allSeen (paneId : PaneId) :
  ws.allSeen.findTabIndexForPane paneId = ws.findTabIndexForPane paneId := by
  simp [findTabIndexForPane, allSeen, markSeen, List.findIdx?_map, Function.comp_def]

@[simp] theorem publicTabNumber_allSeen (tabIdx : Nat) :
  ws.allSeen.publicTabNumber tabIdx = ws.publicTabNumber tabIdx := by
  simp [publicTabNumber, allSeen, markSeen, Function.comp_def]

@[simp] theorem paneState_allSeen (paneId : PaneId) :
  ws.allSeen.paneState paneId =
    (ws.paneState paneId).map fun pane => { pane with seen := true } := by
  simp only [paneState, allSeen, List.findSome?_map]
  induction ws.tabs with
  | nil => rfl
  | cons tab tabs ih =>
    cases hPane : tab.panes.lookup paneId with
    | none => simp [markSeen, hPane, ih]
    | some pane => simp [markSeen, hPane]

end Workspace

end Workspaces

namespace App

open Layout Workspaces Terminal Detect Deadlines

namespace AppState

variable (s : AppState) (announcing : Announcing)

def suppressesNotifications (wsIdx : Nat) (paneId : PaneId) : Bool :=
  activeTabSuppressesNotifications (s.toTree.paneIsInActiveTab wsIdx paneId) s.outerTerminalFocus

/-- The announcement of a change on the island, if the change has an agent to name. -/
def islandArrival (wsIdx : Nat) (paneId : PaneId) (change : EffectiveStateChange)
  (kind : ToastKind) : Option Island.IslandArrival := do
  let agentLabel ← change.agentLabel.or change.previousAgentLabel
  let ws ← s.workspaces[wsIdx]?
  let tabIdx ← ws.findTabIndexForPane paneId
  let tabId ← s.toTree.publicTabId wsIdx tabIdx
  some {
    kind
    workspaceId := ws.id
    tabId
    paneId
    agent := change.knownAgent.or change.previousKnownAgent
    agentLabel
    isFocused := s.active = some wsIdx && ws.focusedPaneId = some paneId }

def islandArrivalForChange (wsIdx : Nat) (paneId : PaneId) (change : EffectiveStateChange)
  (kind : Option ToastKind) : Option (Island × Option ToastNotification) := do
  let kind ← kind
  let arrival ← s.islandArrival wsIdx paneId change kind
  s.toIsland.islandArrivalForChange announcing.view s.config.islandArrivals arrival

/-- The delivery of a notification, unless the agent has moved on since. -/
def agentNotificationDelivery (wsIdx : Nat) (paneId : PaneId) (workspaceId agentLabel : String)
  (knownAgent : Option Agent) (kind : ToastKind) (expectedState : AgentState)
  (deliverStockToast : Bool) : Option AgentNotificationDelivery := do
  let ws ← s.workspaces[wsIdx]?
  let pane ← ws.paneState paneId
  let terminal ← s.terminals.lookup pane.attachedTerminalId
  if terminal.state ≠ expectedState then none
  else if terminal.effectiveAgentLabel.any (fun current => current != agentLabel) then none
  else
    let isActiveTab := s.toTree.paneIsInActiveTab wsIdx paneId
    let suppress := s.suppressesNotifications wsIdx paneId
    let sound := (soundForToastKind kind suppress).filter fun _ => announcing.soundAllows knownAgent
    let built : ToastNotification :=
      ⟨kind, agentLabel ++ " " ++ toastEventText kind, some ⟨workspaceId, paneId⟩, none⟩
    let toast := if deliverStockToast && !isActiveTab then some built else none
    let clientNotification := if deliverStockToast && !suppress then some built else none
    if toast.isNone && clientNotification.isNone && sound.isNone then none
    else
      some { paneId, workspaceId, agentLabel, knownAgent, kind, toast, clientNotification, sound }

/-- Only the program's own toasts are kept in the state. -/
def applyAgentNotificationDelivery (delivery : AgentNotificationDelivery) : AppState :=
  if s.config.toastDelivery = .herdr then { s with toast := delivery.toast.or s.toast } else s

/-- The instant at which a delayed notification is due. -/
def notificationDeadline (clock : Instant) : Instant :=
  (Instant.checkedAdd clock
    (seconds (min s.config.toastDelaySeconds maxToastDelaySeconds))).getD clock

/-- A new change replaces what the pane still had to announce. -/
def recordOrDeliverAgentNotification (clock : Instant) (wsIdx : Nat) (paneId : PaneId)
  (change : EffectiveStateChange) (kind : Option ToastKind) (deliverStockToast : Bool) :
  AppState × Option AgentNotificationDelivery :=
  let s := { s with pendingAgentNotifications := s.pendingAgentNotifications.erase paneId }
  let suppress := s.suppressesNotifications wsIdx paneId
  match kind with
  | none => (s, none)
  | some kind =>
    if !(deliverStockToast && !suppress) && (soundForToastKind kind suppress).isNone then
      (s, none)
    else
      match change.agentLabel.or change.previousAgentLabel, s.toTree.publicWorkspaceId wsIdx with
      | some agentLabel, some workspaceId =>
        let knownAgent := change.knownAgent.or change.previousKnownAgent
        if s.config.toastDelaySeconds = 0 then
          (s, s.agentNotificationDelivery announcing wsIdx paneId workspaceId agentLabel
            knownAgent kind change.state deliverStockToast)
        else
          ({ s with
            pendingAgentNotifications := s.pendingAgentNotifications.insert paneId {
              paneId, workspaceId, agentLabel, knownAgent, kind, state := change.state,
              deliverStockToast, deadline := s.notificationDeadline clock } }, none)
      | _, _ => (s, none)

/-- Whether the pane counts as seen after a change of its agent. -/
def seenAfter (wsIdx : Nat) (paneId : PaneId) (change : EffectiveStateChange) (seen : Bool) :
  Bool :=
  if change.state ≠ .idle then true
  else if isCompletionTransition change then s.suppressesNotifications wsIdx paneId
  else seen

/-- The island with the record of an arrival. -/
def recordArrival (arrival : Option (Island × Option ToastNotification)) : AppState :=
  match arrival with
  | none => s
  | some (island, _) => { s with toIsland := island }

def deliver (delivery : Option AgentNotificationDelivery) : AppState :=
  match delivery with
  | none => s
  | some delivery => s.applyAgentNotificationDelivery delivery

def noteSeen (wsIdx : Nat) (paneId : PaneId) (seen : Bool) : AppState :=
  { s with toTree := s.toTree.updateWorkspace wsIdx fun ws => ws.setSeen paneId seen }

/-- Announce a change of a pane's agent: on the island, or by a stock toast. -/
def announceChange (clock : Instant) (wsIdx : Nat) (paneId : PaneId)
  (change : EffectiveStateChange) : AppState :=
  let kind := notificationKindForEffectiveStateChange change
  let arrival := s.islandArrivalForChange announcing wsIdx paneId change kind
  let (s, delivery) := (s.recordArrival arrival).recordOrDeliverAgentNotification announcing clock
    wsIdx paneId change kind arrival.isNone
  let s := s.deliver delivery
  { s with toast := (arrival.bind Prod.snd).or s.toast }

/-- A pane's agent changed: note whether it has been seen and announce the change. -/
def applyPaneStateChange (clock : Instant) (wsIdx : Nat) (paneId : PaneId)
  (change : EffectiveStateChange) : AppState × Option Bool :=
  match s.workspaces[wsIdx]?.bind fun ws => ws.paneState paneId with
  | none => (s, none)
  | some pane =>
    let seen := s.seenAfter wsIdx paneId change pane.seen
    ((s.noteSeen wsIdx paneId seen).announceChange announcing clock wsIdx paneId change,
      some seen)

def nextPendingAgentNotificationDeadline : Option Instant :=
  ((FinMap.values s.pendingAgentNotifications).map (·.deadline)).min?

/-- Deliver one pending notification, unless its workspace is gone. -/
def deliverPending (paneId : PaneId) : AppState × Option AgentNotificationDelivery :=
  match s.pendingAgentNotifications.lookup paneId with
  | none => (s, none)
  | some pending =>
    let s := { s with pendingAgentNotifications := s.pendingAgentNotifications.erase paneId }
    match s.toTree.position pending.workspaceId with
    | none => (s, none)
    | some wsIdx =>
      match s.agentNotificationDelivery announcing wsIdx pending.paneId pending.workspaceId
        pending.agentLabel pending.knownAgent pending.kind pending.state
        pending.deliverStockToast with
      | none => (s, none)
      | some delivery => (s.applyAgentNotificationDelivery delivery, some delivery)

/-- The panes whose notifications are due. -/
def duePanes (now : Instant) : List PaneId :=
  FinMap.collect s.pendingAgentNotifications fun paneId pending =>
    if pending.deadline ≤ now then some paneId else none

def drainDueAgentNotifications (now : Instant) : AppState × List AgentNotificationDelivery :=
  (s.duePanes now).foldl
    (fun (s, deliveries) paneId =>
      let (s, delivery) := s.deliverPending announcing paneId
      (s, deliveries ++ delivery.toList))
    (s, [])

/-- From `s` to `t` something was announced: the terminals are the same, the workspaces
up to what has been seen, and a notification that is new to wait is not due. -/
structure Announced (now : Instant) (s t : AppState) : Prop where
  terminals : t.terminals = s.terminals
  workspaces : t.workspaces.map Workspace.allSeen = s.workspaces.map Workspace.allSeen
  active : t.active = s.active
  config : t.config = s.config
  pending : ∀ paneId pending, t.pendingAgentNotifications.lookup paneId = some pending →
    s.pendingAgentNotifications.lookup paneId = some pending ∨ now < pending.deadline

variable {s} {now : Instant}

theorem Announced.of_eq {t : AppState} (hTree : t.toTree = s.toTree) (hConfig : t.config = s.config)
  (hPending : t.pendingAgentNotifications = s.pendingAgentNotifications) : Announced now s t where
  terminals := congrArg Tree.terminals hTree
  workspaces := congrArg (fun tree : Tree => tree.workspaces.map Workspace.allSeen) hTree
  active := congrArg Tree.active hTree
  config := hConfig
  pending := fun _ _ hLookup => Or.inl (hPending ▸ hLookup)

theorem Announced.refl : Announced now s s := Announced.of_eq rfl rfl rfl

theorem Announced.trans {t u : AppState} (hLeft : Announced now s t) (hRight : Announced now t u) :
  Announced now s u where
  terminals := hRight.terminals.trans hLeft.terminals
  workspaces := hRight.workspaces.trans hLeft.workspaces
  active := hRight.active.trans hLeft.active
  config := hRight.config.trans hLeft.config
  pending := by
    intro paneId pending hLookup
    rcases hRight.pending paneId pending hLookup with hLookup | hLater
    · exact hLeft.pending paneId pending hLookup
    · exact Or.inr hLater

theorem lookup_erase_some {paneId other : PaneId} {pending : PendingAgentNotification}
  (hLookup : (s.pendingAgentNotifications.erase paneId).lookup other = some pending) :
  s.pendingAgentNotifications.lookup other = some pending := by
  by_cases hSame : other = paneId
  · subst hSame
    simp at hLookup
  · rwa [AList.lookup_erase_ne hSame] at hLookup

theorem Announced.erase (paneId : PaneId) : Announced now s
  { s with pendingAgentNotifications := s.pendingAgentNotifications.erase paneId } where
  terminals := rfl
  workspaces := rfl
  active := rfl
  config := rfl
  pending := fun _ _ hLookup => Or.inl (lookup_erase_some hLookup)

theorem announced_noteSeen (wsIdx : Nat) (paneId : PaneId) (seen : Bool) :
  Announced now s (s.noteSeen wsIdx paneId seen) := by
  unfold noteSeen Tree.updateWorkspace
  cases hWs : s.workspaces[wsIdx]? with
  | none => exact Announced.refl
  | some ws =>
    refine ⟨rfl, ?_, rfl, rfl, fun _ _ hLookup => Or.inl hLookup⟩
    obtain ⟨hLt, rfl⟩ := List.getElem?_eq_some_iff.1 hWs
    simp only [List.map_set, Workspace.allSeen_setSeen]
    rw [← List.map_set, List.set_getElem_self]

theorem announced_applyDelivery (delivery : AgentNotificationDelivery) :
  Announced now s (s.applyAgentNotificationDelivery delivery) := by
  unfold applyAgentNotificationDelivery
  split
  · exact Announced.of_eq rfl rfl rfl
  · exact Announced.refl

theorem seconds_le {count limit : Nat} (hLe : count ≤ limit) : seconds count ≤ seconds limit :=
  Nat.mul_le_mul_right _ hLe

theorem seconds_pos {count : Nat} (hPos : 0 < count) : 0 < seconds count :=
  Nat.mul_pos hPos (by norm_num)

theorem lt_getD_checkedAdd {time : Instant} {delay room : Duration} (hNow : now ≤ time)
  (hRange : time + room < instantLimit) (hShort : delay ≤ room) (hPositive : 0 < delay) :
  now < (Instant.checkedAdd time delay).getD time := by
  have hFits : time + delay < instantLimit :=
    lt_of_le_of_lt (Nat.add_le_add_left hShort time) hRange
  unfold Instant.checkedAdd
  rw [if_pos hFits]
  exact Nat.lt_of_le_of_lt hNow (Nat.lt_add_of_pos_right hPositive)

theorem later_notificationDeadline (clock : Reading now) (hDelay : s.config.toastDelaySeconds ≠ 0) :
  now < s.notificationDeadline clock.time := by
  have hCapped : min s.config.toastDelaySeconds maxToastDelaySeconds ≤ 86400 := by
    unfold maxToastDelaySeconds
    omega
  have hSome : 0 < min s.config.toastDelaySeconds maxToastDelaySeconds := by
    unfold maxToastDelaySeconds
    omega
  exact lt_getD_checkedAdd clock.notBefore clock.inRange (seconds_le hCapped) (seconds_pos hSome)

theorem announced_recordOrDeliver (clock : Reading now) (wsIdx : Nat) (paneId : PaneId)
  (change : EffectiveStateChange) (kind : Option ToastKind) (deliverStockToast : Bool) :
  Announced now s (s.recordOrDeliverAgentNotification announcing clock.time wsIdx paneId change
    kind deliverStockToast).1 := by
  have hErase := @Announced.erase s now paneId
  unfold recordOrDeliverAgentNotification
  cases kind with
  | none => exact hErase
  | some kind =>
    dsimp only
    split
    · exact hErase
    split
    next agentLabel workspaceId _ _ =>
      split
      next => exact hErase
      next hDelay =>
        refine hErase.trans ⟨rfl, rfl, rfl, rfl, ?_⟩
        intro other pending hLookup
        by_cases hSame : other = paneId
        · subst hSame
          rw [AList.lookup_insert] at hLookup
          cases hLookup
          exact Or.inr (later_notificationDeadline clock hDelay)
        · rw [AList.lookup_insert_ne hSame] at hLookup
          exact Or.inl hLookup
    next => exact hErase

theorem announced_recordArrival (arrival : Option (Island × Option ToastNotification)) :
  Announced now s (s.recordArrival arrival) := by
  cases arrival with
  | none => exact Announced.refl
  | some arrival => exact Announced.of_eq rfl rfl rfl

theorem announced_deliver (delivery : Option AgentNotificationDelivery) :
  Announced now s (s.deliver delivery) := by
  cases delivery with
  | none => exact Announced.refl
  | some delivery => exact announced_applyDelivery delivery

theorem announced_announceChange (clock : Reading now) (wsIdx : Nat) (paneId : PaneId)
  (change : EffectiveStateChange) :
  Announced now s (s.announceChange announcing clock.time wsIdx paneId change) := by
  have hRecorded := @announced_recordArrival s now
    (s.islandArrivalForChange announcing wsIdx paneId change
      (notificationKindForEffectiveStateChange change))
  have hRequested := hRecorded.trans (announced_recordOrDeliver announcing clock wsIdx paneId change
    (notificationKindForEffectiveStateChange change)
    (s.islandArrivalForChange announcing wsIdx paneId change
      (notificationKindForEffectiveStateChange change)).isNone)
  exact (hRequested.trans (announced_deliver _)).trans (Announced.of_eq rfl rfl rfl)

theorem announced_applyPaneStateChange (clock : Reading now) (wsIdx : Nat) (paneId : PaneId)
  (change : EffectiveStateChange) :
  Announced now s (s.applyPaneStateChange announcing clock.time wsIdx paneId change).1 := by
  unfold applyPaneStateChange
  cases s.workspaces[wsIdx]?.bind fun ws => ws.paneState paneId with
  | none => exact Announced.refl
  | some pane =>
    exact (announced_noteSeen wsIdx paneId _).trans
      (announced_announceChange announcing clock wsIdx paneId change)

theorem announced_deliverPending (paneId : PaneId) :
  Announced now s (s.deliverPending announcing paneId).1 := by
  unfold deliverPending
  split
  next => exact Announced.refl
  next =>
    have hErase := @Announced.erase s now paneId
    dsimp only
    split
    · exact hErase
    split
    · exact hErase
    · exact hErase.trans (announced_applyDelivery _)

theorem lookup_deliverPending (paneId other : PaneId) :
  (s.deliverPending announcing paneId).1.pendingAgentNotifications.lookup other =
    if other = paneId then none else s.pendingAgentNotifications.lookup other := by
  have hErase : (s.pendingAgentNotifications.erase paneId).lookup other =
      if other = paneId then none else s.pendingAgentNotifications.lookup other := by
    split
    next hSame => rw [hSame, AList.lookup_erase]
    next hSame => exact AList.lookup_erase_ne hSame
  have hApply : ∀ (t : AppState) delivery,
      (t.applyAgentNotificationDelivery delivery).pendingAgentNotifications =
        t.pendingAgentNotifications := by
    intro t delivery
    unfold applyAgentNotificationDelivery
    split <;> rfl
  unfold deliverPending
  split
  next hNone =>
    split
    next hSame => rw [hSame, hNone]
    next => rfl
  next =>
    dsimp only
    split
    · exact hErase
    split
    · exact hErase
    · rw [hApply]
      exact hErase

/-- Delivering the notifications of several panes in turn. -/
theorem announced_foldl_deliverPending (panes : List PaneId) (deliveries) :
  let t := (panes.foldl (fun (u : AppState × List AgentNotificationDelivery) paneId =>
      ((u.1.deliverPending announcing paneId).1,
        u.2 ++ (u.1.deliverPending announcing paneId).2.toList)) (s, deliveries)).1
  Announced now s t ∧ ∀ paneId pending,
    t.pendingAgentNotifications.lookup paneId = some pending →
      paneId ∉ panes ∧ s.pendingAgentNotifications.lookup paneId = some pending := by
  induction panes generalizing s deliveries with
  | nil => exact ⟨Announced.refl, fun _ _ hLookup => ⟨List.not_mem_nil, hLookup⟩⟩
  | cons first panes ih =>
    obtain ⟨hAnnounced, hLeft⟩ := @ih (s.deliverPending announcing first).1
      (deliveries ++ (s.deliverPending announcing first).2.toList)
    refine ⟨(announced_deliverPending announcing first).trans hAnnounced, ?_⟩
    intro paneId pending hLookup
    obtain ⟨hRest, hLookup⟩ := hLeft paneId pending hLookup
    rw [lookup_deliverPending] at hLookup
    split at hLookup
    next => cases hLookup
    next hOther => exact ⟨by simp [hOther, hRest], hLookup⟩

theorem announced_drain : Announced now s (s.drainDueAgentNotifications announcing now).1 :=
  (announced_foldl_deliverPending announcing (s.duePanes now) []).1

theorem later_of_drain {paneId : PaneId} {pending : PendingAgentNotification}
  (hLookup : (s.drainDueAgentNotifications announcing now).1.pendingAgentNotifications.lookup
    paneId = some pending) : now < pending.deadline := by
  obtain ⟨hNotDue, hLookup⟩ := (@announced_foldl_deliverPending s announcing now (s.duePanes now)
    []).2 paneId pending hLookup
  by_contra hDue
  apply hNotDue
  exact FinMap.mem_collect.2 ⟨paneId, pending, hLookup, by rw [if_pos (not_lt.1 hDue)]⟩

end AppState

end App
