import VimeflowTerminal.Api.EventHub
import VimeflowTerminal.Transition.Run

/-! A subscription to the agent status of a pane reads the cursor of the hub, probes
the pane and then polls. A poll reads the hub and the pane at different times;
other threads push events in between. -/

namespace Api

open Transition BoundedLog

/-- What a subscription looks at in the answer to `pane.get`. -/
structure PaneInfo where
  paneId : String
  workspaceId : String
  agentStatus : AgentStatus
  agent : Option String
  title : Option String
  displayAgent : Option String
  stateLabels : FinMap String String

structure PanePresentationSnapshot where
  title : Option String
  displayAgent : Option String
  stateLabels : FinMap String String

structure ActiveAgentStatusChangedSubscription where
  paneId : String
  statusFilter : Option AgentStatus
  lastStatus : Option AgentStatus
  lastPresentation : Option PanePresentationSnapshot
  lastSequence : Nat
  initialEvent : Option PaneAgentStatusChangedEvent

namespace PaneInfo

def presentation (pane : PaneInfo) : PanePresentationSnapshot :=
  ⟨pane.title, pane.displayAgent, pane.stateLabels⟩

def statusEvent (pane : PaneInfo) : PaneAgentStatusChangedEvent where
  paneId := pane.paneId
  workspaceId := pane.workspaceId
  agentStatus := pane.agentStatus
  agent := pane.agent
  title := pane.title
  displayAgent := pane.displayAgent
  stateLabels := pane.stateLabels

end PaneInfo

namespace PanePresentationSnapshot

def fromEvent (event : PaneAgentStatusChangedEvent) : PanePresentationSnapshot :=
  ⟨event.title, event.displayAgent, event.stateLabels⟩

/-- Equality of snapshots. The labels are compared as maps. -/
def same (a b : PanePresentationSnapshot) : Bool :=
  a.title = b.title && a.displayAgent = b.displayAgent
    && decide (FinMap.SameEntries a.stateLabels b.stateLabels)

end PanePresentationSnapshot

namespace ActiveAgentStatusChangedSubscription

/-- The subscription set up with a cursor read before the pane was probed. -/
def new (agentStatus : Option AgentStatus) (lastSequence : Nat) (probe : PaneInfo) :
  ActiveAgentStatusChangedSubscription where
  paneId := probe.paneId
  statusFilter := agentStatus
  lastStatus := some probe.agentStatus
  lastPresentation := some probe.presentation
  lastSequence
  initialEvent := if agentStatus = some probe.agentStatus then some probe.statusEvent else none

/-- The status event of the given pane that an envelope carries. -/
def statusOf (paneId : String) (envelope : EventEnvelope) : Option PaneAgentStatusChangedEvent :=
  match envelope.data with
  | .paneAgentStatusChanged event =>
    if envelope.event = .paneAgentStatusChanged ∧ event.paneId = paneId then some event else none
  | .other _ => none

def passesFilter (sub : ActiveAgentStatusChangedSubscription) (status : AgentStatus) : Bool :=
  sub.statusFilter.all fun wanted => wanted = status

/-- Read events up to the first that passes the filter. The flag says that an event
of the pane was seen. -/
def scan (sub : ActiveAgentStatusChangedSubscription) (saw : Bool) :
  List (Nat × EventEnvelope) →
    ActiveAgentStatusChangedSubscription × Bool × Option PaneAgentStatusChangedEvent
  | [] => (sub, saw, none)
  | (sequence, envelope) :: rest =>
    let sub := { sub with lastSequence := sequence }
    match statusOf sub.paneId envelope with
    | none => scan sub saw rest
    | some event =>
      let sub := { sub with
        lastStatus := some event.agentStatus
        lastPresentation := some (.fromEvent event) }
      if sub.passesFilter event.agentStatus then
        ({ sub with initialEvent := none }, true, some event)
      else scan sub true rest

/-- The change a pane shows against what was last known of it. -/
def eventFromSnapshot (sub : ActiveAgentStatusChangedSubscription) (pane : PaneInfo) :
  ActiveAgentStatusChangedSubscription × Option PaneAgentStatusChangedEvent :=
  let presentationChanged := sub.lastPresentation.any fun last => !last.same pane.presentation
  let statusChanged := sub.lastStatus.any fun last => last ≠ pane.agentStatus
  let sub := { sub with
    lastStatus := some pane.agentStatus
    lastPresentation := some pane.presentation }
  if (statusChanged || presentationChanged) && sub.passesFilter pane.agentStatus then
    (sub, some pane.statusEvent)
  else (sub, none)

end ActiveAgentStatusChangedSubscription

/-! ## The subscribing thread -/

/-- How far the subscribing thread has come. A poll runs from `idle` to `idle`. -/
inductive WatchStage where
  | unset
  | probing (lastSequence : Nat)
  | idle (sub : ActiveAgentStatusChangedSubscription)
  | scanned (sub : ActiveAgentStatusChangedSubscription) (saw : Bool)
  | asking (sub : ActiveAgentStatusChangedSubscription)
  | answered (sub : ActiveAgentStatusChangedSubscription) (pane : Option PaneInfo)

/-- The hub with the events pushed so far, and the subscribing thread with the
outcome of its probe, the cursor it started from and the events it reported. -/
structure Watch where
  hub : EventHub
  pushed : List EventEnvelope
  stage : WatchStage
  started : Nat
  probed : Option PaneInfo
  reported : List PaneAgentStatusChangedEvent

inductive WatchStep where
  | push (event : EventEnvelope)
  | readCursor
  | probe (pane : PaneInfo)
  | scan
  | check
  | answer (pane : Option PaneInfo)
  | settle

def WatchStage.subscription : WatchStage → Option ActiveAgentStatusChangedSubscription
  | .unset | .probing _ => none
  | .idle sub | .scanned sub _ | .asking sub | .answered sub _ => some sub

namespace Watch

def start : Watch where
  hub := BoundedLog.empty
  pushed := []
  stage := .unset
  started := 0
  probed := none
  reported := []

def report (w : Watch) (sub : ActiveAgentStatusChangedSubscription)
  (event : Option PaneAgentStatusChangedEvent) : Watch :=
  { w with stage := .idle sub, reported := w.reported ++ event.toList }

/-- Pushes come at any time; the subscribing thread takes its own steps in order.
`pane.get` answers with any state of the pane, or fails. -/
def step (agentStatus : Option AgentStatus) (w : Watch) : WatchStep → Option Watch
  | .push event => some { w with hub := w.hub.push event, pushed := w.pushed ++ [event] }
  | .readCursor =>
    match w.stage with
    | .unset => some { w with
        stage := .probing w.hub.currentSequence
        started := w.hub.currentSequence }
    | _ => none
  | .probe pane =>
    match w.stage with
    | .probing lastSequence => some { w with
        stage := .idle (.new agentStatus lastSequence pane)
        probed := some pane }
    | _ => none
  | .scan =>
    match w.stage with
    | .idle sub =>
      match sub.scan false (w.hub.eventsAfter sub.lastSequence) with
      | (sub, _, some event) => some (w.report sub (some event))
      | (sub, saw, none) => some { w with stage := .scanned sub saw }
    | _ => none
  | .check =>
    match w.stage with
    | .scanned sub saw =>
      if saw then some { w with stage := .asking { sub with initialEvent := none } }
      else if w.hub.currentSequence ≠ sub.lastSequence then some (w.report sub none)
      else
        match sub.initialEvent with
        | some event => some (w.report { sub with initialEvent := none } (some event))
        | none => some { w with stage := .asking sub }
    | _ => none
  | .answer pane =>
    match w.stage with
    | .asking sub => some { w with stage := .answered sub pane }
    | _ => none
  | .settle =>
    match w.stage with
    | .answered sub pane =>
      if w.hub.currentSequence ≠ sub.lastSequence then some (w.report sub none)
      else
        match pane with
        | none => some (w.report sub none)
        | some pane =>
          let (sub, event) := sub.eventFromSnapshot pane
          some (w.report sub event)
    | _ => none

/-- The number of the last event the subscribing thread has read. -/
def cursor (w : Watch) : Nat :=
  match w.stage with
  | .unset => w.pushed.length
  | .probing lastSequence => lastSequence
  | .idle sub | .scanned sub _ | .asking sub | .answered sub _ => sub.lastSequence

/-- The hub still retains every event the thread has not read. -/
def Roomy (w : Watch) : WatchStep → Prop
  | .push _ => w.pushed.length - w.cursor < EventHub.maxEvents
  | _ => True

/-- A scan does not meet the pane in other states only while the status found at the
probe still waits to be reported. -/
def Undropped (w : Watch) : WatchStep → Prop
  | .scan => ∀ sub, w.stage = .idle sub → sub.initialEvent.isSome →
      ∀ entry ∈ w.hub.eventsAfter sub.lastSequence,
        (ActiveAgentStatusChangedSubscription.statusOf sub.paneId entry.2).isSome →
          ∃ entry' ∈ w.hub.eventsAfter sub.lastSequence, ∃ event,
            ActiveAgentStatusChangedSubscription.statusOf sub.paneId entry'.2 = some event ∧
              sub.passesFilter event.agentStatus
  | _ => True

instance Roomy.decidable (w : Watch) : (label : WatchStep) → Decidable (w.Roomy label)
  | .push _ => inferInstanceAs (Decidable (_ < _))
  | .readCursor | .probe _ | .scan | .check | .answer _ | .settle => isTrue trivial

def HasReported (w : Watch) (status : AgentStatus) : Prop :=
  ∃ event ∈ w.reported, event.agentStatus = status

end Watch

namespace ActiveAgentStatusChangedSubscription

/-- The subscription once it has read a status event of its pane. -/
def noted (sub : ActiveAgentStatusChangedSubscription) (event : PaneAgentStatusChangedEvent) :
  ActiveAgentStatusChangedSubscription :=
  { sub with
    lastSequence := sub.lastSequence + 1
    lastStatus := some event.agentStatus
    lastPresentation := some (.fromEvent event) }

/-- What a scan of consecutive events does: it reads all of them and none passes the
filter, or it stops after the first that passes. -/
theorem scan_spec (sub : ActiveAgentStatusChangedSubscription) (saw : Bool)
  (events : List EventEnvelope) :
  (∃ sub' saw', sub.scan saw (numbered (sub.lastSequence + 1) events) = (sub', saw', none) ∧
      sub'.lastSequence = sub.lastSequence + events.length ∧
      (∀ envelope ∈ events, ∀ event, statusOf sub.paneId envelope = some event →
        saw' = true ∧ sub.passesFilter event.agentStatus = false) ∧
      ((∀ envelope ∈ events, statusOf sub.paneId envelope = none) → saw' = saw) ∧
      sub'.paneId = sub.paneId ∧ sub'.statusFilter = sub.statusFilter ∧
      sub'.initialEvent = sub.initialEvent ∧ (saw = true → saw' = true)) ∨
    ∃ sub' event skipped envelope rest,
      sub.scan saw (numbered (sub.lastSequence + 1) events) = (sub', true, some event) ∧
      events = skipped ++ envelope :: rest ∧
      sub'.lastSequence = sub.lastSequence + (skipped.length + 1) ∧
      (∀ envelope ∈ skipped, ∀ event, statusOf sub.paneId envelope = some event →
        sub.passesFilter event.agentStatus = false) ∧
      statusOf sub.paneId envelope = some event ∧ sub.passesFilter event.agentStatus = true ∧
      sub'.paneId = sub.paneId ∧ sub'.statusFilter = sub.statusFilter := by
  induction events generalizing sub saw with
  | nil =>
    exact Or.inl ⟨sub, saw, rfl, rfl, by simp, fun _ => rfl, rfl, rfl, rfl, fun hSaw => hSaw⟩
  | cons envelope events ih =>
    cases hStatus : statusOf sub.paneId envelope with
    | none =>
      have hScan : sub.scan saw (numbered (sub.lastSequence + 1) (envelope :: events)) =
          ({ sub with lastSequence := sub.lastSequence + 1 } :
            ActiveAgentStatusChangedSubscription).scan saw
            (numbered (sub.lastSequence + 1 + 1) events) := by
        simp only [numbered, scan, hStatus]
      have hSkip : ∀ event, statusOf sub.paneId envelope ≠ some event := by
        simp [hStatus]
      rw [hScan]
      rcases ih { sub with lastSequence := sub.lastSequence + 1 } saw with
        ⟨sub', saw', hResult, hLast, hNot, hSame, hRest⟩ |
          ⟨sub', event, skipped, found, rest, hResult, hEvents, hLast, hSkipped, hRest⟩
      · refine Or.inl ⟨sub', saw', hResult, by rw [hLast, List.length_cons]; simp only; omega,
          ?_, ?_, hRest⟩
        · intro other hMem event hEvent
          rcases List.mem_cons.1 hMem with rfl | hOld
          · exact absurd hEvent (hSkip event)
          · exact hNot other hOld event hEvent
        · intro hNone
          exact hSame fun other hMem => hNone other (List.mem_cons_of_mem _ hMem)
      · refine Or.inr ⟨sub', event, envelope :: skipped, found, rest, hResult,
          by rw [hEvents, List.cons_append], by rw [hLast, List.length_cons]; simp only; omega,
          ?_, hRest⟩
        intro other hMem event hEvent
        rcases List.mem_cons.1 hMem with rfl | hOld
        · exact absurd hEvent (hSkip event)
        · exact hSkipped other hOld event hEvent
    | some event =>
      have hScan : sub.scan saw (numbered (sub.lastSequence + 1) (envelope :: events)) =
          if sub.passesFilter event.agentStatus then
            ({ sub.noted event with initialEvent := none }, true, some event)
          else (sub.noted event).scan true (numbered (sub.lastSequence + 1 + 1) events) := by
        simp only [numbered, scan, hStatus]
        rfl
      rw [hScan]
      cases hPasses : sub.passesFilter event.agentStatus with
      | true =>
        exact Or.inr ⟨_, event, [], envelope, events, rfl, rfl, rfl, by simp, hStatus, hPasses,
          rfl, rfl⟩
      | false =>
        have hHere : ∀ later, statusOf sub.paneId envelope = some later →
            sub.passesFilter later.agentStatus = false := by
          intro later hLater
          rw [hStatus, Option.some.injEq] at hLater
          exact hLater ▸ hPasses
        rw [if_neg Bool.false_ne_true]
        rcases ih (sub.noted event) true with
          ⟨sub', saw', hResult, hLast, hNot, hSame, hPane, hFilter, hInitial, hSaw⟩ |
            ⟨sub', later, skipped, found, rest, hResult, hEvents, hLast, hSkipped, hRest⟩
        · refine Or.inl ⟨sub', saw', hResult,
            by rw [hLast, List.length_cons]; simp only [noted]; omega, ?_, ?_, hPane, hFilter,
            hInitial, fun _ => hSaw rfl⟩
          · intro other hMem later hLater
            rcases List.mem_cons.1 hMem with rfl | hOld
            · exact ⟨hSaw rfl, hHere later hLater⟩
            · exact hNot other hOld later hLater
          · intro hNone
            rw [hNone envelope List.mem_cons_self] at hStatus
            cases hStatus
        · refine Or.inr ⟨sub', later, envelope :: skipped, found, rest, hResult,
            by rw [hEvents, List.cons_append],
            by rw [hLast, List.length_cons]; simp only [noted]; omega, ?_, hRest⟩
          intro other hMem later hLater
          rcases List.mem_cons.1 hMem with rfl | hOld
          · exact hHere later hLater
          · exact hSkipped other hOld later hLater

end ActiveAgentStatusChangedSubscription

namespace Watch

open ActiveAgentStatusChangedSubscription

variable {wanted : AgentStatus} {w : Watch}

/-- Every event with the wanted status that the thread has read since its set-up
was reported. -/
structure Watching (wanted : AgentStatus) (w : Watch) : Prop where
  hub : Holds EventHub.maxEvents w.hub w.pushed
  room : w.pushed.length - w.cursor ≤ EventHub.maxEvents
  started : w.started ≤ w.cursor
  behind : w.cursor ≤ w.pushed.length
  setUp : ∀ lastSequence, w.stage = .probing lastSequence → w.started = lastSequence
  filter : ∀ sub, w.stage.subscription = some sub → sub.statusFilter = some wanted
  read : ∀ sub, w.stage.subscription = some sub →
    ∀ envelope ∈ (w.pushed.take sub.lastSequence).drop w.started, ∀ event,
      statusOf sub.paneId envelope = some event → event.agentStatus = wanted → w.HasReported wanted

variable {sub : ActiveAgentStatusChangedSubscription} {w' : Watch} {label : WatchStep}

theorem cursor_eq (hSub : w.stage.subscription = some sub) : w.cursor = sub.lastSequence := by
  unfold cursor
  cases hStage : w.stage <;> simp_all [WatchStage.subscription]

theorem passesFilter_iff {status : AgentStatus} (hFilter : sub.statusFilter = some wanted) :
  sub.passesFilter status = true ↔ status = wanted := by
  unfold passesFilter
  rw [hFilter]
  simp [eq_comm]

theorem Watching.start : Watching wanted Watch.start := by
  refine ⟨Holds.empty _, Nat.zero_le _, Nat.le_refl _, Nat.le_refl _, ?_, ?_, ?_⟩ <;>
    intro _ hStage <;> exact nomatch hStage

/-- An event is only read in scans: every other step of the thread keeps the cursor. -/
theorem Watching.keep (h : Watching wanted w) {sub' : ActiveAgentStatusChangedSubscription}
  (hSub : w.stage.subscription = some sub) (hSub' : w'.stage.subscription = some sub')
  (hHub : w'.hub = w.hub) (hPushed : w'.pushed = w.pushed) (hStarted : w'.started = w.started)
  (hPane : sub'.paneId = sub.paneId) (hFilter : sub'.statusFilter = sub.statusFilter)
  (hLast : sub'.lastSequence = sub.lastSequence)
  (hReported : w.HasReported wanted → w'.HasReported wanted) : Watching wanted w' := by
  have hCursor : w'.cursor = w.cursor := by rw [cursor_eq hSub', cursor_eq hSub, hLast]
  refine ⟨by rw [hHub, hPushed]; exact h.hub, by rw [hPushed, hCursor]; exact h.room,
    by rw [hStarted, hCursor]; exact h.started, by rw [hPushed, hCursor]; exact h.behind, ?_, ?_,
    ?_⟩
  · intro lastSequence hProbing
    rw [hProbing] at hSub'
    exact nomatch hSub'
  · intro other hOther
    cases hSub'.symm.trans hOther
    rw [hFilter]
    exact h.filter sub hSub
  · intro other hOther envelope hMem event hEvent hStatus
    cases hSub'.symm.trans hOther
    rw [hPushed, hStarted, hLast] at hMem
    rw [hPane] at hEvent
    exact hReported (h.read sub hSub envelope hMem event hEvent hStatus)

theorem Watching.push (h : Watching wanted w) {event : EventEnvelope}
  (hRoomy : w.Roomy (.push event)) (hStep : w.step (some wanted) (.push event) = some w') :
  Watching wanted w' := by
  cases hStep
  have hBehind := h.behind
  have hStarted := h.started
  have hCursor : w.stage = .unset ∨ ({ w with
      hub := w.hub.push event
      pushed := w.pushed ++ [event] } : Watch).cursor = w.cursor := by
    unfold cursor
    cases w.stage <;> simp
  have hLength : (w.pushed ++ [event]).length = w.pushed.length + 1 := by simp
  have hRoomy' : w.pushed.length - w.cursor < EventHub.maxEvents := hRoomy
  refine ⟨h.hub.push event, ?_, ?_, ?_, h.setUp, h.filter, ?_⟩
  · rcases hCursor with hUnset | hSame
    · rw [show ({ w with
          hub := w.hub.push event
          pushed := w.pushed ++ [event] } : Watch).cursor = (w.pushed ++ [event]).length by
        simp [cursor, hUnset], Nat.sub_self]
      exact Nat.zero_le _
    · rw [hSame, hLength]
      omega
  · rcases hCursor with hUnset | hSame
    · simp only [cursor, hUnset] at hStarted ⊢
      omega
    · rw [hSame]
      exact hStarted
  · rcases hCursor with hUnset | hSame
    · simp [cursor, hUnset]
    · rw [hSame, hLength]
      omega
  · intro sub hSub envelope hMem
    have hLast := cursor_eq (w := w) hSub
    rw [List.take_append_of_le_length (by omega)] at hMem
    exact h.read sub hSub envelope hMem

theorem Watching.backlog (h : Watching wanted w) (hSub : w.stage.subscription = some sub) :
  w.hub.eventsAfter sub.lastSequence =
    numbered (sub.lastSequence + 1) (w.pushed.drop sub.lastSequence) := by
  have hRoom := h.room
  rw [cursor_eq hSub] at hRoom
  have hMax : max sub.lastSequence (w.pushed.length - EventHub.maxEvents) = sub.lastSequence := by
    omega
  have hAfter := h.hub.eventsAfter sub.lastSequence
  unfold unread at hAfter
  rwa [hMax] at hAfter

theorem mem_read {pushed : List EventEnvelope} {started last count : Nat} {envelope : EventEnvelope}
  (hMem : envelope ∈ (pushed.take (last + count)).drop started) :
  envelope ∈ (pushed.take last).drop started ∨ envelope ∈ (pushed.drop last).take count := by
  rw [List.take_add, List.drop_append] at hMem
  rcases List.mem_append.1 hMem with hOld | hNew
  · exact Or.inl hOld
  · exact Or.inr (List.mem_of_mem_drop hNew)

theorem hasReported_report {event : Option PaneAgentStatusChangedEvent}
  (hReported : w.HasReported wanted) :
  (w.report sub event).HasReported wanted := by
  obtain ⟨old, hMem, hStatus⟩ := hReported
  exact ⟨old, List.mem_append_left _ hMem, hStatus⟩

theorem hasReported_new {event : PaneAgentStatusChangedEvent}
  (hStatus : event.agentStatus = wanted) :
  (w.report sub (some event)).HasReported wanted :=
  ⟨event, List.mem_append_right _ List.mem_cons_self, hStatus⟩

/-- What a scan of the hub leads to: a report of the wanted status, or a stage in
which all events are read and none of the pane carries it. -/
theorem Watching.scan_cases (h : Watching wanted w) (hIdle : w.stage = .idle sub) :
  ∃ w', w.step (some wanted) .scan = some w' ∧ Watching wanted w' ∧ w'.probed = w.probed ∧
    (w'.HasReported wanted ∨
      ∃ sub' saw, w' = { w with stage := .scanned sub' saw } ∧
        sub'.initialEvent = sub.initialEvent ∧ sub'.lastSequence = w.pushed.length ∧
        (∀ envelope ∈ w.pushed.drop sub.lastSequence, ∀ event,
          statusOf sub.paneId envelope = some event → event.agentStatus ≠ wanted) ∧
        (saw = true → ∃ envelope ∈ w.pushed.drop sub.lastSequence,
          (statusOf sub.paneId envelope).isSome)) := by
  have hSub : w.stage.subscription = some sub := by rw [hIdle]; rfl
  have hFilter := h.filter sub hSub
  have hBacklog := h.backlog hSub
  have hBehind := h.behind
  have hStarted := h.started
  have hRoom := h.room
  rw [cursor_eq hSub] at hBehind hStarted hRoom
  have hLength : (w.pushed.drop sub.lastSequence).length = w.pushed.length - sub.lastSequence :=
    List.length_drop
  rcases sub.scan_spec false (w.pushed.drop sub.lastSequence) with
    ⟨sub', saw, hScan, hLast, hNot, hSame, hPane, hFilter', hInitial, -⟩ |
      ⟨sub', event, skipped, envelope, rest, hScan, hEvents, hLast, hSkipped, hEvent, hPasses,
        hPane, hFilter'⟩
  · rw [hLength] at hLast
    have hEnd : sub'.lastSequence = w.pushed.length := by omega
    have hNone : ∀ envelope ∈ w.pushed.drop sub.lastSequence, ∀ event,
        statusOf sub.paneId envelope = some event → event.agentStatus ≠ wanted := by
      intro envelope hMem event hEvent hStatus
      have hFails := (hNot envelope hMem event hEvent).2
      rw [(passesFilter_iff hFilter).2 hStatus] at hFails
      exact Bool.true_eq_false.mp hFails
    refine ⟨{ w with stage := .scanned sub' saw }, ?_, ?_, rfl,
      Or.inr ⟨sub', saw, rfl, hInitial, hEnd, hNone, ?_⟩⟩
    · simp only [step, hIdle, hBacklog, hScan]
    · have hCursor : ({ w with stage := .scanned sub' saw } : Watch).cursor = w.pushed.length := hEnd
      have hRoom' : w.pushed.length - w.pushed.length ≤ EventHub.maxEvents := by omega
      have hStarted' : w.started ≤ w.pushed.length := by omega
      refine ⟨h.hub, hCursor ▸ hRoom', hCursor ▸ hStarted', Nat.le_of_eq hCursor,
        fun _ hProbing => (nomatch hProbing), ?_, ?_⟩
      · intro other hOther
        cases hOther
        rw [hFilter', hFilter]
      · intro other hOther envelope hMem event hEvent hStatus
        cases hOther
        rw [hLast] at hMem
        rw [hPane] at hEvent
        rcases mem_read hMem with hOld | hNew
        · exact h.read sub hSub envelope hOld event hEvent hStatus
        · exact absurd hStatus (hNone envelope (List.mem_of_mem_take hNew) event hEvent)
    · intro hSaw
      by_contra hNothing
      have hFalse := hSame fun envelope hMem => by
        cases hStatus : statusOf sub.paneId envelope with
        | none => rfl
        | some event => exact absurd ⟨envelope, hMem, by rw [hStatus]; rfl⟩ hNothing
      exact Bool.true_eq_false.mp (hSaw.symm.trans hFalse)
  · have hStatus : event.agentStatus = wanted := (passesFilter_iff hFilter).1 hPasses
    have hReported : (w.report sub' (some event)).HasReported wanted := hasReported_new hStatus
    have hCount := congrArg List.length hEvents
    rw [hLength, List.length_append, List.length_cons] at hCount
    have hCursor : (w.report sub' (some event)).cursor = sub'.lastSequence := rfl
    refine ⟨w.report sub' (some event), ?_, ?_, rfl, Or.inl hReported⟩
    · simp only [step, hIdle, hBacklog, hScan]
    refine ⟨h.hub, ?_, ?_, ?_, fun _ hProbing => (nomatch hProbing), ?_,
      fun _ _ _ _ _ _ _ => hReported⟩
    · show w.pushed.length - _ ≤ _
      rw [hCursor]
      omega
    · show w.started ≤ _
      rw [hCursor]
      omega
    · show _ ≤ w.pushed.length
      rw [hCursor]
      omega
    · intro other hOther
      cases hOther
      rw [hFilter', hFilter]

/-- The check after a scan, when nothing was pushed in between: a status that still
waits from the probe is reported. -/
theorem check_reports {event : PaneAgentStatusChangedEvent}
  (hHub : Holds EventHub.maxEvents w.hub w.pushed) (hScanned : w.stage = .scanned sub false)
  (hLast : sub.lastSequence = w.pushed.length) (hInitial : sub.initialEvent = some event)
  (hStatus : event.agentStatus = wanted) :
  ∃ w', w.step (some wanted) .check = some w' ∧ w'.HasReported wanted := by
  have hSequence : w.hub.currentSequence = sub.lastSequence := hHub.nextSequence.trans hLast.symm
  refine ⟨w.report { sub with initialEvent := none } (some event), ?_, hasReported_new hStatus⟩
  simp only [step, hScanned, Bool.false_eq_true, if_false, hSequence, ne_eq, not_true_eq_false,
    hInitial]

/-- The steps of a poll after its scan. -/
theorem Watching.poll (h : Watching wanted w)
  (hLabel : label = .check ∨ (∃ pane, label = .answer pane) ∨ label = .settle)
  (hStep : w.step (some wanted) label = some w') :
  Watching wanted w' ∧ w'.probed = w.probed ∧ (w.HasReported wanted → w'.HasReported wanted) := by
  rcases hLabel with rfl | ⟨pane, rfl⟩ | rfl
  · cases hStage : w.stage with
    | scanned sub saw =>
      have hSub : w.stage.subscription = some sub := by rw [hStage]; rfl
      simp only [step, hStage] at hStep
      split at hStep
      · cases hStep
        exact ⟨h.keep hSub rfl rfl rfl rfl rfl rfl rfl id, rfl, id⟩
      split at hStep
      · cases hStep
        exact ⟨h.keep hSub rfl rfl rfl rfl rfl rfl rfl hasReported_report, rfl,
          hasReported_report⟩
      · split at hStep
        · cases hStep
          exact ⟨h.keep hSub rfl rfl rfl rfl rfl rfl rfl hasReported_report, rfl,
            hasReported_report⟩
        · cases hStep
          exact ⟨h.keep hSub rfl rfl rfl rfl rfl rfl rfl id, rfl, id⟩
    | _ => simp [step, hStage] at hStep
  · cases hStage : w.stage with
    | asking sub =>
      have hSub : w.stage.subscription = some sub := by rw [hStage]; rfl
      simp only [step, hStage] at hStep
      cases hStep
      exact ⟨h.keep hSub rfl rfl rfl rfl rfl rfl rfl id, rfl, id⟩
    | _ => simp [step, hStage] at hStep
  · cases hStage : w.stage with
    | answered sub pane =>
      have hSub : w.stage.subscription = some sub := by rw [hStage]; rfl
      have hKeep : ∀ sub' event, sub'.paneId = sub.paneId → sub'.statusFilter = sub.statusFilter →
          sub'.lastSequence = sub.lastSequence → Watching wanted (w.report sub' event) ∧
            (w.report sub' event).probed = w.probed ∧
            (w.HasReported wanted → (w.report sub' event).HasReported wanted) :=
        fun sub' event hPane hFilter hLast =>
          ⟨h.keep hSub rfl rfl rfl rfl hPane hFilter hLast hasReported_report, rfl,
            hasReported_report⟩
      simp only [step, hStage] at hStep
      split at hStep
      · cases hStep
        exact hKeep sub none rfl rfl rfl
      split at hStep
      · cases hStep
        exact hKeep sub none rfl rfl rfl
      next pane =>
        cases hStep
        unfold eventFromSnapshot
        dsimp only
        split
        · exact hKeep _ _ rfl rfl rfl
        · exact hKeep _ _ rfl rfl rfl
    | _ => simp [step, hStage] at hStep

/-- The status found at the probe was reported or still waits to be. -/
def Waiting (wanted : AgentStatus) (w : Watch) : Prop :=
  w.HasReported wanted ∨
    match w.stage with
    | .unset | .probing _ => w.probed = none
    | .idle sub => ∃ event, sub.initialEvent = some event ∧ event.agentStatus = wanted
    | .scanned sub saw =>
      saw = false ∧ ∃ event, sub.initialEvent = some event ∧ event.agentStatus = wanted
    | .asking _ | .answered _ _ => False

/-- What holds in every run: no event with the wanted status gets lost, and neither
does the status found at the probe as long as no scan drops it. -/
structure Attentive (wanted : AgentStatus) (w : Watch) : Prop where
  watching : Watching wanted w
  waiting : (∀ pane, w.probed = some pane → pane.agentStatus = wanted) → Waiting wanted w

section

variable (h : Attentive wanted w)
include h

theorem Attentive.set_up
  (hLabel : label = .readCursor ∨ ∃ pane, label = .probe pane)
  (hStep : w.step (some wanted) label = some w') : Attentive wanted w' := by
  rcases hLabel with rfl | ⟨pane, rfl⟩
  · cases hStage : w.stage with
    | unset =>
      simp only [step, hStage] at hStep
      cases hStep
      have hCursor : w.hub.currentSequence = w.pushed.length := h.watching.hub.nextSequence
      refine ⟨⟨h.watching.hub, ?_, Nat.le_refl _, Nat.le_of_eq hCursor, ?_, ?_, ?_⟩, ?_⟩
      · show w.pushed.length - w.hub.currentSequence ≤ _
        rw [hCursor, Nat.sub_self]
        exact Nat.zero_le _
      · intro lastSequence hProbing
        exact WatchStage.probing.inj hProbing
      · intro sub hSub
        exact nomatch hSub
      · intro sub hSub
        exact nomatch hSub
      · intro hProbed
        have hWaiting := h.waiting hProbed
        unfold Waiting at hWaiting ⊢
        rwa [hStage] at hWaiting
    | _ => simp [step, hStage] at hStep
  · cases hStage : w.stage with
    | probing lastSequence =>
      simp only [step, hStage] at hStep
      cases hStep
      have hCursor : w.cursor = lastSequence := by simp only [cursor, hStage]
      have hStarted := h.watching.started
      have hRoom := h.watching.room
      have hBehind := h.watching.behind
      rw [hCursor] at hStarted hRoom hBehind
      have hSame := h.watching.setUp lastSequence hStage
      refine ⟨⟨h.watching.hub, hRoom, hStarted, hBehind, fun _ hProbing => (nomatch hProbing), ?_,
        ?_⟩, ?_⟩
      · intro sub hSub
        cases hSub
        rfl
      · intro sub hSub envelope hMem
        cases hSub
        rw [List.drop_take, hSame] at hMem
        simp [new] at hMem
      · intro hProbed
        have hStatus := hProbed pane rfl
        refine Or.inr ⟨pane.statusEvent, ?_, hStatus⟩
        simp [new, hStatus]
    | _ => simp [step, hStage] at hStep

theorem Attentive.scan (hUndropped : w.Undropped .scan)
  (hStep : w.step (some wanted) .scan = some w') : Attentive wanted w' := by
  cases hStage : w.stage with
  | idle sub =>
    have hSub : w.stage.subscription = some sub := by rw [hStage]; rfl
    obtain ⟨next, hNext, hWatching, hProbed, hOutcome⟩ := h.watching.scan_cases hStage
    cases hNext.symm.trans hStep
    refine ⟨hWatching, ?_⟩
    intro hStatus
    rw [hProbed] at hStatus
    rcases hOutcome with hReported | ⟨sub', saw, rfl, hInitial, -, hNone, hSaw⟩
    · exact Or.inl hReported
    rcases h.waiting hStatus with hReported | hWaits
    · exact Or.inl hReported
    rw [hStage] at hWaits
    obtain ⟨event, hEvent, hWanted⟩ := hWaits
    refine Or.inr ⟨?_, event, hInitial.trans hEvent, hWanted⟩
    cases saw with
    | false => rfl
    | true =>
      obtain ⟨envelope, hMem, hSome⟩ := hSaw rfl
      have hBacklog := h.watching.backlog hSub
      have hEntry : ∃ entry ∈ w.hub.eventsAfter sub.lastSequence, entry.2 = envelope := by
        rw [← map_snd_numbered (sub.lastSequence + 1) (w.pushed.drop sub.lastSequence),
          ← hBacklog] at hMem
        exact List.mem_map.1 hMem
      obtain ⟨entry, hEntryMem, rfl⟩ := hEntry
      obtain ⟨entry', hMem', event', hEvent', hPasses⟩ :=
        hUndropped sub hStage (by rw [hEvent]; rfl) entry hEntryMem hSome
      have hPushed : entry'.2 ∈ w.pushed.drop sub.lastSequence := by
        rw [← map_snd_numbered (sub.lastSequence + 1) (w.pushed.drop sub.lastSequence),
          ← hBacklog]
        exact List.mem_map.2 ⟨entry', hMem', rfl⟩
      exact absurd ((passesFilter_iff (h.watching.filter sub hSub)).1 hPasses)
        (hNone entry'.2 hPushed event' hEvent')
  | _ => simp [step, hStage] at hStep

theorem Attentive.check (hStep : w.step (some wanted) .check = some w') :
  Attentive wanted w' := by
  obtain ⟨hWatching, hProbed, hKeeps⟩ := h.watching.poll (Or.inl rfl) hStep
  refine ⟨hWatching, ?_⟩
  intro hStatus
  rw [hProbed] at hStatus
  rcases h.waiting hStatus with hReported | hWaits
  · exact Or.inl (hKeeps hReported)
  cases hStage : w.stage with
  | scanned sub saw =>
    rw [hStage] at hWaits
    obtain ⟨rfl, event, hInitial, hWanted⟩ := hWaits
    simp only [step, hStage, Bool.false_eq_true, if_false] at hStep
    split at hStep
    · cases hStep
      exact Or.inr ⟨event, hInitial, hWanted⟩
    simp only [hInitial] at hStep
    cases hStep
    exact Or.inl (hasReported_new hWanted)
  | _ => simp [step, hStage] at hStep

theorem Attentive.ask
  (hLabel : (∃ pane, label = .answer pane) ∨ label = .settle)
  (hStep : w.step (some wanted) label = some w') : Attentive wanted w' := by
  obtain ⟨hWatching, hProbed, hKeeps⟩ := h.watching.poll (Or.inr hLabel) hStep
  refine ⟨hWatching, ?_⟩
  intro hStatus
  rw [hProbed] at hStatus
  rcases h.waiting hStatus with hReported | hWaits
  · exact Or.inl (hKeeps hReported)
  exfalso
  rcases hLabel with ⟨pane, rfl⟩ | rfl
  · cases hStage : w.stage with
    | asking sub => rw [hStage] at hWaits; exact hWaits
    | _ => simp [step, hStage] at hStep
  · cases hStage : w.stage with
    | answered sub pane => rw [hStage] at hWaits; exact hWaits
    | _ => simp [step, hStage] at hStep

theorem Attentive.step {label : WatchStep} {w' : Watch}
  (hRoomy : w.Roomy label) (hUndropped : w.Undropped label)
  (hStep : w.step (some wanted) label = some w') : Attentive wanted w' := by
  cases label with
  | push event =>
    refine ⟨h.watching.push hRoomy hStep, ?_⟩
    cases hStep
    exact h.waiting
  | readCursor => exact h.set_up (Or.inl rfl) hStep
  | probe pane => exact h.set_up (Or.inr ⟨pane, rfl⟩) hStep
  | scan => exact h.scan hUndropped hStep
  | check => exact h.check hStep
  | answer pane => exact h.ask (Or.inl ⟨pane, rfl⟩) hStep
  | settle => exact h.ask (Or.inr rfl) hStep

end

theorem Attentive.of_run {labels : List WatchStep}
  (run : Run (restrict (ofPartial (Watch.step (some wanted)))
    fun w label => w.Roomy label ∧ w.Undropped label) .start labels w) : Attentive wanted w := by
  refine run.preserves ⟨Watching.start, fun _ => Or.inr rfl⟩ ?_
  intro u label v h hStep
  exact h.step hStep.2.1 hStep.2.2 hStep.1

/-- In every run without overflow in which no scan drops the status of the probe: if
the pane had the wanted status at the probe, or an event pushed since the set-up
carries it, then a poll has reported it, or the next poll does unless something is
pushed between its scan and its check. -/
theorem status_reported_of_run {labels : List WatchStep}
  (run : Run (restrict (ofPartial (Watch.step (some wanted)))
    fun w label => w.Roomy label ∧ w.Undropped label) .start labels w)
  {sub : ActiveAgentStatusChangedSubscription} (hIdle : w.stage = .idle sub)
  (hUndropped : w.Undropped .scan)
  (hWanted : (∃ pane, w.probed = some pane ∧ pane.agentStatus = wanted) ∨
    ∃ envelope ∈ w.pushed.drop w.started, ∃ event,
      statusOf sub.paneId envelope = some event ∧ event.agentStatus = wanted) :
  w.HasReported wanted ∨ ∃ w₁, w.step (some wanted) .scan = some w₁ ∧
    (w₁.HasReported wanted ∨
      ∃ w₂, w₁.step (some wanted) .check = some w₂ ∧ w₂.HasReported wanted) := by
  have h := Attentive.of_run run
  have hSub : w.stage.subscription = some sub := by rw [hIdle]; rfl
  obtain ⟨w₁, hScan, hWatching, hProbed, hOutcome⟩ := h.watching.scan_cases hIdle
  rcases hOutcome with hReported | ⟨sub', saw, rfl, hInitial, hLast, hNone, -⟩
  · exact Or.inr ⟨w₁, hScan, Or.inl hReported⟩
  rcases hWanted with ⟨pane, hPane, hPaneStatus⟩ | ⟨envelope, hMem, event, hEvent, hCarries⟩
  · have hAfter := h.scan hUndropped hScan
    have hStatus : ∀ pane, w.probed = some pane → pane.agentStatus = wanted := by
      intro other hOther
      cases hPane.symm.trans hOther
      exact hPaneStatus
    rcases hAfter.waiting (hProbed ▸ hStatus) with hReported | hWaits
    · exact Or.inr ⟨_, hScan, Or.inl hReported⟩
    · obtain ⟨rfl, event, hEvent, hWanted⟩ := hWaits
      exact Or.inr ⟨_, hScan, Or.inr (check_reports hWatching.hub rfl hLast hEvent hWanted)⟩
  · refine Or.inl ?_
    have hSplit : envelope ∈ (w.pushed.take sub.lastSequence).drop w.started ∨
        envelope ∈ w.pushed.drop sub.lastSequence := by
      have hStarted := h.watching.started
      rw [cursor_eq hSub] at hStarted
      have hAll := List.take_append_drop sub.lastSequence w.pushed
      rw [← hAll, List.drop_append] at hMem
      rcases List.mem_append.1 hMem with hRead | hUnread
      · exact Or.inl hRead
      · exact Or.inr (List.mem_of_mem_drop hUnread)
    rcases hSplit with hRead | hUnread
    · exact h.watching.read sub hSub envelope hRead event hEvent hCarries
    · exact absurd hCarries (hNone envelope hUnread event hEvent)

/-- A subscription to an idle pane that reports being idle again before the first poll. -/
theorem status_reported_idle_run : ∃ w : Watch,
  Run (restrict (ofPartial (Watch.step (some .idle)))
    fun w label => w.Roomy label ∧ w.Undropped label) .start
    [.readCursor, .probe ⟨"w1:p1", "w1", .idle, none, none, none, ∅⟩,
      .push ⟨.paneAgentStatusChanged,
        .paneAgentStatusChanged ⟨"w1:p1", "w1", .idle, none, none, none, ∅⟩⟩] w ∧
  (w.HasReported .idle ∨ ∃ w₁, w.step (some .idle) .scan = some w₁ ∧
    (w₁.HasReported .idle ∨
      ∃ w₂, w₁.step (some .idle) .check = some w₂ ∧ w₂.HasReported .idle)) := by
  let pane : PaneInfo := ⟨"w1:p1", "w1", .idle, none, none, none, ∅⟩
  let probed : Watch := { start with stage := .idle (.new (some .idle) 0 pane), probed := some pane }
  let event : EventEnvelope := ⟨.paneAgentStatusChanged,
    .paneAgentStatusChanged ⟨"w1:p1", "w1", .idle, none, none, none, ∅⟩⟩
  let w : Watch := { probed with hub := probed.hub.push event, pushed := [event] }
  have hCursor : restrict (ofPartial (Watch.step (some .idle)))
      (fun w label => w.Roomy label ∧ w.Undropped label) start .readCursor
      { start with stage := .probing 0 } := ⟨rfl, trivial, trivial⟩
  have hProbe : restrict (ofPartial (Watch.step (some .idle)))
      (fun w label => w.Roomy label ∧ w.Undropped label) { start with stage := .probing 0 }
      (.probe pane) probed := ⟨rfl, trivial, trivial⟩
  have hPush : restrict (ofPartial (Watch.step (some .idle)))
      (fun w label => w.Roomy label ∧ w.Undropped label) probed (.push event) w :=
    ⟨rfl, EventHub.maxEvents_pos, trivial⟩
  have run := ((Run.single hCursor).trans (Run.single hProbe)).trans (Run.single hPush)
  refine ⟨w, run, status_reported_of_run run rfl ?_ (Or.inl ⟨_, rfl, rfl⟩)⟩
  intro sub hIdle hInitial entry hMem hStatus
  cases hIdle
  have hEntries : w.hub.eventsAfter 0 = [(1, event)] := by
    simp [w, probed, start, EventHub.push, EventHub.maxEvents, BoundedLog.push, BoundedLog.empty,
      EventHub.eventsAfter, BoundedLog.eventsAfter]
  obtain rfl : entry = (1, event) := List.mem_singleton.1 (hEntries ▸ hMem)
  exact ⟨_, hMem, _, rfl, rfl⟩

/-- The pane is idle at the probe and starts working before the first scan. No poll
reports the idle status: the first one drops it, and the polls after it find nothing. -/
theorem probed_status_dropped : ∃ w : Watch,
  Run (restrict (ofPartial (Watch.step (some .idle))) Watch.Roomy) .start [.readCursor,
    .probe ⟨"w1:p1", "w1", .idle, none, none, none, ∅⟩,
    .push ⟨.paneAgentStatusChanged,
      .paneAgentStatusChanged ⟨"w1:p1", "w1", .working, none, none, none, ∅⟩⟩,
    .scan, .check, .answer (some ⟨"w1:p1", "w1", .working, none, none, none, ∅⟩), .settle] w ∧
  (∃ pane, w.probed = some pane ∧ pane.agentStatus = .idle) ∧ w.reported = [] ∧
  Run (restrict (ofPartial (Watch.step (some .idle))) Watch.Roomy) w
    [.scan, .check, .answer (some ⟨"w1:p1", "w1", .working, none, none, none, ∅⟩), .settle] w := by
  refine ⟨_, run_of_guarded (by with_unfolding_all rfl), ⟨_, rfl, rfl⟩, rfl,
    run_of_guarded (by with_unfolding_all rfl)⟩

end Watch

end Api
