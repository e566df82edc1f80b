import VimeflowTerminal.Transition.Run

/-! Producers hand control and render messages to the thread that writes to a
client. Each operation holds the lock of the queue and is one step. The
receiver sleeps on the condition variable while there is nothing to receive. -/

namespace Server

open Transition

variable {β : Type}

inductive ClientWriteItem (β : Type) where
  | control (data : β)
  | render (data : β)
  deriving DecidableEq

structure ClientWriterQueue (β : Type) where
  control : List β
  render : Option β
  senders : Nat
  writerAlive : Bool
  deriving DecidableEq

/-- What becomes of a render message. -/
inductive TrySend where
  | accepted
  | full
  | disconnected
  deriving DecidableEq

/-- What a look at the queue tells the receiver. -/
inductive Recv (β : Type) where
  | item (item : ClientWriteItem β)
  | finished
  | wait
  deriving DecidableEq

namespace ClientWriterQueue

def new : ClientWriterQueue β := ⟨[], none, 0, true⟩

def addSender (q : ClientWriterQueue β) : ClientWriterQueue β := { q with senders := q.senders + 1 }

def removeSender (q : ClientWriterQueue β) : ClientWriterQueue β :=
  { q with senders := q.senders - 1 }

/-- The flag says that the message was accepted. -/
def sendControl (q : ClientWriterQueue β) (data : β) : ClientWriterQueue β × Bool :=
  if q.writerAlive then ({ q with control := q.control ++ [data] }, true) else (q, false)

def trySendRender (q : ClientWriterQueue β) (data : β) : ClientWriterQueue β × TrySend :=
  if !q.writerAlive then (q, .disconnected)
  else if q.render.isSome then (q, .full)
  else ({ q with render := some data }, .accepted)

/-- One turn of the loop of `recv`. -/
def recv (q : ClientWriterQueue β) : ClientWriterQueue β × Recv β :=
  match q.control with
  | data :: control => ({ q with control }, .item (.control data))
  | [] =>
    match q.render with
    | some data => ({ q with render := none }, .item (.render data))
    | none => (q, if q.senders = 0 then .finished else .wait)

def closeWriter (q : ClientWriterQueue β) : ClientWriterQueue β := { q with writerAlive := false }

end ClientWriterQueue

inductive Receiver where
  | running
  | asleep
  | finished
  deriving DecidableEq

/-- Any notification of the condition variable wakes the receiver. -/
def Receiver.notified : Receiver → Receiver
  | asleep => running
  | receiver => receiver

/-- The queue, the handles through which producers send, the receiving thread,
and the messages accepted and received so far. -/
structure ClientConnection (β : Type) where
  queue : ClientWriterQueue β
  handles : Nat
  receiver : Receiver
  accepted : List (ClientWriteItem β)
  received : List (ClientWriteItem β)
  deriving DecidableEq

inductive QueueStep (β : Type) where
  | cloneHandle
  | dropHandle
  | sendControl (data : β)
  | sendRender (data : β)
  | recv
  | spuriousWakeup
  | closeWriter
  deriving DecidableEq

namespace ClientConnection

/-- A connection starts with one handle for control and one for render messages. -/
def start : ClientConnection β where
  queue := ClientWriterQueue.new.addSender.addSender
  handles := 2
  receiver := .running
  accepted := []
  received := []

/-- The receiver looks at the queue, unless it sleeps or has seen the end. -/
def receive (c : ClientConnection β) : Option (ClientConnection β) :=
  match c.receiver with
  | .running =>
    match c.queue.recv with
    | (queue, .item item) => some { c with queue, received := c.received ++ [item] }
    | (queue, .finished) => some { c with queue, receiver := .finished }
    | (queue, .wait) => some { c with queue, receiver := .asleep }
  | _ => none

/-- Only the holder of a handle can clone it, drop it or send through it. -/
def step (c : ClientConnection β) : QueueStep β → Option (ClientConnection β)
  | .cloneHandle =>
    if 0 < c.handles then
      some { c with queue := c.queue.addSender, handles := c.handles + 1 }
    else none
  | .dropHandle =>
    if 0 < c.handles then
      some { c with
        queue := c.queue.removeSender
        handles := c.handles - 1
        receiver := c.receiver.notified }
    else none
  | .sendControl data =>
    if 0 < c.handles then
      match c.queue.sendControl data with
      | (queue, true) =>
        some { c with
          queue
          accepted := c.accepted ++ [.control data]
          receiver := c.receiver.notified }
      | (_, false) => some c
    else none
  | .sendRender data =>
    if 0 < c.handles then
      match c.queue.trySendRender data with
      | (queue, .accepted) =>
        some { c with
          queue
          accepted := c.accepted ++ [.render data]
          receiver := c.receiver.notified }
      | _ => some c
    else none
  | .recv => c.receive
  | .spuriousWakeup => some { c with receiver := c.receiver.notified }
  | .closeWriter =>
    some { c with queue := c.queue.closeWriter, receiver := c.receiver.notified }

end ClientConnection

/-- The control messages among some items, in order. -/
def controls (items : List (ClientWriteItem β)) : List β :=
  items.filterMap fun
    | .control data => some data
    | .render _ => none

/-- The render messages among some items, in order. -/
def renders (items : List (ClientWriteItem β)) : List β :=
  items.filterMap fun
    | .control _ => none
    | .render data => some data

@[simp] theorem controls_append (items items' : List (ClientWriteItem β)) :
  controls (items ++ items') = controls items ++ controls items' := List.filterMap_append

@[simp] theorem renders_append (items items' : List (ClientWriteItem β)) :
  renders (items ++ items') = renders items ++ renders items' := List.filterMap_append

@[simp] theorem controls_control (data : β) : controls [.control data] = [data] := rfl

@[simp] theorem controls_render (data : β) : controls [.render data] = [] := rfl

@[simp] theorem renders_control (data : β) : renders [.control data] = [] := rfl

@[simp] theorem renders_render (data : β) : renders [.render data] = [data] := rfl

theorem length_controls_renders (items : List (ClientWriteItem β)) :
  (controls items).length + (renders items).length = items.length := by
  induction items with
  | nil => rfl
  | cons item items ih =>
    cases item with
    | control data =>
      rw [← List.singleton_append, controls_append, renders_append, controls_control,
        renders_control, List.length_append, List.length_append, List.length_append]
      simp only [List.length_cons, List.length_nil]
      omega
    | render data =>
      rw [← List.singleton_append, controls_append, renders_append, controls_render,
        renders_render, List.length_append, List.length_append, List.length_append]
      simp only [List.length_cons, List.length_nil]
      omega

/-- Each accepted message has been received or is still pending, in the order of
acceptance within its class. The receiver sleeps only while there is nothing to
receive, and it has seen the end only if nothing is pending and no handle is left. -/
structure Delivers (c : ClientConnection β) : Prop where
  control : controls c.received ++ c.queue.control = controls c.accepted
  render : renders c.received ++ c.queue.render.toList = renders c.accepted
  senders : c.queue.senders = c.handles
  asleep : c.receiver = .asleep → c.queue.control = [] ∧ c.queue.render = none ∧ 0 < c.handles
  finished : c.receiver = .finished → c.queue.control = [] ∧ c.queue.render = none ∧ c.handles = 0

namespace Delivers

variable {c : ClientConnection β}

theorem start : Delivers (ClientConnection.start (β := β)) :=
  ⟨rfl, rfl, rfl, fun hAsleep => Receiver.noConfusion hAsleep,
    fun hFinished => Receiver.noConfusion hFinished⟩

theorem not_asleep_notified (receiver : Receiver) : receiver.notified ≠ .asleep := by
  cases receiver <;> exact Receiver.noConfusion

theorem finished_of_notified {receiver : Receiver} (hFinished : receiver.notified = .finished) :
  receiver = .finished := by
  cases receiver with
  | running => exact Receiver.noConfusion hFinished
  | asleep => exact Receiver.noConfusion hFinished
  | finished => rfl

theorem not_finished (h : Delivers c) (hHandle : 0 < c.handles) : c.receiver ≠ .finished := by
  intro hFinished
  have hNone := (h.finished hFinished).2.2
  omega

variable {c' : ClientConnection β}

theorem of_notified (h : Delivers c) (hReceiver : c'.receiver = c.receiver.notified)
  (hControl : controls c'.received ++ c'.queue.control = controls c'.accepted)
  (hRender : renders c'.received ++ c'.queue.render.toList = renders c'.accepted)
  (hSenders : c'.queue.senders = c'.handles) (hEnd : c.receiver = .finished →
    c'.queue.control = c.queue.control ∧ c'.queue.render = c.queue.render ∧
      c'.handles = c.handles) :
  Delivers c' := by
  refine ⟨hControl, hRender, hSenders, ?_, ?_⟩
  · intro hAsleep
    exact absurd (hReceiver ▸ hAsleep) (not_asleep_notified c.receiver)
  intro hFinished
  have hBefore : c.receiver = .finished := finished_of_notified (hReceiver ▸ hFinished)
  obtain ⟨hSameControl, hSameRender, hSameHandles⟩ := hEnd hBefore
  rw [hSameControl, hSameRender, hSameHandles]
  exact h.finished hBefore

theorem sendControl (h : Delivers c) (hHandle : 0 < c.handles) (data : β)
  (hStep : c.step (.sendControl data) = some c') : Delivers c' := by
  simp only [ClientConnection.step, if_pos hHandle, ClientWriterQueue.sendControl] at hStep
  cases hAlive : c.queue.writerAlive with
  | false =>
    simp only [hAlive, Bool.false_eq_true, if_false, Option.some.injEq] at hStep
    exact hStep ▸ h
  | true =>
    simp only [hAlive, if_true, Option.some.injEq] at hStep
    subst hStep
    refine h.of_notified rfl ?_ ?_ h.senders fun hFinished =>
      absurd hFinished (h.not_finished hHandle)
    · rw [controls_append, controls_control, ← h.control, List.append_assoc]
    · rw [renders_append, renders_control, List.append_nil]
      exact h.render

theorem sendRender (h : Delivers c) (hHandle : 0 < c.handles) (data : β)
  (hStep : c.step (.sendRender data) = some c') : Delivers c' := by
  simp only [ClientConnection.step, if_pos hHandle, ClientWriterQueue.trySendRender] at hStep
  cases hAlive : c.queue.writerAlive with
  | false =>
    simp only [hAlive, Bool.not_false, if_true, Option.some.injEq] at hStep
    exact hStep ▸ h
  | true =>
    cases hPending : c.queue.render with
    | some pending =>
      simp only [hAlive, hPending, Bool.not_true, Bool.false_eq_true, if_false,
        Option.isSome_some, if_true, Option.some.injEq] at hStep
      exact hStep ▸ h
    | none =>
      simp only [hAlive, hPending, Bool.not_true, Bool.false_eq_true, if_false,
        Option.isSome_none, Option.some.injEq] at hStep
      subst hStep
      refine h.of_notified rfl ?_ ?_ h.senders fun hFinished =>
        absurd hFinished (h.not_finished hHandle)
      · rw [controls_append, controls_render, List.append_nil]
        exact h.control
      have hRender := h.render
      rw [hPending, Option.toList_none, List.append_nil] at hRender
      rw [renders_append, renders_render, ← hRender]
      rfl

/-- A running receiver takes the oldest control message, else the render message,
else it sleeps or ends. -/
theorem recv (h : Delivers c) (hStep : c.step .recv = some c') : Delivers c' := by
  cases hReceiver : c.receiver with
  | asleep => simp [ClientConnection.step, ClientConnection.receive, hReceiver] at hStep
  | finished => simp [ClientConnection.step, ClientConnection.receive, hReceiver] at hStep
  | running =>
    cases hControl : c.queue.control with
    | cons data control =>
      simp only [ClientConnection.step, ClientConnection.receive, hReceiver,
        ClientWriterQueue.recv, hControl, Option.some.injEq] at hStep
      subst hStep
      refine ⟨?_, ?_, h.senders, fun hAsleep => Receiver.noConfusion hAsleep,
        fun hFinished => Receiver.noConfusion hFinished⟩
      · rw [controls_append, controls_control, ← h.control, hControl, List.append_assoc]
        rfl
      · rw [renders_append, renders_control, List.append_nil]
        exact h.render
    | nil =>
      cases hRender : c.queue.render with
      | some data =>
        simp only [ClientConnection.step, ClientConnection.receive, hReceiver,
          ClientWriterQueue.recv, hControl, hRender, Option.some.injEq] at hStep
        subst hStep
        refine ⟨?_, ?_, h.senders, fun hAsleep => Receiver.noConfusion hAsleep,
          fun hFinished => Receiver.noConfusion hFinished⟩
        · rw [controls_append, controls_render, List.append_nil, ← h.control, hControl]
        · rw [renders_append, renders_render, ← h.render, hRender]
          simp
      | none =>
        have hSenders := h.senders
        by_cases hNone : c.queue.senders = 0
        · simp only [ClientConnection.step, ClientConnection.receive, hReceiver,
            ClientWriterQueue.recv, hControl, hRender, hNone, if_true,
            Option.some.injEq] at hStep
          subst hStep
          exact ⟨h.control, h.render, h.senders, fun hAsleep => Receiver.noConfusion hAsleep,
            fun _ => ⟨hControl, hRender, hSenders.symm.trans hNone⟩⟩
        · simp only [ClientConnection.step, ClientConnection.receive, hReceiver,
            ClientWriterQueue.recv, hControl, hRender, hNone, if_false,
            Option.some.injEq] at hStep
          subst hStep
          refine ⟨h.control, h.render, h.senders, fun _ => ⟨hControl, hRender, ?_⟩,
            fun hFinished => Receiver.noConfusion hFinished⟩
          show 0 < c.handles
          omega

theorem step (h : Delivers c) {label : QueueStep β} {c' : ClientConnection β}
  (hStep : c.step label = some c') : Delivers c' := by
  cases label with
  | cloneHandle =>
    obtain ⟨hHandle, hEq⟩ := Option.ite_none_right_eq_some.1 hStep
    cases hEq
    refine ⟨h.control, h.render, congrArg (· + 1) h.senders, ?_, ?_⟩
    · intro hAsleep
      obtain ⟨hControl, hRender, -⟩ := h.asleep hAsleep
      exact ⟨hControl, hRender, Nat.succ_pos _⟩
    · intro hFinished
      exact absurd hFinished (h.not_finished hHandle)
  | dropHandle =>
    obtain ⟨hHandle, hEq⟩ := Option.ite_none_right_eq_some.1 hStep
    cases hEq
    exact h.of_notified rfl h.control h.render (congrArg (· - 1) h.senders) fun hFinished =>
      absurd hFinished (h.not_finished hHandle)
  | sendControl data =>
    have hHandle : 0 < c.handles := by
      by_contra hNone
      simp [ClientConnection.step, hNone] at hStep
    exact h.sendControl hHandle data hStep
  | sendRender data =>
    have hHandle : 0 < c.handles := by
      by_contra hNone
      simp [ClientConnection.step, hNone] at hStep
    exact h.sendRender hHandle data hStep
  | recv => exact h.recv hStep
  | spuriousWakeup =>
    cases hStep
    exact h.of_notified rfl h.control h.render h.senders fun _ => ⟨rfl, rfl, rfl⟩
  | closeWriter =>
    cases hStep
    exact h.of_notified rfl h.control h.render h.senders fun _ => ⟨rfl, rfl, rfl⟩

theorem of_run {labels : List (QueueStep β)}
  (run : Run (ofPartial ClientConnection.step) .start labels c) : Delivers c :=
  run.preserves start fun _ _ _ h hStep => h.step hStep

end Delivers

variable {c : ClientConnection β}

theorem recv_control {data : β} {control : List β} (hPending : c.queue.control = data :: control)
  (hReceiver : c.receiver = .running) :
  c.step .recv = some { c with
    queue := { c.queue with control }
    received := c.received ++ [.control data] } := by
  simp only [ClientConnection.step, ClientConnection.receive, hReceiver, ClientWriterQueue.recv,
    hPending]

/-- As many receptions as control messages are pending deliver just these. -/
theorem recv_all_controls (hReceiver : c.receiver = .running) :
  ∃ c', Run (ofPartial ClientConnection.step) c
      (List.replicate c.queue.control.length .recv) c' ∧
    c'.received = c.received ++ c.queue.control.map .control ∧ c'.accepted = c.accepted := by
  obtain ⟨pending, hPending⟩ : ∃ pending, c.queue.control = pending := ⟨_, rfl⟩
  induction pending generalizing c with
  | nil =>
    rw [hPending]
    exact ⟨c, Run.zero c, (List.append_nil _).symm, rfl⟩
  | cons data control ih =>
    have hFirst := recv_control hPending hReceiver
    obtain ⟨c', run, hReceived, hAccepted⟩ := ih (c := { c with
      queue := { c.queue with control }
      received := c.received ++ [.control data] }) hReceiver rfl
    refine ⟨c', ?_, ?_, hAccepted⟩
    · rw [hPending, List.length_cons, List.replicate_succ]
      exact (Run.single hFirst).trans run
    · rw [hReceived, hPending, List.append_assoc]
      rfl

/-- No control message is pending when a render message is received. -/
theorem control_before_render {c' : ClientConnection β} {data : β}
  (hStep : c.step .recv = some c') (hRender : c'.received = c.received ++ [.render data]) :
  c.queue.control = [] := by
  cases hControl : c.queue.control with
  | nil => rfl
  | cons pending control =>
    cases hReceiver : c.receiver with
    | running =>
      rw [recv_control hControl hReceiver, Option.some.injEq] at hStep
      rw [← hStep] at hRender
      have hItem := List.append_cancel_left hRender
      exact nomatch (List.cons.inj hItem).1
    | asleep => simp [ClientConnection.step, ClientConnection.receive, hReceiver] at hStep
    | finished => simp [ClientConnection.step, ClientConnection.receive, hReceiver] at hStep

/-- In every run control messages are delivered in the order of acceptance, each
once and ahead of any render message; at most one render message is pending; and
the receiver sees the end only when all control messages are delivered and no
sender is left. -/
theorem delivery_of_run {labels : List (QueueStep β)} {c : ClientConnection β}
  (run : Run (ofPartial ClientConnection.step) .start labels c) :
  controls c.received ++ c.queue.control = controls c.accepted ∧
    (renders c.received <+: renders c.accepted ∧
      (renders c.accepted).length ≤ (renders c.received).length + 1) ∧
    (∀ c' data, c.step .recv = some c' → c'.received = c.received ++ [.render data] →
      controls c.received = controls c.accepted) ∧
    (c.receiver = .running → ∃ c', Run (ofPartial ClientConnection.step) c
        (List.replicate c.queue.control.length .recv) c' ∧
      controls c'.received = controls c.accepted ∧ renders c'.received = renders c.received) ∧
    (c.receiver = .asleep → c.received.length = c.accepted.length ∧ 0 < c.handles) ∧
    (c.receiver = .finished → controls c.received = controls c.accepted ∧ c.handles = 0) := by
  have h := Delivers.of_run run
  have hDone : c.queue.control = [] → controls c.received = controls c.accepted := by
    intro hNone
    rw [← h.control, hNone, List.append_nil]
  refine ⟨h.control, ⟨⟨_, h.render⟩, ?_⟩, ?_, ?_, ?_, ?_⟩
  · rw [← h.render, List.length_append]
    have hSlot : c.queue.render.toList.length ≤ 1 := by cases c.queue.render <;> simp
    omega
  · intro c' data hStep hRender
    exact hDone (control_before_render hStep hRender)
  · intro hReceiver
    obtain ⟨c', hRun, hReceived, -⟩ := recv_all_controls hReceiver
    have hControls : ∀ pending : List β,
        controls (pending.map .control) = pending ∧ renders (pending.map .control) = [] := by
      intro pending
      rw [controls, renders, List.filterMap_map, List.filterMap_map]
      exact ⟨List.filterMap_some, List.filterMap_eq_nil_iff.2 fun _ _ => rfl⟩
    obtain ⟨hAll, hNone⟩ := hControls c.queue.control
    refine ⟨c', hRun, ?_, ?_⟩
    · rw [hReceived, controls_append, hAll]
      exact h.control
    · rw [hReceived, renders_append, hNone, List.append_nil]
  · intro hAsleep
    obtain ⟨hControl, hRender, hHandles⟩ := h.asleep hAsleep
    have hRenders := h.render
    rw [hRender, Option.toList_none, List.append_nil] at hRenders
    refine ⟨?_, hHandles⟩
    rw [← length_controls_renders, ← length_controls_renders, hDone hControl, hRenders]
  · intro hFinished
    obtain ⟨hControl, -, hHandles⟩ := h.finished hFinished
    exact ⟨hDone hControl, hHandles⟩

/-- Two control messages pass a render message that was accepted before them. -/
theorem delivery_of_overtaking : ∃ c : ClientConnection Nat,
  Run (ofPartial ClientConnection.step) .start
    [.sendRender 1, .sendControl 2, .sendControl 3, .recv, .recv, .recv, .recv] c ∧
  c.received = [.control 2, .control 3, .render 1] ∧
  controls c.received ++ c.queue.control = controls c.accepted := by
  have run : Run (ofPartial ClientConnection.step) (.start (β := Nat))
      [.sendRender 1, .sendControl 2, .sendControl 3, .recv, .recv, .recv, .recv] _ :=
    run_of_foldlM rfl
  exact ⟨_, run, rfl, (delivery_of_run run).1⟩

end Server
