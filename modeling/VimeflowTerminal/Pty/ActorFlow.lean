import VimeflowTerminal.Pty.Actor

/-! The accounts of a runner: every byte it queued is written or still pending, in
order. `Works` says what the actor does between two commands, and `ActorMove`
everything one step of it can do. -/

namespace Pty

/-- The user's writes among those queued. -/
def userWrites (writes : List QueuedWrite) : List Bytes :=
  (writes.filter fun write => write.source = .userInput).map QueuedWrite.bytes

/-- The bytes of the user among those written. -/
def userBytes (output : List (WriteSource × UInt8)) : Bytes :=
  (output.filter fun byte => byte.1 = .userInput).map Prod.snd

@[simp] theorem userWrites_append (first second : List QueuedWrite) :
  userWrites (first ++ second) = userWrites first ++ userWrites second := by
  simp [userWrites]

@[simp] theorem userBytes_append (first second : List (WriteSource × UInt8)) :
  userBytes (first ++ second) = userBytes first ++ userBytes second := by
  simp [userBytes]

theorem userWrites_eq_nil {writes : List QueuedWrite}
  (hOther : ∀ write ∈ writes, write.source = .terminalResponse) : userWrites writes = [] := by
  simp only [userWrites, List.map_eq_nil_iff, List.filter_eq_nil_iff, decide_eq_true_eq]
  intro write hMem hUser
  rw [hOther write hMem] at hUser
  cases hUser

theorem userBytes_eq_nil {output : List (WriteSource × UInt8)}
  (hOther : ∀ byte ∈ output, byte.1 = .terminalResponse) : userBytes output = [] := by
  simp only [userBytes, List.map_eq_nil_iff, List.filter_eq_nil_iff, decide_eq_true_eq]
  intro byte hMem hUser
  rw [hOther byte hMem] at hUser
  cases hUser

@[simp] theorem QueuedWrite.length_tagged (write : QueuedWrite) :
  write.tagged.length = write.bytes.length := by
  simp [QueuedWrite.tagged]

theorem QueuedWrite.source_of_mem_tagged {write : QueuedWrite} {byte : WriteSource × UInt8}
  (hMem : byte ∈ write.tagged) : byte.1 = write.source := by
  obtain ⟨_, _, rfl⟩ := List.mem_map.1 hMem
  rfl

namespace PtyIoActorRunner

/-- The accounts balance until a write fails, and the offset lies inside the
first pending write. -/
structure Flow (runner : PtyIoActorRunner) : Prop where
  written : runner.writeFailed = false →
    runner.output ++ runner.unwritten = runner.enqueued.flatMap QueuedWrite.tagged
  offset : ∀ write ∈ runner.pendingWrites.head?, runner.currentWriteOffset < write.bytes.length
  offsetNil : runner.pendingWrites = [] → runner.currentWriteOffset = 0
  nonempty : ∀ write ∈ runner.pendingWrites, write.bytes ≠ []

/-- The runner queued `added` and did nothing else to what it writes. -/
structure Enqueues (runner : PtyIoActorRunner) (added : List QueuedWrite)
  (runner' : PtyIoActorRunner) : Prop where
  state : runner'.state = runner.state
  pendingWrites : runner'.pendingWrites = runner.pendingWrites ++ added
  offset : runner'.currentWriteOffset = runner.currentWriteOffset
  enqueued : runner'.enqueued = runner.enqueued ++ added
  output : runner'.output = runner.output
  writeFailed : runner'.writeFailed = runner.writeFailed
  reads : runner'.reads = runner.reads
  nonempty : ∀ write ∈ added, write.bytes ≠ []

theorem Enqueues.refl (runner : PtyIoActorRunner) : Enqueues runner [] runner :=
  ⟨rfl, by simp, rfl, by simp, rfl, rfl, rfl, by simp⟩

theorem Enqueues.trans {first second third : PtyIoActorRunner} {added more : List QueuedWrite}
  (h : Enqueues first added second) (h' : Enqueues second more third) :
  Enqueues first (added ++ more) third := by
  refine ⟨h'.state.trans h.state, ?_, h'.offset.trans h.offset, ?_, h'.output.trans h.output,
    h'.writeFailed.trans h.writeFailed, h'.reads.trans h.reads, ?_⟩
  · rw [h'.pendingWrites, h.pendingWrites, List.append_assoc]
  · rw [h'.enqueued, h.enqueued, List.append_assoc]
  · intro write hMem
    rcases List.mem_append.1 hMem with hMem | hMem
    · exact h.nonempty write hMem
    · exact h'.nonempty write hMem

theorem Enqueues.flow {runner runner' : PtyIoActorRunner} {added : List QueuedWrite}
  (h : Enqueues runner added runner') (hFlow : runner.Flow) : runner'.Flow := by
  have hBound : runner.currentWriteOffset ≤
      (runner.pendingWrites.flatMap QueuedWrite.tagged).length := by
    cases hPending : runner.pendingWrites with
    | nil => simp [hFlow.offsetNil hPending]
    | cons first rest =>
      have hFirst := hFlow.offset first (by simp [hPending])
      simp only [List.flatMap_cons, List.length_append, QueuedWrite.length_tagged]
      omega
  refine ⟨?_, ?_, ?_, ?_⟩
  · intro hIntact
    rw [h.writeFailed] at hIntact
    rw [unwritten, h.output, h.pendingWrites, h.offset, h.enqueued, List.flatMap_append,
      List.flatMap_append, List.drop_append_of_le_length hBound, ← List.append_assoc,
      ← hFlow.written hIntact, unwritten]
  · intro write hHead
    rw [h.pendingWrites] at hHead
    rw [h.offset]
    cases hPending : runner.pendingWrites with
    | nil =>
      rw [hPending, List.nil_append] at hHead
      have hNe := h.nonempty write (List.mem_of_mem_head? hHead)
      rw [hFlow.offsetNil hPending]
      exact List.length_pos_iff.2 hNe
    | cons first rest =>
      rw [hPending] at hHead
      exact hFlow.offset write (by rw [hPending]; exact hHead)
  · intro hNil
    rw [h.pendingWrites] at hNil
    rw [h.offset]
    exact hFlow.offsetNil (List.append_eq_nil_iff.1 hNil).1
  · intro write hMem
    rw [h.pendingWrites] at hMem
    rcases List.mem_append.1 hMem with hMem | hMem
    · exact hFlow.nonempty write hMem
    · exact h.nonempty write hMem

theorem enqueueWrite_enqueues (runner : PtyIoActorRunner) (write : QueuedWrite) :
  Enqueues runner ([write].filter fun write => !write.bytes.isEmpty)
    (runner.enqueueWrite write) := by
  unfold enqueueWrite
  split
  case isTrue hEmpty =>
    simp only [hEmpty, List.filter_cons, Bool.not_true, Bool.false_eq_true, if_false,
      List.filter_nil]
    exact .refl runner
  case isFalse hFull =>
    have hFilter : ([write].filter fun write => !write.bytes.isEmpty) = [write] := by
      simp [hFull]
    rw [hFilter]
    refine ⟨rfl, rfl, rfl, rfl, rfl, rfl, rfl, ?_⟩
    intro other hMem hNil
    obtain rfl := List.mem_singleton.1 hMem
    exact hFull (by simp [hNil])

/-- The runner queued terminal responses and nothing of the user. -/
def Responds (runner runner' : PtyIoActorRunner) : Prop :=
  ∃ added, Enqueues runner added runner' ∧ ∀ write ∈ added, write.source = .terminalResponse

theorem Responds.refl (runner : PtyIoActorRunner) : runner.Responds runner :=
  ⟨[], .refl runner, by simp⟩

theorem Responds.trans {first second third : PtyIoActorRunner} (h : first.Responds second)
  (h' : second.Responds third) : first.Responds third := by
  obtain ⟨added, hAdded, hSource⟩ := h
  obtain ⟨more, hMore, hSource'⟩ := h'
  refine ⟨added ++ more, hAdded.trans hMore, fun write hMem => ?_⟩
  rcases List.mem_append.1 hMem with hMem | hMem
  · exact hSource write hMem
  · exact hSource' write hMem

theorem enqueueTerminalResponses_responds (runner : PtyIoActorRunner) (responses : List Bytes) :
  runner.Responds (runner.enqueueTerminalResponses responses) := by
  unfold enqueueTerminalResponses
  split
  case isTrue => exact .refl runner
  case isFalse hState =>
    clear hState
    induction responses generalizing runner with
    | nil => exact .refl runner
    | cons bytes rest ih =>
      refine Responds.trans ⟨_, enqueueWrite_enqueues runner _, ?_⟩ (ih _)
      intro write hMem
      obtain rfl := List.mem_singleton.1 (List.mem_filter.1 hMem).1
      rfl

theorem resizePty_responds (runner : PtyIoActorRunner) (size : PtyResize) :
  runner.Responds (runner.resizePty size) :=
  ⟨[], ⟨rfl, (List.append_nil _).symm, rfl, (List.append_nil _).symm, rfl, rfl, rfl, by simp⟩,
    by simp⟩

theorem nudge_responds (runner : PtyIoActorRunner) (size : PtyResize) :
  runner.Responds (runner.nudge size) := by
  unfold nudge
  split
  · exact .refl runner
  split
  · exact .refl runner
  · exact (resizePty_responds runner _).trans (resizePty_responds _ size)

theorem applyPendingControls_responds (runner : PtyIoActorRunner) (controls : SharedPtyControls) :
  runner.Responds (runner.applyPendingControls controls) := by
  unfold applyPendingControls
  split
  case isTrue => exact .refl runner
  case isFalse =>
    have hResize : runner.Responds (runner.applyResize controls.resize) := by
      cases controls.resize with
      | none => exact .refl runner
      | some request =>
        exact (resizePty_responds runner _).trans (enqueueTerminalResponses_responds _ _)
    have hNudge : (runner.applyResize controls.resize).Responds
        ((runner.applyResize controls.resize).applyNudge controls.nudge) := by
      cases controls.nudge with
      | none => exact .refl _
      | some size => exact nudge_responds _ size
    exact (hResize.trans hNudge).trans (enqueueTerminalResponses_responds _ _)

/-- What one write to the PTY changes. -/
structure Writes (outcome : WriteOutcome) (runner runner' : PtyIoActorRunner) : Prop where
  state : runner'.state = runner.state
  enqueued : runner'.enqueued = runner.enqueued
  reads : runner'.reads = runner.reads
  intact : outcome ≠ .failed → runner'.writeFailed = runner.writeFailed
  pendingWrites : ∀ write ∈ runner'.pendingWrites, write ∈ runner.pendingWrites
  output : ∃ more, runner'.output = runner.output ++ more ∧
    ∀ byte ∈ more, ∃ write ∈ runner.pendingWrites, byte.1 = write.source
  flow : runner.Flow → runner'.Flow

theorem Writes.refl (outcome : WriteOutcome) (runner : PtyIoActorRunner) :
  runner.Writes outcome runner :=
  ⟨rfl, rfl, rfl, fun _ => rfl, fun _ h => h, ⟨[], by simp, by simp⟩, id⟩

theorem writeChunk_writes {runner runner' : PtyIoActorRunner} {first : QueuedWrite}
  {rest : List QueuedWrite} {outcome : WriteOutcome} {again : Bool}
  (hPending : runner.pendingWrites = first :: rest)
  (hWrite : runner.writeChunk first rest outcome = some (runner', again)) :
  runner.Writes outcome runner' := by
  cases outcome with
  | zero =>
    cases hWrite
    exact .refl _ runner
  | wouldBlock =>
    cases hWrite
    exact .refl _ runner
  | failed =>
    cases hWrite
    exact ⟨rfl, rfl, rfl, fun h => absurd rfl h, by simp, ⟨[], by simp, by simp⟩,
      fun _ => ⟨fun h => absurd h.symm Bool.false_ne_true, by simp, fun _ => rfl, by simp⟩⟩
  | wrote count =>
    simp only [writeChunk] at hWrite
    split at hWrite
    case isFalse => cases hWrite
    case isTrue hCount =>
      have hSource : ∀ byte ∈ (first.tagged.drop runner.currentWriteOffset).take count,
          ∃ write ∈ runner.pendingWrites, byte.1 = write.source := by
        intro byte hMem
        have hTagged := List.mem_of_mem_drop (List.mem_of_mem_take hMem)
        exact ⟨first, by simp [hPending], first.source_of_mem_tagged hTagged⟩
      have hUnwritten : runner.unwritten =
          first.tagged.drop runner.currentWriteOffset ++ rest.flatMap QueuedWrite.tagged := by
        have hLe : runner.currentWriteOffset ≤ first.tagged.length := by
          rw [QueuedWrite.length_tagged]
          omega
        rw [unwritten, hPending, List.flatMap_cons, List.drop_append_of_le_length hLe]
      split at hWrite
      case isTrue hDone =>
        cases hWrite
        refine ⟨rfl, rfl, rfl, fun _ => rfl, ?_, ⟨_, rfl, hSource⟩, fun hFlow => ?_⟩
        · intro write hMem
          rw [hPending]
          exact List.mem_cons_of_mem _ hMem
        · have hTake : (first.tagged.drop runner.currentWriteOffset).take count =
              first.tagged.drop runner.currentWriteOffset := by
            apply List.take_of_length_le
            simp only [List.length_drop, QueuedWrite.length_tagged]
            omega
          have hRest : ∀ write ∈ rest, write.bytes ≠ [] := fun write hMem =>
            hFlow.nonempty write (by rw [hPending]; exact List.mem_cons_of_mem _ hMem)
          refine ⟨?_, ?_, fun _ => rfl, hRest⟩
          · intro hIntact
            have hWritten := hFlow.written hIntact
            rw [hUnwritten, ← List.append_assoc] at hWritten
            rw [unwritten, List.drop_zero, hTake]
            exact hWritten
          · intro write hHead
            exact List.length_pos_iff.2 (hRest write (List.mem_of_mem_head? hHead))
      case isFalse hMore =>
        cases hWrite
        refine ⟨rfl, rfl, rfl, fun _ => rfl, fun _ h => h, ⟨_, rfl, hSource⟩, fun hFlow => ?_⟩
        refine ⟨?_, ?_, ?_, hFlow.nonempty⟩
        · intro hIntact
          have hLe : runner.currentWriteOffset + count ≤ first.tagged.length := by
            rw [QueuedWrite.length_tagged]
            omega
          have hWritten := hFlow.written hIntact
          rw [hUnwritten] at hWritten
          rw [unwritten, hPending, List.flatMap_cons, List.drop_append_of_le_length hLe,
            List.append_assoc, ← List.append_assoc (List.take _ _), ← List.drop_drop,
            List.take_append_drop]
          exact hWritten
        · intro write hHead
          rw [hPending] at hHead
          cases hHead
          show runner.currentWriteOffset + count < first.bytes.length
          omega
        · intro hNil
          rw [hPending] at hNil
          cases hNil

end PtyIoActorRunner

/-- The handoff call whose step the actor is in. -/
def Activity.begun : Activity → Option Nat
  | .beginning reply _ => some reply
  | _ => none

/-- The handoff step has taken what was on the data queue. -/
def Activity.drained : Activity → Bool
  | .beginning _ .receiveData => false
  | .beginning _ _ => true
  | _ => false

namespace System

variable {event : ActorEvent}

/-- The actor reads and writes, takes controls and goes to another stage: the
queues and the calls stay as they are and no user input is queued. -/
structure Works (event : ActorEvent) (s s' : System) : Prop where
  accepting : s'.accepting = s.accepting
  dataQueue : s'.dataQueue = s.dataQueue
  controlQueue : s'.controlQueue = s.controlQueue
  calls : s'.calls = s.calls
  nextCall : s'.nextCall = s.nextCall
  accepted : s'.accepted = s.accepted
  lastHandoff : s'.lastHandoff = s.lastHandoff
  begun : s'.activity.begun = s.activity.begun
  going : s.activity.stopped = false → s'.activity.stopped = false
  drained : s'.activity.drained = true → s.activity.drained = true ∨ s.dataQueue = []
  state : s'.runner.state = s.runner.state
  intact : event ≠ .write .failed → s'.runner.writeFailed = s.runner.writeFailed
  userWrites : userWrites s'.runner.enqueued = userWrites s.runner.enqueued
  pendingWrites : ∀ write ∈ s'.runner.pendingWrites, write.source = .userInput →
    write ∈ s.runner.pendingWrites
  flow : s.runner.Flow → s'.runner.Flow
  output : (∀ write ∈ s.runner.pendingWrites, write.source ≠ .userInput) →
    userBytes s'.runner.output = userBytes s.runner.output
  reads : s.runner.state ≠ .running → s.activity.begun = none →
    s'.runner.reads = s.runner.reads

theorem Works.refl (event : ActorEvent) (s : System) : s.Works event s :=
  { accepting := rfl, dataQueue := rfl, controlQueue := rfl, calls := rfl, nextCall := rfl
    accepted := rfl, lastHandoff := rfl, begun := rfl, going := id, drained := Or.inl, state := rfl
    intact := fun _ => rfl, userWrites := rfl, pendingWrites := fun _ h _ => h, flow := id, output := fun _ => rfl
    reads := fun _ _ => rfl }

theorem Works.trans {first second third : System} (h : first.Works event second)
  (h' : second.Works event third) : first.Works event third where
  accepting := h'.accepting.trans h.accepting
  dataQueue := h'.dataQueue.trans h.dataQueue
  controlQueue := h'.controlQueue.trans h.controlQueue
  calls := h'.calls.trans h.calls
  nextCall := h'.nextCall.trans h.nextCall
  accepted := h'.accepted.trans h.accepted
  lastHandoff := h'.lastHandoff.trans h.lastHandoff
  begun := h'.begun.trans h.begun
  going := fun hGoing => h'.going (h.going hGoing)
  drained := fun hDrained => by
    rcases h'.drained hDrained with hDrained | hEmpty
    · exact h.drained hDrained
    · exact Or.inr (h.dataQueue ▸ hEmpty)
  state := h'.state.trans h.state
  intact := fun hEvent => (h'.intact hEvent).trans (h.intact hEvent)
  userWrites := h'.userWrites.trans h.userWrites
  pendingWrites := fun write hMem hUser =>
    h.pendingWrites write (h'.pendingWrites write hMem hUser) hUser
  flow := fun hFlow => h'.flow (h.flow hFlow)
  output := fun hOther => by
    rw [h'.output fun write hMem hUser => hOther write (h.pendingWrites write hMem hUser) hUser,
      h.output hOther]
  reads := fun hState hBegun => by
    rw [h'.reads (by rw [h.state]; exact hState) (h.begun.trans hBegun), h.reads hState hBegun]

theorem Works.moves (s : System) {activity : Activity} (hBegun : activity.begun = s.activity.begun)
  (hGoing : activity.stopped = false)
  (hDrained : activity.drained = true → s.activity.drained = true ∨ s.dataQueue = []) :
  s.Works event { s with activity } :=
  { Works.refl _ s with begun := hBegun, going := fun _ => hGoing, drained := hDrained }

theorem Works.goTo {s s' : System} (h : s.Works event s') {activity : Activity}
  (hBegun : activity.begun = s.activity.begun) (hGoing : activity.stopped = false)
  (hDrained : activity.drained = true → s.activity.drained = true ∨ s.dataQueue = []) :
  s.Works event { s' with activity } :=
  { h with begun := hBegun, going := fun _ => hGoing, drained := hDrained }

variable {s s' : System}

theorem works_of_responds {runner : PtyIoActorRunner} (h : s.runner.Responds runner)
  (controls : SharedPtyControls) :
  s.Works event { s with runner, controls } := by
  obtain ⟨added, hAdded, hSource⟩ := h
  refine { Works.refl event s with
    state := hAdded.state, intact := fun _ => hAdded.writeFailed, userWrites := ?_, pendingWrites := ?_, flow := hAdded.flow, output := ?_
    reads := fun _ _ => hAdded.reads }
  · rw [hAdded.enqueued, userWrites_append, userWrites_eq_nil hSource, List.append_nil]
  · intro write hMem hUser
    rw [hAdded.pendingWrites] at hMem
    rcases List.mem_append.1 hMem with hMem | hMem
    · exact hMem
    · rw [hSource write hMem] at hUser
      cases hUser
  · intro _
    rw [hAdded.output]

theorem works_of_writes {outcome : WriteOutcome} {runner : PtyIoActorRunner}
  (h : s.runner.Writes outcome runner) : s.Works (.write outcome) { s with runner } := by
  refine { Works.refl (.write outcome) s with
    state := h.state, userWrites := by rw [h.enqueued]
    intact := fun hEvent => h.intact fun hFailed => hEvent (by rw [hFailed])
    pendingWrites := fun write hMem _ => h.pendingWrites write hMem, flow := h.flow, output := ?_
    reads := fun _ _ => h.reads }
  intro hOther
  obtain ⟨more, hMore, hSource⟩ := h.output
  have hNone : ∀ byte ∈ more, byte.1 = .terminalResponse := by
    intro byte hMem
    obtain ⟨write, hWrite, hEq⟩ := hSource byte hMem
    cases hCase : write.source with
    | userInput => exact absurd hCase (hOther write hWrite)
    | terminalResponse => exact hEq.trans hCase
  rw [hMore, userBytes_append, userBytes_eq_nil hNone, List.append_nil]

theorem applyPendingControls_works (s : System) : s.Works event s.applyPendingControls :=
  works_of_responds (s.runner.applyPendingControls_responds s.controls) .empty

/-- Reading is work for an actor that runs or drains its writes for a handoff. -/
theorem readReady_works (s : System) (read : Option ReadOutcome)
  (hMay : s.runner.state = .running ∨ s.activity.begun ≠ none) :
  s.Works event (s.readReady read).1 := by
  have hRead : s.Works event { s with runner := { s.runner with reads := s.runner.reads + 1 } } := by
    refine { Works.refl _ s with flow := fun h => { h with }, reads := fun hState hBegun => ?_ }
    rcases hMay with hMay | hMay
    · exact absurd hMay hState
    · exact absurd hBegun hMay
  cases read with
  | none => exact .refl _ s
  | some outcome =>
    cases outcome with
    | closed => exact hRead
    | nothing => exact hRead
    | data terminalResponses =>
      refine hRead.trans ?_
      exact works_of_responds (PtyIoActorRunner.enqueueTerminalResponses_responds _ _) _

/-- One turn of a flush is work. -/
theorem flushStep_works {next : Activity} (hStep : s.flushStep next event = some s')
  (hBegun : next.begun = s.activity.begun) (hGoing : next.stopped = false)
  (hDrained : next.drained = true → s.activity.drained = true) : s.Works event s' := by
  cases event with
  | proceed =>
    simp only [flushStep] at hStep
    split at hStep
    case isFalse => cases hStep
    case isTrue =>
      cases hStep
      exact .moves s hBegun hGoing fun h => Or.inl (hDrained h)
  | write outcome =>
    simp only [flushStep] at hStep
    split at hStep
    case h_1 => cases hStep
    case h_2 first rest hPending =>
      obtain ⟨⟨runner, again⟩, hWrite, rfl⟩ := Option.map_eq_some_iff.1 hStep
      have hWorks := works_of_writes
        (PtyIoActorRunner.writeChunk_writes hPending hWrite)
      cases again with
      | true => exact hWorks
      | false => exact hWorks.goTo hBegun hGoing fun h => Or.inl (hDrained h)
  | _ => cases hStep

/-- Everything one step of the actor can do. -/
inductive ActorMove (event : ActorEvent) (s : System) : System → Prop where
  | works {s' : System} (h : s.Works event s') : ActorMove event s s'
  | takesCommand {command : PtyIoControlCommand} {rest : List PtyIoControlCommand}
      (hActivity : s.activity = .looping .receiveControl)
      (hQueue : s.controlQueue = command :: rest) :
      ActorMove event s ({ s with controlQueue := rest }.handleControlCommand command)
  | takesData {bytes : Bytes} {rest : List Bytes} (hActivity : s.activity = .looping .receiveData)
      (hQueue : s.dataQueue = bytes :: rest) :
      ActorMove event s { s with dataQueue := rest, runner := s.runner.handleDataCommand bytes }
  | drainsData {id : Nat} {bytes : Bytes} {rest : List Bytes}
      (hActivity : s.activity = .beginning id .receiveData) (hQueue : s.dataQueue = bytes :: rest) :
      ActorMove event s { s with dataQueue := rest, runner := s.runner.drainPreQuiesceCommand bytes }
  | failsBegin {s' : System} {id : Nat} (hBegun : s.activity.begun = some id) (h : s.Works event s') :
      ActorMove event s (s'.finishBegin id false)
  | quiesces {id : Nat} (hActivity : s.activity = .beginning id .wait)
      (hPending : s.runner.pendingWrites = []) :
      ActorMove event s ({ s with runner := { s.runner with state := .quiesced } }.finishBegin id true)
  | leaves {s' : System} {stage : LoopStage} (hActivity : s.activity = .looping stage)
      (h : s.Works event s') : ActorMove event s { s' with activity := .exiting }
  | drops (hActivity : s.activity = .exiting) : ActorMove event s { s with activity := .gone }

theorem afterPoll_move (hActivity : s.activity = .looping .poll) (read : Option ReadOutcome)
  (writeReady : Bool) : s.ActorMove event (s.afterPoll read writeReady) := by
  obtain ⟨result, hResult⟩ : ∃ result,
      result = if s.runner.state = .running then s.readReady read else (s, true) := ⟨_, rfl⟩
  have hWorks : s.Works event result.1 := by
    rw [hResult]
    split
    case isTrue hState => exact readReady_works s read (Or.inl hState)
    case isFalse => exact .refl _ s
  have hBegun : s.activity.begun = none := by rw [hActivity]; rfl
  rw [afterPoll, ← hResult]
  obtain ⟨s', isOpen⟩ := result
  cases isOpen with
  | false => exact .leaves hActivity hWorks
  | true =>
    simp only [Bool.not_true, Bool.false_eq_true, if_false]
    split
    · exact .works (hWorks.goTo hBegun.symm rfl fun h => absurd h (by decide))
    · exact .works (hWorks.goTo hBegun.symm rfl fun h => absurd h (by decide))

theorem afterWait_move {id : Nat} (hActivity : s.activity = .beginning id .wait)
  (read : Option ReadOutcome) (writeReady : Bool) :
  s.ActorMove event (s.afterWait id read writeReady) := by
  have hBegun : s.activity.begun = some id := by rw [hActivity]; rfl
  have hWorks : s.Works event (s.readReady read).1 := readReady_works s read (Or.inr (by simp [hBegun]))
  rw [afterWait]
  generalize s.readReady read = result at hWorks
  obtain ⟨s', isOpen⟩ := result
  cases isOpen with
  | false => exact .failsBegin hBegun hWorks
  | true =>
    simp only [Bool.not_true, Bool.false_eq_true, if_false]
    split
    · exact .works (hWorks.goTo hBegun.symm rfl fun _ => Or.inl (by rw [hActivity]; rfl))
    · exact .works hWorks

theorem loopStep_move {stage : LoopStage} (hActivity : s.activity = .looping stage)
  (hStep : s.loopStep stage event = some s') : s.ActorMove event s' := by
  have hBegun : s.activity.begun = none := by rw [hActivity]; rfl
  have hMoves : ∀ next : LoopStage, s.Works event { s with activity := .looping next } := fun next =>
    .moves s hBegun.symm rfl fun h => absurd h Bool.false_ne_true
  cases stage with
  | receiveControl =>
    cases event with
    | proceed =>
      simp only [loopStep] at hStep
      split at hStep
      case h_1 =>
        cases hStep
        exact .works (hMoves .receiveData)
      case h_2 command rest hQueue =>
        cases hStep
        exact .takesCommand hActivity hQueue
    | _ => cases hStep
  | receiveData =>
    cases event with
    | proceed =>
      simp only [loopStep] at hStep
      split at hStep
      case h_1 =>
        cases hStep
        exact .works (hMoves .applyControls)
      case h_2 bytes rest hQueue =>
        cases hStep
        exact .takesData hActivity hQueue
    | _ => cases hStep
  | applyControls =>
    cases event with
    | proceed =>
      cases hStep
      exact .works ((applyPendingControls_works s).goTo hBegun.symm rfl
        fun h => absurd h Bool.false_ne_true)
    | _ => cases hStep
  | flush =>
    exact .works (flushStep_works hStep hBegun.symm rfl fun h => absurd h Bool.false_ne_true)
  | poll =>
    cases event with
    | polled wakeReady read writeReady =>
      cases wakeReady with
      | true =>
        cases hStep
        exact .works (hMoves .receiveControl)
      | false =>
        cases hStep
        exact afterPoll_move hActivity read writeReady
    | pollFailed =>
      cases hStep
      exact .leaves hActivity (.refl _ s)
    | wakeDrainFailed =>
      cases hStep
      exact .leaves hActivity (.refl _ s)
    | _ => cases hStep
  | flushReady =>
    exact .works (flushStep_works hStep hBegun.symm rfl fun h => absurd h Bool.false_ne_true)

theorem beginStep_move {id : Nat} {stage : HandoffStage}
  (hActivity : s.activity = .beginning id stage) (hStep : s.beginStep id stage event = some s') :
  s.ActorMove event s' := by
  have hBegun : s.activity.begun = some id := by rw [hActivity]; rfl
  cases stage with
  | receiveData =>
    cases event with
    | proceed =>
      simp only [beginStep] at hStep
      split at hStep
      case h_1 hEmpty =>
        cases hStep
        exact .works (.moves s hBegun.symm rfl fun _ => Or.inr hEmpty)
      case h_2 bytes rest hQueue =>
        cases hStep
        exact .drainsData hActivity hQueue
    | _ => cases hStep
  | applyControls =>
    cases event with
    | proceed =>
      simp only [beginStep] at hStep
      split at hStep
      case isTrue =>
        cases hStep
        exact .failsBegin hBegun (applyPendingControls_works s)
      case isFalse =>
        cases hStep
        exact .works ((applyPendingControls_works s).goTo hBegun.symm rfl
          fun _ => Or.inl (by rw [hActivity]; rfl))
    | _ => cases hStep
  | flush =>
    exact .works (flushStep_works hStep hBegun.symm rfl fun _ => by rw [hActivity]; rfl)
  | wait =>
    simp only [beginStep] at hStep
    split at hStep
    case isTrue hPending =>
      cases event with
      | proceed =>
        cases hStep
        exact .quiesces hActivity (List.isEmpty_iff.1 hPending)
      | _ => cases hStep
    case isFalse =>
      cases event with
      | deadlinePassed =>
        cases hStep
        exact .failsBegin hBegun (.refl _ s)
      | pollFailed =>
        cases hStep
        exact .failsBegin hBegun (.refl _ s)
      | wakeDrainFailed =>
        cases hStep
        exact .failsBegin hBegun (.refl _ s)
      | polled wakeReady read writeReady =>
        cases hStep
        exact afterWait_move hActivity read writeReady
      | _ => cases hStep

/-- Every step of the actor is one of its moves. -/
theorem actorStep_move (hStep : s.actorStep event = some s') : s.ActorMove event s' := by
  unfold actorStep at hStep
  split at hStep
  case h_1 stage hActivity => exact loopStep_move hActivity hStep
  case h_2 id stage hActivity => exact beginStep_move hActivity hStep
  case h_3 hActivity =>
    split at hStep
    case isFalse => cases hStep
    case isTrue =>
      cases hStep
      exact .drops hActivity
  case h_4 => cases hStep

end System

end Pty
