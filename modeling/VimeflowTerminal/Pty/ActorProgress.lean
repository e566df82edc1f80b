import VimeflowTerminal.Pty.ActorInvariant

/-! From every state an orderly run reaches, an actor that is not told to end can
by its own steps, on a PTY that takes what it is given, write all that was
accepted. -/

namespace Pty

open Transition

/-- A step of the actor in which no write fails. -/
def Label.IsActorWork (label : Label) : Prop :=
  ∃ event, label = .actor event ∧ event ≠ .write .failed

namespace System

variable {event : ActorEvent}

/-- The actor alone goes from one state to the other and no write fails. -/
def Reaches (s t : System) : Prop :=
  ∃ labels, Run (ofPartial step) s labels t ∧ ∀ label ∈ labels, label.IsActorWork

theorem Reaches.refl (s : System) : s.Reaches s := ⟨[], .zero s, by simp⟩

variable {s t : System} {id : Nat}

theorem Reaches.trans {u : System} (h : s.Reaches t) (h' : t.Reaches u) : s.Reaches u := by
  obtain ⟨first, hFirst, hWork⟩ := h
  obtain ⟨second, hSecond, hWork'⟩ := h'
  refine ⟨first ++ second, hFirst.trans hSecond, fun label hMem => ?_⟩
  rcases List.mem_append.1 hMem with hMem | hMem
  · exact hWork label hMem
  · exact hWork' label hMem

theorem Reaches.of_step (hStep : s.actorStep event = some t) (hEvent : event ≠ .write .failed) :
  s.Reaches t := by
  refine ⟨[.actor event], .single hStep, fun label hMem => ?_⟩
  obtain rfl := List.mem_singleton.1 hMem
  exact ⟨event, rfl, hEvent⟩

theorem Reaches.inv (h : s.Reaches t) (hInv : s.Inv) : t.Inv := by
  obtain ⟨labels, hRun, hWork⟩ := h
  refine hRun.preserves_of_mem hWork hInv ?_
  rintro u label v ⟨event, rfl, -⟩ hInv hStep
  exact hInv.actorStep hStep

theorem handleControlCommand_accepted (s : System) (command : PtyIoControlCommand) :
  (s.handleControlCommand command).accepted = s.accepted := by
  cases command with
  | rollbackHandoff id =>
    rw [handleControlCommand]
    split <;> rfl
  | _ => rfl

theorem ActorMove.accepted {s' : System} (h : s.ActorMove event s') : s'.accepted = s.accepted := by
  cases h with
  | works h => exact h.accepted
  | takesCommand => exact handleControlCommand_accepted _ _
  | failsBegin _ h => exact h.accepted
  | leaves _ h => exact h.accepted
  | _ => rfl

theorem Reaches.accepted (h : s.Reaches t) : t.accepted = s.accepted := by
  obtain ⟨labels, hRun, hWork⟩ := h
  have hStep : ∀ (u : System) (label : Label) (v : System), Label.IsActorWork label → u.accepted = s.accepted →
      ofPartial step u label v → v.accepted = s.accepted := by
    rintro u label v ⟨event, rfl, -⟩ hSame hStep
    exact (actorStep_move hStep).accepted.trans hSame
  exact @Run.preserves_of_mem _ _ _ (fun u : System => u.accepted = s.accepted) _ _ _ _ hRun hWork rfl
    hStep

theorem handleControlCommand_intact (s : System) (command : PtyIoControlCommand) :
  (s.handleControlCommand command).runner.writeFailed = s.runner.writeFailed := by
  cases command with
  | rollbackHandoff id =>
    rw [handleControlCommand]
    split <;> rfl
  | _ => rfl

theorem ActorMove.intact {s' : System} (h : s.ActorMove event s')
  (hEvent : event ≠ .write .failed) : s'.runner.writeFailed = s.runner.writeFailed := by
  cases h with
  | works h => exact h.intact hEvent
  | takesCommand => exact handleControlCommand_intact _ _
  | takesData =>
    unfold PtyIoActorRunner.handleDataCommand
    split
    · exact (PtyIoActorRunner.enqueueWrite_enqueues _ _).writeFailed
    · rfl
  | drainsData =>
    unfold PtyIoActorRunner.drainPreQuiesceCommand
    split
    · exact (PtyIoActorRunner.enqueueWrite_enqueues _ _).writeFailed
    · rfl
  | failsBegin _ h => exact h.intact hEvent
  | quiesces => rfl
  | leaves _ h => exact h.intact hEvent
  | drops => rfl

theorem Reaches.intact (h : s.Reaches t) : t.runner.writeFailed = s.runner.writeFailed := by
  obtain ⟨labels, hRun, hWork⟩ := h
  have hStep : ∀ (u : System) (label : Label) (v : System), Label.IsActorWork label →
      u.runner.writeFailed = s.runner.writeFailed → ofPartial step u label v →
        v.runner.writeFailed = s.runner.writeFailed := by
    rintro u label v ⟨event, rfl, hEvent⟩ hSame hStep
    exact ((actorStep_move hStep).intact hEvent).trans hSame
  exact @Run.preserves_of_mem _ _ _
    (fun u : System => u.runner.writeFailed = s.runner.writeFailed) _ _ _ _ hRun hWork rfl hStep

theorem writeChunk_whole {runner : PtyIoActorRunner} {first : QueuedWrite}
  {rest : List QueuedWrite} (hOffset : runner.currentWriteOffset < first.bytes.length) :
  ∃ runner', runner.writeChunk first rest
      (.wrote (first.bytes.length - runner.currentWriteOffset)) = some (runner', true) ∧
    runner'.pendingWrites = rest := by
  simp only [PtyIoActorRunner.writeChunk]
  rw [if_pos (by omega), if_pos (by omega)]
  exact ⟨_, rfl, rfl⟩

/-- A flush on a PTY that takes what it is given empties the pending writes. -/
theorem flush_reaches {activity next : Activity}
  (hFlush : ∀ t : System, t.activity = activity → ∀ event,
    t.actorStep event = t.flushStep next event) {pending : List QueuedWrite}
  (hActivity : s.activity = activity) (hPending : s.runner.pendingWrites = pending)
  (hFlow : s.runner.Flow) :
  ∃ t, s.Reaches t ∧ t.activity = next ∧ t.runner.pendingWrites = [] ∧
    t.dataQueue = s.dataQueue ∧ t.controlQueue = s.controlQueue := by
  induction pending generalizing s with
  | nil =>
    have hStep : s.actorStep .proceed = some { s with activity := next } := by
      rw [hFlush s hActivity, flushStep, hPending]
      rfl
    exact ⟨_, .of_step hStep (by decide), rfl, hPending, rfl, rfl⟩
  | cons first rest ih =>
    have hOffset := hFlow.offset first (by rw [hPending]; rfl)
    obtain ⟨runner, hChunk, hRest⟩ := @writeChunk_whole s.runner first rest hOffset
    obtain ⟨outcome, hOutcome⟩ : ∃ outcome,
        outcome = WriteOutcome.wrote (first.bytes.length - s.runner.currentWriteOffset) := ⟨_, rfl⟩
    rw [← hOutcome] at hChunk
    have hStep : s.actorStep (.write outcome) = some { s with runner } := by
      rw [hFlush s hActivity, flushStep, hPending]
      simp [hChunk]
    have hNotFailed : outcome ≠ .failed := by simp [hOutcome]
    have hWrites := PtyIoActorRunner.writeChunk_writes hPending hChunk
    have hLater : { s with runner }.runner.Flow := hWrites.flow hFlow
    obtain ⟨t, hReach, hAfter⟩ := ih (s := { s with runner }) hActivity hRest hLater
    exact ⟨t, (Reaches.of_step hStep (by simp [hNotFailed])).trans hReach, hAfter⟩

theorem data_reaches {activity : Activity}
  (hTake : ∀ (t : System) (bytes : Bytes) (rest : List Bytes), t.activity = activity →
    t.dataQueue = bytes :: rest → ∃ t', t.actorStep .proceed = some t' ∧
      t'.activity = activity ∧ t'.dataQueue = rest ∧ t'.controlQueue = t.controlQueue)
  {queue : List Bytes} (hActivity : s.activity = activity) (hQueue : s.dataQueue = queue) :
  ∃ t, s.Reaches t ∧ t.activity = activity ∧ t.dataQueue = [] ∧
    t.controlQueue = s.controlQueue := by
  induction queue generalizing s with
  | nil => exact ⟨s, .refl s, hActivity, hQueue, rfl⟩
  | cons bytes rest ih =>
    obtain ⟨middle, hStep, hActivity', hRest, hControl⟩ := hTake s bytes rest hActivity hQueue
    obtain ⟨t, hReach, hDone, hEmpty, hControl'⟩ := ih hActivity' hRest
    exact ⟨t, (Reaches.of_step hStep (by decide)).trans hReach, hDone, hEmpty,
      hControl'.trans hControl⟩

/-- The actor comes back to its control queue. -/
def Returns (s : System) : Prop :=
  ∃ t, s.Reaches t ∧ t.activity = .looping .receiveControl ∧ t.controlQueue = s.controlQueue

theorem Returns.of_reaches (h : s.Reaches t) (hQueue : t.controlQueue = s.controlQueue)
  (hReturns : t.Returns) : s.Returns := by
  obtain ⟨u, hReach, hActivity, hSame⟩ := hReturns
  exact ⟨u, h.trans hReach, hActivity, hSame.trans hQueue⟩

theorem Returns.of_step (hStep : s.actorStep event = some t) (hEvent : event ≠ .write .failed)
  (hQueue : t.controlQueue = s.controlQueue) (hReturns : t.Returns) : s.Returns :=
  hReturns.of_reaches (.of_step hStep hEvent) hQueue

theorem returns_here (hActivity : s.activity = .looping .receiveControl) : s.Returns :=
  ⟨s, .refl s, hActivity, rfl⟩

theorem returns_beginDrained (hActivity : s.activity = .beginning id .wait)
  (hPending : s.runner.pendingWrites = []) : s.Returns := by
  have hStep : s.actorStep .proceed =
      some ({ s with runner := { s.runner with state := .quiesced } }.finishBegin id true) := by
    simp [System.actorStep, hActivity, beginStep, hPending]
  exact .of_step hStep (by decide) rfl (returns_here rfl)

theorem returns_beginFlush (hInv : s.Inv) (hActivity : s.activity = .beginning id .flush) :
  s.Returns := by
  have hWorking := hInv.working (by rw [hActivity]; rfl)
  have hFlush : ∀ t : System, t.activity = .beginning id .flush → ∀ event,
      t.actorStep event = t.flushStep (.beginning id .wait) event := by
    intro t hHere event
    simp only [System.actorStep, hHere, beginStep]
  obtain ⟨t, hReach, hWait, hPending, -, hQueue⟩ := flush_reaches hFlush hActivity rfl hWorking.flow
  exact .of_reaches hReach hQueue (returns_beginDrained hWait hPending)

theorem returns_beginWait (hInv : s.Inv) (hActivity : s.activity = .beginning id .wait) :
  s.Returns := by
  by_cases hPending : s.runner.pendingWrites = []
  case pos => exact returns_beginDrained hActivity hPending
  case neg =>
    have hStep : s.actorStep (.polled false none true) =
        some { s with activity := .beginning id .flush } := by
      simp [System.actorStep, hActivity, beginStep, hPending, afterWait, readReady]
    have hReach : s.Reaches { s with activity := .beginning id .flush } :=
      .of_step hStep (by decide)
    exact .of_reaches hReach rfl (returns_beginFlush (hReach.inv hInv) rfl)

theorem returns_beginControls (hInv : s.Inv)
  (hActivity : s.activity = .beginning id .applyControls) : s.Returns := by
  have hWorking := hInv.working (by rw [hActivity]; rfl)
  have hState : s.applyPendingControls.runner.state ≠ .released := by
    rw [(@applyPendingControls_works .proceed s).state]
    exact hWorking.state
  have hStep : s.actorStep .proceed =
      some { s.applyPendingControls with activity := .beginning id .flush } := by
    simp [System.actorStep, hActivity, beginStep, hState]
  have hReach : s.Reaches { s.applyPendingControls with activity := .beginning id .flush } :=
    .of_step hStep (by decide)
  exact .of_reaches hReach rfl (returns_beginFlush (hReach.inv hInv) rfl)

theorem returns_beginning {stage : HandoffStage} (hInv : s.Inv)
  (hActivity : s.activity = .beginning id stage) : s.Returns := by
  cases stage with
  | wait => exact returns_beginWait hInv hActivity
  | flush => exact returns_beginFlush hInv hActivity
  | applyControls => exact returns_beginControls hInv hActivity
  | receiveData =>
    have hTake : ∀ (t : System) (bytes : Bytes) (rest : List Bytes),
        t.activity = .beginning id .receiveData → t.dataQueue = bytes :: rest →
        ∃ t', t.actorStep .proceed = some t' ∧ t'.activity = .beginning id .receiveData ∧
          t'.dataQueue = rest ∧ t'.controlQueue = t.controlQueue := by
      intro t bytes rest hHere hQueue
      refine ⟨{ t with dataQueue := rest, runner := t.runner.drainPreQuiesceCommand bytes }, ?_,
        hHere, rfl, rfl⟩
      simp only [System.actorStep, hHere, beginStep, hQueue]
    obtain ⟨t, hReach, hHere, hEmpty, hQueue⟩ := data_reaches hTake hActivity rfl
    have hStep : t.actorStep .proceed =
        some { t with activity := .beginning id .applyControls } := by
      simp only [System.actorStep, hHere, beginStep, hEmpty]
    have hReach' := hReach.trans (.of_step hStep (by decide))
    exact .of_reaches hReach' hQueue (returns_beginControls (hReach'.inv hInv) rfl)

/-- A turn of the loop from its data queue on writes out what is pending. -/
theorem turn_reaches (hInv : s.Inv) (hActivity : s.activity = .looping .receiveData) :
  ∃ t, s.Reaches t ∧ t.activity = .looping .poll ∧ t.runner.pendingWrites = [] ∧
    t.dataQueue = [] ∧ t.controlQueue = s.controlQueue := by
  have hTake : ∀ (t : System) (bytes : Bytes) (rest : List Bytes),
      t.activity = .looping .receiveData → t.dataQueue = bytes :: rest →
      ∃ t', t.actorStep .proceed = some t' ∧ t'.activity = .looping .receiveData ∧
        t'.dataQueue = rest ∧ t'.controlQueue = t.controlQueue := by
    intro t bytes rest hHere hQueue
    refine ⟨{ t with dataQueue := rest, runner := t.runner.handleDataCommand bytes }, ?_, hHere, rfl,
      rfl⟩
    simp only [System.actorStep, hHere, loopStep, hQueue]
  have hFlush : ∀ t : System, t.activity = .looping .flush → ∀ event,
      t.actorStep event = t.flushStep (.looping .poll) event := by
    intro t hHere event
    simp only [System.actorStep, hHere, loopStep]
  obtain ⟨taken, hReach, hHere, hEmpty, hQueue⟩ := data_reaches hTake hActivity rfl
  have hStep : taken.actorStep .proceed = some { taken with activity := .looping .applyControls } := by
    simp only [System.actorStep, hHere, loopStep, hEmpty]
  have hApply : actorStep { taken with activity := .looping .applyControls } .proceed =
      some { taken.applyPendingControls with activity := .looping .flush } :=
    rfl
  have hReach' := (hReach.trans (.of_step hStep (by decide))).trans (.of_step hApply (by decide))
  have hWorking := (hReach'.inv hInv).working rfl
  obtain ⟨t, hFlushed, hPoll, hPending, hData, hControl⟩ := flush_reaches hFlush rfl rfl hWorking.flow
  exact ⟨t, hReach'.trans hFlushed, hPoll, hPending, hData.trans hEmpty, hControl.trans hQueue⟩

theorem returns_poll (hActivity : s.activity = .looping .poll) : s.Returns := by
  have hStep : s.actorStep (.polled true none false) =
      some { s with activity := .looping .receiveControl } := by
    simp only [System.actorStep, hActivity, loopStep]
  exact .of_step hStep (by decide) rfl (returns_here rfl)

theorem returns_looping {stage : LoopStage} (hInv : s.Inv)
  (hActivity : s.activity = .looping stage) : s.Returns := by
  have hWorking := hInv.working (by rw [hActivity]; rfl)
  have hFlush : ∀ t : System, t.activity = .looping .flush → ∀ event,
      t.actorStep event = t.flushStep (.looping .poll) event := by
    intro t hHere event
    simp only [System.actorStep, hHere, loopStep]
  cases stage with
  | receiveControl => exact returns_here hActivity
  | receiveData =>
    obtain ⟨t, hReach, hPoll, -, -, hQueue⟩ := turn_reaches hInv hActivity
    exact .of_reaches hReach hQueue (returns_poll hPoll)
  | applyControls =>
    have hStep : s.actorStep .proceed =
        some { s.applyPendingControls with activity := .looping .flush } := by
      simp only [System.actorStep, hActivity, loopStep]
    have hReach := Reaches.of_step hStep (by decide)
    have hLater := (hReach.inv hInv).working rfl
    obtain ⟨t, hFlushed, hPoll, -, -, hQueue⟩ := flush_reaches hFlush rfl rfl hLater.flow
    exact .of_reaches (hReach.trans hFlushed) hQueue (returns_poll hPoll)
  | flush =>
    obtain ⟨t, hFlushed, hPoll, -, -, hQueue⟩ := flush_reaches hFlush hActivity rfl hWorking.flow
    exact .of_reaches hFlushed hQueue (returns_poll hPoll)
  | poll => exact returns_poll hActivity
  | flushReady =>
    have hReady : ∀ t : System, t.activity = .looping .flushReady → ∀ event,
        t.actorStep event = t.flushStep (.looping .receiveControl) event := by
      intro t hHere event
      simp only [System.actorStep, hHere, loopStep]
    obtain ⟨t, hFlushed, hDone, -, -, hQueue⟩ := flush_reaches hReady hActivity rfl hWorking.flow
    exact .of_reaches hFlushed hQueue (returns_here hDone)

theorem returns (hInv : s.Inv) (hGoing : s.activity.stopped = false) : s.Returns := by
  cases hActivity : s.activity with
  | looping stage => exact returns_looping hInv hActivity
  | beginning id stage => exact returns_beginning hInv hActivity
  | exiting =>
    rw [hActivity] at hGoing
    cases hGoing
  | gone =>
    rw [hActivity] at hGoing
    cases hGoing

/-- The actor works off its control queue. -/
theorem commands_reaches {queue : List PtyIoControlCommand} (hInv : s.Inv)
  (hActivity : s.activity = .looping .receiveControl) (hQueue : s.controlQueue = queue)
  (hOpen : closing queue = false) :
  ∃ t, s.Reaches t ∧ t.activity = .looping .receiveData ∧ t.controlQueue = [] := by
  induction queue generalizing s with
  | nil =>
    have hStep : s.actorStep .proceed = some { s with activity := .looping .receiveData } := by
      simp only [System.actorStep, hActivity, loopStep, hQueue]
    exact ⟨_, .of_step hStep (by decide), rfl, hQueue⟩
  | cons command rest ih =>
    have hStep : s.actorStep .proceed =
        some ({ s with controlQueue := rest }.handleControlCommand command) := by
      simp only [System.actorStep, hActivity, loopStep, hQueue]
    rw [closing_cons, Bool.or_eq_false_iff] at hOpen
    have hTaken := Reaches.of_step hStep (by decide)
    have hAfter : ({ s with controlQueue := rest }.handleControlCommand command).controlQueue =
          rest ∧
        ({ s with controlQueue := rest }.handleControlCommand command).activity.stopped =
          false := by
      cases command with
      | rollbackHandoff id =>
        rw [handleControlCommand]
        split <;> exact ⟨rfl, by rw [reply, hActivity]; rfl⟩
      | releaseAfterCommit => cases hOpen.1
      | shutdown => cases hOpen.1
      | beginHandoff id => exact ⟨rfl, rfl⟩
      | duplicateForHandoff => exact ⟨rfl, by rw [handleControlCommand, hActivity]; rfl⟩
      | foregroundProcessGroup => exact ⟨rfl, by rw [handleControlCommand, hActivity]; rfl⟩
    have hInv' := hTaken.inv hInv
    obtain ⟨back, hBack, hHere, hSame⟩ := returns hInv' hAfter.2
    obtain ⟨t, hReach, hDone, hEmpty⟩ :=
      ih (hBack.inv hInv') hHere (hSame.trans hAfter.1) hOpen.2
    exact ⟨t, (hTaken.trans hBack).trans hReach, hDone, hEmpty⟩

theorem finishes (hInv : s.Inv) (hGoing : s.activity.stopped = false)
  (hOpen : closing s.controlQueue = false) :
  ∃ t, s.Reaches t ∧ t.activity = .looping .poll ∧ t.runner.pendingWrites = [] ∧
    t.dataQueue = [] ∧ t.controlQueue = [] := by
  obtain ⟨back, hBack, hHere, hQueue⟩ := returns hInv hGoing
  obtain ⟨taken, hTaken, hData, hEmpty⟩ :=
    commands_reaches (hBack.inv hInv) hHere hQueue hOpen
  have hReach := hBack.trans hTaken
  obtain ⟨t, hTurn, hPoll, hPending, hNoData, hControl⟩ := turn_reaches (hReach.inv hInv) hData
  exact ⟨t, hReach.trans hTurn, hPoll, hPending, hNoData, hControl.trans hEmpty⟩

end System

end Pty
