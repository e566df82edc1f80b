import VimeflowTerminal.Pty.ActorProgress
import VimeflowTerminal.Pty.ActorTraffic

/-! What holds of the user's writes, of a PTY between a handoff and its rollback,
and of the gate after a handoff that failed, in every state of an orderly run. -/

namespace Pty

open Transition

theorem userBytes_tagged (writes : List QueuedWrite) :
  userBytes (writes.flatMap QueuedWrite.tagged) = (userWrites writes).flatten := by
  induction writes with
  | nil => rfl
  | cons write rest ih =>
    rw [List.flatMap_cons, userBytes_append, ih]
    cases hSource : write.source with
    | userInput =>
      have hAll : userBytes write.tagged = write.bytes := by
        simp [userBytes, QueuedWrite.tagged, hSource, List.filter_map, Function.comp_def]
      have hOne : userWrites (write :: rest) = write.bytes :: userWrites rest := by
        simp [userWrites, hSource]
      rw [hAll, hOne, List.flatten_cons]
    | terminalResponse =>
      have hNone : userBytes write.tagged = [] :=
        userBytes_eq_nil fun byte hMem => (write.source_of_mem_tagged hMem).trans hSource
      have hSkip : userWrites (write :: rest) = userWrites rest := by
        simp [userWrites, hSource]
      rw [hNone, hSkip, List.nil_append]

/-- A write is never broken up by another: what the PTY has is the queued
writes one after the other, and those of the user are the accepted ones in the
order in which they were accepted. -/
structure Delivered (s : System) (output : List (WriteSource × UInt8)) : Prop where
  whole : ∃ writes, output = writes.flatMap QueuedWrite.tagged ∧
    userWrites writes = System.nonempty s.accepted
  user : userBytes output = s.accepted.flatten

theorem flatten_nonempty (writes : List Bytes) : (System.nonempty writes).flatten = writes.flatten := by
  induction writes with
  | nil => rfl
  | cons bytes rest ih =>
    cases bytes with
    | nil => simpa [System.nonempty] using ih
    | cons byte more =>
      have hCons : System.nonempty ((byte :: more) :: rest) =
          (byte :: more) :: System.nonempty rest := by
        simp [System.nonempty]
      rw [hCons, List.flatten_cons, List.flatten_cons, ih]

/-- What the actor owes its callers. -/
structure Kept (s : System) : Prop where
  /-- Accepted writes, and no others, are queued for the PTY, once and in order. -/
  queued : userWrites s.runner.enqueued ++ System.nonempty s.dataQueue = System.nonempty s.accepted
  /-- The PTY has a beginning of what was queued, while no write has failed. -/
  started : s.runner.writeFailed = false →
    s.runner.output <+: s.runner.enqueued.flatMap QueuedWrite.tagged
  /-- Until the actor leaves, what was queued and is not yet written is still pending. -/
  pending : s.runner.writeFailed = false → s.activity.stopped = false →
    s.runner.output ++ s.runner.unwritten = s.runner.enqueued.flatMap QueuedWrite.tagged
  /-- An actor that is not told to end can write all of it. -/
  written : s.runner.writeFailed = false → s.activity.stopped = false → closing s.controlQueue = false →
    ∃ t, s.Reaches t ∧ t.accepted = s.accepted ∧ Delivered t t.runner.output
  /-- After a handoff has begun no step reads the PTY or writes user input. -/
  held : s.lastHandoff = some .began → ∀ label t, step s label = some t →
      t.runner.reads = s.runner.reads ∧ userBytes t.runner.output = userBytes s.runner.output
  /-- After a handoff that failed the actor runs and takes user input again. -/
  resumed : s.lastHandoff = some .beginFailed → s.controlQueue = [] →
    ∀ stage, s.activity = .looping stage → s.runner.state = .running ∧ s.accepting = true

namespace System

variable {s : System}

theorem Inv.delivered (hInv : s.Inv) (hIntact : s.runner.writeFailed = false)
  (hGoing : s.activity.stopped = false) (hPending : s.runner.pendingWrites = [])
  (hData : s.dataQueue = []) :
  Delivered s s.runner.output := by
  have hWritten := (hInv.working hGoing).flow.written hIntact
  rw [PtyIoActorRunner.unwritten, hPending, List.flatMap_nil, List.drop_nil, List.append_nil]
    at hWritten
  have hAccepted := hInv.recorded.accepted
  rw [hData, nonempty, List.filter_nil, List.append_nil] at hAccepted
  refine ⟨⟨s.runner.enqueued, hWritten, hAccepted⟩, ?_⟩
  rw [hWritten, userBytes_tagged, hAccepted, flatten_nonempty]

theorem handleControlCommand_writes (s : System) (command : PtyIoControlCommand) :
  (s.handleControlCommand command).runner.reads = s.runner.reads ∧
    (s.handleControlCommand command).runner.output = s.runner.output := by
  cases command with
  | rollbackHandoff id =>
    rw [handleControlCommand]
    split <;> exact ⟨rfl, rfl⟩
  | _ => exact ⟨rfl, rfl⟩

/-- A quiesced actor outside a handoff step neither reads nor writes user input. -/
theorem ActorMove.quiet {t : System} {event : ActorEvent} (h : s.ActorMove event t)
  (hState : s.runner.state = .quiesced) (hBegun : s.activity.begun = none)
  (hWrites : ∀ write ∈ s.runner.pendingWrites, write.source ≠ .userInput) :
  t.runner.reads = s.runner.reads ∧ userBytes t.runner.output = userBytes s.runner.output := by
  have hNotRunning : s.runner.state ≠ .running := by
    rw [hState]
    decide
  cases h with
  | works h => exact ⟨h.reads hNotRunning hBegun, h.output hWrites⟩
  | takesCommand =>
    obtain ⟨hReads, hOutput⟩ := handleControlCommand_writes { s with controlQueue := _ } _
    exact ⟨hReads, congrArg userBytes hOutput⟩
  | takesData =>
    rw [PtyIoActorRunner.handleDataCommand, if_neg hNotRunning]
    exact ⟨rfl, rfl⟩
  | drainsData hActivity =>
    rw [hActivity] at hBegun
    cases hBegun
  | failsBegin hSome =>
    rw [hBegun] at hSome
    cases hSome
  | quiesces hActivity =>
    rw [hActivity] at hBegun
    cases hBegun
  | leaves _ h => exact ⟨h.reads hNotRunning hBegun, h.output hWrites⟩
  | drops => exact ⟨rfl, rfl⟩

theorem Inv.held {t : System} {label : Label} (hInv : s.Inv) (hLast : s.lastHandoff = some .began)
  (hStep : Pty.step s label = some t) :
  t.runner.reads = s.runner.reads ∧ userBytes t.runner.output = userBytes s.runner.output := by
  by_cases hCaller : ∀ event, label ≠ .actor event
  case pos =>
    rw [step_runner hStep hCaller]
    exact ⟨rfl, rfl⟩
  case neg =>
    obtain ⟨event, rfl⟩ : ∃ event, label = .actor event := by simpa using hCaller
    cases hStopped : s.activity.stopped with
    | true =>
      rw [actorStep_stopped hStep hStopped]
      exact ⟨rfl, rfl⟩
    | false =>
      have hWorking := hInv.working hStopped
      obtain ⟨hNone, -, hState, -⟩ := hWorking.status.settled_of_last hLast
      have hBegun : s.activity.begun = none := by
        have hHandoffs : s.handoffs = [] := hNone
        cases hCase : s.activity.begun with
        | none => rfl
        | some id => simp [handoffs, hCase] at hHandoffs
      have hQuiesced : s.runner.state = .quiesced := hState rfl
      exact (actorStep_move hStep).quiet hQuiesced hBegun (hWorking.quietWrites hQuiesced)

theorem Inv.kept (hInv : s.Inv) : Kept s where
  queued := hInv.recorded.accepted
  started := hInv.recorded.delivered
  pending := fun hIntact hGoing => (hInv.working hGoing).flow.written hIntact
  written := fun hIntact hGoing hOpen => by
    obtain ⟨t, hReach, hActivity, hPending, hData, -⟩ := finishes hInv hGoing hOpen
    have hDone := (hReach.inv hInv).delivered (hReach.intact.trans hIntact) (by rw [hActivity]; rfl) hPending hData
    exact ⟨t, hReach, hReach.accepted, hDone⟩
  held := fun hLast _ _ hStep => hInv.held hLast hStep
  resumed := fun hLast hQueue stage hActivity => by
    have hWorking := hInv.working (by rw [hActivity]; rfl)
    have hOpen : closing s.controlQueue = false := by
      rw [hQueue]
      rfl
    exact hWorking.status.resumed_of_last (Or.inl hLast) hOpen

end System

/-- In every state of an orderly run the actor keeps what it owes its callers. -/
theorem kept_of_orderly {initiallyQuiesced : Bool} {labels : List Label} {s : System}
  (hRun : Run (restrict (ofPartial step) Orderly) (System.spawned initiallyQuiesced) labels s) :
  Kept s := by
  have hStep : ∀ (u : System) (label : Label) (v : System), u.Inv →
      restrict (ofPartial step) Orderly u label v → v.Inv :=
    fun _ _ _ hInv h => hInv.step h.1 h.2
  exact (hRun.preserves (System.inv_spawned initiallyQuiesced) hStep).kept

instance (s : System) (label : Label) : Decidable (Orderly s label) := by
  cases label <;> simp only [Orderly] <;> infer_instance

/-- A write that is still pending is written before the handoff begins, and the
gate opens again with the rollback. -/
def heldAndResumed : List Label :=
  [.tryWriteUserInput [104, 105], .beginHandoff, .actor .proceed, .actor .proceed, .actor .proceed,
    .actor .proceed, .actor (.write (.wrote 1)), .actor (.write .wouldBlock),
    .actor (.polled false none true), .actor (.write (.wrote 1)), .actor .proceed, .actor .proceed,
    .answered 0, .rollbackHandoff, .actor .proceed, .answered 1, .tryWriteUserInput [106]]

theorem kept_heldAndResumed :
  Kept (reached (guarded step Orderly) (System.spawned false) heldAndResumed) :=
  kept_of_orderly (run_reached_guarded (by decide))

/-- The PTY takes nothing for as long as the handoff step waits for it. The
caller gives up on the handoff and then on the rollback. -/
def rollbackGivenUp : List Label :=
  [.tryWriteUserInput [104], .beginHandoff, .actor .proceed, .actor .proceed, .actor .proceed,
    .actor .proceed, .actor (.write .wouldBlock), .timesOut 0, .timesOut 1,
    .actor .deadlinePassed, .actor .proceed]

/-- The actor runs again and takes no user input any more. -/
theorem not_kept_rollbackGivenUp :
  ¬ ∀ (initiallyQuiesced : Bool) (labels : List Label) (s : System),
    Run (ofPartial step) (System.spawned initiallyQuiesced) labels s →
    (∀ label ∈ labels, label ≠ .actor (.write .failed)) → Kept s := by
  intro hKept
  have hRun : Run (ofPartial step) (System.spawned false) rollbackGivenUp
      (reached step (System.spawned false) rollbackGivenUp) := run_reached (by decide)
  have hAccepting := (hKept false rollbackGivenUp _ hRun (by decide)).resumed (by decide) (by decide)
    .receiveControl (by decide)
  revert hAccepting
  decide

end Pty
