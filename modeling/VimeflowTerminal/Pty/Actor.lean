import VimeflowTerminal.Transition.Run

/-! The handle through which the server writes to a pane's PTY and the actor
thread that owns the descriptor: the two queues between them, the flag that
gates user input, the run loop of the actor and its handoff step. The actor
is cut at the points where another thread can act. What the PTY does (how much
of a write it takes, when it is ready, whether it has closed) is part of the
label of a step. -/

namespace Pty

abbrev Bytes := List UInt8

inductive ActorState where
  | running
  | quiesced
  | released
  deriving DecidableEq

structure PtyResize where
  rows : Nat
  cols : Nat
  cellWidthPx : Nat
  cellHeightPx : Nat
  deriving DecidableEq

structure PtyResizeRequest where
  resize : PtyResize
  terminalResponses : List Bytes
  deriving DecidableEq

structure SharedPtyControls where
  resize : Option PtyResizeRequest
  nudge : Option PtyResize
  terminalResponses : List Bytes
  deriving DecidableEq

def SharedPtyControls.empty : SharedPtyControls :=
  { resize := none, nudge := none, terminalResponses := [] }

/-- Where a queued write comes from. The actor does not look at it. -/
inductive WriteSource where
  | userInput
  | terminalResponse
  deriving DecidableEq

structure QueuedWrite where
  source : WriteSource
  bytes : Bytes
  deriving DecidableEq

/-- The bytes of a write, each with its source. -/
def QueuedWrite.tagged (write : QueuedWrite) : List (WriteSource × UInt8) :=
  write.bytes.map fun byte => (write.source, byte)

/-- The actor's own state, and what it has done to the PTY so far: the writes
it queued, the bytes the PTY took, whether a write failed, its reads and its
resizes. -/
structure PtyIoActorRunner where
  state : ActorState
  pendingWrites : List QueuedWrite
  currentWriteOffset : Nat
  enqueued : List QueuedWrite
  output : List (WriteSource × UInt8)
  writeFailed : Bool
  reads : Nat
  resizes : List PtyResize

namespace PtyIoActorRunner

def enqueueWrite (runner : PtyIoActorRunner) (write : QueuedWrite) : PtyIoActorRunner :=
  if write.bytes.isEmpty then runner
  else
    { runner with
      pendingWrites := runner.pendingWrites ++ [write]
      enqueued := runner.enqueued ++ [write] }

def handleDataCommand (runner : PtyIoActorRunner) (bytes : Bytes) : PtyIoActorRunner :=
  if runner.state = .running then runner.enqueueWrite { source := .userInput, bytes } else runner

/-- One command of `drain_pre_quiesce_commands`. -/
def drainPreQuiesceCommand (runner : PtyIoActorRunner) (bytes : Bytes) : PtyIoActorRunner :=
  if runner.state ≠ .released then runner.enqueueWrite { source := .userInput, bytes } else runner

def enqueueTerminalResponses (runner : PtyIoActorRunner) (responses : List Bytes) :
  PtyIoActorRunner :=
  if runner.state = .released then runner
  else
    responses.foldl (fun runner bytes => runner.enqueueWrite { source := .terminalResponse, bytes })
      runner

def resizePty (runner : PtyIoActorRunner) (size : PtyResize) : PtyIoActorRunner :=
  { runner with resizes := runner.resizes ++ [size] }

/-- The size set for a moment so that the child draws again. -/
def nudgeSize (size : PtyResize) : PtyResize :=
  if 2 < size.rows then { size with rows := size.rows - 1 }
  else { size with cols := max (size.cols - 1) 4 }

def nudge (runner : PtyIoActorRunner) (size : PtyResize) : PtyIoActorRunner :=
  if runner.state = .released then runner
  else if nudgeSize size = size then runner
  else (runner.resizePty (nudgeSize size)).resizePty size

def applyResize (runner : PtyIoActorRunner) : Option PtyResizeRequest → PtyIoActorRunner
  | some request =>
    (runner.resizePty request.resize).enqueueTerminalResponses request.terminalResponses
  | none => runner

def applyNudge (runner : PtyIoActorRunner) : Option PtyResize → PtyIoActorRunner
  | some size => runner.nudge size
  | none => runner

/-- `apply_pending_controls`, given the controls it took. -/
def applyPendingControls (runner : PtyIoActorRunner) (controls : SharedPtyControls) :
  PtyIoActorRunner :=
  if runner.state = .released then runner
  else
    ((runner.applyResize controls.resize).applyNudge controls.nudge).enqueueTerminalResponses
      controls.terminalResponses

end PtyIoActorRunner

/-- What one write to the PTY does. An interrupted write is one that would block. -/
inductive WriteOutcome where
  | wrote (count : Nat)
  | zero
  | wouldBlock
  | failed
  deriving DecidableEq

namespace PtyIoActorRunner

/-- One turn of `flush_pending_writes_once` over a queue with a first write,
and whether the loop goes on. The PTY takes at least one byte and at most what
it is given. -/
def writeChunk (runner : PtyIoActorRunner) (first : QueuedWrite) (rest : List QueuedWrite) :
  WriteOutcome → Option (PtyIoActorRunner × Bool)
  | .wrote count =>
    if 0 < count ∧ runner.currentWriteOffset + count ≤ first.bytes.length then
      let output := runner.output ++ (first.tagged.drop runner.currentWriteOffset).take count
      let offset := runner.currentWriteOffset + count
      if first.bytes.length ≤ offset then
        some ({ runner with output, pendingWrites := rest, currentWriteOffset := 0 }, true)
      else some ({ runner with output, currentWriteOffset := offset }, true)
    else none
  | .zero => some (runner, false)
  | .wouldBlock => some (runner, false)
  | .failed =>
    some ({ runner with pendingWrites := [], currentWriteOffset := 0, writeFailed := true }, false)

/-- What is queued and not yet written. -/
def unwritten (runner : PtyIoActorRunner) : List (WriteSource × UInt8) :=
  (runner.pendingWrites.flatMap QueuedWrite.tagged).drop runner.currentWriteOffset

end PtyIoActorRunner

/-- The commands on the control queue. A reply channel is named by the call
that waits on it. -/
inductive PtyIoControlCommand where
  | beginHandoff (reply : Nat)
  | duplicateForHandoff
  | foregroundProcessGroup
  | rollbackHandoff (reply : Nat)
  | releaseAfterCommit
  | shutdown
  deriving DecidableEq

/-- The points of the run loop between which other threads can act. -/
inductive LoopStage where
  | receiveControl
  | receiveData
  | applyControls
  | flush
  | poll
  | flushReady
  deriving DecidableEq

/-- The same for the handoff step. -/
inductive HandoffStage where
  | receiveData
  | applyControls
  | flush
  | wait
  deriving DecidableEq

/-- Where the actor's thread stands. It has left its loop in `exiting`, and its
ends of the queues are dropped in `gone`. -/
inductive Activity where
  | looping (stage : LoopStage)
  | beginning (reply : Nat) (stage : HandoffStage)
  | exiting
  | gone
  deriving DecidableEq

def Activity.stopped : Activity → Bool
  | .exiting => true
  | .gone => true
  | _ => false

/-- What a handoff call waits for. A failed `begin_handoff` goes on as a rollback. -/
inductive HandoffOperation where
  | begin
  | rollback (afterBegin : Bool)
  deriving DecidableEq

/-- A handoff call in progress and the answer on its reply channel. -/
structure HandoffCall where
  id : Nat
  operation : HandoffOperation
  reply : Option Bool
  deriving DecidableEq

inductive HandoffResult where
  | began
  | beginFailed
  | rolledBack
  | rollbackFailed
  deriving DecidableEq

/-- The actor, its queues and its callers. `accepted` records the writes that
were accepted and `lastHandoff` the result of the last handoff call while no
other has been made. -/
structure System where
  runner : PtyIoActorRunner
  activity : Activity
  accepting : Bool
  reserved : Nat
  dataQueue : List Bytes
  controlQueue : List PtyIoControlCommand
  controls : SharedPtyControls
  calls : List HandoffCall
  nextCall : Nat
  accepted : List Bytes
  lastHandoff : Option HandoffResult

/-- `ACTOR_COMMAND_BUFFER` -/
def actorCommandBuffer : Nat := 1024

namespace System

/-- `spawn` -/
def spawned (initiallyQuiesced : Bool) : System :=
  { runner :=
      { state := if initiallyQuiesced then .quiesced else .running
        pendingWrites := []
        currentWriteOffset := 0
        enqueued := []
        output := []
        writeFailed := false
        reads := 0
        resizes := [] }
    activity := .looping .receiveControl
    accepting := !initiallyQuiesced
    reserved := 0
    dataQueue := []
    controlQueue := []
    controls := .empty
    calls := []
    nextCall := 0
    accepted := []
    lastHandoff := none }

def hasCapacity (s : System) : Bool := s.dataQueue.length + s.reserved < actorCommandBuffer

/-- The write is on the queue and the caller is told so. -/
def acceptWrite (s : System) (bytes : Bytes) : System :=
  { s with dataQueue := s.dataQueue ++ [bytes], accepted := s.accepted ++ [bytes] }

/-- `try_write_user_input`, under the lock of the gate -/
def tryWriteUserInput (s : System) (bytes : Bytes) : System :=
  if !s.accepting then s
  else if s.activity = .gone then s
  else if s.hasCapacity then s.acceptWrite bytes
  else s

/-- `write_user_input` up to the permit it waits for. -/
def reserve (s : System) : Option System :=
  if s.accepting ∧ s.activity ≠ .gone ∧ s.hasCapacity then
    some { s with reserved := s.reserved + 1 }
  else none

/-- The rest of `write_user_input`: the gate is looked at again with the permit
in hand, and a permit's send does not fail. -/
def sendReserved (s : System) (bytes : Bytes) : Option System :=
  if s.reserved = 0 then none
  else
    let s := { s with reserved := s.reserved - 1 }
    if !s.accepting then some s else some (s.acceptWrite bytes)

def writeTerminalResponse (s : System) (response : Option Bytes) : System :=
  match response with
  | none => s
  | some bytes =>
    if bytes.isEmpty then s
    else
      { s with
        controls :=
          { s.controls with terminalResponses := s.controls.terminalResponses ++ [bytes] } }

def resize (s : System) (size : PtyResize) (terminalResponses : List Bytes) : System :=
  { s with controls := { s.controls with resize := some { resize := size, terminalResponses } } }

def nudgeChildRedrawAfterHandoff (s : System) (size : PtyResize) : System :=
  { s with controls := { s.controls with nudge := some size } }

/-- `control_tx.send`, which fails once the actor has dropped its end. -/
def sendControl (s : System) (command : PtyIoControlCommand) : System :=
  if s.activity = .gone then s else { s with controlQueue := s.controlQueue ++ [command] }

/-- A handoff call sends its command and waits for the answer. -/
def startCall (s : System) (operation : HandoffOperation) (command : Nat → PtyIoControlCommand) :
  System :=
  { s with
    controlQueue := s.controlQueue ++ [command s.nextCall]
    calls := s.calls ++ [{ id := s.nextCall, operation, reply := none }]
    nextCall := s.nextCall + 1
    lastHandoff := none }

/-- The first half of `begin_handoff`, under the lock of the gate -/
def beginHandoff (s : System) : System :=
  if s.activity = .gone then { s with accepting := true, lastHandoff := some .beginFailed }
  else { s with accepting := false }.startCall .begin .beginHandoff

/-- How the call that a rollback belongs to fails. -/
def rollbackFailure (afterBegin : Bool) : HandoffResult :=
  if afterBegin then .beginFailed else .rollbackFailed

/-- The first half of `rollback_handoff` -/
def rollbackHandoff (s : System) (afterBegin : Bool) : System :=
  if s.activity = .gone then { s with lastHandoff := some (rollbackFailure afterBegin) }
  else s.startCall (.rollback afterBegin) .rollbackHandoff

def endCall (s : System) (id : Nat) : System :=
  { s with calls := s.calls.filter fun call => call.id ≠ id }

/-- A handoff call reads the answer on its reply channel. -/
def answered (s : System) (id : Nat) : Option System := do
  let call ← s.calls.find? fun call => call.id = id
  let ok ← call.reply
  let s := s.endCall id
  match call.operation, ok with
  | .begin, true => some { s with lastHandoff := some .began }
  | .begin, false => some (s.rollbackHandoff true)
  | .rollback afterBegin, true =>
    some
      { s with
        accepting := true
        lastHandoff := some (if afterBegin then .beginFailed else .rolledBack) }
  | .rollback afterBegin, false => some { s with lastHandoff := some (rollbackFailure afterBegin) }

/-- A handoff call waits no longer, or finds its reply channel closed. The
answer may still come before the call sends its next command. -/
def timesOut (s : System) (id : Nat) : Option System := do
  let call ← s.calls.find? fun call => call.id = id
  let s := s.endCall id
  match call.operation with
  | .begin => some (s.rollbackHandoff true)
  | .rollback afterBegin => some { s with lastHandoff := some (rollbackFailure afterBegin) }

/-- `release_after_commit` and `shutdown` close the gate and send their command. -/
def closeWith (s : System) (command : PtyIoControlCommand) : System :=
  { s with accepting := false }.sendControl command

/-- The actor answers on a reply channel. Nobody may be waiting on it any more. -/
def reply (s : System) (id : Nat) (ok : Bool) : System :=
  { s with
    calls := s.calls.map fun call => if call.id = id then { call with reply := some ok } else call }

def handleControlCommand (s : System) : PtyIoControlCommand → System
  | .beginHandoff id => { s with activity := .beginning id .receiveData }
  | .duplicateForHandoff => s
  | .foregroundProcessGroup => s
  | .rollbackHandoff id =>
    if s.runner.state = .released then s.reply id false
    else { s with runner := { s.runner with state := .running } }.reply id true
  | .releaseAfterCommit =>
    { s with
      runner := { s.runner with state := .released, pendingWrites := [] }
      activity := .exiting }
  | .shutdown => { s with activity := .exiting }

/-- The handoff step ends and the loop over control commands goes on. -/
def finishBegin (s : System) (id : Nat) (ok : Bool) : System :=
  { s with activity := .looping .receiveControl }.reply id ok

/-- What one read of the PTY does. The bytes themselves go to the read
callback, which answers with terminal responses. -/
inductive ReadOutcome where
  | data (terminalResponses : List Bytes)
  | nothing
  | closed
  deriving DecidableEq

/-- `read_once` -/
def readOnce (s : System) (outcome : ReadOutcome) : System × Bool :=
  let s := { s with runner := { s.runner with reads := s.runner.reads + 1 } }
  match outcome with
  | .closed => (s, false)
  | .nothing => (s, true)
  | .data terminalResponses =>
    let responses := s.controls.terminalResponses ++ terminalResponses
    ({ s with
        controls := { s.controls with terminalResponses := [] }
        runner := s.runner.enqueueTerminalResponses responses }, true)

def applyPendingControls (s : System) : System :=
  { s with runner := s.runner.applyPendingControls s.controls, controls := .empty }

inductive ActorEvent where
  | proceed
  | write (outcome : WriteOutcome)
  | polled (wakeReady : Bool) (read : Option ReadOutcome) (writeReady : Bool)
  | pollFailed
  | wakeDrainFailed
  | deadlinePassed
  deriving DecidableEq

/-- One turn of the loop over pending writes, which leaves to `next`. -/
def flushStep (s : System) (next : Activity) : ActorEvent → Option System
  | .proceed => if s.runner.pendingWrites.isEmpty then some { s with activity := next } else none
  | .write outcome =>
    match s.runner.pendingWrites with
    | [] => none
    | first :: rest =>
      (s.runner.writeChunk first rest outcome).map fun (runner, again) =>
        { s with runner, activity := if again then s.activity else next }
  | _ => none

/-- The PTY is read when it is ready. -/
def readReady (s : System) : Option ReadOutcome → System × Bool
  | some outcome => s.readOnce outcome
  | none => (s, true)

/-- The rest of a turn of the run loop after the poll returned. -/
def afterPoll (s : System) (read : Option ReadOutcome) (writeReady : Bool) : System :=
  let (s, isOpen) := if s.runner.state = .running then s.readReady read else (s, true)
  if !isOpen then { s with activity := .exiting }
  else if writeReady && !s.runner.pendingWrites.isEmpty then
    { s with activity := .looping .flushReady }
  else { s with activity := .looping .receiveControl }

/-- `run` -/
def loopStep (s : System) : LoopStage → ActorEvent → Option System
  | .receiveControl, .proceed =>
    match s.controlQueue with
    | [] => some { s with activity := .looping .receiveData }
    | command :: rest => some ({ s with controlQueue := rest }.handleControlCommand command)
  | .receiveData, .proceed =>
    match s.dataQueue with
    | [] => some { s with activity := .looping .applyControls }
    | bytes :: rest =>
      some { s with dataQueue := rest, runner := s.runner.handleDataCommand bytes }
  | .applyControls, .proceed => some { s.applyPendingControls with activity := .looping .flush }
  | .flush, event => s.flushStep (.looping .poll) event
  | .poll, .polled true _ _ => some { s with activity := .looping .receiveControl }
  | .poll, .polled false read writeReady => some (s.afterPoll read writeReady)
  | .poll, .pollFailed => some { s with activity := .exiting }
  | .poll, .wakeDrainFailed => some { s with activity := .exiting }
  | .flushReady, event => s.flushStep (.looping .receiveControl) event
  | _, _ => none

/-- The rest of a turn of the handoff step after its poll returned. -/
def afterWait (s : System) (id : Nat) (read : Option ReadOutcome) (writeReady : Bool) : System :=
  let (s, isOpen) := s.readReady read
  if !isOpen then s.finishBegin id false
  else if writeReady then { s with activity := .beginning id .flush }
  else s

/-- `PtyIoActorRunner::begin_handoff` -/
def beginStep (s : System) (id : Nat) : HandoffStage → ActorEvent → Option System
  | .receiveData, .proceed =>
    match s.dataQueue with
    | [] => some { s with activity := .beginning id .applyControls }
    | bytes :: rest =>
      some { s with dataQueue := rest, runner := s.runner.drainPreQuiesceCommand bytes }
  | .applyControls, .proceed =>
    let s := s.applyPendingControls
    if s.runner.state = .released then some (s.finishBegin id false)
    else some { s with activity := .beginning id .flush }
  | .flush, event => s.flushStep (.beginning id .wait) event
  | .wait, event =>
    if s.runner.pendingWrites.isEmpty then
      match event with
      | .proceed =>
        some ({ s with runner := { s.runner with state := .quiesced } }.finishBegin id true)
      | _ => none
    else
      match event with
      | .deadlinePassed => some (s.finishBegin id false)
      | .pollFailed => some (s.finishBegin id false)
      | .wakeDrainFailed => some (s.finishBegin id false)
      | .polled _ read writeReady => some (s.afterWait id read writeReady)
      | _ => none
  | _, _ => none

def actorStep (s : System) (event : ActorEvent) : Option System :=
  match s.activity with
  | .looping stage => s.loopStep stage event
  | .beginning id stage => s.beginStep id stage event
  | .exiting => if event = .proceed then some { s with activity := .gone } else none
  | .gone => none

end System

inductive Label where
  | tryWriteUserInput (bytes : Bytes)
  | reserve
  | sendReserved (bytes : Bytes)
  | writeTerminalResponse (response : Option Bytes)
  | resize (size : PtyResize) (terminalResponses : List Bytes)
  | nudgeChildRedrawAfterHandoff (size : PtyResize)
  | duplicateForHandoff
  | foregroundProcessGroupId
  | beginHandoff
  | rollbackHandoff
  | answered (id : Nat)
  | timesOut (id : Nat)
  | releaseAfterCommit
  | shutdown
  | actor (event : System.ActorEvent)
  deriving DecidableEq

/-- One step of a caller or of the actor. -/
def step (s : System) : Label → Option System
  | .tryWriteUserInput bytes => some (s.tryWriteUserInput bytes)
  | .reserve => s.reserve
  | .sendReserved bytes => s.sendReserved bytes
  | .writeTerminalResponse response => some (s.writeTerminalResponse response)
  | .resize size terminalResponses => some (s.resize size terminalResponses)
  | .nudgeChildRedrawAfterHandoff size => some (s.nudgeChildRedrawAfterHandoff size)
  | .duplicateForHandoff => some (s.sendControl .duplicateForHandoff)
  | .foregroundProcessGroupId => some (s.sendControl .foregroundProcessGroup)
  | .beginHandoff => some s.beginHandoff
  | .rollbackHandoff => some (s.rollbackHandoff false)
  | .answered id => s.answered id
  | .timesOut id => s.timesOut id
  | .releaseAfterCommit => some (s.closeWith .releaseAfterCommit)
  | .shutdown => some (s.closeWith .shutdown)
  | .actor event => s.actorStep event

end Pty
