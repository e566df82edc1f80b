import VimeflowTerminal.Terminal.HistoryRead
import VimeflowTerminal.Terminal.State
import VimeflowTerminal.Transition.Run

/-! The read scrolls the program up with wheel events, collects what comes into view
and scrolls it down again. -/

namespace Server

open Terminal Transition

def millis (n : Nat) : Duration := n * 1000000

def stepSettle : Duration := millis 120

def maxDuration : Duration := millis 15000

def maxRestoreDuration : Duration := millis 5000

def maxUnalignedChecks : Nat := 4

def wheelStepEvents : Nat := 3

/-- The first number past `usize::MAX`. -/
def usizeLimit : Nat := 2 ^ 64

inductive Phase where
  | settleInitial (checks : Nat)
  | probeBottom
  | restoreProbe
  | harvest (unalignedChecks : Nat)
  | restore (stableChecks : Nat)
  deriving DecidableEq

structure PendingAltScreenRead where
  fallbackResponse : String
  lines : Nat
  unwrap : Bool
  initial : ScreenSnapshot
  previous : ScreenSnapshot
  history : List ScreenTextRow
  phase : Phase
  nextPollAt : Instant
  startedAt : Instant
  restoreStartedAt : Option Instant
  upwardEvents : Nat
  reachedTop : Bool
  valid : Bool
  deriving DecidableEq

/-- The response sent when a read completes. -/
inductive ReadResponse where
  | success (snapshot : TerminalReadSnapshot)
  | fallback (response : String)
  deriving DecidableEq

inductive PollOutcome where
  | pending (read : PendingAltScreenRead)
  | completed (response : ReadResponse)
  deriving DecidableEq

inductive ActiveScreen where
  | primary
  | alternate
  deriving DecidableEq

inductive WheelRouting where
  | hostScroll
  | mouseReport
  | alternateScroll
  deriving DecidableEq

/-- What a poll finds: the screen and how the terminal takes wheel events. -/
structure TerminalRuntime where
  screenText : Option (ActiveScreen × ScreenSnapshot)
  wheelRouting : Option WheelRouting
  encodesWheel : Bool
  acceptsBytes : Bool
  deriving DecidableEq

/-- The wheel events sent to the program. -/
inductive WheelEvents where
  | up (events : Nat)
  | down (events : Nat)
  deriving DecidableEq

/-- The outcome of a call with the wheel events it sent. -/
abbrev Polled : Type := PollOutcome × List WheelEvents

def TerminalRuntime.takesWheel (runtime : TerminalRuntime) : Bool :=
  runtime.wheelRouting = some .mouseReport && runtime.encodesWheel && runtime.acceptsBytes

def restoreBatchSize (snapshot : ScreenSnapshot) : Nat := max (snapshot.rows.length / 2) 1

namespace PendingAltScreenRead

def start (fallbackResponse : String) (lines : Nat) (unwrap : Bool) (initial : ScreenSnapshot)
  (now : Instant) : PendingAltScreenRead where
  fallbackResponse
  lines
  unwrap
  initial
  previous := initial
  history := initial.rows
  phase := .settleInitial 0
  nextPollAt := now + stepSettle
  startedAt := now
  restoreStartedAt := none
  upwardEvents := 0
  reachedTop := false
  valid := true

variable (read : PendingAltScreenRead)

def completeSuccess : PollOutcome :=
  let truncated := !read.reachedTop || decide (read.lines < read.history.length)
  .completed (.success (snapshotText read.history read.lines read.unwrap truncated))

def completeFallback : PollOutcome := .completed (.fallback read.fallbackResponse)

/-- Send wheel events and go on, or give up if they cannot be sent. -/
def sendWheel (runtime : TerminalRuntime) (events : WheelEvents) (next : PendingAltScreenRead) :
  Polled :=
  if runtime.takesWheel then (.pending next, [events]) else (read.completeFallback, [])

def startHarvest (runtime : TerminalRuntime) (now : Instant) : Polled :=
  read.sendWheel runtime (.up wheelStepEvents) { read with
    upwardEvents := min (read.upwardEvents + wheelStepEvents) (usizeLimit - 1)
    phase := .harvest 0
    nextPollAt := now + stepSettle }

def startRestore (runtime : TerminalRuntime) (now : Instant) : Polled :=
  if read.upwardEvents = 0 then (read.completeFallback, [])
  else
    read.sendWheel runtime (.down read.upwardEvents) { read with
      phase := .restore 0
      restoreStartedAt := some now
      nextPollAt := now + stepSettle }

/-- Wait for the next check in the given phase. -/
def wait (now : Instant) (phase : Phase) : Polled :=
  (.pending { read with phase, nextPollAt := now + stepSettle }, [])

/-- What a poll does in each phase, once it is due and the screen is the same size. -/
def pollPhase (runtime : TerminalRuntime) (snapshot : ScreenSnapshot) (now : Instant) : Polled :=
  match read.phase with
  | .settleInitial checks =>
    if snapshot.similarText read.initial then
      if 1 ≤ checks then
        read.sendWheel runtime (.down wheelStepEvents) { read with
          phase := .probeBottom
          nextPollAt := now + stepSettle }
      else read.wait now (.settleInitial (checks + 1))
    else
      ({ read with
        initial := snapshot
        previous := snapshot
        history := snapshot.rows } : PendingAltScreenRead).wait now (.settleInitial 0)
  | .probeBottom =>
    if snapshot.similarText read.initial then
      if read.valid then read.startHarvest runtime now else (read.completeFallback, [])
    else
      read.sendWheel runtime (.up wheelStepEvents) { read with
        phase := .restoreProbe
        restoreStartedAt := some now
        nextPollAt := now + stepSettle }
  | .restoreProbe =>
    if snapshot.similarText read.initial then (read.completeFallback, [])
    else read.wait now .restoreProbe
  | .harvest unalignedChecks =>
    let (history, merge) := mergeScrolledUp read.history read.previous snapshot
    let merged := { read with history }
    match merge with
    | .advanced _ =>
      let merged := { merged with previous := snapshot }
      if read.lines ≤ history.length then merged.startRestore runtime now
      else merged.startHarvest runtime now
    | .unchanged =>
      ({ merged with reachedTop := true } : PendingAltScreenRead).startRestore runtime now
    | .unaligned =>
      if unalignedChecks + 1 < maxUnalignedChecks then
        merged.wait now (.harvest (unalignedChecks + 1))
      else ({ merged with valid := false } : PendingAltScreenRead).startRestore runtime now
  | .restore stableChecks =>
    if snapshot.similarText read.previous then
      if 1 ≤ stableChecks then
        (if read.valid then read.completeSuccess else read.completeFallback, [])
      else read.wait now (.restore (stableChecks + 1))
    else
      let read := { read with previous := snapshot }
      read.sendWheel runtime (.down (restoreBatchSize snapshot)) { read with
        phase := .restore 0
        nextPollAt := now + stepSettle }

/-- The phases that the overall deadline does not cut short. -/
def outlivesDeadline : Phase → Bool
  | .probeBottom | .restoreProbe | .restore _ => true
  | .settleInitial _ | .harvest _ => false

/-- The size of the screen is not the one the read started with. -/
def resized (snapshot : ScreenSnapshot) : Bool :=
  snapshot.cols ≠ read.initial.cols || snapshot.rows.length ≠ read.initial.rows.length

def poll (runtime : Option TerminalRuntime) (now : Instant) : Polled :=
  if now < read.nextPollAt then (.pending read, [])
  else
    match runtime with
    | none => (read.completeFallback, [])
    | some runtime =>
      match runtime.screenText with
      | none => (read.completeFallback, [])
      | some (screen, snapshot) =>
        if screen ≠ .alternate || read.resized snapshot then (read.completeFallback, [])
        else if read.restoreStartedAt.any fun started => maxRestoreDuration ≤ now - started then
          (read.completeFallback, [])
        else if maxDuration ≤ now - read.startedAt && !outlivesDeadline read.phase then
          ({ read with valid := false } : PendingAltScreenRead).startRestore runtime now
        else read.pollPhase runtime snapshot now

def abort (runtime : Option TerminalRuntime) (now : Instant) : Polled :=
  let read := { read with valid := false }
  match read.phase with
  | .settleInitial _ => (read.completeFallback, [])
  | .harvest _ =>
    match runtime with
    | some runtime => read.startRestore runtime now
    | none => (read.completeFallback, [])
  | .probeBottom | .restoreProbe | .restore _ => read.poll runtime now

end PendingAltScreenRead

inductive ReadCall where
  | poll
  | abort
  deriving DecidableEq

structure ReadStep where
  call : ReadCall
  runtime : Option TerminalRuntime
  now : Instant
  deriving DecidableEq

/-- A read with the wheel events sent for it so far. -/
structure AltScreenRun where
  outcome : PollOutcome
  up : Nat
  down : Nat
  deriving DecidableEq

/-- The events sent up and down. -/
def upEvents : List WheelEvents → Nat
  | [] => 0
  | .up events :: sent => events + upEvents sent
  | .down _ :: sent => upEvents sent

def downEvents : List WheelEvents → Nat
  | [] => 0
  | .up _ :: sent => downEvents sent
  | .down events :: sent => events + downEvents sent

namespace AltScreenRun

def start (read : PendingAltScreenRead) : AltScreenRun := ⟨.pending read, 0, 0⟩

def call (read : PendingAltScreenRead) (label : ReadStep) : Polled :=
  match label.call with
  | .poll => read.poll label.runtime label.now
  | .abort => read.abort label.runtime label.now

/-- Only a pending read is polled or aborted. -/
def step (run : AltScreenRun) (label : ReadStep) : Option AltScreenRun :=
  match run.outcome with
  | .completed _ => none
  | .pending read =>
    let (outcome, sent) := call read label
    some ⟨outcome, run.up + upEvents sent, run.down + downEvents sent⟩

/-- The terminal is alive, on the alternate screen, and takes wheel events. -/
def Alive (_ : AltScreenRun) (label : ReadStep) : Prop :=
  ∃ runtime snapshot, label.runtime = some runtime ∧ runtime.takesWheel = true ∧
    runtime.screenText = some (.alternate, snapshot)

instance Alive.decidable (run : AltScreenRun) (label : ReadStep) : Decidable (Alive run label) :=
  decidable_of_iff (label.runtime.any fun runtime =>
    runtime.takesWheel && runtime.screenText.any fun shown => shown.1 = .alternate) (by
    rcases hRuntime : label.runtime with - | runtime
    · simp [Alive, hRuntime]
    rcases hScreen : runtime.screenText with - | ⟨screen, snapshot⟩
    · simp [Alive, hRuntime, hScreen]
    · simp [Alive, hRuntime, hScreen])

/-- A poll that is due gives up a harvest of more than one scroll because the size of
the screen changed. -/
def AbandonsHarvest (read : PendingAltScreenRead) (label : ReadStep) : Prop :=
  label.call = .poll ∧ read.nextPollAt ≤ label.now ∧ (∃ checks, read.phase = .harvest checks) ∧
    wheelStepEvents < read.upwardEvents ∧
    ∃ runtime screen snapshot, label.runtime = some runtime ∧
      runtime.screenText = some (screen, snapshot) ∧ read.resized snapshot = true

/-- What was sent before each phase. A harvest takes a scroll at a time, so that the
deadline bounds their number. -/
def Accounted (read : PendingAltScreenRead) (up down : Nat) : Prop :=
  match read.phase with
  | .settleInitial _ => up = 0 ∧ down = 0 ∧ read.upwardEvents = 0 ∧
      read.startedAt ≤ read.nextPollAt ∧ read.restoreStartedAt = none
  | .probeBottom => up = 0 ∧ down = wheelStepEvents ∧ read.upwardEvents = 0 ∧
      read.startedAt ≤ read.nextPollAt ∧ read.restoreStartedAt = none
  | .harvest _ => up = read.upwardEvents ∧ down = wheelStepEvents ∧
      wheelStepEvents ≤ read.upwardEvents ∧
      read.upwardEvents * stepSettle ≤ wheelStepEvents * (read.nextPollAt - read.startedAt) ∧
      read.startedAt ≤ read.nextPollAt ∧ read.restoreStartedAt = none
  | .restoreProbe | .restore _ => up ≤ down

/-- A call leaves a read accounted for, or ends it with the wheel back down. -/
def Settles (up down : Nat) (polled : Polled) : Prop :=
  match polled.1 with
  | .pending read => Accounted read (up + upEvents polled.2) (down + downEvents polled.2)
  | .completed _ => up + upEvents polled.2 ≤ down + downEvents polled.2

variable {read : PendingAltScreenRead} {up down : Nat} {runtime : TerminalRuntime}
  {snapshot : ScreenSnapshot} {now : Instant}

theorem settles_completed {response : ReadResponse} (hBalance : up ≤ down) :
  Settles up down (.completed response, []) :=
  hBalance

theorem settles_pending {next : PendingAltScreenRead} (hNext : Accounted next up down) :
  Settles up down (.pending next, []) :=
  hNext

theorem settles_sendWheel (hWheel : runtime.takesWheel = true) {events : WheelEvents}
  {next : PendingAltScreenRead}
  (hNext : Accounted next (up + upEvents [events]) (down + downEvents [events])) :
  Settles up down (read.sendWheel runtime events next) := by
  unfold PendingAltScreenRead.sendWheel
  rw [if_pos hWheel]
  exact hNext

theorem settles_startRestore (hWheel : runtime.takesWheel = true) (hUp : up = read.upwardEvents) :
  Settles up down (read.startRestore runtime now) := by
  unfold PendingAltScreenRead.startRestore
  split
  next hNone =>
    have hBalance : up ≤ down := by omega
    exact settles_completed hBalance
  · have hBalance : up + 0 ≤ down + (read.upwardEvents + 0) := by omega
    exact settles_sendWheel hWheel hBalance

theorem upward_fits {events elapsed : Nat} (hPace : events * stepSettle ≤ wheelStepEvents * elapsed)
  (hDeadline : elapsed < maxDuration) : events + wheelStepEvents ≤ usizeLimit - 1 := by
  have hPace : events * 120000000 ≤ 3 * elapsed := hPace
  have hDeadline : elapsed < 15000000000 := hDeadline
  show events + 3 ≤ 18446744073709551615
  omega

/-- A harvest goes on as long as the deadline allows. -/
theorem settles_startHarvest (hWheel : runtime.takesWheel = true) (hUp : up = read.upwardEvents)
  (hDown : down = wheelStepEvents) (hStarted : read.startedAt ≤ now)
  (hRestore : read.restoreStartedAt = none)
  (hPace : read.upwardEvents * stepSettle ≤ wheelStepEvents * (now - read.startedAt))
  (hFew : read.upwardEvents + wheelStepEvents ≤ usizeLimit - 1) :
  Settles up down (read.startHarvest runtime now) := by
  refine settles_sendWheel hWheel ?_
  show up + (wheelStepEvents + 0) = min (read.upwardEvents + wheelStepEvents) (usizeLimit - 1) ∧
    down + 0 = wheelStepEvents ∧
    wheelStepEvents ≤ min (read.upwardEvents + wheelStepEvents) (usizeLimit - 1) ∧
    min (read.upwardEvents + wheelStepEvents) (usizeLimit - 1) * stepSettle ≤
      wheelStepEvents * (now + stepSettle - read.startedAt) ∧
    read.startedAt ≤ now + stepSettle ∧ read.restoreStartedAt = none
  rw [Nat.min_eq_left hFew]
  have hLater : now + stepSettle - read.startedAt = now - read.startedAt + stepSettle :=
    Nat.sub_add_comm hStarted
  refine ⟨by omega, by omega, Nat.le_add_left _ _, ?_, Nat.le_add_right_of_le hStarted, hRestore⟩
  rw [hLater, Nat.add_mul, Nat.mul_add]
  omega

/-- A poll that is due, with the screen still the size the read started with. -/
theorem settles_pollPhase (hWheel : runtime.takesWheel = true) (hDue : read.nextPollAt ≤ now)
  (hAccounted : Accounted read up down)
  (hDeadline : PendingAltScreenRead.outlivesDeadline read.phase = true ∨
    now - read.startedAt < maxDuration) :
  Settles up down (read.pollPhase runtime snapshot now) := by
  unfold PendingAltScreenRead.pollPhase
  cases hPhase : read.phase with
  | settleInitial checks =>
    simp only [Accounted, hPhase] at hAccounted
    obtain ⟨hUp, hDown, hUpward, hStarted, hRestore⟩ := hAccounted
    have hLater : read.startedAt ≤ now + stepSettle :=
      Nat.le_add_right_of_le (Nat.le_trans hStarted hDue)
    dsimp only
    split
    · split
      · have hProbe : down + (wheelStepEvents + 0) = wheelStepEvents := by omega
        exact settles_sendWheel hWheel ⟨hUp, hProbe, hUpward, hLater, hRestore⟩
      · exact settles_pending ⟨hUp, hDown, hUpward, hLater, hRestore⟩
    · exact settles_pending ⟨hUp, hDown, hUpward, hLater, hRestore⟩
  | probeBottom =>
    simp only [Accounted, hPhase] at hAccounted
    obtain ⟨hUp, hDown, hUpward, hStarted, hRestore⟩ := hAccounted
    dsimp only
    split
    · split
      · refine settles_startHarvest hWheel (by omega) hDown (Nat.le_trans hStarted hDue)
          hRestore ?_ ?_
        · rw [hUpward, Nat.zero_mul]
          exact Nat.zero_le _
        · rw [hUpward]
          decide
      · exact settles_completed (by omega)
    · have hBalance : up + (wheelStepEvents + 0) ≤ down + 0 := by omega
      exact settles_sendWheel hWheel hBalance
  | restoreProbe =>
    simp only [Accounted, hPhase] at hAccounted
    dsimp only
    split
    · exact settles_completed hAccounted
    · exact settles_pending hAccounted
  | harvest unalignedChecks =>
    simp only [Accounted, hPhase] at hAccounted
    obtain ⟨hUp, hDown, hScrolled, hPace, hStarted, hRestore⟩ := hAccounted
    have hElapsed : read.nextPollAt - read.startedAt ≤ now - read.startedAt :=
      Nat.sub_le_sub_right hDue _
    have hPaceNow : read.upwardEvents * stepSettle ≤ wheelStepEvents * (now - read.startedAt) :=
      Nat.le_trans hPace (Nat.mul_le_mul_left _ hElapsed)
    have hSoon : now - read.startedAt < maxDuration := by
      rw [hPhase] at hDeadline
      exact hDeadline.resolve_left Bool.false_ne_true
    dsimp only
    split
    next rows hMerge =>
      split
      · exact settles_startRestore hWheel hUp
      · exact settles_startHarvest hWheel hUp hDown (Nat.le_trans hStarted hDue) hRestore
          hPaceNow (upward_fits hPaceNow hSoon)
    next hMerge => exact settles_startRestore hWheel hUp
    next hMerge =>
      split
      · refine settles_pending ⟨hUp, hDown, hScrolled, ?_, ?_, hRestore⟩
        · refine Nat.le_trans hPaceNow (Nat.mul_le_mul_left _ ?_)
          exact Nat.sub_le_sub_right (Nat.le_add_right _ _) _
        · exact Nat.le_add_right_of_le (Nat.le_trans hStarted hDue)
      · exact settles_startRestore hWheel hUp
  | restore stableChecks =>
    simp only [Accounted, hPhase] at hAccounted
    dsimp only
    split
    · split
      · split
        · exact settles_completed hAccounted
        · exact settles_completed hAccounted
      · exact settles_pending hAccounted
    · have hBalance : up + 0 ≤ down + (restoreBatchSize snapshot + 0) := by omega
      exact settles_sendWheel hWheel hBalance

/-- Only a harvest of more than one scroll has more to undo than was sent down. -/
theorem Accounted.balance (hAccounted : Accounted read up down)
  (hFew : ∀ checks, read.phase = .harvest checks → read.upwardEvents ≤ wheelStepEvents) :
  up ≤ down := by
  cases hPhase : read.phase with
  | settleInitial checks =>
    simp only [Accounted, hPhase] at hAccounted
    omega
  | probeBottom =>
    simp only [Accounted, hPhase] at hAccounted
    omega
  | harvest checks =>
    simp only [Accounted, hPhase] at hAccounted
    have hScrolls := hFew checks hPhase
    omega
  | restoreProbe =>
    simp only [Accounted, hPhase] at hAccounted
    exact hAccounted
  | restore checks =>
    simp only [Accounted, hPhase] at hAccounted
    exact hAccounted

/-- The deadline is only looked at before a restore. -/
theorem Accounted.upward (hAccounted : Accounted read up down)
  (hPhase : PendingAltScreenRead.outlivesDeadline read.phase = false) :
  up = read.upwardEvents := by
  cases hCase : read.phase with
  | settleInitial checks =>
    simp only [Accounted, hCase] at hAccounted
    omega
  | harvest checks =>
    simp only [Accounted, hCase] at hAccounted
    exact hAccounted.1
  | probeBottom | restoreProbe | restore checks =>
    rw [hCase] at hPhase
    cases hPhase

theorem Accounted.notRestoring (hAccounted : Accounted read up down) {checks : Nat}
  (hPhase : read.phase = .harvest checks) : read.restoreStartedAt = none := by
  simp only [Accounted, hPhase] at hAccounted
  exact hAccounted.2.2.2.2.2

theorem settles_poll (hWheel : runtime.takesWheel = true)
  (hScreen : runtime.screenText = some (.alternate, snapshot))
  (hAccounted : Accounted read up down)
  (hKept : ∀ checks, read.phase = .harvest checks → read.nextPollAt ≤ now →
    read.resized snapshot = true → read.upwardEvents ≤ wheelStepEvents) :
  Settles up down (read.poll (some runtime) now) := by
  unfold PendingAltScreenRead.poll
  split
  next hEarly => exact settles_pending hAccounted
  next hLate =>
    have hDue : read.nextPollAt ≤ now := Nat.le_of_not_lt hLate
    simp only [hScreen, ne_eq, not_true_eq_false, decide_false, Bool.false_or]
    split
    next hResized =>
      refine settles_completed (hAccounted.balance ?_)
      exact fun checks hPhase => hKept checks hPhase hDue hResized
    · split
      next hTimeout =>
        refine settles_completed (hAccounted.balance ?_)
        intro checks hPhase
        rw [hAccounted.notRestoring hPhase] at hTimeout
        cases hTimeout
      · split
        next hDeadline =>
          obtain ⟨-, hPhase⟩ := Bool.and_eq_true_iff.1 hDeadline
          have hUp := hAccounted.upward (by simpa using hPhase)
          exact settles_startRestore hWheel hUp
        next hDeadline =>
          refine settles_pollPhase hWheel hDue hAccounted ?_
          by_cases hOutlives : PendingAltScreenRead.outlivesDeadline read.phase = true
          · exact Or.inl hOutlives
          · refine Or.inr (Nat.lt_of_not_le fun hPast => hDeadline ?_)
            simp [hPast, hOutlives]

theorem settles_abort (hWheel : runtime.takesWheel = true)
  (hScreen : runtime.screenText = some (.alternate, snapshot))
  (hAccounted : Accounted read up down) :
  Settles up down (read.abort (some runtime) now) := by
  unfold PendingAltScreenRead.abort
  have hInvalid : Accounted { read with valid := false } up down := hAccounted
  have hPoll : (∀ checks, read.phase ≠ .harvest checks) →
      Settles up down (({ read with valid := false } : PendingAltScreenRead).poll
        (some runtime) now) :=
    fun hPhase => settles_poll hWheel hScreen hInvalid fun checks hHarvest =>
      absurd hHarvest (hPhase checks)
  cases hPhase : read.phase with
  | settleInitial checks =>
    refine settles_completed (hAccounted.balance ?_)
    intro checks hHarvest
    rw [hPhase] at hHarvest
    cases hHarvest
  | harvest checks =>
    simp only [Accounted, hPhase] at hAccounted
    exact settles_startRestore hWheel hAccounted.1
  | probeBottom | restoreProbe | restore checks =>
    rw [hPhase] at hPoll
    exact hPoll (by simp)

variable {label : ReadStep}

theorem settles_call {run : AltScreenRun} (hAlive : Alive run label)
  (hAccounted : Accounted read up down) (hKept : ¬ AbandonsHarvest read label) :
  Settles up down (call read label) := by
  obtain ⟨runtime, snapshot, hRuntime, hWheel, hScreen⟩ := hAlive
  unfold call
  cases hCall : label.call with
  | poll =>
    rw [hRuntime]
    refine settles_poll hWheel hScreen hAccounted ?_
    intro checks hPhase hDue hResized
    by_contra hMany
    exact hKept ⟨hCall, hDue, ⟨checks, hPhase⟩, Nat.lt_of_not_le hMany, runtime, .alternate,
      snapshot, hRuntime, hScreen, hResized⟩
  | abort =>
    rw [hRuntime]
    exact settles_abort hWheel hScreen hAccounted

theorem call_abandoned (hAbandons : AbandonsHarvest read label) :
  call read label = (read.completeFallback, []) := by
  obtain ⟨hCall, hDue, -, -, runtime, screen, snapshot, hRuntime, hScreen, hResized⟩ := hAbandons
  have hLate : ¬ label.now < read.nextPollAt := Nat.not_lt_of_le hDue
  simp only [call, hCall, hRuntime, PendingAltScreenRead.poll, hLate, hScreen, hResized,
    Bool.or_true, if_true, if_false]

/-- What a run says of its wheel events while the read is pending. -/
def Balanced (run : AltScreenRun) : Prop :=
  ∀ read, run.outcome = .pending read → Accounted read run.up run.down

theorem step_pending (label : ReadStep) :
  step ⟨.pending read, up, down⟩ label = some ⟨(call read label).1,
    up + upEvents (call read label).2, down + downEvents (call read label).2⟩ :=
  rfl

theorem balanced_step {run next : AltScreenRun} (hBalanced : Balanced run)
  (hAlive : Alive run label) (hStep : step run label = some next) : Balanced next := by
  obtain ⟨outcome, up, down⟩ := run
  cases outcome with
  | completed response => cases hStep
  | pending read =>
    have hNext := Option.some.inj (hStep.symm.trans (step_pending label))
    subst hNext
    intro nextRead hPending
    by_cases hAbandons : AbandonsHarvest read label
    · rw [call_abandoned hAbandons] at hPending
      cases hPending
    have hSettles := settles_call hAlive (hBalanced read rfl) hAbandons
    unfold Settles at hSettles
    rw [show (call read label).1 = .pending nextRead from hPending] at hSettles
    exact hSettles

theorem balanced_start (fallbackResponse : String) (lines : Nat) (unwrap : Bool)
  (initial : ScreenSnapshot) (now : Instant) :
  Balanced (start (PendingAltScreenRead.start fallbackResponse lines unwrap initial now)) := by
  intro read hPending
  cases hPending
  exact ⟨rfl, rfl, rfl, Nat.le_add_right _ _, rfl⟩

/-- A read that completes has sent at least as many wheel events down as up, except
when it gives up a harvest because the size of the screen changed. -/
theorem scrolled_back_iff_of_run {fallbackResponse : String} {lines : Nat} {unwrap : Bool}
  {initial : ScreenSnapshot} {begin : Instant} {labels : List ReadStep}
  {read : PendingAltScreenRead} {up down : Nat} {label : ReadStep} {response : ReadResponse}
  {upTotal downTotal : Nat}
  (run : Run (restrict (ofPartial step) Alive)
    (start (PendingAltScreenRead.start fallbackResponse lines unwrap initial begin)) labels
    ⟨.pending read, up, down⟩)
  (hLast : restrict (ofPartial step) Alive ⟨.pending read, up, down⟩ label
    ⟨.completed response, upTotal, downTotal⟩) :
  upTotal ≤ downTotal ↔ ¬ AbandonsHarvest read label := by
  obtain ⟨hStep, hAlive⟩ := hLast
  have hBalanced : Balanced ⟨.pending read, up, down⟩ :=
    run.preserves (balanced_start fallbackResponse lines unwrap initial begin) fun _ _ _ hBefore hTaken =>
      balanced_step hBefore hTaken.2 hTaken.1
  have hAccounted : Accounted read up down := hBalanced read rfl
  have hNext := Option.some.inj (hStep.symm.trans (step_pending label))
  constructor
  · intro hBalance hAbandons
    rw [call_abandoned hAbandons] at hNext
    cases hNext
    obtain ⟨-, -, ⟨checks, hPhase⟩, hMany, -⟩ := hAbandons
    simp only [Accounted, hPhase] at hAccounted
    obtain ⟨hUp, hDown, -⟩ := hAccounted
    have hSum : up + 0 ≤ down + 0 := hBalance
    omega
  · intro hKept
    have hSettles := settles_call hAlive hAccounted hKept
    unfold Settles at hSettles
    obtain ⟨hOutcome, hUp, hDown⟩ := AltScreenRun.mk.injEq .. ▸ hNext
    rw [← hOutcome] at hSettles
    rw [hUp, hDown]
    exact hSettles

/-- A screen of one column with the given rows, and a poll that finds it. -/
def columnScreen (rows : List Nat) : ScreenSnapshot :=
  ⟨1, rows.map fun codepoint => ⟨[⟨.narrow, [codepoint]⟩], false, false⟩⟩

def pollAt (time : Nat) (rows : List Nat) : ReadStep where
  call := .poll
  runtime := some ⟨some (.alternate, columnScreen rows), some .mouseReport, true, true⟩
  now := millis time

/-- Two scrolls up, and the screen grows before the next poll: the wheel is never
turned back. -/
theorem abandoned_scrolled_up : ∃ response,
  Run (restrict (ofPartial step) Alive)
    (start (PendingAltScreenRead.start "" 80 false (columnScreen [97, 98]) 0))
    [pollAt 120 [97, 98], pollAt 240 [97, 98], pollAt 360 [97, 98], pollAt 480 [99, 97],
      pollAt 600 [99, 97, 98]]
    ⟨.completed response, 6, 3⟩ :=
  ⟨_, run_of_guarded (by with_unfolding_all rfl)⟩

/-- The top is reached after one scroll, and the screen settles on the way down. -/
theorem scrolled_back_at_top : ∃ read,
  call read (pollAt 720 [97, 98]) = (.completed (.success ⟨"a\nb\n", false⟩), []) ∧
    (3 ≤ 6 ↔ ¬ AbandonsHarvest read (pollAt 720 [97, 98])) := by
  let read : PendingAltScreenRead :=
    { PendingAltScreenRead.start "" 80 false (columnScreen [97, 98]) 0 with
      phase := .restore 1
      nextPollAt := millis 720
      restoreStartedAt := some (millis 480)
      upwardEvents := 3
      reachedTop := true }
  have hRun : Run (restrict (ofPartial step) Alive)
      (start (PendingAltScreenRead.start "" 80 false (columnScreen [97, 98]) 0))
      [pollAt 120 [97, 98], pollAt 240 [97, 98], pollAt 360 [97, 98], pollAt 480 [97, 98],
        pollAt 600 [97, 98]]
      ⟨.pending read, 3, 6⟩ :=
    run_of_guarded (by with_unfolding_all rfl)
  have hCall : call read (pollAt 720 [97, 98]) =
      (.completed (.success ⟨"a\nb\n", false⟩), []) := by
    decide +kernel
  have hLast : restrict (ofPartial step) Alive ⟨.pending read, 3, 6⟩ (pollAt 720 [97, 98])
      ⟨.completed (.success ⟨"a\nb\n", false⟩), 3, 6⟩ := by
    refine ⟨?_, by decide⟩
    exact (step_pending _).trans (by rw [hCall]; rfl)
  exact ⟨read, hCall, scrolled_back_iff_of_run hRun hLast⟩

end AltScreenRun

end Server
