import VimeflowTerminal.Terminal.Naming

/-! A launch waits for its agent to settle until its deadline. It has a name as long as no report
takes the name away from it, and goes together with the name and its owner. -/

namespace Terminal

open Detect AgentResume Transition AgentNaming

/-- A managed agent is to be launched. -/
structure Launch where
  name : String
  kind : Agent
  began : Instant
  settleDelay : Duration
  timeout : Duration
  deriving DecidableEq

namespace Launch

def readyAfter (launch : Launch) : Instant :=
  (Instant.checkedAdd launch.began launch.settleDelay).getD launch.began

def deadline (launch : Launch) : Instant :=
  (Instant.checkedAdd launch.began launch.timeout).getD launch.began

end Launch

namespace TerminalOp

def launch : TerminalOp → Option Launch
  | .beginManagedAgent name kind began settleDelay timeout =>
    some { name, kind, began, settleDelay, timeout }
  | _ => none

def reconcileTime : TerminalOp → Option Instant
  | .reconcileManagedAgent now _ => some now
  | _ => none

def restores : TerminalOp → Bool
  | .restoreManagedAgent .. => true
  | _ => false

end TerminalOp

/-- The launch that was begun last. -/
def lastLaunch (ops : List TerminalOp) : Option Launch := ops.reverse.findSome? TerminalOp.launch

def reconcileTimes (ops : List TerminalOp) : List Instant := ops.filterMap TerminalOp.reconcileTime

theorem lastLaunch_concat (ops : List TerminalOp) (op : TerminalOp) :
  lastLaunch (ops ++ [op]) = op.launch.or (lastLaunch ops) := by
  unfold lastLaunch
  rw [List.reverse_append, List.reverse_singleton, List.singleton_append, List.findSome?_cons]
  cases op.launch <;> rfl

theorem reconcileTimes_concat (ops : List TerminalOp) (op : TerminalOp) :
  reconcileTimes (ops ++ [op]) = reconcileTimes ops ++ op.reconcileTime.toList := by
  unfold reconcileTimes
  rw [List.filterMap_append]
  cases hTime : op.reconcileTime <;> simp [hTime]

namespace TerminalState

/-- The operation does not take the name of a launch away and leave the launch. -/
def KeepsName (s : TerminalState) : TerminalOp → Prop
  | .detection detection now _ =>
    s.detectionReleasesAgent detection now = true ∨
      s.naming.Unorphaned (s.detectionOwnerReports detection now)
  | .hookReport report now _ => s.naming.Unorphaned (s.hookOwnerReports report now)
  | .sessionStart report now _ => s.naming.Unorphaned (s.sessionStartOwnerReports report now)
  | .agentName name => name ≠ "" ∨ s.managedAgent = none
  | .beginManagedAgent name .. | .restoreManagedAgent name _ => name ≠ ""
  | _ => True

instance : ∀ (s : TerminalState) (op : TerminalOp), Decidable (KeepsName s op)
  | _, .detection .. => inferInstanceAs (Decidable (_ ∨ _))
  | _, .hookReport .. | _, .sessionStart .. =>
    inferInstanceAs (Decidable (Unorphaned ..))
  | _, .agentName _ => inferInstanceAs (Decidable (_ ∨ _))
  | _, .beginManagedAgent .. | _, .restoreManagedAgent .. => inferInstanceAs (Decidable (_ ≠ _))
  | _, .hookClear .. | _, .release .. | _, .persistSession _ | _, .metadata ..
  | _, .acceptMetadata .. | _, .expireMetadata .. | _, .terminalTitle _ | _, .manualLabel _
  | _, .clearManualLabel | _, .clearAgentName | _, .reconcileManagedAgent .. | _, .respawn
  | _, .launchArgv _ | _, .respawnShellOnExit | _, .pendingAgentResumePlan _ => isTrue trivial

/-- What reconciling a launch can come to: nothing changes, the launch is given up with its name,
becomes active, or goes on waiting. -/
inductive Reconciled (s : TerminalState) (now : Instant) : TerminalState → Prop where
  | kept (hOpen : ∀ kind readyAfter deadline observed,
      s.managedAgent = some ⟨kind, .pending readyAfter deadline observed⟩ → now < deadline) :
      Reconciled s now s
  | cleared : Reconciled s now s.clearAgentName
  | activated {kind : Agent} {readyAfter : Option Instant} {deadline : Instant} {observed : Bool}
      (hManaged : s.managedAgent = some ⟨kind, .pending readyAfter deadline observed⟩)
      (hReady : ∀ time, readyAfter = some time → time ≤ now) (hOpen : now < deadline)
      (hKnown : s.effectiveKnownAgent = some kind) (hState : s.state = .idle ∨ s.state = .blocked) :
      Reconciled s now { s with managedAgent := some ⟨kind, .active⟩ }
  | waiting {kind : Agent} {readyAfter : Option Instant} {deadline : Instant} {observed : Bool}
      {nextReadyAfter : Option Instant} {nextObserved : Bool}
      (hManaged : s.managedAgent = some ⟨kind, .pending readyAfter deadline observed⟩)
      (hOpen : now < deadline)
      (hReady : nextReadyAfter = readyAfter ∨
        nextReadyAfter = none ∧ ∃ time, readyAfter = some time ∧ time ≤ now) :
      Reconciled s now
        { s with managedAgent := some ⟨kind, .pending nextReadyAfter deadline nextObserved⟩ }

variable {s : TerminalState} {op : TerminalOp} {ops : List TerminalOp}

theorem reconcilePendingAgent_reconciled {kind : Agent} {readyAfter : Option Instant}
  {deadline : Instant} {previousObserved : Bool} (observed : Bool) (now : Instant)
  (hManaged : s.managedAgent = some ⟨kind, .pending readyAfter deadline previousObserved⟩) :
  Reconciled s now
    (s.reconcilePendingAgent kind readyAfter deadline previousObserved observed now).1 := by
  unfold reconcilePendingAgent
  split
  case isTrue => exact .cleared
  case isFalse hOpen =>
    have hBefore : now < deadline := Nat.lt_of_not_le hOpen
    split
    case isTrue hSettled =>
      simp only [Bool.and_eq_true, Bool.or_eq_true, beq_iff_eq] at hSettled
      obtain ⟨⟨hReady, hKnown⟩, hState⟩ := hSettled
      refine .activated hManaged ?_ hBefore hKnown hState
      rintro time rfl
      simpa using hReady
    case isFalse =>
      split
      case isTrue hReady =>
        obtain ⟨time, hTime, hPast⟩ := (Option.any_eq_true _ _).1 hReady
        exact .waiting hManaged hBefore (.inr ⟨rfl, time, hTime, of_decide_eq_true hPast⟩)
      case isFalse =>
        split
        · exact .waiting hManaged hBefore (.inl rfl)
        apply Reconciled.kept
        intro _ _ _ _ hSame
        obtain ⟨rfl, hPhase⟩ := ManagedAgent.mk.inj (Option.some.inj (hManaged.symm.trans hSame))
        cases hPhase
        exact hBefore

theorem reconcileManagedAgentAt_reconciled (s : TerminalState) (now : Instant)
  (processExited : Bool) :
  Reconciled s now (s.reconcileManagedAgentAt now processExited).1 := by
  unfold reconcileManagedAgentAt
  cases hManaged : s.managedAgent with
  | none =>
    apply Reconciled.kept
    intro _ _ _ _ hSome
    cases hManaged.symm.trans hSome
  | some managed =>
    obtain ⟨kind, phase⟩ := managed
    cases phase with
    | active =>
      dsimp only
      split
      · exact .cleared
      apply Reconciled.kept
      intro _ _ _ _ hSome
      cases hManaged.symm.trans hSome
    | pending readyAfter deadline previousObserved =>
      dsimp only
      split
      · exact .cleared
      · exact reconcilePendingAgent_reconciled _ now hManaged

variable {now : Instant}

theorem naming_reconcileManagedAgentAt {t : TerminalState} (hReconciled : Reconciled s now t) :
  t.naming = ⟨none, none, none⟩ ∨
    ∃ managed, t.naming = { s.naming with managed } ∧
      (s.managedAgent.isSome = true ↔ managed.isSome = true) := by
  cases hReconciled with
  | kept => exact .inr ⟨s.managedAgent, rfl, Iff.rfl⟩
  | cleared => exact .inl rfl
  | activated hManaged => exact .inr ⟨_, rfl, by rw [hManaged]; simp⟩
  | waiting hManaged => exact .inr ⟨_, rfl, by rw [hManaged]; simp⟩

/-- The operation sets up a managed agent of its own. -/
def TerminalOp.manages : TerminalOp → Bool
  | .beginManagedAgent .. | .restoreManagedAgent .. | .reconcileManagedAgent .. => true
  | _ => false

/-- Of an operation that does not set up a launch, the launch goes on or is gone with its name. -/
theorem managed_step (hManages : TerminalOp.manages op = false) :
  (s.step op).managedAgent = s.managedAgent ∨ (s.step op).naming = ⟨none, none, none⟩ := by
  have hSame : ∀ {t : TerminalState} {reports : List OwnerReport},
      t.naming = reports.foldl reported s.naming → t.managedAgent = s.managedAgent := by
    intro t reports hNaming
    exact (congrArg managed hNaming).trans (managed_foldl reports)
  by_cases hLeaves : TerminalOp.leavesNaming op = true
  · exact .inl (congrArg managed (s.naming_of_leaves hLeaves))
  cases op with
  | detection detection now clock =>
    have hNaming := s.naming_detection detection now clock
    split at hNaming
    · exact .inr hNaming
    · exact .inl (hSame hNaming)
  | hookReport report now clock => exact .inl (hSame (s.naming_hookReport report now clock))
  | sessionStart report now clock => exact .inl (hSame (s.naming_sessionStart report now clock))
  | release source agentLabel seq now clock =>
    obtain hNaming | hNaming := s.naming_release source agentLabel seq now clock
    · exact .inl (congrArg managed hNaming)
    · exact .inr hNaming
  | agentName | clearAgentName | respawn => first | exact .inl rfl | exact .inr rfl
  | beginManagedAgent | restoreManagedAgent | reconcileManagedAgent => cases hManages
  | hookClear | persistSession | metadata | acceptMetadata | expireMetadata | terminalTitle
  | manualLabel | clearManualLabel | launchArgv | respawnShellOnExit | pendingAgentResumePlan =>
    exact absurd rfl hLeaves

theorem named_cleared : (AgentNaming.mk none none none).Named := fun hManaged => hManaged

theorem named_given_iff (name : String) :
  (if name.isEmpty then none else some name).isSome = true ↔ name ≠ "" := by
  by_cases hName : name = ""
  · simp [hName]
  · simp [hName]

/-- A step keeps the name with the launch exactly if no report of it takes the name away and no
empty name is given. -/
theorem named_step_iff (hNamed : s.naming.Named) : (s.step op).naming.Named ↔ KeepsName s op := by
  by_cases hLeaves : TerminalOp.leavesNaming op = true
  · rw [s.naming_of_leaves hLeaves]
    cases op <;> first | exact iff_of_true hNamed trivial | cases hLeaves
  cases op with
  | detection detection now clock =>
    change (s.setDetectedStateWithScreenSignalsAt detection now clock).1.naming.Named ↔
      (s.detectionReleasesAgent detection now = true ∨
        s.naming.Unorphaned (s.detectionOwnerReports detection now))
    rw [naming_detection]
    cases hApplies : s.appliesDetection detection now with
    | false =>
      have hNone : s.detectionOwnerReports detection now = [] := by
        simp [detectionOwnerReports, hApplies]
      rw [hNone]
      exact iff_of_true hNamed (.inr trivial)
    | true =>
      cases s.detectionReleasesAgent detection now with
      | true => exact iff_of_true named_cleared (.inl rfl)
      | false =>
        refine (named_foldl_iff hNamed).trans ?_
        exact (or_iff_right Bool.false_ne_true).symm
  | hookReport report now clock =>
    change (s.setHookAuthorityAt report now clock).1.naming.Named ↔ _
    rw [naming_hookReport]
    exact named_foldl_iff hNamed
  | sessionStart report now clock =>
    change (s.setAgentSessionRefForSessionStart report now clock).1.naming.Named ↔ _
    rw [naming_sessionStart]
    exact named_foldl_iff hNamed
  | release source agentLabel seq now clock =>
    refine iff_of_true ?_ trivial
    obtain hNaming | hNaming := s.naming_release source agentLabel seq now clock
    · exact hNaming.symm ▸ hNamed
    · exact hNaming.symm ▸ named_cleared
  | clearAgentName | respawn => exact iff_of_true named_cleared trivial
  | agentName name =>
    change (s.managedAgent.isSome = true →
        (if name.isEmpty then none else some name).isSome = true) ↔
      (name ≠ "" ∨ s.managedAgent = none)
    rw [named_given_iff, ← Option.isNone_iff_eq_none, ← Option.not_isSome, Bool.not_eq_true']
    cases s.managedAgent <;> simp
  | beginManagedAgent name | restoreManagedAgent name =>
    refine Iff.trans ?_ (named_given_iff name)
    exact ⟨fun hNext => hNext rfl, fun hName _ => hName⟩
  | reconcileManagedAgent now processExited =>
    refine iff_of_true ?_ trivial
    obtain hNaming | ⟨managed, hNaming, hSame⟩ := naming_reconcileManagedAgentAt
      (s.reconcileManagedAgentAt_reconciled now processExited)
    · exact hNaming.symm ▸ named_cleared
    · change (s.reconcileManagedAgentAt now processExited).1.naming.Named
      rw [hNaming]
      exact fun hManaged => hNamed (hSame.2 hManaged)
  | hookClear | persistSession | metadata | acceptMetadata | expireMetadata | terminalTitle
  | manualLabel | clearManualLabel | launchArgv | respawnShellOnExit | pendingAgentResumePlan =>
    exact absurd rfl hLeaves

/-- A pending launch is the one that was begun last; once it does not wait any more to be ready,
it has been reconciled when it was. -/
def Launched (ops : List TerminalOp) (s : TerminalState) : Prop :=
  ∀ kind readyAfter deadline observed,
    s.managedAgent = some ⟨kind, .pending readyAfter deadline observed⟩ →
      ∃ launch, lastLaunch ops = some launch ∧ launch.kind = kind ∧ launch.deadline = deadline ∧
        (readyAfter = some launch.readyAfter ∨
          readyAfter = none ∧ ∃ time ∈ reconcileTimes ops, launch.readyAfter ≤ time)

theorem Launched.congr (hLaunched : Launched ops s) (hLaunch : op.launch = none)
  (hManaged : (s.step op).managedAgent = s.managedAgent) :
  Launched (ops ++ [op]) (s.step op) := by
  intro kind readyAfter deadline observed hPending
  obtain ⟨launch, hLast, hKind, hDeadline, hReady⟩ :=
    hLaunched kind readyAfter deadline observed (hManaged.symm.trans hPending)
  refine ⟨launch, ?_, hKind, hDeadline, ?_⟩
  · rw [lastLaunch_concat, hLaunch]
    exact hLast
  rw [reconcileTimes_concat]
  exact hReady.imp_right fun ⟨hNone, time, hMem, hTime⟩ =>
    ⟨hNone, time, List.mem_append_left _ hMem, hTime⟩

theorem launched_of_none (hManaged : s.managedAgent = none) : Launched ops s := by
  intro _ _ _ _ hPending
  cases hManaged.symm.trans hPending

theorem launched_reconcile (hLaunched : Launched ops s) {exited : Bool} {t : TerminalState}
  (hReconciled : Reconciled s now t) :
  Launched (ops ++ [.reconcileManagedAgent now exited]) t := by
  have hLast : lastLaunch (ops ++ [.reconcileManagedAgent now exited]) = lastLaunch ops :=
    lastLaunch_concat ops _
  have hTimes : reconcileTimes (ops ++ [.reconcileManagedAgent now exited]) =
      reconcileTimes ops ++ [now] := reconcileTimes_concat ops _
  intro kind readyAfter deadline observed hPending
  rw [hLast, hTimes]
  cases hReconciled with
  | kept =>
    obtain ⟨launch, hLaunch, hKind, hDeadline, hReady⟩ := hLaunched _ _ _ _ hPending
    exact ⟨launch, hLaunch, hKind, hDeadline, hReady.imp_right fun ⟨hNone, time, hMem, hTime⟩ =>
      ⟨hNone, time, List.mem_append_left _ hMem, hTime⟩⟩
  | cleared => cases hPending
  | activated => cases hPending
  | waiting hManaged hOpen hNext =>
    obtain ⟨launch, hLaunch, hKind, hDeadline, hReady⟩ := hLaunched _ _ _ _ hManaged
    cases hPending
    refine ⟨launch, hLaunch, hKind, hDeadline, ?_⟩
    obtain rfl | ⟨rfl, time, rfl, hPast⟩ := hNext
    · exact hReady.imp_right fun ⟨hNone, time, hMem, hTime⟩ =>
        ⟨hNone, time, List.mem_append_left _ hMem, hTime⟩
    · right
      obtain hSame | ⟨hNone, _⟩ := hReady
      · refine ⟨rfl, now, by simp, ?_⟩
        rw [← Option.some.inj hSame]
        exact hPast
      · cases hNone

theorem launched_step (hLaunched : Launched ops s) : Launched (ops ++ [op]) (s.step op) := by
  cases hManages : TerminalOp.manages op with
  | false =>
    obtain hSame | hCleared := managed_step (s := s) hManages
    · refine hLaunched.congr ?_ hSame
      cases op <;> first | rfl | cases hManages
    · exact launched_of_none (congrArg managed hCleared)
  | true =>
    cases op with
    | beginManagedAgent name kind began settleDelay timeout =>
      intro _ _ _ _ hPending
      cases hPending
      exact ⟨⟨name, kind, began, settleDelay, timeout⟩, lastLaunch_concat _ _, rfl, rfl,
        .inl rfl⟩
    | restoreManagedAgent =>
      intro _ _ _ _ hPending
      cases hPending
    | reconcileManagedAgent now processExited =>
      exact launched_reconcile hLaunched
        (s.reconcileManagedAgentAt_reconciled now processExited)
    | _ => cases hManages

/-- What is kept of a launch when the next operation comes. -/
structure LaunchKept (ops : List TerminalOp) (s : TerminalState) (op : TerminalOp) : Prop where
  named : s.managedAgent.isSome = true → s.agentName.isSome = true
  activated : s.managedAgentLaunchPending = true →
    (s.step op).managedAgentInteractiveReady = true → op.restores = false →
      ∃ now exited launch, op = .reconcileManagedAgent now exited ∧
        lastLaunch ops = some launch ∧ launch.readyAfter ≤ now ∧ now < launch.deadline ∧
          s.effectiveKnownAgent = some launch.kind ∧ (s.state = .idle ∨ s.state = .blocked)
  expired : ∀ now exited launch, op = .reconcileManagedAgent now exited →
    lastLaunch ops = some launch → launch.deadline ≤ now →
      (s.step op).managedAgentLaunchPending = false
  cleared : s.managedAgent.isSome = true →
    (s.step op).managedAgent = none ∨ (s.step op).agentName = none →
      (s.step op).agentName = none ∧ (s.step op).agentNameOwner = none ∧
        (s.step op).managedAgent = none

theorem launchPending_iff : s.managedAgentLaunchPending = true ↔
  ∃ kind readyAfter deadline observed,
    s.managedAgent = some ⟨kind, .pending readyAfter deadline observed⟩ := by
  unfold managedAgentLaunchPending
  constructor
  · intro hPending
    split at hPending
    next kind readyAfter deadline observed hManaged => exact ⟨_, _, _, _, hManaged⟩
    next => cases hPending
  · rintro ⟨_, _, _, _, hManaged⟩
    rw [hManaged]

theorem not_interactiveReady_of_pending (hPending : s.managedAgentLaunchPending = true) :
  s.managedAgentInteractiveReady = false := by
  obtain ⟨_, _, _, _, hManaged⟩ := launchPending_iff.1 hPending
  unfold managedAgentInteractiveReady
  rw [hManaged]

theorem not_interactiveReady_of_none (hManaged : s.managedAgent = none) :
  s.managedAgentInteractiveReady = false := by
  unfold managedAgentInteractiveReady
  rw [hManaged]

/-- A pending launch becomes active only while it is reconciled, in time and with its agent. -/
theorem activated_step (hLaunched : Launched ops s)
  (hTimes : (reconcileTimes (ops ++ [op])).Pairwise (· ≤ ·))
  (hPending : s.managedAgentLaunchPending = true)
  (hReady : (s.step op).managedAgentInteractiveReady = true) (hOther : op.restores = false) :
  ∃ now exited launch, op = .reconcileManagedAgent now exited ∧
    lastLaunch ops = some launch ∧ launch.readyAfter ≤ now ∧ now < launch.deadline ∧
      s.effectiveKnownAgent = some launch.kind ∧ (s.state = .idle ∨ s.state = .blocked) := by
  cases hManages : TerminalOp.manages op with
  | false =>
    exfalso
    obtain hSame | hCleared := managed_step (s := s) hManages
    · have hStill : (s.step op).managedAgentLaunchPending = true := by
        unfold managedAgentLaunchPending at hPending ⊢
        rwa [hSame]
      exact Bool.false_ne_true ((not_interactiveReady_of_pending hStill).symm.trans hReady)
    · have hNone : (s.step op).managedAgent = none := congrArg managed hCleared
      exact Bool.false_ne_true ((not_interactiveReady_of_none hNone).symm.trans hReady)
  | true =>
    cases op with
    | beginManagedAgent => cases hReady
    | restoreManagedAgent => cases hOther
    | reconcileManagedAgent now exited =>
      have hReconciled := s.reconcileManagedAgentAt_reconciled now exited
      change (s.reconcileManagedAgentAt now exited).1.managedAgentInteractiveReady = true
        at hReady
      generalize (s.reconcileManagedAgentAt now exited).1 = t at *
      cases hReconciled with
      | kept =>
        exact absurd ((not_interactiveReady_of_pending hPending).symm.trans hReady)
          Bool.false_ne_true
      | cleared => cases hReady
      | waiting => cases hReady
      | activated hManaged hSettled hOpen hKnown hState =>
        obtain ⟨launch, hLast, rfl, rfl, hAfter⟩ := hLaunched _ _ _ _ hManaged
        refine ⟨now, exited, launch, rfl, hLast, ?_, hOpen, hKnown, hState⟩
        obtain hSome | ⟨_, time, hMem, hTime⟩ := hAfter
        · exact hSettled _ hSome
        · rw [reconcileTimes_concat] at hTimes
          exact hTime.trans ((List.pairwise_append.1 hTimes).2.2 time hMem now (by
            simp [TerminalOp.reconcileTime]))
    | _ => cases hManages

/-- At the deadline a launch is not pending any more. -/
theorem expired_step (hLaunched : Launched ops s) {exited : Bool} {launch : Launch}
  (hLast : lastLaunch ops = some launch) (hDeadline : launch.deadline ≤ now) :
  (s.step (.reconcileManagedAgent now exited)).managedAgentLaunchPending = false := by
  have hOver : ∀ kind readyAfter deadline observed,
      s.managedAgent = some ⟨kind, .pending readyAfter deadline observed⟩ → ¬ now < deadline := by
    intro kind readyAfter deadline observed hManaged
    obtain ⟨other, hOther, _, rfl, _⟩ := hLaunched kind readyAfter deadline observed hManaged
    obtain rfl := Option.some.inj (hLast.symm.trans hOther)
    exact Nat.not_lt.2 hDeadline
  have hReconciled := s.reconcileManagedAgentAt_reconciled now exited
  change (s.reconcileManagedAgentAt now exited).1.managedAgentLaunchPending = false
  generalize (s.reconcileManagedAgentAt now exited).1 = t at *
  cases hReconciled with
  | kept hOpen =>
    rw [Bool.eq_false_iff]
    intro hPending
    obtain ⟨_, _, _, _, hManaged⟩ := launchPending_iff.1 hPending
    exact hOver _ _ _ _ hManaged (hOpen _ _ _ _ hManaged)
  | cleared => rfl
  | activated => rfl
  | waiting hManaged hOpen => exact absurd hOpen (hOver _ _ _ _ hManaged)

/-- A launch that is gone has gone with its name and the owner of the name. -/
theorem cleared_step (hNamed : (s.step op).naming.Named) (hManaged : s.managedAgent.isSome = true)
  (hGone : (s.step op).managedAgent = none ∨ (s.step op).agentName = none) :
  (s.step op).agentName = none ∧ (s.step op).agentNameOwner = none ∧
    (s.step op).managedAgent = none := by
  have hNone : (s.step op).managedAgent = none := by
    obtain hNone | hName := hGone
    · exact hNone
    · by_contra hSome
      have hIsSome := hNamed (Option.isSome_iff_ne_none.2 hSome)
      exact absurd (hIsSome.symm.trans (congrArg Option.isSome hName)) (by decide)
  have hCleared : (s.step op).naming = ⟨none, none, none⟩ := by
    cases hManages : TerminalOp.manages op with
    | false =>
      obtain hSame | hCleared := managed_step (s := s) hManages
      · rw [← hSame, hNone] at hManaged
        cases hManaged
      · exact hCleared
    | true =>
      cases op with
      | beginManagedAgent | restoreManagedAgent => cases hNone
      | reconcileManagedAgent now exited =>
        obtain hCleared | ⟨managed, hNaming, hSame⟩ := naming_reconcileManagedAgentAt
          (s.reconcileManagedAgentAt_reconciled now exited)
        · exact hCleared
        · obtain rfl : none = managed := hNone.symm.trans (congrArg AgentNaming.managed hNaming)
          exact absurd (hSame.1 hManaged) Bool.false_ne_true
      | _ => cases hManages
  exact ⟨congrArg name hCleared, congrArg owner hCleared,
    congrArg managed hCleared⟩

/-- In every run in which no report takes the name of a launch away and no name is empty, the
launch keeps its name, becomes active only when it may, is over at its deadline, and goes together
with its name. -/
theorem launchKept_run (run : Run (restrict (ofFunction step) KeepsName) new ops s)
  (hKeeps : KeepsName s op) (hTimes : (reconcileTimes (ops ++ [op])).Pairwise (· ≤ ·)) :
  LaunchKept ops s op := by
  have hNamed : s.naming.Named := by
    refine @Run.preserves _ _ _ (fun u => u.naming.Named) _ _ _ run named_cleared ?_
    rintro u label _ hNamed ⟨rfl, hLabel⟩
    exact (named_step_iff hNamed).2 hLabel
  have hLaunched : Launched ops s := by
    refine run.preserves_history (launched_of_none rfl) ?_
    rintro history u label _ hLaunched ⟨rfl, _⟩
    exact launched_step hLaunched
  refine ⟨hNamed, activated_step hLaunched hTimes, ?_, ?_⟩
  · rintro now exited launch rfl hLast hDeadline
    exact expired_step hLaunched hLast hDeadline
  · exact cleared_step ((named_step_iff hNamed).2 hKeeps)

/-- Claude is launched and seen idle. -/
def claudeLaunch : List TerminalOp :=
  [.beginManagedAgent "reviewer" .claude 0 5 60,
    .detection ⟨some .claude, .idle, false, false, false, false⟩ 3 3]

theorem launchKept_run_claude :
  LaunchKept claudeLaunch (claudeLaunch.foldl step new) (.reconcileManagedAgent 5 false) :=
  launchKept_run (run_of_allowedAlong (by decide)) (by decide) (by decide)

/-- The session of another agent takes the name of the launch away, and the launch goes on
without it. -/
theorem not_launchKept_run :
  ¬ ∀ (ops : List TerminalOp) (s : TerminalState) (op : TerminalOp), Runs new ops s →
    (reconcileTimes (ops ++ [op])).Pairwise (· ≤ ·) → LaunchKept ops s op := by
  intro hKept
  have hRun := (run_ofFunction_iff step).2 (@rfl _ ([.beginManagedAgent "reviewer" .claude 0 5 60,
    .sessionStart ⟨"custom", "codex", some ⟨.id, "a"⟩, none, none⟩ 1 1,
    .reconcileManagedAgent 2 false].foldl step new))
  have hNamed := (hKept _ _ (.reconcileManagedAgent 3 false) hRun (by decide)).named (by decide)
  exact absurd hNamed (by decide)

end TerminalState

end Terminal
