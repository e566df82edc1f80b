import VimeflowTerminal.Terminal.EffectiveState

/-! The name of an agent, its owner and the managed launch are changed by few operations. Reports of
agents reach them only as a list of labels and sessions. -/

namespace Terminal

open Detect AgentResume Transition

/-- The name, its owner and the launch of a terminal. -/
structure AgentNaming where
  name : Option String
  owner : Option AgentNameOwner
  managed : Option ManagedAgent
  deriving DecidableEq

/-- An agent, as a report names it to the owner of the name. -/
structure OwnerReport where
  agentLabel : String
  sessionRef : Option AgentSessionRef
  deriving DecidableEq

namespace AgentNaming

/-- The report is about the agent that was launched. -/
def ours (n : AgentNaming) (report : OwnerReport) : Bool :=
  n.managed.any fun managed => parseAgentLabel report.agentLabel == some managed.kind

/-- The report is about an agent or a session that does not own the name. -/
def foreign (n : AgentNaming) (report : OwnerReport) : Bool :=
  n.owner.any fun owner =>
    decide (owner.agentLabel ≠ report.agentLabel ∨
      (owner.sessionRef.isSome ∧ report.sessionRef.isSome ∧ owner.sessionRef ≠ report.sessionRef))

/-- The owner of a name that a report leaves in place learns the agent and its session. -/
def learnedOwner (n : AgentNaming) (report : OwnerReport) : AgentNameOwner :=
  match n.owner with
  | none => { agentLabel := report.agentLabel, sessionRef := report.sessionRef }
  | some owner => { owner with sessionRef := owner.sessionRef.or report.sessionRef }

def reported (n : AgentNaming) (report : OwnerReport) : AgentNaming :=
  if n.name.isNone || n.ours report then n
  else if n.foreign report then { n with name := none, owner := none }
  else { n with owner := some (n.learnedOwner report) }

/-- The report takes the name of a launch that it is not about. -/
def orphans (n : AgentNaming) (report : OwnerReport) : Bool :=
  n.name.isSome && n.managed.isSome && !n.ours report && n.foreign report

/-- None of the reports takes the name of the launch. -/
def Unorphaned (n : AgentNaming) (reports : List OwnerReport) : Prop :=
  AllowedAlong reported (fun n report => n.orphans report = false) n reports

instance (n : AgentNaming) (reports : List OwnerReport) : Decidable (n.Unorphaned reports) :=
  inferInstanceAs (Decidable (AllowedAlong ..))

/-- There is a launch only while there is a name. -/
def Named (n : AgentNaming) : Prop := n.managed.isSome = true → n.name.isSome = true

variable {n : AgentNaming} {report : OwnerReport}

@[simp] theorem managed_reported : (n.reported report).managed = n.managed := by
  unfold reported
  split
  · rfl
  · split <;> rfl

theorem name_reported_of_none (hName : n.name = none) : n.reported report = n := by
  simp [reported, hName]

theorem named_reported_iff (hNamed : n.Named) :
  (n.reported report).Named ↔ n.orphans report = false := by
  unfold Named at *
  rw [managed_reported]
  cases hManaged : n.managed with
  | none => simp [orphans, hManaged]
  | some managed =>
    obtain ⟨name, hName⟩ := Option.isSome_iff_exists.1 (hNamed (by rw [hManaged]; rfl))
    unfold reported orphans
    rw [hName, hManaged]
    cases n.ours report with
    | true => simp [hName]
    | false =>
      cases n.foreign report with
      | true => simp
      | false => simp

/-- A name that is taken from its launch is not given back by reports. -/
theorem named_of_named_foldl {reports : List OwnerReport}
  (hNamed : (reports.foldl reported n).Named) : n.Named := by
  induction reports generalizing n with
  | nil => exact hNamed
  | cons report reports ih =>
    have hNext := ih hNamed
    intro hManaged
    have hName := hNext (by rw [managed_reported]; exact hManaged)
    by_contra hNone
    rw [name_reported_of_none (Option.not_isSome_iff_eq_none.1 hNone)] at hName
    exact hNone hName

theorem named_foldl_iff {reports : List OwnerReport} (hNamed : n.Named) :
  (reports.foldl reported n).Named ↔ n.Unorphaned reports := by
  induction reports generalizing n with
  | nil => exact iff_of_true hNamed trivial
  | cons report reports ih =>
    constructor
    · intro hAll
      have hNext : (n.reported report).Named := named_of_named_foldl hAll
      exact ⟨(named_reported_iff hNamed).1 hNext, (ih hNext).1 hAll⟩
    · rintro ⟨hKept, hRest⟩
      exact (ih ((named_reported_iff hNamed).2 hKept)).2 hRest

@[simp] theorem managed_foldl (reports : List OwnerReport) :
  (reports.foldl reported n).managed = n.managed := by
  induction reports generalizing n with
  | nil => rfl
  | cons report reports ih => exact ih.trans managed_reported

end AgentNaming

namespace TerminalState

def naming (s : TerminalState) : AgentNaming where
  name := s.agentName
  owner := s.agentNameOwner
  managed := s.managedAgent

/-- The sessions that the detection of an agent validates. -/
def replacementReports (s : TerminalState) (previousDetectedAgent detectedAgent : Option Agent) :
  List OwnerReport :=
  match detectedAgent with
  | none => []
  | some detected =>
    if previousDetectedAgent = some detected then []
    else
      (s.validatedReplacementsOnDetection detected).map fun validated =>
        { agentLabel := validated.agentLabel, sessionRef := some validated.sessionRef }

/-- The detection passes the gates and is applied. -/
def appliesDetection (s : TerminalState) (detection : ScreenDetection) (now : Instant) : Bool :=
  !s.shouldIgnoreDetectedStateUnderFullLifecycleHook detection.agent detection.processExited &&
    !(!detection.processExited &&
      s.detectedStateObservedBeforeReleaseSuppression detection.agent now)

def detectionOwnerReports (s : TerminalState) (detection : ScreenDetection) (now : Instant) :
  List OwnerReport :=
  if s.appliesDetection detection now then
    (detection.agent.toList.map fun agent =>
        { agentLabel := agentLabel agent, sessionRef := none }) ++
      if detection.processExited then []
      else s.replacementReports (s.detectionPredecessor detection now) detection.agent
  else []

/-- How a report of a hook is admitted, if it passes all the checks. -/
def hookReportAdmission (s : TerminalState) (report : HookReport) (now : Instant) :
  Option HookReportAdmission :=
  if sessionIdentityOnlyIntegration report.source report.agentLabel then none
  else if !report.fullLifecycle && s.recentAgentProcessExit.any (fun exit =>
      parseAgentLabel report.agentLabel == some exit.agent) then none
  else
    match (s.routeFullLifecycleHookReport report now).2 with
    | .ignore => none
    | .accept reanchorSequence =>
      (s.admitHookReport report reanchorSequence).filter fun _ =>
        ((s.reanchorHookReportSequence report.source reanchorSequence).acceptHookReport
          report.source report.seq).2

def hookOwnerReports (s : TerminalState) (report : HookReport) (now : Instant) :
  List OwnerReport :=
  (s.hookReportAdmission report now).toList.map fun admission =>
    { agentLabel := report.agentLabel, sessionRef := admission.sessionRef }

/-- The sessions that a gated start validates where the process is there. -/
def gatedOwnerReports (s : TerminalState) (report : SessionStartReport)
  (sessionRef : AgentSessionRef) (now : Instant) : List OwnerReport :=
  let knownAgent := parseAgentLabel report.agentLabel
  if sessionStartSourceIsRecognized report.sessionStartSource && s.processPresent knownAgent then
    match report.seq with
    | none => []
    | some seq =>
      if s.sequenceIsStale report.source seq then []
      else (s.recordReplacementSession report sessionRef seq now).replacementReports none
        knownAgent
  else []

def sessionStartOwnerReports (s : TerminalState) (report : SessionStartReport) (now : Instant) :
  List OwnerReport :=
  match report.sessionRef with
  | none => []
  | some sessionRef =>
    if s.sessionStartIsGated report then s.gatedOwnerReports report sessionRef now
    else
      let (s, accepted) := s.acceptHookReport report.source report.seq
      if accepted && (s.admitSessionStart report sessionRef).isSome then
        [{ agentLabel := report.agentLabel, sessionRef := some sessionRef }]
      else []

variable (s : TerminalState)

theorem naming_reconcileAgentNameOwner (agentLabel : String) (sessionRef : Option AgentSessionRef) :
  (s.reconcileAgentNameOwner agentLabel sessionRef).naming =
    s.naming.reported { agentLabel, sessionRef } := by
  unfold reconcileAgentNameOwner AgentNaming.reported
  cases hName : s.agentName with
  | none => simp [naming, hName]
  | some name =>
    cases hOurs : s.naming.ours { agentLabel, sessionRef } with
    | true =>
      have hSame : (s.managedAgent.any fun managed =>
          parseAgentLabel agentLabel == some managed.kind) = true := hOurs
      simp [hSame]
    | false =>
      have hOther : (s.managedAgent.any fun managed =>
          parseAgentLabel agentLabel == some managed.kind) = false := hOurs
      simp only [hOther, Option.isNone_some, Bool.false_eq_true, if_false]
      cases hOwner : s.agentNameOwner with
      | none => simp [naming, AgentNaming.foreign, AgentNaming.learnedOwner, hName, hOwner]
      | some owner =>
        have hForeign : s.naming.foreign { agentLabel, sessionRef } =
            decide (owner.agentLabel ≠ agentLabel ∨
              (owner.sessionRef.isSome ∧ sessionRef.isSome ∧
                owner.sessionRef ≠ sessionRef)) := by
          simp only [naming, AgentNaming.foreign, hOwner, Option.any_some]
        rw [hForeign]
        dsimp only
        split
        case isTrue hTaken => simp [naming, hName, hTaken]
        case isFalse hKept =>
          obtain ⟨label, ownerRef⟩ := owner
          cases ownerRef with
          | none =>
            cases sessionRef with
            | none => simp_all [naming, AgentNaming.learnedOwner]
            | some sessionRef => simp_all [naming, AgentNaming.learnedOwner]
          | some ownerRef => simp_all [naming, AgentNaming.learnedOwner]

theorem naming_clearAgentName : s.clearAgentName.naming = ⟨none, none, none⟩ := rfl

theorem naming_recompute (previous : Previous) (now : Instant) :
  (s.recomputeEffectiveState previous now).1.naming = s.naming := by
  obtain ⟨_, _, hEq⟩ := s.recomputeEffectiveState_eq previous now
  rw [hEq]
  rfl

theorem ignores_naming : IgnoresArbitration naming :=
  ⟨⟨fun _ _ => rfl, fun _ _ => rfl⟩, fun _ _ _ => rfl, fun _ _ _ _ _ _ => rfl⟩

theorem ignoresSequences_naming : IgnoresSequences naming := fun _ _ => rfl

theorem naming_installValidatedReplacement (validated : ValidatedReplacement) :
  (s.installValidatedReplacement validated).naming = s.naming.reported
    { agentLabel := validated.agentLabel, sessionRef := some validated.sessionRef } := by
  have hReported := naming_reconcileAgentNameOwner
    (s.forgetStaleFullLifecycleHookSession validated.source validated.agentLabel
      validated.sessionRef) validated.agentLabel (some validated.sessionRef)
  rw [ignores_naming.forgetStale] at hReported
  unfold installValidatedReplacement
  split <;> exact hReported

theorem naming_foldl_installValidatedReplacement (validated : List ValidatedReplacement) :
  (validated.foldl installValidatedReplacement s).naming =
    (validated.map fun validated =>
      ({ agentLabel := validated.agentLabel, sessionRef := some validated.sessionRef } :
        OwnerReport)).foldl AgentNaming.reported s.naming := by
  rw [List.foldl_map]
  exact (List.foldl_hom naming fun _ _ => (naming_installValidatedReplacement _ _).symm).symm

/-- The sessions that a detection validates are reported one after the other. -/
theorem naming_clearFullLifecycleHookSuppression
  (previousDetectedAgent detectedAgent : Option Agent) :
  (s.clearFullLifecycleHookSuppressionForDetectedAgent previousDetectedAgent
    detectedAgent).naming =
      (s.replacementReports previousDetectedAgent detectedAgent).foldl AgentNaming.reported
        s.naming := by
  unfold clearFullLifecycleHookSuppressionForDetectedAgent replacementReports
  cases detectedAgent with
  | none => rfl
  | some detected =>
    dsimp only
    split
    · rfl
    rw [naming_foldl_installValidatedReplacement]
    congr 1
    exact ignores_naming.rememberRetired _ _

theorem naming_adoptDetectedAgent (agent : Option Agent) :
  (s.adoptDetectedAgent agent).naming =
    (agent.toList.map fun agent =>
      ({ agentLabel := agentLabel agent, sessionRef := none } : OwnerReport)).foldl
        AgentNaming.reported s.naming := by
  cases agent with
  | none => rfl
  | some agent => exact naming_reconcileAgentNameOwner { s with detectedAgent := some agent } _ none

theorem validatedReplacements_adoptDetectedAgent (adopted : Option Agent) :
  (s.adoptDetectedAgent adopted).replacementReports = s.replacementReports := by
  have hNames : IgnoresNames replacementReports := fun _ _ _ _ => rfl
  cases adopted with
  | none => rfl
  | some agent => exact hNames.reconcile { s with detectedAgent := some agent } _ none

/-- An applied detection reports its agent and the sessions that it validates, or clears the name
with the agent that it releases. -/
theorem naming_applyDetection (detection : ScreenDetection) (now clock : Instant)
  (hApplies : s.appliesDetection detection now = true) :
  (s.applyDetection detection now clock).naming =
    if s.detectionReleasesAgent detection now then ⟨none, none, none⟩
    else (s.detectionOwnerReports detection now).foldl AgentNaming.reported s.naming := by
  have hExited : ∀ (t : TerminalState) agent newer,
      (t.applyProcessExit agent newer now).naming = t.naming := fun t agent newer =>
    ignores_naming.processExit t ignoresSequences_naming (fun _ _ _ _ _ => rfl) agent newer now
  unfold applyDetection detectionOwnerReports
  rw [hApplies]
  cases s.detectionReleasesAgent detection now with
  | true => simp only [if_true, naming_clearAgentName]
  | false =>
    simp only [Bool.false_eq_true, if_false, if_true, ignores_naming.superseded,
      List.foldl_append]
    cases hExits : detection.processExited with
    | true =>
      simp only [Bool.not_true, Bool.false_eq_true, if_false, if_true, hExited,
        ignores_naming.recordProcessExit]
      exact s.naming_adoptDetectedAgent detection.agent
    | false =>
      simp only [Bool.not_false, Bool.false_eq_true, if_false, if_true,
        ignores_naming.recordProcessExit]
      rw [← naming_adoptDetectedAgent, ← validatedReplacements_adoptDetectedAgent]
      exact naming_clearFullLifecycleHookSuppression _ _ _

theorem naming_detection (detection : ScreenDetection) (now clock : Instant) :
  (s.setDetectedStateWithScreenSignalsAt detection now clock).1.naming =
    if s.appliesDetection detection now && s.detectionReleasesAgent detection now then
      ⟨none, none, none⟩
    else (s.detectionOwnerReports detection now).foldl AgentNaming.reported s.naming := by
  unfold setDetectedStateWithScreenSignalsAt
  split
  case isTrue hIgnored =>
    have hApplies : s.appliesDetection detection now = false := by
      simp [appliesDetection, hIgnored]
    rw [finish_fst, naming_recompute, detectionOwnerReports, hApplies]
    split <;> rfl
  case isFalse hSeen =>
    split
    case isTrue hEarlier =>
      have hApplies : s.appliesDetection detection now = false := by
        simp only [appliesDetection, hEarlier, Bool.not_true, Bool.and_false]
      rw [finish_fst, naming_recompute, detectionOwnerReports, hApplies]
      rfl
    case isFalse hNew =>
      have hApplies : s.appliesDetection detection now = true := by
        simp only [appliesDetection, Bool.eq_false_iff.2 hSeen, Bool.eq_false_iff.2 hNew,
          Bool.not_false, Bool.and_true]
      rw [finish_fst, naming_recompute, s.naming_applyDetection detection now clock hApplies,
        hApplies, Bool.true_and]

theorem naming_installHookAuthority (report : HookReport) (admission : HookReportAdmission)
  (now clock : Instant) :
  (s.installHookAuthority report admission now clock).1.naming = s.naming.reported
    { agentLabel := report.agentLabel, sessionRef := admission.sessionRef } := by
  unfold installHookAuthority
  rw [finish_fst, naming_recompute, ← naming_reconcileAgentNameOwner]
  have hTaken : ∀ t : TerminalState,
      (if admission.foregroundTakeoverAllowed then
        t.suppressCurrentFullLifecycleHookAuthority .hookClear clock else t).naming = t.naming := by
    intro t
    split
    · exact ignores_naming.suppressCurrent t .hookClear clock
    · rfl
  have hLifted : ∀ t : TerminalState,
      (if admission.sessionRef.isSome || admission.reanchorSequence then
        t.liftSuppression report.source else t).naming = t.naming := by
    intro t
    split
    · exact ignores_naming.liftSuppression t report.source
    · rfl
  exact (hLifted _).trans (hTaken _)

theorem naming_routeFullLifecycleHookReport (report : HookReport) (now : Instant) :
  (s.routeFullLifecycleHookReport report now).1.naming = s.naming := by
  rcases s.route_cases report now with ⟨reanchor, hRoute⟩ | hRoute | ⟨_, _, _, hRoute⟩
  · rw [hRoute now]
  · rw [hRoute]
  · rw [hRoute]
    rfl

/-- A report of a hook reaches the name where it passes all the checks. -/
theorem naming_hookReport (report : HookReport) (now clock : Instant) :
  (s.setHookAuthorityAt report now clock).1.naming =
    (s.hookOwnerReports report now).foldl AgentNaming.reported s.naming := by
  have hRouted := s.naming_routeFullLifecycleHookReport report now
  unfold setHookAuthorityAt hookOwnerReports hookReportAdmission
  split
  · rfl
  split
  · rfl
  rcases s.route_cases report now with ⟨reanchor, hRoute⟩ | hRoute | ⟨_, _, _, hRoute⟩
  · rw [hRoute now]
    dsimp only
    cases s.admitHookReport report reanchor with
    | none => rfl
    | some admission =>
      have hNaming : ((s.reanchorHookReportSequence report.source reanchor).acceptHookReport
          report.source report.seq).1.naming = s.naming := by
        rw [ignoresSequences_naming.accept, ignoresSequences_naming.reanchor]
      generalize (s.reanchorHookReportSequence report.source reanchor).acceptHookReport
        report.source report.seq = result at *
      obtain ⟨sequenced, accepted⟩ := result
      cases accepted with
      | false => exact hNaming
      | true =>
        refine (sequenced.naming_installHookAuthority report admission now clock).trans ?_
        rw [hNaming]
        rfl
  · rw [hRoute]
    rfl
  · rw [hRoute] at hRouted ⊢
    exact hRouted

theorem naming_gatedSessionStart (report : SessionStartReport) (sessionRef : AgentSessionRef)
  (now : Instant) :
  (s.gatedSessionStart report sessionRef now).1.naming =
    (s.gatedOwnerReports report sessionRef now).foldl AgentNaming.reported s.naming := by
  unfold gatedSessionStart gatedOwnerReports
  dsimp only
  cases sessionStartSourceIsRecognized report.sessionStartSource with
  | false => rfl
  | true =>
    rw [Bool.true_and]
    cases report.seq with
    | none => cases s.processPresent (parseAgentLabel report.agentLabel) <;> rfl
    | some seq =>
      dsimp only
      rw [Bool.not_true, if_neg Bool.false_ne_true]
      split
      · split <;> rfl
      split
      · rw [finish_fst, naming_recompute, naming_clearFullLifecycleHookSuppression]
        rfl
      · rfl

theorem naming_installSessionStart (report : SessionStartReport) (sessionRef : AgentSessionRef)
  (admission : SessionStartAdmission) (now clock : Instant) :
  (s.installSessionStart report sessionRef admission now clock).1.naming = s.naming.reported
    { agentLabel := report.agentLabel, sessionRef := some sessionRef } := by
  unfold installSessionStart
  rw [finish_fst, naming_recompute]
  refine (naming_reconcileAgentNameOwner _ report.agentLabel (some sessionRef)).trans ?_
  congr 1
  have hForgotten : ∀ t : TerminalState,
      (if admission.sessionReplacementAllowed || admission.foregroundTakeoverAllowed then
        t.forgetStaleFullLifecycleHookSession report.source report.agentLabel sessionRef
      else t).naming = t.naming := by
    intro t
    split
    · exact ignores_naming.forgetStale t _ _ _
    · rfl
  cases admission.replacedHookSession with
  | some replaced => exact hForgotten s
  | none =>
    dsimp only
    split
    · exact (ignores_naming.suppressCurrent _ _ _).trans (hForgotten s)
    · exact hForgotten s

theorem naming_sessionStart (report : SessionStartReport) (now clock : Instant) :
  (s.setAgentSessionRefForSessionStart report now clock).1.naming =
    (s.sessionStartOwnerReports report now).foldl AgentNaming.reported s.naming := by
  unfold setAgentSessionRefForSessionStart sessionStartOwnerReports
  cases report.sessionRef with
  | none => rfl
  | some sessionRef =>
    dsimp only
    split
    · exact s.naming_gatedSessionStart report sessionRef now
    have hNaming := ignoresSequences_naming.accept s report.source report.seq
    generalize s.acceptHookReport report.source report.seq = result at *
    obtain ⟨sequenced, accepted⟩ := result
    cases accepted with
    | false => exact hNaming
    | true =>
      dsimp only
      cases sequenced.admitSessionStart report sessionRef with
      | none => exact hNaming
      | some admission =>
        refine (sequenced.naming_installSessionStart report sessionRef admission now
          clock).trans ?_
        rw [hNaming]
        rfl

theorem naming_giveUpAgent (source agentLabel : String) (clock : Instant) :
  (s.giveUpAgent source agentLabel clock).naming =
    if s.processOwnsAgent agentLabel then s.naming else ⟨none, none, none⟩ := by
  obtain ⟨_, hSuppressed⟩ := s.suppressFullLifecycleHookReport_eq source agentLabel
    .hookClear clock
  unfold giveUpAgent
  rw [hSuppressed]
  generalize Option.any _ s.persistedAgentSession = preserved
  cases s.processOwnsAgent agentLabel with
  | true => cases preserved <;> rfl
  | false => cases preserved <;> rfl

/-- A release gives up the name with the agent, and leaves both to a process that still runs. -/
theorem naming_release (source agentLabel : String) (seq : Option Nat) (now clock : Instant) :
  (s.releaseAgentWithMutation source agentLabel seq now clock).1.naming = s.naming ∨
    (s.releaseAgentWithMutation source agentLabel seq now clock).1.naming =
      ⟨none, none, none⟩ := by
  rcases s.releaseAgentWithMutation_cases source agentLabel seq now clock with
    hSame | ⟨t, changed, released, hPassed, hGiven⟩
  · rw [hSame]
    exact .inl rfl
  · have hNaming := ignoresSequences_naming.accept s source seq
    rw [hPassed] at hNaming
    rw [hGiven, Prod.map_fst, id_eq, finish_fst, naming_recompute, naming_giveUpAgent]
    split
    · exact .inl hNaming
    · exact .inr rfl

theorem naming_hookClear (source : Option String) (seq : Option Nat) (now clock : Instant) :
  (s.clearHookAuthorityWithMutation source seq now clock).1.naming = s.naming := by
  rcases s.clearHookAuthorityWithMutation_cases source seq now clock with
    hSame | ⟨speaker, t, changed, -, hPassed, hCleared⟩
  · rw [hSame]
  · have hNaming := ignoresSequences_naming.accept s speaker seq
    rw [hPassed] at hNaming
    rw [hCleared, Prod.map_fst, id_eq, finish_fst, naming_recompute]
    exact (ignores_naming.suppressCurrent _ .hookClear clock).trans hNaming

theorem naming_acceptMetadataReport (source : String) (seq : Option Nat) (includesTokens : Bool)
  (agent : Option Agent) :
  (s.acceptMetadataReport source seq includesTokens agent).1.naming = s.naming := by
  unfold acceptMetadataReport
  cases seq with
  | none => rfl
  | some seq =>
    dsimp only
    split
    · rfl
    · split <;> rfl

theorem naming_setAgentMetadata (report : AgentMetadataReport) (now : Instant) :
  (s.setAgentMetadata report now).1.naming = s.naming := by
  have hDropped : ∀ t : TerminalState, (t.dropExpiredMetadata report.source now).naming =
      t.naming := by
    intro t
    unfold dropExpiredMetadata
    split <;> rfl
  unfold setAgentMetadata
  split
  · rfl
  have hNaming := s.naming_acceptMetadataReport report.source report.seq false
    (metadataReportAgent report.source report.agentLabel report.appliesToSource)
  generalize s.acceptMetadataReport report.source report.seq false _ = result at *
  obtain ⟨accepted, fresh⟩ := result
  rw [← hNaming]
  split
  next hFresh =>
    cases hFresh
    have hFinished := naming_recompute
      (((accepted.dropExpiredMetadata report.source now).storeMetadata report
        now).armMetadataExpiry report)
      ((accepted.dropExpiredMetadata report.source now).previous now) now
    dsimp only
    split
    · exact hFinished.trans (hDropped accepted)
    · exact hFinished.trans (hDropped accepted)
  next hOther =>
    cases hOther
    rfl

theorem naming_expireAgentMetadataAt (scheduledDeadline now : Instant) :
  (s.expireAgentMetadataAt scheduledDeadline now).1.naming = s.naming := by
  unfold expireAgentMetadataAt
  dsimp only
  split
  · rfl
  · exact naming_recompute _ _ now

/-- The operations that are not about agents or names. -/
def TerminalOp.leavesNaming : TerminalOp → Bool
  | .hookClear .. | .persistSession _ | .metadata .. | .acceptMetadata .. | .expireMetadata ..
  | .terminalTitle _ | .manualLabel _ | .clearManualLabel | .launchArgv _ | .respawnShellOnExit
  | .pendingAgentResumePlan _ => true
  | _ => false

theorem naming_of_leaves {op : TerminalOp} (hLeaves : TerminalOp.leavesNaming op = true) :
  (s.step op).naming = s.naming := by
  cases op with
  | hookClear => exact s.naming_hookClear _ _ _ _
  | metadata report now => exact s.naming_setAgentMetadata report now
  | acceptMetadata => exact s.naming_acceptMetadataReport _ _ _ _
  | expireMetadata => exact s.naming_expireAgentMetadataAt _ _
  | terminalTitle title =>
    show (s.setTerminalTitle title).1.naming = _
    unfold setTerminalTitle
    split
    · rfl
    · dsimp only
      split <;> rfl
  | persistSession | clearManualLabel | launchArgv | respawnShellOnExit
  | pendingAgentResumePlan => rfl
  | manualLabel label =>
    show (s.setManualLabel label).naming = _
    simp only [setManualLabel, naming]
  | _ => cases hLeaves

end TerminalState

end Terminal
