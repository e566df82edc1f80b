import VimeflowTerminal.Terminal.Sessions

/-! A hook integration reports the state of its agent. The report is routed
(accepted, ignored, or kept until process evidence arrives), admitted against
the current session owner, checked against the sequence table, and installed
as the hook authority. -/

namespace Terminal

open Detect AgentResume

structure HookReport where
  source : String
  agentLabel : String
  state : AgentState
  message : Option String
  sessionRef : Option AgentSessionRef
  seq : Option Nat
  deriving DecidableEq

/-- The authority a report is recorded as, under the given session. -/
def HookReport.authority (report : HookReport) (sessionRef : Option AgentSessionRef)
  (reportedAt : Instant) : HookAuthority where
  source := report.source
  agentLabel := report.agentLabel
  state := report.state
  message := report.message
  reportedAt := reportedAt
  sessionRef := sessionRef

/-- The report comes from a full lifecycle integration. -/
def HookReport.fullLifecycle (report : HookReport) : Bool :=
  fullLifecycleHookAuthority report.source report.agentLabel

namespace TerminalState

/-- The source has already used this sequence number or a later one. -/
def sequenceIsStale (s : TerminalState) (source : String) (seq : Nat) : Bool :=
  (s.hookReportSequences.lookup source).any fun last => seq ≤ last

def acceptHookReport (s : TerminalState) (source : String) (seq : Option Nat) :
  TerminalState × Bool :=
  match seq with
  | none => (s, !s.hookReportSequences.contains source)
  | some seq =>
    if s.sequenceIsStale source seq then (s, false)
    else ({ s with hookReportSequences := s.hookReportSequences.insert source seq }, true)

/-- The report continues the session the source is already anchored to. -/
def sessionAnchored (s : TerminalState) (report : HookReport) : Bool :=
  (((s.hookAuthority.filter fun authority =>
      authority.source == report.source && authority.agentLabel == report.agentLabel).bind
        HookAuthority.sessionRef).or
    ((s.persistedAgentSession.filter fun session =>
      session.source == report.source && session.agent == report.agentLabel).map
        PersistedAgentSession.sessionRef)).any fun anchored =>
    report.sessionRef.all fun incoming => incoming == anchored

/-- What a suppressed source decides about a report. A cleared hook only
listens to a session other than the one it was cleared with. -/
def suppressionRoute (s : TerminalState) (report : HookReport) :
  Option FullLifecycleHookReportRoute :=
  match s.suppressedFullLifecycleHookReports.lookup report.source with
  | none => none
  | some suppressed =>
    if suppressed.agentLabel ≠ report.agentLabel then some .ignore
    else if suppressed.reason = .hookClear then
      if suppressed.sessionRef.isSome ∧ report.sessionRef.isSome ∧
          suppressed.sessionRef ≠ report.sessionRef then
        some (.accept true)
      else some .ignore
    else none

/-- Keep the report until a session start and a detection confirm its process. -/
def bufferFullLifecycleHookReport (s : TerminalState) (report : HookReport)
  (sessionRef : AgentSessionRef) (seq : Nat) (reportedAt : Instant) : TerminalState :=
  let previousSessionRef := (s.persistedAgentSession.filter fun session =>
    session.source == report.source && session.agent == report.agentLabel).map
      PersistedAgentSession.sessionRef
  let suppressed := (s.suppressedFullLifecycleHookReports.lookup report.source).getD
    { agentLabel := report.agentLabel
      sessionRef := previousSessionRef
      observedAt := reportedAt
      reason := .processExit
      replacementSessionRef := none
      pendingReplacementReport := none }
  let replacePending := suppressed.pendingReplacementReport.all fun pending => pending.seq < seq
  { s with
    suppressedFullLifecycleHookReports :=
      s.suppressedFullLifecycleHookReports.insert report.source
        (if replacePending then
          { suppressed with
            pendingReplacementReport :=
              some { authority := report.authority (some sessionRef) reportedAt, seq } }
        else suppressed) }

def routeFullLifecycleHookReport (s : TerminalState) (report : HookReport)
  (reportedAt : Instant) : TerminalState × FullLifecycleHookReportRoute :=
  if !report.fullLifecycle then (s, .accept false)
  else if s.fullLifecycleHookReportMatchesStaleSession report.source report.agentLabel
      report.sessionRef then (s, .ignore)
  else
    match s.suppressionRoute report with
    | some route => (s, route)
    | none =>
      if s.processPresent (parseAgentLabel report.agentLabel) && s.sessionAnchored report &&
          (s.suppressedFullLifecycleHookReports.lookup report.source).isNone then
        (s, .accept (s.fullLifecycleHookReportHasFreshSessionAfterStaleSession report.source
          report.agentLabel report.sessionRef))
      else
        match report.sessionRef, report.seq with
        | some sessionRef, some seq =>
          if s.sequenceIsStale report.source seq then (s, .ignore)
          else (s.bufferFullLifecycleHookReport report sessionRef seq reportedAt, .ignore)
        | _, _ => (s, .ignore)

def liveFullLifecycleHookAuthorityConflictsWithSession (s : TerminalState)
  (source agentLabel : String) (sessionRef : Option AgentSessionRef) : Bool :=
  s.hookAuthority.any fun authority =>
    fullLifecycleHookAuthority authority.source authority.agentLabel &&
      (authority.source == source && authority.agentLabel == agentLabel) &&
        authority.sessionRef.any fun current =>
          sessionRef.any fun incoming => current != incoming

structure HookReportAdmission where
  reanchorSequence : Bool
  foregroundTakeoverAllowed : Bool
  sessionRef : Option AgentSessionRef

/-- The session an admitted report is recorded under. -/
def recordedSessionRef (s : TerminalState) (report : HookReport) : Option AgentSessionRef :=
  report.sessionRef.map fun sessionRef =>
    if s.lifecycleHookReportReplacesPersistedSession report.source report.agentLabel sessionRef then
      sessionRef
    else
      (s.conflictingSameOwnerSessionRef report.source report.agentLabel sessionRef none).getD
        sessionRef

def admitHookReport (s : TerminalState) (report : HookReport) (reanchorSequence : Bool) :
  Option HookReportAdmission :=
  if s.knownAgentLabelConflictsWithDetectedAgent report.agentLabel then none
  else
    let ownerConflicts := s.currentSessionOwnerConflicts report.source report.agentLabel
    let foregroundTakeoverAllowed := ownerConflicts &&
      s.foregroundAgentConfirmsHookAuthorityTakeover report.source report.agentLabel
        report.sessionRef
    if ownerConflicts && !foregroundTakeoverAllowed then none
    else
      let sessionRef := s.recordedSessionRef report
      if s.liveFullLifecycleHookAuthorityConflictsWithSession report.source report.agentLabel
          sessionRef then none
      else some { reanchorSequence, foregroundTakeoverAllowed, sessionRef }

def reanchorHookReportSequence (s : TerminalState) (source : String) (reanchorSequence : Bool) :
  TerminalState :=
  if reanchorSequence then
    { s with hookReportSequences := s.hookReportSequences.remove source }
  else s

/-- Lift the suppression of a source; the session it was suppressed with is stale. -/
def liftSuppression (s : TerminalState) (source : String) : TerminalState :=
  match s.suppressedFullLifecycleHookReports.lookup source with
  | none => s
  | some suppressed =>
    let s := { s with
      suppressedFullLifecycleHookReports := s.suppressedFullLifecycleHookReports.erase source }
    match suppressed.sessionRef with
    | none => s
    | some suppressedRef =>
      s.rememberStaleFullLifecycleHookSession source suppressed.agentLabel suppressedRef

theorem liftSuppression_eq (s : TerminalState) (source : String) :
  ∃ suppressed stale, s.liftSuppression source =
    { s with
      suppressedFullLifecycleHookReports := suppressed
      staleFullLifecycleHookSessions := stale } := by
  unfold liftSuppression
  split
  · exact ⟨s.suppressedFullLifecycleHookReports, s.staleFullLifecycleHookSessions, rfl⟩
  split
  · exact ⟨_, s.staleFullLifecycleHookSessions, rfl⟩
  · exact ⟨_, _, rfl⟩

def installHookAuthority (s : TerminalState) (report : HookReport)
  (admission : HookReportAdmission) (now clock : Instant) :
  TerminalState × TerminalStateMutation :=
  let previous := s.previous now
  let previousSession := s.currentSessionIdentityForPersistence
  let s := s.reconcileAgentNameOwner report.agentLabel admission.sessionRef
  let s := if admission.foregroundTakeoverAllowed then
      s.suppressCurrentFullLifecycleHookAuthority .hookClear clock
    else s
  let s := if admission.sessionRef.isSome || admission.reanchorSequence then
      s.liftSuppression report.source
    else s
  let s := { s with
    persistedAgentSession := none
    hookAuthority := some (report.authority admission.sessionRef now) }
  s.finish previous now
    (decide (previousSession ≠ s.currentSessionIdentityForPersistence)) false

/-- `clock` is the time read while a foreground takeover suppresses the old authority. -/
def setHookAuthorityAt (s : TerminalState) (report : HookReport) (now clock : Instant) :
  TerminalState × Option TerminalStateMutation :=
  if sessionIdentityOnlyIntegration report.source report.agentLabel then (s, none)
  else if !report.fullLifecycle && s.recentAgentProcessExit.any (fun exit =>
      parseAgentLabel report.agentLabel == some exit.agent) then (s, none)
  else
    match s.routeFullLifecycleHookReport report now with
    | (s, .ignore) => (s, none)
    | (s, .accept reanchorSequence) =>
      match s.admitHookReport report reanchorSequence with
      | none => (s, none)
      | some admission =>
        let s := s.reanchorHookReportSequence report.source reanchorSequence
        match s.acceptHookReport report.source report.seq with
        | (s, false) => (s, none)
        | (s, true) =>
          let (s, mutation) := s.installHookAuthority report admission now clock
          (s, some mutation)

/-- The conditions under which a report is buffered. -/
structure Buffers (s : TerminalState) (report : HookReport) (sessionRef : AgentSessionRef)
  (seq : Nat) : Prop where
  fullLifecycle : report.fullLifecycle = true
  notStale : s.fullLifecycleHookReportMatchesStaleSession report.source report.agentLabel
    report.sessionRef = false
  session : report.sessionRef = some sessionRef
  sequenced : report.seq = some seq
  fresh : s.sequenceIsStale report.source seq = false
  suppression : ∀ suppressed,
    s.suppressedFullLifecycleHookReports.lookup report.source = some suppressed →
      suppressed.agentLabel = report.agentLabel ∧ suppressed.reason = .processExit

/-- The conditions under which a report is accepted. -/
structure Accepts (s : TerminalState) (report : HookReport) (admission : HookReportAdmission) :
  Prop where
  notIdentityOnly : sessionIdentityOnlyIntegration report.source report.agentLabel = false
  notExited : report.fullLifecycle = false →
    s.recentAgentProcessExit.any (fun exit =>
      parseAgentLabel report.agentLabel == some exit.agent) = false
  route : ∀ reportedAt, s.routeFullLifecycleHookReport report reportedAt =
    (s, .accept admission.reanchorSequence)
  admitted : s.admitHookReport report admission.reanchorSequence = some admission
  sequence : ((s.reanchorHookReportSequence report.source
    admission.reanchorSequence).acceptHookReport report.source report.seq).2 = true

/-- The three things a hook state report can do. -/
inductive HookReportOutcome (s : TerminalState) (report : HookReport) (now clock : Instant) :
  TerminalState × Option TerminalStateMutation → Prop where
  | rejected : HookReportOutcome s report now clock (s, none)
  | buffered (sessionRef : AgentSessionRef) (seq : Nat) (hBuffers : Buffers s report sessionRef seq) :
      HookReportOutcome s report now clock
        (s.bufferFullLifecycleHookReport report sessionRef seq now, none)
  | accepted (admission : HookReportAdmission) (hAccepts : Accepts s report admission)
      (sequenced : TerminalState)
      (hSequenced : sequenced = ((s.reanchorHookReportSequence report.source
        admission.reanchorSequence).acceptHookReport report.source report.seq).1) :
      HookReportOutcome s report now clock
        ((sequenced.installHookAuthority report admission now clock).1,
          some (sequenced.installHookAuthority report admission now clock).2)

/-- A suppression that routes nothing is a process exit of the same agent. -/
theorem suppression_of_route_none {s : TerminalState} {report : HookReport}
  (hRoute : s.suppressionRoute report = none) {suppressed : SuppressedFullLifecycleHookReport}
  (hEntry : s.suppressedFullLifecycleHookReports.lookup report.source = some suppressed) :
  suppressed.agentLabel = report.agentLabel ∧ suppressed.reason = .processExit := by
  unfold suppressionRoute at hRoute
  rw [hEntry] at hRoute
  dsimp only at hRoute
  split at hRoute
  · simp at hRoute
  next hLabel =>
    refine ⟨by simpa using hLabel, ?_⟩
    cases hReason : suppressed.reason with
    | processExit => rfl
    | hookClear =>
      rw [hReason] at hRoute
      simp only [if_true] at hRoute
      split at hRoute <;> simp at hRoute

/-- Routing accepts without touching the state, or ignores and at most buffers. -/
theorem route_cases (s : TerminalState) (report : HookReport) (reportedAt : Instant) :
  (∃ reanchor, ∀ time, s.routeFullLifecycleHookReport report time = (s, .accept reanchor)) ∨
    s.routeFullLifecycleHookReport report reportedAt = (s, .ignore) ∨
    ∃ sessionRef seq, Buffers s report sessionRef seq ∧
      s.routeFullLifecycleHookReport report reportedAt =
        (s.bufferFullLifecycleHookReport report sessionRef seq reportedAt, .ignore) := by
  unfold routeFullLifecycleHookReport
  cases hFull : report.fullLifecycle with
  | false => exact Or.inl ⟨false, fun _ => by simp⟩
  | true =>
    cases hStale : s.fullLifecycleHookReportMatchesStaleSession report.source report.agentLabel
        report.sessionRef with
    | true => exact Or.inr (Or.inl (by simp))
    | false =>
      cases hSuppression : s.suppressionRoute report with
      | some route =>
        cases route with
        | accept reanchor => exact Or.inl ⟨reanchor, fun _ => by simp⟩
        | ignore => exact Or.inr (Or.inl (by simp))
      | none =>
        by_cases hAnchored : (s.processPresent (parseAgentLabel report.agentLabel) &&
            s.sessionAnchored report &&
            (s.suppressedFullLifecycleHookReports.lookup report.source).isNone) = true
        · exact Or.inl ⟨_, fun _ => by simp [hAnchored]; rfl⟩
        cases hSession : report.sessionRef with
        | none => exact Or.inr (Or.inl (by simp [hAnchored]))
        | some sessionRef =>
          cases hSeq : report.seq with
          | none => exact Or.inr (Or.inl (by simp [hAnchored]))
          | some seq =>
            cases hFresh : s.sequenceIsStale report.source seq with
            | true => exact Or.inr (Or.inl (by simp [hAnchored, hFresh]))
            | false =>
              refine Or.inr (Or.inr ⟨sessionRef, seq, ?_, ?_⟩)
              · exact ⟨hFull, hStale, hSession, hSeq, hFresh,
                  fun _ hEntry => suppression_of_route_none hSuppression hEntry⟩
              · simp [hAnchored, hFresh]

/-- A report that fails the sequence check leaves the state alone: a
reanchored report has no previous sequence and always passes. -/
theorem acceptHookReport_reanchored (s : TerminalState) (source : String) (seq : Option Nat)
  (reanchorSequence : Bool)
  (hRejected : ((s.reanchorHookReportSequence source reanchorSequence).acceptHookReport source
    seq).2 = false) :
  ((s.reanchorHookReportSequence source reanchorSequence).acceptHookReport source seq).1 = s := by
  cases reanchorSequence with
  | false =>
    simp only [reanchorHookReportSequence, Bool.false_eq_true, if_false] at hRejected ⊢
    unfold acceptHookReport at hRejected ⊢
    cases seq with
    | none => rfl
    | some seq =>
      dsimp only at hRejected ⊢
      split at hRejected
      next hStale => simp [hStale]
      next => simp at hRejected
  | true =>
    cases seq <;>
      simp [reanchorHookReportSequence, acceptHookReport, sequenceIsStale,
        LoggedMap.contains] at hRejected

/-- Every hook state report has one of the three outcomes. -/
theorem setHookAuthorityAt_outcome (s : TerminalState) (report : HookReport) (now clock : Instant) :
  HookReportOutcome s report now clock (s.setHookAuthorityAt report now clock) := by
  unfold setHookAuthorityAt
  cases hIdentity : sessionIdentityOnlyIntegration report.source report.agentLabel with
  | true => exact .rejected
  | false =>
    by_cases hExit : (!report.fullLifecycle && s.recentAgentProcessExit.any (fun exit =>
        parseAgentLabel report.agentLabel == some exit.agent)) = true
    · simp only [hExit, Bool.false_eq_true, if_false, if_true]
      exact .rejected
    simp only [hExit, Bool.false_eq_true, if_false]
    rcases s.route_cases report now with ⟨reanchor, hRoute⟩ | hRoute | ⟨ref, seq, hBuf, hRoute⟩
    · rw [hRoute]
      dsimp only
      cases hAdmit : s.admitHookReport report reanchor with
      | none => exact .rejected
      | some admission =>
        have hReanchor : admission.reanchorSequence = reanchor := by
          unfold admitHookReport at hAdmit
          grind
        subst hReanchor
        cases hAccept : ((s.reanchorHookReportSequence report.source
            admission.reanchorSequence).acceptHookReport report.source report.seq).2 with
        | false =>
          have hSame := acceptHookReport_reanchored s report.source report.seq _ hAccept
          rw [← Prod.eta ((s.reanchorHookReportSequence report.source
            admission.reanchorSequence).acceptHookReport report.source report.seq),
            hAccept, hSame]
          exact .rejected
        | true =>
          rw [← Prod.eta ((s.reanchorHookReportSequence report.source
            admission.reanchorSequence).acceptHookReport report.source report.seq), hAccept]
          refine .accepted admission ⟨hIdentity, ?_, hRoute, hAdmit, hAccept⟩ _ rfl
          intro hFull
          simpa [hFull] using hExit
    · rw [hRoute]
      exact .rejected
    · rw [hRoute]
      exact .buffered ref seq hBuf

end TerminalState

end Terminal
