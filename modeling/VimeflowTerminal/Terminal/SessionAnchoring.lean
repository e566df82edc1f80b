import VimeflowTerminal.Terminal.Provenance

/-! A full lifecycle authority never carries a session that is remembered as
stale, and a state report is only recorded under its own session, along every
run that avoids two kinds of step: an accepted report whose session is
replaced by the current one, and a replacement that retires the session of an
authority it leaves in place. -/

namespace Terminal

open Detect AgentResume Transition SuppressedFullLifecycleHookReport

namespace TerminalState

variable {history : List TerminalOp} {s t : TerminalState}

/-! ## The steps to avoid -/

/-- The report is accepted and recorded under a session other than its own.
A full lifecycle report gets there only as the fresh session of a cleared hook. -/
def sessionRewritten (s : TerminalState) (report : HookReport) : Bool :=
  s.recordedSessionRef report != report.sessionRef &&
    !s.knownAgentLabelConflictsWithDetectedAgent report.agentLabel &&
      if report.fullLifecycle then
        !s.fullLifecycleHookReportMatchesStaleSession report.source report.agentLabel
            report.sessionRef &&
          s.suppressionRoute report == some (.accept true)
      else
        !sessionIdentityOnlyIntegration report.source report.agentLabel &&
          !(s.recentAgentProcessExit.any fun exit =>
            parseAgentLabel report.agentLabel == some exit.agent) &&
          (match report.seq with
            | none => !s.hookReportSequences.contains report.source
            | some seq => !s.sequenceIsStale report.source seq)

/-- Lifting the suppressions of the detected agent retires the session of the
current full lifecycle authority, and no buffered report replaces it. -/
def retiresLiveSession (s : TerminalState) (detected : Agent) : Bool :=
  s.hookAuthority.any fun authority =>
    fullLifecycleHookAuthority authority.source authority.agentLabel &&
      authority.sessionRef.any fun sessionRef =>
        decide ({ source := authority.source, agentLabel := authority.agentLabel, sessionRef } ∈
            s.retiredSessionsOnDetection detected) &&
          (s.validatedReplacementsOnDetection detected).all fun replacement =>
            replacement.pending.isNone

/-- An applied detection that retires the session of the authority it keeps. -/
def detectionRetiresLiveSession (s : TerminalState) (detection : ScreenDetection)
  (now : Instant) : Bool :=
  !detection.processExited &&
    !s.shouldIgnoreDetectedStateUnderFullLifecycleHook detection.agent detection.processExited &&
      !s.detectedStateObservedBeforeReleaseSuppression detection.agent now &&
        s.detectionPredecessor detection now != detection.agent &&
          detection.agent.any s.retiresLiveSession

/-- A session start of a present process that retires the session of the
authority it keeps. -/
def sessionStartRetiresLiveSession (s : TerminalState) (report : SessionStartReport)
  (now : Instant) : Bool :=
  s.sessionStartIsGated report && sessionStartSourceIsRecognized report.sessionStartSource &&
    s.processPresent (parseAgentLabel report.agentLabel) &&
      report.sessionRef.any fun sessionRef =>
        report.seq.any fun seq =>
          !s.sequenceIsStale report.source seq &&
            (parseAgentLabel report.agentLabel).any
              (s.recordReplacementSession report sessionRef seq now).retiresLiveSession

/-- The operation is one of the steps to avoid. -/
def mixesSessions (s : TerminalState) : TerminalOp → Bool
  | .hookReport report _ _ => s.sessionRewritten report
  | .detection detection now _ => s.detectionRetiresLiveSession detection now
  | .sessionStart report now _ => s.sessionStartRetiresLiveSession report now
  | _ => false

/-- Reports and detections that are neither kind of step. -/
def KeepsSessions (s : TerminalState) (op : TerminalOp) : Prop :=
  TerminalOp.isReport op = true ∧ s.mixesSessions op = false

instance (s : TerminalState) (op : TerminalOp) : Decidable (KeepsSessions s op) :=
  inferInstanceAs (Decidable (_ ∧ _))

/-! ## Stale sessions of the helpers -/

theorem staleSessionsOf_congr
  (hEq : t.staleFullLifecycleHookSessions = s.staleFullLifecycleHookSessions) (key : String) :
  t.staleSessionsOf key = s.staleSessionsOf key := by
  simp only [staleSessionsOf, hEq]

variable {source key : String} {stale : StaleFullLifecycleHookSession} {clock now : Instant}
  {suppressed : SuppressedFullLifecycleHookReport} {report : HookReport} {reanchor : Bool}
  {admission : HookReportAdmission} {sessionRef : AgentSessionRef}
  {validated : ValidatedReplacement} {agent : Option Agent}

/-- A lifted suppression leaves the session it was suppressed with as stale. -/
theorem mem_staleSessionsOf_lift :
  stale ∈ (s.liftSuppression source).staleSessionsOf key ↔
    stale ∈ s.staleSessionsOf key ∨ ∃ suppressed sessionRef,
      s.suppressedFullLifecycleHookReports.lookup source = some suppressed ∧
        suppressed.sessionRef = some sessionRef ∧ key = source ∧
          stale = ⟨suppressed.agentLabel, sessionRef⟩ := by
  unfold liftSuppression
  cases hEntry : s.suppressedFullLifecycleHookReports.lookup source with
  | none => simp
  | some suppressed =>
    dsimp only
    cases hSession : suppressed.sessionRef with
    | none =>
      change stale ∈ s.staleSessionsOf key ↔ _
      simp [hSession]
    | some sessionRef =>
      rw [mem_staleSessionsOf_remember]
      change stale ∈ s.staleSessionsOf key ∨ _ ↔ _
      simp [hSession]

/-- A suppressed source is an old one or the source of the current authority. -/
theorem lookup_suppressCurrent {reason : FullLifecycleHookSuppressionReason}
  (hEntry : (s.suppressCurrentFullLifecycleHookAuthority reason
    clock).suppressedFullLifecycleHookReports.lookup key = some suppressed) :
  s.suppressedFullLifecycleHookReports.lookup key = some suppressed ∨
    ∃ authority, s.hookAuthority = some authority ∧
      fullLifecycleHookAuthority authority.source authority.agentLabel = true ∧
        key = authority.source ∧ suppressed.agentLabel = authority.agentLabel ∧
          suppressed.sessionRef = authority.sessionRef := by
  unfold suppressCurrentFullLifecycleHookAuthority at hEntry
  cases hAuthority : s.hookAuthority with
  | none =>
    rw [hAuthority] at hEntry
    exact Or.inl hEntry
  | some authority =>
    rw [hAuthority] at hEntry
    dsimp only at hEntry
    split at hEntry
    next hFull =>
      by_cases hKey : key = authority.source
      · subst hKey
        simp only [suppressFullLifecycleHookReportWithSessionRef, AList.lookup_insert,
          Option.some.injEq] at hEntry
        subst hEntry
        exact Or.inr ⟨authority, rfl, hFull, rfl, rfl, rfl⟩
      · simp only [suppressFullLifecycleHookReportWithSessionRef,
          AList.lookup_insert_ne hKey] at hEntry
        exact Or.inl hEntry
    next => exact Or.inl hEntry

/-- An authority whose session is not stale keeps that when stale sessions are
only forgotten. -/
theorem notStale_of_subset (h : AuthorityIsNotStale s)
  (hAuthority : t.hookAuthority = s.hookAuthority)
  (hStale : ∀ key stale, stale ∈ t.staleSessionsOf key → stale ∈ s.staleSessionsOf key) :
  AuthorityIsNotStale t := by
  intro authority sessionRef hSome hFull hSession hMem
  rw [hAuthority] at hSome
  exact h authority sessionRef hSome hFull hSession (hStale _ _ hMem)

theorem notStale_of_none (hAuthority : t.hookAuthority = none) : AuthorityIsNotStale t := by
  intro authority sessionRef hSome
  rw [hAuthority] at hSome
  cases hSome

/-- The state after a step keeps its provenance and its sessions anchored. -/
structure Anchored (history : List TerminalOp) (s : TerminalState) : Prop
  extends Provenance history s where
  notStale : AuthorityIsNotStale s

section

variable (h : Anchored history s)
include h

theorem Anchored.append {later : List TerminalOp} :
  Anchored (history ++ later) s :=
  ⟨h.toProvenance.append, h.notStale⟩

theorem Anchored.of_eq
  (hSuppressed : t.suppressedFullLifecycleHookReports = s.suppressedFullLifecycleHookReports)
  (hAuthority : t.hookAuthority = s.hookAuthority)
  (hSession : t.persistedAgentSession = s.persistedAgentSession)
  (hStale : t.staleFullLifecycleHookSessions = s.staleFullLifecycleHookSessions) :
  Anchored history t := by
  refine ⟨⟨h.suppressions.of_eq hSuppressed, ?_, ?_⟩, ?_⟩
  · rw [hAuthority]
    exact h.authority
  · rw [hSession]
    exact h.session
  · refine notStale_of_subset h.notStale hAuthority ?_
    intro key stale hMem
    rwa [staleSessionsOf_congr hStale] at hMem

theorem Anchored.recompute (previous : Previous) (now : Instant) :
  Anchored history (s.recomputeEffectiveState previous now).1 :=
  h.of_eq (by simp) (by simp) (by simp) (by simp)

theorem Anchored.reconcile (agentLabel : String)
  (sessionRef : Option AgentSessionRef) :
  Anchored history (s.reconcileAgentNameOwner agentLabel sessionRef) := by
  obtain ⟨_, _, hEq⟩ := s.reconcileAgentNameOwner_eq agentLabel sessionRef
  exact h.of_eq (by rw [hEq]) (by rw [hEq]) (by rw [hEq]) (by rw [hEq])

theorem Anchored.sequenced (source : String) (seq : Option Nat) :
  Anchored history (s.acceptHookReport source seq).1 := by
  obtain ⟨_, hEq⟩ := s.acceptHookReport_eq source seq
  exact h.of_eq (by rw [hEq]) (by rw [hEq]) (by rw [hEq]) (by rw [hEq])

end

/-! ## State reports -/

/-- What an admitted report is recorded under. -/
theorem admitHookReport_some (hAdmit : s.admitHookReport report reanchor = some admission) :
  s.knownAgentLabelConflictsWithDetectedAgent report.agentLabel = false ∧
    admission.sessionRef = s.recordedSessionRef report ∧
      (admission.foregroundTakeoverAllowed = true →
        s.currentSessionOwnerConflicts report.source report.agentLabel = true) := by
  unfold admitHookReport at hAdmit
  split at hAdmit
  · cases hAdmit
  next hLabel =>
    dsimp only at hAdmit
    split at hAdmit
    · cases hAdmit
    split at hAdmit
    · cases hAdmit
    cases hAdmit
    refine ⟨Bool.eq_false_iff.2 hLabel, rfl, ?_⟩
    intro hTakeover
    exact (Bool.and_eq_true_iff.1 hTakeover).1

/-- A cleared hook accepts only the fresh session of its own agent. -/
theorem suppressionRoute_accept (hRoute : s.suppressionRoute report = some (.accept reanchor)) :
  reanchor = true ∧ ∃ suppressed previous incoming,
    s.suppressedFullLifecycleHookReports.lookup report.source = some suppressed ∧
      suppressed.agentLabel = report.agentLabel ∧ suppressed.sessionRef = some previous ∧
        report.sessionRef = some incoming ∧ previous ≠ incoming := by
  unfold suppressionRoute at hRoute
  cases hEntry : s.suppressedFullLifecycleHookReports.lookup report.source with
  | none => simp [hEntry] at hRoute
  | some suppressed =>
    simp only [hEntry] at hRoute
    split at hRoute
    · simp at hRoute
    next hLabel =>
      split at hRoute
      · split at hRoute
        next hFresh =>
          obtain ⟨hPrevious, hIncoming, hNe⟩ := hFresh
          obtain ⟨previous, hPrevious⟩ := Option.isSome_iff_exists.1 hPrevious
          obtain ⟨incoming, hIncoming⟩ := Option.isSome_iff_exists.1 hIncoming
          simp only [Option.some.injEq, FullLifecycleHookReportRoute.accept.injEq] at hRoute
          refine ⟨hRoute.symm, suppressed, previous, incoming, rfl, ?_, hPrevious, hIncoming, ?_⟩
          · exact not_not.1 hLabel
          · rintro rfl
            exact hNe (hPrevious.trans hIncoming.symm)
        · simp at hRoute
      · simp at hRoute

/-- How a full lifecycle report comes to be accepted. -/
theorem route_accept_full (hFull : report.fullLifecycle = true)
  (hRoute : ∀ reportedAt, s.routeFullLifecycleHookReport report reportedAt =
    (s, .accept reanchor)) :
  s.fullLifecycleHookReportMatchesStaleSession report.source report.agentLabel
      report.sessionRef = false ∧
    (s.suppressionRoute report = some (.accept reanchor) ∨
      (s.sessionAnchored report = true ∧
        s.suppressedFullLifecycleHookReports.lookup report.source = none)) := by
  have hAccept := congrArg Prod.snd (hRoute 0)
  unfold routeFullLifecycleHookReport at hAccept
  simp only [hFull, Bool.not_true, Bool.false_eq_true, if_false] at hAccept
  split at hAccept
  · simp at hAccept
  next hStale =>
    refine ⟨Bool.eq_false_iff.2 hStale, ?_⟩
    cases hSuppression : s.suppressionRoute report with
    | some route =>
      simp only [hSuppression] at hAccept
      exact Or.inl (by rw [hAccept])
    | none =>
      simp only [hSuppression] at hAccept
      split at hAccept
      next hPresent =>
        simp only [Bool.and_eq_true, Option.isNone_iff_eq_none] at hPresent
        exact Or.inr ⟨hPresent.1.2, hPresent.2⟩
      · split at hAccept
        · split at hAccept <;> simp at hAccept
        · simp at hAccept

/-- A report that continues the anchored session is recorded under it. -/
theorem recordedSessionRef_of_anchored (hAnchored : s.sessionAnchored report = true) :
  s.recordedSessionRef report = report.sessionRef := by
  unfold recordedSessionRef
  cases hSession : report.sessionRef with
  | none => rfl
  | some incoming =>
    have hNone : s.conflictingSameOwnerSessionRef report.source report.agentLabel incoming none =
        none := by
      unfold conflictingSameOwnerSessionRef currentSessionIdentityForPersistence
      unfold sessionAnchored at hAnchored
      rw [hSession] at hAnchored
      cases hAuthority : s.hookAuthority with
      | none =>
        cases hPersisted : s.persistedAgentSession with
        | none => rfl
        | some session =>
          by_cases hOwner : session.source = report.source ∧ session.agent = report.agentLabel
          · simp_all [Option.filter]
          · simp_all [Option.filter]
      | some authority =>
        cases hCurrent : authority.sessionRef with
        | none =>
          cases hPersisted : s.persistedAgentSession with
          | none => simp [hCurrent]
          | some session =>
            by_cases hOwner :
                session.source = report.source ∧ session.agent = report.agentLabel
            · simp_all [Option.filter]
              grind
            · simp_all [Option.filter]
        | some current =>
          by_cases hOwner :
              authority.source = report.source ∧ authority.agentLabel = report.agentLabel
          · simp_all [Option.filter]
          · simp_all [Option.filter]
    simp [hNone]

theorem route_accept_custom (hCustom : report.fullLifecycle = false)
  (hRoute : ∀ reportedAt, s.routeFullLifecycleHookReport report reportedAt =
    (s, .accept reanchor)) : reanchor = false := by
  have hAccept := congrArg Prod.snd (hRoute 0)
  simpa [routeFullLifecycleHookReport, hCustom] using hAccept.symm

/-- An accepted report whose session is not rewritten is recorded under its own. -/
theorem recordedSessionRef_of_accepts (hAccepts : Accepts s report admission)
  (hKeeps : s.sessionRewritten report = false) :
  s.recordedSessionRef report = report.sessionRef := by
  by_contra hRewritten
  obtain ⟨hLabel, -, -⟩ := admitHookReport_some hAccepts.admitted
  unfold sessionRewritten at hKeeps
  rw [bne_iff_ne.2 hRewritten, hLabel] at hKeeps
  cases hFull : report.fullLifecycle with
  | true =>
    obtain ⟨hStale, hFresh | ⟨hAnchored, -⟩⟩ := route_accept_full hFull hAccepts.route
    · have hReanchor := (suppressionRoute_accept hFresh).1
      simp [hFull, hStale, hFresh, hReanchor] at hKeeps
    · exact hRewritten (recordedSessionRef_of_anchored hAnchored)
  | false =>
    have hReanchor := route_accept_custom hFull hAccepts.route
    have hSequence := hAccepts.sequence
    rw [hReanchor] at hSequence
    have hExit := hAccepts.notExited hFull
    have hIdentity := hAccepts.notIdentityOnly
    simp only [hFull, hIdentity, hExit, Bool.not_false, Bool.true_and, Bool.false_eq_true,
      if_false] at hKeeps
    unfold reanchorHookReportSequence acceptHookReport at hSequence
    cases hSeq : report.seq with
    | none =>
      simp only [hSeq, Bool.false_eq_true, if_false] at hKeeps hSequence
      rw [hSequence] at hKeeps
      cases hKeeps
    | some seq =>
      simp only [hSeq, Bool.false_eq_true, if_false] at hKeeps hSequence
      split at hSequence
      · cases hSequence
      next hFresh => simp [hFresh] at hKeeps

section InstalledReport

variable (report : HookReport) (admission : HookReportAdmission) (now clock : Instant)

/-- The state in which an installed report finds the suppressed sources. -/
def takenOver (s : TerminalState) (report : HookReport) (admission : HookReportAdmission)
  (clock : Instant) : TerminalState :=
  let s := s.reconcileAgentNameOwner report.agentLabel admission.sessionRef
  if admission.foregroundTakeoverAllowed then
    s.suppressCurrentFullLifecycleHookAuthority .hookClear clock
  else s

theorem takenOver_stale (key : String) :
  (s.takenOver report admission clock).staleSessionsOf key = s.staleSessionsOf key := by
  refine staleSessionsOf_congr ?_ key
  have hNames : IgnoresNames staleFullLifecycleHookSessions := fun _ _ _ _ => rfl
  obtain ⟨_, hEq⟩ := (s.reconcileAgentNameOwner report.agentLabel
    admission.sessionRef).suppressCurrentFullLifecycleHookAuthority_eq .hookClear clock
  unfold takenOver
  split
  · rw [hEq, hNames.reconcile]
  · exact hNames.reconcile ..

theorem takenOver_kept (h : SuppressionsKept history s) :
  SuppressionsKept history (s.takenOver report admission clock) := by
  unfold takenOver
  split
  · exact (h.reconcile ..).suppressCurrent ..
  · exact h.reconcile ..

/-- An entry an installed report finds is an old one, or the old authority's
in case of a takeover. -/
theorem lookup_takenOver {key : String} {suppressed : SuppressedFullLifecycleHookReport}
  (hEntry : (s.takenOver report admission clock).suppressedFullLifecycleHookReports.lookup key =
    some suppressed) :
  s.suppressedFullLifecycleHookReports.lookup key = some suppressed ∨
    (admission.foregroundTakeoverAllowed = true ∧ ∃ authority, s.hookAuthority = some authority ∧
      fullLifecycleHookAuthority authority.source authority.agentLabel = true ∧
        key = authority.source ∧ suppressed.agentLabel = authority.agentLabel ∧
          suppressed.sessionRef = authority.sessionRef) := by
  obtain ⟨_, _, hName⟩ := s.reconcileAgentNameOwner_eq report.agentLabel admission.sessionRef
  unfold takenOver at hEntry
  split at hEntry
  next hTakeover =>
    rcases lookup_suppressCurrent hEntry with hOld | hCurrent
    · rw [hName] at hOld
      exact Or.inl hOld
    · rw [hName] at hCurrent
      exact Or.inr ⟨hTakeover, hCurrent⟩
  · rw [hName] at hEntry
    exact Or.inl hEntry

theorem installHookAuthority_persistedAgentSession :
  (s.installHookAuthority report admission now clock).1.persistedAgentSession = none := by
  unfold installHookAuthority
  rw [finish_fst, recompute_persistedAgentSession]

theorem installHookAuthority_kept (h : SuppressionsKept history s) :
  SuppressionsKept history (s.installHookAuthority report admission now clock).1 := by
  have hTaken := takenOver_kept report admission clock h
  have hLifted := hTaken.lift report.source
  unfold takenOver at hTaken hLifted
  unfold installHookAuthority
  dsimp only
  split
  next hSession =>
    refine hLifted.of_eq ?_
    rw [finish_fst, recompute_suppressedFullLifecycleHookReports]
  next hSession =>
    refine hTaken.of_eq ?_
    rw [finish_fst, recompute_suppressedFullLifecycleHookReports]

/-- An installed report leaves stale what its source was suppressed with. -/
theorem installHookAuthority_stale {key : String} {stale : StaleFullLifecycleHookSession}
  (hMem : stale ∈
    (s.installHookAuthority report admission now clock).1.staleSessionsOf key) :
  stale ∈ s.staleSessionsOf key ∨ ∃ suppressed sessionRef,
    (s.takenOver report admission clock).suppressedFullLifecycleHookReports.lookup
        report.source = some suppressed ∧
      suppressed.sessionRef = some sessionRef ∧ key = report.source ∧
        stale = ⟨suppressed.agentLabel, sessionRef⟩ := by
  have hStale := s.takenOver_stale report admission clock key
  have hLift : stale ∈ ((s.takenOver report admission clock).liftSuppression
      report.source).staleSessionsOf key ↔ _ := mem_staleSessionsOf_lift
  rw [hStale] at hLift
  rw [← hStale]
  unfold installHookAuthority at hMem
  rw [finish_fst, staleSessionsOf_congr (recompute_staleFullLifecycleHookSessions ..)] at hMem
  split at hMem
  · exact (hStale ▸ hLift).1 hMem
  · exact Or.inl hMem

end InstalledReport

/-- An accepted state report is recorded under its own session, which is not
stale: what its acceptance makes stale is another session. -/
theorem anchored_installHookAuthority (h : Anchored history s)
  (hAccepts : Accepts s report admission) (hKeeps : s.sessionRewritten report = false)
  (hMem : .hookReport report now clock ∈ history) {sequenced : TerminalState}
  (hSequences : ∃ sequences, sequenced = { s with hookReportSequences := sequences }) :
  Anchored history (sequenced.installHookAuthority report admission now clock).1 := by
  obtain ⟨sequences, rfl⟩ := hSequences
  obtain ⟨-, hSession, hTakeover⟩ := admitHookReport_some hAccepts.admitted
  have hOwn : admission.sessionRef = report.sessionRef :=
    hSession.trans (recordedSessionRef_of_accepts hAccepts hKeeps)
  refine ⟨⟨?_, ?_, ?_⟩, ?_⟩
  · exact installHookAuthority_kept report admission now clock (h.suppressions.of_eq rfl)
  · intro authority hAuthority
    rw [installHookAuthority_hookAuthority, hOwn] at hAuthority
    cases hAuthority
    exact ⟨report, now, clock, hMem, rfl⟩
  · intro session hPersisted
    rw [installHookAuthority_persistedAgentSession] at hPersisted
    cases hPersisted
  · intro authority sessionRef hAuthority hFull hCurrent hStale
    rw [installHookAuthority_hookAuthority, hOwn] at hAuthority
    cases hAuthority
    simp only [HookReport.authority] at hFull hCurrent hStale
    obtain ⟨hFresh, hRoute⟩ := route_accept_full hFull hAccepts.route
    rcases installHookAuthority_stale report admission now clock hStale with
      hOld | ⟨suppressed, retired, hEntry, hRetired, -, hSame⟩
    · have hMatches := (matchesStaleSession_iff hFull).2 (show _ ∈ s.staleSessionsOf _ from hOld)
      rw [hCurrent, hMatches] at hFresh
      cases hFresh
    · obtain ⟨hLabel, rfl⟩ := StaleFullLifecycleHookSession.mk.inj hSame
      rcases lookup_takenOver report admission clock hEntry with
        hOld | ⟨hTaken, owner, hOwner, hOwnerFull, hOwnerSource, -, hOwnerSession⟩
      · -- the source was cleared with another session
        rcases hRoute with hRoute | ⟨-, hNone⟩
        · obtain ⟨-, other, previous, incoming, hOther, -, hPrevious, hIncoming, hNe⟩ :=
            suppressionRoute_accept hRoute
          have hSameEntry : some suppressed = some other := hOld.symm.trans hOther
          cases hSameEntry
          rw [hCurrent] at hIncoming
          rw [hRetired] at hPrevious
          cases hIncoming
          cases hPrevious
          exact hNe rfl
        · have hSome : s.suppressedFullLifecycleHookReports.lookup report.source =
            some suppressed := hOld
          rw [hNone] at hSome
          cases hSome
      · -- the old authority of the source would be of the same owner
        have hOwner' : s.hookAuthority = some owner := hOwner
        rw [hOwnerSource] at hFull
        have hOwnerLabel := fullLifecycle_label_unique hOwnerFull hFull
        have hConflict := hTakeover hTaken
        rw [hOwnerSession] at hRetired
        simp [currentSessionOwnerConflicts, currentSessionIdentityForPersistence, hOwner', hRetired,
          hOwnerSource, hOwnerLabel] at hConflict

/-- A buffered report is kept as it was reported. -/
theorem anchored_buffer {seq : Nat} (h : Anchored history s)
  (hBuffers : Buffers s report sessionRef seq) (hMem : .hookReport report now clock ∈ history) :
  Anchored history (s.bufferFullLifecycleHookReport report sessionRef seq now) := by
  have hRecord : RecordOf history (report.authority (some sessionRef) now) :=
    ⟨report, now, clock, hMem, by rw [hBuffers.session]⟩
  refine ⟨⟨⟨h.suppressions.kept.insert ?_⟩, h.authority, h.session⟩, h.notStale⟩
  cases hEntry : s.suppressedFullLifecycleHookReports.lookup report.source with
  | none =>
    refine ⟨?_, ?_⟩
    · intro pending hPending
      cases hPending
      exact ⟨hRecord, rfl, rfl⟩
    · intro replacement hReplacement
      cases hReplacement
  | some suppressed =>
    obtain ⟨hLabel, -⟩ := hBuffers.suppression suppressed hEntry
    have hKept := h.suppressions.kept _ _ hEntry
    split
    · refine ⟨?_, hKept.replacement⟩
      intro pending hPending
      cases hPending
      exact ⟨hRecord, rfl, hLabel.symm⟩
    · exact hKept

theorem anchored_hookReport (h : Anchored history s)
  (hMem : .hookReport report now clock ∈ history) (hKeeps : s.sessionRewritten report = false) :
  Anchored history (s.setHookAuthorityAt report now clock).1 := by
  have hOutcome := s.setHookAuthorityAt_outcome report now clock
  generalize s.setHookAuthorityAt report now clock = result at hOutcome ⊢
  cases hOutcome with
  | rejected => exact h
  | buffered sessionRef seq hBuffers => exact anchored_buffer h hBuffers hMem
  | accepted admission hAccepts sequenced hSequenced =>
    refine anchored_installHookAuthority h hAccepts hKeeps hMem ?_
    obtain ⟨_, hEq⟩ := acceptHookReport_eq
      (s.reanchorHookReportSequence report.source admission.reanchorSequence) report.source
      report.seq
    rw [hSequenced, hEq]
    unfold reanchorHookReportSequence
    split <;> exact ⟨_, rfl⟩

/-! ## Detections that lift suppressions -/

/-- A replayed report belongs to the session its replacement named. -/
structure ReplaysOwn (history : List TerminalOp) (validated : ValidatedReplacement) : Prop where
  session : SessionOf history
    { source := validated.source, agent := validated.agentLabel,
      sessionRef := validated.sessionRef }
  pending : ∀ pending, validated.pending = some pending →
    RecordOf history pending.authority ∧ pending.authority.source = validated.source ∧
      pending.authority.agentLabel = validated.agentLabel ∧
        pending.authority.sessionRef = some validated.sessionRef

theorem replaysOwn_of_validated (h : SuppressionsKept history s) {detected : Agent}
  {replacement : ValidatedReplacement}
  (hMem : replacement ∈ s.validatedReplacementsOnDetection detected) :
  ReplaysOwn history replacement := by
  obtain ⟨source, suppressed, hEntry, hValidated⟩ := FinMap.mem_collect.1 hMem
  have hKept := h.kept source suppressed hEntry
  unfold validatedOnDetection at hValidated
  split at hValidated
  · cases hValidated
  split at hValidated
  next sessionRef hReason hReplacement =>
    cases hValidated
    refine ⟨?_, ?_⟩
    · obtain ⟨report, now, clock, hStart, hSource, hSession⟩ :=
        hKept.replacement sessionRef hReplacement
      exact Or.inl ⟨report, now, clock, hStart, hSource, hSession⟩
    · intro pending hPending
      obtain ⟨hPending, hSame⟩ := Option.filter_eq_some_iff.1 hPending
      obtain ⟨hRecord, hSource, hLabel⟩ := hKept.pending pending hPending
      simp only [Bool.and_eq_true, beq_iff_eq] at hSame
      exact ⟨hRecord, hSource, hLabel, hSame.1⟩
  · cases hValidated

theorem installValidatedReplacement_hookAuthority (s : TerminalState)
  (validated : ValidatedReplacement) :
  (s.installValidatedReplacement validated).hookAuthority =
    (validated.pending.map PendingFullLifecycleHookReport.authority).or s.hookAuthority := by
  have hNames : IgnoresNames hookAuthority := fun _ _ _ _ => rfl
  have hPart : IgnoresSuppressions hookAuthority := ⟨fun _ _ => rfl, fun _ _ => rfl⟩
  unfold installValidatedReplacement
  cases validated.pending with
  | none => exact (hNames.reconcile ..).trans (hPart.forgetStale ..)
  | some pending => rfl

theorem installValidatedReplacement_persistedAgentSession (s : TerminalState)
  (validated : ValidatedReplacement) :
  (s.installValidatedReplacement validated).persistedAgentSession =
    some { source := validated.source, agent := validated.agentLabel,
           sessionRef := validated.sessionRef } := by
  unfold installValidatedReplacement
  cases validated.pending <;> rfl

theorem installValidatedReplacement_stale :
  stale ∈ (s.installValidatedReplacement validated).staleSessionsOf key ↔
    stale ∈ s.staleSessionsOf key ∧
      ¬(key = validated.source ∧ stale = ⟨validated.agentLabel, validated.sessionRef⟩) := by
  have hNames : IgnoresNames staleFullLifecycleHookSessions := fun _ _ _ _ => rfl
  rw [← mem_staleSessionsOf_forget]
  rw [staleSessionsOf_congr (t := s.installValidatedReplacement validated)]
  unfold installValidatedReplacement
  cases validated.pending <;> exact hNames.reconcile ..

theorem installValidatedReplacement_suppressed (s : TerminalState)
  (validated : ValidatedReplacement) :
  (s.installValidatedReplacement validated).suppressedFullLifecycleHookReports =
    s.suppressedFullLifecycleHookReports := by
  obtain ⟨_, _, _, _, _, _, hEq⟩ := s.installValidatedReplacement_eq validated
  rw [hEq]

theorem provenance_installValidatedReplacement (h : Provenance history s)
  (hOwn : ReplaysOwn history validated) :
  Provenance history (s.installValidatedReplacement validated) := by
  refine ⟨h.suppressions.of_eq (installValidatedReplacement_suppressed ..), ?_, ?_⟩
  · intro authority hAuthority
    rw [installValidatedReplacement_hookAuthority] at hAuthority
    cases hPending : validated.pending with
    | none =>
      simp only [hPending, Option.map_none, Option.none_or] at hAuthority
      exact h.authority authority hAuthority
    | some pending =>
      simp only [hPending, Option.map_some, Option.some_or, Option.some.injEq] at hAuthority
      exact hAuthority ▸ (hOwn.pending pending hPending).1
  · intro session hSession
    rw [installValidatedReplacement_persistedAgentSession] at hSession
    cases hSession
    exact hOwn.session

theorem notStale_of_replay (hOwn : ReplaysOwn history validated)
  {pending : PendingFullLifecycleHookReport} (hPending : validated.pending = some pending) :
  AuthorityIsNotStale (s.installValidatedReplacement validated) := by
  obtain ⟨-, hSource, hLabel, hSession⟩ := hOwn.pending pending hPending
  intro authority sessionRef hAuthority _ hCurrent hMem
  rw [installValidatedReplacement_hookAuthority, hPending] at hAuthority
  simp only [Option.map_some, Option.some_or, Option.some.injEq] at hAuthority
  subst hAuthority
  rw [hSession] at hCurrent
  cases hCurrent
  exact (installValidatedReplacement_stale.1 hMem).2 ⟨hSource, by rw [hLabel]⟩

/-- Installing the validated replacements anchors the authority, if it was
anchored before or one of them replays a report. -/
theorem anchored_foldl_installValidatedReplacement (validated : List ValidatedReplacement)
  (hProvenance : Provenance history s)
  (hOwn : ∀ replacement ∈ validated, ReplaysOwn history replacement)
  (hNotStale : AuthorityIsNotStale s ∨ ∃ replacement ∈ validated,
    replacement.pending.isSome = true) :
  Anchored history (validated.foldl installValidatedReplacement s) := by
  induction validated generalizing s with
  | nil =>
    rcases hNotStale with hNotStale | ⟨replacement, hMem, -⟩
    · exact ⟨hProvenance, hNotStale⟩
    · cases hMem
  | cons replacement validated ih =>
    have hFirst := hOwn replacement List.mem_cons_self
    refine ih (provenance_installValidatedReplacement hProvenance hFirst)
      (fun other hMem => hOwn other (List.mem_cons_of_mem _ hMem)) ?_
    cases hPending : replacement.pending with
    | some pending => exact Or.inl (notStale_of_replay hFirst hPending)
    | none =>
      rcases hNotStale with hNotStale | ⟨other, hMem, hReplay⟩
      · left
        refine notStale_of_subset hNotStale ?_ ?_
        · rw [installValidatedReplacement_hookAuthority, hPending]
          rfl
        · intro key stale hStale
          exact (installValidatedReplacement_stale.1 hStale).1
      · rcases List.mem_cons.1 hMem with rfl | hRest
        · rw [hPending] at hReplay
          cases hReplay
        · exact Or.inr ⟨other, hRest, hReplay⟩

/-- Remembering retired sessions adds exactly those. -/
theorem mem_staleSessionsOf_foldl_remember (retired : List RetiredSession) :
  stale ∈ (retired.foldl rememberRetiredSession s).staleSessionsOf key ↔
    stale ∈ s.staleSessionsOf key ∨
      (⟨key, stale.agentLabel, stale.sessionRef⟩ : RetiredSession) ∈ retired := by
  induction retired generalizing s with
  | nil => simp
  | cons first retired ih =>
    obtain ⟨source, agentLabel, sessionRef⟩ := first
    obtain ⟨label, session⟩ := stale
    rw [List.foldl_cons, ih, rememberRetiredSession, mem_staleSessionsOf_remember,
      List.mem_cons]
    simp only [StaleFullLifecycleHookSession.mk.injEq, RetiredSession.mk.injEq]
    exact or_assoc

theorem anchored_clearSuppression (h : Anchored history s) {previous detected : Option Agent}
  (hKeeps : previous ≠ detected → detected.any s.retiresLiveSession = false) :
  Anchored history
    (s.clearFullLifecycleHookSuppressionForDetectedAgent previous detected) := by
  unfold clearFullLifecycleHookSuppressionForDetectedAgent
  cases detected with
  | none => exact h
  | some detected =>
    dsimp only
    split
    · exact h
    next hNew =>
      have hRetires := hKeeps hNew
      obtain ⟨staleMap, hFold⟩ := foldl_rememberRetiredSession_eq
        (s.retiredSessionsOnDetection detected)
        { s with
          suppressedFullLifecycleHookReports :=
            FinMap.retain s.suppressedFullLifecycleHookReports fun _ suppressed =>
              suppressed.keptOnDetection detected }
      have hStale : ∀ key stale,
          stale ∈ ((s.retiredSessionsOnDetection detected).foldl rememberRetiredSession
            { s with
              suppressedFullLifecycleHookReports :=
                FinMap.retain s.suppressedFullLifecycleHookReports fun _ suppressed =>
                  suppressed.keptOnDetection detected }).staleSessionsOf key →
            stale ∈ s.staleSessionsOf key ∨
              (⟨key, stale.agentLabel, stale.sessionRef⟩ : RetiredSession) ∈
                s.retiredSessionsOnDetection detected := by
        intro key stale hMem
        have hSplit := (mem_staleSessionsOf_foldl_remember _).1 hMem
        exact hSplit
      have hRetained := h.suppressions.kept.retain fun _ suppressed =>
        suppressed.keptOnDetection detected
      refine anchored_foldl_installValidatedReplacement _ ⟨?_, ?_, ?_⟩ ?_ ?_
      · refine SuppressionsKept.of_eq (s := { s with
          suppressedFullLifecycleHookReports :=
            FinMap.retain s.suppressedFullLifecycleHookReports fun _ suppressed =>
              suppressed.keptOnDetection detected }) ⟨hRetained⟩ ?_
        rw [hFold]
      · rw [hFold]
        exact h.authority
      · rw [hFold]
        exact h.session
      · intro replacement hMem
        exact replaysOwn_of_validated h.suppressions hMem
      · by_cases hReplay : ∃ replacement ∈ s.validatedReplacementsOnDetection detected,
            replacement.pending.isSome = true
        · exact Or.inr hReplay
        · left
          intro authority sessionRef hAuthority hFull hSession hMem
          rw [hFold] at hAuthority
          have hAuthority' : s.hookAuthority = some authority := hAuthority
          rcases hStale authority.source _ hMem with hOld | hRetired
          · exact h.notStale authority sessionRef hAuthority' hFull hSession hOld
          have hNone : (s.validatedReplacementsOnDetection detected).all
              (fun replacement => replacement.pending.isNone) = true := by
            rw [List.all_eq_true]
            intro replacement hMem'
            rw [← Option.not_isSome, Bool.not_eq_true']
            exact Bool.eq_false_iff.2 fun hSome => hReplay ⟨replacement, hMem', hSome⟩
          simp [retiresLiveSession, hAuthority', hFull, hSession, hNone] at hRetires
          exact hRetires hRetired

/-! ## Process exits -/

theorem parseAgentLabel_of_retiredOnExit {retired : RetiredSession}
  (hRetired : suppressed.retiredOnExit agent source = some retired) :
  parseAgentLabel retired.agentLabel = agent := by
  unfold retiredOnExit at hRetired
  split at hRetired
  next hReset =>
    obtain ⟨previous, -, rfl⟩ := Option.map_eq_some_iff.1 hRetired
    unfold resetOnExit
      concerns at hReset
    exact beq_iff_eq.1 (Bool.and_eq_true_iff.1 hReset).1
  · cases hRetired

theorem keptFrom_afterExit (h : KeptFrom history source suppressed) (agent : Option Agent)
  (now : Instant) :
  KeptFrom history source (suppressed.afterExit agent now) := by
  unfold afterExit
  split
  · exact KeptFrom.of_none rfl rfl
  · exact h

/-- Only sessions of the exited agent become stale. -/
theorem staleSessionsOf_resetSuppressionsOnExit
  (hMem : stale ∈ (s.resetSuppressionsOnExit agent now).staleSessionsOf key) :
  stale ∈ s.staleSessionsOf key ∨ parseAgentLabel stale.agentLabel = agent := by
  obtain ⟨_, hRemoved⟩ := removeHookReportSequences_eq (s.resetSourcesOnExit agent)
    ((s.retiredSessionsOnExit agent).foldl rememberRetiredSession
      (s.updateSuppressionsOnExit agent now))
  have hSame : (s.resetSuppressionsOnExit agent now).staleSessionsOf key =
      ((s.retiredSessionsOnExit agent).foldl rememberRetiredSession
        (s.updateSuppressionsOnExit agent now)).staleSessionsOf key := by
    refine staleSessionsOf_congr ?_ key
    unfold resetSuppressionsOnExit
    rw [hRemoved]
  have hUpdated : (s.updateSuppressionsOnExit agent now).staleSessionsOf key =
      s.staleSessionsOf key := by
    simp only [staleSessionsOf, updateSuppressionsOnExit]
  rw [hSame, mem_staleSessionsOf_foldl_remember, hUpdated] at hMem
  rcases hMem with hOld | hRetired
  · exact Or.inl hOld
  obtain ⟨source, suppressed, -, hRetired⟩ := FinMap.mem_collect.1 hRetired
  have hLabel := parseAgentLabel_of_retiredOnExit hRetired
  exact Or.inr hLabel

theorem provenance_resetSuppressionsOnExit (h : Provenance history s) (agent : Option Agent)
  (now : Instant) : Provenance history (s.resetSuppressionsOnExit agent now) := by
  obtain ⟨_, hFold⟩ := foldl_rememberRetiredSession_eq (s.retiredSessionsOnExit agent)
    (s.updateSuppressionsOnExit agent now)
  obtain ⟨_, hRemoved⟩ := removeHookReportSequences_eq (s.resetSourcesOnExit agent)
    ((s.retiredSessionsOnExit agent).foldl rememberRetiredSession
      (s.updateSuppressionsOnExit agent now))
  have hMapped := h.suppressions.kept.mapValues (f := fun _ suppressed =>
    suppressed.afterExit agent now) fun _ _ hKept => keptFrom_afterExit hKept agent now
  have hUpdated : SuppressionsKept history (s.updateSuppressionsOnExit agent now) := ⟨hMapped⟩
  unfold resetSuppressionsOnExit
  refine ⟨hUpdated.of_eq ?_, ?_, ?_⟩
  · rw [hRemoved, hFold]
  · rw [hRemoved, hFold]
    exact h.authority
  · rw [hRemoved, hFold]
    exact h.session

theorem resetSuppressionsOnExit_hookAuthority (s : TerminalState) (agent : Option Agent)
  (now : Instant) :
  (s.resetSuppressionsOnExit agent now).hookAuthority = s.hookAuthority := by
  obtain ⟨_, _, _, hEq⟩ := s.resetSuppressionsOnExit_eq agent now
  rw [hEq]

theorem provenance_suppressOfficialSessionOnExit (h : Provenance history s)
  (agent : Option Agent) (now : Instant) :
  Provenance history (s.suppressOfficialSessionOnExit agent now) := by
  unfold suppressOfficialSessionOnExit
  split
  · exact h
  next source agentLabel sessionRef _ =>
    obtain ⟨_, hRemoved⟩ := removeHookReportSequences_eq [source] s
    have hKept : SuppressionsKept history (s.removeHookReportSequences [source]) :=
      h.suppressions.of_eq (by rw [hRemoved])
    refine ⟨hKept.suppressWith .., ?_, ?_⟩
    · rw [hRemoved]
      exact h.authority
    · rw [hRemoved]
      exact h.session

theorem suppressOfficialSessionOnExit_hookAuthority (s : TerminalState) (agent : Option Agent)
  (now : Instant) :
  (s.suppressOfficialSessionOnExit agent now).hookAuthority = s.hookAuthority := by
  obtain ⟨_, _, hEq⟩ := s.suppressOfficialSessionOnExit_eq agent now
  rw [hEq]

theorem suppressOfficialSessionOnExit_stale (s : TerminalState) (agent : Option Agent)
  (now : Instant) (key : String) :
  (s.suppressOfficialSessionOnExit agent now).staleSessionsOf key = s.staleSessionsOf key := by
  refine staleSessionsOf_congr ?_ key
  obtain ⟨_, _, hEq⟩ := s.suppressOfficialSessionOnExit_eq agent now
  rw [hEq]

/-- An exit drops the authority of the exited agent, so an authority it leaves
cannot carry one of the sessions it retired. -/
theorem anchored_clearHookAuthorityOnExit (hProvenance : Provenance history s)
  (agent : Option Agent) (newerCustomAuthority : Bool)
  (hNotStale : ∀ authority sessionRef, s.hookAuthority = some authority →
    fullLifecycleHookAuthority authority.source authority.agentLabel = true →
      authority.sessionRef = some sessionRef →
        ⟨authority.agentLabel, sessionRef⟩ ∈ s.staleSessionsOf authority.source →
          parseAgentLabel authority.agentLabel = agent ∧ newerCustomAuthority = false) :
  Anchored history (s.clearHookAuthorityOnExit agent newerCustomAuthority) := by
  unfold clearHookAuthorityOnExit
  cases hCurrent : s.hookAuthority with
  | none => exact ⟨hProvenance, notStale_of_none hCurrent⟩
  | some authority =>
    dsimp only
    split
    · obtain ⟨_, hRemoved⟩ := removeHookReportSequences_eq [authority.source] s
      rw [hRemoved]
      refine ⟨⟨hProvenance.suppressions.of_eq rfl, ?_, hProvenance.session⟩,
        notStale_of_none rfl⟩
      intro other hOther
      cases hOther
    next hOther =>
      refine ⟨hProvenance, ?_⟩
      intro other sessionRef hSome hFull hSession hMem
      have hExited := hNotStale other sessionRef hSome hFull hSession hMem
      rw [hCurrent] at hSome
      cases hSome
      exact hOther hExited

theorem Anchored.clearPersistedSessionOnExit (h : Anchored history s) (agent : Option Agent)
  (newerCustomAuthority : Bool) :
  Anchored history (s.clearPersistedSessionOnExit agent newerCustomAuthority) := by
  unfold TerminalState.clearPersistedSessionOnExit
  split
  · refine ⟨⟨h.suppressions.of_eq rfl, h.authority, ?_⟩, h.notStale⟩
    intro session hNone
    cases hNone
  · exact h

theorem Anchored.clearMetadataOnExit (h : Anchored history s) (agent : Option Agent)
  (now : Instant) : Anchored history (s.clearMetadataOnExit agent now) := by
  obtain ⟨_, _, _, _, hEq⟩ := s.clearMetadataOnExit_eq agent now
  rw [hEq]
  exact h.of_eq rfl rfl rfl rfl

/-- What an exit leaves: no authority of the exited agent, and new stale
sessions of that agent only. -/
theorem anchored_applyProcessExit (h : Anchored history s) {newerCustomAuthority : Bool}
  (hCustom : newerCustomAuthority = true → ∀ authority, s.hookAuthority = some authority →
    fullLifecycleHookAuthority authority.source authority.agentLabel = false) (now : Instant) :
  Anchored history (s.applyProcessExit agent newerCustomAuthority now) := by
  have hProvenance := provenance_suppressOfficialSessionOnExit
    (provenance_resetSuppressionsOnExit h.toProvenance agent now) agent now
  have hCleared := anchored_clearHookAuthorityOnExit hProvenance agent newerCustomAuthority (by
      intro authority sessionRef hAuthority hFull hSession hMem
      rw [suppressOfficialSessionOnExit_hookAuthority,
        resetSuppressionsOnExit_hookAuthority] at hAuthority
      rw [suppressOfficialSessionOnExit_stale] at hMem
      rcases staleSessionsOf_resetSuppressionsOnExit hMem with hOld | hExited
      · exact absurd hOld (h.notStale authority sessionRef hAuthority hFull hSession)
      refine ⟨hExited, ?_⟩
      cases hCase : newerCustomAuthority with
      | false => rfl
      | true =>
        rw [hCustom hCase authority hAuthority] at hFull
        cases hFull)
  exact (hCleared.clearPersistedSessionOnExit _ _).clearMetadataOnExit _ _

/-! ## Detections -/

theorem Anchored.adoptDetectedAgent (h : Anchored history s) (agent : Option Agent) :
  Anchored history (s.adoptDetectedAgent agent) := by
  have hAdopted : Anchored history { s with detectedAgent := agent } := h.of_eq rfl rfl rfl rfl
  cases agent with
  | none => exact hAdopted
  | some agent => exact hAdopted.reconcile _ _

theorem Anchored.recordProcessExit (h : Anchored history s) (detection : ScreenDetection)
  (now : Instant) : Anchored history (s.recordProcessExit detection now) := by
  unfold TerminalState.recordProcessExit
  split
  · exact h.of_eq rfl rfl rfl rfl
  · exact h
  · exact h.of_eq rfl rfl rfl rfl
  · exact h

theorem anchored_of_no_authority
  (hSuppressed : SuppressionsKept history t) (hAuthority : t.hookAuthority = none)
  (hSession : ∀ session, t.persistedAgentSession = some session → SessionOf history session) :
  Anchored history t := by
  refine ⟨⟨hSuppressed, ?_, hSession⟩, notStale_of_none hAuthority⟩
  intro authority hSome
  rw [hAuthority] at hSome
  cases hSome

theorem anchored_clearSupersededAuthority (h : Anchored history s)
  (previousAgent agent : Option Agent) (now clock : Instant) :
  Anchored history (s.clearSupersededAuthority previousAgent agent now clock) := by
  unfold clearSupersededAuthority
  split
  · refine anchored_of_no_authority ((h.suppressions.suppressCurrent .hookClear clock).of_eq rfl) rfl ?_
    intro session hSession
    obtain ⟨authority, hAuthority, hDurable⟩ := Option.bind_eq_some_iff.1 hSession
    obtain ⟨sessionRef, hSessionRef, rfl⟩ := Option.map_eq_some_iff.1 hDurable
    exact Or.inr ⟨authority, h.authority authority hAuthority, rfl, rfl, hSessionRef⟩
  · exact h

theorem custom_of_newerCustomAuthority {detection : ScreenDetection}
  (hNewer : s.newerCustomAuthority detection now = true) {authority : HookAuthority}
  (hAuthority : s.hookAuthority = some authority) :
  fullLifecycleHookAuthority authority.source authority.agentLabel = false := by
  cases hFull : fullLifecycleHookAuthority authority.source authority.agentLabel with
  | false => rfl
  | true =>
    have hOfficial := official_of_fullLifecycle hFull
    simp [newerCustomAuthority, hAuthority, hOfficial] at hNewer

theorem adoptDetectedAgent_hookAuthority (s : TerminalState) (agent : Option Agent) :
  (s.adoptDetectedAgent agent).hookAuthority = s.hookAuthority := by
  have hNames : IgnoresNames hookAuthority := fun _ _ _ _ => rfl
  cases agent with
  | none => rfl
  | some agent => exact hNames.reconcile _ _ none

theorem retiresLiveSession_adoptDetectedAgent (s : TerminalState) (agent : Option Agent) :
  (s.adoptDetectedAgent agent).retiresLiveSession = s.retiresLiveSession := by
  have hNames : IgnoresNames retiresLiveSession := fun _ _ _ _ => rfl
  cases agent with
  | none => rfl
  | some agent => exact hNames.reconcile { s with detectedAgent := some agent } _ none

theorem recordProcessExit_hookAuthority (s : TerminalState) (detection : ScreenDetection)
  (now : Instant) : (s.recordProcessExit detection now).hookAuthority = s.hookAuthority := by
  unfold recordProcessExit
  split <;> rfl

theorem anchored_applyDetection (h : Anchored history s) (detection : ScreenDetection)
  (now clock : Instant) (hKeeps : detection.processExited = false →
    s.detectionPredecessor detection now ≠ detection.agent →
      detection.agent.any s.retiresLiveSession = false) :
  Anchored history (s.applyDetection detection now clock) := by
  have hAdopted := h.adoptDetectedAgent detection.agent
  have hRelease : ∀ (t : TerminalState) (released : Bool), Anchored history t →
      Anchored history (if released = true then t.clearAgentName else t) := by
    intro t released hAnchored
    cases released
    · exact hAnchored
    · exact hAnchored.of_eq rfl rfl rfl rfl
  have hFallback : ∀ t : TerminalState, Anchored history t →
      Anchored history (t.recordFallback detection now) :=
    fun t hAnchored => hAnchored.of_eq rfl rfl rfl rfl
  unfold applyDetection
  refine hRelease _ _ (anchored_clearSupersededAuthority ?_ _ _ _ _)
  cases hExited : detection.processExited with
  | false =>
    refine (hFallback _ (anchored_clearSuppression hAdopted ?_)).recordProcessExit _ _
    intro hNew
    rw [retiresLiveSession_adoptDetectedAgent]
    exact hKeeps hExited hNew
  | true =>
    refine anchored_applyProcessExit ((hFallback _ hAdopted).recordProcessExit _ _) ?_ now
    intro hNewer authority hAuthority
    rw [recordProcessExit_hookAuthority] at hAuthority
    have hBefore : s.hookAuthority = some authority :=
      (s.adoptDetectedAgent_hookAuthority detection.agent).symm.trans hAuthority
    exact custom_of_newerCustomAuthority hNewer hBefore

theorem anchored_detection (h : Anchored history s) (detection : ScreenDetection)
  (now clock : Instant) (hKeeps : s.detectionRetiresLiveSession detection now = false) :
  Anchored history (s.setDetectedStateWithScreenSignalsAt detection now clock).1 := by
  unfold setDetectedStateWithScreenSignalsAt
  split
  · refine Anchored.recompute ?_ _ _
    split
    · exact h.of_eq rfl rfl rfl rfl
    · exact h
  next hApplied =>
    split
    · exact h.recompute _ _
    next hSeen =>
      refine (anchored_applyDetection h detection now clock ?_).recompute _ _
      intro hRunning hNew
      have hApplied' := Bool.eq_false_iff.2 hApplied
      have hSeen' : s.detectedStateObservedBeforeReleaseSuppression detection.agent now = false := by
        rw [hRunning] at hSeen
        simpa using hSeen
      rw [hRunning] at hApplied'
      unfold detectionRetiresLiveSession at hKeeps
      rw [hRunning, hApplied', hSeen', bne_iff_ne.2 hNew] at hKeeps
      exact hKeeps

/-! ## Session starts -/

theorem anchored_recordReplacementSession (h : Anchored history s) {report : SessionStartReport}
  {seq : Nat} (hNotes : NotesReplacement s report sessionRef seq)
  (hMem : .sessionStart report now clock ∈ history) :
  Anchored history (s.recordReplacementSession report sessionRef seq now) := by
  have hNamed : ∃ report' now clock, .sessionStart report' now clock ∈ history ∧
      report'.source = report.source ∧ report'.sessionRef = some sessionRef :=
    ⟨report, now, clock, hMem, rfl, hNotes.session⟩
  have hBlank : KeptFrom history report.source
      ({ agentLabel := report.agentLabel
         sessionRef := none
         observedAt := now
         reason := .processExit
         replacementSessionRef := none
         pendingReplacementReport := none } : SuppressedFullLifecycleHookReport) :=
    KeptFrom.of_none rfl rfl
  have hOld : KeptFrom history report.source
      ((s.suppressedFullLifecycleHookReports.lookup report.source).getD
        { agentLabel := report.agentLabel
          sessionRef := none
          observedAt := now
          reason := .processExit
          replacementSessionRef := none
          pendingReplacementReport := none }) := by
    cases hEntry : s.suppressedFullLifecycleHookReports.lookup report.source with
    | none => exact hBlank
    | some suppressed => exact h.suppressions.kept _ _ hEntry
  refine ⟨⟨⟨h.suppressions.kept.insert ?_⟩, h.authority, h.session⟩, h.notStale⟩
  split
  · exact hOld
  refine ⟨?_, ?_⟩
  · intro pending hPending
    exact hOld.pending pending (Option.filter_eq_some_iff.1 hPending).1
  intro replacement hReplacement
  cases hReplacement
  exact hNamed

/-- An installed session start forgets or replaces sessions, and never leaves
an authority whose session it made stale. -/
theorem anchored_installSessionStart (h : Anchored history s) {report : SessionStartReport}
  (hSession : report.sessionRef = some sessionRef) (admission : SessionStartAdmission)
  (hMem : .sessionStart report now clock ∈ history) :
  Anchored history (s.installSessionStart report sessionRef admission now clock).1 := by
  have hStarted : SessionOf history
      { source := report.source, agent := report.agentLabel, sessionRef } :=
    Or.inl ⟨report, now, clock, hMem, rfl, hSession⟩
  have hPersist : ∀ t : TerminalState, Anchored history t → Anchored history
      { t with
        persistedAgentSession :=
          some { source := report.source, agent := report.agentLabel, sessionRef } } := by
    intro t hAnchored
    refine ⟨⟨hAnchored.suppressions.of_eq rfl, hAnchored.authority, ?_⟩, hAnchored.notStale⟩
    intro session hSome
    cases hSome
    exact hStarted
  have hForget : Anchored history
      (if admission.sessionReplacementAllowed || admission.foregroundTakeoverAllowed then
        s.forgetStaleFullLifecycleHookSession report.source report.agentLabel sessionRef
      else s) := by
    split
    · obtain ⟨_, hEq⟩ := s.forgetStaleFullLifecycleHookSession_eq report.source report.agentLabel
        sessionRef
      refine ⟨⟨h.suppressions.of_eq (by rw [hEq]), by rw [hEq]; exact h.authority,
        by rw [hEq]; exact h.session⟩, ?_⟩
      refine notStale_of_subset h.notStale (by rw [hEq]) ?_
      intro key stale hStale
      exact (mem_staleSessionsOf_forget.1 hStale).1
    · exact h
  unfold installSessionStart
  refine (hPersist _ (Anchored.reconcile ?_ _ _)).recompute _ _
  generalize (if admission.sessionReplacementAllowed || admission.foregroundTakeoverAllowed then
    s.forgetStaleFullLifecycleHookSession report.source report.agentLabel sessionRef
    else s) = t at hForget
  cases admission.replacedHookSession with
  | some replaced =>
    exact anchored_of_no_authority (hForget.suppressions.of_eq rfl) rfl hForget.session
  | none =>
    dsimp only
    split
    · obtain ⟨_, hEq⟩ := t.suppressCurrentFullLifecycleHookAuthority_eq .hookClear clock
      refine anchored_of_no_authority
        ((hForget.suppressions.suppressCurrent .hookClear clock).of_eq rfl) rfl ?_
      rw [hEq]
      exact hForget.session
    · exact hForget

theorem anchored_sessionStart (h : Anchored history s) {report : SessionStartReport}
  (hMem : .sessionStart report now clock ∈ history)
  (hKeeps : s.sessionStartRetiresLiveSession report now = false) :
  Anchored history (s.setAgentSessionRefForSessionStart report now clock).1 := by
  have hOutcome := s.setAgentSessionRefForSessionStart_outcome report now clock
  generalize (s.setAgentSessionRefForSessionStart report now clock).2.isSome = accepted at hOutcome
  generalize (s.setAgentSessionRefForSessionStart report now clock).1 = t at hOutcome ⊢
  cases hOutcome with
  | rejected => exact h
  | sequenced hPassed => exact h.sequenced _ _
  | noted sessionRef seq hNotes hAbsent => exact anchored_recordReplacementSession h hNotes hMem
  | validated sessionRef seq hNotes hPresent =>
    refine (anchored_clearSuppression (anchored_recordReplacementSession h hNotes hMem)
      ?_).recompute _ _
    intro _
    have hRetires := hKeeps
    unfold sessionStartRetiresLiveSession at hRetires
    simpa [hNotes.gated, hPresent, hNotes.session, hNotes.sequenced, hNotes.fresh,
      hNotes.recognized] using hRetires
  | installed sessionRef admission hSession hOpen hPassed hAdmit =>
    exact anchored_installSessionStart (h.sequenced _ _) hSession admission hMem

/-! ## Clears and releases -/

theorem anchored_dropHookAuthority (h : Anchored history s) (clock : Instant)
  (previous : Previous) (now : Instant) :
  Anchored history ((s.dropHookAuthority clock).recomputeEffectiveState previous now).1 := by
  refine (anchored_of_no_authority ?_ rfl ?_).recompute previous now
  · exact (h.suppressions.suppressCurrent .hookClear clock).of_eq rfl
  · intro session hNone
    cases hNone

theorem anchored_hookClear (h : Anchored history s) (source : Option String) (seq : Option Nat)
  (now clock : Instant) :
  Anchored history (s.clearHookAuthorityWithMutation source seq now clock).1 := by
  rcases s.clearHookAuthorityWithMutation_cases source seq now clock with
    hSame | ⟨speaker, t, changed, -, hPassed, hCleared⟩
  · rw [hSame]
    exact h
  · have hSequenced := h.sequenced speaker seq
    rw [hPassed] at hSequenced
    rw [hCleared]
    exact anchored_dropHookAuthority hSequenced clock (t.previous now) now

theorem giveUpAgent_hookAuthority (s : TerminalState) (source agentLabel : String)
  (clock : Instant) : (s.giveUpAgent source agentLabel clock).hookAuthority = none := by
  unfold giveUpAgent
  dsimp only
  split <;> rfl

theorem giveUpAgent_kept (h : SuppressionsKept history s) (source agentLabel : String)
  (clock : Instant) : SuppressionsKept history (s.giveUpAgent source agentLabel clock) := by
  refine (h.suppressReport source agentLabel .hookClear clock).of_eq ?_
  unfold giveUpAgent
  dsimp only
  split <;> split <;> rfl

theorem giveUpAgent_session (s : TerminalState) (source agentLabel : String) (clock : Instant)
  {session : PersistedAgentSession}
  (hSession : (s.giveUpAgent source agentLabel clock).persistedAgentSession = some session) :
  s.persistedAgentSession = some session := by
  obtain ⟨_, hEq⟩ := s.suppressFullLifecycleHookReport_eq source agentLabel .hookClear clock
  unfold giveUpAgent at hSession
  dsimp only at hSession
  rw [hEq] at hSession
  split at hSession
  · split at hSession <;> exact hSession
  · cases hSession

theorem anchored_release (h : Anchored history s) (source agentLabel : String)
  (seq : Option Nat) (now clock : Instant) :
  Anchored history (s.releaseAgentWithMutation source agentLabel seq now clock).1 := by
  rcases s.releaseAgentWithMutation_cases source agentLabel seq now clock with
    hSame | ⟨t, changed, released, hPassed, hGiven⟩
  · rw [hSame]
    exact h
  · have hSequenced := h.sequenced source seq
    rw [hPassed] at hSequenced
    rw [hGiven]
    refine (anchored_of_no_authority (giveUpAgent_kept hSequenced.suppressions ..)
      (giveUpAgent_hookAuthority ..) ?_).recompute (t.previous now) now
    intro session hSession
    exact hSequenced.session session (t.giveUpAgent_session source agentLabel clock hSession)

/-! ## Whole runs -/

/-- One report or detection that keeps sessions keeps them anchored. -/
theorem anchored_step (h : Anchored history s) {op : TerminalOp} (hKeeps : KeepsSessions s op) :
  Anchored (history ++ [op]) (s.step op) := by
  have hHistory : Anchored (history ++ [op]) s := h.append
  have hMem : op ∈ history ++ [op] := by simp
  cases op with
  | hookReport report now clock => exact anchored_hookReport hHistory hMem hKeeps.2
  | sessionStart report now clock => exact anchored_sessionStart hHistory hMem hKeeps.2
  | detection detection now clock => exact anchored_detection hHistory detection now clock hKeeps.2
  | hookClear source seq now clock => exact anchored_hookClear hHistory source seq now clock
  | release source agentLabel seq now clock =>
    exact anchored_release hHistory source agentLabel seq now clock
  | _ => exact absurd hKeeps.1 (by simp [TerminalOp.isReport])

theorem anchored_new : Anchored [] new := by
  refine ⟨⟨⟨FinMap.Forall.empty⟩, ?_, ?_⟩, notStale_of_none rfl⟩
  · intro authority hAuthority
    cases hAuthority
  · intro session hSession
    cases hSession

/-- An accepted state report is recorded as it was reported. -/
def RecordsAsReported (s : TerminalState) (op : TerminalOp) : Prop :=
  match op with
  | .hookReport report now _ => s.accepts op = true →
      (s.step op).hookAuthority = some (report.authority report.sessionRef now)
  | _ => True

theorem recordsAsReported_of_keeps {op : TerminalOp} (hKeeps : KeepsSessions s op) :
  RecordsAsReported s op := by
  cases op with
  | hookReport report now clock =>
    intro hAccepted
    simp only [accepts, step] at hAccepted ⊢
    have hOutcome := s.setHookAuthorityAt_outcome report now clock
    generalize s.setHookAuthorityAt report now clock = result at hOutcome hAccepted ⊢
    cases hOutcome with
    | rejected => cases hAccepted
    | buffered sessionRef seq hBuffers => cases hAccepted
    | accepted admission hAccepts sequenced hSequenced =>
      rw [installHookAuthority_hookAuthority, (admitHookReport_some hAccepts.admitted).2.1,
        recordedSessionRef_of_accepts hAccepts hKeeps.2]
  | _ => trivial

/-- The sessions of a terminal are kept apart: the authority's session is not
stale, every authority and session comes from a report under that report's own
session, and the next state report is recorded as reported. -/
def SessionsKeptApart (history : List TerminalOp) (s : TerminalState) (next : TerminalOp) : Prop :=
  AuthorityIsNotStale s ∧
    (∀ authority, s.hookAuthority = some authority → RecordOf history authority) ∧
      (∀ session, s.persistedAgentSession = some session → SessionOf history session) ∧
        RecordsAsReported s next

/-- Sessions are kept apart in every state of every run of reports and
detections whose steps neither record a report under the current session of
its owner instead of its own, nor retire the session of an authority they
leave in place. -/
theorem sessions_kept_apart_of_runs {ops : List TerminalOp} {s : TerminalState}
  (hRun : Run (restrict (ofFunction step) KeepsSessions) new ops s) {next : TerminalOp}
  (hNext : KeepsSessions s next) : SessionsKeptApart ops s next := by
  have hAnchored : Anchored ops s := by
    refine Run.preserves_history hRun anchored_new ?_
    rintro history u op v hInv ⟨rfl, hKeeps⟩
    exact anchored_step hInv hKeeps
  exact ⟨hAnchored.notStale, hAnchored.authority, hAnchored.session,
    recordsAsReported_of_keeps hNext⟩

/-- Runs of reports and detections of any kind. -/
abbrev ReportRuns : TerminalState → List TerminalOp → TerminalState → Prop :=
  Run (restrict (ofFunction step) fun _ op => TerminalOp.isReport op = true)

/-- Kimi starts a session and reports from it. -/
def kimiSessionRun : List TerminalOp :=
  [.detection ⟨some .kimi, .idle, false, false, false, false⟩ 1 1,
    .sessionStart ⟨"herdr:kimi", "kimi", some ⟨.id, "a"⟩, some 1, some "startup"⟩ 2 2,
    .hookReport ⟨"herdr:kimi", "kimi", .working, none, some ⟨.id, "a"⟩, some 2⟩ 3 3]

theorem sessions_kept_apart_kimi_run :
  SessionsKeptApart kimiSessionRun (kimiSessionRun.foldl step new)
    (.hookReport ⟨"herdr:kimi", "kimi", .idle, none, some ⟨.id, "a"⟩, some 3⟩ 4 4) :=
  sessions_kept_apart_of_runs (run_of_allowedAlong (by decide)) (by decide)

/-- Another agent takes Kimi's place and leaves again. -/
def clearedHookRun : List TerminalOp :=
  kimiSessionRun ++
    [.detection ⟨some .codex, .idle, false, false, false, false⟩ 4 4,
      .detection ⟨none, .unknown, false, false, false, false⟩ 5 5]

/-- Kimi reports from a fresh session. -/
def freshSessionReport : TerminalOp :=
  .hookReport ⟨"herdr:kimi", "kimi", .working, none, some ⟨.id, "b"⟩, some 3⟩ 6 6

/-- Kimi resumes its session, reports from another one and starts that one. -/
def supersededSessionRun : List TerminalOp :=
  kimiSessionRun ++
    [.sessionStart ⟨"herdr:kimi", "kimi", some ⟨.id, "a"⟩, some 3, some "resume"⟩ 4 4,
      .hookReport ⟨"herdr:kimi", "kimi", .working, none, some ⟨.id, "b"⟩, some 4⟩ 5 5,
      .sessionStart ⟨"herdr:kimi", "kimi", some ⟨.id, "b"⟩, some 5, some "startup"⟩ 6 6]

/-- A fresh session's report is recorded under the cleared session, which it
leaves stale as well; a session start leaves a superseded authority in place. -/
theorem sessions_mixed_up :
  (∃ s, ReportRuns new clearedHookRun s ∧ ¬ RecordsAsReported s freshSessionReport ∧
      ∃ t, ReportRuns new (clearedHookRun ++ [freshSessionReport]) t ∧
        ¬ AuthorityIsNotStale t) ∧
    ∃ s, ReportRuns new supersededSessionRun s ∧ ¬ AuthorityIsNotStale s := by
  refine ⟨⟨_, run_of_allowedAlong (by decide), ?_, _, run_of_allowedAlong (by decide), ?_⟩,
    _, run_of_allowedAlong (by decide), ?_⟩
  · intro hRecords
    exact absurd (hRecords (by decide)) (by decide)
  · intro hNotStale
    exact hNotStale ⟨"herdr:kimi", "kimi", .working, none, 6, some ⟨.id, "a"⟩⟩ ⟨.id, "a"⟩
      (by decide) (by decide) rfl (by decide)
  · intro hNotStale
    exact hNotStale ⟨"herdr:kimi", "kimi", .working, none, 3, some ⟨.id, "a"⟩⟩ ⟨.id, "a"⟩
      (by decide) (by decide) rfl (by decide)

end TerminalState

end Terminal
