import VimeflowTerminal.Terminal.Detection

/-! A session start names the session a source now runs. While the process is not
confirmed the start is only noted as a replacement; otherwise it becomes the
persisted session. A clear drops the hook authority, a release also gives the
agent up. -/

namespace Terminal

open Detect AgentResume

structure SessionStartReport where
  source : String
  agentLabel : String
  sessionRef : Option AgentSessionRef
  seq : Option Nat
  sessionStartSource : Option String
  deriving DecidableEq

def SessionStartReport.fullLifecycle (report : SessionStartReport) : Bool :=
  fullLifecycleHookAuthority report.source report.agentLabel

namespace TerminalState

/-- A full lifecycle source waits for process evidence before it changes session. -/
def sessionStartIsGated (s : TerminalState) (report : SessionStartReport) : Bool :=
  let processPresent := s.processPresent (parseAgentLabel report.agentLabel)
  let generationGated :=
    (s.suppressedFullLifecycleHookReports.lookup report.source).any fun suppressed =>
      suppressed.agentLabel == report.agentLabel && suppressed.reason != .hookClear
  let sessionAnchored := (s.hookAuthority.any fun authority =>
      authority.source == report.source && authority.agentLabel == report.agentLabel &&
        authority.sessionRef.isSome) ||
    s.persistedAgentSessionMatches report.source report.agentLabel
  report.fullLifecycle && (!processPresent || generationGated || !sessionAnchored)

/-- Name the session that replaces a suppressed one, dropping a buffered
report of another session. -/
def noteReplacementSession (s : TerminalState) (report : SessionStartReport)
  (sessionRef : AgentSessionRef) (now : Instant) : TerminalState :=
  let suppressed := (s.suppressedFullLifecycleHookReports.lookup report.source).getD
    { agentLabel := report.agentLabel
      sessionRef := none
      observedAt := now
      reason := .processExit
      replacementSessionRef := none
      pendingReplacementReport := none }
  { s with
    suppressedFullLifecycleHookReports :=
      s.suppressedFullLifecycleHookReports.insert report.source
        (if suppressed.replacementSessionRef = some sessionRef then suppressed
        else
          { suppressed with
            replacementSessionRef := some sessionRef
            pendingReplacementReport := suppressed.pendingReplacementReport.filter fun pending =>
              pending.authority.sessionRef == some sessionRef }) }

/-- A noted replacement uses up its sequence number. -/
def recordReplacementSession (s : TerminalState) (report : SessionStartReport)
  (sessionRef : AgentSessionRef) (seq : Nat) (now : Instant) : TerminalState :=
  let s := s.noteReplacementSession report sessionRef now
  { s with hookReportSequences := s.hookReportSequences.insert report.source seq }

/-- A gated start only changes the session if the process is present. -/
def gatedSessionStart (s : TerminalState) (report : SessionStartReport)
  (sessionRef : AgentSessionRef) (now : Instant) :
  TerminalState × Option TerminalStateMutation :=
  if !sessionStartSourceIsRecognized report.sessionStartSource then (s, none)
  else
    match report.seq with
    | none => (s, none)
    | some seq =>
      if s.sequenceIsStale report.source seq then (s, none)
      else
        let previous := s.previous now
        let previousSession := s.currentSessionIdentityForPersistence
        let knownAgent := parseAgentLabel report.agentLabel
        let processPresent := s.processPresent knownAgent
        let s := s.recordReplacementSession report sessionRef seq now
        if processPresent then
          let s := s.clearFullLifecycleHookSuppressionForDetectedAgent none knownAgent
          let (s, mutation) := s.finish previous now
            (decide (previousSession ≠ s.currentSessionIdentityForPersistence)) false
          (s, some mutation)
        else (s, none)

def sameOwnerFullLifecycleHookAuthoritySessionRef (s : TerminalState) (source agentLabel : String)
  (sessionRef : AgentSessionRef) : Option AgentSessionRef :=
  s.hookAuthority.bind fun authority =>
    if fullLifecycleHookAuthority authority.source authority.agentLabel = true ∧
        authority.source = source ∧ authority.agentLabel = agentLabel then
      authority.sessionRef.filter fun current => current != sessionRef
    else none

structure SessionStartAdmission where
  sessionReplacementAllowed : Bool
  foregroundTakeoverAllowed : Bool
  replacedHookSession : Option AgentSessionRef

def replacesIdentityOnlySession (s : TerminalState) (report : SessionStartReport)
  (sessionRef : AgentSessionRef) : Bool :=
  sessionIdentityOnlyIntegration report.source report.agentLabel &&
    sessionReportAllowsSessionReplacement report.source report.agentLabel
      report.sessionStartSource &&
    s.currentSessionIdentityForPersistence.any fun current =>
      current.source == report.source && current.agent == report.agentLabel &&
        current.sessionRef.kind == .id && sessionRef.kind == .id &&
          current.sessionRef.value != sessionRef.value

def admitSessionStart (s : TerminalState) (report : SessionStartReport)
  (sessionRef : AgentSessionRef) : Option SessionStartAdmission :=
  if s.knownAgentLabelConflictsWithDetectedAgent report.agentLabel then none
  else
    let sessionReplacementAllowed := sessionReportAllowsSessionReplacement report.source
      report.agentLabel report.sessionStartSource
    if s.replacesIdentityOnlySession report sessionRef &&
        !s.processPresent (parseAgentLabel report.agentLabel) then none
    else
      let ownerConflicts := s.currentSessionOwnerConflicts report.source report.agentLabel
      let foregroundTakeoverAllowed := ownerConflicts &&
        s.foregroundAgentConfirmsDifferentOwnerTakeover report.source report.agentLabel sessionRef
          report.sessionStartSource
      if ownerConflicts && !foregroundTakeoverAllowed then none
      else if (s.conflictingSameOwnerSessionRef report.source report.agentLabel sessionRef
          report.sessionStartSource).isSome then none
      else
        let replacedHookSession := s.sameOwnerFullLifecycleHookAuthoritySessionRef report.source
          report.agentLabel sessionRef
        if replacedHookSession.isSome && !sessionReplacementAllowed then none
        else some { sessionReplacementAllowed, foregroundTakeoverAllowed, replacedHookSession }

def installSessionStart (s : TerminalState) (report : SessionStartReport)
  (sessionRef : AgentSessionRef) (admission : SessionStartAdmission) (now clock : Instant) :
  TerminalState × TerminalStateMutation :=
  let previous := s.previous now
  let previousSession := s.currentSessionIdentityForPersistence
  let s := if admission.sessionReplacementAllowed || admission.foregroundTakeoverAllowed then
      s.forgetStaleFullLifecycleHookSession report.source report.agentLabel sessionRef
    else s
  let s := match admission.replacedHookSession with
    | some replaced =>
      { s.rememberStaleFullLifecycleHookSession report.source report.agentLabel replaced with
        hookAuthority := none }
    | none =>
      if admission.foregroundTakeoverAllowed then
        { s.suppressCurrentFullLifecycleHookAuthority .hookClear clock with
          hookAuthority := none }
      else s
  let s := s.reconcileAgentNameOwner report.agentLabel (some sessionRef)
  let s := { s with
    persistedAgentSession := some {
      source := report.source
      agent := report.agentLabel
      sessionRef } }
  s.finish previous now
    (decide (previousSession ≠ s.currentSessionIdentityForPersistence)) false

/-- `now` and `clock` are the two clock reads of an accepted start. -/
def setAgentSessionRefForSessionStart (s : TerminalState) (report : SessionStartReport)
  (now clock : Instant) : TerminalState × Option TerminalStateMutation :=
  match report.sessionRef with
  | none => (s, none)
  | some sessionRef =>
    if s.sessionStartIsGated report then s.gatedSessionStart report sessionRef now
    else
      match s.acceptHookReport report.source report.seq with
      | (s, false) => (s, none)
      | (s, true) =>
        match s.admitSessionStart report sessionRef with
        | none => (s, none)
        | some admission =>
          let (s, mutation) := s.installSessionStart report sessionRef admission now clock
          (s, some mutation)

/-- The conditions under which a gated start is noted. -/
structure NotesReplacement (s : TerminalState) (report : SessionStartReport)
  (sessionRef : AgentSessionRef) (seq : Nat) : Prop where
  session : report.sessionRef = some sessionRef
  gated : s.sessionStartIsGated report = true
  recognized : sessionStartSourceIsRecognized report.sessionStartSource = true
  sequenced : report.seq = some seq
  fresh : s.sequenceIsStale report.source seq = false

/-- What a session start can do: the state it leaves, and whether it is
accepted. -/
inductive SessionStartOutcome (s : TerminalState) (report : SessionStartReport)
  (now clock : Instant) : TerminalState → Bool → Prop where
  | rejected : SessionStartOutcome s report now clock s false
  | sequenced (hPassed : (s.acceptHookReport report.source report.seq).2 = true) :
      SessionStartOutcome s report now clock
        (s.acceptHookReport report.source report.seq).1 false
  | noted (sessionRef : AgentSessionRef) (seq : Nat)
      (hNotes : NotesReplacement s report sessionRef seq)
      (hAbsent : s.processPresent (parseAgentLabel report.agentLabel) = false) :
      SessionStartOutcome s report now clock
        (s.recordReplacementSession report sessionRef seq now) false
  | validated (sessionRef : AgentSessionRef) (seq : Nat)
      (hNotes : NotesReplacement s report sessionRef seq)
      (hPresent : s.processPresent (parseAgentLabel report.agentLabel) = true) :
      SessionStartOutcome s report now clock
        (((s.recordReplacementSession report sessionRef seq
          now).clearFullLifecycleHookSuppressionForDetectedAgent none
            (parseAgentLabel report.agentLabel)).recomputeEffectiveState (s.previous now) now).1
        true
  | installed (sessionRef : AgentSessionRef) (admission : SessionStartAdmission)
      (hSession : report.sessionRef = some sessionRef)
      (hOpen : s.sessionStartIsGated report = false)
      (hPassed : (s.acceptHookReport report.source report.seq).2 = true)
      (hAdmit : (s.acceptHookReport report.source report.seq).1.admitSessionStart report
        sessionRef = some admission) :
      SessionStartOutcome s report now clock
        ((s.acceptHookReport report.source report.seq).1.installSessionStart report sessionRef
          admission now clock).1 true

theorem gatedSessionStart_outcome (s : TerminalState) (report : SessionStartReport)
  {sessionRef : AgentSessionRef} (hSession : report.sessionRef = some sessionRef)
  (hGated : s.sessionStartIsGated report = true) (now clock : Instant) :
  SessionStartOutcome s report now clock (s.gatedSessionStart report sessionRef now).1
    (s.gatedSessionStart report sessionRef now).2.isSome := by
  unfold gatedSessionStart
  split
  · exact .rejected
  next hKnown =>
    have hRecognized : sessionStartSourceIsRecognized report.sessionStartSource = true := by
      simpa using hKnown
    cases hSeq : report.seq with
    | none => exact .rejected
    | some seq =>
      dsimp only
      split
      · exact .rejected
      next hFresh =>
        have hNotes : NotesReplacement s report sessionRef seq :=
          ⟨hSession, hGated, hRecognized, hSeq, Bool.eq_false_iff.2 hFresh⟩
        split
        next hPresent => exact .validated sessionRef seq hNotes hPresent
        next hAbsent => exact .noted sessionRef seq hNotes (Bool.eq_false_iff.2 hAbsent)

theorem acceptHookReport_rejected {s : TerminalState} {source : String} {seq : Option Nat}
  (hRejected : (s.acceptHookReport source seq).2 = false) :
  (s.acceptHookReport source seq).1 = s :=
  acceptHookReport_reanchored s source seq false hRejected

/-- Every session start has one of the five outcomes. -/
theorem setAgentSessionRefForSessionStart_outcome (s : TerminalState)
  (report : SessionStartReport) (now clock : Instant) :
  SessionStartOutcome s report now clock
    (s.setAgentSessionRefForSessionStart report now clock).1
    (s.setAgentSessionRefForSessionStart report now clock).2.isSome := by
  unfold setAgentSessionRefForSessionStart
  cases hSession : report.sessionRef with
  | none => exact .rejected
  | some sessionRef =>
    dsimp only
    cases hGated : s.sessionStartIsGated report with
    | true =>
      rw [if_pos rfl]
      exact s.gatedSessionStart_outcome report hSession hGated now clock
    | false =>
      rw [if_neg Bool.false_ne_true]
      cases hPassed : (s.acceptHookReport report.source report.seq).2 with
      | false =>
        have hSame := acceptHookReport_rejected hPassed
        rw [← Prod.eta (s.acceptHookReport report.source report.seq), hPassed, hSame]
        exact .rejected
      | true =>
        rw [← Prod.eta (s.acceptHookReport report.source report.seq), hPassed]
        dsimp only
        cases hAdmit : (s.acceptHookReport report.source report.seq).1.admitSessionStart
            report sessionRef with
        | none => exact .sequenced hPassed
        | some admission =>
          exact .installed sessionRef admission hSession hGated hPassed hAdmit

def setPersistedAgentSession (s : TerminalState) (session : PersistedAgentSession) :
  TerminalState :=
  { s with persistedAgentSession := some session }

/-- Drop the authority and its session; its source stays suppressed. -/
def dropHookAuthority (s : TerminalState) (clock : Instant) : TerminalState :=
  { s.suppressCurrentFullLifecycleHookAuthority .hookClear clock with
    hookAuthority := none
    persistedAgentSession := none }

def clearHookAuthorityWithMutation (s : TerminalState) (source : Option String) (seq : Option Nat)
  (now clock : Instant) : TerminalState × Option TerminalStateMutation :=
  match s.hookAuthority with
  | none => (s, none)
  | some authority =>
    if source.any fun source => authority.source != source then (s, none)
    else
      match s.acceptHookReport (source.getD authority.source) seq with
      | (s, false) => (s, none)
      | (s, true) =>
        let previous := s.previous now
        let previousSession := s.currentSessionIdentityForPersistence
        let s := s.dropHookAuthority clock
        let (s, mutation) := s.finish previous now previousSession.isSome false
        (s, some mutation)

/-- A clear is turned away, or the source that is named, else that of the authority, drops it. -/
theorem clearHookAuthorityWithMutation_cases (s : TerminalState) (source : Option String)
  (seq : Option Nat) (now clock : Instant) :
  s.clearHookAuthorityWithMutation source seq now clock = (s, none) ∨
    ∃ speaker t changed, source.or (s.hookAuthority.map HookAuthority.source) = some speaker ∧
      s.acceptHookReport speaker seq = (t, true) ∧
      s.clearHookAuthorityWithMutation source seq now clock =
        ((t.dropHookAuthority clock).finish (t.previous now) now changed false).map id some := by
  unfold clearHookAuthorityWithMutation
  cases s.hookAuthority with
  | none => exact Or.inl rfl
  | some authority =>
    dsimp only
    split
    · exact Or.inl rfl
    rcases hPassed : s.acceptHookReport (source.getD authority.source) seq with ⟨t, accepted⟩
    cases accepted with
    | false =>
      cases hPassed ▸ acceptHookReport_rejected (congrArg Prod.snd hPassed)
      exact Or.inl rfl
    | true => exact Or.inr ⟨_, t, _, by cases source <;> rfl, hPassed, rfl⟩

/-- The agent's process is still running, so a release leaves it to detection. -/
def processOwnsAgent (s : TerminalState) (agentLabel : String) : Bool :=
  (parseAgentLabel agentLabel).any fun agent =>
    s.detectedAgent == some agent && s.recentAgentProcessExit.isNone

def forgetDetection (s : TerminalState) : TerminalState :=
  { s with
    detectedAgent := none
    fallbackState := .unknown
    fallbackVisibleBlocker := false
    fallbackObservedAt := none }

def releaseAdmitted (s : TerminalState) (source agentLabel : String) : Bool :=
  !(s.hookAuthority.any fun authority =>
      authority.agentLabel != agentLabel || authority.source != source) &&
    (s.effectiveAgentLabel == some agentLabel || s.persistedAgentSessionMatches source agentLabel)

/-- Give the authority up, and the agent too unless its process still runs. -/
def giveUpAgent (s : TerminalState) (source agentLabel : String) (clock : Instant) :
  TerminalState :=
  let preserveForeignPersistedSession := s.persistedAgentSession.any fun session =>
    session.source != source || session.agent != agentLabel
  let processOwnsAgent := s.processOwnsAgent agentLabel
  let s := s.suppressFullLifecycleHookReport source agentLabel .hookClear clock
  let s := if processOwnsAgent then s else s.forgetDetection.clearAgentName
  let s := { s with hookAuthority := none }
  if preserveForeignPersistedSession then s else { s with persistedAgentSession := none }

def releaseAgentWithMutation (s : TerminalState) (source agentLabel : String) (seq : Option Nat)
  (now clock : Instant) : TerminalState × Option TerminalStateMutation :=
  if !s.releaseAdmitted source agentLabel then (s, none)
  else
    match s.acceptHookReport source seq with
    | (s, false) => (s, none)
    | (s, true) =>
      let processOwnsAgent := s.processOwnsAgent agentLabel
      let previous := s.previous now
      let previousSession := s.currentSessionIdentityForPersistence
      let s := s.giveUpAgent source agentLabel clock
      let (s, mutation) := s.finish previous now
        (decide (previousSession ≠ s.currentSessionIdentityForPersistence)) (!processOwnsAgent)
      (s, some mutation)

theorem releaseAgentWithMutation_cases (s : TerminalState) (source agentLabel : String)
  (seq : Option Nat) (now clock : Instant) :
  s.releaseAgentWithMutation source agentLabel seq now clock = (s, none) ∨
    ∃ t changed released, s.acceptHookReport source seq = (t, true) ∧
      s.releaseAgentWithMutation source agentLabel seq now clock =
        ((t.giveUpAgent source agentLabel clock).finish (t.previous now) now changed
          released).map id some := by
  unfold releaseAgentWithMutation
  split
  · exact Or.inl rfl
  rcases hPassed : s.acceptHookReport source seq with ⟨t, accepted⟩
  cases accepted with
  | false =>
    cases hPassed ▸ acceptHookReport_rejected (congrArg Prod.snd hPassed)
    exact Or.inl rfl
  | true => exact Or.inr ⟨t, _, _, rfl, rfl⟩

end TerminalState

end Terminal
