import VimeflowTerminal.Terminal.Presentation

/-! The helpers shared by hook reports, session starts and detections: which
session the terminal currently belongs to, which sessions of a source are
stale, which sources are suppressed, and who owns the agent's name. -/

namespace Terminal

open Detect AgentResume

namespace TerminalState

def persistedAgentSessionMatches (s : TerminalState) (source agent : String) : Bool :=
  s.persistedAgentSession.any fun session => session.source == source && session.agent == agent

/-- The session of the hook authority, or the persisted one. -/
def currentSessionIdentityForPersistence (s : TerminalState) : Option PersistedAgentSession :=
  (s.hookAuthority.bind fun authority => authority.sessionRef.map fun sessionRef =>
    { source := authority.source, agent := authority.agentLabel, sessionRef }).or
    s.persistedAgentSession

def currentSessionOwnerConflicts (s : TerminalState) (source agentLabel : String) : Bool :=
  s.currentSessionIdentityForPersistence.any fun current =>
    current.source != source || current.agent != agentLabel

def sessionStartSourceIsRecognized (sessionStartSource : Option String) : Bool :=
  match sessionStartSource with
  | some "startup" | some "clear" | some "resume" | some "compact" | some "new" | some "fork" =>
    true
  | _ => false

def sessionReportAllowsSessionReplacement (source agentLabel : String)
  (sessionStartSource : Option String) : Bool :=
  match source, agentLabel, sessionStartSource with
  | "herdr:claude", "claude", some "clear" | "herdr:claude", "claude", some "resume"
  | "herdr:claude", "claude", some "compact" => true
  | "herdr:codex", "codex", some "startup" | "herdr:codex", "codex", some "clear"
  | "herdr:codex", "codex", some "resume" | "herdr:codex", "codex", some "compact" => true
  | "herdr:mastracode", "mastracode", some "startup" => true
  | "herdr:hermes", "hermes", some "startup" | "herdr:hermes", "hermes", some "new"
  | "herdr:hermes", "hermes", some "resume" => true
  | "herdr:opencode", "opencode", some "new" => true
  | "herdr:pi", "pi", some "new" | "herdr:pi", "pi", some "resume"
  | "herdr:pi", "pi", some "fork" => true
  | "herdr:omp", "omp", some "startup" | "herdr:omp", "omp", some "new"
  | "herdr:omp", "omp", some "resume" | "herdr:omp", "omp", some "fork" => true
  | "herdr:antigravity_cli", "agy", none => true
  | _, _, _ => false

/-- The same owner's current session, when the report names another one by id
and may not replace it. -/
def conflictingSameOwnerSessionRef (s : TerminalState) (source agentLabel : String)
  (sessionRef : AgentSessionRef) (sessionStartSource : Option String) :
  Option AgentSessionRef :=
  s.currentSessionIdentityForPersistence.bind fun current =>
    if current.source = source ∧ current.agent = agentLabel ∧ current.sessionRef.kind = .id ∧
        sessionRef.kind = .id ∧ current.sessionRef.value ≠ sessionRef.value ∧
        sessionReportAllowsSessionReplacement source agentLabel sessionStartSource = false then
      some current.sessionRef
    else none

def lifecycleHookReportReplacesPersistedSession (s : TerminalState) (source agentLabel : String)
  (sessionRef : AgentSessionRef) : Bool :=
  s.hookAuthority.isNone && (source == "herdr:mastracode" && agentLabel == "mastracode") &&
    s.persistedAgentSession.any fun session =>
      session.source == source && session.agent == agentLabel && session.sessionRef.kind == .id &&
        sessionRef.kind == .id && session.sessionRef.value != sessionRef.value

def knownAgentLabelConflictsWithDetectedAgent (s : TerminalState) (agentLabel : String) : Bool :=
  s.detectedAgent.any fun detected =>
    (parseAgentLabel agentLabel).any fun hookAgent => hookAgent != detected

def foregroundAgentConfirmsSessionOwner (s : TerminalState) (source agentLabel : String)
  (sessionRef : AgentSessionRef) : Bool :=
  s.detectedAgent.any fun detected =>
    parseAgentLabel agentLabel == some detected && (plan source agentLabel sessionRef).isSome

def foregroundAgentConfirmsHookAuthorityTakeover (s : TerminalState) (source agentLabel : String)
  (sessionRef : Option AgentSessionRef) : Bool :=
  sessionRef.any fun sessionRef =>
    s.foregroundAgentConfirmsSessionOwner source agentLabel sessionRef

def foregroundAgentConfirmsDifferentOwnerTakeover (s : TerminalState) (source agentLabel : String)
  (sessionRef : AgentSessionRef) (sessionStartSource : Option String) : Bool :=
  sessionStartSourceIsRecognized sessionStartSource &&
    s.foregroundAgentConfirmsSessionOwner source agentLabel sessionRef

/-- The stale sessions remembered for a source. -/
def staleSessionsOf (s : TerminalState) (source : String) : List StaleFullLifecycleHookSession :=
  (s.staleFullLifecycleHookSessions.lookup source).getD []

def rememberStaleFullLifecycleHookSession (s : TerminalState) (source agentLabel : String)
  (sessionRef : AgentSessionRef) : TerminalState :=
  let staleSession : StaleFullLifecycleHookSession := { agentLabel, sessionRef }
  let sourceStaleSessions := s.staleSessionsOf source
  { s with
    staleFullLifecycleHookSessions := s.staleFullLifecycleHookSessions.insert source
      (if staleSession ∈ sourceStaleSessions then sourceStaleSessions
        else sourceStaleSessions ++ [staleSession]) }

def forgetStaleFullLifecycleHookSession (s : TerminalState) (source agentLabel : String)
  (sessionRef : AgentSessionRef) : TerminalState :=
  match s.staleFullLifecycleHookSessions.lookup source with
  | none => s
  | some staleSessions =>
    let kept := staleSessions.filter fun stale =>
      stale.agentLabel != agentLabel || stale.sessionRef != sessionRef
    { s with
      staleFullLifecycleHookSessions :=
        if kept.isEmpty then s.staleFullLifecycleHookSessions.erase source
        else s.staleFullLifecycleHookSessions.insert source kept }

def fullLifecycleHookReportMatchesStaleSession (s : TerminalState) (source agentLabel : String)
  (sessionRef : Option AgentSessionRef) : Bool :=
  fullLifecycleHookAuthority source agentLabel &&
    (s.staleFullLifecycleHookSessions.lookup source).any fun staleSessions =>
      sessionRef.any fun incoming =>
        staleSessions.any fun stale =>
          stale.agentLabel == agentLabel && incoming == stale.sessionRef

def fullLifecycleHookReportHasFreshSessionAfterStaleSession (s : TerminalState)
  (source agentLabel : String) (sessionRef : Option AgentSessionRef) : Bool :=
  fullLifecycleHookAuthority source agentLabel &&
    (s.staleFullLifecycleHookSessions.lookup source).any fun staleSessions =>
      (staleSessions.any fun stale => stale.agentLabel == agentLabel) &&
        sessionRef.any fun incoming =>
          staleSessions.all fun stale =>
            stale.agentLabel != agentLabel || incoming != stale.sessionRef

theorem staleSessionsOf_remember_self (s : TerminalState) (source agentLabel : String)
  (sessionRef : AgentSessionRef) :
  (s.rememberStaleFullLifecycleHookSession source agentLabel sessionRef).staleSessionsOf source =
    if ⟨agentLabel, sessionRef⟩ ∈ s.staleSessionsOf source then s.staleSessionsOf source
    else s.staleSessionsOf source ++ [⟨agentLabel, sessionRef⟩] := by
  show ((AList.insert source _ s.staleFullLifecycleHookSessions).lookup source).getD [] = _
  rw [AList.lookup_insert]
  rfl

variable {s : TerminalState} {source agentLabel : String} {sessionRef : AgentSessionRef}

theorem mem_staleSessionsOf_remember {key : String} {stale : StaleFullLifecycleHookSession} :
  stale ∈ (s.rememberStaleFullLifecycleHookSession source agentLabel sessionRef).staleSessionsOf
      key ↔
    stale ∈ s.staleSessionsOf key ∨ key = source ∧ stale = ⟨agentLabel, sessionRef⟩ := by
  by_cases hKey : key = source
  · subst hKey
    rw [staleSessionsOf_remember_self]
    split
    next hOld =>
      constructor
      · exact Or.inl
      · rintro (hMem | ⟨-, rfl⟩)
        · exact hMem
        · exact hOld
    next => simp
  · simp [rememberStaleFullLifecycleHookSession, staleSessionsOf, AList.lookup_insert_ne hKey, hKey]

theorem mem_staleSessionsOf_forget {key : String} {stale : StaleFullLifecycleHookSession} :
  stale ∈ (s.forgetStaleFullLifecycleHookSession source agentLabel sessionRef).staleSessionsOf
      key ↔
    stale ∈ s.staleSessionsOf key ∧ ¬(key = source ∧ stale = ⟨agentLabel, sessionRef⟩) := by
  have hEta : stale = ⟨agentLabel, sessionRef⟩ ↔
      stale.agentLabel = agentLabel ∧ stale.sessionRef = sessionRef := by
    cases stale
    simp
  unfold forgetStaleFullLifecycleHookSession
  cases hEntry : s.staleFullLifecycleHookSessions.lookup source with
  | none =>
    by_cases hKey : key = source
    · subst hKey
      simp [staleSessionsOf, hEntry]
    · simp [hKey]
  | some staleSessions =>
    by_cases hKey : key = source
    · subst hKey
      by_cases hEmpty : (staleSessions.filter fun stale =>
          stale.agentLabel != agentLabel || stale.sessionRef != sessionRef).isEmpty = true
      · simp only [staleSessionsOf, hEmpty, if_true, AList.lookup_erase, hEntry, Option.getD_none,
          List.not_mem_nil, Option.getD_some, true_and, false_iff, not_and, not_not]
        intro hMem
        by_contra hNe
        have hKept := List.filter_eq_nil_iff.1 (List.isEmpty_iff.1 hEmpty) stale hMem
        rw [hEta] at hNe
        simp only [Bool.or_eq_true, bne_iff_ne, ne_eq, not_or, not_not] at hKept
        exact hNe hKept
      · simp only [staleSessionsOf, hEmpty, Bool.false_eq_true, if_false, AList.lookup_insert,
          hEntry, Option.getD_some, List.mem_filter, Bool.or_eq_true, bne_iff_ne, ne_eq,
          true_and, hEta, not_and_or]
    · by_cases hEmpty : (staleSessions.filter fun stale =>
          stale.agentLabel != agentLabel || stale.sessionRef != sessionRef).isEmpty = true
      · simp [staleSessionsOf, hEmpty, AList.lookup_erase_ne hKey, hKey]
      · simp [staleSessionsOf, hEmpty, AList.lookup_insert_ne hKey, hKey]

theorem forgetStaleFullLifecycleHookSession_eq (s : TerminalState) (source agentLabel : String)
  (sessionRef : AgentSessionRef) :
  ∃ stale, s.forgetStaleFullLifecycleHookSession source agentLabel sessionRef =
    { s with staleFullLifecycleHookSessions := stale } := by
  unfold forgetStaleFullLifecycleHookSession
  split
  · exact ⟨s.staleFullLifecycleHookSessions, rfl⟩
  · exact ⟨_, rfl⟩

theorem matchesStaleSession_iff (hFull : fullLifecycleHookAuthority source agentLabel = true) :
  s.fullLifecycleHookReportMatchesStaleSession source agentLabel (some sessionRef) = true ↔
    ⟨agentLabel, sessionRef⟩ ∈ s.staleSessionsOf source := by
  unfold fullLifecycleHookReportMatchesStaleSession staleSessionsOf
  cases s.staleFullLifecycleHookSessions.lookup source with
  | none => simp
  | some staleSessions =>
    simp only [hFull, Bool.true_and, Option.any_some, List.any_eq_true, Bool.and_eq_true,
      beq_iff_eq, Option.getD_some]
    constructor
    · rintro ⟨stale, hMem, rfl, rfl⟩
      exact hMem
    · intro hMem
      exact ⟨_, hMem, rfl, rfl⟩

def suppressFullLifecycleHookReportWithSessionRef (s : TerminalState) (source agentLabel : String)
  (sessionRef : Option AgentSessionRef) (reason : FullLifecycleHookSuppressionReason)
  (observedAt : Instant) : TerminalState :=
  { s with
    suppressedFullLifecycleHookReports := s.suppressedFullLifecycleHookReports.insert source
      { agentLabel, sessionRef, observedAt, reason, replacementSessionRef := none,
        pendingReplacementReport := none } }

/-- The current authority's source is suppressed at the time of the clock read. -/
def suppressCurrentFullLifecycleHookAuthority (s : TerminalState)
  (reason : FullLifecycleHookSuppressionReason) (clock : Instant) : TerminalState :=
  match s.hookAuthority with
  | none => s
  | some authority =>
    if fullLifecycleHookAuthority authority.source authority.agentLabel then
      s.suppressFullLifecycleHookReportWithSessionRef authority.source authority.agentLabel
        authority.sessionRef reason clock
    else s

def suppressFullLifecycleHookReport (s : TerminalState) (source agentLabel : String)
  (reason : FullLifecycleHookSuppressionReason) (clock : Instant) : TerminalState :=
  if fullLifecycleHookAuthority source agentLabel then
    s.suppressFullLifecycleHookReportWithSessionRef source agentLabel
      (s.hookAuthority.bind HookAuthority.sessionRef) reason clock
  else s

theorem suppressCurrentFullLifecycleHookAuthority_eq (s : TerminalState)
  (reason : FullLifecycleHookSuppressionReason) (clock : Instant) :
  ∃ suppressed, s.suppressCurrentFullLifecycleHookAuthority reason clock =
    { s with suppressedFullLifecycleHookReports := suppressed } := by
  unfold suppressCurrentFullLifecycleHookAuthority
  split
  · exact ⟨s.suppressedFullLifecycleHookReports, rfl⟩
  split
  · exact ⟨_, rfl⟩
  · exact ⟨s.suppressedFullLifecycleHookReports, rfl⟩

theorem suppressFullLifecycleHookReport_eq (s : TerminalState) (source agentLabel : String)
  (reason : FullLifecycleHookSuppressionReason) (clock : Instant) :
  ∃ suppressed, s.suppressFullLifecycleHookReport source agentLabel reason clock =
    { s with suppressedFullLifecycleHookReports := suppressed } := by
  unfold suppressFullLifecycleHookReport
  split
  · exact ⟨_, rfl⟩
  · exact ⟨s.suppressedFullLifecycleHookReports, rfl⟩

def clearAgentName (s : TerminalState) : TerminalState :=
  { s with agentName := none, agentNameOwner := none, managedAgent := none }

def reconcileAgentNameOwner (s : TerminalState) (agentLabel : String)
  (sessionRef : Option AgentSessionRef) : TerminalState :=
  if s.agentName.isNone then s
  else if s.managedAgent.any fun managed => parseAgentLabel agentLabel == some managed.kind then s
  else
    match s.agentNameOwner with
    | some owner =>
      if owner.agentLabel ≠ agentLabel ∨
          (owner.sessionRef.isSome ∧ sessionRef.isSome ∧ owner.sessionRef ≠ sessionRef) then
        { s with agentName := none, agentNameOwner := none }
      else if owner.sessionRef.isNone && sessionRef.isSome then
        { s with agentNameOwner := some { owner with sessionRef } }
      else s
    | none => { s with agentNameOwner := some { agentLabel, sessionRef } }

/-- Reconciling the owner of the name writes only the name and its owner. -/
theorem reconcileAgentNameOwner_eq (s : TerminalState) (agentLabel : String)
  (sessionRef : Option AgentSessionRef) :
  ∃ name owner, s.reconcileAgentNameOwner agentLabel sessionRef =
    { s with agentName := name, agentNameOwner := owner } := by
  unfold reconcileAgentNameOwner
  split
  · exact ⟨s.agentName, s.agentNameOwner, rfl⟩
  split
  · exact ⟨s.agentName, s.agentNameOwner, rfl⟩
  split
  · split
    · exact ⟨none, none, rfl⟩
    · split
      · exact ⟨s.agentName, _, rfl⟩
      · exact ⟨s.agentName, s.agentNameOwner, rfl⟩
  · exact ⟨s.agentName, _, rfl⟩

end TerminalState

end Terminal
