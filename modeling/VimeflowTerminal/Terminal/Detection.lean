import VimeflowTerminal.Terminal.HookReport

/-! The detector reports which agent it sees and in which state, and whether the
agent's process has exited. A detected agent lifts the suppressions of its
sources; an exit clears everything that belonged to the exited process. -/

namespace Terminal

open Detect AgentResume

/-- One report of the screen detector. The idle and working signals are
carried but not read by the arbitration. -/
structure ScreenDetection where
  agent : Option Agent
  fallbackState : AgentState
  visibleBlocker : Bool
  visibleIdle : Bool
  visibleWorking : Bool
  processExited : Bool
  deriving DecidableEq

/-- A session start confirmed by process evidence. -/
structure ValidatedReplacement where
  source : String
  agentLabel : String
  sessionRef : AgentSessionRef
  pending : Option PendingFullLifecycleHookReport
  deriving DecidableEq

/-- A session of a source that later reports must not revive. -/
structure RetiredSession where
  source : String
  agentLabel : String
  sessionRef : AgentSessionRef
  deriving DecidableEq

namespace SuppressedFullLifecycleHookReport

def concerns (suppressed : SuppressedFullLifecycleHookReport) (agent : Option Agent) : Bool :=
  parseAgentLabel suppressed.agentLabel == agent

/-- Detection of the agent keeps an exited process suppressed until a session
start names its replacement. -/
def keptOnDetection (suppressed : SuppressedFullLifecycleHookReport) (detected : Agent) : Bool :=
  !suppressed.concerns (some detected) ||
    (suppressed.reason == .processExit && suppressed.replacementSessionRef.isNone)

/-- The session that detection of the agent makes stale. -/
def retiredOnDetection (suppressed : SuppressedFullLifecycleHookReport) (detected : Agent)
  (source : String) : Option RetiredSession :=
  if !suppressed.concerns (some detected) then none
  else
    match suppressed.reason, suppressed.replacementSessionRef with
    | .processExit, none => none
    | .processExit, some replacement =>
      (suppressed.sessionRef.filter fun exited => exited != replacement).map fun exited =>
        { source, agentLabel := suppressed.agentLabel, sessionRef := exited }
    | .hookClear, _ =>
      suppressed.sessionRef.map fun sessionRef =>
        { source, agentLabel := suppressed.agentLabel, sessionRef }

/-- The replacement that detection of the agent validates, with the buffered
report of that session if it is newer than the session start. -/
def validatedOnDetection (suppressed : SuppressedFullLifecycleHookReport) (detected : Agent)
  (sessionStartSeq : Option Nat) (source : String) : Option ValidatedReplacement :=
  if !suppressed.concerns (some detected) then none
  else
    match suppressed.reason, suppressed.replacementSessionRef with
    | .processExit, some replacement =>
      some {
        source
        agentLabel := suppressed.agentLabel
        sessionRef := replacement
        pending := suppressed.pendingReplacementReport.filter fun pending =>
          pending.authority.sessionRef == some replacement &&
            sessionStartSeq.all fun seq => seq < pending.seq }
    | _, _ => none

/-- The session the exited process was last known to run. -/
def exitedSessionRef (suppressed : SuppressedFullLifecycleHookReport) : Option AgentSessionRef :=
  (suppressed.replacementSessionRef.or
    (suppressed.pendingReplacementReport.bind fun pending => pending.authority.sessionRef)).or
    suppressed.sessionRef

/-- An exit of the agent applies to every suppression but a cleared hook. -/
def resetOnExit (suppressed : SuppressedFullLifecycleHookReport) (agent : Option Agent) : Bool :=
  suppressed.concerns agent && suppressed.reason != .hookClear

def retiredOnExit (suppressed : SuppressedFullLifecycleHookReport) (agent : Option Agent)
  (source : String) : Option RetiredSession :=
  if suppressed.resetOnExit agent then
    (suppressed.sessionRef.filter fun previous =>
      suppressed.exitedSessionRef.any fun exited => previous != exited).map fun previous =>
        { source, agentLabel := suppressed.agentLabel, sessionRef := previous }
  else none

def afterExit (suppressed : SuppressedFullLifecycleHookReport) (agent : Option Agent)
  (now : Instant) : SuppressedFullLifecycleHookReport :=
  if suppressed.resetOnExit agent then
    { suppressed with
      sessionRef := suppressed.exitedSessionRef
      replacementSessionRef := none
      pendingReplacementReport := none
      observedAt := now }
  else suppressed

end SuppressedFullLifecycleHookReport

namespace TerminalState

def rememberRetiredSession (s : TerminalState) (retired : RetiredSession) : TerminalState :=
  s.rememberStaleFullLifecycleHookSession retired.source retired.agentLabel retired.sessionRef

def retiredSessionsOnDetection (s : TerminalState) (detected : Agent) : List RetiredSession :=
  FinMap.collect s.suppressedFullLifecycleHookReports fun source suppressed =>
    suppressed.retiredOnDetection detected source

def validatedReplacementsOnDetection (s : TerminalState) (detected : Agent) :
  List ValidatedReplacement :=
  FinMap.collect s.suppressedFullLifecycleHookReports fun source suppressed =>
    suppressed.validatedOnDetection detected (s.hookReportSequences.lookup source) source

/-- Persist the new session and replay the report buffered for it. -/
def installValidatedReplacement (s : TerminalState) (validated : ValidatedReplacement) :
  TerminalState :=
  let s := s.forgetStaleFullLifecycleHookSession validated.source validated.agentLabel
    validated.sessionRef
  let s := s.reconcileAgentNameOwner validated.agentLabel (some validated.sessionRef)
  let s := { s with
    persistedAgentSession := some {
      source := validated.source
      agent := validated.agentLabel
      sessionRef := validated.sessionRef } }
  match validated.pending with
  | none => s
  | some pending =>
    { s with
      hookReportSequences := s.hookReportSequences.insert validated.source pending.seq
      hookAuthority := some pending.authority }

/-- The sources whose sequence survives a detection: those just validated,
and those that are not the detected agent's own integration. -/
def keepsSequenceOnDetection (validated : List ValidatedReplacement) (detected : Agent)
  (source : String) : Bool :=
  (validated.any fun replacement => replacement.source == source) ||
    !fullLifecycleHookAuthority source (agentLabel detected)

def clearFullLifecycleHookSuppressionForDetectedAgent (s : TerminalState)
  (previousDetectedAgent detectedAgent : Option Agent) : TerminalState :=
  match detectedAgent with
  | none => s
  | some detected =>
    if previousDetectedAgent = some detected then s
    else
      let staleSessions := s.retiredSessionsOnDetection detected
      let validated := s.validatedReplacementsOnDetection detected
      let s := { s with
        suppressedFullLifecycleHookReports :=
          FinMap.retain s.suppressedFullLifecycleHookReports fun _ suppressed =>
            suppressed.keptOnDetection detected }
      let s := staleSessions.foldl rememberRetiredSession s
      let s := { s with
        hookReportSequences := s.hookReportSequences.retain
          (keepsSequenceOnDetection validated detected) }
      validated.foldl installValidatedReplacement s

theorem foldl_rememberRetiredSession_eq (retired : List RetiredSession) (s : TerminalState) :
  ∃ stale, retired.foldl rememberRetiredSession s =
    { s with staleFullLifecycleHookSessions := stale } := by
  induction retired generalizing s with
  | nil => exact ⟨s.staleFullLifecycleHookSessions, rfl⟩
  | cons session retired ih =>
    obtain ⟨stale, hRest⟩ := ih (s.rememberRetiredSession session)
    exact ⟨stale, hRest⟩

theorem installValidatedReplacement_eq (s : TerminalState) (validated : ValidatedReplacement) :
  ∃ authority persisted name owner sequences stale,
    s.installValidatedReplacement validated =
      { s with
        hookAuthority := authority
        persistedAgentSession := persisted
        agentName := name
        agentNameOwner := owner
        hookReportSequences := sequences
        staleFullLifecycleHookSessions := stale } := by
  obtain ⟨stale, hForget⟩ := s.forgetStaleFullLifecycleHookSession_eq validated.source
    validated.agentLabel validated.sessionRef
  obtain ⟨name, owner, hName⟩ := (s.forgetStaleFullLifecycleHookSession validated.source
    validated.agentLabel validated.sessionRef).reconcileAgentNameOwner_eq
      validated.agentLabel (some validated.sessionRef)
  unfold installValidatedReplacement
  dsimp only
  rw [hName, hForget]
  cases validated.pending with
  | none => exact ⟨_, _, _, _, _, _, rfl⟩
  | some pending => exact ⟨_, _, _, _, _, _, rfl⟩

/-- Replaying validated sessions writes the session, authority, sequences,
stale sessions and name, and nothing the detector has seen. -/
theorem foldl_installValidatedReplacement_eq (validated : List ValidatedReplacement)
  (s : TerminalState) :
  ∃ authority persisted name owner sequences stale,
    validated.foldl installValidatedReplacement s =
      { s with
        hookAuthority := authority
        persistedAgentSession := persisted
        agentName := name
        agentNameOwner := owner
        hookReportSequences := sequences
        staleFullLifecycleHookSessions := stale } := by
  induction validated generalizing s with
  | nil => exact ⟨_, _, _, _, _, _, rfl⟩
  | cons replacement validated ih =>
    obtain ⟨_, _, _, _, _, _, hFirst⟩ := s.installValidatedReplacement_eq replacement
    rw [List.foldl_cons, hFirst]
    obtain ⟨authority, persisted, name, owner, sequences, stale, hRest⟩ := ih _
    exact ⟨authority, persisted, name, owner, sequences, stale, hRest⟩

theorem clearFullLifecycleHookSuppressionForDetectedAgent_eq (s : TerminalState)
  (previousDetectedAgent detectedAgent : Option Agent) :
  ∃ authority persisted name owner sequences suppressed stale,
    s.clearFullLifecycleHookSuppressionForDetectedAgent previousDetectedAgent detectedAgent =
      { s with
        hookAuthority := authority
        persistedAgentSession := persisted
        agentName := name
        agentNameOwner := owner
        hookReportSequences := sequences
        suppressedFullLifecycleHookReports := suppressed
        staleFullLifecycleHookSessions := stale } := by
  unfold clearFullLifecycleHookSuppressionForDetectedAgent
  cases detectedAgent with
  | none => exact ⟨_, _, _, _, _, _, _, rfl⟩
  | some detected =>
    dsimp only
    split
    · exact ⟨_, _, _, _, _, _, _, rfl⟩
    obtain ⟨staleSessions, hStale⟩ := foldl_rememberRetiredSession_eq
      (s.retiredSessionsOnDetection detected)
      { s with
        suppressedFullLifecycleHookReports :=
          FinMap.retain s.suppressedFullLifecycleHookReports fun _ suppressed =>
            suppressed.keptOnDetection detected }
    rw [hStale]
    obtain ⟨authority, persisted, name, owner, sequences, stale, hValidated⟩ :=
      foldl_installValidatedReplacement_eq (s.validatedReplacementsOnDetection detected) _
    rw [hValidated]
    exact ⟨_, _, _, _, _, _, _, rfl⟩

/-- The session of the exited agent's own integration. -/
def officialSessionOfExited (s : TerminalState) (agent : Option Agent) :
  Option (String × String × Option AgentSessionRef) :=
  ((s.hookAuthority.filter fun authority =>
      isOfficialAgentSource authority.source authority.agentLabel &&
        parseAgentLabel authority.agentLabel == agent).map fun authority =>
          (authority.source, authority.agentLabel, authority.sessionRef)).or
    ((s.persistedAgentSession.filter fun session =>
      isOfficialAgentSource session.source session.agent &&
        parseAgentLabel session.agent == agent).map fun session =>
          (session.source, session.agent, some session.sessionRef))

def removeHookReportSequences (s : TerminalState) (sources : List String) : TerminalState :=
  sources.foldl (fun s source =>
    { s with hookReportSequences := s.hookReportSequences.remove source }) s

def retiredSessionsOnExit (s : TerminalState) (agent : Option Agent) : List RetiredSession :=
  FinMap.collect s.suppressedFullLifecycleHookReports fun source suppressed =>
    suppressed.retiredOnExit agent source

def resetSourcesOnExit (s : TerminalState) (agent : Option Agent) : List String :=
  FinMap.collect s.suppressedFullLifecycleHookReports fun source suppressed =>
    if suppressed.resetOnExit agent then some source else none

def updateSuppressionsOnExit (s : TerminalState) (agent : Option Agent) (now : Instant) :
  TerminalState :=
  { s with
    suppressedFullLifecycleHookReports :=
      FinMap.mapValues s.suppressedFullLifecycleHookReports fun _ suppressed =>
        suppressed.afterExit agent now }

/-- Suppressed sources of the exited agent forget their replacements and sequences. -/
def resetSuppressionsOnExit (s : TerminalState) (agent : Option Agent) (now : Instant) :
  TerminalState :=
  let staleSessions := s.retiredSessionsOnExit agent
  let resetSources := s.resetSourcesOnExit agent
  let s := s.updateSuppressionsOnExit agent now
  let s := staleSessions.foldl rememberRetiredSession s
  s.removeHookReportSequences resetSources

def suppressOfficialSessionOnExit (s : TerminalState) (agent : Option Agent) (now : Instant) :
  TerminalState :=
  match s.officialSessionOfExited agent with
  | none => s
  | some (source, agentLabel, sessionRef) =>
    (s.removeHookReportSequences [source]).suppressFullLifecycleHookReportWithSessionRef source
      agentLabel sessionRef .processExit now

def clearHookAuthorityOnExit (s : TerminalState) (agent : Option Agent)
  (newerCustomAuthority : Bool) : TerminalState :=
  match s.hookAuthority with
  | none => s
  | some authority =>
    if parseAgentLabel authority.agentLabel = agent ∧ newerCustomAuthority = false then
      { s.removeHookReportSequences [authority.source] with hookAuthority := none }
    else s

def clearPersistedSessionOnExit (s : TerminalState) (agent : Option Agent)
  (newerCustomAuthority : Bool) : TerminalState :=
  if !newerCustomAuthority && s.persistedAgentSession.any (fun session =>
      parseAgentLabel session.agent == agent) then
    { s with persistedAgentSession := none }
  else s

/-- Metadata of the exited agent; the official integrations' own goes whatever its age. -/
def metadataClearedOnExit (agent : Agent) (now : Instant) (metadata : AgentMetadata) : Bool :=
  let label := agentLabel agent
  let officialMetadata := isOfficialAgentSource metadata.source label ||
    metadata.appliesToSource.any fun appliesTo => isOfficialAgentSource appliesTo label
  let matchesAgent := metadata.agentLabel == some label || officialMetadata
  matchesAgent && (officialMetadata || metadata.reportedAt ≤ now)

def clearMetadataOnExit (s : TerminalState) (agent : Option Agent) (now : Instant) :
  TerminalState :=
  match agent with
  | none => s
  | some agent =>
    let cleared := FinMap.collect s.agentMetadata fun source metadata =>
      if metadataClearedOnExit agent now metadata then some source else none
    let reportAgents := cleared.foldl (fun agents source => agents.erase source)
      s.metadataReportAgents
    let exitedGeneration := FinMap.collect reportAgents fun source owner =>
      if owner = agent then some source else none
    let gone := cleared ++ exitedGeneration
    { s with
      agentMetadata := FinMap.retain s.agentMetadata fun _ metadata =>
        !metadataClearedOnExit agent now metadata
      metadataReportAgents := FinMap.retain reportAgents fun _ owner => owner != agent
      metadataReportSequences := gone.foldl (fun sequences source => sequences.erase source)
        s.metadataReportSequences
      metadataTokenSequenceSources := s.metadataTokenSequenceSources.filter fun source =>
        source ∉ gone }

def applyProcessExit (s : TerminalState) (agent : Option Agent) (newerCustomAuthority : Bool)
  (now : Instant) : TerminalState :=
  let s := s.resetSuppressionsOnExit agent now
  let s := s.suppressOfficialSessionOnExit agent now
  let s := s.clearHookAuthorityOnExit agent newerCustomAuthority
  let s := s.clearPersistedSessionOnExit agent newerCustomAuthority
  s.clearMetadataOnExit agent now

theorem removeHookReportSequences_eq (sources : List String) (s : TerminalState) :
  ∃ sequences, s.removeHookReportSequences sources =
    { s with hookReportSequences := sequences } := by
  induction sources generalizing s with
  | nil => exact ⟨s.hookReportSequences, rfl⟩
  | cons source sources ih =>
    obtain ⟨sequences, hRest⟩ := ih
      { s with hookReportSequences := s.hookReportSequences.remove source }
    exact ⟨sequences, hRest⟩

section

variable (s : TerminalState)

section

variable (agent : Option Agent)

theorem resetSuppressionsOnExit_eq (now : Instant) :
  ∃ sequences suppressed stale, s.resetSuppressionsOnExit agent now =
    { s with
      hookReportSequences := sequences
      suppressedFullLifecycleHookReports := suppressed
      staleFullLifecycleHookSessions := stale } := by
  unfold resetSuppressionsOnExit
  dsimp only
  obtain ⟨stale, hStale⟩ := foldl_rememberRetiredSession_eq (s.retiredSessionsOnExit agent)
    (s.updateSuppressionsOnExit agent now)
  rw [hStale]
  obtain ⟨sequences, hSequences⟩ := removeHookReportSequences_eq (s.resetSourcesOnExit agent) _
  rw [hSequences]
  exact ⟨_, _, _, rfl⟩

theorem suppressOfficialSessionOnExit_eq
  (now : Instant) :
  ∃ sequences suppressed, s.suppressOfficialSessionOnExit agent now =
    { s with
      hookReportSequences := sequences
      suppressedFullLifecycleHookReports := suppressed } := by
  unfold suppressOfficialSessionOnExit
  split
  · exact ⟨_, _, rfl⟩
  next source agentLabel sessionRef _ =>
    obtain ⟨sequences, hSequences⟩ := removeHookReportSequences_eq [source] s
    rw [hSequences]
    exact ⟨_, _, rfl⟩

theorem clearPersistedSessionOnExit_eq
  (newerCustomAuthority : Bool) :
  ∃ persisted, s.clearPersistedSessionOnExit agent newerCustomAuthority =
    { s with persistedAgentSession := persisted } := by
  unfold clearPersistedSessionOnExit
  split
  · exact ⟨_, rfl⟩
  · exact ⟨_, rfl⟩

theorem clearMetadataOnExit_eq (now : Instant) :
  ∃ metadata agents sequences sources, s.clearMetadataOnExit agent now =
    { s with
      agentMetadata := metadata
      metadataReportAgents := agents
      metadataReportSequences := sequences
      metadataTokenSequenceSources := sources } := by
  cases agent <;> exact ⟨_, _, _, _, rfl⟩

end

end

def hookAuthorityNotNewerThan (s : TerminalState) (observedAt : Instant) : Bool :=
  s.hookAuthority.all fun authority => authority.reportedAt ≤ observedAt

def hookAuthorityConflictsWithDetectedAgent (s : TerminalState) (detectedAgent : Option Agent) :
  Bool :=
  detectedAgent.any fun detected =>
    s.hookAuthority.any fun authority =>
      (parseAgentLabel authority.agentLabel).any fun hookAgent => hookAgent != detected

def shouldIgnoreDetectedStateUnderFullLifecycleHook (s : TerminalState)
  (detectedAgent : Option Agent) (processExited : Bool) : Bool :=
  s.liveFullLifecycleHookAuthority && !processExited &&
    !s.hookAuthorityConflictsWithDetectedAgent detectedAgent

def detectedStateObservedBeforeReleaseSuppression (s : TerminalState)
  (detectedAgent : Option Agent) (observedAt : Instant) : Bool :=
  detectedAgent.any fun detected =>
    (FinMap.values s.suppressedFullLifecycleHookReports).any fun suppressed =>
      suppressed.concerns (some detected) && observedAt ≤ suppressed.observedAt

/-- An authority of the exited agent that a custom integration reported after the exit. -/
def newerCustomAuthority (s : TerminalState) (detection : ScreenDetection) (now : Instant) : Bool :=
  detection.processExited && s.hookAuthority.any fun authority =>
    parseAgentLabel authority.agentLabel == detection.agent &&
      !isOfficialAgentSource authority.source authority.agentLabel && now < authority.reportedAt

def detectionReleasesAgent (s : TerminalState) (detection : ScreenDetection) (now : Instant) :
  Bool :=
  detection.processExited && !s.newerCustomAuthority detection now &&
    (s.effectiveAgentLabel.isSome || s.agentName.isSome)

def adoptDetectedAgent (s : TerminalState) (agent : Option Agent) : TerminalState :=
  let s := { s with detectedAgent := agent }
  match agent with
  | none => s
  | some agent => s.reconcileAgentNameOwner (agentLabel agent) none

def recordFallback (s : TerminalState) (detection : ScreenDetection) (now : Instant) :
  TerminalState :=
  { s with
    fallbackState := detection.fallbackState
    fallbackVisibleBlocker := detection.visibleBlocker && detection.fallbackState == .blocked
    fallbackObservedAt := some now }

def recordProcessExit (s : TerminalState) (detection : ScreenDetection) (now : Instant) :
  TerminalState :=
  match detection.processExited, detection.agent with
  | true, some agent => { s with recentAgentProcessExit := some { agent, observedAt := now } }
  | true, none => s
  | false, some _ => { s with recentAgentProcessExit := none }
  | false, none => s

/-- The hook authority belongs to an agent that the detection has superseded. -/
def authoritySupersededByDetection (s : TerminalState) (previousDetectedAgent agent : Option Agent)
  (now : Instant) : Bool :=
  s.hookAuthorityNotNewerThan now &&
    (s.hookAuthorityConflictsWithDetectedAgent agent ||
      (previousDetectedAgent.isSome && agent != previousDetectedAgent &&
        s.hookAuthority.any fun authority =>
          parseAgentLabel authority.agentLabel == previousDetectedAgent))

/-- A superseded authority is suppressed; its session stays as the persisted one. -/
def clearSupersededAuthority (s : TerminalState) (previousDetectedAgent agent : Option Agent)
  (now clock : Instant) : TerminalState :=
  if s.authoritySupersededByDetection previousDetectedAgent agent now then
    let durableSession := s.hookAuthority.bind fun authority =>
      authority.sessionRef.map fun sessionRef =>
        ({ source := authority.source, agent := authority.agentLabel, sessionRef } :
          PersistedAgentSession)
    { s.suppressCurrentFullLifecycleHookAuthority .hookClear clock with
      hookAuthority := none
      persistedAgentSession := durableSession }
  else s

/-- A detection of the agent after its exit was seen is a new process. -/
def replacementProcessDetected (s : TerminalState) (detection : ScreenDetection) (now : Instant) :
  Bool :=
  !detection.processExited && detection.agent.isSome &&
    s.recentAgentProcessExit.any fun exit =>
      some exit.agent == detection.agent && exit.observedAt < now

/-- The agent a detection is compared with; a new process has no predecessor. -/
def detectionPredecessor (s : TerminalState) (detection : ScreenDetection) (now : Instant) :
  Option Agent :=
  if s.replacementProcessDetected detection now then none else s.detectedAgent

/-- The detection passed the gates and is applied. -/
def applyDetection (s : TerminalState) (detection : ScreenDetection) (now clock : Instant) :
  TerminalState :=
  let previousDetectedAgent := s.detectedAgent
  let newerCustomAuthority := s.newerCustomAuthority detection now
  let agentReleased := s.detectionReleasesAgent detection now
  let predecessor := s.detectionPredecessor detection now
  let s := s.adoptDetectedAgent detection.agent
  let s := if !detection.processExited then
      s.clearFullLifecycleHookSuppressionForDetectedAgent predecessor detection.agent
    else s
  let s := s.recordFallback detection now
  let s := s.recordProcessExit detection now
  let s := if detection.processExited then
      s.applyProcessExit detection.agent newerCustomAuthority now
    else s
  let s := s.clearSupersededAuthority previousDetectedAgent detection.agent now clock
  if agentReleased then s.clearAgentName else s

/-- `clock` is the time read while a superseded authority is suppressed. -/
def setDetectedStateWithScreenSignalsAt (s : TerminalState) (detection : ScreenDetection)
  (now clock : Instant) : TerminalState × TerminalStateMutation :=
  let previous := s.previous now
  let previousSession := s.currentSessionIdentityForPersistence
  if s.shouldIgnoreDetectedStateUnderFullLifecycleHook detection.agent detection.processExited then
    let s := if (s.hookAuthority.bind fun authority => parseAgentLabel authority.agentLabel) =
        detection.agent then
        { s with detectedAgent := detection.agent }
      else s
    s.finish previous now
      (decide (previousSession ≠ s.currentSessionIdentityForPersistence)) false
  else if !detection.processExited &&
      s.detectedStateObservedBeforeReleaseSuppression detection.agent now then
    s.finish previous now
      (decide (previousSession ≠ s.currentSessionIdentityForPersistence)) false
  else
    let agentReleased := s.detectionReleasesAgent detection now
    let s := s.applyDetection detection now clock
    s.finish previous now
      (decide (previousSession ≠ s.currentSessionIdentityForPersistence)) agentReleased

end TerminalState

end Terminal
