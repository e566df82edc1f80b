import VimeflowTerminal.Terminal.SessionStart

/-! The arbitration writes down which sources are suppressed, which sessions are stale, who owns the
name and which sequence came last. A part of the state that tells nothing of that stays the same. -/

namespace Terminal

open Detect AgentResume

namespace TerminalState

variable {α : Type} {part : TerminalState → α}

/-- A part that tells neither what is suppressed nor which sessions are stale. -/
structure IgnoresSuppressions (part : TerminalState → α) : Prop where
  suppressed : ∀ (s : TerminalState) suppressed,
    part { s with suppressedFullLifecycleHookReports := suppressed } = part s
  stale : ∀ (s : TerminalState) stale,
    part { s with staleFullLifecycleHookSessions := stale } = part s

/-- One that tells nothing of authorities and detections either. -/
structure IgnoresArbitration (part : TerminalState → α) : Prop extends
  IgnoresSuppressions part where
  authority : ∀ (s : TerminalState) authority session,
    part { s with hookAuthority := authority, persistedAgentSession := session } = part s
  detection : ∀ (s : TerminalState) agent state blocker observedAt exit,
    part { s with
      detectedAgent := agent, fallbackState := state, fallbackVisibleBlocker := blocker
      fallbackObservedAt := observedAt, recentAgentProcessExit := exit } = part s

def IgnoresNames (part : TerminalState → α) : Prop :=
  ∀ (s : TerminalState) name owner managed,
    part { s with agentName := name, agentNameOwner := owner, managedAgent := managed } = part s

def IgnoresSequences (part : TerminalState → α) : Prop :=
  ∀ (s : TerminalState) sequences, part { s with hookReportSequences := sequences } = part s

def IgnoresMetadata (part : TerminalState → α) : Prop :=
  ∀ (s : TerminalState) metadata agents sequences sources,
    part { s with
      agentMetadata := metadata, metadataReportAgents := agents
      metadataReportSequences := sequences, metadataTokenSequenceSources := sources } = part s

variable (s : TerminalState)

namespace IgnoresSuppressions

variable (hPart : IgnoresSuppressions part)
include hPart

theorem suppressCurrent (reason : FullLifecycleHookSuppressionReason) (clock : Instant) :
  part (s.suppressCurrentFullLifecycleHookAuthority reason clock) = part s := by
  obtain ⟨suppressed, hEq⟩ := s.suppressCurrentFullLifecycleHookAuthority_eq reason clock
  rw [hEq, hPart.suppressed]

theorem suppressReport (source agentLabel : String) (reason : FullLifecycleHookSuppressionReason)
  (clock : Instant) :
  part (s.suppressFullLifecycleHookReport source agentLabel reason clock) = part s := by
  obtain ⟨suppressed, hEq⟩ := s.suppressFullLifecycleHookReport_eq source agentLabel reason clock
  rw [hEq, hPart.suppressed]

theorem forgetStale (source agentLabel : String) (sessionRef : AgentSessionRef) :
  part (s.forgetStaleFullLifecycleHookSession source agentLabel sessionRef) = part s := by
  obtain ⟨stale, hEq⟩ := s.forgetStaleFullLifecycleHookSession_eq source agentLabel sessionRef
  rw [hEq, hPart.stale]

theorem liftSuppression (source : String) : part (s.liftSuppression source) = part s := by
  obtain ⟨suppressed, stale, hEq⟩ := s.liftSuppression_eq source
  rw [hEq]
  exact (hPart.stale { s with suppressedFullLifecycleHookReports := suppressed } stale).trans
    (hPart.suppressed s suppressed)

theorem rememberRetired (retired : List RetiredSession) :
  part (retired.foldl rememberRetiredSession s) = part s := by
  obtain ⟨stale, hEq⟩ := foldl_rememberRetiredSession_eq retired s
  rw [hEq, hPart.stale]

end IgnoresSuppressions

theorem IgnoresNames.reconcile (hNames : IgnoresNames part) (agentLabel : String)
  (sessionRef : Option AgentSessionRef) :
  part (s.reconcileAgentNameOwner agentLabel sessionRef) = part s := by
  obtain ⟨name, owner, hEq⟩ := s.reconcileAgentNameOwner_eq agentLabel sessionRef
  rw [hEq]
  exact hNames s name owner s.managedAgent

/-- Accepting a report writes its sequence. -/
theorem acceptHookReport_eq (source : String) (seq : Option Nat) :
  ∃ sequences, (s.acceptHookReport source seq).1 =
    { s with hookReportSequences := sequences } := by
  unfold acceptHookReport
  cases seq with
  | none => exact ⟨s.hookReportSequences, rfl⟩
  | some seq =>
    dsimp only
    split
    · exact ⟨s.hookReportSequences, rfl⟩
    · exact ⟨_, rfl⟩

namespace IgnoresSequences

variable (hSequences : IgnoresSequences part)
include hSequences

theorem accept (source : String) (seq : Option Nat) :
  part (s.acceptHookReport source seq).1 = part s := by
  obtain ⟨sequences, hEq⟩ := s.acceptHookReport_eq source seq
  rw [hEq, hSequences]

theorem reanchor (source : String) (reanchorSequence : Bool) :
  part (s.reanchorHookReportSequence source reanchorSequence) = part s := by
  unfold reanchorHookReportSequence
  split
  · exact hSequences s _
  · rfl

theorem removed (sources : List String) : part (s.removeHookReportSequences sources) = part s := by
  obtain ⟨sequences, hEq⟩ := removeHookReportSequences_eq sources s
  rw [hEq, hSequences]

end IgnoresSequences

namespace IgnoresArbitration

variable (hPart : IgnoresArbitration part)
include hPart

theorem superseded (previousAgent agent : Option Agent) (now clock : Instant) :
  part (s.clearSupersededAuthority previousAgent agent now clock) = part s := by
  unfold clearSupersededAuthority
  split
  · exact (hPart.authority _ none _).trans (hPart.suppressCurrent s .hookClear clock)
  · rfl

theorem recordProcessExit (detection : ScreenDetection) (now : Instant) :
  part (s.recordProcessExit detection now) = part s := by
  unfold TerminalState.recordProcessExit
  split <;> first | rfl | exact hPart.detection s _ _ _ _ _

theorem recordFallback (detection : ScreenDetection) (now : Instant) :
  part (s.recordFallback detection now) = part s :=
  hPart.detection s s.detectedAgent _ _ _ s.recentAgentProcessExit

/-- An exit up to the metadata that it clears. -/
theorem exited (hSequences : IgnoresSequences part) (agent : Option Agent)
  (newerCustomAuthority : Bool) (now : Instant) :
  part ((((s.resetSuppressionsOnExit agent now).suppressOfficialSessionOnExit agent
    now).clearHookAuthorityOnExit agent newerCustomAuthority).clearPersistedSessionOnExit agent
      newerCustomAuthority) = part s := by
  have hPersisted : ∀ t : TerminalState,
      part (t.clearPersistedSessionOnExit agent newerCustomAuthority) = part t := by
    intro t
    unfold clearPersistedSessionOnExit
    split
    · exact hPart.authority t t.hookAuthority none
    · rfl
  have hAuthority : ∀ t : TerminalState,
      part (t.clearHookAuthorityOnExit agent newerCustomAuthority) = part t := by
    intro t
    unfold clearHookAuthorityOnExit
    split
    · rfl
    split
    · exact (hPart.authority _ none _).trans (hSequences.removed t _)
    · rfl
  have hOfficial : ∀ t : TerminalState,
      part (t.suppressOfficialSessionOnExit agent now) = part t := by
    intro t
    unfold suppressOfficialSessionOnExit
    split
    · rfl
    · exact (hPart.suppressed _ _).trans (hSequences.removed t _)
  rw [hPersisted, hAuthority, hOfficial]
  unfold resetSuppressionsOnExit
  rw [hSequences.removed, hPart.rememberRetired]
  exact hPart.suppressed s _

theorem processExit (hSequences : IgnoresSequences part) (hMetadata : IgnoresMetadata part)
  (agent : Option Agent) (newerCustomAuthority : Bool) (now : Instant) :
  part (s.applyProcessExit agent newerCustomAuthority now) = part s := by
  refine Eq.trans ?_ (hPart.exited s hSequences agent newerCustomAuthority now)
  obtain ⟨_, _, _, _, hEq⟩ := clearMetadataOnExit_eq _ agent now
  exact (congrArg part hEq).trans (hMetadata _ _ _ _ _)

section

variable (hNames : IgnoresNames part)
include hNames

theorem adopt (agent : Option Agent) : part (s.adoptDetectedAgent agent) = part s := by
  have hAdopted : part { s with detectedAgent := agent } = part s :=
    hPart.detection s agent s.fallbackState s.fallbackVisibleBlocker s.fallbackObservedAt
      s.recentAgentProcessExit
  cases agent with
  | none => exact hAdopted
  | some agent => exact (hNames.reconcile _ _ _).trans hAdopted

theorem giveUp (source agentLabel : String) (clock : Instant) :
  part (s.giveUpAgent source agentLabel clock) = part s := by
  have hForgotten : ∀ t : TerminalState, part t.forgetDetection.clearAgentName = part t :=
    fun t => (hNames _ none none none).trans
      (hPart.detection t none .unknown false none t.recentAgentProcessExit)
  have hCleared : ∀ (t : TerminalState) session,
      part { t with hookAuthority := none, persistedAgentSession := session } = part t :=
    fun t session => hPart.authority t none session
  unfold giveUpAgent
  dsimp only
  refine Eq.trans (?_ : _ = part (s.suppressFullLifecycleHookReport source agentLabel .hookClear
    clock)) (hPart.suppressReport s _ _ _ _)
  cases s.processOwnsAgent agentLabel <;> split
  · exact (hCleared _ _).trans (hForgotten _)
  · exact (hCleared _ _).trans (hForgotten _)
  · exact hCleared _ _
  · exact hCleared _ _

section

variable (hSequences : IgnoresSequences part)
include hSequences

theorem lifted (previousAgent agent : Option Agent) :
  part (s.clearFullLifecycleHookSuppressionForDetectedAgent previousAgent agent) = part s := by
  obtain ⟨authority, persisted, name, owner, sequences, suppressed, stale, hEq⟩ :=
    s.clearFullLifecycleHookSuppressionForDetectedAgent_eq previousAgent agent
  let kept := { s with hookAuthority := authority, persistedAgentSession := persisted }
  let named := { kept with agentName := name, agentNameOwner := owner }
  let sequenced := { named with hookReportSequences := sequences }
  rw [hEq]
  exact (hPart.stale { sequenced with suppressedFullLifecycleHookReports := suppressed }
    stale).trans <| (hPart.suppressed sequenced suppressed).trans <|
      (hSequences named sequences).trans <| (hNames kept name owner s.managedAgent).trans <|
        hPart.authority s authority persisted

theorem applied (hMetadata : IgnoresMetadata part) (detection : ScreenDetection)
  (now clock : Instant) : part (s.applyDetection detection now clock) = part s := by
  have hCleared : ∀ t : TerminalState, part t.clearAgentName = part t :=
    fun t => hNames t none none none
  unfold applyDetection
  cases detection.processExited <;> dsimp only <;> split <;>
    simp [hCleared, hPart.processExit _ hSequences hMetadata, hPart.superseded, hPart.recordProcessExit, hPart.recordFallback,
      hPart.lifted _ hNames hSequences, hPart.adopt _ hNames]

end

end

end IgnoresArbitration

end TerminalState

end Terminal
