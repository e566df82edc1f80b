import Mathlib.Algebra.GroupWithZero.Nat
import VimeflowTerminal.Data.LoggedMap
import VimeflowTerminal.Detect.AgentResume
import Mathlib.Data.Finset.Card

/-! The record kept for a terminal: what the screen detector saw, what the hook
integrations reported, and the bookkeeping that arbitrates between them.
Instants and durations are nanosecond counts. -/

namespace Terminal

open Detect AgentResume

abbrev Instant := Nat

abbrev Duration := Nat

/-- Instants are stored with a signed 64-bit number of seconds. -/
def instantLimit : Nat := 2 ^ 63 * 10 ^ 9

def Instant.checkedAdd (now : Instant) (delay : Duration) : Option Instant :=
  if now + delay < instantLimit then some (now + delay) else none

structure HookAuthority where
  source : String
  agentLabel : String
  state : AgentState
  message : Option String
  reportedAt : Instant
  sessionRef : Option AgentSessionRef
  deriving DecidableEq

structure PendingFullLifecycleHookReport where
  authority : HookAuthority
  seq : Nat
  deriving DecidableEq

inductive FullLifecycleHookSuppressionReason where
  | hookClear
  | processExit
  deriving DecidableEq

structure SuppressedFullLifecycleHookReport where
  agentLabel : String
  sessionRef : Option AgentSessionRef
  observedAt : Instant
  reason : FullLifecycleHookSuppressionReason
  replacementSessionRef : Option AgentSessionRef
  pendingReplacementReport : Option PendingFullLifecycleHookReport
  deriving DecidableEq

inductive FullLifecycleHookReportRoute where
  | accept (reanchorSequence : Bool)
  | ignore
  deriving DecidableEq

structure StaleFullLifecycleHookSession where
  agentLabel : String
  sessionRef : AgentSessionRef
  deriving DecidableEq

inductive ManagedAgentPhase where
  | pending (readyAfter : Option Instant) (deadline : Instant) (observedExpected : Bool)
  | active
  deriving DecidableEq

structure ManagedAgent where
  kind : Agent
  phase : ManagedAgentPhase
  deriving DecidableEq

structure AgentNameOwner where
  agentLabel : String
  sessionRef : Option AgentSessionRef
  deriving DecidableEq

structure RecentAgentProcessExit where
  agent : Agent
  observedAt : Instant
  deriving DecidableEq

structure AgentMetadata where
  source : String
  agentLabel : Option String
  appliesToSource : Option String
  title : Option String
  displayAgent : Option String
  stateLabels : FinMap String String
  reportedAt : Instant
  titleReportedAt : Option Instant
  displayAgentReportedAt : Option Instant
  stateLabelReportedAt : FinMap String Instant
  ttl : Option Duration
  expiryEventPending : Bool

structure AgentMetadataReport where
  source : String
  agentLabel : Option String
  appliesToSource : Option String
  title : Option String
  displayAgent : Option String
  stateLabels : FinMap String String
  clearTitle : Bool
  clearDisplayAgent : Bool
  clearStateLabels : Bool
  ttl : Option Duration
  seq : Option Nat

structure EffectivePresentation where
  title : Option String
  displayAgent : Option String
  stateLabels : FinMap String String

/-- Presentations are compared as values; the order of the labels does not count. -/
def EffectivePresentation.Same (p q : EffectivePresentation) : Prop :=
  p.title = q.title ∧ p.displayAgent = q.displayAgent ∧
    FinMap.SameEntries p.stateLabels q.stateLabels

instance (p q : EffectivePresentation) : Decidable (p.Same q) :=
  inferInstanceAs (Decidable (_ ∧ _ ∧ _))

structure EffectiveStateChange where
  previousAgentLabel : Option String
  previousKnownAgent : Option Agent
  previousState : AgentState
  previousPresentation : EffectivePresentation
  agentLabel : Option String
  knownAgent : Option Agent
  state : AgentState
  presentation : EffectivePresentation

structure TerminalTitleChange where
  rawChanged : Bool
  strippedChanged : Bool
  deriving DecidableEq

structure TerminalStateMutation where
  effectiveStateChange : Option EffectiveStateChange
  sessionRefChanged : Bool
  agentReleased : Bool

structure TerminalState where
  detectedAgent : Option Agent
  fallbackState : AgentState
  fallbackVisibleBlocker : Bool
  fallbackObservedAt : Option Instant
  hookAuthority : Option HookAuthority
  agentMetadata : FinMap String AgentMetadata
  persistedAgentSession : Option PersistedAgentSession
  terminalTitle : Option String
  manualLabel : Option String
  agentName : Option String
  agentNameOwner : Option AgentNameOwner
  managedAgent : Option ManagedAgent
  hookReportSequences : LoggedMap String Nat
  suppressedFullLifecycleHookReports : FinMap String SuppressedFullLifecycleHookReport
  staleFullLifecycleHookSessions : FinMap String (List StaleFullLifecycleHookSession)
  metadataReportSequences : FinMap String Nat
  metadataReportAgents : FinMap String Agent
  metadataTokenSequenceSources : Finset String
  state : AgentState
  lastAgentStateChangeSeq : Option Nat
  revision : Nat
  launchArgv : Option (List String)
  respawnShellOnExit : Bool
  recentAgentProcessExit : Option RecentAgentProcessExit
  pendingAgentResumePlan : Option AgentResumePlan

namespace TerminalState

def new : TerminalState where
  detectedAgent := none
  fallbackState := .unknown
  fallbackVisibleBlocker := false
  fallbackObservedAt := none
  hookAuthority := none
  agentMetadata := ∅
  persistedAgentSession := none
  terminalTitle := none
  manualLabel := none
  agentName := none
  agentNameOwner := none
  managedAgent := none
  hookReportSequences := ∅
  suppressedFullLifecycleHookReports := ∅
  staleFullLifecycleHookSessions := ∅
  metadataReportSequences := ∅
  metadataReportAgents := ∅
  metadataTokenSequenceSources := ∅
  state := .unknown
  lastAgentStateChangeSeq := none
  revision := 0
  launchArgv := none
  respawnShellOnExit := false
  recentAgentProcessExit := none
  pendingAgentResumePlan := none

def withLaunchArgv (s : TerminalState) (argv : List String) : TerminalState :=
  { s with launchArgv := some argv }

def withRespawnShellOnExit (s : TerminalState) : TerminalState :=
  { s with respawnShellOnExit := true }

def withPendingAgentResumePlan (s : TerminalState) (plan : AgentResumePlan) : TerminalState :=
  { s with pendingAgentResumePlan := some plan }

/-- The process of `agent` is in the foreground and has not been seen to exit. -/
def processPresent (s : TerminalState) (agent : Option Agent) : Bool :=
  agent.isSome && s.detectedAgent == agent && s.recentAgentProcessExit.isNone

/-- Full lifecycle authority only counts while its agent's process is present. -/
def hookAuthorityIsEffective (s : TerminalState) (authority : HookAuthority) : Bool :=
  !fullLifecycleHookAuthority authority.source authority.agentLabel ||
    match parseAgentLabel authority.agentLabel with
    | none => true
    | some agent => s.detectedAgent == some agent && s.recentAgentProcessExit.isNone

def effectiveHookAuthority (s : TerminalState) : Option HookAuthority :=
  s.hookAuthority.filter s.hookAuthorityIsEffective

def effectiveAgentLabel (s : TerminalState) : Option String :=
  (s.effectiveHookAuthority.map HookAuthority.agentLabel).or
    (if s.recentAgentProcessExit.isNone then s.detectedAgent.map agentLabel else none)

def effectiveKnownAgent (s : TerminalState) : Option Agent :=
  s.effectiveAgentLabel.bind parseAgentLabel

def liveFullLifecycleHookAuthority (s : TerminalState) : Bool :=
  s.hookAuthority.any fun authority =>
    s.hookAuthorityIsEffective authority &&
      fullLifecycleHookAuthority authority.source authority.agentLabel

def fallbackNotOlderThanHook (s : TerminalState) : Bool :=
  s.hookAuthority.all fun authority =>
    s.fallbackObservedAt.any fun observedAt => authority.reportedAt ≤ observedAt

def visibleBlockerOverridesHook (s : TerminalState) : Bool :=
  !s.liveFullLifecycleHookAuthority && s.fallbackVisibleBlocker && s.fallbackNotOlderThanHook &&
    s.hookAuthority.any fun authority =>
      authority.state != .blocked && parseAgentLabel authority.agentLabel == s.detectedAgent

/-- The state the pane shows: a visible blocker, else the effective hook
authority, else the screen detector. -/
def derivedState (s : TerminalState) : AgentState :=
  if s.visibleBlockerOverridesHook then .blocked
  else (s.effectiveHookAuthority.map HookAuthority.state).getD s.fallbackState

/-- The fields the derivation reads. -/
structure SameDerivation (s t : TerminalState) : Prop where
  detectedAgent : t.detectedAgent = s.detectedAgent
  fallbackState : t.fallbackState = s.fallbackState
  fallbackVisibleBlocker : t.fallbackVisibleBlocker = s.fallbackVisibleBlocker
  fallbackObservedAt : t.fallbackObservedAt = s.fallbackObservedAt
  hookAuthority : t.hookAuthority = s.hookAuthority
  recentAgentProcessExit : t.recentAgentProcessExit = s.recentAgentProcessExit

namespace SameDerivation

variable {s t u : TerminalState}

theorem refl (s : TerminalState) : SameDerivation s s := ⟨rfl, rfl, rfl, rfl, rfl, rfl⟩

theorem trans (hLeft : SameDerivation s t) (hRight : SameDerivation t u) : SameDerivation s u :=
  ⟨hRight.1.trans hLeft.1, hRight.2.trans hLeft.2, hRight.3.trans hLeft.3,
    hRight.4.trans hLeft.4, hRight.5.trans hLeft.5, hRight.6.trans hLeft.6⟩

section

variable (h : SameDerivation s t)
include h

theorem hookAuthorityIsEffective (authority : HookAuthority) :
  t.hookAuthorityIsEffective authority = s.hookAuthorityIsEffective authority := by
  simp only [TerminalState.hookAuthorityIsEffective, h.detectedAgent, h.recentAgentProcessExit]

theorem effectiveHookAuthority :
  t.effectiveHookAuthority = s.effectiveHookAuthority := by
  have hEffective : t.hookAuthorityIsEffective = s.hookAuthorityIsEffective :=
    funext h.hookAuthorityIsEffective
  simp only [TerminalState.effectiveHookAuthority, hEffective, h.hookAuthority]

theorem effectiveAgentLabel :
  t.effectiveAgentLabel = s.effectiveAgentLabel := by
  simp only [TerminalState.effectiveAgentLabel, h.effectiveHookAuthority, h.detectedAgent,
    h.recentAgentProcessExit]

theorem liveFullLifecycleHookAuthority :
  t.liveFullLifecycleHookAuthority = s.liveFullLifecycleHookAuthority := by
  simp only [TerminalState.liveFullLifecycleHookAuthority, h.hookAuthorityIsEffective,
    h.hookAuthority]

theorem visibleBlockerOverridesHook :
  t.visibleBlockerOverridesHook = s.visibleBlockerOverridesHook := by
  simp only [TerminalState.visibleBlockerOverridesHook, TerminalState.fallbackNotOlderThanHook,
    h.liveFullLifecycleHookAuthority, h.fallbackVisibleBlocker, h.fallbackObservedAt,
    h.hookAuthority, h.detectedAgent]

theorem derivedState : t.derivedState = s.derivedState := by
  unfold TerminalState.derivedState
  rw [h.visibleBlockerOverridesHook, h.effectiveHookAuthority, h.fallbackState]

end

end SameDerivation

end TerminalState

end Terminal
