import VimeflowTerminal.Terminal.State
import Mathlib.Data.List.Sort

/-! The title, agent name and state labels shown for a terminal come from the
metadata reports that match its current agent. Every mutator ends by deriving
the effective state again and comparing it with what was shown before. -/

namespace Terminal

open Detect AgentResume

namespace TerminalState

def metadataGuardsMatch (s : TerminalState) (agentLabel appliesToSource : Option String) : Bool :=
  agentLabel.all (fun agent => s.effectiveAgentLabel == some agent) &&
    appliesToSource.all fun source =>
      s.hookAuthority.any fun authority => authority.source == source

def agentMetadataMatchesGuards (s : TerminalState) (metadata : AgentMetadata) : Bool :=
  s.metadataGuardsMatch metadata.agentLabel metadata.appliesToSource

def agentMetadataExpiry (metadata : AgentMetadata) : Option Instant :=
  metadata.ttl.map fun ttl =>
    (Instant.checkedAdd metadata.reportedAt ttl).getD metadata.reportedAt

def agentMetadataIsExpired (metadata : AgentMetadata) (now : Instant) : Bool :=
  (agentMetadataExpiry metadata).any fun deadline => deadline ≤ now

def agentMetadataHasFields (metadata : AgentMetadata) : Bool :=
  metadata.title.isSome || metadata.displayAgent.isSome || !metadata.stateLabels.entries.isEmpty

def agentMetadataIsValid (s : TerminalState) (metadata : AgentMetadata) (now : Instant)
  (enforceTtl : Bool) : Bool :=
  agentMetadataHasFields metadata && !(enforceTtl && agentMetadataIsExpired metadata now) &&
    s.agentMetadataMatchesGuards metadata

def agentMetadataIsVisibleIgnoringTtl (s : TerminalState) (metadata : AgentMetadata) : Bool :=
  agentMetadataHasFields metadata && s.agentMetadataMatchesGuards metadata

def validAgentMetadata (s : TerminalState) (now : Instant) (enforceTtl : Bool) :
  List AgentMetadata :=
  (FinMap.values s.agentMetadata).filter fun metadata =>
    s.agentMetadataIsValid metadata now enforceTtl

/-- Report times compare with an absent time first. -/
def reportTimeLe : Option Instant → Option Instant → Bool
  | none, _ => true
  | some _, none => false
  | some a, some b => a ≤ b

/-- The last of the entries with the greatest key. -/
def maxByKey (key : AgentMetadata → Option Instant) (entries : List AgentMetadata) :
  Option AgentMetadata :=
  entries.foldl (fun best metadata =>
    match best with
    | none => some metadata
    | some other => if reportTimeLe (key other) (key metadata) then some metadata else best) none

def newestMetadataTitle (s : TerminalState) (now : Instant) (enforceTtl : Bool) : Option String :=
  (maxByKey AgentMetadata.titleReportedAt
    ((s.validAgentMetadata now enforceTtl).filter fun metadata => metadata.title.isSome)).bind
    AgentMetadata.title

def newestMetadataDisplayAgent (s : TerminalState) (now : Instant) (enforceTtl : Bool) :
  Option String :=
  (maxByKey AgentMetadata.displayAgentReportedAt
    ((s.validAgentMetadata now enforceTtl).filter fun metadata =>
      metadata.displayAgent.isSome)).bind AgentMetadata.displayAgent

/-- Labels are applied oldest first, so a later report of a state wins. -/
def effectiveMetadataStateLabels (s : TerminalState) (now : Instant) (enforceTtl : Bool) :
  FinMap String String :=
  let labels := (s.validAgentMetadata now enforceTtl).flatMap fun metadata =>
    FinMap.collect metadata.stateLabels fun state label =>
      (metadata.stateLabelReportedAt.lookup state).map fun reportedAt => (reportedAt, state, label)
  let sorted := labels.insertionSort fun left right => left.1 ≤ right.1
  FinMap.ofPairs (sorted.map Prod.snd)

def effectivePresentationForStateAtWithTtl (s : TerminalState) (now : Instant)
  (enforceTtl : Bool) : EffectivePresentation where
  title := s.newestMetadataTitle now enforceTtl
  displayAgent := s.newestMetadataDisplayAgent now enforceTtl
  stateLabels := s.effectiveMetadataStateLabels now enforceTtl

/-- The state is an argument of the source function that does not affect the result. -/
def effectivePresentationForStateAt (s : TerminalState) (_state : AgentState) (now : Instant) :
  EffectivePresentation :=
  s.effectivePresentationForStateAtWithTtl now true

def effectivePresentationForStateAtIgnoringTtl (s : TerminalState) (_state : AgentState)
  (now : Instant) : EffectivePresentation :=
  s.effectivePresentationForStateAtWithTtl now false

def clearExpiryPendingForHiddenMetadata (s : TerminalState) : TerminalState :=
  { s with
    agentMetadata := FinMap.mapValues s.agentMetadata fun _ metadata =>
      if metadata.expiryEventPending && !s.agentMetadataIsVisibleIgnoringTtl metadata then
        { metadata with expiryEventPending := false }
      else metadata }

/-- What a mutator remembers of the state it found. -/
structure Previous where
  agentLabel : Option String
  knownAgent : Option Agent
  state : AgentState
  presentation : EffectivePresentation

def previous (s : TerminalState) (now : Instant) : Previous where
  agentLabel := s.effectiveAgentLabel
  knownAgent := s.effectiveKnownAgent
  state := s.state
  presentation := s.effectivePresentationForStateAt s.state now

/-- The stored state is only written when something shown has changed. -/
def recomputeEffectiveState (s : TerminalState) (previous : Previous) (now : Instant) :
  TerminalState × Option EffectiveStateChange :=
  let state := s.derivedState
  let agentLabel := s.effectiveAgentLabel
  let presentation := s.effectivePresentationForStateAt state now
  let cleared := s.clearExpiryPendingForHiddenMetadata
  if previous.agentLabel = agentLabel ∧ previous.state = state ∧
      previous.presentation.Same presentation then
    (cleared, none)
  else
    ({ cleared with state },
      some {
        previousAgentLabel := previous.agentLabel
        previousKnownAgent := previous.knownAgent
        previousState := previous.state
        previousPresentation := previous.presentation
        agentLabel
        knownAgent := s.effectiveKnownAgent
        state
        presentation })

theorem recomputeEffectiveState_eq (s : TerminalState) (previous : Previous) (now : Instant) :
  ∃ metadata state, (s.recomputeEffectiveState previous now).1 =
    { s with agentMetadata := metadata, state } := by
  unfold recomputeEffectiveState
  dsimp only
  split
  · exact ⟨_, s.state, rfl⟩
  · exact ⟨_, _, rfl⟩

section Recompute

variable (s : TerminalState) (previous : Previous) (now : Instant)

theorem sameDerivation_recompute : SameDerivation s (s.recomputeEffectiveState previous now).1 := by
  obtain ⟨metadata, state, hEq⟩ := s.recomputeEffectiveState_eq previous now
  rw [hEq]
  exact ⟨rfl, rfl, rfl, rfl, rfl, rfl⟩

@[simp] theorem recompute_hookAuthority :
  (s.recomputeEffectiveState previous now).1.hookAuthority = s.hookAuthority :=
  (s.sameDerivation_recompute previous now).hookAuthority

@[simp] theorem recompute_detectedAgent :
  (s.recomputeEffectiveState previous now).1.detectedAgent = s.detectedAgent :=
  (s.sameDerivation_recompute previous now).detectedAgent

@[simp] theorem recompute_recentAgentProcessExit :
  (s.recomputeEffectiveState previous now).1.recentAgentProcessExit =
    s.recentAgentProcessExit :=
  (s.sameDerivation_recompute previous now).recentAgentProcessExit

@[simp] theorem recompute_persistedAgentSession :
  (s.recomputeEffectiveState previous now).1.persistedAgentSession =
    s.persistedAgentSession := by
  obtain ⟨metadata, state, hEq⟩ := s.recomputeEffectiveState_eq previous now
  rw [hEq]

@[simp] theorem recompute_hookReportSequences :
  (s.recomputeEffectiveState previous now).1.hookReportSequences = s.hookReportSequences := by
  obtain ⟨metadata, state, hEq⟩ := s.recomputeEffectiveState_eq previous now
  rw [hEq]

@[simp] theorem recompute_suppressedFullLifecycleHookReports :
  (s.recomputeEffectiveState previous now).1.suppressedFullLifecycleHookReports =
    s.suppressedFullLifecycleHookReports := by
  obtain ⟨metadata, state, hEq⟩ := s.recomputeEffectiveState_eq previous now
  rw [hEq]

@[simp] theorem recompute_staleFullLifecycleHookSessions :
  (s.recomputeEffectiveState previous now).1.staleFullLifecycleHookSessions =
    s.staleFullLifecycleHookSessions := by
  obtain ⟨metadata, state, hEq⟩ := s.recomputeEffectiveState_eq previous now
  rw [hEq]

/-- A mutator that remembers the stored state it found stores the derived
state, also when nothing changed and nothing is written. -/
theorem recompute_state (hState : previous.state = s.state) :
  (s.recomputeEffectiveState previous now).1.state =
    (s.recomputeEffectiveState previous now).1.derivedState := by
  rw [(s.sameDerivation_recompute previous now).derivedState]
  unfold recomputeEffectiveState
  dsimp only
  split
  next hSame => exact hState.symm.trans hSame.2.1
  next => rfl

end Recompute

/-- The common end of a mutator. -/
def finish (s : TerminalState) (previous : Previous) (now : Instant)
  (sessionRefChanged agentReleased : Bool) : TerminalState × TerminalStateMutation :=
  let (s, effectiveStateChange) := s.recomputeEffectiveState previous now
  (s, { effectiveStateChange, sessionRefChanged, agentReleased })

@[simp] theorem finish_fst (s : TerminalState) (previous : Previous) (now : Instant)
  (sessionRefChanged agentReleased : Bool) :
  (s.finish previous now sessionRefChanged agentReleased).1 =
    (s.recomputeEffectiveState previous now).1 := rfl

end TerminalState

end Terminal
