import VimeflowTerminal.Terminal.Bookkeeping
import VimeflowTerminal.Terminal.ManagedAgent
import VimeflowTerminal.Terminal.Metadata
import VimeflowTerminal.Transition.Run

/-! Every public mutator of the terminal state as one labelled operation, with
its arguments and clock reads in the label. The order of operations and the
clocks are unconstrained: hooks and the detector run concurrently. -/

namespace Terminal

open Detect AgentResume Transition

inductive TerminalOp where
  | detection (detection : ScreenDetection) (now clock : Instant)
  | hookReport (report : HookReport) (now clock : Instant)
  | sessionStart (report : SessionStartReport) (now clock : Instant)
  | hookClear (source : Option String) (seq : Option Nat) (now clock : Instant)
  | release (source agentLabel : String) (seq : Option Nat) (now clock : Instant)
  | persistSession (session : PersistedAgentSession)
  | metadata (report : AgentMetadataReport) (now : Instant)
  | acceptMetadata (source : String) (seq : Option Nat) (includesTokens : Bool)
      (agent : Option Agent)
  | expireMetadata (scheduledDeadline now : Instant)
  | terminalTitle (title : Option String)
  | manualLabel (label : String)
  | clearManualLabel
  | agentName (name : String)
  | clearAgentName
  | beginManagedAgent (name : String) (kind : Agent) (now : Instant)
      (settleDelay timeout : Duration)
  | restoreManagedAgent (name : String) (kind : Agent)
  | reconcileManagedAgent (now : Instant) (processExited : Bool)
  | respawn
  | launchArgv (argv : List String)
  | respawnShellOnExit
  | pendingAgentResumePlan (plan : AgentResumePlan)

namespace TerminalState

/-- The state after one operation. -/
def step (s : TerminalState) : TerminalOp → TerminalState
  | .detection detection now clock =>
    (s.setDetectedStateWithScreenSignalsAt detection now clock).1
  | .hookReport report now clock => (s.setHookAuthorityAt report now clock).1
  | .sessionStart report now clock => (s.setAgentSessionRefForSessionStart report now clock).1
  | .hookClear source seq now clock => (s.clearHookAuthorityWithMutation source seq now clock).1
  | .release source agentLabel seq now clock =>
    (s.releaseAgentWithMutation source agentLabel seq now clock).1
  | .persistSession session => s.setPersistedAgentSession session
  | .metadata report now => (s.setAgentMetadata report now).1
  | .acceptMetadata source seq includesTokens agent =>
    (s.acceptMetadataReport source seq includesTokens agent).1
  | .expireMetadata scheduledDeadline now => (s.expireAgentMetadataAt scheduledDeadline now).1
  | .terminalTitle title => (s.setTerminalTitle title).1
  | .manualLabel label => s.setManualLabel label
  | .clearManualLabel => s.clearManualLabel
  | .agentName name => s.setAgentName name
  | .clearAgentName => s.clearAgentName
  | .beginManagedAgent name kind now settleDelay timeout =>
    s.beginManagedAgent name kind now settleDelay timeout
  | .restoreManagedAgent name kind => s.restoreManagedAgent name kind
  | .reconcileManagedAgent now processExited => (s.reconcileManagedAgentAt now processExited).1
  | .respawn => s.clearAgentRuntimeIdentityAfterRespawn
  | .launchArgv argv => s.withLaunchArgv argv
  | .respawnShellOnExit => s.withRespawnShellOnExit
  | .pendingAgentResumePlan plan => s.withPendingAgentResumePlan plan

/-- Runs of terminal operations. -/
abbrev Runs : TerminalState → List TerminalOp → TerminalState → Prop := Run (ofFunction step)

/-- The state is reached from a new terminal by some sequence of operations. -/
def Reachable (s : TerminalState) : Prop := ∃ ops, Runs new ops s

/-- The operations that report to the terminal: hooks and the detector. -/
def TerminalOp.isReport : TerminalOp → Bool
  | .detection .. | .hookReport .. | .sessionStart .. | .hookClear .. | .release .. => true
  | _ => false

/-- The fields the arbitration between detector and hooks works on. -/
structure SameArbitration (s t : TerminalState) : Prop extends SameDerivation s t where
  state : t.state = s.state
  persistedAgentSession : t.persistedAgentSession = s.persistedAgentSession
  hookReportSequences : t.hookReportSequences = s.hookReportSequences
  suppressedFullLifecycleHookReports :
    t.suppressedFullLifecycleHookReports = s.suppressedFullLifecycleHookReports
  staleFullLifecycleHookSessions :
    t.staleFullLifecycleHookSessions = s.staleFullLifecycleHookSessions

theorem SameArbitration.refl (s : TerminalState) : SameArbitration s s :=
  ⟨SameDerivation.refl s, rfl, rfl, rfl, rfl, rfl⟩

/-- Names, titles, labels and launch settings are not read by the arbitration. -/
def TerminalOp.isCosmetic : TerminalOp → Bool
  | .acceptMetadata .. | .terminalTitle .. | .manualLabel .. | .clearManualLabel | .agentName ..
  | .clearAgentName | .beginManagedAgent .. | .restoreManagedAgent .. | .reconcileManagedAgent ..
  | .launchArgv .. | .respawnShellOnExit | .pendingAgentResumePlan .. => true
  | _ => false

section

variable (s : TerminalState)

private theorem sameArbitration_acceptMetadataReport (source : String)
  (seq : Option Nat) (includesTokens : Bool) (agent : Option Agent) :
  SameArbitration s (s.acceptMetadataReport source seq includesTokens agent).1 := by
  unfold acceptMetadataReport
  cases seq with
  | none => exact .refl s
  | some seq =>
    dsimp only
    split
    · exact .refl s
    split
    · exact .refl s
    · exact ⟨⟨rfl, rfl, rfl, rfl, rfl, rfl⟩, rfl, rfl, rfl, rfl, rfl⟩

private theorem sameArbitration_setTerminalTitle (title : Option String) :
  SameArbitration s (s.setTerminalTitle title).1 := by
  unfold setTerminalTitle
  split
  · exact .refl s
  · dsimp only
    split <;> exact ⟨⟨rfl, rfl, rfl, rfl, rfl, rfl⟩, rfl, rfl, rfl, rfl, rfl⟩

private theorem sameArbitration_reconcilePendingAgent (kind : Agent)
  (readyAfter : Option Instant) (deadline : Instant) (previousObserved observed : Bool)
  (now : Instant) :
  SameArbitration s
    (s.reconcilePendingAgent kind readyAfter deadline previousObserved observed now).1 := by
  unfold reconcilePendingAgent
  split
  · exact ⟨⟨rfl, rfl, rfl, rfl, rfl, rfl⟩, rfl, rfl, rfl, rfl, rfl⟩
  split
  · exact ⟨⟨rfl, rfl, rfl, rfl, rfl, rfl⟩, rfl, rfl, rfl, rfl, rfl⟩
  split
  · exact ⟨⟨rfl, rfl, rfl, rfl, rfl, rfl⟩, rfl, rfl, rfl, rfl, rfl⟩
  · split <;> exact ⟨⟨rfl, rfl, rfl, rfl, rfl, rfl⟩, rfl, rfl, rfl, rfl, rfl⟩

private theorem sameArbitration_reconcileManagedAgentAt (now : Instant)
  (processExited : Bool) :
  SameArbitration s (s.reconcileManagedAgentAt now processExited).1 := by
  unfold reconcileManagedAgentAt
  cases s.managedAgent with
  | none => exact .refl s
  | some managed =>
    dsimp only
    cases managed.phase with
    | active =>
      dsimp only
      split <;> exact ⟨⟨rfl, rfl, rfl, rfl, rfl, rfl⟩, rfl, rfl, rfl, rfl, rfl⟩
    | pending readyAfter deadline previousObserved =>
      dsimp only
      split
      · exact ⟨⟨rfl, rfl, rfl, rfl, rfl, rfl⟩, rfl, rfl, rfl, rfl, rfl⟩
      · exact sameArbitration_reconcilePendingAgent ..

theorem sameArbitration_of_cosmetic {op : TerminalOp}
  (hCosmetic : TerminalOp.isCosmetic op = true) : SameArbitration s (s.step op) := by
  cases op with
  | acceptMetadata => exact sameArbitration_acceptMetadataReport ..
  | terminalTitle => exact sameArbitration_setTerminalTitle ..
  | reconcileManagedAgent => exact sameArbitration_reconcileManagedAgentAt ..
  | manualLabel label =>
    show SameArbitration s (s.setManualLabel label)
    unfold setManualLabel
    exact ⟨⟨rfl, rfl, rfl, rfl, rfl, rfl⟩, rfl, rfl, rfl, rfl, rfl⟩
  | clearManualLabel => exact ⟨⟨rfl, rfl, rfl, rfl, rfl, rfl⟩, rfl, rfl, rfl, rfl, rfl⟩
  | agentName => exact ⟨⟨rfl, rfl, rfl, rfl, rfl, rfl⟩, rfl, rfl, rfl, rfl, rfl⟩
  | clearAgentName => exact ⟨⟨rfl, rfl, rfl, rfl, rfl, rfl⟩, rfl, rfl, rfl, rfl, rfl⟩
  | beginManagedAgent => exact ⟨⟨rfl, rfl, rfl, rfl, rfl, rfl⟩, rfl, rfl, rfl, rfl, rfl⟩
  | restoreManagedAgent => exact ⟨⟨rfl, rfl, rfl, rfl, rfl, rfl⟩, rfl, rfl, rfl, rfl, rfl⟩
  | launchArgv => exact ⟨⟨rfl, rfl, rfl, rfl, rfl, rfl⟩, rfl, rfl, rfl, rfl, rfl⟩
  | respawnShellOnExit => exact ⟨⟨rfl, rfl, rfl, rfl, rfl, rfl⟩, rfl, rfl, rfl, rfl, rfl⟩
  | pendingAgentResumePlan => exact ⟨⟨rfl, rfl, rfl, rfl, rfl, rfl⟩, rfl, rfl, rfl, rfl, rfl⟩
  | detection | hookReport | sessionStart | hookClear | release | persistSession | metadata
  | expireMetadata | respawn => simp [TerminalOp.isCosmetic] at hCosmetic

end

end TerminalState

end Terminal
