import VimeflowTerminal.Terminal.SessionStart

/-! A terminal may carry a title, a manual label and the name of the agent it was
started for. A managed agent stays pending until its agent is detected, and
its name is dropped when another agent appears. -/

namespace Terminal

open Detect AgentResume

namespace TerminalState

def claudeActivityGlyphs : List Char := "·✢✳✶✻✽".toList

/-- Drop one leading activity glyph that stands alone before the title. -/
def strippedTerminalTitle (title : String) : Option String :=
  match trimChars title.toList with
  | [] => none
  | first :: afterFirst =>
    let recognized := (0x2800 ≤ first.toNat && first.toNat ≤ 0x28FF) ||
      claudeActivityGlyphs.contains first
    let stripped := if recognized && afterFirst.head?.all isWhitespace then trimChars afterFirst
      else first :: afterFirst
    if stripped.isEmpty then none else some (String.ofList stripped)

def terminalTitleStripped (s : TerminalState) : Option String :=
  s.terminalTitle.bind strippedTerminalTitle

/-- The revision counts visible title changes and wraps at 64 bits. -/
def setTerminalTitle (s : TerminalState) (title : Option String) :
  TerminalState × TerminalTitleChange :=
  if s.terminalTitle = title then (s, { rawChanged := false, strippedChanged := false })
  else
    let strippedChanged := decide (s.terminalTitleStripped ≠ title.bind strippedTerminalTitle)
    let s := { s with terminalTitle := title }
    let s := if strippedChanged then { s with revision := (s.revision + 1) % 2 ^ 64 } else s
    (s, { rawChanged := true, strippedChanged })

def setManualLabel (s : TerminalState) (label : String) : TerminalState :=
  let label := trim label
  { s with manualLabel := if label.isEmpty then none else some label }

def clearManualLabel (s : TerminalState) : TerminalState := { s with manualLabel := none }

/-- A name is owned by the session, or else the agent, it is given to. -/
def setAgentName (s : TerminalState) (name : String) : TerminalState :=
  let agentName := if name.isEmpty then none else some name
  let owner := ((s.hookAuthority.map fun authority =>
      ({ agentLabel := authority.agentLabel, sessionRef := authority.sessionRef } :
        AgentNameOwner)).or
    (s.persistedAgentSession.map fun session =>
      { agentLabel := session.agent, sessionRef := some session.sessionRef })).or
    (s.effectiveAgentLabel.map fun agentLabel => { agentLabel, sessionRef := none })
  { s with agentName, agentNameOwner := if agentName.isSome then owner else none }

def beginManagedAgent (s : TerminalState) (name : String) (kind : Agent) (now : Instant)
  (settleDelay timeout : Duration) : TerminalState :=
  { s.setAgentName name with
    agentNameOwner := some { agentLabel := agentLabel kind, sessionRef := none }
    managedAgent := some {
      kind
      phase := .pending (some ((Instant.checkedAdd now settleDelay).getD now))
        ((Instant.checkedAdd now timeout).getD now) false } }

def managedAgentLaunchPending (s : TerminalState) : Bool :=
  match s.managedAgent with
  | some ⟨_, .pending _ _ _⟩ => true
  | _ => false

def managedAgentInteractiveReady (s : TerminalState) : Bool :=
  match s.managedAgent with
  | some ⟨_, .active⟩ => true
  | _ => false

def restoreManagedAgent (s : TerminalState) (name : String) (kind : Agent) : TerminalState :=
  { s.setAgentName name with
    agentNameOwner := some { agentLabel := agentLabel kind, sessionRef := none }
    managedAgent := some { kind, phase := .active } }

/-- One step of a pending agent past its clearing conditions: give up at the
deadline, become active once settled, or note that the agent was seen. -/
def reconcilePendingAgent (s : TerminalState) (kind : Agent) (readyAfter : Option Instant)
  (deadline : Instant) (previousObservedExpected observedExpected : Bool) (now : Instant) :
  TerminalState × Bool :=
  if deadline ≤ now then (s.clearAgentName, true)
  else if readyAfter.all (fun readyAfter => readyAfter ≤ now) &&
      s.effectiveKnownAgent == some kind && (s.state == .idle || s.state == .blocked) then
    ({ s with managedAgent := some { kind, phase := .active } }, true)
  else if readyAfter.any fun readyAfter => readyAfter ≤ now then
    ({ s with managedAgent := some { kind, phase := .pending none deadline observedExpected } },
      true)
  else if observedExpected != previousObservedExpected then
    ({ s with
      managedAgent := some { kind, phase := .pending readyAfter deadline observedExpected } }, true)
  else (s, false)

def reconcileManagedAgentAt (s : TerminalState) (now : Instant) (processExited : Bool) :
  TerminalState × Bool :=
  match s.managedAgent with
  | none => (s, false)
  | some managed =>
    let knownAgent := s.effectiveKnownAgent
    let foreign := knownAgent.any fun agent => agent != managed.kind
    match managed.phase with
    | .active =>
      if processExited || foreign then (s.clearAgentName, true) else (s, false)
    | .pending readyAfter deadline previousObserved =>
      let observedExpected := previousObserved || knownAgent == some managed.kind
      if processExited || foreign || (observedExpected && knownAgent.isNone) then
        (s.clearAgentName, true)
      else
        s.reconcilePendingAgent managed.kind readyAfter deadline previousObserved
          observedExpected now

/-- After a respawn nothing of the previous agent remains but its sequences. -/
def clearAgentRuntimeIdentityAfterRespawn (s : TerminalState) : TerminalState :=
  { s with
    detectedAgent := none
    fallbackState := .unknown
    fallbackVisibleBlocker := false
    fallbackObservedAt := none
    hookAuthority := none
    persistedAgentSession := none
    agentMetadata := ∅
    metadataReportAgents := ∅
    suppressedFullLifecycleHookReports := ∅
    staleFullLifecycleHookSessions := ∅
    state := .unknown
    lastAgentStateChangeSeq := none
    launchArgv := none
    respawnShellOnExit := false
    recentAgentProcessExit := none
    pendingAgentResumePlan := none
    agentName := none
    agentNameOwner := none
    managedAgent := none }

end TerminalState

end Terminal
