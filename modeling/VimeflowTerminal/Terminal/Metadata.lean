import VimeflowTerminal.Terminal.SessionStart

/-! Integrations may report a title, an agent name and state labels, with an
optional time to live. Reports are sequenced per source and ignored after the
exit of the agent they speak for. -/

namespace Terminal

open Detect AgentResume

namespace TerminalState

def maxSequenceSources : Nat := 32

def metadataReportSequenceIsFresh (s : TerminalState) (source : String) (seq : Option Nat) : Bool :=
  seq.all fun seq => (s.metadataReportSequences.lookup source).all fun last => last < seq

/-- The official integration of the agent is the source or what it applies to. -/
def metadataSourceIsOfficial (source : String) (appliesToSource : Option String) (agent : Agent) :
  Bool :=
  isOfficialAgentSource source (agentLabel agent) ||
    appliesToSource.any fun source => isOfficialAgentSource source (agentLabel agent)

def metadataReportAgent (source : String) (reportLabel appliesToSource : Option String) :
  Option Agent :=
  (reportLabel.bind parseAgentLabel).or
    (Agent.all.find? (metadataSourceIsOfficial source appliesToSource))

def metadataReportBlockedByProcessExit (s : TerminalState) (source : String)
  (reportLabel appliesToSource : Option String) : Bool :=
  s.recentAgentProcessExit.any fun exit =>
    reportLabel.bind parseAgentLabel == some exit.agent ||
      metadataSourceIsOfficial source appliesToSource exit.agent

/-- `none` is the error that too many sources report tokens. -/
def acceptMetadataReport (s : TerminalState) (source : String) (seq : Option Nat)
  (includesTokens : Bool) (agent : Option Agent) : TerminalState × Option Bool :=
  match seq with
  | none => (s, some true)
  | some seq =>
    if !s.metadataReportSequenceIsFresh source (some seq) then (s, some false)
    else if includesTokens && !decide (source ∈ s.metadataTokenSequenceSources) &&
        decide (maxSequenceSources ≤ s.metadataTokenSequenceSources.card) then (s, none)
    else
      ({ s with
        metadataReportSequences := s.metadataReportSequences.insert source seq
        metadataReportAgents := match agent with
          | some agent => s.metadataReportAgents.insert source agent
          | none => s.metadataReportAgents
        metadataTokenSequenceSources := if includesTokens then
            insert source s.metadataTokenSequenceSources
          else s.metadataTokenSequenceSources }, some true)

/-- Whether a report changes fields of the source's metadata instead of replacing it. -/
def AgentMetadataReport.clears (report : AgentMetadataReport) : Bool :=
  report.clearTitle || report.clearDisplayAgent || report.clearStateLabels

/-- Metadata created by a report that clears fields. -/
def emptyMetadata (report : AgentMetadataReport) (now : Instant) : AgentMetadata where
  source := report.source
  agentLabel := report.agentLabel
  appliesToSource := report.appliesToSource
  title := none
  displayAgent := none
  stateLabels := ∅
  reportedAt := now
  titleReportedAt := none
  displayAgentReportedAt := none
  stateLabelReportedAt := ∅
  ttl := report.ttl
  expiryEventPending := false

/-- Clear first, then set: a field both cleared and set ends up set. -/
def patchMetadata (metadata : AgentMetadata) (report : AgentMetadataReport) (now : Instant) :
  AgentMetadata :=
  let metadata := if report.clearTitle then
      { metadata with title := none, titleReportedAt := none }
    else metadata
  let metadata := if report.clearDisplayAgent then
      { metadata with displayAgent := none, displayAgentReportedAt := none }
    else metadata
  let metadata := if report.clearStateLabels then
      { metadata with stateLabels := ∅, stateLabelReportedAt := ∅ }
    else metadata
  let metadata := { metadata with
    agentLabel := report.agentLabel.or metadata.agentLabel
    appliesToSource := report.appliesToSource.or metadata.appliesToSource }
  let metadata := match report.title with
    | some title => { metadata with title := some title, titleReportedAt := some now }
    | none => metadata
  let metadata := match report.displayAgent with
    | some displayAgent =>
      { metadata with displayAgent := some displayAgent, displayAgentReportedAt := some now }
    | none => metadata
  let metadata := { metadata with
    stateLabels := report.stateLabels.entries.foldl
      (fun labels entry => labels.insert entry.1 entry.2) metadata.stateLabels
    stateLabelReportedAt := report.stateLabels.entries.foldl
      (fun times entry => times.insert entry.1 now) metadata.stateLabelReportedAt }
  let hasSetFields := report.title.isSome || report.displayAgent.isSome ||
    !report.stateLabels.entries.isEmpty
  if hasSetFields || report.ttl.isSome then
    { metadata with reportedAt := now, ttl := report.ttl, expiryEventPending := false }
  else metadata

def reportedMetadata (report : AgentMetadataReport) (now : Instant) : AgentMetadata where
  source := report.source
  agentLabel := report.agentLabel
  appliesToSource := report.appliesToSource
  title := report.title
  displayAgent := report.displayAgent
  stateLabels := report.stateLabels
  reportedAt := now
  titleReportedAt := report.title.map fun _ => now
  displayAgentReportedAt := report.displayAgent.map fun _ => now
  stateLabelReportedAt := FinMap.ofPairs (report.stateLabels.entries.map fun entry => (entry.1, now))
  ttl := report.ttl
  expiryEventPending := false

def storeMetadata (s : TerminalState) (report : AgentMetadataReport) (now : Instant) :
  TerminalState :=
  { s with
    agentMetadata := s.agentMetadata.insert report.source
      (if AgentMetadataReport.clears report then
        patchMetadata ((s.agentMetadata.lookup report.source).getD (emptyMetadata report now))
          report now
      else reportedMetadata report now) }

/-- Visible metadata with a time to live announces its expiry. -/
def armMetadataExpiry (s : TerminalState) (report : AgentMetadataReport) : TerminalState :=
  { s with
    agentMetadata := FinMap.mapValues s.agentMetadata fun source metadata =>
      if source = report.source ∧ report.ttl.isSome ∧
          s.agentMetadataIsVisibleIgnoringTtl metadata = true then
        { metadata with expiryEventPending := true }
      else metadata }

def dropExpiredMetadata (s : TerminalState) (source : String) (now : Instant) : TerminalState :=
  if (s.agentMetadata.lookup source).any fun metadata => agentMetadataIsExpired metadata now then
    { s with agentMetadata := s.agentMetadata.erase source }
  else s

def setAgentMetadata (s : TerminalState) (report : AgentMetadataReport) (now : Instant) :
  TerminalState × Option TerminalStateMutation :=
  if s.metadataReportBlockedByProcessExit report.source report.agentLabel
      report.appliesToSource then (s, none)
  else
    match s.acceptMetadataReport report.source report.seq false
        (metadataReportAgent report.source report.agentLabel report.appliesToSource) with
    | (s, some true) =>
      let s := s.dropExpiredMetadata report.source now
      let previous := s.previous now
      let s := (s.storeMetadata report now).armMetadataExpiry report
      let (s, mutation) := s.finish previous now false false
      let s := if mutation.effectiveStateChange.isSome then
          s.clearExpiryPendingForHiddenMetadata
        else s
      (s, some mutation)
    | (s, _) => (s, none)

/-- The sources whose metadata has expired, with their deadlines. -/
def expiredMetadataSources (s : TerminalState) (now : Instant) : List (String × Instant) :=
  (FinMap.collect s.agentMetadata fun source metadata =>
    (agentMetadataExpiry metadata).map fun deadline => (source, deadline)).filter fun expired =>
      expired.2 ≤ now

def removeMetadata (s : TerminalState) (sources : List String) : TerminalState :=
  { s with
    agentMetadata := FinMap.retain s.agentMetadata fun source _ => decide (source ∉ sources) }

/-- Metadata that expired before the scheduled deadline is dropped silently. -/
def expireAgentMetadataAt (s : TerminalState) (scheduledDeadline now : Instant) :
  TerminalState × Option TerminalStateMutation :=
  let (expired, stale) := (s.expiredMetadataSources now).partition fun expired =>
    scheduledDeadline ≤ expired.2
  let s := s.removeMetadata (stale.map Prod.fst)
  if expired.isEmpty then (s, none)
  else
    let previous := { s.previous now with
      presentation := s.effectivePresentationForStateAtIgnoringTtl s.state now }
    let s := s.removeMetadata (expired.map Prod.fst)
    let (s, mutation) := s.finish previous now false false
    (s, some mutation)

end TerminalState

end Terminal
