import VimeflowTerminal.Data.BoundedLog
import VimeflowTerminal.Data.FinMap

/-! The events of the socket API, and the hub that keeps the last of them. Every operation holds the
lock of the hub and is one step. -/

namespace Api

inductive EventKind where
  | workspaceCreated
  | workspaceUpdated
  | workspaceMetadataUpdated
  | workspaceClosed
  | workspaceRenamed
  | workspaceMoved
  | workspaceReordered
  | workspaceFocused
  | worktreeCreated
  | worktreeOpened
  | worktreeRemoved
  | tabCreated
  | tabClosed
  | tabRenamed
  | tabMoved
  | tabFocused
  | paneCreated
  | paneClosed
  | paneUpdated
  | paneFocused
  | paneMoved
  | paneOutputChanged
  | paneExited
  | paneAgentDetected
  | paneAgentStatusChanged
  | layoutUpdated
  deriving DecidableEq

inductive AgentStatus where
  | idle
  | working
  | blocked
  | done
  | unknown
  deriving DecidableEq

structure PaneAgentStatusChangedEvent where
  paneId : String
  workspaceId : String
  agentStatus : AgentStatus
  agent : Option String
  title : Option String
  displayAgent : Option String
  stateLabels : FinMap String String
  deriving DecidableEq

/-- The data of an event. All other payloads are kept as their text. -/
inductive EventData where
  | paneAgentStatusChanged (event : PaneAgentStatusChangedEvent)
  | other (payload : String)
  deriving DecidableEq

structure EventEnvelope where
  event : EventKind
  data : EventData
  deriving DecidableEq

abbrev EventHub : Type := BoundedLog EventEnvelope

namespace EventHub

@[irreducible] def maxEvents : Nat := 512

theorem maxEvents_pos : 0 < maxEvents := by simp [maxEvents]

def push (hub : EventHub) (event : EventEnvelope) : EventHub := BoundedLog.push maxEvents hub event

def eventsAfter (hub : EventHub) (sequence : Nat) : List (Nat × EventEnvelope) :=
  BoundedLog.eventsAfter hub sequence

def currentSequence (hub : EventHub) : Nat := BoundedLog.currentSequence hub

end EventHub

end Api
