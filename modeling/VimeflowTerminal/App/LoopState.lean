import VimeflowTerminal.App.AgentNotifications
import VimeflowTerminal.Layout.Geometry

/-! The application's state with its timers, and what a run of the scheduled tasks learns
from outside: later readings of the clock, what the terminals and the threads answer. -/

namespace App

open Layout Workspaces Terminal Detect AgentResume Deadlines

structure MetadataToken where
  value : String
  expiresAt : Option Instant
  deriving DecidableEq

structure MetadataTokens where
  entries : FinMap String MetadataToken

namespace MetadataTokens

def empty : MetadataTokens := ⟨∅⟩

def nextExpiry (tokens : MetadataTokens) : Option Instant :=
  ((FinMap.values tokens.entries).filterMap (·.expiresAt)).min?

/-- Drop the expired tokens; whether there were any. -/
def expireAt (tokens : MetadataTokens) (now : Instant) : MetadataTokens × Bool :=
  let entries := FinMap.retain tokens.entries fun _ token =>
    token.expiresAt.all fun deadline => now < deadline
  (⟨entries⟩, entries.entries.length != tokens.entries.entries.length)

theorem later_nextExpiry {tokens : MetadataTokens} {now : Instant} :
  Later now tokens.nextExpiry ↔
    ∀ key token, tokens.entries.lookup key = some token → Later now token.expiresAt := by
  unfold nextExpiry
  rw [later_min?]
  constructor
  · intro hLater key token hLookup d hExpires
    exact hLater d (List.mem_filterMap.2 ⟨token, FinMap.mem_values.2 ⟨key, hLookup⟩, hExpires⟩)
  · intro hLater d hMem
    obtain ⟨token, hValue, hExpires⟩ := List.mem_filterMap.1 hMem
    obtain ⟨key, hLookup⟩ := FinMap.mem_values.1 hValue
    exact hLater key token hLookup d hExpires

theorem later_expireAt (tokens : MetadataTokens) (now : Instant) :
  Later now (tokens.expireAt now).1.nextExpiry := by
  apply later_nextExpiry.2
  intro key token hLookup d hExpires
  obtain ⟨_, hKept⟩ := FinMap.mem_retain.1 hLookup
  simpa [hExpires] using hKept

end MetadataTokens

inductive SelectionPhase where
  | anchored
  | dragging
  | done
  deriving DecidableEq

/-- A text selection, without its two ends. -/
structure Selection where
  paneId : PaneId
  phase : SelectionPhase
  deriving DecidableEq

namespace Selection

def isInProgress (selection : Selection) : Bool :=
  selection.phase == .anchored || selection.phase == .dragging

def isDragging (selection : Selection) : Bool := selection.phase == .dragging

end Selection

inductive SelectionAutoscrollDirection where
  | up
  | down
  deriving DecidableEq

structure SelectionAutoscroll where
  direction : SelectionAutoscrollDirection
  innerRect : Rect
  deriving DecidableEq

structure ScrollMetrics where
  offsetFromBottom : Nat
  maxOffsetFromBottom : Nat
  deriving DecidableEq

inductive IslandMotionConfig where
  | smooth
  | steps
  | off
  deriving DecidableEq

inductive SpaceSidebarToken where
  | stateIcon
  | stateText
  | workspace
  | branch
  | gitStatus
  | custom (name : String)
  | styled (token : SpaceSidebarToken)
  deriving DecidableEq

def SpaceSidebarToken.parts : SpaceSidebarToken → SpaceSidebarToken
  | .styled token => token
  | token => token

/-- The application: the rest of its state, and its timers. -/
structure AppLoop extends AppState where
  announcing : Announcing
  configDiagnostic : Option String
  copyFeedback : Option String
  selection : Option Selection
  selectionAutoscroll : Option SelectionAutoscroll
  islandMotion : IslandMotionConfig
  /-- Whether the island is being animated. -/
  islandAnim : Bool
  metadataTokens : TerminalId → MetadataTokens
  workspaceTokens : List MetadataTokens
  sidebarSpaces : List (List SpaceSidebarToken)
  updateAvailable : Option String
  sessionDirty : Bool
  hostTerminalThemeEmpty : Bool
  terminalArea : Rect
  paneInfos : List PaneInfo
  /-- The terminals with a running process. -/
  terminalRuntimes : List TerminalId
  noSession : Bool
  debugAssertions : Bool
  updateVersionCheckEnabled : Bool
  updateManifestCheckEnabled : Bool
  gitRefreshInFlight : Bool
  gitIdentityRefreshRequested : Bool
  lastGitRemoteStatusRefresh : Instant
  lastGitRepoDiscoveryRefresh : Instant
  lastTerminalSize : Option (Nat × Nat)
  lastRenderAt : Option Instant
  sessionSaveThread : Bool
  nextResizePoll : Instant
  nextIslandAnimationTick : Option Instant
  configDiagnosticDeadline : Option Instant
  toastDeadline : Option Instant
  copyFeedbackDeadline : Option Instant
  selectionAutoscrollDeadline : Option Instant
  selectionHighlightClearDeadline : Option Instant
  nextAutoUpdateCheck : Option Instant
  nextAgentManifestUpdateCheck : Option Instant
  agentMetadataDeadline : Option Instant
  pendingAgentResumeDeadline : Option Instant
  sessionSaveDeadline : Option Instant

/-- What becomes of a shell that is to resume an agent. -/
inductive ShellStart where
  | spawnFailed
  | sendFailed
  | started
  deriving DecidableEq

/-- What a run of the scheduled tasks at `now` learns from outside. The clock goes on
while they run. -/
structure Surroundings (now : Instant) where
  notified : PaneId → Reading now
  toastShown : Reading now
  metadataRead : TerminalId → Reading now
  autoUpdate : Reading now
  manifestUpdate : Reading now
  saveRetried : Reading now
  managedSave : Reading now
  resumeSave : Reading now
  /-- Whether the animation has come to rest after its next step. -/
  animationSettles : Bool
  terminalSize : Option (Nat × Nat)
  scrollMetrics : PaneId → Option ScrollMetrics
  identityCwd : Workspace → Option String
  saveThreadFinished : Bool
  saveThreadSpawned : Bool
  /-- What becomes of the shell of a pane that is sent a command. -/
  shell : PaneId → String → ShellStart

namespace AppLoop

def minRenderInterval : Duration := milliseconds 16

def selectionAutoscrollInterval : Duration := milliseconds 30

def resizePollInterval : Duration := milliseconds 100

def gitRemoteStatusRefreshInterval : Duration := milliseconds 1500

def gitRepoDiscoveryRefreshInterval : Duration := seconds (5 * 60)

def autoUpdateCheckInterval : Duration := seconds (30 * 60)

def pendingAgentResumeThemeWait : Duration := milliseconds 750

def sessionSaveDebounce : Duration := seconds 5

variable (s : AppLoop)

/-- Change one terminal in place. -/
def updateTerminal (id : TerminalId) (update : TerminalState → TerminalState) : AppLoop :=
  { s with terminals := FinMap.mapValues s.terminals fun key terminal =>
      if key = id then update terminal else terminal }

def scheduleSessionSave (clock : Instant) : AppLoop :=
  if s.noSession then s
  else { s with sessionSaveDeadline := some (clock + sessionSaveDebounce) }

theorem lookup_updateTerminal (id other : TerminalId) (update : TerminalState → TerminalState) :
  (s.updateTerminal id update).terminals.lookup other =
    (s.terminals.lookup other).map fun terminal =>
      if other = id then update terminal else terminal := by
  simp [updateTerminal]

end AppLoop

end App
