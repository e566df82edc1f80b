import VimeflowTerminal.App.PendingResumes

/-! The timers of the application, the deadline up to which a loop may sleep, and the tasks
that the monolithic and the headless loop run when they wake up. What the tasks send to
subscribers, clients and threads is left out. -/

namespace Terminal.TerminalState

open Deadlines

def nextManagedAgentDeadline (s : TerminalState) : Option Instant :=
  match s.managedAgent with
  | some ⟨_, .pending readyAfter deadline _⟩ => some (min (readyAfter.getD deadline) deadline)
  | _ => none

/-- When the launch of the agent is given up. -/
def managedAgentLaunchDeadline (s : TerminalState) : Option Instant :=
  match s.managedAgent with
  | some ⟨_, .pending _ deadline _⟩ => some deadline
  | _ => none

end Terminal.TerminalState

namespace App

open Layout Workspaces Terminal Deadlines

def toastDuration : ToastKind → Duration
  | .needsAttention => seconds 8
  | .finished => seconds 5
  | .updateInstalled => seconds 3

namespace AppLoop

variable (s : AppLoop)

def clearIslandAnimation : AppLoop :=
  { s with islandAnim := false, nextIslandAnimationTick := none }

def tickIslandAnimation {now : Instant} (around : Surroundings now) : AppLoop :=
  if s.islandMotion = .off then s.clearIslandAnimation
  else if !s.islandAnim then { s with nextIslandAnimationTick := none }
  else
    match s.nextIslandAnimationTick with
    | none => { s with nextIslandAnimationTick := some (now + minRenderInterval) }
    | some deadline =>
      if now < deadline then s
      else if around.animationSettles then s.clearIslandAnimation
      else { s with nextIslandAnimationTick := some (now + minRenderInterval) }

def handleResizePoll {now : Instant} (around : Surroundings now) : AppLoop × Bool :=
  match around.terminalSize with
  | none => (s, false)
  | some size =>
    if s.lastTerminalSize ≠ some size then
      ({ s with lastTerminalSize := some size }.clearIslandAnimation, true)
    else (s, false)

/-- Look for a new size of the terminal from time to time. -/
def pollResize {now : Instant} (around : Surroundings now) : AppLoop × Bool :=
  if s.nextResizePoll ≤ now then
    let (s, resized) := s.handleResizePoll around
    ({ s with nextResizePoll := now + resizePollInterval }, resized)
  else (s, false)

def clearDueConfigDiagnostic (now : Instant) : AppLoop :=
  if Due now s.configDiagnosticDeadline then
    { s with configDiagnosticDeadline := none, configDiagnostic := none }
  else s

def clearDueToast (now : Instant) : AppLoop :=
  if Due now s.toastDeadline then { s with toastDeadline := none, toast := none } else s

def syncToastDeadline (clock : Instant) (previousToast : Option ToastNotification) : AppLoop :=
  if s.toast ≠ previousToast then
    { s with toastDeadline := s.toast.map fun toast => clock + toastDuration toast.kind }
  else s

def deliverDueNotifications {now : Instant} (around : Surroundings now) : AppLoop :=
  if Due now s.nextPendingAgentNotificationDeadline then
    let previousToast := s.toast
    let (drained, deliveries) := s.toAppState.drainDueAgentNotifications s.announcing now
    let s := { s with toAppState := drained }
    if deliveries.isEmpty then s else s.syncToastDeadline around.toastShown.time previousToast
  else s

def nextManagedAgentDeadline : Option Instant :=
  earliest (s.terminals.entries.map fun e => e.2.nextManagedAgentDeadline)

/-- Reconcile every launch; the panes whose terminals changed. -/
def reconcileManagedAgentsAt (now : Instant) : AppLoop × List (PaneId × TerminalId) :=
  let changedTerminals := (s.terminals.entries.filter fun e =>
    (e.2.reconcileManagedAgentAt now false).2).map Sigma.fst
  let reconciled := { s with terminals := FinMap.mapValues s.terminals fun _ terminal =>
    (terminal.reconcileManagedAgentAt now false).1 }
  if changedTerminals.isEmpty then (reconciled, [])
  else ({ reconciled with sessionDirty := true },
    s.toTree.attachments.filter fun pane => pane.2 ∈ changedTerminals)

def reconcileDueManagedAgents {now : Instant} (around : Surroundings now) : AppLoop :=
  if Due now s.nextManagedAgentDeadline then
    let (s, panes) := s.reconcileManagedAgentsAt now
    if panes.isEmpty then s else s.scheduleSessionSave around.managedSave.time
  else s

def clearDueCopyFeedback (now : Instant) : AppLoop :=
  if Due now s.copyFeedbackDeadline then
    { s with copyFeedbackDeadline := none, copyFeedback := none }
  else s

def stopSelectionAutoscroll : AppLoop :=
  { s with selectionAutoscroll := none, selectionAutoscrollDeadline := none }

/-- Scroll one line further, unless the selection, its pane or the text has come to an end. -/
def tickSelectionAutoscroll {now : Instant} (around : Surroundings now) : AppLoop :=
  match s.selectionAutoscroll with
  | none => { s with selectionAutoscrollDeadline := none }
  | some autoscroll =>
    match s.selection with
    | none => s.stopSelectionAutoscroll
    | some selection =>
      let currentRect := (s.paneInfos.find? fun info => info.id = selection.paneId).map
        (·.innerRect)
      if !selection.isDragging || currentRect ≠ some autoscroll.innerRect then
        s.stopSelectionAutoscroll
      else
        match around.scrollMetrics selection.paneId, autoscroll.direction with
        | none, _ => s.stopSelectionAutoscroll
        | some metrics, .up =>
          if metrics.maxOffsetFromBottom ≤ metrics.offsetFromBottom then
            s.stopSelectionAutoscroll
          else
            let next := now + selectionAutoscrollInterval
            { s with selectionAutoscrollDeadline := some next }
        | some metrics, .down =>
          if metrics.offsetFromBottom = 0 then s.stopSelectionAutoscroll
          else
            let next := now + selectionAutoscrollInterval
            { s with selectionAutoscrollDeadline := some next }

def runDueSelectionAutoscroll {now : Instant} (around : Surroundings now) : AppLoop :=
  if Due now s.selectionAutoscrollDeadline then s.tickSelectionAutoscroll around else s

def clearSelection : AppLoop := { s with selection := none, selectionAutoscroll := none }

def clearDueSelectionHighlight (now : Instant) : AppLoop :=
  if Due now s.selectionHighlightClearDeadline then
    let s := { s with selectionHighlightClearDeadline := none }
    if s.selection.any fun selection => !selection.isInProgress then s.clearSelection else s
  else s

/-- What of the status of the repositories the sidebar shows. -/
structure GitStatusRefreshDemand where
  branch : Bool
  aheadBehind : Bool
  deriving DecidableEq

def GitStatusRefreshDemand.isEmpty (demand : GitStatusRefreshDemand) : Bool :=
  !demand.branch && !demand.aheadBehind

def gitRefreshDemand : GitStatusRefreshDemand where
  branch := s.sidebarSpaces.flatten.any fun token => token.parts == .branch
  aheadBehind := s.sidebarSpaces.flatten.any fun token => token.parts == .gitStatus

def gitRefreshDeadline : Option Instant :=
  if !s.gitRefreshInFlight && !s.workspaces.isEmpty &&
      (s.gitIdentityRefreshRequested || !s.gitRefreshDemand.isEmpty) then
    some (s.lastGitRemoteStatusRefresh + gitRemoteStatusRefreshInterval)
  else none

def startGitStatusRefreshIfDue {now : Instant} (around : Surroundings now) : AppLoop :=
  if Due now s.gitRefreshDeadline then
    let refreshRepoDiscovery := s.gitIdentityRefreshRequested ||
      gitRepoDiscoveryRefreshInterval ≤ now - s.lastGitRepoDiscoveryRefresh
    if (s.workspaces.filterMap around.identityCwd).isEmpty then
      { s with lastGitRemoteStatusRefresh := now, gitIdentityRefreshRequested := false }
    else
      { s with
        gitRefreshInFlight := true
        gitIdentityRefreshRequested := false
        lastGitRepoDiscoveryRefresh :=
          if refreshRepoDiscovery then now else s.lastGitRepoDiscoveryRefresh }
  else s

/-- Without a client that shows the application nobody looks at the repositories. -/
def startGitStatusRefreshForClients {now : Instant} (around : Surroundings now)
  (hasAppClient : Bool) : AppLoop :=
  if hasAppClient then s.startGitStatusRefreshIfDue around else s

def backgroundUpdateCheckEnabled (checkEnabled : Bool) : Bool :=
  (!s.noSession && !s.debugAssertions) && checkEnabled

def runAutoUpdateCheck (clock : Instant) : AppLoop :=
  let next := clock + autoUpdateCheckInterval
  { s with nextAutoUpdateCheck :=
      if !s.backgroundUpdateCheckEnabled s.updateVersionCheckEnabled then none
      else if s.updateAvailable.isNone then some next
      else none }

def runDueAutoUpdateCheck {now : Instant} (around : Surroundings now) : AppLoop :=
  if Due now s.nextAutoUpdateCheck then s.runAutoUpdateCheck around.autoUpdate.time else s

def runAgentManifestUpdateCheck (clock : Instant) : AppLoop :=
  let next := clock + autoUpdateCheckInterval
  { s with nextAgentManifestUpdateCheck :=
      if !s.backgroundUpdateCheckEnabled s.updateManifestCheckEnabled then none else some next }

def runDueAgentManifestUpdateCheck {now : Instant} (around : Surroundings now) : AppLoop :=
  if Due now s.nextAgentManifestUpdateCheck then
    s.runAgentManifestUpdateCheck around.manifestUpdate.time
  else s

/-- Save in a thread of its own; while the last one is busy, try again soon. -/
def startBackgroundSessionSave {now : Instant} (around : Surroundings now) : AppLoop :=
  if s.noSession then { s with sessionSaveDeadline := none }
  else if s.sessionSaveThread && !around.saveThreadFinished then
    let retry := around.saveRetried.time + milliseconds 250
    { s with sessionSaveDeadline := some retry }
  else { s with sessionSaveDeadline := none, sessionSaveThread := around.saveThreadSpawned }

def runDueSessionSave {now : Instant} (around : Surroundings now) : AppLoop :=
  if Due now s.sessionSaveDeadline then s.startBackgroundSessionSave around else s

def expireDueMetadata {now : Instant} (around : Surroundings now) : AppLoop :=
  match s.agentMetadataDeadline with
  | none => s
  | some deadline => if deadline ≤ now then s.expireMetadataAt around deadline else s

/-- Start what is to be resumed, once the panes have their sizes. -/
def resumeAgents {now : Instant} (around : Surroundings now) (geometryDirty : Bool) : AppLoop :=
  if geometryDirty then { s with pendingAgentResumeDeadline := none }
  else
    let s := s.syncPendingAgentResumeDeadline now
    s.startPendingAgentResumes around (s.pendingAgentResumeDue now)

def handleScheduledTasks {now : Instant} (around : Surroundings now) (geometryDirty : Bool) :
  AppLoop :=
  let s := s.tickIslandAnimation around
  let (s, resized) := s.pollResize around
  let s := s.clearDueConfigDiagnostic now
  let s := s.clearDueToast now
  let s := s.deliverDueNotifications around
  let s := s.reconcileDueManagedAgents around
  let s := s.clearDueCopyFeedback now
  let s := s.runDueSelectionAutoscroll around
  let s := s.clearDueSelectionHighlight now
  let s := s.startGitStatusRefreshIfDue around
  let s := s.runDueAutoUpdateCheck around
  let s := s.runDueAgentManifestUpdateCheck around
  let s := s.runDueSessionSave around
  let s := s.expireDueMetadata around
  s.resumeAgents around (geometryDirty || resized)

/-- Without resize polling, and with the state of repositories only for clients that show
it. Launches are not reconciled here. -/
def handleScheduledTasksHeadless {now : Instant} (around : Surroundings now)
  (hasAppClient geometryDirty : Bool) : AppLoop :=
  let s := s.tickIslandAnimation around
  let s := s.clearDueConfigDiagnostic now
  let s := s.clearDueToast now
  let s := s.deliverDueNotifications around
  let s := s.clearDueCopyFeedback now
  let s := s.runDueSelectionAutoscroll around
  let s := s.clearDueSelectionHighlight now
  let s := s.startGitStatusRefreshForClients around hasAppClient
  let s := s.runDueAutoUpdateCheck around
  let s := s.runDueAgentManifestUpdateCheck around
  let s := s.runDueSessionSave around
  let s := s.expireDueMetadata around
  s.resumeAgents around geometryDirty

/-- What a loop waits for. -/
inductive Timer where
  | resizePoll
  | configDiagnostic
  | toast
  | pendingAgentNotification
  | managedAgent
  | copyFeedback
  | gitRefresh
  | autoUpdateCheck
  | agentManifestUpdateCheck
  | agentMetadata
  | pendingAgentResume
  | sessionSave
  | selectionAutoscroll
  | selectionHighlightClear
  | islandAnimationTick
  | render
  deriving DecidableEq

/-- The component deadlines. A render is only waited for while it is too early for it. -/
def deadline (now : Instant) (needsRender : Bool) : Timer → Option Instant
  | .resizePoll => some s.nextResizePoll
  | .configDiagnostic => s.configDiagnosticDeadline
  | .toast => s.toastDeadline
  | .pendingAgentNotification => s.nextPendingAgentNotificationDeadline
  | .managedAgent => s.nextManagedAgentDeadline
  | .copyFeedback => s.copyFeedbackDeadline
  | .gitRefresh => s.gitRefreshDeadline
  | .autoUpdateCheck => s.nextAutoUpdateCheck
  | .agentManifestUpdateCheck => s.nextAgentManifestUpdateCheck
  | .agentMetadata => s.agentMetadataDeadline
  | .pendingAgentResume => s.pendingAgentResumeDeadline
  | .sessionSave => s.sessionSaveDeadline
  | .selectionAutoscroll => s.selectionAutoscrollDeadline
  | .selectionHighlightClear => s.selectionHighlightClearDeadline
  | .islandAnimationTick => s.nextIslandAnimationTick
  | .render =>
    if needsRender then
      (s.lastRenderAt.map fun lastRenderAt => lastRenderAt + minRenderInterval).filter fun at' =>
        now < at'
    else none

/-- The timers a loop takes into account, in the order of the source. -/
def timers (includeResizePoll includeGitRefresh : Bool) : List Timer :=
  (if includeResizePoll then [Timer.resizePoll] else []) ++
    [.configDiagnostic, .toast, .pendingAgentNotification, .managedAgent, .copyFeedback] ++
    (if includeGitRefresh then [Timer.gitRefresh] else []) ++
    [.autoUpdateCheck, .agentManifestUpdateCheck, .agentMetadata, .pendingAgentResume,
      .sessionSave, .selectionAutoscroll, .selectionHighlightClear, .islandAnimationTick, .render]

def nextLoopDeadlineWithResizePoll (now : Instant)
  (needsRender includeResizePoll includeGitRefresh : Bool) : Option Instant :=
  earliest ((timers includeResizePoll includeGitRefresh).map (s.deadline now needsRender))

def nextHeadlessLoopDeadlineWithGitRefresh (now : Instant) (needsRender includeGitRefresh : Bool) :
  Option Instant :=
  s.nextLoopDeadlineWithResizePoll now needsRender false includeGitRefresh

end AppLoop

end App
