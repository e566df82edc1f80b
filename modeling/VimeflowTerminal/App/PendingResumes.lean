import VimeflowTerminal.App.MetadataExpiry

/-! The agents of a restored session that are still to be resumed: which panes wait for it,
when it is due, and what starting a shell for each of them changes. -/

namespace App

open Layout Workspaces Terminal AgentResume Deadlines Workspace

structure PendingAgentResumeCandidate where
  paneId : PaneId
  terminalId : TerminalId
  plan : AgentResumePlan
  deriving DecidableEq

/-- The bytes that a shell takes as they are. -/
def isPlainByte (c : Char) : Bool :=
  c.isAlphanum || c ∈ ['_', '-', '.', '/', ':', '@', '%', '+', '=']

def shellQuote (value : String) : String :=
  if value.isEmpty then "''"
  else if value.toList.all isPlainByte then value
  else
    "'" ++ String.join (value.toList.map fun c => if c = '\'' then "'\\''" else c.toString) ++ "'"

def shellCommandFromArgv (argv : List String) : Option String :=
  if argv.isEmpty then none else some (" ".intercalate (argv.map shellQuote))

/-- The names a process of a pane gets in its environment. -/
structure PaneLaunchEnv where
  workspaceId : String
  tabId : String
  paneId : String
  deriving DecidableEq

def Tree.paneLaunchEnv (t : Tree) (wsIdx : Nat) (paneId : PaneId) : Option PaneLaunchEnv := do
  let workspaceId ← t.publicWorkspaceId wsIdx
  let tabIdx ← t.workspaces[wsIdx]?.bind fun ws => ws.findTabIndexForPane paneId
  let tabId ← t.publicTabId wsIdx tabIdx
  let paneId ← t.publicPaneId wsIdx paneId
  some ⟨workspaceId, tabId, paneId⟩

/-- The environment of a pane that is found. -/
def Tree.launchEnvOf (t : Tree) (paneId : PaneId) : Option PaneLaunchEnv :=
  (t.findPane paneId).bind fun found => t.paneLaunchEnv found.1 paneId

namespace AppLoop

variable (s : AppLoop)

def hasPendingAgentResumes : Bool :=
  s.terminals.entries.any fun e => e.2.pendingAgentResumePlan.isSome

/-- The panes of a tab: those of its layout, and those on view if it is the active tab. -/
def pendingAgentResumePaneIds (wsIdx tabIdx : Nat) (ws : Workspace) (tab : Tab) : List PaneId :=
  if s.active = some wsIdx ∧ tabIdx = ws.activeTab then
    (s.paneInfos.map (·.id)).foldl
      (fun ids visible => if visible ∈ ids then ids else ids ++ [visible]) tab.layout.paneIds
  else tab.layout.paneIds

def planOf (id : TerminalId) : Option AgentResumePlan :=
  (s.terminals.lookup id).bind (·.pendingAgentResumePlan)

/-- A pane without a process whose terminal has an agent to resume. -/
def pendingAgentResumeCandidate (tab : Tab) (paneId : PaneId) :
  Option PendingAgentResumeCandidate := do
  let terminalId ← tab.terminalId paneId
  if terminalId ∈ s.terminalRuntimes then none
  else
    let plan ← s.planOf terminalId
    some ⟨paneId, terminalId, plan⟩

def pendingAgentResumeCandidates : List PendingAgentResumeCandidate :=
  if s.terminalArea.width = 0 ∨ s.terminalArea.height = 0 then []
  else
    s.workspaces.zipIdx.flatMap fun (ws, wsIdx) =>
      ws.tabs.zipIdx.flatMap fun (tab, tabIdx) =>
        (s.pendingAgentResumePaneIds wsIdx tabIdx ws tab).filterMap
          (s.pendingAgentResumeCandidate tab)

def syncPendingAgentResumeDeadline (now : Instant) : AppLoop :=
  if !s.hasPendingAgentResumes || s.pendingAgentResumeCandidates.isEmpty then
    { s with pendingAgentResumeDeadline := none }
  else
    let deadline := s.pendingAgentResumeDeadline.getD (now + pendingAgentResumeThemeWait)
    { s with pendingAgentResumeDeadline := some deadline }

def pendingAgentResumeDue (now : Instant) : Bool := decide (Due now s.pendingAgentResumeDeadline)

variable {now : Instant} (around : Surroundings now) (allowEmptyTheme : Bool)

/-- What comes of starting a shell for a candidate, if it is tried. -/
def resumeAttempt (candidate : PendingAgentResumeCandidate) : Option ShellStart :=
  if s.hostTerminalThemeEmpty && !allowEmptyTheme then none
  else
    match shellCommandFromArgv candidate.plan.argv, s.toTree.launchEnvOf candidate.paneId with
    | some resumeCommand, some _ => some (around.shell candidate.paneId (resumeCommand ++ "\r"))
    | _, _ => none

def startPendingAgentResume (candidate : PendingAgentResumeCandidate) : AppLoop × Bool :=
  match s.resumeAttempt around allowEmptyTheme candidate with
  | some .spawnFailed =>
    (s.updateTerminal candidate.terminalId (·.clearAgentRuntimeIdentityAfterRespawn), false)
  | some .started =>
    (({ s with terminalRuntimes := candidate.terminalId :: s.terminalRuntimes } : AppLoop)
      |>.updateTerminal candidate.terminalId fun terminal =>
        { terminal with pendingAgentResumePlan := none, respawnShellOnExit := false }, true)
  | _ => (s, false)

/-- Start a candidate's shell unless its terminal got one meanwhile. -/
def startCandidate (candidate : PendingAgentResumeCandidate) : AppLoop × Bool :=
  if candidate.terminalId ∈ s.terminalRuntimes then (s, false)
  else s.startPendingAgentResume around allowEmptyTheme candidate

def startCandidates (candidates : List PendingAgentResumeCandidate) : AppLoop × Bool :=
  candidates.foldl
    (fun (s, changed) candidate =>
      let (s, started) := s.startCandidate around allowEmptyTheme candidate
      (s, changed || started))
    (s, false)

def startPendingAgentResumes : AppLoop :=
  let (s, changed) := s.startCandidates around allowEmptyTheme s.pendingAgentResumeCandidates
  let s := if changed then s.scheduleSessionSave around.resumeSave.time else s
  if !s.hasPendingAgentResumes || s.pendingAgentResumeCandidates.isEmpty then
    { s with pendingAgentResumeDeadline := none }
  else s

/-- `t` has the same agents to resume as `s`, in the same panes. -/
structure SameResumes (s t : AppLoop) : Prop where
  workspaces : t.workspaces.map allSeen = s.workspaces.map allSeen
  active : t.active = s.active
  terminalArea : t.terminalArea = s.terminalArea
  paneInfos : t.paneInfos = s.paneInfos
  terminalRuntimes : t.terminalRuntimes = s.terminalRuntimes
  hostTerminalThemeEmpty : t.hostTerminalThemeEmpty = s.hostTerminalThemeEmpty
  plans : ∀ id, t.planOf id = s.planOf id

theorem SameResumes.trans {s t u : AppLoop} (hLeft : SameResumes s t) (hRight : SameResumes t u) :
  SameResumes s u where
  workspaces := hRight.workspaces.trans hLeft.workspaces
  active := hRight.active.trans hLeft.active
  terminalArea := hRight.terminalArea.trans hLeft.terminalArea
  paneInfos := hRight.paneInfos.trans hLeft.paneInfos
  terminalRuntimes := hRight.terminalRuntimes.trans hLeft.terminalRuntimes
  hostTerminalThemeEmpty := hRight.hostTerminalThemeEmpty.trans hLeft.hostTerminalThemeEmpty
  plans := fun id => (hRight.plans id).trans (hLeft.plans id)

theorem planOf_eq (id : TerminalId) :
  s.planOf id = ((s.terminals.lookup id).map launch).bind Prod.snd := by
  unfold planOf
  cases s.terminals.lookup id <;> rfl

theorem OnlyMetadata.sameResumes {s t : AppLoop} (hOnly : OnlyMetadata now s t) :
  SameResumes s t where
  workspaces := hOnly.workspaces
  active := hOnly.active
  terminalArea := by rw [hOnly.rest]
  paneInfos := by rw [hOnly.rest]
  terminalRuntimes := by rw [hOnly.rest]
  hostTerminalThemeEmpty := by rw [hOnly.rest]
  plans := fun id => by rw [planOf_eq, planOf_eq, hOnly.launches]

theorem terminalId_markSeen (tab : Tab) (paneId : PaneId) :
  (markSeen tab).terminalId paneId = tab.terminalId paneId := by
  unfold markSeen Tab.terminalId
  rw [FinMap.lookup_mapValues, Option.map_map]
  rfl

/-- The candidates of one workspace, of which only the tabs matter that have panes. -/
def workspaceCandidates (s : AppLoop) (entry : Workspace × Nat) :
  List PendingAgentResumeCandidate :=
  entry.1.tabs.zipIdx.flatMap fun (tab, tabIdx) =>
    (s.pendingAgentResumePaneIds entry.2 tabIdx entry.1 tab).filterMap
      (s.pendingAgentResumeCandidate tab)

theorem workspaceCandidates_allSeen (s : AppLoop) (ws : Workspace) (wsIdx : Nat) :
  s.workspaceCandidates (ws.allSeen, wsIdx) = s.workspaceCandidates (ws, wsIdx) := by
  unfold workspaceCandidates
  simp only [allSeen, List.zipIdx_map, List.flatMap_map]
  congr 1
  funext entry
  obtain ⟨tab, tabIdx⟩ := entry
  have hCandidate : s.pendingAgentResumeCandidate (markSeen tab) =
      s.pendingAgentResumeCandidate tab := by
    funext paneId
    unfold pendingAgentResumeCandidate
    rw [terminalId_markSeen]
  simp only [Prod.map_apply, id_eq, hCandidate]
  rfl

theorem flatMap_workspaceCandidates (s : AppLoop) (workspaces : List Workspace) :
  (workspaces.map allSeen).zipIdx.flatMap s.workspaceCandidates =
    workspaces.zipIdx.flatMap s.workspaceCandidates := by
  rw [List.zipIdx_map, List.flatMap_map]
  congr 1
  funext entry
  exact s.workspaceCandidates_allSeen entry.1 entry.2

theorem SameResumes.candidates {s t : AppLoop} (hSame : SameResumes s t) :
  t.pendingAgentResumeCandidates = s.pendingAgentResumeCandidates := by
  have hEach : t.workspaceCandidates = s.workspaceCandidates := by
    funext entry
    unfold workspaceCandidates pendingAgentResumePaneIds pendingAgentResumeCandidate
    simp only [hSame.active, hSame.paneInfos, hSame.terminalRuntimes, hSame.plans]
  have hAll : t.workspaces.zipIdx.flatMap t.workspaceCandidates =
      s.workspaces.zipIdx.flatMap s.workspaceCandidates := by
    rw [← flatMap_workspaceCandidates, hSame.workspaces, flatMap_workspaceCandidates, hEach]
  unfold pendingAgentResumeCandidates
  rw [hSame.terminalArea]
  split
  · rfl
  · exact hAll

theorem findPane_fst (t : Tree) (paneId : PaneId) :
  (t.findPane paneId).map Prod.fst =
    (t.workspaces.map allSeen).findIdx? fun ws => (ws.paneState paneId).isSome := by
  unfold Tree.findPane
  simp only [List.findIdx?_map, Function.comp_def, paneState_allSeen, Option.isSome_map]
  cases hIdx : t.workspaces.findIdx? fun ws => (ws.paneState paneId).isSome with
  | none => rfl
  | some wsIdx =>
    obtain ⟨hLt, hPane, _⟩ := List.findIdx?_eq_some_iff_getElem.1 hIdx
    obtain ⟨pane, hPane⟩ := Option.isSome_iff_exists.1 hPane
    simp [List.getElem?_eq_getElem hLt, hPane]

theorem SameResumes.launchEnvOf {s t : AppLoop} (hSame : SameResumes s t) (paneId : PaneId) :
  t.toTree.launchEnvOf paneId = s.toTree.launchEnvOf paneId := by
  have hFound : (t.findPane paneId).map Prod.fst = (s.findPane paneId).map Prod.fst := by
    rw [findPane_fst, findPane_fst, hSame.workspaces]
  have hWs : ∀ wsIdx : Nat, t.workspaces[wsIdx]?.map allSeen =
      s.workspaces[wsIdx]?.map allSeen := by
    intro wsIdx
    rw [← List.getElem?_map, hSame.workspaces, List.getElem?_map]
  have hEnv : ∀ wsIdx, t.toTree.paneLaunchEnv wsIdx paneId =
      s.toTree.paneLaunchEnv wsIdx paneId := by
    intro wsIdx
    have hHere := hWs wsIdx
    unfold Tree.paneLaunchEnv Tree.publicWorkspaceId Tree.publicTabId Tree.publicPaneId
    cases hT : t.workspaces[wsIdx]? with
    | none =>
      rw [hT] at hHere
      rw [Option.map_eq_none_iff.1 hHere.symm]
    | some after =>
      rw [hT] at hHere
      obtain ⟨before, hBefore, hAllSeen⟩ := Option.map_eq_some_iff.1 hHere.symm
      have hTab := congrArg (fun ws => findTabIndexForPane ws paneId) hAllSeen
      have hNumber := fun tabIdx =>
        congrArg (fun ws => publicTabNumber ws tabIdx) hAllSeen
      have hPane := congrArg (fun ws => publicPaneNumber ws paneId) hAllSeen
      have hId := congrArg Workspace.id hAllSeen
      simp only [findTabIndexForPane_allSeen, publicTabNumber_allSeen,
        publicPaneNumber_allSeen, allSeen_id] at hTab hNumber hPane hId
      simp only [hBefore, Option.bind_eq_bind, Option.bind_some, Option.map_some, hTab, hNumber,
        hPane, hId]
  unfold Tree.launchEnvOf
  have hBind : ∀ u : Tree, ((u.findPane paneId).bind fun found => u.paneLaunchEnv found.1 paneId) =
      ((u.findPane paneId).map Prod.fst).bind fun wsIdx => u.paneLaunchEnv wsIdx paneId := by
    intro u
    rw [Option.bind_map]
    rfl
  rw [hBind, hBind, hFound]
  simp only [hEnv]

theorem SameResumes.resumeAttempt {s t : AppLoop} (hSame : SameResumes s t)
  (candidate : PendingAgentResumeCandidate) :
  t.resumeAttempt around allowEmptyTheme candidate =
    s.resumeAttempt around allowEmptyTheme candidate := by
  unfold AppLoop.resumeAttempt
  rw [hSame.hostTerminalThemeEmpty, hSame.launchEnvOf]

/-- From `s` to `t` shells were started: only terminals and their processes changed. -/
def OnlyShells (s t : AppLoop) : Prop :=
  t = { s with terminals := t.terminals, terminalRuntimes := t.terminalRuntimes }

/-- The terminal has neither a launch nor a resume that is pending. -/
def Cleared (s : AppLoop) (id : TerminalId) : Prop :=
  ∀ terminal, s.terminals.lookup id = some terminal → launch terminal = (none, none)

/-- What comes of a terminal's resume: of the attempts for its panes the first that does
not leave things as they were. -/
def resumeResult (candidates : List PendingAgentResumeCandidate) (id : TerminalId) :
  Option ShellStart :=
  candidates.findSome? fun candidate =>
    if candidate.terminalId = id then
      (s.resumeAttempt around allowEmptyTheme candidate).filter (· != .sendFailed)
    else none

variable {s}

theorem OnlyShells.refl : OnlyShells s s := rfl

theorem OnlyShells.trans {t u : AppLoop} (hLeft : OnlyShells s t) (hRight : OnlyShells t u) :
  OnlyShells s u := by
  unfold OnlyShells at *
  rw [hRight, hLeft]

theorem OnlyShells.resumeAttempt {t : AppLoop} (hOnly : OnlyShells s t) :
  t.resumeAttempt around allowEmptyTheme = s.resumeAttempt around allowEmptyTheme := by
  rw [hOnly]
  rfl

section Candidate

variable (candidate : PendingAgentResumeCandidate)

theorem onlyShells_startCandidate :
  OnlyShells s (s.startCandidate around allowEmptyTheme candidate).1 := by
  unfold startCandidate startPendingAgentResume
  split
  · rfl
  · split <;> rfl

theorem startCandidate_other {id : TerminalId} (hOther : id ≠ candidate.terminalId) :
  let t := (s.startCandidate around allowEmptyTheme candidate).1
  t.terminals.lookup id = s.terminals.lookup id ∧
    (id ∈ t.terminalRuntimes ↔ id ∈ s.terminalRuntimes) := by
  have hUpdated : ∀ (u : AppLoop) update,
      (u.updateTerminal candidate.terminalId update).terminals.lookup id =
        u.terminals.lookup id := by
    intro u update
    rw [lookup_updateTerminal]
    simp [hOther]
  unfold startCandidate startPendingAgentResume
  split
  · exact ⟨rfl, Iff.rfl⟩
  split
  · exact ⟨hUpdated _ _, Iff.rfl⟩
  · refine ⟨hUpdated _ _, ?_⟩
    change id ∈ candidate.terminalId :: s.terminalRuntimes ↔ _
    simp [hOther]
  · exact ⟨rfl, Iff.rfl⟩

/-- A terminal with a process is left alone. -/
theorem startCandidate_running {id : TerminalId} (hRunning : id ∈ s.terminalRuntimes) :
  let t := (s.startCandidate around allowEmptyTheme candidate).1
  t.terminals.lookup id = s.terminals.lookup id ∧ id ∈ t.terminalRuntimes := by
  by_cases hSame : id = candidate.terminalId
  · subst hSame
    unfold startCandidate
    rw [if_pos hRunning]
    exact ⟨rfl, hRunning⟩
  · obtain ⟨hLookup, hRuntimes⟩ :=
      @startCandidate_other s now around allowEmptyTheme candidate id hSame
    exact ⟨hLookup, hRuntimes.2 hRunning⟩

theorem Cleared.startCandidate {id : TerminalId} (hCleared : s.Cleared id) :
  (s.startCandidate around allowEmptyTheme candidate).1.Cleared id := by
  by_cases hSame : id = candidate.terminalId
  · subst hSame
    unfold AppLoop.startCandidate startPendingAgentResume
    split
    · exact hCleared
    split
    · intro terminal hLookup
      rw [lookup_updateTerminal] at hLookup
      obtain ⟨before, _, rfl⟩ := Option.map_eq_some_iff.1 hLookup
      rw [if_pos rfl]
      rfl
    · intro terminal hLookup
      rw [lookup_updateTerminal] at hLookup
      obtain ⟨before, hBefore, rfl⟩ := Option.map_eq_some_iff.1 hLookup
      have hManaged : before.managedAgent = none := congrArg Prod.fst (hCleared before hBefore)
      rw [if_pos rfl]
      exact Prod.ext hManaged rfl
    · exact hCleared
  · intro terminal hLookup
    rw [(startCandidate_other around allowEmptyTheme candidate hSame).1] at hLookup
    exact hCleared terminal hLookup

end Candidate

/-- Start the shells of several candidates in turn. -/
def startEach (s : AppLoop) (candidates : List PendingAgentResumeCandidate) : AppLoop :=
  candidates.foldl (fun s candidate => (s.startCandidate around allowEmptyTheme candidate).1) s

theorem startCandidates_fst (candidates : List PendingAgentResumeCandidate) (changed : Bool) :
  (candidates.foldl
    (fun (u : AppLoop × Bool) candidate =>
      ((u.1.startCandidate around allowEmptyTheme candidate).1,
        u.2 || (u.1.startCandidate around allowEmptyTheme candidate).2))
    (s, changed)).1 = s.startEach around allowEmptyTheme candidates := by
  induction candidates generalizing s changed with
  | nil => rfl
  | cons candidate candidates ih => exact ih _

section Each

variable (candidates : List PendingAgentResumeCandidate)

theorem onlyShells_startEach : OnlyShells s (s.startEach around allowEmptyTheme candidates) := by
  induction candidates generalizing s with
  | nil => exact OnlyShells.refl
  | cons candidate candidates ih =>
    exact (onlyShells_startCandidate around allowEmptyTheme candidate).trans ih

theorem startEach_running {id : TerminalId} (hRunning : id ∈ s.terminalRuntimes) :
  let t := s.startEach around allowEmptyTheme candidates
  t.terminals.lookup id = s.terminals.lookup id ∧ id ∈ t.terminalRuntimes := by
  induction candidates generalizing s with
  | nil => exact ⟨rfl, hRunning⟩
  | cons candidate candidates ih =>
    obtain ⟨hLookup, hStill⟩ :=
      startCandidate_running around allowEmptyTheme candidate hRunning
    obtain ⟨hRest, hEnd⟩ := ih hStill
    exact ⟨hRest.trans hLookup, hEnd⟩

theorem Cleared.startEach {id : TerminalId} (hCleared : s.Cleared id) :
  (s.startEach around allowEmptyTheme candidates).Cleared id := by
  induction candidates generalizing s with
  | nil => exact hCleared
  | cons candidate candidates ih =>
    exact ih (hCleared.startCandidate around allowEmptyTheme candidate)

/-- What a terminal without a process looks like after the shells have been started. -/
def Resumed (s t : AppLoop) (id : TerminalId) : Option ShellStart → Prop
  | some .spawnFailed => t.Cleared id
  | some .started => id ∈ t.terminalRuntimes ∧
      (t.terminals.lookup id).map (·.managedAgent) = (s.terminals.lookup id).map (·.managedAgent)
  | _ => id ∉ t.terminalRuntimes ∧ t.terminals.lookup id = s.terminals.lookup id

theorem Resumed.of_lookup {t u : AppLoop} {id : TerminalId} {result : Option ShellStart}
  (hLookup : t.terminals.lookup id = s.terminals.lookup id) (hResumed : Resumed t u id result) :
  Resumed s u id result := by
  unfold Resumed at *
  rwa [hLookup] at hResumed

theorem resumeResult_cons (candidate : PendingAgentResumeCandidate) (id : TerminalId) :
  s.resumeResult around allowEmptyTheme (candidate :: candidates) id =
    (if candidate.terminalId = id then
      (s.resumeAttempt around allowEmptyTheme candidate).filter (· != .sendFailed) else none).or
        (s.resumeResult around allowEmptyTheme candidates id) := by
  unfold resumeResult
  rw [List.findSome?_cons]
  split
  next hSome => rw [hSome]; rfl
  next hNone => rw [hNone]; rfl

theorem resumed_startEach {id : TerminalId} (hIdle : id ∉ s.terminalRuntimes) :
  Resumed s (s.startEach around allowEmptyTheme candidates) id
    (s.resumeResult around allowEmptyTheme candidates id) := by
  induction candidates generalizing s with
  | nil => exact ⟨hIdle, rfl⟩
  | cons candidate candidates ih =>
    have hAttempts := (@onlyShells_startCandidate s now around allowEmptyTheme
      candidate).resumeAttempt around allowEmptyTheme
    have hRest : (s.startCandidate around allowEmptyTheme candidate).1.resumeResult around
        allowEmptyTheme candidates id = s.resumeResult around allowEmptyTheme candidates id := by
      unfold resumeResult
      rw [hAttempts]
    rw [resumeResult_cons]
    change Resumed s ((s.startCandidate around allowEmptyTheme candidate).1.startEach around
      allowEmptyTheme candidates) id _
    by_cases hHere : candidate.terminalId = id
    · subst hHere
      rw [if_pos rfl]
      have hStep : s.startCandidate around allowEmptyTheme candidate =
          s.startPendingAgentResume around allowEmptyTheme candidate := if_neg hIdle
      rw [hStep] at hRest ⊢
      unfold startPendingAgentResume at hRest ⊢
      cases hAttempt : s.resumeAttempt around allowEmptyTheme candidate with
      | none => exact ih hIdle
      | some start =>
        cases start with
        | sendFailed => exact ih hIdle
        | spawnFailed =>
          apply Cleared.startEach
          intro terminal hLookup
          rw [lookup_updateTerminal] at hLookup
          obtain ⟨before, _, rfl⟩ := Option.map_eq_some_iff.1 hLookup
          rw [if_pos rfl]
          rfl
        | started =>
          obtain ⟨hLookup, hRunning⟩ := @startEach_running
            (({ s with terminalRuntimes := candidate.terminalId :: s.terminalRuntimes } :
              AppLoop).updateTerminal candidate.terminalId fun terminal =>
                { terminal with pendingAgentResumePlan := none, respawnShellOnExit := false })
            now around allowEmptyTheme candidates candidate.terminalId List.mem_cons_self
          refine ⟨hRunning, ?_⟩
          rw [hLookup, lookup_updateTerminal, Option.map_map]
          congr 1
          funext terminal
          simp
    · rw [if_neg hHere, Option.none_or, ← hRest]
      obtain ⟨hLookup, hRuntimes⟩ :=
        @startCandidate_other s now around allowEmptyTheme candidate id (Ne.symm hHere)
      exact (ih fun hRunning => hIdle (hRuntimes.1 hRunning)).of_lookup hLookup

end Each

end AppLoop

end App
