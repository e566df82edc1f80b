import VimeflowTerminal.App.State

/-! A request names a terminal by its id, by the present public id of its pane or by
its agent. Reading the screen of a pane goes by the id alone, in any of its forms. -/

namespace App

open Layout Workspaces Terminal

structure TerminalTarget where
  wsIdx : Nat
  tabIdx : Nat
  paneId : PaneId
  terminalId : String
  deriving DecidableEq

/-- A candidate of an ambiguous target, without its directory and status. -/
structure TerminalTargetCandidate where
  terminalId : String
  paneId : String
  workspaceId : String
  tabId : String
  deriving DecidableEq

inductive TerminalTargetError where
  | notFound (target : String)
  | ambiguous (target : String) (candidates : List TerminalTargetCandidate)
  deriving DecidableEq

structure ErrorBody where
  code : String
  message : String
  deriving DecidableEq

namespace AppState

-- The text of a terminal id, which is all there is to it outside the process.
variable (idText : TerminalId → String) (s : AppState)

def terminalByText (text : String) : Option (TerminalId × TerminalState) :=
  (s.terminals.entries.find? fun entry => idText entry.1 = text).map fun entry => (entry.1, entry.2)

def terminalTargets : List TerminalTarget :=
  s.workspaces.zipIdx.flatMap fun (ws, wsIdx) =>
    ws.tabs.zipIdx.flatMap fun (tab, tabIdx) =>
      tab.layout.paneIds.filterMap fun paneId =>
        (tab.terminalId paneId).map fun terminalId =>
          { wsIdx, tabIdx, paneId, terminalId := idText terminalId }

def terminalTargetForPane (wsIdx : Nat) (paneId : PaneId) : Option TerminalTarget := do
  let ws ← s.workspaces[wsIdx]?
  let tabIdx ← ws.findTabIndexForPane paneId
  let terminalId ← ws.terminalId paneId
  some { wsIdx, tabIdx, paneId, terminalId := idText terminalId }

def terminalTargetCandidate (wsIdx : Nat) (paneId : PaneId) : Option TerminalTargetCandidate := do
  let ws ← s.workspaces[wsIdx]?
  let tabIdx ← ws.findTabIndexForPane paneId
  let pane ← ws.paneState paneId
  let _ ← s.terminals.lookup pane.attachedTerminalId
  let publicId ← s.publicPaneId wsIdx paneId
  let tabId ← s.publicTabId wsIdx tabIdx
  some {
    terminalId := idText pane.attachedTerminalId
    paneId := publicId
    workspaceId := ws.id
    tabId }

/-- Only the id that the pane has now is taken. -/
def parseCurrentPublicPaneId (id : String) : Option (Nat × PaneId) := do
  let (wsIdx, paneId) ← s.parsePaneId id
  if s.publicPaneId wsIdx paneId = some id then some (wsIdx, paneId) else none

def singleTerminalMatch (target : String) (found : List TerminalTarget) :
  Except TerminalTargetError (Option TerminalTarget) :=
  match found with
  | [] => .ok none
  | [resolved] => .ok (some resolved)
  | found => .error (.ambiguous target
      (found.filterMap fun candidate => s.terminalTargetCandidate idText candidate.wsIdx
        candidate.paneId))

def resolveTerminalTarget (target : String) : Except TerminalTargetError TerminalTarget := do
  let terminalMatch ← s.singleTerminalMatch idText target
    ((s.terminalTargets idText).filter fun candidate => candidate.terminalId = target)
  let paneMatch := (s.parseCurrentPublicPaneId target).bind fun (wsIdx, paneId) =>
    s.terminalTargetForPane idText wsIdx paneId
  match terminalMatch.or paneMatch with
  | some resolved => .ok resolved
  | none => do
    let agentMatch ← s.singleTerminalMatch idText target
      ((s.terminalTargets idText).filter fun candidate =>
        (s.terminalByText idText candidate.terminalId).any fun (_, terminal) =>
          terminal.agentName == some target || terminal.effectiveAgentLabel == some target)
    match agentMatch with
    | some resolved => .ok resolved
    | none => .error (.notFound target)

def targetIsAgent (target : TerminalTarget) : Bool :=
  (s.terminalByText idText target.terminalId).any fun (_, terminal) =>
    terminal.agentName.isSome || terminal.effectiveAgentLabel.isSome

def resolveAgentTarget (target : String) : Except TerminalTargetError TerminalTarget :=
  let paneMatch := (s.parseCurrentPublicPaneId target).bind fun (wsIdx, paneId) =>
    (s.terminalTargetForPane idText wsIdx paneId).filter (s.targetIsAgent idText)
  match paneMatch with
  | some resolved => .ok resolved
  | none => do
    let nameMatch ← s.singleTerminalMatch idText target
      ((s.terminalTargets idText).filter fun candidate =>
        (s.terminalByText idText candidate.terminalId).any fun (_, terminal) =>
          terminal.agentName == some target)
    match nameMatch with
    | some resolved => .ok resolved
    | none => .error (.notFound target)

end AppState

def TerminalTargetCandidate.describe (candidate : TerminalTargetCandidate) : String :=
  "terminal_id=" ++ candidate.terminalId ++ " pane_id=" ++ candidate.paneId ++ " workspace_id=" ++
    candidate.workspaceId ++ " tab_id=" ++ candidate.tabId

def agentTargetErrorBody : TerminalTargetError → ErrorBody
  | .notFound target => ⟨"agent_not_found", "agent target " ++ target ++ " not found"⟩
  | .ambiguous target candidates => ⟨"agent_target_ambiguous",
      "agent target " ++ target ++ " is ambiguous; candidates: " ++
        String.intercalate "; " (candidates.map TerminalTargetCandidate.describe)⟩

end App
