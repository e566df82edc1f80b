import VimeflowTerminal.App.Intact
import VimeflowTerminal.Data.StableSort

/-! The agents of all panes in the order of the workspaces, their tabs and their layouts, and what a
view makes of them: those that satisfy its filter, sorted by its fields. -/

namespace App

open Layout Workspaces Terminal Detect StableSort

/-- The agent of a pane. The labels that are only drawn are left out. -/
structure PaneDetail where
  paneId : PaneId
  tabIdx : Nat
  agentKindLabel : Option String
  agent : Option Agent
  state : AgentState
  seen : Bool
  lastAgentStateChangeSeq : Option Nat
  tokens : FinMap String String

structure AgentPanelEntry extends PaneDetail where
  wsIdx : Nat

inductive AgentPanelSort where
  | spaces
  | priority
  deriving DecidableEq

inductive AgentViewBuiltinField where
  | status
  | workspaceId
  | tabId
  | paneId
  | agent
  | seen
  | stateChangeSeq
  deriving DecidableEq

inductive AgentViewField where
  | builtin (field : AgentViewBuiltinField)
  | token (token : String)
  deriving DecidableEq

inductive AgentViewContext where
  | currentWorkspaceId
  | currentTabId
  deriving DecidableEq

inductive AgentViewValue where
  | string (value : String)
  | bool (value : Bool)
  | number (value : Nat)
  | context (context : AgentViewContext)
  deriving DecidableEq

inductive AgentViewFilter where
  | all (filters : List AgentViewFilter)
  | any (filters : List AgentViewFilter)
  | not (filter : AgentViewFilter)
  | eq (field : AgentViewField) (value : AgentViewValue)
  | oneOf (field : AgentViewField) (values : List AgentViewValue)
  | defined (field : AgentViewField)

inductive AgentViewBuiltinSortField where
  | workspaceOrder
  | tabOrder
  | paneOrder
  | attention
  | status
  | agent
  | seen
  | stateChangeSeq
  deriving DecidableEq

inductive AgentViewSortField where
  | builtin (field : AgentViewBuiltinSortField)
  | token (token : String)
  deriving DecidableEq

inductive AgentViewSortOrder where
  | asc
  | desc
  deriving DecidableEq

structure AgentViewSort where
  field : AgentViewSortField
  order : AgentViewSortOrder
  deriving DecidableEq

structure AgentViewSetParams where
  source : String
  label : Option String
  filter : Option AgentViewFilter
  sort : List AgentViewSort

/-- What the panel of the agents is made from; the values of the metadata tokens are those of the
terminals. -/
structure AgentPanelApp extends Tree where
  mode : Mode
  metadataTokens : TerminalId → FinMap String String
  agentPanelSort : AgentPanelSort
  agentViewOverride : Option AgentViewSetParams

/-- Values of different kinds are compared by their kinds, in the order of the constructors. -/
inductive EvalValue where
  | string (value : String)
  | bool (value : Bool)
  | number (value : Nat)
  deriving DecidableEq

def EvalValue.cmp : EvalValue → EvalValue → Ordering
  | .string a, .string b => compare a b
  | .bool a, .bool b => compare a b
  | .number a, .number b => compare a b
  | .string _, _ => .lt
  | _, .string _ => .gt
  | .bool _, _ => .lt
  | _, .bool _ => .gt

def tabAttentionPriority (state : AgentState) (seen : Bool) : Nat :=
  match state, seen with
  | .blocked, _ => 4
  | .idle, false => 3
  | .working, _ => 2
  | .idle, true => 1
  | .unknown, _ => 0

def statusName (state : AgentState) (seen : Bool) : String :=
  match state, seen with
  | .idle, false => "done"
  | .idle, true => "idle"
  | .working, _ => "working"
  | .blocked, _ => "blocked"
  | .unknown, _ => "unknown"

namespace AgentPanelApp

variable (app : AgentPanelApp)

/-- Panes without an agent are left out. -/
def paneDetail (tab : Tab) (tabIdx : Nat) (id : PaneId) : Option PaneDetail := do
  let pane ← tab.panes.lookup id
  let terminal ← app.terminals.lookup pane.attachedTerminalId
  let agentKindLabel := terminal.effectiveAgentLabel
  let _ ← terminal.agentName.or agentKindLabel
  some {
    paneId := id
    tabIdx
    agentKindLabel
    agent := terminal.effectiveKnownAgent
    state := terminal.state
    seen := pane.seen
    lastAgentStateChangeSeq := terminal.lastAgentStateChangeSeq
    tokens := app.metadataTokens pane.attachedTerminalId }

def paneDetails (ws : Workspace) : List PaneDetail :=
  ws.tabs.zipIdx.flatMap fun (tab, tabIdx) =>
    tab.layout.paneIds.filterMap (app.paneDetail tab tabIdx)

def collectAgentPanelEntries : List AgentPanelEntry :=
  app.workspaces.zipIdx.flatMap fun (ws, wsIdx) =>
    (app.paneDetails ws).map fun detail => ⟨detail, wsIdx⟩

def presentedWorkspaceIdx : Option Nat :=
  if app.mode = .navigate then app.workspaces[app.selected]?.map fun _ => app.selected
  else app.active

def publicTabNumber (entry : AgentPanelEntry) : Option Nat :=
  app.workspaces[entry.wsIdx]?.bind fun ws => ws.publicTabNumber entry.tabIdx

def publicPaneNumber (entry : AgentPanelEntry) : Option Nat :=
  app.workspaces[entry.wsIdx]?.bind fun ws => ws.publicPaneNumber entry.paneId

def builtinFieldValue (entry : AgentPanelEntry) : AgentViewBuiltinField → Option EvalValue
  | .status => some (.string (statusName entry.state entry.seen))
  | .workspaceId => app.workspaces[entry.wsIdx]?.map fun ws => .string ws.id
  | .tabId => (app.publicTabId entry.wsIdx entry.tabIdx).map .string
  | .paneId => (app.publicPaneId entry.wsIdx entry.paneId).map .string
  | .agent => entry.agentKindLabel.map .string
  | .seen => some (.bool entry.seen)
  | .stateChangeSeq => entry.lastAgentStateChangeSeq.map .number

def fieldValue (entry : AgentPanelEntry) : AgentViewField → Option EvalValue
  | .builtin field => app.builtinFieldValue entry field
  | .token token => (entry.tokens.lookup token).map .string

def contextValue (context : AgentViewContext) : Option EvalValue := do
  let wsIdx ← app.presentedWorkspaceIdx
  let ws ← app.workspaces[wsIdx]?
  match context with
  | .currentWorkspaceId => some (.string ws.id)
  | .currentTabId =>
    let tabNumber ← ws.publicTabNumber ws.activeTab
    some (.string (publicTabIdForNumber ws.id tabNumber))

def operandValue : AgentViewValue → Option EvalValue
  | .string value => some (.string value)
  | .bool value => some (.bool value)
  | .number value => some (.number value)
  | .context context => app.contextValue context

mutual

def matchesFilter (entry : AgentPanelEntry) : AgentViewFilter → Bool
  | .all filters => matchesAll entry filters
  | .any filters => matchesAny entry filters
  | .not filter => !matchesFilter entry filter
  | .eq field value => decide (app.fieldValue entry field = app.operandValue value)
  | .oneOf field values =>
    let actual := app.fieldValue entry field
    values.any fun value => decide (actual = app.operandValue value)
  | .defined field => (app.fieldValue entry field).isSome

def matchesAll (entry : AgentPanelEntry) : List AgentViewFilter → Bool
  | [] => true
  | filter :: filters => matchesFilter entry filter && matchesAll entry filters

def matchesAny (entry : AgentPanelEntry) : List AgentViewFilter → Bool
  | [] => false
  | filter :: filters => matchesFilter entry filter || matchesAny entry filters

end

def sortValue (field : AgentViewSortField) (entry : AgentPanelEntry) : Option EvalValue :=
  match field with
  | .token token => (entry.tokens.lookup token).map .string
  | .builtin .workspaceOrder => some (.number entry.wsIdx)
  | .builtin .tabOrder => (app.publicTabNumber entry).map .number
  | .builtin .paneOrder => (app.publicPaneNumber entry).map .number
  | .builtin .attention => some (.number (tabAttentionPriority entry.state entry.seen))
  | .builtin .status => some (.string (statusName entry.state entry.seen))
  | .builtin .agent => entry.agentKindLabel.map .string
  | .builtin .seen => some (.bool entry.seen)
  | .builtin .stateChangeSeq => entry.lastAgentStateChangeSeq.map .number

def compareOptionalValues (left right : Option EvalValue) (order : AgentViewSortOrder) :
  Ordering :=
  match left, right with
  | some left, some right =>
    let ordering := left.cmp right
    if order = .desc then ordering.swap else ordering
  | some _, none => .lt
  | none, some _ => .gt
  | none, none => .eq

def compareEntries (left right : AgentPanelEntry) : List AgentViewSort → Ordering
  | [] => .eq
  | sort :: sorts =>
    match compareOptionalValues (app.sortValue sort.field left) (app.sortValue sort.field right)
        sort.order with
    | .eq => compareEntries left right sorts
    | ordering => ordering

/-- The more urgent first, and then the ones that have changed last. -/
def comparePriority (left right : AgentPanelEntry) : Ordering :=
  compareLex (fun left right => compare (tabAttentionPriority right.state right.seen)
      (tabAttentionPriority left.state left.seen))
    (fun left right => compare right.lastAgentStateChangeSeq left.lastAgentStateChangeSeq)
    left right

def applyAgentView (entries : List AgentPanelEntry) : List AgentPanelEntry :=
  let filtered := match app.agentViewOverride.bind (·.filter) with
    | some filter => entries.filter fun entry => app.matchesFilter entry filter
    | none => entries
  match app.agentViewOverride.map (·.sort) with
  | some (sort :: sorts) =>
    sortBy (fun left right => app.compareEntries left right (sort :: sorts)) filtered
  | _ =>
    if app.agentPanelSort = .priority then sortBy comparePriority filtered else filtered

end AgentPanelApp

end App
