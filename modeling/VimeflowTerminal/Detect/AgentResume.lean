import VimeflowTerminal.Data.Utf8
import VimeflowTerminal.Detect.Agent

/-! Session references reported by the official integrations, and the plan that
resumes one of them. -/

namespace AgentResume

inductive AgentSessionRefKind where
  | id
  | path
  deriving DecidableEq

structure AgentSessionRef where
  kind : AgentSessionRefKind
  value : String
  deriving DecidableEq

structure PersistedAgentSession where
  source : String
  agent : String
  sessionRef : AgentSessionRef
  deriving DecidableEq

structure AgentResumePlan where
  agent : String
  argv : List String
  dedupeKey : String
  deriving DecidableEq

def officialAgentSources : List (String × String) :=
  [("herdr:claude", "claude"), ("herdr:codex", "codex"), ("herdr:copilot", "copilot"),
    ("herdr:devin", "devin"), ("herdr:droid", "droid"), ("herdr:kimi", "kimi"),
    ("herdr:omp", "omp"), ("herdr:mastracode", "mastracode"), ("herdr:pi", "pi"),
    ("herdr:hermes", "hermes"), ("herdr:opencode", "opencode"), ("herdr:qodercli", "qodercli"),
    ("herdr:kilo", "kilo"), ("herdr:cursor", "cursor"), ("herdr:antigravity_cli", "agy"),
    ("herdr:grok", "grok")]

/-- The law behind the membership tests below. -/
local instance lawfulPairs : LawfulBEq (String × String) := inferInstance

def isOfficialAgentSource (source agent : String) : Bool :=
  decide ((source, agent) ∈ officialAgentSources)

/-- The command line that resumes a session. Only Pi and Omp resume from a path. -/
def resumeArgv (source agent : String) (sessionRef : AgentSessionRef) : Option (List String) :=
  match source, agent, sessionRef.kind with
  | "herdr:claude", "claude", .id => some ["claude", "--resume", sessionRef.value]
  | "herdr:codex", "codex", .id => some ["codex", "resume", sessionRef.value]
  | "herdr:copilot", "copilot", .id => some ["copilot", "--resume=" ++ sessionRef.value]
  | "herdr:devin", "devin", .id => some ["devin", "--resume", sessionRef.value]
  | "herdr:droid", "droid", .id => some ["droid", "--resume", sessionRef.value]
  | "herdr:kimi", "kimi", .id => some ["kimi", "--session", sessionRef.value]
  | "herdr:mastracode", "mastracode", .id => some ["mastracode", "--thread", sessionRef.value]
  | "herdr:pi", "pi", _ => some ["pi", "--session", sessionRef.value]
  | "herdr:omp", "omp", _ => some ["omp", "--resume=" ++ sessionRef.value]
  | "herdr:hermes", "hermes", .id => some ["hermes", "--resume", sessionRef.value]
  | "herdr:opencode", "opencode", .id => some ["opencode", "--session", sessionRef.value]
  | "herdr:qodercli", "qodercli", .id => some ["qodercli", "--resume", sessionRef.value]
  | "herdr:kilo", "kilo", .id => some ["kilo", "--session", sessionRef.value]
  | "herdr:cursor", "cursor", .id => some ["cursor-agent", "--resume", sessionRef.value]
  | "herdr:antigravity_cli", "agy", .id => some ["agy", "--conversation", sessionRef.value]
  | "herdr:grok", "grok", .id => some ["grok", "--resume", sessionRef.value]
  | _, _, _ => none

def AgentSessionRefKind.debugName : AgentSessionRefKind → String
  | .id => "Id"
  | .path => "Path"

def dedupeKey (source agent : String) (sessionRef : AgentSessionRef) : String :=
  source ++ "\u0000" ++ agent ++ "\u0000" ++ sessionRef.kind.debugName ++ "\u0000" ++
    sessionRef.value

def plan (source agent : String) (sessionRef : AgentSessionRef) : Option AgentResumePlan :=
  if isOfficialAgentSource source agent then
    (resumeArgv source agent sessionRef).map fun argv =>
      { agent, argv, dedupeKey := dedupeKey source agent sessionRef }
  else none

def maxSessionIdLen : Nat := 512

def maxSessionPathLen : Nat := 4096

def validSessionId (value : String) : Bool :=
  !value.isEmpty && value.utf8ByteSize ≤ maxSessionIdLen && !value.toList.any Utf8.isControl

/-- Absolute paths start with a slash. -/
def validSessionPath (value : String) : Bool :=
  !value.isEmpty && value.utf8ByteSize ≤ maxSessionPathLen && !value.toList.any Utf8.isControl &&
    value.toList.head? == some '/'

def AgentSessionRef.id (value : String) : Option AgentSessionRef :=
  if validSessionId value then some ⟨.id, value⟩ else none

def AgentSessionRef.path (value : String) : Option AgentSessionRef :=
  if validSessionPath value then some ⟨.path, value⟩ else none

def sessionRefFromSnapshot (source agent : String) (kind : AgentSessionRefKind) (value : String) :
  Option PersistedAgentSession :=
  if isOfficialAgentSource source agent then
    let sessionRef :=
      match kind with
      | .path => if agent = "pi" ∨ agent = "omp" then AgentSessionRef.path value else none
      | .id => AgentSessionRef.id value
    sessionRef.map fun sessionRef => ⟨source, agent, sessionRef⟩
  else none

theorem official_of_fullLifecycle {source label : String}
  (hFull : Detect.fullLifecycleHookAuthority source label = true) :
  isOfficialAgentSource source label = true := by
  have hAll : ∀ pair ∈ Detect.fullLifecycleSources,
      isOfficialAgentSource pair.1 pair.2 = true := by decide
  exact hAll (source, label) (of_decide_eq_true hFull)

end AgentResume
