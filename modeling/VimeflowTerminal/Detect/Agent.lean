import Mathlib.Data.List.Basic

/-! The detected agents, the labels hook integrations use for them, and the two
lists of integrations that the arbitration of agent state treats specially. -/

namespace Detect

/-- The detected state of a terminal pane. -/
inductive AgentState where
  | idle
  | working
  | blocked
  | unknown
  deriving DecidableEq

/-- The agents that can be recognized in a pane. -/
inductive Agent where
  | pi | claude | codex | gemini | cursor | devin | antigravity | cline | omp | mastracode
  | openCode | githubCopilot | kimi | kiro | droid | amp | grok | hermes | kilo | qodercli | maki
  deriving DecidableEq

def Agent.all : List Agent :=
  [.pi, .claude, .codex, .gemini, .cursor, .devin, .antigravity, .cline, .omp, .mastracode,
    .openCode, .githubCopilot, .kimi, .kiro, .droid, .amp, .grok, .hermes, .kilo, .qodercli, .maki]

def agentLabel : Agent → String
  | .pi => "pi"
  | .claude => "claude"
  | .codex => "codex"
  | .gemini => "gemini"
  | .cursor => "cursor"
  | .devin => "devin"
  | .antigravity => "agy"
  | .cline => "cline"
  | .omp => "omp"
  | .mastracode => "mastracode"
  | .openCode => "opencode"
  | .githubCopilot => "copilot"
  | .kimi => "kimi"
  | .kiro => "kiro"
  | .droid => "droid"
  | .amp => "amp"
  | .grok => "grok"
  | .hermes => "hermes"
  | .kilo => "kilo"
  | .qodercli => "qodercli"
  | .maki => "maki"

def lookupAgent (name : String) : Option Agent :=
  match name with
  | "pi" => some .pi
  | "claude" | "claude-code" => some .claude
  | "codex" => some .codex
  | "gemini" => some .gemini
  | "cursor" | "cursor-agent" => some .cursor
  | "devin" | "devin-cli" | "devin cli" => some .devin
  | "agy" | "antigravity" | "antigravity-cli" => some .antigravity
  | "cline" => some .cline
  | "omp" => some .omp
  | "mastracode" | "mastra-code" | "mastra code" => some .mastracode
  | "opencode" | "opencode2" | "open-code" => some .openCode
  | "copilot" | "github-copilot" | "ghcs" => some .githubCopilot
  | "kimi" | "kimi-code" | "kimi code" => some .kimi
  | "kiro" | "kiro-cli" => some .kiro
  | "droid" => some .droid
  | "amp" | "amp-local" => some .amp
  | "grok" | "grok-build" => some .grok
  | "hermes" | "hermes-agent" => some .hermes
  | "kilo" | "kilo-code" | "kilo code" => some .kilo
  | "qodercli" | "qoderclicn" | "qoder" | "qodercn" => some .qodercli
  | "maki" => some .maki
  | _ => none

def parseCanonicalAgentLabel (label : String) : Option Agent :=
  (lookupAgent label).filter fun agent => agentLabel agent == label

/-- The characters with the Unicode `White_Space` property. -/
def isWhitespace (c : Char) : Bool :=
  let n := c.toNat
  (9 ≤ n && n ≤ 13) || n == 0x20 || n == 0x85 || n == 0xA0 || n == 0x1680 ||
    (0x2000 ≤ n && n ≤ 0x200A) || n == 0x2028 || n == 0x2029 || n == 0x202F || n == 0x205F ||
    n == 0x3000

def trimChars (chars : List Char) : List Char :=
  ((chars.dropWhile isWhitespace).reverse.dropWhile isWhitespace).reverse

def trim (text : String) : String := String.ofList (trimChars text.toList)

/-- Lowercase, up to characters that no label contains: besides `A` to `Z`
only the Kelvin sign has a lowercase form made of ASCII characters, and every
other uppercase character keeps a non-ASCII character in lowercase. -/
def lowercaseChar (c : Char) : Char :=
  if c = '\u212A' then 'k' else c.toLower

def lookupSuffixes : List (List Char) :=
  [['.', 'e', 'x', 'e'], ['.', 'c', 'm', 'd'], ['.', 'b', 'a', 't'], ['.', 'p', 's', '1'],
    ['.', 'j', 's']]

/-- Only the first suffix that applies is removed. -/
def normalizedAgentLookupName (name : String) : String :=
  let chars := (trimChars name.toList).map lowercaseChar
  match lookupSuffixes.find? fun suffix => suffix.isSuffixOf chars with
  | some suffix => String.ofList (chars.take (chars.length - suffix.length))
  | none => String.ofList chars

def parseAgentLabel (agent : String) : Option Agent :=
  let name := normalizedAgentLookupName agent
  (parseCanonicalAgentLabel name).or (lookupAgent name)

/-- The hook integrations that own the state of their agent while live. -/
def fullLifecycleSources : List (String × String) :=
  [("herdr:pi", "pi"), ("herdr:omp", "omp"), ("herdr:mastracode", "mastracode"),
    ("herdr:opencode", "opencode"), ("herdr:kilo", "kilo"), ("herdr:kimi", "kimi")]

def fullLifecycleHookAuthority (source agentLabel : String) : Bool :=
  decide ((source, agentLabel) ∈ fullLifecycleSources)

def sessionIdentityOnlyIntegration (source agentLabel : String) : Bool :=
  decide ((source, agentLabel) ∈ [("herdr:hermes", "hermes"), ("herdr:antigravity_cli", "agy")])

theorem exists_parseAgentLabel_of_fullLifecycle {source label : String}
  (hFull : fullLifecycleHookAuthority source label = true) :
  ∃ agent, parseAgentLabel label = some agent := by
  have hAll : ∀ pair ∈ fullLifecycleSources, (parseAgentLabel pair.2).isSome = true := by decide
  exact Option.isSome_iff_exists.1 (hAll (source, label) (of_decide_eq_true hFull))

theorem fullLifecycle_label_unique {source label label' : String}
  (hLeft : fullLifecycleHookAuthority source label = true)
  (hRight : fullLifecycleHookAuthority source label' = true) : label = label' := by
  have hAll : ∀ left ∈ fullLifecycleSources, ∀ right ∈ fullLifecycleSources,
      left.1 = right.1 → left.2 = right.2 := by decide
  exact hAll (source, label) (of_decide_eq_true hLeft) (source, label')
    (of_decide_eq_true hRight) rfl

end Detect
