import VimeflowTerminal.Data.GateTree
import VimeflowTerminal.Data.Selection
import VimeflowTerminal.Detect.Regions

/-! A manifest lists rules for the screens of an agent. Its gates are checked when
it is loaded, compiled once, and evaluated on a region of every screen; the rule
of the highest priority decides. Regular expressions and lowercase are those of
the libraries that the program is built with. -/

namespace Detect

open TextSlice TextLines

/-- The texts that a gate asks for itself. -/
structure Matchers (ρ : Type) where
  contains : List (List Char)
  regex : List ρ
  lineRegex : List ρ
  deriving DecidableEq

/-- A gate: its own matchers, then the nested gates `all`, `any` and `not`. -/
abbrev ManifestGate := GateTree (Matchers String)

inductive ManifestState where
  | idle
  | working
  | blocked
  | unknown
  deriving DecidableEq

def ManifestState.toAgentState : ManifestState → AgentState
  | idle => .idle
  | working => .working
  | blocked => .blocked
  | unknown => .unknown

structure ManifestRule where
  id : String
  state : Option ManifestState
  priority : Int
  region : String
  visibleIdle : Bool
  visibleBlocker : Bool
  visibleWorking : Bool
  skipStateUpdate : Bool
  all : List ManifestGate
  any : List ManifestGate
  notGate : List ManifestGate
  contains : List (List Char)
  regex : List String
  lineRegex : List String

structure AgentManifest where
  minEngineVersion : Option Nat
  rules : List ManifestRule

/-- The matchers of a rule are those of its outermost gate. -/
def manifestGateFromRule (rule : ManifestRule) : ManifestGate :=
  .node ⟨rule.contains, rule.regex, rule.lineRegex⟩ rule.all rule.any rule.notGate

def maxRulesPerManifest : Nat := 128

def maxGateDepth : Nat := 8

def maxTotalGates : Nat := 512

def maxMatchersPerGate : Nat := 32

def maxTotalMatchers : Nat := 1024

def maxMatcherChars : Nat := 512

structure ManifestComplexity where
  totalGates : Nat
  totalMatchers : Nat
  deriving DecidableEq

section Engine

variable {ρ : Type} (regexNew : String → Except String ρ) (isMatch : ρ → List Char → Bool)
  (toLowercase : List Char → List Char)

def gateHasPositiveMatcher : ManifestGate → Bool
  | .node label all any _ =>
    !label.contains.isEmpty || !label.regex.isEmpty || !label.lineRegex.isEmpty ||
      !all.isEmpty || !any.isEmpty

def gateHasAnyMatcher : ManifestGate → Bool
  | .node label all any notGate =>
    gateHasPositiveMatcher (.node label all any notGate) || !notGate.isEmpty

def validateMatcherLimits (label : Matchers String) (context : String)
  (complexity : ManifestComplexity) : Except String ManifestComplexity :=
  let matcherCount := label.contains.length + label.regex.length + label.lineRegex.length
  if maxMatchersPerGate < matcherCount then
    .error s!"{context} has {matcherCount} direct matchers, max is {maxMatchersPerGate}"
  else if maxTotalMatchers < complexity.totalMatchers + matcherCount then
    .error s!"manifest exceeds max matcher count {maxTotalMatchers}"
  else if label.contains.any (maxMatcherChars < ·.length) ∨
      label.regex.any (maxMatcherChars < ·.length) ∨
        label.lineRegex.any (maxMatcherChars < ·.length) then
    .error s!"{context} matcher exceeds max length {maxMatcherChars}"
  else .ok { complexity with totalMatchers := complexity.totalMatchers + matcherCount }

/-- An error unless a condition holds. -/
def require (isMet : Bool) (message : String) : Except String Unit :=
  if isMet then .ok () else .error message

/-- The pattern stands in quotes in the error, with its special characters escaped. -/
def validateRegexPatterns (patterns : List String) (context field : String) :
  Except String Unit :=
  patterns.forM fun pattern =>
    let quoted := pattern.quote
    match regexNew pattern with
    | .ok _ => .ok ()
    | .error err => .error s!"{context} contains invalid {field} pattern {quoted}: {err}"

/-- The checks that a gate makes of itself before its nested gates. -/
def validateGateLabel (label : Matchers String) (context : String) (hasMatcher : Bool)
  (kind : String) (depth : Nat) (complexity : ManifestComplexity) :
  Except String ManifestComplexity :=
  if maxGateDepth < depth then .error s!"{context} exceeds max gate depth {maxGateDepth}"
  else if maxTotalGates < complexity.totalGates + 1 then
    .error s!"manifest exceeds max gate count {maxTotalGates}"
  else do
    let complexity ← validateMatcherLimits label context
      { complexity with totalGates := complexity.totalGates + 1 }
    require hasMatcher s!"{context} must contain a {kind}matcher"
    validateRegexPatterns regexNew label.regex context "regex"
    validateRegexPatterns regexNew label.lineRegex context "line_regex"
    return complexity

mutual

def validateGate (context : String) (depth : Nat) (complexity : ManifestComplexity) :
  ManifestGate → Except String ManifestComplexity
  | .node label all any notGate => do
    let complexity ← validateGateLabel regexNew label context
      (gateHasPositiveMatcher (.node label all any notGate)) "positive " depth complexity
    let complexity ← all.foldlM
      (fun complexity nested => validateGate "all gate" (depth + 1) complexity nested) complexity
    let complexity ← any.foldlM
      (fun complexity nested => validateGate "any gate" (depth + 1) complexity nested) complexity
    notGate.foldlM (fun complexity nested => do
      require (gateHasAnyMatcher nested) s!"{context} contains an empty not gate"
      validateNotGate (depth + 1) complexity nested) complexity

def validateNotGate (depth : Nat) (complexity : ManifestComplexity) :
  ManifestGate → Except String ManifestComplexity
  | .node label all any notGate => do
    let complexity ← validateGateLabel regexNew label "not gate"
      (gateHasAnyMatcher (.node label all any notGate)) "" depth complexity
    let complexity ← all.foldlM
      (fun complexity nested => validateGate "not all gate" (depth + 1) complexity nested)
        complexity
    let complexity ← any.foldlM
      (fun complexity nested => validateGate "not any gate" (depth + 1) complexity nested)
        complexity
    notGate.foldlM (fun complexity nested => validateNotGate (depth + 1) complexity nested)
      complexity

end

/-- The checks of a rule before those of its gate. -/
def validateRule (manifest : AgentManifest) (rule : ManifestRule) : Except String Unit :=
  let ruleId := rule.id
  if (trim ruleId).isEmpty then .error "manifest rule id must not be empty"
  else if rule.skipStateUpdate ∧ rule.state ≠ some .unknown then
    .error s!"rule {ruleId} uses skip_state_update without state = \"unknown\""
  else if rule.skipStateUpdate ∧ (rule.visibleIdle ∨ rule.visibleBlocker ∨ rule.visibleWorking) then
    .error s!"rule {ruleId} uses skip_state_update with visible state evidence"
  else
    match validateRegionName rule.region with
    | .error err => .error s!"rule {ruleId} uses invalid region: {err}"
    | .ok _ =>
      if "top_non_empty_lines(".toList.isPrefixOf (trim rule.region).toList ∧
          manifest.minEngineVersion.any (· < topNonEmptyLinesEngineVersion) then
        let required := topNonEmptyLinesEngineVersion
        .error s!"rule {ruleId} uses top_non_empty_lines but min_engine_version is below {required}"
      else .ok ()

def validateRuleGate (rule : ManifestRule) (complexity : ManifestComplexity) :
  Except String ManifestComplexity :=
  validateGate regexNew "rule" 0 complexity (manifestGateFromRule rule)

def validateManifest (manifest : AgentManifest) : Except String Unit :=
  let rules := manifest.rules.length
  if manifest.rules.isEmpty then .error "manifest must contain at least one rule"
  else if maxRulesPerManifest < rules then
    .error s!"manifest contains {rules} rules, max is {maxRulesPerManifest}"
  else do
    let _ ← manifest.rules.foldlM (fun complexity rule => do
      validateRule manifest rule
      let ruleId := rule.id
      (validateRuleGate regexNew rule complexity).mapError fun err =>
        s!"rule {ruleId} has invalid matcher gates: {err}") ⟨0, 0⟩
    return ()

abbrev CompiledGate (ρ : Type) := GateTree (Matchers ρ)

structure CompiledRule (ρ : Type) where
  gate : CompiledGate ρ

def compileMatchers (label : Matchers String) : Except String (Matchers ρ) := do
  let regex ← label.regex.mapM regexNew
  let lineRegex ← label.lineRegex.mapM regexNew
  return ⟨label.contains.map toLowercase, regex, lineRegex⟩

def compileGate (gate : ManifestGate) : Except String (CompiledGate ρ) :=
  gate.traverse (compileMatchers regexNew toLowercase)

def compileManifest (manifest : AgentManifest) : Except String (List (CompiledRule ρ)) :=
  manifest.rules.mapM fun rule =>
    let ruleId := rule.id
    match compileGate regexNew toLowercase (manifestGateFromRule rule) with
    | .ok gate => .ok ⟨gate⟩
    | .error err => .error s!"rule {ruleId} could not be compiled: {err}"

def matchersMatch (text lowerText : List Char) (label : Matchers ρ) : Bool :=
  (label.contains.all fun needle => decide (needle <:+: lowerText)) &&
    (label.regex.all fun regex => isMatch regex text) &&
      label.lineRegex.all fun regex => (lines text).any fun line => isMatch regex line

def compiledGateMatches (gate : CompiledGate ρ) (text lowerText : List Char) : Bool :=
  gate.eval (matchersMatch isMatch text lowerText)

def compiledRuleMatches (rule : CompiledRule ρ) (text : List Char) : Bool :=
  compiledGateMatches isMatch rule.gate text (toLowercase text)

structure MatchedRule where
  id : String
  priority : Int
  region : String
  state : AgentState
  deriving DecidableEq

structure RuleEvidence where
  contains : List (List Char)
  regex : List String
  lineRegex : List String
  allCount : Nat
  anyCount : Nat
  notCount : Nat
  regionBytes : Nat
  regionPreview : List Char
  deriving DecidableEq

structure EvaluatedRule where
  id : String
  priority : Int
  region : String
  evidence : RuleEvidence
  state : AgentState
  isMatched : Bool
  deriving DecidableEq

structure DetectionExplain where
  agent : String
  state : AgentState
  matchedRule : Option MatchedRule
  visibleIdle : Bool
  visibleBlocker : Bool
  visibleWorking : Bool
  skipStateUpdate : Bool
  skippedUpdateReason : Option String
  fallbackReason : Option String
  evaluatedRules : List EvaluatedRule
  deriving DecidableEq

def boundedPreview (text : List Char) : List Char :=
  if 240 < text.length then text.take 240 ++ ['.', '.', '.'] else text.take 240

def ruleEvidence (rule : ManifestRule) (regionText : List Char) : RuleEvidence :=
  ⟨rule.contains, rule.regex, rule.lineRegex, rule.all.length, rule.any.length,
    rule.notGate.length, byteLength regionText, boundedPreview regionText⟩

def ruleState (rule : ManifestRule) : AgentState :=
  (rule.state.map ManifestState.toAgentState).getD .unknown

def evaluatedRule (rule : ManifestRule) (regionText : List Char) (isMatched : Bool) :
  EvaluatedRule :=
  ⟨rule.id, rule.priority, rule.region, ruleEvidence rule regionText, ruleState rule, isMatched⟩

/-- Evaluate one rule; a rule that matches replaces one of a lower priority. -/
def evaluateStep (input : DetectionInput)
  (found : Option (ManifestRule × String) × List EvaluatedRule) (entry : ManifestRule × CompiledRule ρ) :
  Option (Option (ManifestRule × String) × List EvaluatedRule) :=
  (region input entry.1.region).map fun regionText =>
    let isMatched := compiledRuleMatches isMatch toLowercase entry.2 regionText
    let evaluated := found.2 ++ [evaluatedRule entry.1 regionText isMatched]
    if !isMatched then (found.1, evaluated)
    else
      match found.1 with
      | some (previous, name) =>
        if entry.1.priority ≤ previous.priority then (some (previous, name), evaluated)
        else (some (entry.1, entry.1.region), evaluated)
      | none => (some (entry.1, entry.1.region), evaluated)

def defaultKnownAgentIdleFallback : String := "default_known_agent_idle_fallback"

def fallbackExplain (agent : Agent) (evaluated : List EvaluatedRule) : DetectionExplain :=
  ⟨agentLabel agent, .idle, none, false, false, false, false, none,
    some defaultKnownAgentIdleFallback, evaluated⟩

def matchedExplain (agent : Agent) (rule : ManifestRule) (name : String)
  (evaluated : List EvaluatedRule) : DetectionExplain :=
  let ruleId := rule.id
  let state := ruleState rule
  ⟨agentLabel agent, state, some ⟨rule.id, rule.priority, name, state⟩,
    rule.visibleIdle && state = .idle, rule.visibleBlocker && state = .blocked,
    rule.visibleWorking && state = .working, rule.skipStateUpdate,
    if rule.skipStateUpdate then some s!"matched_rule:{ruleId}" else none, none, evaluated⟩

/-- What is detected on a screen, if the program does not stop on the way. -/
def evaluateLoadedManifest (agent : Agent) (input : DetectionInput) (manifest : AgentManifest)
  (compiledRules : List (CompiledRule ρ)) : Option DetectionExplain :=
  ((manifest.rules.zip compiledRules).foldlM (evaluateStep isMatch toLowercase input)
    (none, [])).map fun found =>
      match found.1 with
      | none => fallbackExplain agent found.2
      | some (rule, name) => matchedExplain agent rule name found.2

end Engine

end Detect
