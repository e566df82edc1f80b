import VimeflowTerminal.Detect.Manifest

/-! What the gates of a rule say about a text, and the rule that decides on a
screen: the earliest of the highest priority among those whose gates hold. -/

namespace Detect

open GateTree Selection TextLines ManifestRule

variable {ρ : Type} (regexNew : String → Except String ρ) (isMatch : ρ → List Char → Bool)
  (toLowercase : List Char → List Char)

/-- A pattern is found in a text. -/
def PatternFound (pattern : String) (text : List Char) : Prop :=
  ∃ regex, regexNew pattern = .ok regex ∧ isMatch regex text = true

/-- The matchers of a gate find what they ask for: texts in any case, patterns, and patterns on
one of the lines. -/
def MatchersHold (text : List Char) (label : Matchers String) : Prop :=
  (∀ needle ∈ label.contains, toLowercase needle <:+: toLowercase text) ∧
    (∀ pattern ∈ label.regex, PatternFound regexNew isMatch pattern text) ∧
    ∀ pattern ∈ label.lineRegex, ∃ line ∈ lines text, PatternFound regexNew isMatch pattern line

/-- The gates of a rule hold on its region of the screen. -/
def RuleHolds (input : DetectionInput) (rule : ManifestRule) : Prop :=
  ∃ text, region input rule.region = some text ∧
    (manifestGateFromRule rule).Holds (MatchersHold regexNew isMatch toLowercase text)

/-- The earliest rule of the highest priority among those that hold, if any does. -/
def IsChoice (input : DetectionInput) (rules : List ManifestRule) :
  Option ManifestRule → Prop
  | none => ∀ rule ∈ rules, ¬ RuleHolds regexNew isMatch toLowercase input rule
  | some rule =>
    ∃ before after, rules = before ++ rule :: after ∧
      RuleHolds regexNew isMatch toLowercase input rule ∧
      (∀ other ∈ before, RuleHolds regexNew isMatch toLowercase input other →
        other.priority < rule.priority) ∧
      ∀ other ∈ after, RuleHolds regexNew isMatch toLowercase input other →
        other.priority ≤ rule.priority

/-- All patterns of a gate's own matchers are accepted. -/
def PatternsCompile (label : Matchers String) : Prop :=
  (∀ pattern ∈ label.regex, ∃ regex, regexNew pattern = .ok regex) ∧
    ∀ pattern ∈ label.lineRegex, ∃ regex, regexNew pattern = .ok regex

variable {regexNew isMatch toLowercase}

theorem bind_eq_ok {ε α β : Type} {x : Except ε α} {f : α → Except ε β} {b : β}
  (hBind : (x >>= f) = .ok b) : ∃ a, x = .ok a ∧ f a = .ok b := by
  cases x with
  | error err => cases hBind
  | ok a => exact ⟨a, rfl, hBind⟩

theorem patterns_compile {patterns : List String} {context field : String}
  (hValid : validateRegexPatterns regexNew patterns context field = .ok ()) :
  ∀ pattern ∈ patterns, ∃ regex, regexNew pattern = .ok regex := by
  induction patterns with
  | nil => intro pattern hMem; cases hMem
  | cons first rest ih =>
    rw [validateRegexPatterns, List.forM] at hValid
    obtain ⟨_, hHere, hRest⟩ := bind_eq_ok hValid
    intro pattern hMem
    rcases List.mem_cons.1 hMem with rfl | hLater
    · cases hFirst : regexNew pattern with
      | ok regex => exact ⟨regex, rfl⟩
      | error err =>
        rw [hFirst] at hHere
        cases hHere
    · exact ih hRest pattern hLater

variable {label : Matchers String} {manifest : AgentManifest} {compiled : List (CompiledRule ρ)}

theorem validateGateLabel_compile {context kind : String} {hasMatcher : Bool} {depth : Nat}
  {complexity after : ManifestComplexity}
  (hValid : validateGateLabel regexNew label context hasMatcher kind depth complexity =
    .ok after) : PatternsCompile regexNew label := by
  unfold validateGateLabel at hValid
  split at hValid
  · cases hValid
  split at hValid
  · cases hValid
  obtain ⟨limits, -, hValid⟩ := bind_eq_ok hValid
  obtain ⟨_, -, hValid⟩ := bind_eq_ok hValid
  obtain ⟨_, hRegex, hValid⟩ := bind_eq_ok hValid
  obtain ⟨_, hLineRegex, -⟩ := bind_eq_ok hValid
  exact ⟨patterns_compile hRegex, patterns_compile hLineRegex⟩

/-- Both validations reach every gate of a tree. -/
theorem validated_compile (t : ManifestGate) :
  (∀ context depth complexity after,
    validateGate regexNew context depth complexity t = .ok after →
      t.All (PatternsCompile regexNew)) ∧
  ∀ depth complexity after, validateNotGate regexNew depth complexity t = .ok after →
    t.All (PatternsCompile regexNew) := by
  induction t using GateTree.induct with
  | node label all any notAny hAll hAny hNot =>
    refine ⟨fun context depth complexity after hValid => ?_,
      fun depth complexity after hValid => ?_⟩
    · rw [validateGate] at hValid
      obtain ⟨first, hLabel, hValid⟩ := bind_eq_ok hValid
      obtain ⟨second, hFirst, hValid⟩ := bind_eq_ok hValid
      obtain ⟨third, hSecond, hThird⟩ := bind_eq_ok hValid
      rw [all_node]
      refine ⟨validateGateLabel_compile hLabel, forall_of_foldlM_ok hFirst ?_,
        forall_of_foldlM_ok hSecond ?_, forall_of_foldlM_ok hThird ?_⟩
      · exact fun t hMem => (hAll t hMem).1 _ _
      · exact fun t hMem => (hAny t hMem).1 _ _
      · intro t hMem before after hStep
        obtain ⟨_, -, hStep⟩ := bind_eq_ok hStep
        exact (hNot t hMem).2 _ _ _ hStep
    · rw [validateNotGate] at hValid
      obtain ⟨first, hLabel, hValid⟩ := bind_eq_ok hValid
      obtain ⟨second, hFirst, hValid⟩ := bind_eq_ok hValid
      obtain ⟨third, hSecond, hThird⟩ := bind_eq_ok hValid
      rw [all_node]
      refine ⟨validateGateLabel_compile hLabel, forall_of_foldlM_ok hFirst ?_,
        forall_of_foldlM_ok hSecond ?_, forall_of_foldlM_ok hThird ?_⟩
      · exact fun t hMem => (hAll t hMem).1 _ _
      · exact fun t hMem => (hAny t hMem).1 _ _
      · exact fun t hMem => (hNot t hMem).2 _

/-- The gates of a validated manifest compile. -/
theorem validateManifest_compile (hValid : validateManifest regexNew manifest = .ok ()) :
  ∀ rule ∈ manifest.rules, (manifestGateFromRule rule).All (PatternsCompile regexNew) := by
  intro rule hMem
  unfold validateManifest at hValid
  dsimp only at hValid
  split at hValid
  · cases hValid
  split at hValid
  · cases hValid
  obtain ⟨_, hRules, -⟩ := bind_eq_ok hValid
  obtain ⟨before, after, hRule⟩ := exists_of_foldlM_ok hRules hMem
  obtain ⟨_, -, hGate⟩ := bind_eq_ok hRule
  cases hStep : validateRuleGate regexNew rule before with
  | error err =>
    rw [hStep] at hGate
    cases hGate
  | ok complexity => exact (validated_compile _).1 _ _ _ _ hStep

/-- The compiled patterns of a list are those that it names. -/
theorem all_compiled_iff {g : ρ → Bool} {patterns : List String} {compiled : List ρ}
  (hCompiled : List.Forall₂ (fun pattern regex => regexNew pattern = .ok regex) patterns
    compiled) :
  compiled.all g = true ↔
    ∀ pattern ∈ patterns, ∃ regex, regexNew pattern = .ok regex ∧ g regex = true := by
  induction hCompiled with
  | nil => simp
  | @cons pattern regex patterns compiled hHere _ ih =>
    rw [List.all_cons, Bool.and_eq_true, ih, List.forall_mem_cons]
    refine and_congr_left fun _ => ⟨fun hMatch => ⟨regex, hHere, hMatch⟩, ?_⟩
    rintro ⟨other, hOther, hMatch⟩
    rw [hHere] at hOther
    cases hOther
    exact hMatch

theorem compileMatchers_ok {compiled : Matchers ρ}
  (hCompiled : compileMatchers regexNew toLowercase label = .ok compiled) (text : List Char) :
  matchersMatch isMatch text (toLowercase text) compiled = true ↔
    MatchersHold regexNew isMatch toLowercase text label := by
  obtain ⟨regex, hRegex, hCompiled⟩ := bind_eq_ok hCompiled
  obtain ⟨lineRegex, hLineRegex, hCompiled⟩ := bind_eq_ok hCompiled
  cases hCompiled
  have hFirst := all_compiled_iff (mapM_eq_ok_iff.1 hRegex) (g := fun regex => isMatch regex text)
  have hSecond := all_compiled_iff (mapM_eq_ok_iff.1 hLineRegex)
    (g := fun regex => (lines text).any fun line => isMatch regex line)
  rw [matchersMatch, Bool.and_eq_true, Bool.and_eq_true, hFirst, hSecond, MatchersHold, and_assoc]
  refine and_congr ?_ (and_congr_right fun _ => forall₂_congr fun pattern _ => ?_)
  · simp
  constructor
  · rintro ⟨regex, hNew, hAny⟩
    obtain ⟨line, hLine, hMatch⟩ := List.any_eq_true.1 hAny
    exact ⟨line, hLine, regex, hNew, hMatch⟩
  · rintro ⟨line, hLine, regex, hNew, hMatch⟩
    exact ⟨regex, hNew, List.any_eq_true.2 ⟨line, hLine, hMatch⟩⟩

theorem exists_compileMatchers {label : Matchers String}
  (hPatterns : PatternsCompile regexNew label) :
  ∃ compiled, compileMatchers regexNew toLowercase label = .ok compiled := by
  obtain ⟨regex, hRegex⟩ := exists_mapM_ok hPatterns.1
  obtain ⟨lineRegex, hLineRegex⟩ := exists_mapM_ok hPatterns.2
  refine ⟨⟨label.contains.map toLowercase, regex, lineRegex⟩, ?_⟩
  rw [compileMatchers, hRegex, hLineRegex]
  rfl

theorem patternsCompile_of_hold {text : List Char}
  (hHold : MatchersHold regexNew isMatch toLowercase text label) :
  PatternsCompile regexNew label := by
  obtain ⟨-, hRegex, hLineRegex⟩ := hHold
  refine ⟨fun pattern hMem => ?_, fun pattern hMem => ?_⟩
  · obtain ⟨regex, hNew, -⟩ := hRegex pattern hMem
    exact ⟨regex, hNew⟩
  · obtain ⟨line, -, regex, hNew, -⟩ := hLineRegex pattern hMem
    exact ⟨regex, hNew⟩

/-- A gate whose patterns are accepted compiles, and says the same on every text. -/
theorem compileGate_ok (isMatch : ρ → List Char → Bool) {gate : ManifestGate}
  (hGate : gate.All (PatternsCompile regexNew)) :
  ∃ compiled, compileGate regexNew toLowercase gate = .ok compiled ∧
    ∀ text, compiledGateMatches isMatch compiled text (toLowercase text) = true ↔
      gate.Holds (MatchersHold regexNew isMatch toLowercase text) := by
  have hLabels : gate.All fun label =>
      ∃ compiled, compileMatchers regexNew toLowercase label = .ok compiled :=
    all_imp (fun _ hPatterns => exists_compileMatchers hPatterns) hGate
  obtain ⟨compiled, hCompiled, hEval⟩ := traverse_ok hLabels
  refine ⟨compiled, hCompiled, fun text => ?_⟩
  -- the value of a gate's own matchers before they are compiled
  let value (label : Matchers String) : Bool :=
    match compileMatchers regexNew toLowercase label with
    | .ok matchers => matchersMatch isMatch text (toLowercase text) matchers
    | .error _ => false
  have hValue : ∀ label, value label = true ↔
      MatchersHold regexNew isMatch toLowercase text label := by
    intro label
    cases hLabel : compileMatchers regexNew toLowercase label with
    | ok matchers =>
      simp only [value, hLabel]
      exact compileMatchers_ok hLabel text
    | error err =>
      simp only [value, hLabel]
      refine ⟨fun hFalse => absurd hFalse Bool.false_ne_true, fun hHold => ?_⟩
      obtain ⟨matchers, hOk⟩ :=
        @exists_compileMatchers ρ regexNew toLowercase label (patternsCompile_of_hold hHold)
      rw [hLabel] at hOk
      cases hOk
  have hSame := hEval value (matchersMatch isMatch text (toLowercase text)) fun label matchers hOk => by
    simp only [value, hOk]
  rw [compiledGateMatches, hSame]
  exact eval_eq_true_iff hValue gate

/-- A compiled rule says what its gates say. -/
def Compiles (regexNew : String → Except String ρ) (isMatch : ρ → List Char → Bool)
  (toLowercase : List Char → List Char) (rule : ManifestRule) (compiled : CompiledRule ρ) :
  Prop :=
  ∀ text, compiledRuleMatches isMatch toLowercase compiled text = true ↔
    (manifestGateFromRule rule).Holds (MatchersHold regexNew isMatch toLowercase text)

theorem compileManifest_ok (isMatch : ρ → List Char → Bool) (toLowercase : List Char → List Char)
  (hRules : ∀ rule ∈ manifest.rules,
    (manifestGateFromRule rule).All (PatternsCompile regexNew)) :
  ∃ compiled, compileManifest regexNew toLowercase manifest = .ok compiled ∧
    List.Forall₂ (Compiles regexNew isMatch toLowercase) manifest.rules compiled := by
  refine mapM_ok fun rule hMem => ?_
  obtain ⟨gate, hGate, hSame⟩ := @compileGate_ok ρ regexNew toLowercase isMatch _ (hRules rule hMem)
  refine ⟨⟨gate⟩, ?_, hSame⟩
  rw [hGate]

section Loop

variable {input : DetectionInput}

/-- Whether a rule matches, if its region is found. -/
def entryMatches (isMatch : ρ → List Char → Bool) (toLowercase : List Char → List Char)
  (input : DetectionInput) (entry : ManifestRule × CompiledRule ρ) : Bool :=
  (region input entry.1.region).any fun text => compiledRuleMatches isMatch toLowercase entry.2 text

/-- The loop keeps the best of the rules that match. -/
theorem foldlM_evaluateStep {entries : List (ManifestRule × CompiledRule ρ)}
  (hRegions : ∀ entry ∈ entries, (region input entry.1.region).isSome)
  (best : Option ManifestRule) (evaluated : List EvaluatedRule) :
  ∃ evaluated', entries.foldlM (evaluateStep isMatch toLowercase input)
      (best.map fun rule => (rule, rule.region), evaluated) =
    some ((((entries.filter (entryMatches isMatch toLowercase input)).map Prod.fst).foldl
      (keepBetter priority) best).map fun rule => (rule, rule.region),
        evaluated') := by
  induction entries generalizing best evaluated with
  | nil => exact ⟨evaluated, rfl⟩
  | cons entry entries ih =>
    obtain ⟨text, hText⟩ := Option.isSome_iff_exists.1 (hRegions entry List.mem_cons_self)
    have hRest := fun next => ih (fun other hMem => hRegions other (List.mem_cons_of_mem _ hMem)) next
    have hEntry : entryMatches isMatch toLowercase input entry =
        compiledRuleMatches isMatch toLowercase entry.2 text := by
      rw [entryMatches, hText]
      rfl
    rw [List.foldlM_cons, evaluateStep, hText, Option.map_some]
    cases hMatch : compiledRuleMatches isMatch toLowercase entry.2 text with
    | false =>
      rw [List.filter_cons_of_neg (by rw [hEntry, hMatch]; decide)]
      exact hRest best _
    | true =>
      rw [List.filter_cons_of_pos (by rw [hEntry, hMatch]), List.map_cons, List.foldl_cons]
      cases best with
      | none => exact hRest (some entry.1) _
      | some previous =>
        by_cases hLower : entry.1.priority ≤ previous.priority
        · have hKept : keepBetter priority (some previous) entry.1 =
              some previous := if_neg (Int.not_lt.2 hLower)
          rw [hKept]
          have hNext := hRest (some previous)
            (evaluated ++ [evaluatedRule entry.1 text true])
          simpa [hLower] using hNext
        · have hKept : keepBetter priority (some previous) entry.1 =
              some entry.1 := if_pos (Int.not_le.1 hLower)
          rw [hKept]
          have hNext := hRest (some entry.1)
            (evaluated ++ [evaluatedRule entry.1 text true])
          simpa [hLower] using hNext

/-- The loop stops at a region that is not found. -/
theorem regions_of_foldlM {entries : List (ManifestRule × CompiledRule ρ)}
  {found found' : Option (ManifestRule × String) × List EvaluatedRule}
  (hLoop : entries.foldlM (evaluateStep isMatch toLowercase input) found = some found') :
  ∀ entry ∈ entries, (region input entry.1.region).isSome := by
  induction entries generalizing found with
  | nil => intro entry hMem; cases hMem
  | cons first rest ih =>
    rw [List.foldlM_cons] at hLoop
    obtain ⟨next, hStep, hRest⟩ := Option.bind_eq_some_iff.1 hLoop
    obtain ⟨text, hText, -⟩ := Option.map_eq_some_iff.1 hStep
    intro entry hMem
    rcases List.mem_cons.1 hMem with rfl | hLater
    · rw [hText]
      rfl
    · exact ih hRest entry hLater

end Loop

/-- What a choice makes of a screen. -/
def choiceExplain (agent : Agent) (chosen : Option ManifestRule)
  (evaluated : List EvaluatedRule) : DetectionExplain :=
  match chosen with
  | none => fallbackExplain agent evaluated
  | some rule => matchedExplain agent rule rule.region evaluated

/-- A detection without the list of what was evaluated, which is in the order of the rules. -/
def DetectionExplain.outcome (explain : DetectionExplain) : DetectionExplain :=
  { explain with evaluatedRules := [] }

theorem outcome_choiceExplain (agent : Agent) (chosen : Option ManifestRule)
  (evaluated : List EvaluatedRule) :
  (choiceExplain agent chosen evaluated).outcome = choiceExplain agent chosen [] := by
  cases chosen with
  | none => rfl
  | some rule => rfl

open Classical in
/-- The rules that hold on a screen. -/
noncomputable def holding (regexNew : String → Except String ρ) (isMatch : ρ → List Char → Bool)
  (toLowercase : List Char → List Char) (input : DetectionInput) (rules : List ManifestRule) :
  List ManifestRule :=
  rules.filter fun rule => RuleHolds regexNew isMatch toLowercase input rule

open Classical in
theorem filter_entries_eq {input : DetectionInput} {rules : List ManifestRule}
  (hCompiled : List.Forall₂ (Compiles regexNew isMatch toLowercase) rules compiled) :
  ((rules.zip compiled).filter (entryMatches isMatch toLowercase input)).map Prod.fst =
    holding regexNew isMatch toLowercase input rules := by
  induction hCompiled with
  | nil => rfl
  | @cons rule gate rules compiled hHere _ ih =>
    have hSame : entryMatches isMatch toLowercase input (rule, gate) = true ↔
        RuleHolds regexNew isMatch toLowercase input rule := by
      rw [entryMatches, Option.any_eq_true]
      exact exists_congr fun text => and_congr_right fun _ => hHere text
    unfold holding at ih ⊢
    rw [List.zip_cons_cons, List.filter_cons, List.filter_cons]
    by_cases hHolds : RuleHolds regexNew isMatch toLowercase input rule
    · rw [if_pos (hSame.2 hHolds), if_pos (decide_eq_true hHolds), List.map_cons, ih]
    · rw [if_neg fun hMatch => hHolds (hSame.1 hMatch), if_neg (by simpa using hHolds), ih]

theorem fst_mem_of_zip {input : DetectionInput} {rules : List ManifestRule}
  (hLength : rules.length = compiled.length) :
  (∀ entry ∈ rules.zip compiled, (region input entry.1.region).isSome) ↔
    ∀ rule ∈ rules, (region input rule.region).isSome := by
  constructor
  · intro hEntries rule hMem
    have hFst : rule ∈ (rules.zip compiled).map Prod.fst := by
      rwa [List.map_fst_zip (Nat.le_of_eq hLength)]
    obtain ⟨entry, hEntry, rfl⟩ := List.mem_map.1 hFst
    exact hEntries entry hEntry
  · intro hRules entry hMem
    exact hRules entry.1 (List.of_mem_zip hMem).1

/-- What is detected is the choice, where all regions are found. -/
theorem evaluate_eq (agent : Agent) (input : DetectionInput)
  (hCompiled : List.Forall₂ (Compiles regexNew isMatch toLowercase) manifest.rules compiled)
  (hRegions : ∀ rule ∈ manifest.rules, (region input rule.region).isSome) :
  ∃ evaluated, evaluateLoadedManifest isMatch toLowercase agent input manifest compiled =
    some (choiceExplain agent (firstBest priority
      (holding regexNew isMatch toLowercase input manifest.rules)) evaluated) := by
  obtain ⟨evaluated, hLoop⟩ := @foldlM_evaluateStep ρ isMatch toLowercase input
    (manifest.rules.zip compiled) ((fst_mem_of_zip hCompiled.length_eq).2 hRegions) none []
  refine ⟨evaluated, ?_⟩
  rw [Option.map_none, filter_entries_eq hCompiled] at hLoop
  rw [evaluateLoadedManifest, hLoop, Option.map_some, ← firstBest]
  cases firstBest priority
      (holding regexNew isMatch toLowercase input manifest.rules) with
  | none => rfl
  | some rule => rfl

/-- Nothing is detected when a region is not found. -/
theorem evaluate_isSome_iff (agent : Agent) (input : DetectionInput)
  (hCompiled : List.Forall₂ (Compiles regexNew isMatch toLowercase) manifest.rules compiled) :
  (evaluateLoadedManifest isMatch toLowercase agent input manifest compiled).isSome ↔
    ∀ rule ∈ manifest.rules, (region input rule.region).isSome := by
  constructor
  · intro hSome
    rw [evaluateLoadedManifest, Option.isSome_map] at hSome
    obtain ⟨found, hLoop⟩ := Option.isSome_iff_exists.1 hSome
    exact (fst_mem_of_zip hCompiled.length_eq).1 (regions_of_foldlM hLoop)
  · intro hRegions
    obtain ⟨evaluated, hEvaluate⟩ := evaluate_eq agent input hCompiled hRegions
    rw [hEvaluate]
    rfl

open Classical in
/-- The loop's best is the choice. -/
theorem isChoice_firstBest (input : DetectionInput) (rules : List ManifestRule) :
  IsChoice regexNew isMatch toLowercase input rules
    (firstBest priority
      (holding regexNew isMatch toLowercase input rules)) := by
  cases hBest : firstBest priority
      (holding regexNew isMatch toLowercase input rules) with
  | none =>
    intro rule hMem hHolds
    have hNone := firstBest_eq_none.1 hBest
    rw [holding, List.filter_eq_nil_iff] at hNone
    exact hNone rule hMem (decide_eq_true hHolds)
  | some rule =>
    obtain ⟨before, after, hSplit, hBefore, hAfter⟩ := isFirstBest_of_firstBest hBest
    obtain ⟨first, rest, rfl, rfl, hRest⟩ := List.filter_eq_append_iff.1 hSplit
    obtain ⟨others, last, rfl, hOthers, hHolds, rfl⟩ := List.filter_eq_cons_iff.1 hRest
    refine ⟨first ++ others, last, by simp, of_decide_eq_true hHolds, ?_, ?_⟩
    · intro other hMem hOther
      rcases List.mem_append.1 hMem with hFirst | hSecond
      · exact hBefore other (List.mem_filter.2 ⟨hFirst, decide_eq_true hOther⟩)
      · exact absurd (decide_eq_true hOther) (hOthers other hSecond)
    · intro other hMem hOther
      exact hAfter other (List.mem_filter.2 ⟨hMem, decide_eq_true hOther⟩)

section Detection

variable (regexNew : String → Except String ρ) (isMatch : ρ → List Char → Bool)
  (toLowercase : List Char → List Char) (agent : Agent)

/-- What is detected on a screen with the rules of a manifest. -/
def detect (manifest : AgentManifest) (input : DetectionInput) :
  Except String (Option DetectionExplain) :=
  (compileManifest regexNew toLowercase manifest).map fun compiled =>
    evaluateLoadedManifest isMatch toLowercase agent input manifest compiled

/-- The manifest compiles and the rule that decides is the choice; with distinct priorities, the
order of the rules does not change the outcome. -/
def DetectsByChoice (manifest : AgentManifest) (input : DetectionInput) : Prop :=
  (∃ explain chosen, detect regexNew isMatch toLowercase agent manifest input = .ok (some explain) ∧
    IsChoice regexNew isMatch toLowercase input manifest.rules chosen ∧
    explain.outcome = choiceExplain agent chosen []) ∧
  ∀ rules, rules.Perm manifest.rules → (manifest.rules.map priority).Nodup →
    (detect regexNew isMatch toLowercase agent { manifest with rules := rules } input).map
        (Option.map DetectionExplain.outcome) =
      (detect regexNew isMatch toLowercase agent manifest input).map
        (Option.map DetectionExplain.outcome)

variable {regexNew} in
/-- The outcome depends on the regions and on the best of the rules that hold. -/
theorem detect_outcome {manifest : AgentManifest} (input : DetectionInput)
  (hRules : ∀ rule ∈ manifest.rules,
    (manifestGateFromRule rule).All (PatternsCompile regexNew)) :
  ∃ found, detect regexNew isMatch toLowercase agent manifest input = .ok found ∧
    (found.isSome ↔ ∀ rule ∈ manifest.rules, (region input rule.region).isSome) ∧
    ∀ explain, found = some explain → explain.outcome =
      choiceExplain agent (firstBest priority
        (holding regexNew isMatch toLowercase input manifest.rules)) [] := by
  obtain ⟨compiled, hOk, hCompiled⟩ := compileManifest_ok isMatch toLowercase hRules
  have hIff := evaluate_isSome_iff agent input hCompiled
  refine ⟨evaluateLoadedManifest isMatch toLowercase agent input manifest compiled, ?_, hIff, ?_⟩
  · rw [detect, hOk]
    rfl
  intro explain hExplain
  obtain ⟨evaluated, hEvaluate⟩ := evaluate_eq agent input hCompiled
    (hIff.1 (by rw [hExplain]; rfl))
  rw [hEvaluate] at hExplain
  cases hExplain
  exact outcome_choiceExplain agent _ evaluated

/-- A validated manifest detects by choice exactly on the screens whose regions are cut between
characters. -/
theorem detectsByChoice_iff (manifest : AgentManifest) (input : DetectionInput)
  (hValid : validateManifest regexNew manifest = .ok ()) :
  DetectsByChoice regexNew isMatch toLowercase agent manifest input ↔
    ∀ rule ∈ manifest.rules, CutsBetween input.screen rule.region := by
  have hRules := validateManifest_compile hValid
  obtain ⟨found, hDetect, hFound, hOutcome⟩ :=
    detect_outcome isMatch toLowercase agent input hRules
  have hRegions : (∀ rule ∈ manifest.rules, (region input rule.region).isSome) ↔
      ∀ rule ∈ manifest.rules, CutsBetween input.screen rule.region :=
    forall₂_congr fun rule _ => region_isSome_iff input rule.region
  rw [← hRegions, ← hFound]
  constructor
  · rintro ⟨⟨explain, chosen, hExplain, -, -⟩, -⟩
    rw [hDetect] at hExplain
    cases hExplain
    rfl
  · intro hSome
    obtain ⟨explain, rfl⟩ := Option.isSome_iff_exists.1 hSome
    refine ⟨⟨explain, _, hDetect, isChoice_firstBest input manifest.rules, hOutcome explain rfl⟩,
      fun rules hPerm hPriorities => ?_⟩
    have hOther : ∀ rule ∈ ({ manifest with rules := rules } : AgentManifest).rules,
        (manifestGateFromRule rule).All (PatternsCompile regexNew) :=
      fun rule hMem => hRules rule (hPerm.mem_iff.1 hMem)
    obtain ⟨found', hDetect', hFound', hOutcome'⟩ :=
      detect_outcome isMatch toLowercase agent input hOther
    have hSome' : found'.isSome :=
      hFound'.2 fun rule hMem => hFound.1 hSome rule (hPerm.mem_iff.1 hMem)
    obtain ⟨explain', rfl⟩ := Option.isSome_iff_exists.1 hSome'
    have hBest : firstBest priority
        (holding regexNew isMatch toLowercase input manifest.rules) =
          firstBest priority (holding regexNew isMatch toLowercase input rules) := by
      refine firstBest_perm ?_ (hPerm.symm.filter _)
      exact hPriorities.sublist (List.filter_sublist.map priority)
    have hSame : explain'.outcome = explain.outcome := by
      rw [hOutcome' explain' rfl, hOutcome explain rfl, hBest]
    rw [hDetect', hDetect]
    exact congrArg (fun outcome => Except.ok (some outcome)) hSame

end Detection

/-- Patterns that are found as they stand. -/
def plainMatch (pattern : String) (text : List Char) : Bool := decide (pattern.toList <:+: text)

/-- A rule that looks for a text on the last line. -/
def lastLineRule (needle : List Char) : ManifestRule :=
  ⟨"last", some .working, 0, "bottom_lines(1)", false, false, true, false, [], [], [], [needle], [],
    []⟩

def lastLineManifest : AgentManifest := ⟨none, [lastLineRule ['x']]⟩

theorem detectsByChoice_iff_lastLine :
  DetectsByChoice Except.ok plainMatch (List.map Char.toLower) .codex lastLineManifest
      ⟨"é\nx".toList, [], []⟩ ↔
    ∀ rule ∈ lastLineManifest.rules, CutsBetween "é\nx".toList rule.region :=
  detectsByChoice_iff Except.ok plainMatch (List.map Char.toLower) .codex lastLineManifest
    ⟨"é\nx".toList, [], []⟩ (by decide +kernel)

/-- On a screen whose lines end in two bytes, the program stops. -/
theorem not_detectsByChoice :
  validateManifest (Except.ok : String → Except String String) lastLineManifest = .ok () ∧
    ¬ DetectsByChoice Except.ok plainMatch (List.map Char.toLower) .codex lastLineManifest
      ⟨"\r\n\r\né\r\nx".toList, [], []⟩ := by
  have hValid : validateManifest (Except.ok : String → Except String String) lastLineManifest =
      .ok () := by
    decide +kernel
  refine ⟨hValid, ?_⟩
  rintro ⟨⟨explain, chosen, hExplain, -, -⟩, -⟩
  obtain ⟨found, hDetect, hFound, -⟩ := detect_outcome plainMatch (List.map Char.toLower) .codex
    ⟨"\r\n\r\né\r\nx".toList, [], []⟩ (validateManifest_compile hValid)
  rw [hDetect] at hExplain
  cases hExplain
  have hRegion := hFound.1 rfl (lastLineRule ['x']) List.mem_cons_self
  rw [lastLineRule, region_crlf] at hRegion
  cases hRegion

end Detect
