import Mathlib.Order.Nat
import VimeflowTerminal.Data.PaddedOrder
import VimeflowTerminal.Detect.Manifest
import VimeflowTerminal.Transition.Run

/-! A manifest fetched for an agent replaces the cached one if its version is newer. The cached file
is read and parsed again for every manifest that is offered. -/

namespace Detect

open PaddedOrder Text Transition

/-- The first number past `u64::MAX`. -/
def u64Limit : Nat := 2 ^ 64

def segments (text : String) : List (List Char) := text.toList.splitOn '.'

def checkSegment (trimmed : String) (segment : List Char) : Except String Unit :=
  let quoted := trimmed.quote
  if segment.isEmpty then .error s!"version {quoted} contains an empty segment"
  else if !segment.all Char.isDigit then .error s!"version {quoted} must be dotted numeric"
  else if (parseUnsigned u64Limit (String.ofList segment)).isNone then
    .error s!"version {quoted} contains an oversized segment"
  else .ok ()

structure ManifestVersion where
  text : String
  dotted : (segments text).forM (checkSegment text) = .ok ()

namespace ManifestVersion

def parse (value : String) : Except String ManifestVersion :=
  let trimmed := trim value
  if trimmed.isEmpty then .error "version must not be empty"
  else
    match h : (segments trimmed).forM (checkSegment trimmed) with
    | .error err => .error err
    | .ok () => .ok ⟨trimmed, h⟩

/-- `segment.parse::<u64>().unwrap_or(0)`. -/
def segmentNumber (segment : List Char) : Nat :=
  (parseUnsigned u64Limit (String.ofList segment)).getD 0

/-- The segments that one version has more than the other. -/
def cmpRest (ordering : Ordering) : List (List Char) → Ordering
  | [] => .eq
  | segment :: rest => if segmentNumber segment = 0 then cmpRest ordering rest else ordering

def cmpSegments : List (List Char) → List (List Char) → Ordering
  | [], rights => cmpRest .lt rights
  | left :: lefts, [] => cmpRest .gt (left :: lefts)
  | left :: lefts, right :: rights =>
    match compare (segmentNumber left) (segmentNumber right) with
    | .eq => cmpSegments lefts rights
    | ordering => ordering

def cmp (v w : ManifestVersion) : Ordering := cmpSegments (segments v.text) (segments w.text)

/-- Two versions are equal if they compare so, whatever their texts are. -/
instance : BEq ManifestVersion := ⟨fun v w => v.cmp w == .eq⟩

/-- The numbers of a version. -/
def numbers (v : ManifestVersion) : List Nat := (segments v.text).map segmentNumber

variable {u v w : ManifestVersion}

theorem cmpRest_eq (ordering : Ordering) (rest : List (List Char)) :
  cmpRest ordering rest = compareRest ordering (rest.map segmentNumber) := by
  induction rest with
  | nil => rfl
  | cons segment rest ih => rw [cmpRest, ih, List.map_cons, compareRest, Nat.bot_eq_zero]

theorem cmpSegments_eq (lefts rights : List (List Char)) : cmpSegments lefts rights =
  comparePadded (lefts.map segmentNumber) (rights.map segmentNumber) := by
  fun_induction cmpSegments lefts rights with
  | case1 rights => exact cmpRest_eq .lt rights
  | case2 left lefts => exact cmpRest_eq .gt (left :: lefts)
  | case3 left lefts right rights hSame ih =>
    rw [List.map_cons, List.map_cons, comparePadded, hSame, ih]
    rfl
  | case4 left lefts right rights hOther =>
    rw [List.map_cons, List.map_cons, comparePadded]
    cases hHeads : compare (segmentNumber left) (segmentNumber right) with
    | eq => exact absurd hHeads hOther
    | lt => rfl
    | gt => rfl

theorem compares (v w : ManifestVersion) :
  Compares (padded v.numbers) (padded w.numbers) (v.cmp w) := by
  rw [cmp, cmpSegments_eq]
  exact compares_padded _ _

theorem cmp_trans (hFirst : u.cmp v ≠ .gt) (hNext : v.cmp w ≠ .gt) : u.cmp w ≠ .gt := by
  rw [(compares _ _).ne_gt_iff] at hFirst hNext ⊢
  exact le_trans hFirst hNext

theorem cmp_total (v w : ManifestVersion) : v.cmp w ≠ .gt ∨ w.cmp v ≠ .gt := by
  rw [(compares _ _).ne_gt_iff, (compares _ _).ne_gt_iff]
  exact le_total _ _

theorem cmp_self (v : ManifestVersion) : v.cmp v = .eq := (compares v v).eq_iff.2 rfl

theorem cmp_gt_iff : v.cmp w = .gt ↔ w.cmp v = .lt := by
  rw [(compares _ _).gt_iff, (compares _ _).lt_iff]

theorem cmp_lt_trans (hFirst : u.cmp v = .lt) (hNext : v.cmp w = .lt) : u.cmp w = .lt := by
  rw [(compares _ _).lt_iff, below_iff] at hFirst hNext ⊢
  exact lt_trans hFirst hNext

end ManifestVersion

def manifestEngineVersion : Nat := 3

/-- A manifest as the TOML library reads it, with the version still to be parsed. -/
structure ManifestDocument extends AgentManifest where
  id : String
  version : Option String
  aliases : List String

/-- A manifest that names its agent. -/
structure NamedManifest extends AgentManifest where
  id : String
  version : Option ManifestVersion
  aliases : List String

structure ParsedRemoteManifest where
  manifest : NamedManifest
  version : ManifestVersion

structure ManifestUpdateCommit where
  agent : Agent
  version : ManifestVersion

def manifestMatchesAgent (manifest : NamedManifest) (agent : Agent) : Bool :=
  let id := agentLabel agent
  decide (manifest.id = id) || manifest.aliases.any (fun label => decide (label = id)) ||
    decide (parseAgentLabel manifest.id = some agent) ||
      manifest.aliases.any fun label => decide (parseAgentLabel label = some agent)

section Parsing

variable {ρ : Type} (regexNew : String → Except String ρ)
  (fromStr : String → Except String ManifestDocument) (fieldError : String → String)

/-- An error of a field is reported by the TOML library in its own words. -/
def parseManifest (content : String) : Except String NamedManifest := do
  let document ← fromStr content
  let version ← document.version.mapM fun text => (ManifestVersion.parse text).mapError fieldError
  let manifest : NamedManifest :=
    { document with id := document.id, version, aliases := document.aliases }
  validateManifest regexNew manifest.toAgentManifest
  return manifest

def parseRemoteManifestForAgent (agent : Agent) (content : String) :
  Except String ParsedRemoteManifest := do
  let manifest ← parseManifest regexNew fromStr fieldError content
  let label := agentLabel agent
  let id := manifest.id
  if !manifestMatchesAgent manifest agent then .error s!"manifest id {id} does not match {label}"
  else
    match manifest.version, manifest.minEngineVersion with
    | none, _ => .error "remote manifest must include version"
    | some _, none => .error "remote manifest must include min_engine_version"
    | some version, some required =>
      if manifestEngineVersion < required then
        .error s!"manifest requires engine {required}, current engine is {manifestEngineVersion}"
      else .ok ⟨manifest, version⟩

/-- The version of the cached file, if it can be read and parsed. -/
def cachedRemoteVersion (agent : Agent) (cached : Option String) : Option ManifestVersion :=
  cached.bind fun content =>
    (parseRemoteManifestForAgent regexNew fromStr fieldError agent content).toOption.map (·.version)

/-- The file afterwards. The write either replaces the whole file or changes nothing. -/
def commitRemoteManifest (cached : Option String) (content : String)
  (written : Except String Unit) : Option String × Except String Unit :=
  match written with
  | .ok () => (some content, .ok ())
  | .error err => (cached, .error err)

def processAgentManifest (agent : Agent) (cached : Option String) (content : String)
  (written : Except String Unit) : Option String × Except String (Option ManifestUpdateCommit) :=
  match parseRemoteManifestForAgent regexNew fromStr fieldError agent content with
  | .error err => (cached, .error err)
  | .ok parsed =>
    let offered := parsed.version.text
    let commit :=
      match commitRemoteManifest cached content written with
      | (cached, .error err) => (cached, .error err)
      | (cached, .ok ()) => (cached, .ok (some ⟨agent, parsed.version⟩))
    match cachedRemoteVersion regexNew fromStr fieldError agent cached with
    | none => commit
    | some current =>
      let currentText := current.text
      match parsed.version.cmp current with
      | .lt =>
        (cached, .error s!"remote version {offered} is older than cached {currentText}")
      | .eq =>
        if cached.getD "" ≠ content then
          (cached,
            .error s!"remote version {offered} changed content without a version bump")
        else (cached, .ok none)
      | .gt => commit

end Parsing

/-- The cached file of an agent, with what was committed to it. -/
structure ManifestCache where
  content : Option String
  commits : List ManifestUpdateCommit

/-- A manifest that was fetched, and how the write of the file would go. -/
structure Offer where
  content : String
  written : Except String Unit

section Runs

variable {ρ : Type} {regexNew : String → Except String ρ}
  {fromStr : String → Except String ManifestDocument} {fieldError : String → String} {agent : Agent}

/-- The versions of what is read for the agent. -/
def versionOf (regexNew : String → Except String ρ)
  (fromStr : String → Except String ManifestDocument) (fieldError : String → String)
  (agent : Agent) (content : String) : Option ManifestVersion :=
  cachedRemoteVersion regexNew fromStr fieldError agent (some content)

variable (regexNew fromStr fieldError agent)

def ManifestCache.offer (cache : ManifestCache) (offer : Offer) : ManifestCache :=
  let (content, result) := processAgentManifest regexNew fromStr fieldError agent cache.content
    offer.content offer.written
  ⟨content, cache.commits ++ (result.toOption.bind id).toList⟩

/-- The cached file, if there is one, can be parsed. -/
def ManifestCache.Readable (cache : ManifestCache) : Prop :=
  ∀ content ∈ cache.content, (versionOf regexNew fromStr fieldError agent content).isSome

/-- What an offer may do to the file. -/
inductive Processed (cached : Option String) (content : String) :
  Option String × Except String (Option ManifestUpdateCommit) → Prop where
  | refused (err : String) (hOther : cached ≠ some content) :
      Processed cached content (cached, .error err)
  | current (hSame : cached = some content) : Processed cached content (cached, .ok none)
  | committed (version : ManifestVersion)
      (hVersion : versionOf regexNew fromStr fieldError agent content = some version)
      (hNewer : ∀ current ∈ cachedRemoteVersion regexNew fromStr fieldError agent cached,
        current.cmp version = .lt) :
      Processed cached content (some content, .ok (some ⟨agent, version⟩))

/-- The versions of the files, the one at the start first. -/
def fileVersions (start finish : ManifestCache) : List ManifestVersion :=
  (cachedRemoteVersion regexNew fromStr fieldError agent start.content).toList ++
    finish.commits.map (·.version)

/-- What holds after every run: the versions only grew, and the last one is that of the file. -/
structure Ascending (start finish : ManifestCache) : Prop where
  readable : finish.Readable regexNew fromStr fieldError agent
  ascending : (fileVersions regexNew fromStr fieldError agent start finish).Pairwise fun v w =>
    v.cmp w = .lt
  latest : cachedRemoteVersion regexNew fromStr fieldError agent finish.content =
    (fileVersions regexNew fromStr fieldError agent start finish).getLast?

/-- The answer to an offer: an error leaves the file as it was, nothing is to be done exactly if the
file has the content already, a commit stores the content with its version, and other content of the
same version is refused. -/
structure Answered (cached : Option String) (content : String)
  (answer : Option String × Except String (Option ManifestUpdateCommit)) : Prop where
  unchanged : ∀ err, answer.2 = .error err → answer.1 = cached
  current : answer.2 = .ok none ↔ cached = some content
  committed : ∀ commit, answer.2 = .ok (some commit) → answer.1 = some content ∧
    commit.agent = agent ∧
      versionOf regexNew fromStr fieldError agent content = some commit.version
  sameVersion : ∀ current ∈ cachedRemoteVersion regexNew fromStr fieldError agent cached,
    ∀ offered ∈ versionOf regexNew fromStr fieldError agent content,
      (offered == current) = true → cached ≠ some content → ∃ err, answer.2 = .error err

variable {regexNew fromStr fieldError agent} {cached : Option String} {content : String}
  {start finish : ManifestCache}

theorem versionOf_ok {parsed : ParsedRemoteManifest}
  (hParsed : parseRemoteManifestForAgent regexNew fromStr fieldError agent content = .ok parsed) :
  versionOf regexNew fromStr fieldError agent content = some parsed.version := by
  rw [versionOf, cachedRemoteVersion, Option.bind_some, hParsed]
  rfl

theorem versionOf_error {err : String}
  (hParsed : parseRemoteManifestForAgent regexNew fromStr fieldError agent content =
    .error err) : versionOf regexNew fromStr fieldError agent content = none := by
  rw [versionOf, cachedRemoteVersion, Option.bind_some, hParsed]
  rfl

theorem ne_of_versions {version : ManifestVersion}
  (hVersion : versionOf regexNew fromStr fieldError agent content = some version)
  (hOther : cachedRemoteVersion regexNew fromStr fieldError agent cached ≠ some version) :
  cached ≠ some content := by
  rintro rfl
  exact hOther hVersion

theorem processed
  (hReadable : ∀ text ∈ cached, (versionOf regexNew fromStr fieldError agent text).isSome)
  (written : Except String Unit) :
  Processed regexNew fromStr fieldError agent cached content
    (processAgentManifest regexNew fromStr fieldError agent cached content written) := by
  unfold processAgentManifest
  cases hParsed : parseRemoteManifestForAgent regexNew fromStr fieldError agent content with
  | error err =>
    refine .refused err ?_
    rintro rfl
    have hSome := hReadable content rfl
    rw [versionOf_error hParsed] at hSome
    cases hSome
  | ok parsed =>
    have hVersion := versionOf_ok hParsed
    have hCommit : cached ≠ some content →
        (∀ current ∈ cachedRemoteVersion regexNew fromStr fieldError agent cached,
          current.cmp parsed.version = .lt) →
        Processed regexNew fromStr fieldError agent cached content
          (match commitRemoteManifest cached content written with
            | (cached, .error err) => (cached, .error err)
            | (cached, .ok ()) => (cached, .ok (some ⟨agent, parsed.version⟩))) := by
      intro hOther hNewer
      cases written with
      | error err => exact .refused err hOther
      | ok _ => exact .committed parsed.version hVersion hNewer
    cases hCurrent : cachedRemoteVersion regexNew fromStr fieldError agent cached with
    | none =>
      refine hCommit (ne_of_versions hVersion ?_) ?_
      · rw [hCurrent]
        exact Option.some_ne_none _ ∘ Eq.symm
      · rw [hCurrent]
        exact fun _ hMem => absurd hMem (Option.not_mem_none _)
    | some current =>
      have hOther : parsed.version.cmp current ≠ .eq → cached ≠ some content := by
        intro hNe
        refine ne_of_versions hVersion ?_
        rw [hCurrent]
        rintro ⟨⟩
        exact hNe (ManifestVersion.cmp_self _)
      dsimp only
      cases hOrder : parsed.version.cmp current with
      | lt => exact .refused _ (hOther (hOrder ▸ Ordering.noConfusion))
      | gt =>
        refine hCommit (hOther (hOrder ▸ Ordering.noConfusion)) ?_
        rw [hCurrent]
        rintro _ ⟨⟩
        exact ManifestVersion.cmp_gt_iff.1 hOrder
      | eq =>
        dsimp only
        split
        next hDiffers =>
          refine .refused _ ?_
          rintro rfl
          exact hDiffers rfl
        next hSame =>
          refine .current ?_
          cases cached with
          | none => cases hCurrent
          | some text => exact congrArg some (not_not.1 hSame)

theorem answered
  (hReadable : ∀ text ∈ cached, (versionOf regexNew fromStr fieldError agent text).isSome)
  (written : Except String Unit) :
  Answered regexNew fromStr fieldError agent cached content
    (processAgentManifest regexNew fromStr fieldError agent cached content written) := by
  have hProcessed : Processed regexNew fromStr fieldError agent cached content
      (processAgentManifest regexNew fromStr fieldError agent cached content written) :=
    processed hReadable written
  generalize processAgentManifest regexNew fromStr fieldError agent cached content written = answer
    at hProcessed ⊢
  cases hProcessed with
  | refused err hOther =>
    refine ⟨fun _ _ => rfl, iff_of_false ?_ hOther, ?_, ?_⟩
    · rintro ⟨⟩
    · rintro _ ⟨⟩
    · exact fun _ _ _ _ _ _ => ⟨err, rfl⟩
  | current hSame =>
    refine ⟨fun _ _ => rfl, iff_of_true rfl hSame, ?_, ?_⟩
    · rintro _ ⟨⟩
    · exact fun _ _ _ _ _ hOther => absurd hSame hOther
  | committed version hVersion hNewer =>
    refine ⟨?_, iff_of_false ?_ ?_, ?_, ?_⟩
    · rintro _ ⟨⟩
    · rintro ⟨⟩
    · rintro rfl
      have hSelf := hNewer version hVersion
      rw [ManifestVersion.cmp_self] at hSelf
      cases hSelf
    · rintro _ ⟨⟩
      exact ⟨rfl, rfl, hVersion⟩
    · intro current hCurrent offered hOffered hEqual _
      have hLess := hNewer current hCurrent
      obtain rfl := Option.some.inj (hVersion.symm.trans hOffered)
      have hEq : version.cmp current = .eq := eq_of_beq hEqual
      rw [← ManifestVersion.cmp_gt_iff, hEq] at hLess
      cases hLess

theorem ascending_start
  (hReadable : start.Readable regexNew fromStr fieldError agent) (hNone : start.commits = []) :
  Ascending regexNew fromStr fieldError agent start start := by
  have hVersions : fileVersions regexNew fromStr fieldError agent start start =
      (cachedRemoteVersion regexNew fromStr fieldError agent start.content).toList := by
    rw [fileVersions, hNone, List.map_nil, List.append_nil]
  refine ⟨hReadable, ?_, ?_⟩
  · rw [hVersions]
    cases cachedRemoteVersion regexNew fromStr fieldError agent start.content with
    | none => exact .nil
    | some version => exact List.pairwise_singleton _ _
  · rw [hVersions]
    cases cachedRemoteVersion regexNew fromStr fieldError agent start.content with
    | none => rfl
    | some version => rfl

/-- The last version is above all others. -/
theorem Ascending.below_latest (h : Ascending regexNew fromStr fieldError agent start finish)
  {version : ManifestVersion}
  (hNewer : ∀ current ∈ cachedRemoteVersion regexNew fromStr fieldError agent finish.content,
    current.cmp version = .lt) :
  ∀ other ∈ fileVersions regexNew fromStr fieldError agent start finish,
    other.cmp version = .lt := by
  have hAscending := h.ascending
  have hLatest := h.latest
  generalize fileVersions regexNew fromStr fieldError agent start finish = versions
    at hAscending hLatest
  cases versions using List.reverseRecOn with
  | nil => exact fun _ hMem => absurd hMem List.not_mem_nil
  | append_singleton versions last =>
    rw [List.getLast?_concat] at hLatest
    have hLast := hNewer last hLatest
    intro other hOther
    rcases List.mem_append.1 hOther with hEarlier | hIs
    · obtain ⟨-, -, hBelow⟩ := List.pairwise_append.1 hAscending
      exact ManifestVersion.cmp_lt_trans
        (hBelow other hEarlier last (List.mem_singleton_self last)) hLast
    · rw [List.mem_singleton.1 hIs]
      exact hLast

theorem ascending_offer (h : Ascending regexNew fromStr fieldError agent start finish)
  (offer : Offer) : Ascending regexNew fromStr fieldError agent start
    (finish.offer regexNew fromStr fieldError agent offer) := by
  have hProcessed : Processed regexNew fromStr fieldError agent finish.content offer.content _ :=
    processed h.readable offer.written
  unfold ManifestCache.offer
  generalize processAgentManifest regexNew fromStr fieldError agent finish.content offer.content
    offer.written = answer at hProcessed ⊢
  have hSame : ∀ commits, commits = finish.commits →
      Ascending regexNew fromStr fieldError agent start ⟨finish.content, commits⟩ := by
    rintro _ rfl
    exact h
  cases hProcessed with
  | refused err hOther => exact hSame _ (List.append_nil _)
  | current hCurrent => exact hSame _ (List.append_nil _)
  | committed version hVersion hNewer =>
    have hVersions : fileVersions regexNew fromStr fieldError agent start
        ⟨some offer.content, finish.commits ++ [⟨agent, version⟩]⟩ =
          fileVersions regexNew fromStr fieldError agent start finish ++ [version] := by
      rw [fileVersions, List.map_append, ← List.append_assoc]
      rfl
    refine ⟨?_, ?_, ?_⟩
    · rintro _ ⟨⟩
      rw [hVersion]
      rfl
    · refine (congrArg (List.Pairwise _) hVersions).mpr (List.pairwise_append.2
        ⟨h.ascending, List.pairwise_singleton _ _, ?_⟩)
      rintro other hOther _ hLast
      rw [List.mem_singleton.1 hLast]
      exact h.below_latest hNewer other hOther
    · refine Eq.trans hVersion ?_
      exact ((congrArg List.getLast? hVersions).trans List.getLast?_concat).symm

theorem ascending_run {offers : List Offer}
  (hReadable : start.Readable regexNew fromStr fieldError agent) (hNone : start.commits = [])
  (hRun : Run (ofFunction (ManifestCache.offer regexNew fromStr fieldError agent)) start offers
    finish) : Ascending regexNew fromStr fieldError agent start finish := by
  refine hRun.preserves (ascending_start hReadable hNone) ?_
  rintro cache offer _ h rfl
  exact ascending_offer h offer

/-- The order of versions is a total preorder, that of their numbers padded with zeros, and equality
is that of the order. Whatever is offered, the versions of the file only grow, and every offer is
answered by what the file has. -/
theorem manifest_updates :
  ((∀ v w : ManifestVersion, v.cmp w ≠ .gt ∨ w.cmp v ≠ .gt) ∧
    (∀ u v w : ManifestVersion, u.cmp v ≠ .gt → v.cmp w ≠ .gt → u.cmp w ≠ .gt) ∧
    ∀ v w : ManifestVersion, Compares (padded v.numbers) (padded w.numbers) (v.cmp w) ∧
      ((v == w) = true ↔ v.cmp w = .eq)) ∧
  ∀ {ρ : Type} (regexNew : String → Except String ρ)
    (fromStr : String → Except String ManifestDocument) (fieldError : String → String)
    (agent : Agent) {start finish : ManifestCache} {offers : List Offer},
    start.Readable regexNew fromStr fieldError agent → start.commits = [] →
    Run (ofFunction (ManifestCache.offer regexNew fromStr fieldError agent)) start offers finish →
      ((fileVersions regexNew fromStr fieldError agent start finish).Pairwise fun v w =>
        v.cmp w = .lt) ∧
      ∀ offer : Offer, Answered regexNew fromStr fieldError agent finish.content offer.content
        (processAgentManifest regexNew fromStr fieldError agent finish.content offer.content
          offer.written) := by
  refine ⟨⟨ManifestVersion.cmp_total, fun _ _ _ => ManifestVersion.cmp_trans, fun v w =>
    ⟨ManifestVersion.compares v w, @beq_iff_eq Ordering _ _ _ _⟩⟩, ?_⟩
  intro ρ regexNew fromStr fieldError agent start finish offers hReadable hNone hRun
  have hAscending := ascending_run hReadable hNone hRun
  exact ⟨hAscending.ascending, fun offer => answered hAscending.readable offer.written⟩

/-- The text of a manifest with one rule. -/
def sampleText (version : String) : String :=
  "id = \"pi\"\nversion = \"" ++ version ++
    "\"\nmin_engine_version = 1\n\n[[rules]]\nid = \"busy\"\nstate = \"working\"\n" ++
      "contains = [\"thinking\"]\n"

/-- What the TOML library makes of the text. -/
def sampleDocument (version : String) : ManifestDocument where
  minEngineVersion := some 1
  rules := [{
    id := "busy"
    state := some .working
    priority := 0
    region := "whole_recent"
    visibleIdle := false
    visibleBlocker := false
    visibleWorking := false
    skipStateUpdate := false
    all := []
    any := []
    notGate := []
    contains := ["thinking".toList]
    regex := []
    lineRegex := [] }]
  id := "pi"
  version := some version
  aliases := []

def sampleFromStr (text : String) : Except String ManifestDocument :=
  if text = sampleText "1.9" then .ok (sampleDocument "1.9")
  else if text = sampleText "1.10" then .ok (sampleDocument "1.10")
  else .error "no manifest"

/-- Two manifests, the newer one second, and then the older one again. -/
def sampleOffers : List Offer :=
  [⟨sampleText "1.9", .ok ()⟩, ⟨sampleText "1.10", .ok ()⟩, ⟨sampleText "1.9", .ok ()⟩]

def sampleFinish : ManifestCache :=
  sampleOffers.foldl (ManifestCache.offer (fun _ => .ok ()) sampleFromStr id .pi) ⟨none, []⟩

theorem manifest_updates_sample : sampleFinish.commits.map (·.version.text) = ["1.9", "1.10"] ∧
  (fileVersions (fun _ => .ok ()) sampleFromStr id .pi ⟨none, []⟩ sampleFinish).Pairwise
    fun v w => v.cmp w = .lt := by
  refine ⟨by decide +kernel, ?_⟩
  exact (manifest_updates.2 (fun _ : String => (.ok () : Except String Unit)) sampleFromStr id .pi
    (fun _ hMem => absurd hMem (Option.not_mem_none _)) rfl ((run_ofFunction_iff _).2 rfl)).1

end Runs

end Detect
