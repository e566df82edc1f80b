import Mathlib
import VimeflowTerminal.Data.Checked
import VimeflowTerminal.GitRefresh.BranchConfig
import VimeflowTerminal.GitRefresh.Requests

/-! All slices that the reading of a configuration takes are between characters, but for those that
compare the beginning of a header with a name: they are at fixed offsets. -/

namespace GitRefresh

open Checked Detect IncludeWalk Text TextSlice

theorem sliceFrom_behind (before rest : List Char) {ch : Char} (hAscii : ch.utf8Size = 1) :
  sliceFrom (before ++ ch :: rest) (byteLength before + 1) = some rest := by
  have hEq : before ++ ch :: rest = (before ++ [ch]) ++ rest := by simp
  have hLength : byteLength before + 1 = byteLength (before ++ [ch]) := by
    rw [byteLength_append, byteLength_cons, hAscii, byteLength_nil]
  rw [hEq, hLength, sliceFrom_append]

theorem slice_up_to (first : Char) (hAscii : first.utf8Size = 1) (middle rest : List Char) :
  slice (first :: middle ++ rest) 1 (byteLength (first :: middle)) = some middle := by
  have hSlice := slice_append [first] middle rest
  have hOne : byteLength [first] = 1 := by rw [byteLength_cons, hAscii, byteLength_nil]
  rw [hOne] at hSlice
  exact hSlice

theorem scanHeader_isSome {first : Char} (hAscii : first.utf8Size = 1) (inQuotes escaped : Bool)
  (middle rest : List Char) :
  (scanHeader (first :: middle ++ rest) inQuotes escaped (byteLength (first :: middle))
    rest).isSome := by
  induction rest generalizing inQuotes escaped middle with
  | nil => rfl
  | cons ch rest ih =>
    -- The next character is behind one more character of the line.
    have hNext : ∀ inQuotes escaped, (scanHeader (first :: middle ++ ch :: rest) inQuotes escaped
        (byteLength (first :: middle) + ch.utf8Size) rest).isSome := by
      intro inQuotes escaped
      have hRest := ih inQuotes escaped (middle ++ [ch])
      have hLine : first :: (middle ++ [ch]) ++ rest = first :: middle ++ ch :: rest := by simp
      have hIndex : byteLength (first :: (middle ++ [ch])) =
          byteLength (first :: middle) + ch.utf8Size := by
        rw [← List.cons_append, byteLength_append, byteLength_cons ch, byteLength_nil,
          Nat.add_zero]
      rwa [hLine, hIndex] at hRest
    rw [scanHeader]
    split
    · exact hNext _ _
    split
    · exact hNext _ _
    split
    · exact hNext _ _
    split
    next hEnd =>
      have hBracket : ch.utf8Size = 1 := by
        rw [hEnd.1]
        rfl
      rw [sliceFrom_behind (first :: middle) rest hBracket, Option.bind_eq_bind, Option.bind_some]
      dsimp only
      split
      · rw [slice_up_to first hAscii middle (ch :: rest)]
        rfl
      · rfl
    · exact hNext _ _

theorem extractConfigSection_isSome (line : List Char) : (extractConfigSection line).isSome := by
  unfold extractConfigSection
  split
  next rest =>
    have hBracket : '['.utf8Size = 1 := rfl
    exact scanHeader_isSome hBracket false false [] rest
  · rfl

theorem scanValue_isSome (inQuotes escaped : Bool) (before rest : List Char) :
  (scanValue (before ++ rest) inQuotes escaped (byteLength before) rest).isSome := by
  induction rest generalizing inQuotes escaped before with
  | nil => rfl
  | cons ch rest ih =>
    have hNext : ∀ inQuotes escaped, (scanValue (before ++ ch :: rest) inQuotes escaped
        (byteLength before + ch.utf8Size) rest).isSome := by
      intro inQuotes escaped
      have hRest := ih inQuotes escaped (before ++ [ch])
      have hValue : before ++ [ch] ++ rest = before ++ ch :: rest := by simp
      have hIndex : byteLength (before ++ [ch]) = byteLength before + ch.utf8Size := by
        rw [byteLength_append, byteLength_cons, byteLength_nil, Nat.add_zero]
      rwa [hValue, hIndex] at hRest
    rw [scanValue]
    split
    · exact hNext _ _
    split
    · exact hNext _ _
    split
    · exact hNext _ _
    split
    · rw [sliceTo_append, Option.bind_eq_bind, Option.bind_some]
      split
      · rfl
      · exact hNext _ _
    · exact hNext _ _

theorem normalizeConfigValue_isSome (value : List Char) : (normalizeConfigValue value).isSome :=
  scanValue_isSome false false [] (trimChars value)

/-- A name with a quoted part behind it. -/
def Quoted (name header : List Char) : Prop :=
  ∃ start subsection, header = start ++ subsection ++ ['"'] ∧
    eqIgnoreAsciiCase start (name ++ [' ', '"'])

/-- The offsets at which a header is cut are between characters: that behind `branch "` and
`remote "`, and, for a header that is of neither, that behind `includeIf "`. -/
structure Cuttable (header : List Char) : Prop where
  short : 8 < byteLength header → IsBoundary header 8
  long : 11 < byteLength header → IsBoundary header 11 ∨ Quoted "branch".toList header ∨
    Quoted "remote".toList header

theorem quotedConfigSubsection_isSome_iff (header name : List Char) :
  (quotedConfigSubsection header name).isSome ↔
    (byteLength name + 2 < byteLength header → IsBoundary header (byteLength name + 2)) := by
  unfold quotedConfigSubsection
  dsimp only
  split
  next hShort => simp [Nat.not_lt_of_le hShort]
  next hLong =>
    rw [← sliceTo_isSome_iff]
    have hLess : byteLength name + 2 < byteLength header := Nat.lt_of_not_le hLong
    constructor
    · intro hSome _
      obtain ⟨result, hResult⟩ := Option.isSome_iff_exists.1 hSome
      obtain ⟨start, hStart, -⟩ := Option.bind_eq_some_iff.1 hResult
      rw [hStart]
      rfl
    · intro hSlice
      have hBoundary := sliceTo_isSome_iff.1 (hSlice hLess)
      obtain ⟨start, hStart⟩ := Option.isSome_iff_exists.1 (hSlice hLess)
      obtain ⟨rest, hRest⟩ := Option.isSome_iff_exists.1 (sliceFrom_isSome_iff.2 hBoundary)
      rw [hStart, Option.bind_eq_bind, Option.bind_some]
      split
      · rfl
      · rw [hRest]
        rfl

theorem utf8Size_toLower (ch : Char) : ch.toLower.utf8Size = ch.utf8Size := by
  have hOne : ∀ ch : Char, ch.val ≤ 0x7f → ch.utf8Size = 1 := fun ch hAscii => if_pos hAscii
  unfold Char.toLower
  split
  next hUpper =>
    obtain ⟨hLow, hHigh⟩ := hUpper
    have hLow' : 65 ≤ ch.val.toNat := hLow
    have hHigh' : ch.val.toNat ≤ 90 := hHigh
    rw [hOne ch, hOne]
    · rw [UInt32.le_iff_toNat_le]
      rw [UInt32.toNat_add]
      show (ch.val.toNat + 32) % 2 ^ 32 ≤ 127
      omega
    · rw [UInt32.le_iff_toNat_le]
      show ch.val.toNat ≤ 127
      omega
  · rfl

theorem byteLength_of_eqIgnoreAsciiCase {first second : List Char}
  (hSame : eqIgnoreAsciiCase first second) : byteLength first = byteLength second := by
  have hLower : ∀ text, byteLength (toAsciiLowercase text) = byteLength text := by
    intro text
    induction text with
    | nil => rfl
    | cons ch text ih =>
      rw [toAsciiLowercase, List.map_cons, byteLength_cons, byteLength_cons, utf8Size_toLower]
      exact congrArg _ ih
  rw [← hLower first, ← hLower second, beq_iff_eq.1 hSame]

theorem stripSuffixList_quote {text : List Char} :
  (stripSuffixList ['"'] text).isSome ↔ ∃ before, text = before ++ ['"'] := by
  unfold stripSuffixList
  split
  next hSuffix =>
    obtain ⟨before, hText⟩ := hSuffix
    exact iff_of_true rfl ⟨before, hText.symm⟩
  next hNot =>
    refine iff_of_false Bool.false_ne_true ?_
    rintro ⟨before, rfl⟩
    exact hNot (List.suffix_append _ _)

/-- Once a header can be cut behind the name, it has a subsection if it is a quoted one. -/
theorem exists_subsection_iff {header name : List Char} {result : Option (List Char)}
  (hResult : quotedConfigSubsection header name = some result) :
  result.isSome ↔ Quoted name header := by
  have hQuoted : Quoted name header → ∃ start subsection,
      header = start ++ (subsection ++ ['"']) ∧ byteLength start = byteLength name + 2 ∧
        eqIgnoreAsciiCase start (name ++ [' ', '"']) := by
    rintro ⟨start, subsection, rfl, hStart⟩
    refine ⟨start, subsection, List.append_assoc _ _ _, ?_, hStart⟩
    rw [byteLength_of_eqIgnoreAsciiCase hStart, byteLength_append]
    rfl
  unfold quotedConfigSubsection at hResult
  dsimp only at hResult
  split at hResult
  next hShort =>
    cases hResult
    refine iff_of_false Bool.false_ne_true fun hIs => ?_
    obtain ⟨start, subsection, rfl, hLength, -⟩ := hQuoted hIs
    rw [byteLength_append, byteLength_append, hLength] at hShort
    have hQuote : byteLength ['"'] = 1 := rfl
    omega
  next hLong =>
    obtain ⟨start, hStart, hRest⟩ := Option.bind_eq_some_iff.1 hResult
    obtain ⟨⟨start', rest⟩, hSplit, rfl⟩ := Option.map_eq_some_iff.1 hStart
    obtain ⟨rfl, hLength⟩ := eq_append_of_splitAt hSplit
    -- The part in front is the only one of its length.
    have hUnique : Quoted name (start' ++ rest) ↔
        eqIgnoreAsciiCase start' (name ++ [' ', '"']) ∧ ∃ before, rest = before ++ ['"'] := by
      constructor
      · intro hIs
        obtain ⟨start, subsection, hEq, hSame, hName⟩ := hQuoted hIs
        have hStarts : start' = start := by
          refine eq_of_byteLength_eq (List.prefix_append start' rest) ?_ (hLength.trans hSame.symm)
          rw [hEq]
          exact List.prefix_append _ _
        subst hStarts
        exact ⟨hName, subsection, List.append_cancel_left hEq⟩
      · rintro ⟨hName, before, rfl⟩
        exact ⟨start', before, (List.append_assoc _ _ _).symm, hName⟩
    rw [hUnique]
    split at hRest
    next hOther =>
      cases hRest
      refine iff_of_false Bool.false_ne_true fun hIs => ?_
      rw [hIs.1] at hOther
      cases hOther
    next hSame =>
      rw [← hLength, sliceFrom_append] at hRest
      cases hRest
      rw [stripSuffixList_quote]
      have hName : eqIgnoreAsciiCase start' (name ++ [' ', '"']) = true := by
        simpa using hSame
      exact ⟨fun hIs => ⟨hName, hIs⟩, fun hIs => hIs.2⟩

variable {fs : ConfigFiles}

theorem parseConfigSection_isSome_iff (header branch : List Char) (info : GitWorktreeInfo)
  (configPath : Path) (config : BranchConfig) :
  (fs.parseConfigSection header branch info configPath config).isSome ↔ Cuttable header := by
  have hBranch := quotedConfigSubsection_isSome_iff header "branch".toList
  have hRemote := quotedConfigSubsection_isSome_iff header "remote".toList
  have hInclude := quotedConfigSubsection_isSome_iff header "includeIf".toList
  have hSix : byteLength "branch".toList + 2 = 8 := rfl
  have hSix' : byteLength "remote".toList + 2 = 8 := rfl
  have hNine : byteLength "includeIf".toList + 2 = 11 := rfl
  rw [hSix] at hBranch
  rw [hSix'] at hRemote
  rw [hNine] at hInclude
  unfold ConfigFiles.parseConfigSection
  by_cases hShort : 8 < byteLength header → IsBoundary header 8
  case neg =>
    have hNone : quotedConfigSubsection header "branch".toList = none :=
      Option.not_isSome_iff_eq_none.1 fun hSome => hShort (hBranch.1 hSome)
    rw [hNone]
    exact iff_of_false Bool.false_ne_true fun hCuttable => hShort hCuttable.short
  case pos =>
    obtain ⟨branchName, hBranchName⟩ := Option.isSome_iff_exists.1 (hBranch.2 hShort)
    obtain ⟨remoteName, hRemoteName⟩ := Option.isSome_iff_exists.1 (hRemote.2 hShort)
    have hIsBranch := exists_subsection_iff hBranchName
    have hIsRemote := exists_subsection_iff hRemoteName
    rw [hBranchName, Option.bind_eq_bind, Option.bind_some]
    cases branchName with
    | some name => exact iff_of_true rfl ⟨hShort, fun _ => Or.inr (Or.inl (hIsBranch.1 rfl))⟩
    | none =>
      rw [hRemoteName, Option.bind_some]
      cases remoteName with
      | some name => exact iff_of_true rfl ⟨hShort, fun _ => Or.inr (Or.inr (hIsRemote.1 rfl))⟩
      | none =>
        have hNeither : Cuttable header ↔ (11 < byteLength header → IsBoundary header 11) := by
          refine ⟨fun hCuttable hLong => ?_, fun hLong => ⟨hShort, fun hLess =>
            Or.inl (hLong hLess)⟩⟩
          rcases hCuttable.long hLong with hBoundary | hName | hName
          · exact hBoundary
          · exact absurd (hIsBranch.2 hName) Bool.false_ne_true
          · exact absurd (hIsRemote.2 hName) Bool.false_ne_true
        rw [hNeither]
        dsimp only
        split
        next hIs =>
          refine iff_of_true rfl fun hLong => ?_
          have hLength := byteLength_of_eqIgnoreAsciiCase hIs
          have hSeven : byteLength "include".toList = 7 := rfl
          omega
        next =>
          rw [← hInclude]
          cases quotedConfigSubsection header "includeIf".toList with
          | none => rfl
          | some condition => cases condition <;> exact iff_of_true rfl rfl

/-- What a line has to satisfy for all its slices to be between characters. -/
def LineCuttable (rawLine : List Char) : Prop :=
  ∀ header, extractConfigSection (trimChars rawLine) = some (some header) → Cuttable header

theorem readLine_isSome_iff (branch : List Char) (info : GitWorktreeInfo) (configPath : Path)
  (config : BranchConfig) (rawLine : List Char) :
  (fs.readLine branch info configPath config rawLine).isSome ↔ LineCuttable rawLine := by
  obtain ⟨header, hHeader⟩ := Option.isSome_iff_exists.1
    (extractConfigSection_isSome (trimChars rawLine))
  unfold ConfigFiles.readLine LineCuttable
  dsimp only
  rw [hHeader, Option.bind_eq_bind, Option.bind_some]
  cases header with
  | none =>
    refine iff_of_true ?_ fun header hSome => ?_
    · dsimp only
      split <;> rfl
    · cases hSome
  | some header =>
    rw [Option.isSome_map, parseConfigSection_isSome_iff]
    constructor
    · rintro hCuttable other hOther
      cases hOther
      exact hCuttable
    · intro hAll
      exact hAll header rfl

variable {rawLine : List Char}

/-- A line `path = ...` can include the file at the target, whatever section it is in. -/
def ConfigFiles.Includes (fs : ConfigFiles) (configPath : Path) (rawLine : List Char)
  (target : Path) : Prop :=
  ∃ key value includePath, splitOnceList '=' (trimChars rawLine) = some (key, value) ∧
    ConfigFiles.isKey (trimChars key) "path".toList ∧
    normalizeConfigValue value = some includePath ∧
    target = fs.resolveIncludePath configPath includePath

theorem handled_none {S A : Type} {Reached : Path → Prop} {state : S} {result : A} :
  Handled Reached (some (state, result, none)) :=
  ⟨state, result, none, rfl, fun _ hNone => nomatch hNone⟩

/-- A line that can be cut is handled if its header, its entry or anything else is. -/
theorem handled_of_readLine {branch : List Char} {info : GitWorktreeInfo} {configPath : Path}
  {config : BranchConfig} {S A : Type} {Reached : Path → Prop}
  {next : ConfigFiles.ConfigLine → Option (S × A × Option Path)} (hLine : LineCuttable rawLine)
  (hHeader : ∀ header, Handled Reached (next (.header header)))
  (hOther : ∀ line, Handled Reached (next (.other line)))
  (hEntry : ∀ key value normalized, normalizeConfigValue value = some normalized →
    (ConfigFiles.isKey key "path".toList →
      fs.Includes configPath rawLine (fs.resolveIncludePath configPath normalized)) →
    Handled Reached (next (.entry key value))) :
  Handled Reached ((fs.readLine branch info configPath config rawLine).bind next) := by
  obtain ⟨line, hRead⟩ := Option.isSome_iff_exists.1
    ((readLine_isSome_iff branch info configPath config rawLine).2 hLine)
  rw [hRead, Option.bind_some]
  cases line with
  | header header => exact hHeader header
  | other line => exact hOther line
  | entry key value =>
    obtain ⟨normalized, hValue⟩ := Option.isSome_iff_exists.1 (normalizeConfigValue_isSome value)
    refine hEntry key value normalized hValue fun hKey => ?_
    obtain ⟨header, -, hRead⟩ := Option.bind_eq_some_iff.1 hRead
    cases header with
    | some header =>
      obtain ⟨_, -, hSame⟩ := Option.map_eq_some_iff.1 hRead
      cases hSame
    | none =>
      dsimp only at hRead
      split at hRead
      · cases hRead
      next rawKey _ hSplit =>
        cases hRead
        exact ⟨rawKey, value, normalized, hSplit, hKey, hValue, rfl⟩

theorem none_of_readLine {branch : List Char} {info : GitWorktreeInfo} {configPath : Path}
  {config : BranchConfig} {Result : Type} {next : ConfigFiles.ConfigLine → Option Result}
  (hLine : ¬ LineCuttable rawLine) :
  (fs.readLine branch info configPath config rawLine).bind next = none := by
  have hRead : fs.readLine branch info configPath config rawLine = none :=
    Option.not_isSome_iff_eq_none.1 fun hSome =>
      hLine ((readLine_isSome_iff branch info configPath config rawLine).1 hSome)
  rw [hRead, Option.bind_none]

theorem collectRemoteUrls_step (info : GitWorktreeInfo) (branch : List Char)
  (hLine : LineCuttable rawLine) (stack : List Path) (path : Path)
  (entry : List (List Char × List Char)) (header : ConfigSection)
  (remoteUrls : List (List Char × List Char)) :
  Handled (fs.Includes path rawLine)
    ((fs.collectRemoteUrls info branch).step stack path entry header remoteUrls rawLine) := by
  refine handled_of_readLine hLine (fun _ => handled_none) (fun _ => handled_none)
    fun key value normalized hValue hIncludes => ?_
  dsimp only
  rw [hValue, Option.bind_eq_bind, Option.bind_some]
  split
  · split <;> exact handled_none
  case h_2 | h_3 =>
    split
    next hKey => exact ⟨_, _, _, rfl, by rintro _ ⟨⟩; exact hIncludes hKey⟩
    next => exact handled_none
  · exact handled_none

theorem includedConfigDefinesRemoteUrl_step (branch : List Char) (info : GitWorktreeInfo)
  (config : BranchConfig) (hLine : LineCuttable rawLine) (stack : List Path) (path : Path)
  (entry : Bool) (header : ConfigSection) (definesRemoteUrl : Bool) :
  Handled (fs.Includes path rawLine)
    ((fs.includedConfigDefinesRemoteUrl branch info config).step stack path entry header
      definesRemoteUrl rawLine) := by
  refine handled_of_readLine hLine (fun _ => handled_none) (fun _ => handled_none)
    fun key value normalized hValue hIncludes => ?_
  dsimp only
  rw [hValue]
  split
  · split <;> exact handled_none
  case h_2 | h_3 | h_4 =>
    rw [Option.bind_eq_bind, Option.bind_some]
    split
    next hKey => exact ⟨_, _, _, rfl, by rintro _ ⟨⟩; exact hIncludes hKey⟩
    next => exact handled_none
  · exact handled_none

namespace ConfigFiles

/-- The headers of all files can be cut. -/
def AllCuttable (fs : ConfigFiles) : Prop :=
  ∀ path text, fs.contents.lookup path = some text → ∀ line ∈ TextLines.lines text,
    ∀ header, extractConfigSection (trimChars line) = some (some header) → Cuttable header

/-- Every branch can be read in every repository, and no reading keeps a refresh in flight. -/
structure Readable (fs : ConfigFiles) : Prop where
  reads : ∀ info branch userConfigPaths,
    (fs.readBranchConfigWithUserPaths info branch userConfigPaths).isSome
  reports : ∀ (app : RefreshApp) readings output now,
    (app.afterWorker (fs.workerReport readings output) now).gitRefreshInFlight = false

/-- The files that the walks through some files can come to. -/
inductive Reached (fs : ConfigFiles) (configPaths : List Path) : Path → Prop where
  | configured {path : Path} (hPath : path ∈ configPaths) :
      Reached fs configPaths (fs.canonicalize path)
  | included {path target : Path} {text line : List Char} (hPath : Reached fs configPaths path)
      (hText : fs.contents.lookup path = some text) (hLine : line ∈ TextLines.lines text)
      (hTarget : fs.Includes path line target) : Reached fs configPaths (fs.canonicalize target)

/-- The headers of the files that the walks through some files can come to can be cut. -/
def CuttableFrom (fs : ConfigFiles) (configPaths : List Path) : Prop :=
  ∀ path text, fs.Reached configPaths path → fs.contents.lookup path = some text →
    ∀ line ∈ TextLines.lines text, LineCuttable line

/-- The files that a reading begins with. -/
def configPaths (fs : ConfigFiles) (info : GitWorktreeInfo) (userConfigPaths : List Path) :
  List Path :=
  userConfigPaths ++ [inDirectory info.gitCommonDir "config"] ++
    if fs.worktreeConfigEnabled (inDirectory info.gitCommonDir "config") info = some true then
      [inDirectory info.gitDir "config.worktree"]
    else []

variable {configPaths : List Path}

/-- A walk that handles each line that can be cut has a result if all headers that it can come to
can be cut. -/
theorem walkFile_of_cuttable {S A : Type} {w : IncludeWalk Path (List Char) (List Char) S A}
  (hAll : fs.CuttableFrom configPaths) (hFiles : w.files = fs.contents)
  (hLines : w.lines = TextLines.lines) (hCanonical : w.canonical = fs.canonicalize)
  (hStep : ∀ path rawLine, LineCuttable rawLine →
    (∀ target, fs.Includes path rawLine target →
      fs.Reached configPaths (fs.canonicalize target)) →
    ∀ stack entry state result,
      Handled (fs.Includes path rawLine) (w.step stack path entry state result rawLine))
  {path : Path} (hPath : fs.Reached configPaths (fs.canonicalize path)) (stack : List Path)
  (result : A) : (w.walkFile stack path result).isSome := by
  refine @walkFile_isSome _ _ _ _ _ _ w (fs.Reached configPaths) ?_ stack path result
    (by rwa [hCanonical])
  intro path text hPath hText line hMem stack entry state result
  rw [hFiles] at hText
  rw [hLines] at hMem
  have hTargets : ∀ target, fs.Includes path line target →
      fs.Reached configPaths (fs.canonicalize target) :=
    fun target hTarget => .included hPath hText hMem hTarget
  rw [hCanonical]
  exact (hStep path line (hAll path text hPath hText line hMem) hTargets _ _ _ _).mono hTargets

variable {rawLine : List Char}

theorem mergeGitConfig_step (hAll : fs.CuttableFrom configPaths) (branch : List Char)
  (info : GitWorktreeInfo) (collectHasconfigUrls : Bool) (path : Path)
  (hLine : LineCuttable rawLine) (hTargets : ∀ target, fs.Includes path rawLine target →
    fs.Reached configPaths (fs.canonicalize target)) (stack : List Path)
  (entry : BranchConfig) (header : ConfigSection) (config : BranchConfig) :
  Handled (fs.Includes path rawLine)
    ((fs.mergeGitConfig branch info collectHasconfigUrls).step stack path entry header config
      rawLine) := by
  refine handled_of_readLine hLine (fun _ => handled_none) (fun _ => handled_none)
    fun key value normalized hValue hIncludes => ?_
  dsimp only
  rw [hValue, Option.bind_eq_bind, Option.bind_some]
  split
  · split
    · exact handled_none
    · split <;> exact handled_none
  · split
    · exact handled_none
    · split <;> exact handled_none
  case h_3 | h_4 =>
    split
    next hKey => exact ⟨_, _, _, rfl, by rintro _ ⟨⟩; exact hIncludes hKey⟩
    next => exact handled_none
  · split
    next hKey =>
      have hDefines := walkFile_of_cuttable
        (w := fs.includedConfigDefinesRemoteUrl branch info config) hAll rfl rfl rfl
        (fun path _ hLine _ stack =>
          includedConfigDefinesRemoteUrl_step branch info config hLine stack path)
        (hTargets _ (hIncludes hKey)) stack false
      obtain ⟨defines, hWalk⟩ := Option.isSome_iff_exists.1 hDefines
      rw [hWalk, Option.bind_eq_bind, Option.bind_some]
      cases defines with
      | true => exact handled_none
      | false => exact ⟨_, _, _, rfl, by rintro _ ⟨⟩; exact hIncludes hKey⟩
    next => exact handled_none
  · exact handled_none

theorem collectRemoteUrls_isSome (hAll : fs.CuttableFrom configPaths) {path : Path}
  (hPath : path ∈ configPaths) (info : GitWorktreeInfo) (branch : List Char)
  (remoteUrls : List (List Char × List Char)) :
  ((fs.collectRemoteUrls info branch).walkFile [] path remoteUrls).isSome :=
  walkFile_of_cuttable hAll rfl rfl rfl
    (fun path _ hLine _ stack => collectRemoteUrls_step info branch hLine stack path)
    (.configured hPath) [] remoteUrls

theorem mergeGitConfig_isSome (hAll : fs.CuttableFrom configPaths) {path : Path}
  (hPath : path ∈ configPaths) (branch : List Char) (info : GitWorktreeInfo)
  (collectHasconfigUrls : Bool) (config : BranchConfig) :
  ((fs.mergeGitConfig branch info collectHasconfigUrls).walkFile [] path config).isSome :=
  walkFile_of_cuttable hAll rfl rfl rfl
    (fun path _ => mergeGitConfig_step hAll branch info collectHasconfigUrls path)
    (.configured hPath) [] config

theorem worktreeConfigStep_isSome (info : GitWorktreeInfo) (configPath : Path)
  (hLine : LineCuttable rawLine) (before : ConfigSection × Bool) :
  (fs.worktreeConfigStep info configPath before rawLine).isSome := by
  obtain ⟨name, hName⟩ := Option.isSome_iff_exists.1
    (extractConfigSection_isSome (trimChars rawLine))
  unfold worktreeConfigStep
  dsimp only
  rw [hName, Option.bind_eq_bind, Option.bind_some]
  cases name with
  | some name =>
    dsimp only
    split
    · rfl
    · rw [Option.isSome_map, parseConfigSection_isSome_iff]
      exact hLine name hName
  | none =>
    dsimp only
    split
    next key value _ =>
      obtain ⟨normalized, hValue⟩ :=
        Option.isSome_iff_exists.1 (normalizeConfigValue_isSome value)
      rw [hValue, Option.bind_eq_bind, Option.bind_some]
      split <;> rfl
    · rfl

theorem readBranchConfig_isSome (info : GitWorktreeInfo) (branch : List Char)
  (userConfigPaths : List Path) (hAll : fs.CuttableFrom (fs.configPaths info userConfigPaths)) :
  (fs.readBranchConfigWithUserPaths info branch userConfigPaths).isSome := by
  have hPaths : ∀ path ∈ userConfigPaths ++ [inDirectory info.gitCommonDir "config"],
      path ∈ fs.configPaths info userConfigPaths :=
    fun path hMem => List.mem_append_left _ hMem
  have hEnabled : (fs.worktreeConfigEnabled (inDirectory info.gitCommonDir "config") info).isSome := by
    unfold worktreeConfigEnabled
    split
    · rfl
    next text hRead =>
      rw [Option.isSome_map]
      refine foldlM_isSome (fun line hMem => worktreeConfigStep_isSome info _
        (hAll _ text (.configured (hPaths _ ?_)) hRead line hMem)) _
      exact List.mem_append_right _ List.mem_cons_self
  obtain ⟨enabled, hEnabled⟩ := Option.isSome_iff_exists.1 hEnabled
  obtain ⟨remoteUrls, hUrls⟩ := Option.isSome_iff_exists.1
    (foldlM_isSome (fun path hMem remoteUrls =>
      collectRemoteUrls_isSome hAll (hPaths path hMem) info branch remoteUrls) [])
  obtain ⟨config, hMerged⟩ := Option.isSome_iff_exists.1
    (foldlM_isSome (fun path hMem config =>
      mergeGitConfig_isSome hAll (hPaths path hMem) branch info true config)
      (noBranchConfig remoteUrls))
  unfold readBranchConfigWithUserPaths
  rw [hEnabled, Option.bind_eq_bind, Option.bind_some]
  dsimp only
  rw [hUrls, Option.bind_eq_bind, Option.bind_some, hMerged, Option.bind_eq_bind, Option.bind_some]
  cases enabled with
  | false => rfl
  | true =>
    have hWorktree : inDirectory info.gitDir "config.worktree" ∈
        fs.configPaths info userConfigPaths := by
      unfold configPaths
      rw [hEnabled, if_pos rfl]
      exact List.mem_append_right _ List.mem_cons_self
    obtain ⟨last, hLast⟩ := Option.isSome_iff_exists.1
      (mergeGitConfig_isSome hAll hWorktree branch info false config)
    rw [if_pos rfl, hLast]
    rfl

theorem foldlM_eq_none {α β : Type} {step : β → α → Option β} {items : List α} {item : α}
  (hMem : item ∈ items) (hNone : ∀ result, step result item = none) (result : β) :
  items.foldlM step result = none := by
  induction items generalizing result with
  | nil => cases hMem
  | cons first items ih =>
    rw [List.foldlM_cons]
    obtain rfl | hMem := List.mem_cons.1 hMem
    · rw [hNone]
      rfl
    · cases step result first with
      | none => rfl
      | some next => exact ih hMem next

/-- The headers of a file that a reading begins with can be cut if it has a result. -/
theorem cuttable_of_read {info : GitWorktreeInfo} {branch : List Char}
  {userConfigPaths : List Path}
  (hRead : (fs.readBranchConfigWithUserPaths info branch userConfigPaths).isSome) {path : Path}
  (hPath : path ∈ userConfigPaths ++ [inDirectory info.gitCommonDir "config"]) {text : List Char}
  (hText : fs.readToString path = some text) : ∀ line ∈ TextLines.lines text, LineCuttable line := by
  intro line hMem
  by_contra hLine
  obtain ⟨result, hResult⟩ := Option.isSome_iff_exists.1 hRead
  obtain ⟨enabled, -, hRest⟩ := Option.bind_eq_some_iff.1 hResult
  obtain ⟨remoteUrls, hUrls, -⟩ := Option.bind_eq_some_iff.1 hRest
  have hNone : ∀ remoteUrls,
      (fs.collectRemoteUrls info branch).walkFile [] path remoteUrls = none := by
    intro remoteUrls
    have hStep : ∀ path stack entry header remoteUrls,
        (fs.collectRemoteUrls info branch).step stack path entry header remoteUrls line = none :=
      fun _ _ _ _ _ => none_of_readLine hLine
    exact walkFile_none (fun _ => rfl) hText hMem hStep
  rw [foldlM_eq_none hPath hNone] at hUrls
  cases hUrls

/-- Reading always ends, and it takes no slice inside a character, exactly when all headers can be
cut at the offsets they are cut at. A single reading does if that is so in the files that it can
come to, and only if it is so in those that it begins with. -/
theorem readable_iff (fs : ConfigFiles) : (fs.Readable ↔ fs.AllCuttable) ∧
  ∀ info branch userConfigPaths,
    (fs.CuttableFrom (fs.configPaths info userConfigPaths) →
      (fs.readBranchConfigWithUserPaths info branch userConfigPaths).isSome) ∧
    ((fs.readBranchConfigWithUserPaths info branch userConfigPaths).isSome →
      ∀ path ∈ userConfigPaths ++ [inDirectory info.gitCommonDir "config"], ∀ text,
        fs.readToString path = some text → ∀ line ∈ TextLines.lines text, LineCuttable line) := by
  refine ⟨⟨fun hReadable path text hText => ?_, fun hAll => ?_⟩, fun info branch userConfigPaths =>
    ⟨readBranchConfig_isSome info branch userConfigPaths, fun hRead _ hPath _ hText =>
      cuttable_of_read hRead hPath hText⟩⟩
  · have hSome := hReadable.reads ⟨"", "", ""⟩ [] [path]
    refine cuttable_of_read hSome List.mem_cons_self ?_
    rwa [readToString, fs.canonical path text hText]
  · have hReads : ∀ info branch userConfigPaths,
        (fs.readBranchConfigWithUserPaths info branch userConfigPaths).isSome :=
      fun info branch userConfigPaths => readBranchConfig_isSome info branch userConfigPaths
        fun path text _ => hAll path text
    refine ⟨hReads, fun app readings output now => ?_⟩
    obtain ⟨results, hResults⟩ := mapM_isSome (fun reading (_ : reading ∈ readings) =>
      hReads reading.1 reading.2 fs.gitUserConfigPaths)
    have hReport : fs.workerReport readings output = some output := by
      unfold workerReport readBranchConfig
      rw [hResults, Option.map_some]
    rw [hReport]
    exact (app.completed_kept output.cacheUpdates now).1

/-- A single file, with a header of letters of two bytes behind one of one byte. -/
def accentedHeader : ConfigFiles where
  contents := FinMap.ofPairs [("/r/.git/config", "[aéééé]".toList)]
  canonicalize path := path
  canonical _ _ _ := rfl
  xdgConfigHome := none
  home := none

/-- The name is cut inside its fourth accented letter, and the refresh stays in flight. -/
theorem not_readable_accentedHeader :
  accentedHeader.readBranchConfig ⟨"/r", "/r/.git", "/r/.git"⟩ "main".toList = none ∧
    ∀ (app : RefreshApp) output now,
      app.afterWorker (accentedHeader.workerReport
        [(⟨"/r", "/r/.git", "/r/.git"⟩, "main".toList)] output) now = app := by
  have hNone : accentedHeader.readBranchConfig ⟨"/r", "/r/.git", "/r/.git"⟩ "main".toList =
      none := by
    have hEnabled : accentedHeader.worktreeConfigEnabled (inDirectory "/r/.git" "config")
        ⟨"/r", "/r/.git", "/r/.git"⟩ = none := by decide
    unfold readBranchConfig readBranchConfigWithUserPaths
    rw [hEnabled]
    rfl
  refine ⟨hNone, fun app output now => ?_⟩
  have hReport : accentedHeader.workerReport
      [(⟨"/r", "/r/.git", "/r/.git"⟩, "main".toList)] output = none := by
    rw [workerReport, List.mapM_cons, hNone]
    rfl
  rw [hReport]
  rfl

end ConfigFiles

end GitRefresh
