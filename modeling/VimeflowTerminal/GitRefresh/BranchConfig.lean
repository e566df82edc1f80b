import VimeflowTerminal.Data.IncludeWalk
import VimeflowTerminal.Data.TextLines
import VimeflowTerminal.Data.Utf8
import VimeflowTerminal.GitRefresh.Scheduling

/-! What the worker reads from the configuration files of git. A slice of a text that is not between
characters has no result, and neither has anything that needs it. -/

namespace GitRefresh

open Detect Text TextSlice

structure GitWorktreeInfo where
  repoRoot : Path
  gitDir : Path
  gitCommonDir : Path
  deriving DecidableEq

structure BranchConfig where
  remote : List Char
  mergeRef : List Char
  fetchRefspecs : List (List Char × List Char)
  remoteUrls : List (List Char × List Char)
  deriving DecidableEq

inductive IncludeIfMode where
  | disabled
  | enabled
  | hasConfig
  deriving DecidableEq

inductive ConfigSection where
  | branch
  | extensions
  | include
  | includeIf (mode : IncludeIfMode)
  | remote (name : List Char)
  | other
  deriving DecidableEq

def toAsciiLowercase (text : List Char) : List Char := text.map Char.toLower

def eqIgnoreAsciiCase (first second : List Char) : Bool :=
  toAsciiLowercase first == toAsciiLowercase second

/-- The name between the brackets of a header, from a character of the line on. -/
def scanHeader (line : List Char) (inQuotes escaped : Bool) (index : Nat) :
  List Char → Option (Option (List Char))
  | [] => some none
  | ch :: rest =>
    let next := index + ch.utf8Size
    if escaped then scanHeader line inQuotes false next rest
    else if ch = '\\' ∧ inQuotes then scanHeader line inQuotes true next rest
    else if ch = '"' then scanHeader line (!inQuotes) false next rest
    else if ch = ']' ∧ !inQuotes then do
      let after ← sliceFrom line (index + 1)
      let after := trimChars after
      if after.isEmpty || after.head? = some '#' || after.head? = some ';' then
        (slice line 1 index).map some
      else some none
    else scanHeader line inQuotes false next rest

def extractConfigSection (line : List Char) : Option (Option (List Char)) :=
  match line with
  | '[' :: rest => scanHeader line false false 1 rest
  | _ => some none

def quotedConfigSubsection (header name : List Char) : Option (Option (List Char)) :=
  let prefixLen := byteLength name + 2
  if byteLength header ≤ prefixLen then some none
  else do
    let start ← sliceTo header prefixLen
    if !eqIgnoreAsciiCase start (name ++ [' ', '"']) then some none
    else do
      let rest ← sliceFrom header prefixLen
      some (stripSuffixList ['"'] rest)

def unquoteConfigValue (value : List Char) : List Char :=
  ((stripPrefixList ['"'] value).bind (stripSuffixList ['"'])).getD value

/-- The value up to a comment, from one of its characters on. -/
def scanValue (value : List Char) (inQuotes escaped : Bool) (index : Nat) :
  List Char → Option (List Char)
  | [] => some (unquoteConfigValue value)
  | ch :: rest =>
    let next := index + ch.utf8Size
    if escaped then scanValue value inQuotes false next rest
    else if ch = '\\' ∧ inQuotes then scanValue value inQuotes true next rest
    else if ch = '"' then scanValue value (!inQuotes) false next rest
    else if (ch = '#' ∨ ch = ';') ∧ !inQuotes then do
      let before ← sliceTo value index
      if before.getLast?.any isWhitespace then some (unquoteConfigValue (trimChars before))
      else scanValue value inQuotes false next rest
    else scanValue value inQuotes false next rest

def normalizeConfigValue (value : List Char) : Option (List Char) :=
  let value := trimChars value
  scanValue value false false 0 value

def wildcardMatchBytes : List UInt8 → List UInt8 → Bool
  | [], value => value.isEmpty
  | expected :: rest, value =>
    if expected = '*'.toNat.toUInt8 then
      wildcardMatchBytes rest value ||
        match value with
        | [] => false
        | _ :: valueRest => wildcardMatchBytes (expected :: rest) valueRest
    else
      match value with
      | [] => false
      | actual :: valueRest => actual == expected && wildcardMatchBytes rest valueRest
termination_by pattern value => pattern.length + value.length

def wildcardMatch (pattern value : List Char) (caseInsensitive : Bool) : Bool :=
  if caseInsensitive then
    wildcardMatchBytes (Utf8.encode (toAsciiLowercase pattern))
      (Utf8.encode (toAsciiLowercase value))
  else wildcardMatchBytes (Utf8.encode pattern) (Utf8.encode value)

def endsWithSlash (text : List Char) : Bool := text.getLast? = some '/'

def normalizeBranchIncludePattern (pattern : List Char) : List Char :=
  if endsWithSlash pattern then pattern ++ ['*', '*'] else pattern

def isAbsolute (path : List Char) : Bool := path.head? = some '/'

/-- `PathBuf::join` -/
def joinPath (path rest : List Char) : List Char :=
  if isAbsolute rest then rest
  else if path.isEmpty || endsWithSlash path then path ++ rest
  else path ++ '/' :: rest

/-- `Path::parent`, of a path that does not end with a separator. -/
def parentPath (path : List Char) : Option (List Char) :=
  if path.isEmpty || path = ['/'] then none
  else
    match rsplitOnceList ['/'] path with
    | none => some []
    | some (before, _) => some (if before.isEmpty then ['/'] else before)

/-- The readable files with their texts under their canonical paths, and the home directories. -/
structure ConfigFiles where
  contents : FinMap Path (List Char)
  /-- `canonicalize_best_effort_path` -/
  canonicalize : Path → Path
  canonical : ∀ path text, contents.lookup path = some text → canonicalize path = path
  xdgConfigHome : Option Path
  home : Option Path

namespace ConfigFiles

variable (fs : ConfigFiles)

def readToString (path : Path) : Option (List Char) := fs.contents.lookup (fs.canonicalize path)

def joinHome (rest : List Char) : List Char := joinPath ((fs.home.map String.toList).getD []) rest

def resolveIncludePath (configPath : Path) (includePath : List Char) : Path :=
  let path := ((stripPrefixList ['~', '/'] includePath).map fs.joinHome).getD includePath
  String.ofList (if isAbsolute path then path
    else joinPath ((parentPath configPath.toList).getD ['.']) path)

def normalizeGitdirIncludePattern (pattern : List Char) (configPath : Path) : List Char :=
  let pattern :=
    match stripPrefixList ['~', '/'] pattern with
    | some rest => fs.joinHome rest
    | none =>
      match stripPrefixList ['.', '/'] pattern with
      | some rest => joinPath ((parentPath configPath.toList).getD ['.']) rest
      | none => if isAbsolute pattern then pattern else ['*', '*', '/'] ++ pattern
  if endsWithSlash pattern then pattern ++ ['*', '*'] else pattern

def gitdirMode (pattern : List Char) (caseInsensitive : Bool) (info : GitWorktreeInfo)
  (configPath : Path) : IncludeIfMode :=
  let pattern := fs.normalizeGitdirIncludePattern pattern configPath
  let candidates := [info.gitDir.toList, info.gitCommonDir.toList,
    joinPath info.repoRoot.toList ".git".toList]
  if candidates.any fun candidate => wildcardMatch pattern candidate caseInsensitive then .enabled
  else .disabled

def includeIfMode (condition : List Char) (info : GitWorktreeInfo) (configPath : Path)
  (branch : List Char) (config : BranchConfig) : IncludeIfMode :=
  match stripPrefixList "gitdir/i:".toList condition with
  | some pattern => fs.gitdirMode pattern true info configPath
  | none =>
    match stripPrefixList "gitdir:".toList condition with
    | some pattern => fs.gitdirMode pattern false info configPath
    | none =>
      match stripPrefixList "onbranch:".toList condition with
      | some pattern =>
        if wildcardMatch (normalizeBranchIncludePattern pattern) branch false then .enabled
        else .disabled
      | none =>
        match stripPrefixList "hasconfig:remote.*.url:".toList condition with
        | some pattern =>
          if config.remoteUrls.any fun url => wildcardMatch pattern url.2 false then
            .hasConfig
          else .disabled
        | none => .disabled

def parseConfigSection (header branch : List Char) (info : GitWorktreeInfo) (configPath : Path)
  (config : BranchConfig) : Option ConfigSection := do
  match ← quotedConfigSubsection header "branch".toList with
  | some name => some (if name = branch then .branch else .other)
  | none =>
    match ← quotedConfigSubsection header "remote".toList with
    | some name => some (.remote name)
    | none =>
      if eqIgnoreAsciiCase header "include".toList then some .include
      else
        match ← quotedConfigSubsection header "includeIf".toList with
        | some condition =>
          some (.includeIf (fs.includeIfMode condition info configPath branch config))
        | none => some .other

/-- What a line of a file is. -/
inductive ConfigLine where
  | header (header : ConfigSection)
  | entry (key value : List Char)
  | other (line : List Char)

/-- The header of a section, an entry or anything else. -/
def readLine (branch : List Char) (info : GitWorktreeInfo) (configPath : Path)
  (config : BranchConfig) (rawLine : List Char) : Option ConfigLine := do
  let line := trimChars rawLine
  match ← extractConfigSection line with
  | some header =>
    (fs.parseConfigSection header branch info configPath config).map .header
  | none =>
    match splitOnceList '=' line with
    | none => some (.other line)
    | some (key, value) => some (.entry (trimChars key) value)

def noBranchConfig (remoteUrls : List (List Char × List Char)) : BranchConfig :=
  ⟨[], [], [], remoteUrls⟩

def isKey (key name : List Char) : Bool := eqIgnoreAsciiCase key name

/-- The law behind the membership tests below. -/
local instance lawfulTexts : LawfulBEq (List Char) := inferInstance

/-- A line of the common configuration, for the section and whether worktrees have their own. -/
def worktreeConfigStep (info : GitWorktreeInfo) (configPath : Path)
  (before : ConfigSection × Bool) (rawLine : List Char) : Option (ConfigSection × Bool) := do
  let (header, enabled) := before
  let line := trimChars rawLine
  match ← extractConfigSection line with
  | some name =>
    if eqIgnoreAsciiCase name "extensions".toList then some (.extensions, enabled)
    else
      (fs.parseConfigSection name [] info configPath (noBranchConfig [])).map (·, enabled)
  | none =>
    match splitOnceList '=' line with
    | some (key, value) => do
      let value ← normalizeConfigValue value
      if header = .extensions ∧ isKey (trimChars key) "worktreeConfig".toList then
        some (header, decide (toAsciiLowercase value ∈
          ["true".toList, "1".toList, "yes".toList, "on".toList]))
      else some (header, enabled)
    | none =>
      some (header, enabled ||
        decide (header = .extensions) && eqIgnoreAsciiCase line "worktreeConfig".toList)

def worktreeConfigEnabled (path : Path) (info : GitWorktreeInfo) : Option Bool :=
  match fs.readToString path with
  | none => some false
  | some text =>
    ((TextLines.lines text).foldlM (fs.worktreeConfigStep info path) (.other, false)).map Prod.snd

/-- The walk that collects the addresses of all remotes. -/
def collectRemoteUrls (info : GitWorktreeInfo) (branch : List Char) :
  IncludeWalk Path (List Char) (List Char) ConfigSection (List (List Char × List Char)) where
  canonical := fs.canonicalize
  files := fs.contents
  lines := TextLines.lines
  start := .other
  finished _ := false
  step _ path entry header remoteUrls rawLine := do
    match ← fs.readLine branch info path (noBranchConfig entry) rawLine with
    | .header header => some (header, remoteUrls, none)
    | .other _ => some (header, remoteUrls, none)
    | .entry key value => do
      let value ← normalizeConfigValue value
      match header with
      | .remote remote =>
        if isKey key "url".toList then some (header, remoteUrls ++ [(remote, value)], none)
        else some (header, remoteUrls, none)
      | .include | .includeIf .enabled =>
        if isKey key "path".toList then
          some (header, remoteUrls, some (fs.resolveIncludePath path value))
        else some (header, remoteUrls, none)
      | _ => some (header, remoteUrls, none)

/-- The walk that looks for the address of a remote. -/
def includedConfigDefinesRemoteUrl (branch : List Char) (info : GitWorktreeInfo)
  (config : BranchConfig) : IncludeWalk Path (List Char) (List Char) ConfigSection Bool where
  canonical := fs.canonicalize
  files := fs.contents
  lines := TextLines.lines
  start := .other
  finished definesRemoteUrl := definesRemoteUrl
  step _ path _ header definesRemoteUrl rawLine := do
    match ← fs.readLine branch info path config rawLine with
    | .header header => some (header, definesRemoteUrl, none)
    | .other _ => some (header, definesRemoteUrl, none)
    | .entry key value =>
      match header with
      | .remote _ =>
        if isKey key "url".toList then some (header, true, none)
        else (normalizeConfigValue value).map fun _ => (header, definesRemoteUrl, none)
      | .include | .includeIf .enabled | .includeIf .hasConfig => do
        let value ← normalizeConfigValue value
        if isKey key "path".toList then
          some (header, definesRemoteUrl, some (fs.resolveIncludePath path value))
        else some (header, definesRemoteUrl, none)
      | _ => (normalizeConfigValue value).map fun _ => (header, definesRemoteUrl, none)

/-- The walk that merges the files into a configuration. A file that is included for an address
that is configured must not define one itself. -/
def mergeGitConfig (branch : List Char) (info : GitWorktreeInfo) (collectHasconfigUrls : Bool) :
  IncludeWalk Path (List Char) (List Char) ConfigSection BranchConfig where
  canonical := fs.canonicalize
  files := fs.contents
  lines := TextLines.lines
  start := .other
  finished _ := false
  step includeStack path _ header config rawLine := do
    match ← fs.readLine branch info path config rawLine with
    | .header header => some (header, config, none)
    | .other _ => some (header, config, none)
    | .entry key value => do
      let value ← normalizeConfigValue value
      match header with
      | .branch =>
        if isKey key "remote".toList then some (header, { config with remote := value }, none)
        else if isKey key "merge".toList then
          some (header, { config with mergeRef := value }, none)
        else some (header, config, none)
      | .remote remote =>
        if isKey key "fetch".toList then
          some (header,
            { config with fetchRefspecs := config.fetchRefspecs ++ [(remote, value)] }, none)
        else if collectHasconfigUrls && isKey key "url".toList then
          some (header, { config with remoteUrls := config.remoteUrls ++ [(remote, value)] },
            none)
        else some (header, config, none)
      | .include | .includeIf .enabled =>
        if isKey key "path".toList then
          some (header, config, some (fs.resolveIncludePath path value))
        else some (header, config, none)
      | .includeIf .hasConfig =>
        if isKey key "path".toList then do
          let includePath := fs.resolveIncludePath path value
          let definesRemoteUrl ←
            (fs.includedConfigDefinesRemoteUrl branch info config).walkFile includeStack
              includePath false
          some (header, config, if definesRemoteUrl then none else some includePath)
        else some (header, config, none)
      | _ => some (header, config, none)

def inDirectory (directory : Path) (name : String) : Path :=
  String.ofList (joinPath directory.toList name.toList)

def readBranchConfigWithUserPaths (info : GitWorktreeInfo) (branch : List Char)
  (userConfigPaths : List Path) : Option (Option BranchConfig) := do
  let worktreeConfigEnabled ←
    fs.worktreeConfigEnabled (inDirectory info.gitCommonDir "config") info
  let configPaths := userConfigPaths ++ [inDirectory info.gitCommonDir "config"]
  let remoteUrls ← configPaths.foldlM
    (fun remoteUrls path => (fs.collectRemoteUrls info branch).walkFile [] path remoteUrls) []
  let config ← configPaths.foldlM
    (fun config path => (fs.mergeGitConfig branch info true).walkFile [] path config)
    (noBranchConfig remoteUrls)
  let config ←
    if worktreeConfigEnabled then
      (fs.mergeGitConfig branch info false).walkFile [] (inDirectory info.gitDir "config.worktree")
        config
    else some config
  some (if config.remote ≠ [] ∧ config.mergeRef ≠ [] then some config else none)

def gitUserConfigPaths : List Path :=
  ((fs.xdgConfigHome.map fun directory => inDirectory directory "git/config").or
      (fs.home.map fun directory => inDirectory directory ".config/git/config")).toList ++
    (fs.home.map fun directory => inDirectory directory ".gitconfig").toList

def readBranchConfig (info : GitWorktreeInfo) (branch : List Char) : Option (Option BranchConfig) :=
  fs.readBranchConfigWithUserPaths info branch fs.gitUserConfigPaths

/-- The report of a worker that reads the configurations of some branches. A reading without a
result ends the worker. -/
def workerReport (readings : List (GitWorktreeInfo × List Char))
  (output : WorkspaceGitRefreshOutput) : Option WorkspaceGitRefreshOutput :=
  (readings.mapM fun reading => fs.readBranchConfig reading.1 reading.2).map fun _ => output

end ConfigFiles

/-- The state when the worker has ended. -/
def RefreshApp.afterWorker (app : RefreshApp) (report : Option WorkspaceGitRefreshOutput)
  (now : Nat) : RefreshApp :=
  match report with
  | none => app
  | some output => (app.handleGitStatusRefreshed output.results output.cacheUpdates now).1

end GitRefresh
