import VimeflowTerminal.Data.BijectiveNumeral
import VimeflowTerminal.Data.Numbering
import VimeflowTerminal.Data.Pieces
import VimeflowTerminal.Workspaces.Tab

/-! A workspace keeps a list of tabs, the index of the active one and the registry
of public pane numbers. Failing spawns are arguments of the operations, as in
`Tab`. -/

namespace Workspaces

open BijectiveNumeral

/-- The first number past `usize::MAX`. -/
def usizeLimit : Nat := 2 ^ 64

def publicIdAlphabet : List Char :=
  ['1', '2', '3', '4', '5', '6', '7', '8', '9', 'A', 'B', 'C', 'D', 'E', 'F', 'G', 'H', 'J', 'K',
    'M', 'N', 'P', 'Q', 'R', 'S', 'T', 'V', 'W', 'X', 'Y', 'Z', '0']

/-- The symbols of a number. Zero, which no object carries, is spelled `0`. -/
def encodePublicNumber (value : Nat) : String :=
  if value = 0 then "0" else String.ofList (encode publicIdAlphabet value)

def decodePublicNumber (text : String) : Option Nat :=
  decode publicIdAlphabet usizeLimit text.toList

def publicPaneIdForNumber (workspaceId : String) (paneNumber : Nat) : String :=
  workspaceId ++ ":p" ++ encodePublicNumber paneNumber

def publicTabIdForNumber (workspaceId : String) (tabNumber : Nat) : String :=
  workspaceId ++ ":t" ++ encodePublicNumber tabNumber

/-- The id of the workspace with the given count. -/
def publicWorkspaceId (counter : Nat) : String := "w" ++ encodePublicNumber counter

def generateWorkspaceId (ids : IdCounters) : String × IdCounters :=
  let (counter, ids) := ids.allocWorkspaceId
  (publicWorkspaceId counter, ids)

theorem nodup_publicIdAlphabet : publicIdAlphabet.Nodup := by decide

variable {value : Nat}

theorem toList_encodePublicNumber (hPos : 0 < value) :
  (encodePublicNumber value).toList = encode publicIdAlphabet value := by
  rw [encodePublicNumber, if_neg (by omega), String.toList_ofList]

theorem decode_encodePublicNumber (hPos : 0 < value) (hFits : value < usizeLimit) :
  decodePublicNumber (encodePublicNumber value) = some value := by
  rw [decodePublicNumber, toList_encodePublicNumber hPos]
  exact decode_encode nodup_publicIdAlphabet (by decide) hFits

theorem encodePublicNumber_inj {a b : Nat} (hLeft : 0 < a) (hRight : 0 < b)
  (hEq : encodePublicNumber a = encodePublicNumber b) : a = b := by
  have hLists := congrArg String.toList hEq
  rw [toList_encodePublicNumber hLeft, toList_encodePublicNumber hRight] at hLists
  exact encode_injective nodup_publicIdAlphabet (by decide) hLists

theorem publicWorkspaceId_inj {a b : Nat} (hLeft : 0 < a) (hRight : 0 < b)
  (hEq : publicWorkspaceId a = publicWorkspaceId b) : a = b := by
  refine encodePublicNumber_inj hLeft hRight ?_
  have hLists := congrArg String.toList hEq
  unfold publicWorkspaceId at hLists
  rw [String.toList_append, String.toList_append] at hLists
  exact String.toList_inj.1 (List.append_cancel_left hLists)

/-- The number a text spells, however large. -/
def spelledNumber (text : String) : Nat := numeral publicIdAlphabet text.toList

theorem decodePublicNumber_eq_some_iff {text : String} :
  decodePublicNumber text = some value ↔
    (∀ symbol ∈ text.toList, symbol ∈ publicIdAlphabet) ∧ spelledNumber text = value ∧
      value < usizeLimit :=
  decode_eq_some_iff (by decide)

theorem decodePublicNumber_eq_ite (text : String) :
  decodePublicNumber text =
    if text.toList.all (· ∈ publicIdAlphabet) ∧ spelledNumber text < usizeLimit
    then some (spelledNumber text) else none := by
  have hSymbols : text.toList.all (· ∈ publicIdAlphabet) = true ↔
      ∀ symbol ∈ text.toList, symbol ∈ publicIdAlphabet := by simp
  split
  · rename_i hFits
    exact decodePublicNumber_eq_some_iff.2 ⟨hSymbols.1 hFits.1, rfl, hFits.2⟩
  rename_i hNot
  rw [Option.eq_none_iff_forall_ne_some]
  intro value hDecode
  obtain ⟨hEach, rfl, hLimit⟩ := decodePublicNumber_eq_some_iff.1 hDecode
  exact hNot ⟨hSymbols.2 hEach, hLimit⟩

/-- The text read as a number is the spelling of that number. -/
theorem encode_decodePublicNumber {text : String} (hText : text ≠ "")
  (hDecode : decodePublicNumber text = some value) : encodePublicNumber value = text := by
  obtain ⟨hSymbols, rfl, _⟩ := decodePublicNumber_eq_some_iff.1 hDecode
  have hEncode := encode_numeral hSymbols
  have hPos : 0 < spelledNumber text := by
    rw [Nat.pos_iff_ne_zero]
    intro hZero
    rw [← spelledNumber, hZero] at hEncode
    exact hText (String.toList_eq_nil_iff.1 hEncode.symm)
  rw [← String.toList_inj, toList_encodePublicNumber hPos]
  exact hEncode

/-- Positive numbers and the texts that spell a `usize` correspond one to one. -/
theorem publicNumber_bijective :
  (∀ value, 1 ≤ value → value < usizeLimit →
    decodePublicNumber (encodePublicNumber value) = some value) ∧
  (∀ text value, text ≠ "" → decodePublicNumber text = some value →
    encodePublicNumber value = text) ∧
  (∀ a b, 1 ≤ a → 1 ≤ b → encodePublicNumber a = encodePublicNumber b → a = b) ∧
  (∀ text, usizeLimit ≤ spelledNumber text → decodePublicNumber text = none) ∧
  ∀ text value, decodePublicNumber text = some value → value = spelledNumber text := by
  refine ⟨fun value hPos hFits => decode_encodePublicNumber hPos hFits,
    fun text value hText hDecode => encode_decodePublicNumber hText hDecode,
    fun a b hLeft hRight hEq => encodePublicNumber_inj hLeft hRight hEq, ?_, ?_⟩
  · intro text hLarge
    rw [decodePublicNumber_eq_ite, if_neg]
    exact fun hFits => absurd hFits.2 (Nat.not_lt.2 hLarge)
  · intro text value hDecode
    exact (decodePublicNumber_eq_some_iff.1 hDecode).2.1.symm

theorem publicNumber_bijective_thirtyThree :
  decodePublicNumber (encodePublicNumber 33) = some 33 ∧
    encodePublicNumber 33 = "11" ∧ encodePublicNumber 32 ≠ encodePublicNumber 33 := by
  refine ⟨publicNumber_bijective.1 33 (by decide) (by decide),
    publicNumber_bijective.2.1 "11" 33 (by decide) (by decide), fun hEq => ?_⟩
  exact absurd (publicNumber_bijective.2.2.1 32 33 (by decide) (by decide) hEq) (by decide)

open Layout

/-- Explicit grouping of worktree checkouts of one repository. -/
structure WorktreeSpaceMembership where
  key : String
  isLinkedWorktree : Bool
  deriving DecidableEq

structure Workspace where
  id : String
  customName : Option String
  worktreeSpace : Option WorktreeSpaceMembership
  publicPaneNumbers : FinMap PaneId Nat
  nextPublicPaneNumber : Nat
  nextPublicTabNumber : Nat
  tabs : List Tab
  activeTab : Nat
  deriving DecidableEq

/-- A pane taken out for a move, the tab that was dropped with it and whether
no tab is left. -/
structure TakenPane where
  moved : MovedPane
  removedTabIdx : Option Nat
  workspaceEmpty : Bool
  deriving DecidableEq

namespace Workspace

/-- A workspace of one new tab, unless its process cannot be spawned. -/
def newWithTab (spawned : Bool) (ids : IdCounters) :
  IdCounters × Option (Workspace × NewPane) :=
  let (id, ids) := generateWorkspaceId ids
  match Tab.new 1 spawned ids with
  | (ids, none) => (ids, none)
  | (ids, some (tab, newPane)) =>
    let ws := {
      id
      customName := none
      worktreeSpace := none
      publicPaneNumbers := (∅ : FinMap PaneId Nat).insert tab.rootPane 1
      nextPublicPaneNumber := 2
      nextPublicTabNumber := 2
      tabs := [tab]
      activeTab := 0 }
    (ids, some (ws, newPane))

def fromExistingPane (label tabLabel : Option String) (moved : MovedPane) (ids : IdCounters) :
  IdCounters × Workspace :=
  let (id, ids) := generateWorkspaceId ids
  let ws := {
    id
    customName := label
    worktreeSpace := none
    publicPaneNumbers := (∅ : FinMap PaneId Nat).insert moved.paneId 1
    nextPublicPaneNumber := 2
    nextPublicTabNumber := 2
    tabs := [Tab.fromExistingPane 1 tabLabel moved]
    activeTab := 0 }
  (ids, ws)

def activeTab? (ws : Workspace) : Option Tab := ws.tabs[ws.activeTab]?

def registerNewPaneWithNumber (ws : Workspace) (paneId : PaneId) (number : Nat) : Workspace :=
  { ws with
    publicPaneNumbers := ws.publicPaneNumbers.insert paneId number
    nextPublicPaneNumber := max ws.nextPublicPaneNumber (number + 1) }

def unregisterPane (ws : Workspace) (paneId : PaneId) : Workspace :=
  { ws with publicPaneNumbers := ws.publicPaneNumbers.erase paneId }

def unregisterMovedPane (ws : Workspace) (paneId : PaneId) : Workspace := ws.unregisterPane paneId

/-- The active index after the tab at `removedIdx` is gone and `count` are left. -/
def adjustActiveTabAfterRemoval (count removedIdx activeTab : Nat) : Nat :=
  if count ≤ activeTab then count - 1
  else if removedIdx ≤ activeTab ∧ 0 < activeTab then activeTab - 1
  else activeTab

/-- Every pane of the tab has been seen. -/
def markSeen (tab : Tab) : Tab :=
  { tab with panes := tab.panes.mapValues fun _ pane => { pane with seen := true } }

def switchTab (ws : Workspace) (idx : Nat) : Workspace :=
  match ws.tabs[idx]? with
  | none => ws
  | some tab => { ws with activeTab := idx, tabs := ws.tabs.set idx (markSeen tab) }

/-- Change the tab at an index in place. -/
def updateTab (ws : Workspace) (tabIdx : Nat) (update : Tab → Tab) : Workspace :=
  match ws.tabs[tabIdx]? with
  | none => ws
  | some tab => { ws with tabs := ws.tabs.set tabIdx (update tab) }

/-- Create a tab. Without any tab the program stops; the tab number is used up
even if the process cannot be spawned. -/
def createTabWithRuntime (ws : Workspace) (spawned : Bool) (ids : IdCounters) :
  Option (IdCounters × Workspace × Option (Nat × NewPane)) :=
  let number := ws.nextPublicTabNumber
  let ws := { ws with nextPublicTabNumber := number + 1 }
  let paneNumber := ws.nextPublicPaneNumber
  ws.activeTab?.map fun _ =>
    match Tab.new number spawned ids with
    | (ids, none) => (ids, ws, none)
    | (ids, some (tab, newPane)) =>
      let ws := ws.registerNewPaneWithNumber tab.rootPane paneNumber
      (ids, { ws with tabs := ws.tabs ++ [tab] }, some (ws.tabs.length, newPane))

def closeTab (ws : Workspace) (idx : Nat) : Workspace × Bool :=
  match ws.tabs[idx]? with
  | none => (ws, false)
  | some tab =>
    if ws.tabs.length ≤ 1 then (ws, false)
    else
      let tabs := ws.tabs.eraseIdx idx
      let ws := { ws with
        tabs
        publicPaneNumbers := Numbering.eraseAll ws.publicPaneNumbers tab.panes.keys
        activeTab := adjustActiveTabAfterRemoval tabs.length idx ws.activeTab }
      (ws, true)

/-- Where a tab taken from `sourceIdx` and put before `insertIdx` ends up. -/
def moveTarget (count sourceIdx insertIdx : Nat) : Nat :=
  min (if sourceIdx < insertIdx then insertIdx - 1 else insertIdx) (count - 1)

/-- The index in `tabs` of the tab that was active, found by its root pane. -/
def activeByRootPane (ws : Workspace) (tabs : List Tab) (fallback : Nat) : Nat :=
  let found := ws.activeTab?.bind fun active =>
    tabs.findIdx? fun tab => tab.rootPane = active.rootPane
  found.getD fallback

/-- Move a tab; the active tab stays active. -/
def moveTab (ws : Workspace) (sourceIdx insertIdx : Nat) : Workspace × Bool :=
  match ws.tabs[sourceIdx]? with
  | none => (ws, false)
  | some tab =>
    if ws.tabs.length < insertIdx then (ws, false)
    else
      let targetIdx := moveTarget ws.tabs.length sourceIdx insertIdx
      if sourceIdx = targetIdx then (ws, false)
      else
        let tabs := (ws.tabs.eraseIdx sourceIdx).insertIdx targetIdx tab
        ({ ws with tabs, activeTab := ws.activeByRootPane tabs targetIdx }, true)

def findTabIndexForPane (ws : Workspace) (paneId : PaneId) : Option Nat :=
  ws.tabs.findIdx? fun tab => paneId ∈ tab.panes

def paneState (ws : Workspace) (paneId : PaneId) : Option PaneState :=
  ws.tabs.findSome? fun tab => tab.panes.lookup paneId

def terminalId (ws : Workspace) (paneId : PaneId) : Option TerminalId :=
  ws.tabs.findSome? fun tab => tab.terminalId paneId

def focusedPaneId (ws : Workspace) : Option PaneId := ws.activeTab?.map (·.layout.focused)

def publicPaneNumber (ws : Workspace) (paneId : PaneId) : Option Nat :=
  ws.publicPaneNumbers.lookup paneId

def publicTabNumber (ws : Workspace) (tabIdx : Nat) : Option Nat :=
  ws.tabs[tabIdx]?.map (·.number)

/-- The tab of a pane with its index. -/
def findTabForPane (ws : Workspace) (paneId : PaneId) : Option (Nat × Tab) :=
  (ws.findTabIndexForPane paneId).bind fun tabIdx => ws.tabs[tabIdx]?.map fun tab => (tabIdx, tab)

/-- Split a pane. The outcome is `none` for an unknown pane and `some none` if
the process of the new pane cannot be spawned. -/
def splitPaneWithRuntime (ws : Workspace) (paneId : PaneId) (direction : Direction)
  (ratio : Option (Option ℚ)) (focusNewPane spawned : Bool) (ids : IdCounters) :
  IdCounters × Workspace × Option (Option (Nat × NewPane)) :=
  match ws.findTabForPane paneId with
  | none => (ids, ws, none)
  | some (tabIdx, tab) =>
    let paneNumber := ws.nextPublicPaneNumber
    let previousFocus := tab.layout.focused
    match (tab.focusPane paneId).splitFocusedWithRuntime direction ratio spawned ids with
    | (ids, tab, none) =>
      let tab := tab.focusPane previousFocus
      (ids, { ws with tabs := ws.tabs.set tabIdx tab }, some none)
    | (ids, tab, some newPane) =>
      let tab := if focusNewPane then tab else tab.focusPane previousFocus
      let ws := { ws with tabs := ws.tabs.set tabIdx tab }
      (ids, ws.registerNewPaneWithNumber newPane.paneId paneNumber,
        some (some (tabIdx, newPane)))

/-- Remove a pane with the given operation of its tab. The flag says that the
workspace should close. -/
def removePaneWith (remove : Tab → PaneId → Tab × Option (PaneId × TerminalId)) (ws : Workspace)
  (paneId : PaneId) : Workspace × Bool :=
  match ws.findTabForPane paneId with
  | none => (ws, false)
  | some (tabIdx, tab) =>
    if tab.layout.paneCount ≤ 1 then
      if ws.tabs.length ≤ 1 then (ws, true)
      else
        let tabs := ws.tabs.eraseIdx tabIdx
        let ws := { ws with
          tabs
          activeTab := adjustActiveTabAfterRemoval tabs.length tabIdx ws.activeTab }
        (ws.unregisterPane paneId, false)
    else
      match remove tab paneId with
      | (tab, none) => ({ ws with tabs := ws.tabs.set tabIdx tab }, false)
      | (tab, some (removed, _)) =>
        (({ ws with tabs := ws.tabs.set tabIdx tab } : Workspace).unregisterPane removed, false)

def removePane (ws : Workspace) (paneId : PaneId) : Workspace × Bool :=
  removePaneWith Tab.removePane ws paneId

def closePane (ws : Workspace) (paneId : PaneId) : Workspace × Bool :=
  removePaneWith Tab.closePane ws paneId

/-- Take a pane out for a move. Its public number stays registered. -/
def takePaneForMove (ws : Workspace) (paneId : PaneId) : Workspace × Option TakenPane :=
  match ws.findTabForPane paneId with
  | none => (ws, none)
  | some (tabIdx, tab) =>
    let (rest, moved) := tab.takePaneForMove paneId
    if tab.layout.paneCount ≤ 1 then
      let tabs := ws.tabs.eraseIdx tabIdx
      match moved with
      | none => ({ ws with tabs }, none)
      | some moved =>
        let ws := { ws with
          tabs
          activeTab := adjustActiveTabAfterRemoval tabs.length tabIdx ws.activeTab }
        (ws, some ⟨moved, some tabIdx, tabs.isEmpty⟩)
    else
      let ws := { ws with tabs := ws.tabs.set tabIdx rest }
      (ws, moved.map fun moved => ⟨moved, none, false⟩)

/-- Register a moved pane that has no number here. -/
def registerMovedPane (ws : Workspace) (paneId : PaneId) : Workspace :=
  if paneId ∈ ws.publicPaneNumbers then ws
  else ws.registerNewPaneWithNumber paneId ws.nextPublicPaneNumber

/-- Insert a moved pane next to the target pane of a tab, or hand it back. -/
def insertMovedPaneIntoTab (ws : Workspace) (tabIdx : Nat) (targetPaneId : PaneId)
  (moved : MovedPane) (direction : Direction) (ratio : Option ℚ) : Option Workspace := do
  let tab ← ws.tabs[tabIdx]?
  let tab ← tab.insertExistingPane targetPaneId moved direction ratio
  some (({ ws with tabs := ws.tabs.set tabIdx tab } : Workspace).registerMovedPane moved.paneId)

def createTabFromExistingPane (ws : Workspace) (moved : MovedPane) (label : Option String) :
  Workspace × Nat :=
  let number := ws.nextPublicTabNumber
  let ws := { ws with nextPublicTabNumber := number + 1 }
  let ws := ws.registerMovedPane moved.paneId
  ({ ws with tabs := ws.tabs ++ [Tab.fromExistingPane number label moved] }, ws.tabs.length)

end Workspace

end Workspaces
