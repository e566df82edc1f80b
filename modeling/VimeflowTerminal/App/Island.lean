import VimeflowTerminal.Detect.Agent
import VimeflowTerminal.Layout.Node
import VimeflowTerminal.Transition.Run

/-! The records of what the agents announced, the panel that lists them, and the
toast that announces the latest one. -/

namespace App

open Layout Transition

inductive ToastKind where
  | needsAttention
  | finished
  | updateInstalled
  deriving DecidableEq

structure ToastTarget where
  workspaceId : String
  paneId : PaneId
  deriving DecidableEq

structure ToastNotification where
  kind : ToastKind
  title : String
  target : Option ToastTarget
  islandRecordId : Option Nat
  deriving DecidableEq

def toastEventText : ToastKind → String
  | .needsAttention => "needs attention"
  | .finished => "finished"
  | .updateInstalled => "updated"

inductive IslandReason where
  | turnComplete
  | blocked
  deriving DecidableEq

def IslandReason.text : IslandReason → String
  | .turnComplete => "turn complete"
  | .blocked => "blocked"

/-- The reason for a record of an announcement; updates get none. -/
def IslandReason.ofKind : ToastKind → Option IslandReason
  | .finished => some .turnComplete
  | .needsAttention => some .blocked
  | .updateInstalled => none

structure IslandRecord where
  id : Nat
  workspaceId : String
  tabId : String
  paneId : PaneId
  agent : Option Detect.Agent
  reason : IslandReason
  text : String
  read : Bool
  deriving DecidableEq

inductive TabBarStyleConfig where
  | island
  | classic
  deriving DecidableEq

inductive IslandArrivalsConfig where
  | toast
  | silent
  deriving DecidableEq

inductive ViewLayout where
  | desktop
  | mobile
  deriving DecidableEq

/-- What of the view and the configuration decides whether the panel can open. -/
structure IslandView where
  tabBarStyle : TabBarStyleConfig
  layout : ViewLayout
  popupPane : Bool
  islandBellWidth : Nat
  deriving DecidableEq

structure MenuListState where
  highlighted : Nat
  deriving DecidableEq

namespace MenuListState

variable (list : MenuListState)

def movePrev : MenuListState := ⟨list.highlighted - 1⟩

def moveNext (itemCount : Nat) : MenuListState :=
  if 0 < itemCount then ⟨min (list.highlighted + 1) (itemCount - 1)⟩ else list

def hover (idx : Option Nat) : MenuListState :=
  match idx with
  | none => list
  | some idx => ⟨idx⟩

end MenuListState

/-- The part of the state that the island owns, with the toast. -/
structure Island where
  islandRecords : List IslandRecord
  islandPanelOpen : Bool
  islandPanelList : MenuListState
  nextIslandRecordId : Nat
  toast : Option ToastNotification
  deriving DecidableEq

namespace Island

def islandRecordCapacity : Nat := 50

/-- The first number past `u64::MAX`. -/
def u64Limit : Nat := 2 ^ 64

def initial : Island := ⟨[], false, ⟨0⟩, 0, none⟩

variable (s : Island)

def clampIslandPanelSelection : Island :=
  { s with
    islandPanelList := ⟨min s.islandPanelList.highlighted (s.islandRecords.length - 1)⟩ }

def setIslandPanelOpen (view : IslandView) (isOpen : Bool) : Island :=
  ({ s with
    islandPanelOpen := isOpen && view.tabBarStyle = .island && view.layout = .desktop &&
      !view.popupPane && !s.islandRecords.isEmpty } : Island).clampIslandPanelSelection

def toggleIslandPanel (view : IslandView) : Island :=
  if s.islandPanelOpen then s.setIslandPanelOpen view false
  else if 0 < view.islandBellWidth then s.setIslandPanelOpen view true
  else s

def markAllIslandRecordsRead : Island :=
  { s with islandRecords := s.islandRecords.map fun record => { record with read := true } }

/-- Mark the first record of the given id. -/
def markRead (recordId : Nat) : List IslandRecord → List IslandRecord
  | [] => []
  | record :: records =>
    if record.id = recordId then { record with read := true } :: records
    else record :: markRead recordId records

/-- Open a record whose pane is still in a workspace. -/
def openIslandRecord (inWorkspace : PaneId → Bool) (recordId : Nat) : Island :=
  match s.islandRecords.find? fun record => record.id = recordId with
  | none => s
  | some record =>
    if inWorkspace record.paneId then { s with islandRecords := markRead recordId s.islandRecords }
    else s

/-- A toast that announces a dropped record goes with it. -/
def clearOrphanedIslandToast : Island :=
  match s.toast.bind (·.islandRecordId) with
  | none => s
  | some id => if s.islandRecords.any (·.id = id) then s else { s with toast := none }

/-- Put a record in front, in the place of an earlier one for the same reason. -/
def pushIslandRecord (record : IslandRecord) : Option (Island × Nat) :=
  let id := s.nextIslandRecordId + 1
  if id < u64Limit then
    let record := { record with id, read := false }
    let others := s.islandRecords.filter fun existing =>
      existing.paneId ≠ record.paneId || existing.reason ≠ record.reason
    let pushed : Island := { s with
      nextIslandRecordId := id
      islandRecords := (record :: others).take islandRecordCapacity }
    some (pushed.clampIslandPanelSelection.clearOrphanedIslandToast, id)
  else none

def clearIslandRecords : Island :=
  ({ s with
    islandRecords := []
    islandPanelOpen := false
    islandPanelList := ⟨0⟩ } : Island).clearOrphanedIslandToast

def pruneIslandRecords (paneIds : List PaneId) : Island :=
  let islandRecords := s.islandRecords.filter fun record => record.paneId ∉ paneIds
  let islandPanelOpen := s.islandPanelOpen && !islandRecords.isEmpty
  ({ s with islandRecords, islandPanelOpen } : Island).clampIslandPanelSelection
    |>.clearOrphanedIslandToast

/-- The records of a pane follow it to another tab or workspace. -/
def rekeyIslandRecords (sourcePaneId movedPaneId : PaneId) (workspaceId tabId : String) : Island :=
  { s with islandRecords := s.islandRecords.map fun record =>
      if record.paneId = sourcePaneId then
        { record with workspaceId, tabId, paneId := movedPaneId }
      else record }

/-! ## Announcements -/

/-- An agent in a pane, as an announcement names it, and whether the user is looking at
the pane. -/
structure IslandArrival where
  kind : ToastKind
  workspaceId : String
  tabId : String
  paneId : PaneId
  agent : Option Detect.Agent
  agentLabel : String
  isFocused : Bool
  deriving DecidableEq

def IslandArrival.title (arrival : IslandArrival) : String :=
  arrival.agentLabel ++ " " ++ toastEventText arrival.kind

/-- The record of an announcement, and the toast for it. -/
def islandArrivalForChange (view : IslandView) (arrivals : IslandArrivalsConfig)
  (arrival : IslandArrival) : Option (Island × Option ToastNotification) :=
  if view.tabBarStyle ≠ .island || arrival.isFocused then none
  else (IslandReason.ofKind arrival.kind).bind fun reason =>
    (s.pushIslandRecord ⟨0, arrival.workspaceId, arrival.tabId, arrival.paneId, arrival.agent,
        reason, arrival.agentLabel ++ " " ++ reason.text, false⟩).map fun (s, recordId) =>
      (s, if arrivals = .toast then some ⟨arrival.kind, arrival.title, none, some recordId⟩
        else none)

/-- A toast that does not announce a record. -/
def deliverStockToast (kind : ToastKind) (title : String) (target : Option ToastTarget) : Island :=
  { s with toast := some ⟨kind, title, target, none⟩ }

/-- An agent's change of state is announced by a record, or by a stock toast where
there is no record. -/
def applyPaneStateChange (view : IslandView) (arrivals : IslandArrivalsConfig)
  (arrival : IslandArrival) (stockTarget : Option ToastTarget) : Island :=
  match s.islandArrivalForChange view arrivals arrival with
  | some (s, some toast) => { s with toast := some toast }
  | some (s, none) => s
  | none =>
    match stockTarget with
    | none => s
    | some target => s.deliverStockToast arrival.kind arrival.title (some target)

def dismissToast : Island := { s with toast := none }

/-! ## Keys and the mouse -/

inductive IslandPanelKey where
  | esc
  | up
  | down
  | enter
  | charR
  | charC
  | other
  deriving DecidableEq

def handleIslandPanelKey (view : IslandView) (inWorkspace : PaneId → Bool) (key : IslandPanelKey) :
  Island :=
  if !s.islandPanelOpen then s
  else
    match key with
    | .esc => s.setIslandPanelOpen view false
    | .up => { s with islandPanelList := s.islandPanelList.movePrev }
    | .down => { s with islandPanelList := s.islandPanelList.moveNext s.islandRecords.length }
    | .enter =>
      match s.islandRecords[s.islandPanelList.highlighted]? with
      | none => s
      | some record => s.openIslandRecord inWorkspace record.id
    | .charR => s.markAllIslandRecordsRead
    | .charC => s.clearIslandRecords
    | .other => s

inductive IslandPanelMouse where
  | moved
  | scrollUp
  | scrollDown
  | upLeft
  | upOther
  | other
  deriving DecidableEq

/-- Where in the panel the mouse is. -/
structure IslandPanelHit where
  recordAt : Option Nat
  inPanel : Bool
  inBell : Bool
  deriving DecidableEq

def handleIslandPanelMouse (view : IslandView) (inWorkspace : PaneId → Bool)
  (mouse : IslandPanelMouse) (hit : IslandPanelHit) : Island :=
  match mouse with
  | .moved =>
    let hovered := hit.recordAt.bind fun recordId =>
      s.islandRecords.findIdx? fun record => record.id = recordId
    { s with islandPanelList := s.islandPanelList.hover hovered }
  | .scrollUp =>
    if hit.inPanel then { s with islandPanelList := s.islandPanelList.movePrev } else s
  | .scrollDown =>
    if hit.inPanel then
      { s with islandPanelList := s.islandPanelList.moveNext s.islandRecords.length }
    else s
  | .upLeft =>
    if hit.inBell then s.setIslandPanelOpen view false
    else
      match hit.recordAt with
      | some recordId => s.openIslandRecord inWorkspace recordId
      | none => if hit.inPanel then s else s.setIslandPanelOpen view false
  | .upOther => s.setIslandPanelOpen view false
  | .other => s

/-- A click on a toast that announces a record opens the record. -/
def clickToast (inWorkspace : PaneId → Bool) : Island :=
  match s.toast.bind (·.islandRecordId) with
  | none => s
  | some recordId => (s.openIslandRecord inWorkspace recordId).dismissToast

/-! ## Runs -/

inductive Operation where
  | applyPaneStateChange (view : IslandView) (arrivals : IslandArrivalsConfig)
      (arrival : IslandArrival) (stockTarget : Option ToastTarget)
  | pushIslandRecord (record : IslandRecord)
  | setIslandPanelOpen (view : IslandView) (isOpen : Bool)
  | toggleIslandPanel (view : IslandView)
  | handleIslandPanelKey (view : IslandView) (inWorkspace : PaneId → Bool) (key : IslandPanelKey)
  | handleIslandPanelMouse (view : IslandView) (inWorkspace : PaneId → Bool)
      (mouse : IslandPanelMouse) (hit : IslandPanelHit)
  | openIslandRecord (inWorkspace : PaneId → Bool) (recordId : Nat)
  | markAllIslandRecordsRead
  | clearIslandRecords
  | pruneIslandRecords (paneIds : List PaneId)
  | paneMoved (paneId : PaneId) (workspaceId tabId : String)
  | deliverStockToast (kind : ToastKind) (title : String) (target : Option ToastTarget)
  | clickToast (inWorkspace : PaneId → Bool)
  | dismissToast

/-- A moved pane keeps its id. -/
def step : Operation → Island
  | .applyPaneStateChange view arrivals arrival stockTarget =>
    s.applyPaneStateChange view arrivals arrival stockTarget
  | .pushIslandRecord record => ((s.pushIslandRecord record).map Prod.fst).getD s
  | .setIslandPanelOpen view isOpen => s.setIslandPanelOpen view isOpen
  | .toggleIslandPanel view => s.toggleIslandPanel view
  | .handleIslandPanelKey view inWorkspace key => s.handleIslandPanelKey view inWorkspace key
  | .handleIslandPanelMouse view inWorkspace mouse hit =>
    s.handleIslandPanelMouse view inWorkspace mouse hit
  | .openIslandRecord inWorkspace recordId => s.openIslandRecord inWorkspace recordId
  | .markAllIslandRecordsRead => s.markAllIslandRecordsRead
  | .clearIslandRecords => s.clearIslandRecords
  | .pruneIslandRecords paneIds => s.pruneIslandRecords paneIds
  | .paneMoved paneId workspaceId tabId => s.rekeyIslandRecords paneId paneId workspaceId tabId
  | .deliverStockToast kind title target => s.deliverStockToast kind title target
  | .clickToast inWorkspace => s.clickToast inWorkspace
  | .dismissToast => s.dismissToast

/-- What the island keeps of its records: few of them, the newest first, and one for
each pane and reason. -/
structure RecordsSound (next : Nat) (records : List IslandRecord) : Prop where
  capped : records.length ≤ islandRecordCapacity
  issued : ∀ record ∈ records, record.id ≤ next
  descending : records.Pairwise fun newer older => older.id < newer.id
  distinct : records.Pairwise fun newer older =>
    newer.paneId ≠ older.paneId ∨ newer.reason ≠ older.reason

/-- The invariant: sound records, a panel only over records, with one of them
highlighted, and a toast only for a record that is there. -/
structure Sound (s : Island) : Prop where
  records : RecordsSound s.nextIslandRecordId s.islandRecords
  highlight : s.islandPanelOpen = true → s.islandPanelList.highlighted < s.islandRecords.length
  toast : ∀ id, s.toast.bind (·.islandRecordId) = some id → ∃ record ∈ s.islandRecords, record.id = id

/-- The identity of a record: what marking and moving leave as it is. -/
def identity (record : IslandRecord) : Nat × PaneId × IslandReason :=
  (record.id, record.paneId, record.reason)

variable {s : Island} {records kept : List IslandRecord} {next : Nat}

/-- Dropping records and changing what does not identify them keeps records sound. -/
theorem RecordsSound.sublist (hSound : RecordsSound next records)
  (hKept : (kept.map identity).Sublist (records.map identity)) : RecordsSound next kept where
  capped := by
    have hLength := hKept.length_le
    rw [List.length_map, List.length_map] at hLength
    exact Nat.le_trans hLength hSound.capped
  issued := by
    intro record hMem
    obtain ⟨old, hOld, hSame⟩ := List.mem_map.1 (hKept.subset (List.mem_map_of_mem hMem))
    have hIds : old.id = record.id := congrArg Prod.fst hSame
    exact hIds ▸ hSound.issued old hOld
  descending := by
    have hAll : (records.map identity).Pairwise fun newer older => older.1 < newer.1 :=
      List.pairwise_map.2 hSound.descending
    exact List.pairwise_map.1 (hAll.sublist hKept)
  distinct := by
    have hAll : (records.map identity).Pairwise fun newer older =>
        newer.2.1 ≠ older.2.1 ∨ newer.2.2 ≠ older.2.2 :=
      List.pairwise_map.2 hSound.distinct
    exact List.pairwise_map.1 (hAll.sublist hKept)

/-- A record of a new number goes in front of the records of other panes and reasons. -/
theorem RecordsSound.push (hSound : RecordsSound next records) {record : IslandRecord}
  (hId : record.id = next + 1) :
  RecordsSound (next + 1) ((record :: records.filter fun existing =>
    existing.paneId ≠ record.paneId || existing.reason ≠ record.reason).take
      islandRecordCapacity) := by
  have hOthers : RecordsSound next (records.filter fun existing =>
      existing.paneId ≠ record.paneId || existing.reason ≠ record.reason) :=
    hSound.sublist (List.filter_sublist.map identity)
  have hTaken : ∀ {R : IslandRecord → IslandRecord → Prop} {all : List IslandRecord},
      all.Pairwise R → (all.take islandRecordCapacity).Pairwise R :=
    fun hAll => hAll.sublist (List.take_sublist _ _)
  constructor
  · rw [List.length_take]
    exact Nat.min_le_left _ _
  · intro old hMem
    cases List.mem_cons.1 (List.mem_of_mem_take hMem) with
    | inl hNew => exact Nat.le_of_eq (hNew ▸ hId)
    | inr hOld =>
      have hIssued := hOthers.issued old hOld
      omega
  · refine hTaken (List.pairwise_cons.2 ⟨fun old hOld => ?_, hOthers.descending⟩)
    have hIssued := hOthers.issued old hOld
    omega
  · refine hTaken (List.pairwise_cons.2 ⟨fun old hOld => ?_, hOthers.distinct⟩)
    have hOther := (List.mem_filter.1 hOld).2
    rw [Bool.or_eq_true, decide_eq_true_eq, decide_eq_true_eq] at hOther
    exact hOther.imp Ne.symm Ne.symm

theorem sound_initial : Sound initial where
  records := ⟨Nat.zero_le _, nofun, .nil, .nil⟩
  highlight := nofun
  toast := nofun

theorem highlight_clamp (hOpen : s.islandPanelOpen = true → s.islandRecords ≠ []) :
  s.islandPanelOpen = true →
    min s.islandPanelList.highlighted (s.islandRecords.length - 1) < s.islandRecords.length := by
  intro hPanel
  have hSome := List.length_pos_iff.2 (hOpen hPanel)
  omega

section

variable (hRecords : RecordsSound s.nextIslandRecordId s.islandRecords)
include hRecords

/-- Dropping an orphaned toast restores the last part of the invariant. -/
theorem sound_clearOrphaned
  (hHighlight : s.islandPanelOpen = true →
    s.islandPanelList.highlighted < s.islandRecords.length) :
  Sound s.clearOrphanedIslandToast := by
  unfold clearOrphanedIslandToast
  split
  next hNone => exact ⟨hRecords, hHighlight, fun id hId => nomatch hNone.symm.trans hId⟩
  next id hToast =>
    split
    next hFound =>
      refine ⟨hRecords, hHighlight, fun shown hShown => ?_⟩
      cases hToast.symm.trans hShown
      simpa using hFound
    · exact ⟨hRecords, hHighlight, nofun⟩

theorem sound_clamp
  (hOpen : s.islandPanelOpen = true → s.islandRecords ≠ [])
  (hToast : ∀ id, s.toast.bind (·.islandRecordId) = some id →
    ∃ record ∈ s.islandRecords, record.id = id) :
  Sound s.clampIslandPanelSelection :=
  ⟨hRecords, highlight_clamp hOpen, hToast⟩

theorem sound_settled
  (hOpen : s.islandPanelOpen = true → s.islandRecords ≠ []) :
  Sound s.clampIslandPanelSelection.clearOrphanedIslandToast :=
  sound_clearOrphaned hRecords (highlight_clamp hOpen)

end

theorem sound_clearIslandRecords (s : Island) : Sound s.clearIslandRecords :=
  sound_clearOrphaned ⟨Nat.zero_le _, nofun, .nil, .nil⟩ nofun

theorem islandRecords_clearOrphaned (s : Island) :
  s.clearOrphanedIslandToast.islandRecords = s.islandRecords := by
  unfold clearOrphanedIslandToast
  split
  · rfl
  split
  · rfl
  · rfl

namespace Sound

variable (hSound : Sound s)
include hSound

theorem ne_nil : s.islandPanelOpen = true → s.islandRecords ≠ [] := by
  intro hPanel
  exact List.ne_nil_of_length_pos (Nat.zero_lt_of_lt (hSound.highlight hPanel))

theorem withToast {toast : ToastNotification} (hId : ∀ id, toast.islandRecordId = some id →
  ∃ record ∈ s.islandRecords, record.id = id) : Sound { s with toast := some toast } :=
  ⟨hSound.records, hSound.highlight, hId⟩

theorem dismissToast : Sound s.dismissToast :=
  ⟨hSound.records, hSound.highlight, nofun⟩

theorem deliverStockToast (kind : ToastKind) (title : String) (target : Option ToastTarget) :
  Sound (s.deliverStockToast kind title target) :=
  hSound.withToast nofun

/-- A change of records that leaves their identities alone. -/
theorem withRecords {kept : List IslandRecord}
  (hSame : kept.map identity = s.islandRecords.map identity) :
  Sound { s with islandRecords := kept } where
  records := hSound.records.sublist (hSame ▸ List.Sublist.refl _)
  highlight := by
    intro hPanel
    have hLength : kept.length = s.islandRecords.length := by
      simpa using congrArg List.length hSame
    rw [hLength]
    exact hSound.highlight hPanel
  toast := by
    intro id hToast
    obtain ⟨old, hOld, hId⟩ := hSound.toast id hToast
    have hMem : identity old ∈ kept.map identity := hSame ▸ List.mem_map_of_mem hOld
    obtain ⟨record, hRecord, hIdentity⟩ := List.mem_map.1 hMem
    have hIds : record.id = old.id := congrArg Prod.fst hIdentity
    exact ⟨record, hRecord, hIds.trans hId⟩

theorem withHighlighted {list : MenuListState}
  (hRange : s.islandPanelOpen = true → list.highlighted < s.islandRecords.length) :
  Sound { s with islandPanelList := list } :=
  ⟨hSound.records, hRange, hSound.toast⟩

theorem setIslandPanelOpen (view : IslandView) (isOpen : Bool) :
  Sound (s.setIslandPanelOpen view isOpen) := by
  refine sound_clamp hSound.records ?_ hSound.toast
  intro hPanel
  have hSome := (Bool.and_eq_true_iff.1 hPanel).2
  simpa using hSome

theorem toggleIslandPanel (view : IslandView) : Sound (s.toggleIslandPanel view) := by
  unfold Island.toggleIslandPanel
  split
  · exact hSound.setIslandPanelOpen view false
  split
  · exact hSound.setIslandPanelOpen view true
  · exact hSound

theorem markAllIslandRecordsRead : Sound s.markAllIslandRecordsRead := by
  refine hSound.withRecords ?_
  rw [List.map_map]
  rfl

theorem rekeyIslandRecords (paneId : PaneId) (workspaceId tabId : String) :
  Sound (s.rekeyIslandRecords paneId paneId workspaceId tabId) := by
  refine hSound.withRecords ?_
  rw [List.map_map]
  refine List.map_congr_left fun record _ => ?_
  show identity (if record.paneId = paneId then _ else record) = identity record
  split
  next hPane =>
    subst hPane
    rfl
  · rfl

omit hSound in
theorem map_identity_markRead (recordId : Nat) (records : List IslandRecord) :
  (markRead recordId records).map identity = records.map identity := by
  induction records with
  | nil => rfl
  | cons record records ih =>
    unfold markRead
    split
    · rfl
    · rw [List.map_cons, List.map_cons, ih]

theorem openIslandRecord (inWorkspace : PaneId → Bool) (recordId : Nat) :
  Sound (s.openIslandRecord inWorkspace recordId) := by
  unfold Island.openIslandRecord
  split
  · exact hSound
  split
  · exact hSound.withRecords (map_identity_markRead _ _)
  · exact hSound

theorem pruneIslandRecords (paneIds : List PaneId) : Sound (s.pruneIslandRecords paneIds) := by
  refine sound_settled ?_ ?_
  · exact hSound.records.sublist (List.filter_sublist.map identity)
  intro hPanel
  have hSome := (Bool.and_eq_true_iff.1 hPanel).2
  simpa using hSome

/-- A pushed record is there, and the island is sound with it. -/
theorem pushIslandRecord {record : IslandRecord} {pushed : Island} {id : Nat}
  (hPush : s.pushIslandRecord record = some (pushed, id)) :
  Sound pushed ∧ ∃ record ∈ pushed.islandRecords, record.id = id := by
  unfold Island.pushIslandRecord at hPush
  dsimp only at hPush
  split at hPush
  next hFits =>
    cases hPush
    constructor
    · refine sound_settled (hSound.records.push rfl) ?_
      exact fun _ => by simp [islandRecordCapacity]
    · rw [islandRecords_clearOrphaned]
      exact ⟨_, List.mem_cons_self, rfl⟩
  · cases hPush

theorem applyPaneStateChange (view : IslandView) (arrivals : IslandArrivalsConfig)
  (arrival : IslandArrival) (stockTarget : Option ToastTarget) :
  Sound (s.applyPaneStateChange view arrivals arrival stockTarget) := by
  have hArrival : ∀ pushed toast,
      s.islandArrivalForChange view arrivals arrival = some (pushed, toast) →
        Sound pushed ∧ ∀ shown, toast = some shown → ∀ id, shown.islandRecordId = some id →
          ∃ record ∈ pushed.islandRecords, record.id = id := by
    intro pushed toast hSome
    unfold islandArrivalForChange at hSome
    split at hSome
    · cases hSome
    obtain ⟨reason, -, hPushed⟩ := Option.bind_eq_some_iff.1 hSome
    obtain ⟨⟨island, recordId⟩, hPush, hToast⟩ := Option.map_eq_some_iff.1 hPushed
    cases hToast
    obtain ⟨hIsland, hThere⟩ := hSound.pushIslandRecord hPush
    refine ⟨hIsland, ?_⟩
    intro shown hShown id hId
    cases (Option.ite_none_right_eq_some.1 hShown).2
    cases hId
    exact hThere
  unfold Island.applyPaneStateChange
  split
  next pushed toast hSome =>
    obtain ⟨hPushed, hToast⟩ := hArrival _ _ hSome
    exact hPushed.withToast (hToast toast rfl)
  next pushed hSome => exact (hArrival _ _ hSome).1
  · split
    · exact hSound
    · exact hSound.deliverStockToast _ _ _

theorem movePrev : Sound { s with islandPanelList := s.islandPanelList.movePrev } :=
  hSound.withHighlighted fun hPanel => Nat.lt_of_le_of_lt (Nat.sub_le _ _) (hSound.highlight hPanel)

theorem moveNext :
  Sound { s with islandPanelList := s.islandPanelList.moveNext s.islandRecords.length } := by
  refine hSound.withHighlighted fun hPanel => ?_
  have hRange := hSound.highlight hPanel
  unfold MenuListState.moveNext
  split
  · show min (s.islandPanelList.highlighted + 1) (s.islandRecords.length - 1) < _
    omega
  · exact hRange

theorem handleIslandPanelKey (view : IslandView) (inWorkspace : PaneId → Bool)
  (key : IslandPanelKey) : Sound (s.handleIslandPanelKey view inWorkspace key) := by
  unfold Island.handleIslandPanelKey
  split
  · exact hSound
  cases key with
  | esc => exact hSound.setIslandPanelOpen view false
  | up => exact hSound.movePrev
  | down => exact hSound.moveNext
  | enter =>
    dsimp only
    split
    · exact hSound
    · exact hSound.openIslandRecord inWorkspace _
  | charR => exact hSound.markAllIslandRecordsRead
  | charC => exact sound_clearIslandRecords s
  | other => exact hSound

theorem hover (recordAt : Option Nat) :
  Sound { s with islandPanelList := s.islandPanelList.hover (recordAt.bind fun recordId =>
    s.islandRecords.findIdx? fun record => record.id = recordId) } := by
  refine hSound.withHighlighted fun hPanel => ?_
  unfold MenuListState.hover
  split
  · exact hSound.highlight hPanel
  next idx hIdx =>
    obtain ⟨recordId, -, hFound⟩ := Option.bind_eq_some_iff.1 hIdx
    exact (List.findIdx?_eq_some_iff_findIdx_eq.1 hFound).1

theorem handleIslandPanelMouse (view : IslandView) (inWorkspace : PaneId → Bool)
  (mouse : IslandPanelMouse) (hit : IslandPanelHit) :
  Sound (s.handleIslandPanelMouse view inWorkspace mouse hit) := by
  unfold Island.handleIslandPanelMouse
  cases mouse with
  | moved => exact hSound.hover hit.recordAt
  | scrollUp =>
    dsimp only
    split
    · exact hSound.movePrev
    · exact hSound
  | scrollDown =>
    dsimp only
    split
    · exact hSound.moveNext
    · exact hSound
  | upLeft =>
    dsimp only
    split
    · exact hSound.setIslandPanelOpen view false
    split
    · exact hSound.openIslandRecord inWorkspace _
    split
    · exact hSound
    · exact hSound.setIslandPanelOpen view false
  | upOther => exact hSound.setIslandPanelOpen view false
  | other => exact hSound

theorem clickToast (inWorkspace : PaneId → Bool) : Sound (s.clickToast inWorkspace) := by
  unfold Island.clickToast
  split
  · exact hSound
  · exact (hSound.openIslandRecord inWorkspace _).dismissToast

theorem step (operation : Operation) : Sound (s.step operation) := by
  cases operation with
  | applyPaneStateChange view arrivals arrival stockTarget =>
    exact hSound.applyPaneStateChange view arrivals arrival stockTarget
  | pushIslandRecord record =>
    show Sound (((s.pushIslandRecord record).map Prod.fst).getD s)
    cases hPush : s.pushIslandRecord record with
    | none => exact hSound
    | some pushed => exact (hSound.pushIslandRecord hPush).1
  | setIslandPanelOpen view isOpen => exact hSound.setIslandPanelOpen view isOpen
  | toggleIslandPanel view => exact hSound.toggleIslandPanel view
  | handleIslandPanelKey view inWorkspace key =>
    exact hSound.handleIslandPanelKey view inWorkspace key
  | handleIslandPanelMouse view inWorkspace mouse hit =>
    exact hSound.handleIslandPanelMouse view inWorkspace mouse hit
  | openIslandRecord inWorkspace recordId => exact hSound.openIslandRecord inWorkspace recordId
  | markAllIslandRecordsRead => exact hSound.markAllIslandRecordsRead
  | clearIslandRecords => exact sound_clearIslandRecords s
  | pruneIslandRecords paneIds => exact hSound.pruneIslandRecords paneIds
  | paneMoved paneId workspaceId tabId => exact hSound.rekeyIslandRecords paneId workspaceId tabId
  | deliverStockToast kind title target => exact hSound.deliverStockToast kind title target
  | clickToast inWorkspace => exact hSound.clickToast inWorkspace
  | dismissToast => exact hSound.dismissToast

end Sound

theorem sound_of_run {labels : List Operation} {t : Island}
  (run : Run (ofFunction Island.step) initial labels t) : Sound t := by
  refine run.preserves sound_initial ?_
  intro u label v hBefore hStep
  rw [hStep]
  exact hBefore.step label

/-- The records, the panel and the toast agree in every run. -/
theorem records_panel_toast_of_run {labels : List Operation} {t : Island}
  (run : Run (ofFunction Island.step) initial labels t) :
  t.islandRecords.length ≤ 50 ∧
    t.islandRecords.Pairwise (fun newer older => older.id < newer.id) ∧
    (t.islandRecords.map fun record => (record.paneId, record.reason)).Nodup ∧
    (t.islandPanelOpen = true → t.islandRecords ≠ [] ∧
      t.islandPanelList.highlighted < t.islandRecords.length) ∧
    (∀ toast id, t.toast = some toast → toast.islandRecordId = some id →
      ∃ record ∈ t.islandRecords, record.id = id) := by
  have hSound := sound_of_run run
  refine ⟨hSound.records.capped, hSound.records.descending, ?_, ?_, ?_⟩
  · refine List.pairwise_map.2 (hSound.records.distinct.imp fun hDistinct hSame => ?_)
    obtain ⟨hPane, hReason⟩ := Prod.mk.inj hSame
    exact hDistinct.elim (absurd hPane) (absurd hReason)
  · exact fun hPanel => ⟨hSound.ne_nil hPanel, hSound.highlight hPanel⟩
  · intro toast id hToast hId
    exact hSound.toast id (by rw [hToast]; exact hId)

/-- Two announcements for a pane and one for another, with the panel open, until the
first pane is closed: its records go, and so does the toast for one of them. -/
theorem records_panel_toast_of_pruned : ∃ t : Island,
  (t.islandRecords.map fun record => (record.id, record.paneId, record.reason)) =
    [(2, ⟨2⟩, .turnComplete)] ∧
  t.islandPanelOpen = true ∧ t.toast = none ∧
  (t.islandPanelOpen = true → t.islandRecords ≠ [] ∧
    t.islandPanelList.highlighted < t.islandRecords.length) := by
  let view : IslandView := ⟨.island, .desktop, false, 2⟩
  let arrival (kind : ToastKind) (paneId : PaneId) : Operation :=
    .applyPaneStateChange view .toast ⟨kind, "w1", "w1:t1", paneId, none, "codex", false⟩ none
  have run : Run (ofFunction Island.step) initial [arrival .finished ⟨1⟩, arrival .finished ⟨2⟩,
      .toggleIslandPanel view, arrival .needsAttention ⟨1⟩, .pruneIslandRecords [⟨1⟩]] _ :=
    (run_ofFunction_iff Island.step).2 rfl
  exact ⟨_, by decide, by decide, by decide, (records_panel_toast_of_run run).2.2.2.1⟩

end Island

end App
