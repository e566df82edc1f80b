import VimeflowTerminal.Persist.RestoredTab

/-! The loop over the tabs of a workspace whose leaves are distinct: which tabs come
back, and which numbers they and their panes carry. -/

namespace Persist

open Layout Workspaces

/-- The leaves of some tabs, in order. -/
def tabLeaves (entries : List (TabSnapshot × Nat)) : List Nat :=
  entries.flatMap fun entry => entry.1.layout.collectPaneIds

/-- The tabs that keep a pane. -/
def keptEntries (survives : Nat → Bool) (entries : List (TabSnapshot × Nat)) :
  List (TabSnapshot × Nat) :=
  entries.filter fun entry => entry.1.layout.collectPaneIds.any survives

/-- Register the pane that a raw id has become. -/
def registerPane (rename : Nat → PaneId) (numberOf : Nat → Nat)
  (numbers : FinMap PaneId Nat × Nat) (oldId : Nat) : FinMap PaneId Nat × Nat :=
  (numbers.1.insert (rename oldId) (numberOf oldId),
    max numbers.2 (wrappingSucc (numberOf oldId)))

/-- The next tab number after a tab. -/
def countTab (snap : WorkspaceSnapshot) (next : Nat) (entry : TabSnapshot × Nat) : Nat :=
  max next (wrappingSucc (savedTabNumber snap entry.2))

theorem tabLeaves_cons (entry : TabSnapshot × Nat) (entries : List (TabSnapshot × Nat)) :
  tabLeaves (entry :: entries) = entry.1.layout.collectPaneIds ++ tabLeaves entries :=
  List.flatMap_cons

variable (ctx : RestoreContext) (snap : WorkspaceSnapshot) (migrated : FinMap Nat Nat)

theorem addRestoredTab_state (build : WorkspaceBuild) (entry : TabSnapshot × Nat) :
  let restored := restoreTab ctx entry.1 (savedTabNumber snap entry.2) build.state
  (addRestoredTab ctx snap migrated build entry).outcomes =
      build.outcomes ++ restored.outcomes ∧
    (addRestoredTab ctx snap migrated build entry).state = restored.state := by
  unfold addRestoredTab
  dsimp only
  split
  · exact ⟨rfl, rfl⟩
  · exact ⟨rfl, rfl⟩

section Named

variable {rename : Nat → PaneId}

variable {entry : TabSnapshot × Nat}

theorem names_cons {entries : List (TabSnapshot × Nat)} {next : Nat}
  (hNames : (tabLeaves (entry :: entries)).map rename =
    freshIds next (tabLeaves (entry :: entries)).length) :
  entry.1.layout.collectPaneIds.map rename =
      freshIds next entry.1.layout.collectPaneIds.length ∧
    (tabLeaves entries).map rename =
      freshIds (next + entry.1.layout.collectPaneIds.length) (tabLeaves entries).length := by
  rw [tabLeaves_cons, List.map_append, List.length_append, freshIds_append] at hNames
  exact List.append_inj hNames (by rw [List.length_map, length_freshIds])

/-- The loop adds one outcome for each leaf. -/
theorem foldl_outcomes (entries : List (TabSnapshot × Nat)) (build : WorkspaceBuild)
  (hNames : (tabLeaves entries).map rename =
    freshIds build.state.ids.nextPaneId (tabLeaves entries).length) :
  ∃ new, (entries.foldl (addRestoredTab ctx snap migrated) build).outcomes =
      build.outcomes ++ new ∧
    new.map (·.oldId) = (tabLeaves entries).map some ∧
    (entries.foldl (addRestoredTab ctx snap migrated) build).state.ids.nextPaneId =
      build.state.ids.nextPaneId + (tabLeaves entries).length := by
  induction entries generalizing build with
  | nil => exact ⟨[], (List.append_nil _).symm, rfl, rfl⟩
  | cons entry entries ih =>
    obtain ⟨hTab, hRest⟩ := names_cons hNames
    obtain ⟨hOutcomes, hState⟩ := addRestoredTab_state ctx snap migrated build entry
    have hNext := (restoreTab_outcomes ctx entry.1 (savedTabNumber snap entry.2) build.state).2
    rw [← hNext, ← hState] at hRest
    obtain ⟨new, hNew, hOldIds, hDrawn⟩ := ih _ hRest
    refine ⟨(restoreTab ctx entry.1 (savedTabNumber snap entry.2) build.state).outcomes ++ new, ?_,
      ?_, ?_⟩
    · rw [List.foldl_cons, hNew, hOutcomes, List.append_assoc]
    · rw [List.map_append, hOldIds, tabLeaves_cons, List.map_append,
        restoreTab_oldIds ctx entry.1 hTab]
    · rw [List.foldl_cons, hDrawn, hState, hNext, tabLeaves_cons, List.length_append,
        Nat.add_assoc]

/-- What the loop makes of the tabs. -/
structure TabsRestored (rename : Nat → PaneId) (survives : Nat → Bool) (numberOf : Nat → Nat)
  (snap : WorkspaceSnapshot) (entries : List (TabSnapshot × Nat))
  (build build' : WorkspaceBuild) : Prop where
  tabs : ∃ kept, build'.tabs = build.tabs ++ kept ∧
    List.Forall₂ (fun entry tab =>
      RestoredFrom rename survives entry.1 (savedTabNumber snap entry.2) tab)
      (keptEntries survives entries) kept
  numbers : (build'.publicPaneNumbers, build'.nextPublicPaneNumber) =
    ((tabLeaves entries).filter survives).foldl (registerPane rename numberOf)
      (build.publicPaneNumbers, build.nextPublicPaneNumber)
  nextTab : build'.nextPublicTabNumber =
    (keptEntries survives entries).foldl (countTab snap) build.nextPublicTabNumber

variable {survives : Nat → Bool} {numberOf : Nat → Nat} {migrated}

/-- The panes of a restored tab are registered under the migrated numbers. -/
theorem foldl_numberPane {oldIds kept : List Nat} {next : Nat}
  (hNames : oldIds.map rename = freshIds next oldIds.length)
  (hMigrated : ∀ oldId ∈ oldIds, migrated.lookup oldId = some (numberOf oldId))
  (hKept : ∀ oldId ∈ kept, oldId ∈ oldIds) (numbers : FinMap PaneId Nat × Nat) :
  (kept.map rename).foldl (numberPane migrated (reverseIdMap (recordNames rename ∅ oldIds)))
      numbers = kept.foldl (registerPane rename numberOf) numbers := by
  induction kept generalizing numbers with
  | nil => rfl
  | cons oldId kept ih =>
    have hOld := hKept oldId List.mem_cons_self
    have hNumber : numberPane migrated (reverseIdMap (recordNames rename ∅ oldIds)) numbers
        (rename oldId) = registerPane rename numberOf numbers oldId := by
      unfold numberPane
      rw [lookup_reverseIdMap hNames hOld, Option.getD_some, hMigrated oldId hOld]
      rfl
    rw [List.map_cons, List.foldl_cons, List.foldl_cons, hNumber]
    exact ih (fun other hMem => hKept other (List.mem_cons_of_mem _ hMem)) _

/-- One round of the loop, over a tab that keeps a pane or over one that does not. -/
theorem addRestoredTab_spec {build : WorkspaceBuild}
  (hNames : entry.1.layout.collectPaneIds.map rename =
    freshIds build.state.ids.nextPaneId entry.1.layout.collectPaneIds.length)
  (hMigrated : ∀ oldId ∈ entry.1.layout.collectPaneIds,
    migrated.lookup oldId = some (numberOf oldId)) (hSurvives : ∀ outcome ∈
    (restoreTab ctx entry.1 (savedTabNumber snap entry.2) build.state).outcomes,
      ∀ oldId, outcome.oldId = some oldId → outcome.survived = survives oldId) :
  TabsRestored rename survives numberOf snap [entry] build
    (addRestoredTab ctx snap migrated build entry) := by
  rcases restoreTab_spec ctx entry.1 hNames hSurvives with ⟨hDead, hTab⟩ | ⟨hAlive, tab, hTab, hFrom⟩
  · have hNone : entry.1.layout.collectPaneIds.filter survives = [] :=
      List.filter_eq_nil_iff.2 (List.any_eq_false.1 hDead)
    have hEntries : keptEntries survives [entry] = [] := by
      simp [keptEntries, hDead]
    have hLeaves : (tabLeaves [entry]).filter survives = [] := by
      rw [tabLeaves_cons, List.filter_append, hNone]
      rfl
    unfold addRestoredTab
    simp only [hTab]
    refine ⟨⟨[], (List.append_nil _).symm, ?_⟩, ?_, ?_⟩
    · rw [hEntries]
      exact .nil
    · rw [hLeaves]
      rfl
    · rw [hEntries]
      rfl
  · have hEntries : keptEntries survives [entry] = [entry] := by
      simp [keptEntries, hAlive]
    have hLeaves : (tabLeaves [entry]).filter survives =
        entry.1.layout.collectPaneIds.filter survives := by
      rw [tabLeaves_cons, List.filter_append]
      exact List.append_nil _
    unfold addRestoredTab
    simp only [hTab]
    refine ⟨⟨[tab], rfl, ?_⟩, ?_, ?_⟩
    · rw [hEntries]
      exact .cons hFrom .nil
    · rw [hLeaves, hFrom.leaves]
      exact foldl_numberPane hNames hMigrated (fun _ hMem => (List.mem_filter.1 hMem).1) _
    · rw [hEntries, hFrom.tabNumber]
      rfl

/-- Rounds compose. -/
theorem TabsRestored.trans {entries : List (TabSnapshot × Nat)}
  {build build' build'' : WorkspaceBuild}
  (hFirst : TabsRestored rename survives numberOf snap [entry] build build')
  (hRest : TabsRestored rename survives numberOf snap entries build' build'') :
  TabsRestored rename survives numberOf snap (entry :: entries) build build'' := by
  have hEntries : keptEntries survives (entry :: entries) =
      keptEntries survives [entry] ++ keptEntries survives entries :=
    List.filter_append [entry] entries
  have hLeaves : tabLeaves (entry :: entries) = tabLeaves [entry] ++ tabLeaves entries := by
    rw [tabLeaves_cons, tabLeaves_cons]
    exact congrArg (· ++ tabLeaves entries) (List.append_nil _).symm
  obtain ⟨keptFirst, hTabsFirst, hForFirst⟩ := hFirst.tabs
  obtain ⟨keptRest, hTabsRest, hForRest⟩ := hRest.tabs
  refine ⟨⟨keptFirst ++ keptRest, ?_, ?_⟩, ?_, ?_⟩
  · rw [hTabsRest, hTabsFirst, List.append_assoc]
  · rw [hEntries]
    exact List.rel_append hForFirst hForRest
  · rw [hRest.numbers, hFirst.numbers, hLeaves, List.filter_append, List.foldl_append]
  · rw [hRest.nextTab, hFirst.nextTab, hEntries, List.foldl_append]

/-- The whole loop, over tabs whose leaves are renamed to the next pane ids. -/
theorem foldl_addRestoredTab (entries : List (TabSnapshot × Nat)) (build : WorkspaceBuild)
  (hNames : (tabLeaves entries).map rename =
    freshIds build.state.ids.nextPaneId (tabLeaves entries).length)
  (hMigrated : ∀ oldId ∈ tabLeaves entries, migrated.lookup oldId = some (numberOf oldId))
  {new : List PaneOutcome}
  (hNew : (entries.foldl (addRestoredTab ctx snap migrated) build).outcomes =
    build.outcomes ++ new) (hSurvives : ∀ outcome ∈ new, ∀ oldId, outcome.oldId = some oldId →
    outcome.survived = survives oldId) :
  TabsRestored rename survives numberOf snap entries build
    (entries.foldl (addRestoredTab ctx snap migrated) build) := by
  induction entries generalizing build new with
  | nil => exact ⟨⟨[], (List.append_nil _).symm, .nil⟩, rfl, rfl⟩
  | cons entry entries ih =>
    obtain ⟨hTab, hRest⟩ := names_cons hNames
    rw [tabLeaves_cons] at hMigrated
    obtain ⟨hOutcomes, hState⟩ := addRestoredTab_state ctx snap migrated build entry
    have hNext := (restoreTab_outcomes ctx entry.1 (savedTabNumber snap entry.2) build.state).2
    rw [← hNext, ← hState] at hRest
    obtain ⟨later, hLater, -, -⟩ := foldl_outcomes ctx snap migrated entries _ hRest
    rw [List.foldl_cons, hLater, hOutcomes, List.append_assoc] at hNew
    have hSplit := List.append_cancel_left hNew
    subst hSplit
    refine TabsRestored.trans snap (addRestoredTab_spec ctx snap hTab
      (fun oldId hMem => hMigrated oldId (List.mem_append_left _ hMem))
      fun outcome hMem => hSurvives outcome (List.mem_append_left _ hMem)) ?_
    exact ih _ hRest (fun oldId hMem => hMigrated oldId (List.mem_append_right _ hMem)) hLater
      fun outcome hMem => hSurvives outcome (List.mem_append_right _ hMem)

end Named

/-- The counter once it is past the numbers of some items. -/
def pastAll {α : Type} (number : α → Nat) (items : List α) (next : Nat) : Nat :=
  items.foldl (fun next item => max next (wrappingSucc (number item))) next

theorem wrappingSucc_lt (n : Nat) : wrappingSucc n < usizeLimit :=
  Nat.mod_lt _ (Nat.two_pow_pos 64)

section PastAll

variable {α : Type} {number : α → Nat} {items : List α} {next : Nat}

theorem pastAll_lt (hNext : next < usizeLimit) : pastAll number items next < usizeLimit := by
  induction items generalizing next with
  | nil => exact hNext
  | cons item items ih => exact ih (max_lt hNext (wrappingSucc_lt (number item)))

theorem le_pastAll : next ≤ pastAll number items next := by
  induction items generalizing next with
  | nil => exact Nat.le_refl next
  | cons item items ih => exact Nat.le_trans (Nat.le_max_left _ _) ih

theorem succ_le_pastAll {item : α} (hMem : item ∈ items) :
  wrappingSucc (number item) ≤ pastAll number items next := by
  induction items generalizing next with
  | nil => cases hMem
  | cons head items ih =>
    cases List.mem_cons.1 hMem with
    | inl hHead =>
      rw [hHead]
      exact Nat.le_trans (Nat.le_max_right _ _) le_pastAll
    | inr hTail => exact ih hTail

theorem below_pastAll_iff (hNext : next < usizeLimit) :
  (∀ item ∈ items, number item < pastAll number items next) ↔
    ∀ item ∈ items, number item + 1 < usizeLimit := by
  constructor
  · intro hBelow item hMem
    have hLimit : pastAll number items next < usizeLimit := pastAll_lt hNext
    exact Nat.lt_of_le_of_lt (hBelow item hMem) hLimit
  · intro hRoom item hMem
    have hPast : wrappingSucc (number item) ≤ pastAll number items next := succ_le_pastAll hMem
    rwa [wrappingSucc, Nat.mod_eq_of_lt (hRoom item hMem)] at hPast

end PastAll

variable {next oldId : Nat} {saved : FinMap Nat Nat}

theorem firstFreeNumber_lt {saved : List Nat} (hNext : next < usizeLimit) :
  firstFreeNumber saved next < usizeLimit := by
  refine max_lt ?_ hNext
  cases hFree : saved.max?.bind checkedSucc with
  | none => exact Nat.one_lt_two_pow (by decide)
  | some free =>
    obtain ⟨greatest, -, hSucc⟩ := Option.bind_eq_some_iff.1 hFree
    unfold checkedSucc at hSucc
    split at hSucc
    next hLt =>
      cases hSucc
      exact hLt
    next => cases hSucc

/-- Registering panes under new names adds their numbers to the registry. -/
theorem foldl_registerPane {rename : Nat → PaneId} {numberOf : Nat → Nat} {kept : List Nat}
  (hNodup : (kept.map rename).Nodup) (numbers : FinMap PaneId Nat × Nat)
  (hFresh : ∀ oldId ∈ kept, rename oldId ∉ numbers.1) :
  (kept.foldl (registerPane rename numberOf) numbers).1.entries =
      (kept.map fun oldId => ⟨rename oldId, numberOf oldId⟩).reverse ++ numbers.1.entries ∧
    (kept.foldl (registerPane rename numberOf) numbers).2 =
      pastAll numberOf kept numbers.2 := by
  induction kept generalizing numbers with
  | nil => exact ⟨rfl, rfl⟩
  | cons oldId kept ih =>
    rw [List.map_cons, List.nodup_cons] at hNodup
    have hNew : rename oldId ∉ numbers.1 := hFresh oldId List.mem_cons_self
    have hLater : ∀ other ∈ kept,
        rename other ∉ (registerPane rename numberOf numbers oldId).1 := by
      intro other hMem
      have hDistinct : rename other ≠ rename oldId := by
        intro hEq
        exact hNodup.1 (hEq ▸ List.mem_map_of_mem hMem)
      have hAbsent := hFresh other (List.mem_cons_of_mem _ hMem)
      show rename other ∉ numbers.1.insert (rename oldId) (numberOf oldId)
      rw [AList.mem_insert]
      tauto
    obtain ⟨hEntries, hNext⟩ := ih hNodup.2 _ hLater
    refine ⟨?_, hNext⟩
    rw [List.foldl_cons, hEntries, List.map_cons, List.reverse_cons, List.append_assoc]
    show _ ++ (numbers.1.insert (rename oldId) (numberOf oldId)).entries = _
    rw [AList.entries_insert_of_notMem hNew]
    rfl

/-- The leaves of a workspace, tab by tab. -/
def WorkspaceSnapshot.leaves (snap : WorkspaceSnapshot) : List Nat :=
  snap.tabs.flatMap fun tab => tab.layout.collectPaneIds

/-- The leaves that were saved without a number. -/
def unnumbered (saved : FinMap Nat Nat) (oldIds : List Nat) : List Nat :=
  oldIds.filter (· ∉ saved)

/-- The number a pane was saved with, or else the next one of the counter. -/
def assignedNumber (saved : FinMap Nat Nat) (oldIds : List Nat) (next oldId : Nat) : Nat :=
  (saved.lookup oldId).getD ((next + (unnumbered saved oldIds).idxOf oldId) % usizeLimit)

theorem wrappingSucc_lt_and_add (k : Nat) :
  (wrappingSucc next + k) % usizeLimit = (next + (k + 1)) % usizeLimit := by
  rw [wrappingSucc, Nat.mod_add_mod, Nat.add_assoc, Nat.add_comm 1 k]

theorem unnumbered_insert {number : Nat} {oldIds : List Nat} (hAbsent : oldId ∉ oldIds) :
  unnumbered (saved.insert oldId number) oldIds = unnumbered saved oldIds := by
  have hSame : ∀ other ∈ oldIds,
      decide (other ∉ saved.insert oldId number) = decide (other ∉ saved) := by
    intro other hMem
    have hOther : other ≠ oldId := fun hEq => hAbsent (hEq ▸ hMem)
    rw [decide_eq_decide, AList.mem_insert, not_or]
    exact and_iff_right hOther
  exact List.filter_congr hSame

theorem migrateNumber_of_mem (hMem : oldId ∈ saved) :
  migrateNumber (saved, next) oldId = (saved, next) :=
  if_pos hMem

theorem migrateNumber_of_notMem (hNew : oldId ∉ saved) :
  migrateNumber (saved, next) oldId = (saved.insert oldId next, wrappingSucc next) :=
  if_neg hNew

/-- A leaf has a number once its turn has come. -/
theorem mem_migrateNumber {head : Nat} {oldIds : List Nat} (next : Nat)
  (hMem : oldId ∈ head :: oldIds ∨ oldId ∈ saved) :
  oldId ∈ oldIds ∨ oldId ∈ (migrateNumber (saved, next) head).1 := by
  rw [List.mem_cons] at hMem
  by_cases hSaved : head ∈ saved
  · have hHead : oldId = head → oldId ∈ saved := fun hEq => hEq ▸ hSaved
    rw [migrateNumber_of_mem hSaved]
    tauto
  · rw [migrateNumber_of_notMem hSaved, AList.mem_insert]
    tauto

/-- Migrating leaves the saved numbers alone and counts the panes without one. -/
theorem lookup_foldl_migrateNumber {oldIds : List Nat} (hNodup : oldIds.Nodup)
  (saved : FinMap Nat Nat) (hNext : next < usizeLimit) (hMem : oldId ∈ oldIds ∨ oldId ∈ saved) :
  (oldIds.foldl migrateNumber (saved, next)).1.lookup oldId =
    some (assignedNumber saved oldIds next oldId) := by
  induction oldIds generalizing saved next with
  | nil =>
    obtain ⟨number, hNumber⟩ := Option.isSome_iff_exists.1
      (AList.lookup_isSome.2 (hMem.resolve_left List.not_mem_nil))
    simp [assignedNumber, hNumber]
  | cons head oldIds ih =>
    rw [List.nodup_cons] at hNodup
    rw [List.foldl_cons]
    have hNumbered := mem_migrateNumber next hMem
    by_cases hSaved : head ∈ saved
    · rw [migrateNumber_of_mem hSaved, ih hNodup.2 saved hNext ?_]
      · simp [assignedNumber, unnumbered, hSaved]
      · rwa [migrateNumber_of_mem hSaved] at hNumbered
    · rw [migrateNumber_of_notMem hSaved, ih hNodup.2 _ (wrappingSucc_lt next) ?_]
      · have hFirst : unnumbered saved (head :: oldIds) = head :: unnumbered saved oldIds :=
          List.filter_cons_of_pos (decide_eq_true hSaved)
        unfold assignedNumber
        rw [unnumbered_insert hNodup.1, hFirst]
        by_cases hHead : oldId = head
        · subst hHead
          rw [AList.lookup_insert, AList.lookup_eq_none.2 hSaved, List.idxOf_cons_self]
          exact congrArg some (Nat.mod_eq_of_lt hNext).symm
        · rw [AList.lookup_insert_ne hHead, List.idxOf_cons_ne _ (Ne.symm hHead),
            wrappingSucc_lt_and_add]
      · rwa [migrateNumber_of_notMem hSaved] at hNumbered

theorem foldl_migrateNumber_lt (oldIds : List Nat) (saved : FinMap Nat Nat)
  (hNext : next < usizeLimit) : (oldIds.foldl migrateNumber (saved, next)).2 < usizeLimit := by
  refine List.foldlRecOn oldIds migrateNumber (motive := fun numbers => numbers.2 < usizeLimit)
    (show (saved, next).2 < _ from hNext) ?_
  intro numbers hBound head _
  unfold migrateNumber
  split
  · exact hBound
  · exact wrappingSucc_lt _

namespace WorkspaceSnapshot

/-- The first number that no pane was saved with. -/
def firstPaneNumber (snap : WorkspaceSnapshot) : Nat :=
  firstFreeNumber snap.publicPaneNumbers.values snap.nextPublicPaneNumber

/-- The public number of a pane once it is restored. -/
def paneNumber (snap : WorkspaceSnapshot) (oldId : Nat) : Nat :=
  assignedNumber snap.publicPaneNumbers snap.leaves snap.firstPaneNumber oldId

end WorkspaceSnapshot

/-- The leaves are distinct, and so are the saved pane numbers. The counters are of type
`usize`. -/
structure Accepted (snap : WorkspaceSnapshot) : Prop where
  leaves : snap.leaves.Nodup
  numbers : snap.publicPaneNumbers.values.Nodup
  nextPane : snap.nextPublicPaneNumber < usizeLimit
  nextTab : snap.nextPublicTabNumber < usizeLimit

/-- The tabs of a snapshot that keep a pane, with their indices. -/
def keptTabs (survives : Nat → Bool) (snap : WorkspaceSnapshot) : List (TabSnapshot × Nat) :=
  keptEntries survives snap.tabs.zipIdx

/-- The leaves of a snapshot that come back. -/
def keptLeaves (survives : Nat → Bool) (snap : WorkspaceSnapshot) : List Nat :=
  snap.leaves.filter survives

/-- The number a tab of the snapshot comes back with. -/
def entryNumber (snap : WorkspaceSnapshot) (entry : TabSnapshot × Nat) : Nat :=
  savedTabNumber snap entry.2

/-- A workspace as it comes back: the surviving panes under their new names, in the tabs that
keep one. -/
structure WorkspaceRestored (ctx : RestoreContext) (rename : Nat → PaneId)
  (survives : Nat → Bool) (snap : WorkspaceSnapshot) (ws : Workspace) : Prop where
  id : ∀ id, snap.id = some id → ws.id = id
  customName : ws.customName = snap.customName
  worktreeSpace : ws.worktreeSpace = snap.worktreeSpace.filter ctx.checkoutExists
  tabs : List.Forall₂ (fun entry tab =>
    RestoredFrom rename survives entry.1 (entryNumber snap entry) tab) (keptTabs survives snap)
    ws.tabs
  someTab : ws.tabs ≠ []
  activeTab : ws.activeTab = min snap.activeTab (ws.tabs.length - 1)
  registry : ws.publicPaneNumbers.entries =
    ((keptLeaves survives snap).map fun oldId => ⟨rename oldId, snap.paneNumber oldId⟩).reverse
  nextPane : ws.nextPublicPaneNumber = pastAll snap.paneNumber (keptLeaves survives snap)
    (migratedPublicPaneNumbersByOldRaw snap snap.firstPaneNumber).2
  nextTab : ws.nextPublicTabNumber = pastAll (entryNumber snap) (keptTabs survives snap)
    (firstFreeNumber snap.publicTabNumbers snap.nextPublicTabNumber)

/-- What the loop over the tabs starts from. -/
def firstBuild (snap : WorkspaceSnapshot) (st : RestoreState) : WorkspaceBuild where
  tabs := []
  publicPaneNumbers := ∅
  nextPublicPaneNumber := (migratedPublicPaneNumbersByOldRaw snap snap.firstPaneNumber).2
  nextPublicTabNumber := firstFreeNumber snap.publicTabNumbers snap.nextPublicTabNumber
  terminals := []
  outcomes := []
  state := { st with ids := (restoredWorkspaceId snap st.ids).2 }

/-- What the loop over the tabs ends with. -/
def lastBuild (ctx : RestoreContext) (snap : WorkspaceSnapshot) (st : RestoreState) :
  WorkspaceBuild :=
  snap.tabs.zipIdx.foldl
    (addRestoredTab ctx snap (migratedPublicPaneNumbersByOldRaw snap snap.firstPaneNumber).1)
    (firstBuild snap st)

/-- The workspace around the tabs that came back. -/
def builtWorkspace (ctx : RestoreContext) (snap : WorkspaceSnapshot) (st : RestoreState) :
  Workspace where
  id := (restoredWorkspaceId snap st.ids).1
  customName := snap.customName
  worktreeSpace := snap.worktreeSpace.filter ctx.checkoutExists
  publicPaneNumbers := (lastBuild ctx snap st).publicPaneNumbers
  nextPublicPaneNumber := (lastBuild ctx snap st).nextPublicPaneNumber
  nextPublicTabNumber := (lastBuild ctx snap st).nextPublicTabNumber
  tabs := (lastBuild ctx snap st).tabs
  activeTab := min snap.activeTab ((lastBuild ctx snap st).tabs.length - 1)

theorem restoreWorkspace_eq (st : RestoreState) : restoreWorkspace ctx snap st =
  ⟨if (lastBuild ctx snap st).tabs.isEmpty then none else some (builtWorkspace ctx snap st),
    (lastBuild ctx snap st).terminals, (lastBuild ctx snap st).outcomes,
    (lastBuild ctx snap st).state⟩ :=
  rfl

theorem tabLeaves_zipIdx (tabs : List TabSnapshot) (k : Nat) :
  tabLeaves (tabs.zipIdx k) = tabs.flatMap fun tab => tab.layout.collectPaneIds := by
  induction tabs generalizing k with
  | nil => rfl
  | cons tab tabs ih => rw [List.zipIdx_cons, tabLeaves_cons, ih, List.flatMap_cons]

section Accepted

variable {snap} {rename : Nat → PaneId} {st : RestoreState}

theorem restoredWorkspaceId_keeps (ids : IdCounters) :
  (restoredWorkspaceId snap ids).2.nextPaneId = ids.nextPaneId := by
  unfold restoredWorkspaceId
  split
  · rfl
  · rfl

/-- A workspace draws one pane id for each of its leaves. -/
theorem restoreWorkspace_outcomes (hNames : snap.leaves.map rename =
    freshIds st.ids.nextPaneId snap.leaves.length) :
  (restoreWorkspace ctx snap st).outcomes.map (·.oldId) = snap.leaves.map some ∧
    (restoreWorkspace ctx snap st).state.ids.nextPaneId =
      st.ids.nextPaneId + snap.leaves.length := by
  have hLeaves : tabLeaves snap.tabs.zipIdx = snap.leaves := tabLeaves_zipIdx snap.tabs 0
  have hIds : (firstBuild snap st).state.ids.nextPaneId = st.ids.nextPaneId :=
    restoredWorkspaceId_keeps st.ids
  rw [← hIds, ← hLeaves] at hNames
  obtain ⟨new, hNew, hOldIds, hNext⟩ := foldl_outcomes ctx snap
    (migratedPublicPaneNumbersByOldRaw snap snap.firstPaneNumber).1 snap.tabs.zipIdx _ hNames
  rw [hIds] at hNext
  rw [← hLeaves, ← hOldIds]
  exact ⟨congrArg (List.map (·.oldId)) hNew, hNext⟩

/-- The loop over the tabs of an accepted snapshot. -/
theorem lastBuild_spec (hAccepted : Accepted snap)
  (hNames : snap.leaves.map rename = freshIds st.ids.nextPaneId snap.leaves.length)
  {survives : Nat → Bool}
  (hSurvives : ∀ outcome ∈ (restoreWorkspace ctx snap st).outcomes, ∀ oldId,
    outcome.oldId = some oldId → outcome.survived = survives oldId) :
  TabsRestored rename survives snap.paneNumber snap snap.tabs.zipIdx (firstBuild snap st)
    (lastBuild ctx snap st) := by
  have hLeaves : tabLeaves snap.tabs.zipIdx = snap.leaves := tabLeaves_zipIdx snap.tabs 0
  have hIds : (firstBuild snap st).state.ids.nextPaneId = st.ids.nextPaneId :=
    restoredWorkspaceId_keeps st.ids
  rw [← hIds, ← hLeaves] at hNames
  refine foldl_addRestoredTab ctx snap snap.tabs.zipIdx _ hNames ?_ (List.nil_append _).symm
    hSurvives
  intro oldId hMem
  rw [hLeaves] at hMem
  exact lookup_foldl_migrateNumber hAccepted.leaves _ (firstFreeNumber_lt hAccepted.nextPane)
    (Or.inl hMem)

/-- A workspace comes back exactly if one of its tabs does. -/
theorem restoreWorkspace_spec (hAccepted : Accepted snap)
  (hNames : snap.leaves.map rename = freshIds st.ids.nextPaneId snap.leaves.length)
  {survives : Nat → Bool}
  (hSurvives : ∀ outcome ∈ (restoreWorkspace ctx snap st).outcomes, ∀ oldId,
    outcome.oldId = some oldId → outcome.survived = survives oldId) :
  keptTabs survives snap = [] ∧ (restoreWorkspace ctx snap st).workspace = none ∨
    ∃ ws, (restoreWorkspace ctx snap st).workspace = some ws ∧
      WorkspaceRestored ctx rename survives snap ws := by
  have hRestored := lastBuild_spec ctx hAccepted hNames hSurvives
  have hDistinct : ((keptLeaves survives snap).map rename).Nodup := by
    have hAll : (snap.leaves.map rename).Nodup := hNames ▸ nodup_freshIds _ _
    exact hAll.sublist (List.filter_sublist.map rename)
  obtain ⟨hEntries, hNext⟩ := foldl_registerPane hDistinct
    ((firstBuild snap st).publicPaneNumbers, (firstBuild snap st).nextPublicPaneNumber)
    fun _ _ => AList.notMem_empty _
  have hNumbers := hRestored.numbers
  rw [tabLeaves_zipIdx snap.tabs 0] at hNumbers
  obtain ⟨kept, hTabs, hEach⟩ := hRestored.tabs
  have hKept : (lastBuild ctx snap st).tabs = kept := hTabs
  subst hKept
  rw [restoreWorkspace_eq]
  cases hEmpty : (lastBuild ctx snap st).tabs with
  | nil =>
    rw [hEmpty] at hEach
    exact Or.inl ⟨List.forall₂_nil_right_iff.1 hEach, rfl⟩
  | cons tab tabs =>
    refine Or.inr ⟨builtWorkspace ctx snap st, rfl, ?_, rfl, rfl, hEach, ?_, rfl, ?_, ?_,
      hRestored.nextTab⟩
    · intro id hId
      show (restoredWorkspaceId snap st.ids).1 = id
      rw [restoredWorkspaceId, hId]
    · show (lastBuild ctx snap st).tabs ≠ []
      rw [hEmpty]
      exact List.cons_ne_nil tab tabs
    · have hRegistry := (congrArg (fun numbers => numbers.1.entries) hNumbers).trans hEntries
      exact hRegistry.trans (List.append_nil _)
    · exact (congrArg Prod.snd hNumbers).trans hNext

end Accepted

end Persist
