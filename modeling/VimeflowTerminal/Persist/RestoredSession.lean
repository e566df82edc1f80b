import VimeflowTerminal.Persist.RestoredWorkspace

/-! What the rest of the program relies on in a workspace, and which snapshots are
restored to workspaces that have it. -/

namespace Persist

open Layout Workspaces

/-- The ratios that the arithmetic of the layout relies on. -/
def InRange (ratio : ℚ) : Prop := 1 / 10 ≤ ratio ∧ ratio ≤ 9 / 10

/-- The panes of a workspace, tab by tab and from left to right. -/
def leafIds (ws : Workspace) : List PaneId := ws.tabs.flatMap fun tab => tab.layout.paneIds

/-- A workspace that the rest of the program can work with. -/
structure Sound (ws : Workspace) : Prop where
  someTab : ws.tabs ≠ []
  activeTab : ws.activeTab < ws.tabs.length
  each : ∀ tab ∈ ws.tabs, tab.WellFormed
  leaves : (leafIds ws).Nodup
  ratios : ∀ tab ∈ ws.tabs, ∀ ratio ∈ splitRatios tab.layout.root, InRange ratio
  tabNumbers : ws.tabNumbers.Nodup ∧ ∀ n ∈ ws.tabNumbers, n < ws.nextPublicTabNumber
  registered : ∀ id, id ∈ ws.publicPaneNumbers ↔ id ∈ leafIds ws
  paneNumbers : ws.publicPaneNumbers.values.Nodup ∧
    ∀ n ∈ ws.publicPaneNumbers.values, n < ws.nextPublicPaneNumber

/-- Numbers that are distinct and leave room for a next one. -/
def Assignable (numbers : List Nat) : Prop :=
  numbers.Nodup ∧ ∀ n ∈ numbers, n + 1 < usizeLimit

instance (numbers : List Nat) : Decidable (Assignable numbers) := inferInstanceAs (Decidable (_ ∧ _))

/-- The splits that keep panes on both sides have ratios in range, and the numbers of the tabs
and panes that come back are assignable. -/
structure Safe (survives : Nat → Bool) (snap : WorkspaceSnapshot) : Prop where
  ratios : ∀ tab ∈ snap.tabs, ∀ ratio ∈ tab.layout.keptRatios survives, InRange ratio
  tabNumbers : Assignable ((keptTabs survives snap).map (entryNumber snap))
  paneNumbers : Assignable ((keptLeaves survives snap).map snap.paneNumber)

variable {survives : Nat → Bool}

theorem keptRatios_of_none {layout : LayoutSnapshot}
  (hNone : layout.collectPaneIds.any survives = false) : layout.keptRatios survives = [] := by
  induction layout with
  | pane => rfl
  | split direction ratio first second ihFirst ihSecond =>
    rw [LayoutSnapshot.collectPaneIds, List.any_append, Bool.or_eq_false_iff] at hNone
    rw [LayoutSnapshot.keptRatios, hNone.1, ihFirst hNone.1, ihSecond hNone.2]
    rfl

theorem keptEntries_of_alive {entry : TabSnapshot × Nat}
  (hAlive : entry.1.layout.collectPaneIds.any survives = true)
  (entries : List (TabSnapshot × Nat)) :
  keptEntries survives (entry :: entries) = entry :: keptEntries survives entries :=
  List.filter_cons_of_pos (p := fun entry : TabSnapshot × Nat => entry.1.layout.collectPaneIds.any survives) hAlive

theorem keptEntries_of_dead {entry : TabSnapshot × Nat}
  (hDead : ¬entry.1.layout.collectPaneIds.any survives = true)
  (entries : List (TabSnapshot × Nat)) :
  keptEntries survives (entry :: entries) = keptEntries survives entries :=
  List.filter_cons_of_neg (p := fun entry : TabSnapshot × Nat => entry.1.layout.collectPaneIds.any survives) hDead

section Tabs

variable {rename : Nat → PaneId} {survives : Nat → Bool} {snap : WorkspaceSnapshot}

/-- What the restored tabs hold is what the snapshot holds of their panes. -/
theorem flatMap_restored {β : Type} (saved : TabSnapshot → List β) (restored : Tab → List β)
  (hSame : ∀ tabSnap number tab, RestoredFrom rename survives tabSnap number tab →
    restored tab = saved tabSnap)
  (hNone : ∀ tabSnap, tabSnap.layout.collectPaneIds.any survives = false → saved tabSnap = [])
  (entries : List (TabSnapshot × Nat)) {tabs : List Tab} (hTabs : List.Forall₂ (fun entry tab =>
    RestoredFrom rename survives entry.1 (entryNumber snap entry) tab)
    (keptEntries survives entries) tabs) :
  tabs.flatMap restored = entries.flatMap fun entry => saved entry.1 := by
  induction entries generalizing tabs with
  | nil =>
    cases hTabs
    rfl
  | cons entry entries ih =>
    rw [List.flatMap_cons]
    by_cases hKept : entry.1.layout.collectPaneIds.any survives = true
    · rw [keptEntries_of_alive hKept] at hTabs
      cases hTabs with
      | cons hTab hRest => rw [List.flatMap_cons, hSame _ _ _ hTab, ih hRest]
    · rw [keptEntries_of_dead hKept] at hTabs
      rw [hNone _ (Bool.eq_false_iff.2 hKept), ih hTabs]
      rfl

theorem flatMap_zipIdx {β : Type} (saved : TabSnapshot → List β) (tabs : List TabSnapshot)
  (k : Nat) : ((tabs.zipIdx k).flatMap fun entry => saved entry.1) = tabs.flatMap saved := by
  induction tabs generalizing k with
  | nil => rfl
  | cons tab tabs ih => rw [List.zipIdx_cons, List.flatMap_cons, List.flatMap_cons, ih]

variable {ctx : RestoreContext} {ws : Workspace}

namespace WorkspaceRestored

section

variable (h : WorkspaceRestored ctx rename survives snap ws)
include h

theorem leafIds_eq :
  leafIds ws = (keptLeaves survives snap).map rename := by
  have hLeaves := flatMap_restored
    (fun tab => (tab.layout.collectPaneIds.filter survives).map rename)
    (fun tab => tab.layout.paneIds) (fun _ _ _ hTab => hTab.leaves) (fun tab hNone => by
      rw [List.filter_eq_nil_iff.2 (List.any_eq_false.1 hNone), List.map_nil]) _ h.tabs
  have hIndexed := flatMap_zipIdx
    (fun tab => (tab.layout.collectPaneIds.filter survives).map rename) snap.tabs 0
  rw [leafIds, hLeaves.trans hIndexed, keptLeaves, WorkspaceSnapshot.leaves, List.filter_flatMap,
    List.map_flatMap]

theorem ratios_eq :
  (ws.tabs.flatMap fun tab => splitRatios tab.layout.root) =
    snap.tabs.flatMap fun tab => tab.layout.keptRatios survives := by
  have hRatios := flatMap_restored (fun tab => tab.layout.keptRatios survives)
    (fun tab => splitRatios tab.layout.root) (fun _ _ _ hTab => hTab.ratios)
    (fun _ hNone => keptRatios_of_none hNone) _ h.tabs
  exact hRatios.trans (flatMap_zipIdx (fun tab => tab.layout.keptRatios survives) snap.tabs 0)

theorem tabNumbers_eq :
  ws.tabNumbers = (keptTabs survives snap).map (entryNumber snap) := by
  have hNumbers : List.Forall₂ (· = ·) (ws.tabs.map (·.number))
      ((keptTabs survives snap).map (entryNumber snap)) := by
    rw [List.forall₂_map_left_iff, List.forall₂_map_right_iff]
    exact List.Forall₂.flip (h.tabs.imp fun _ _ hTab => hTab.tabNumber)
  rwa [List.forall₂_eq_eq_eq] at hNumbers

theorem values_eq :
  ws.publicPaneNumbers.values = ((keptLeaves survives snap).map snap.paneNumber).reverse := by
  rw [FinMap.values, h.registry, List.map_reverse, List.map_map]
  rfl

theorem mem_registry {id : PaneId} :
  id ∈ ws.publicPaneNumbers ↔ id ∈ leafIds ws := by
  have hKeys : ws.publicPaneNumbers.keys = ((keptLeaves survives snap).map rename).reverse := by
    rw [AList.keys, List.keys, h.registry, List.map_reverse, List.map_map]
    rfl
  rw [h.leafIds_eq, ← List.mem_reverse, ← hKeys, AList.mem_keys]

theorem each :
  ∀ tab ∈ ws.tabs, tab.WellFormed := by
  have hEach := h.tabs.flip.imp fun _ _ hTab => And.intro hTab.wellFormed hTab
  exact ((List.forall₂_and_left _ _).1 hEach).1

end

end WorkspaceRestored

theorem assignable_map_iff {α : Type} (number : α → Nat) (items : List α) {next : Nat}
  (hNext : next < usizeLimit) :
  Assignable (items.map number) ↔ (items.map number).Nodup ∧
    ∀ n ∈ items.map number, n < pastAll number items next := by
  rw [Assignable, List.forall_mem_map, List.forall_mem_map, below_pastAll_iff hNext]

/-- A restored workspace is sound exactly if the snapshot is safe. -/
theorem sound_iff_safe (hAccepted : Accepted snap)
  (h : WorkspaceRestored ctx rename survives snap ws)
  (hDistinct : ((keptLeaves survives snap).map rename).Nodup) :
  Sound ws ↔ Safe survives snap := by
  have hFirst : snap.firstPaneNumber < usizeLimit := firstFreeNumber_lt hAccepted.nextPane
  have hTab : firstFreeNumber snap.publicTabNumbers snap.nextPublicTabNumber < usizeLimit :=
    firstFreeNumber_lt hAccepted.nextTab
  have hPanes := assignable_map_iff snap.paneNumber (keptLeaves survives snap)
    (foldl_migrateNumber_lt snap.leaves snap.publicPaneNumbers hFirst)
  have hTabs := assignable_map_iff (entryNumber snap) (keptTabs survives snap) hTab
  have hRatios : (∀ tab ∈ ws.tabs, ∀ ratio ∈ splitRatios tab.layout.root, InRange ratio) ↔
      ∀ tab ∈ snap.tabs, ∀ ratio ∈ tab.layout.keptRatios survives, InRange ratio := by
    rw [← List.forall_mem_flatMap, h.ratios_eq, List.forall_mem_flatMap]
  constructor
  · intro hSound
    refine ⟨hRatios.1 hSound.ratios, hTabs.2 ?_, hPanes.2 ?_⟩
    · rw [← h.tabNumbers_eq, ← h.nextTab]
      exact hSound.tabNumbers
    have hNumbers := hSound.paneNumbers
    simp only [h.values_eq, List.nodup_reverse, List.mem_reverse, h.nextPane] at hNumbers
    exact hNumbers
  · intro hSafe
    refine ⟨h.someTab, ?_, h.each, ?_, hRatios.2 hSafe.ratios, ?_, fun _ => h.mem_registry, ?_⟩
    · have hPos := List.length_pos_of_ne_nil h.someTab
      rw [h.activeTab]
      omega
    · rw [h.leafIds_eq]
      exact hDistinct
    · rw [h.tabNumbers_eq, h.nextTab]
      exact hTabs.1 hSafe.tabNumbers
    · simp only [h.values_eq, List.nodup_reverse, List.mem_reverse, h.nextPane]
      exact hPanes.1 hSafe.paneNumbers

end Tabs

/-- The workspaces of a session as they are restored one after the other. -/
def restorations (ctx : RestoreContext) :
  List WorkspaceSnapshot → RestoreState → List (WorkspaceSnapshot × RestoredWorkspace)
  | [], _ => []
  | snap :: snaps, st =>
    (snap, restoreWorkspace ctx snap st) ::
      restorations ctx snaps (restoreWorkspace ctx snap st).state

theorem addRestoredWorkspace_keeps (ctx : RestoreContext) (session : RestoredSession)
  (snap : WorkspaceSnapshot) :
  (addRestoredWorkspace ctx session snap).workspaces =
      session.workspaces ++ (restoreWorkspace ctx snap session.state).workspace.toList ∧
    (addRestoredWorkspace ctx session snap).outcomes =
      session.outcomes ++ (restoreWorkspace ctx snap session.state).outcomes ∧
    (addRestoredWorkspace ctx session snap).state =
      (restoreWorkspace ctx snap session.state).state := by
  unfold addRestoredWorkspace
  dsimp only
  split
  next hNone =>
    rw [hNone]
    exact ⟨(List.append_nil _).symm, rfl, rfl⟩
  next ws hSome =>
    rw [hSome]
    exact ⟨rfl, rfl, rfl⟩

theorem foldl_addRestoredWorkspace (ctx : RestoreContext) (snaps : List WorkspaceSnapshot)
  (session : RestoredSession) :
  (snaps.foldl (addRestoredWorkspace ctx) session).workspaces = session.workspaces ++
      (restorations ctx snaps session.state).filterMap (·.2.workspace) ∧
    (snaps.foldl (addRestoredWorkspace ctx) session).outcomes = session.outcomes ++
      (restorations ctx snaps session.state).flatMap (·.2.outcomes) := by
  induction snaps generalizing session with
  | nil => exact ⟨(List.append_nil _).symm, (List.append_nil _).symm⟩
  | cons snap snaps ih =>
    obtain ⟨hWorkspaces, hOutcomes, hState⟩ := addRestoredWorkspace_keeps ctx session snap
    obtain ⟨hRestWorkspaces, hRestOutcomes⟩ := ih (addRestoredWorkspace ctx session snap)
    rw [hState] at hRestWorkspaces hRestOutcomes
    constructor
    · rw [List.foldl_cons, hRestWorkspaces, hWorkspaces, List.append_assoc, restorations]
      cases hWorkspace : (restoreWorkspace ctx snap session.state).workspace with
      | none => simp [hWorkspace]
      | some ws => simp [hWorkspace]
    · rw [List.foldl_cons, hRestOutcomes, hOutcomes, List.append_assoc]
      rfl

theorem exists_state_of_mem_restorations {ctx : RestoreContext} {snaps : List WorkspaceSnapshot}
  {st : RestoreState} {entry : WorkspaceSnapshot × RestoredWorkspace}
  (hMem : entry ∈ restorations ctx snaps st) :
  entry.1 ∈ snaps ∧ ∃ st, entry.2 = restoreWorkspace ctx entry.1 st := by
  induction snaps generalizing st with
  | nil => cases hMem
  | cons snap snaps ih =>
    rcases List.mem_cons.1 hMem with rfl | hRest
    · exact ⟨List.mem_cons_self, st, rfl⟩
    · obtain ⟨hSnap, hState⟩ := ih hRest
      exact ⟨List.mem_cons_of_mem _ hSnap, hState⟩

/-- The panes that came back, by their saved ids. -/
def CameBack (outcomes : List PaneOutcome) (survives : Nat → Bool) : Prop :=
  ∀ outcome ∈ outcomes, ∀ oldId, outcome.oldId = some oldId → outcome.survived = survives oldId

/-- Whichever panes fail to start, a workspace restored from an accepted session is sound
exactly if its snapshot is safe for the panes that come back. -/
theorem restored_sound_iff (ctx : RestoreContext) (session : SessionSnapshot)
  (hAccepted : ∀ snap ∈ session.workspaces, Accepted snap) (ids : IdCounters)
  (importedPanes : Finset Nat) :
  (restoreWithImports ctx session ids importedPanes).workspaces =
      (restorations ctx session.workspaces ⟨ids, ∅, importedPanes, 0⟩).filterMap
        (·.2.workspace) ∧
    ∀ entry ∈ restorations ctx session.workspaces ⟨ids, ∅, importedPanes, 0⟩,
      ∀ survives, CameBack entry.2.outcomes survives →
        ∀ ws, entry.2.workspace = some ws → (Sound ws ↔ Safe survives entry.1) := by
  refine ⟨(foldl_addRestoredWorkspace ctx session.workspaces _).1, ?_⟩
  rintro ⟨snap, restored⟩ hMem survives hSurvives ws hWorkspace
  obtain ⟨hSnap, st, hRestored⟩ := exists_state_of_mem_restorations hMem
  have hAccept := hAccepted snap hSnap
  change restored = restoreWorkspace ctx snap st at hRestored
  subst hRestored
  obtain ⟨rename, hNames⟩ := exists_rename hAccept.leaves st.ids.nextPaneId
  rcases restoreWorkspace_spec ctx hAccept hNames hSurvives with ⟨-, hNone⟩ | ⟨ws', hSome, hWs⟩
  · rw [hNone] at hWorkspace
    cases hWorkspace
  obtain rfl : ws' = ws := Option.some.inj (hSome.symm.trans hWorkspace)
  have hAll : (snap.leaves.map rename).Nodup := hNames ▸ nodup_freshIds _ _
  exact sound_iff_safe hAccept hWs (hAll.sublist (List.filter_sublist.map rename))

def everythingStarts : RestoreContext where
  resumeAgentsOnRestore := false
  starts := fun _ => true
  now := fun _ => 0
  checkoutExists := fun _ => true

/-- A tab without names or agents. -/
def plainTab (layout : LayoutSnapshot) : TabSnapshot where
  customName := none
  layout
  panes := ∅
  zoomed := false
  focused := none
  rootPane := none

/-- Two tabs with one saved number, which is the one the second tab falls back to. The split of
the second tab has the ratio 2. -/
def oneSavedNumber : WorkspaceSnapshot where
  id := none
  customName := none
  worktreeSpace := none
  publicPaneNumbers := ∅
  nextPublicPaneNumber := 0
  publicTabNumbers := [2]
  nextPublicTabNumber := 0
  tabs := [plainTab (.pane 1), plainTab (.split .horizontal 2 (.pane 2) (.pane 3))]
  activeTab := 0

theorem accepted_oneSavedNumber : Accepted oneSavedNumber :=
  ⟨by decide, List.nodup_nil, Nat.two_pow_pos 64, Nat.two_pow_pos 64⟩

/-- Both tabs come back under the number 2, and the split keeps its ratio. -/
theorem restored_unsound : Accepted oneSavedNumber ∧
  ∃ ws, (restoreWithImports everythingStarts ⟨[oneSavedNumber], none, 0⟩ IdCounters.initial
      ∅).workspaces = [ws] ∧
    ws.tabNumbers = [2, 2] ∧ (ws.tabs.flatMap fun tab => splitRatios tab.layout.root) = [2] ∧
    ¬Sound ws := by
  refine ⟨accepted_oneSavedNumber, builtWorkspace everythingStarts oneSavedNumber
    ⟨IdCounters.initial, ∅, ∅, 0⟩, ?_, ?_, ?_, ?_⟩
  · with_unfolding_all rfl
  · with_unfolding_all rfl
  · with_unfolding_all rfl
  · intro hSound
    have hNodup : [2, 2].Nodup := hSound.tabNumbers.1
    exact absurd hNodup (by decide)

/-- The iff at the session above, all of whose panes start. -/
theorem restored_sound_iff_oneSavedNumber :
  ∃ ws, (restoreWorkspace everythingStarts oneSavedNumber
      ⟨IdCounters.initial, ∅, ∅, 0⟩).workspace = some ws ∧
    (Sound ws ↔ Safe (fun _ => true) oneSavedNumber) := by
  refine ⟨builtWorkspace everythingStarts oneSavedNumber ⟨IdCounters.initial, ∅, ∅, 0⟩, ?_, ?_⟩
  · with_unfolding_all rfl
  refine (restored_sound_iff everythingStarts ⟨[oneSavedNumber], none, 0⟩ ?_
    IdCounters.initial ∅).2 (oneSavedNumber, restoreWorkspace everythingStarts oneSavedNumber
      ⟨IdCounters.initial, ∅, ∅, 0⟩) List.mem_cons_self (fun _ => true) ?_ _ ?_
  · intro snap hSnap
    rw [List.mem_singleton.1 hSnap]
    exact accepted_oneSavedNumber
  · have hAll : ∀ outcome ∈ (restoreWorkspace everythingStarts oneSavedNumber
        ⟨IdCounters.initial, ∅, ∅, 0⟩).outcomes, outcome.survived = true := by
      with_unfolding_all decide
    intro outcome hMem _ _
    exact hAll outcome hMem
  · with_unfolding_all rfl

end Persist
