import VimeflowTerminal.App.LoopState

/-! When the next of the agents' metadata and of the metadata tokens expires, what is dropped
when that time has come, and whether something overdue is left behind. -/

namespace Terminal

open Deadlines

namespace TerminalState

/-- The next expiry that still has to be acted on: one to come, or one whose event is
still owed. -/
def nextAgentMetadataExpiry (s : TerminalState) (clock : Instant) : Option Instant :=
  let matching := (FinMap.values s.agentMetadata).filter s.agentMetadataMatchesGuards
  ((matching.filterMap agentMetadataExpiry).filter fun deadline =>
    clock < deadline || matching.any fun metadata =>
      metadata.expiryEventPending && agentMetadataExpiry metadata == some deadline).min?

/-- Some metadata that is shown has expired and its event is still owed. -/
def MetadataOverdue (s : TerminalState) (now : Instant) : Prop :=
  ∃ source metadata, s.agentMetadata.lookup source = some metadata ∧
    s.agentMetadataMatchesGuards metadata = true ∧ metadata.expiryEventPending = true ∧
    Due now (agentMetadataExpiry metadata)

variable {s : TerminalState} {now : Instant}

theorem later_nextAgentMetadataExpiry {clock : Instant} (hClock : now ≤ clock) :
  Later now (s.nextAgentMetadataExpiry clock) ↔ ¬ s.MetadataOverdue now := by
  unfold nextAgentMetadataExpiry
  rw [later_min?]
  constructor
  · rintro hLater ⟨source, metadata, hLookup, hMatches, hOwed, hDue⟩
    obtain ⟨d, hExpiry, hDue⟩ := due_iff.1 hDue
    have hMatching : metadata ∈
        (FinMap.values s.agentMetadata).filter s.agentMetadataMatchesGuards :=
      List.mem_filter.2 ⟨FinMap.mem_values.2 ⟨source, hLookup⟩, hMatches⟩
    refine absurd (hLater d (List.mem_filter.2
      ⟨List.mem_filterMap.2 ⟨metadata, hMatching, hExpiry⟩, ?_⟩)) (not_lt.2 hDue)
    simp only [Bool.or_eq_true, List.any_eq_true, Bool.and_eq_true, beq_iff_eq]
    exact Or.inr ⟨metadata, hMatching, hOwed, hExpiry⟩
  · intro hNotOverdue d hMem
    obtain ⟨_, hKept⟩ := List.mem_filter.1 hMem
    simp only [Bool.or_eq_true, decide_eq_true_eq, List.any_eq_true, Bool.and_eq_true,
      beq_iff_eq] at hKept
    rcases hKept with hAfter | ⟨metadata, hMatching, hOwed, hExpiry⟩
    · exact lt_of_le_of_lt hClock hAfter
    obtain ⟨hValue, hMatches⟩ := List.mem_filter.1 hMatching
    obtain ⟨source, hLookup⟩ := FinMap.mem_values.1 hValue
    by_contra hDue
    apply hNotOverdue
    refine ⟨source, metadata, hLookup, hMatches, hOwed, due_iff.2 ⟨d, hExpiry, ?_⟩⟩
    exact not_lt.1 hDue

/-- None of the metadata has expired. -/
def MetadataFresh (s : TerminalState) (now : Instant) : Prop :=
  ∀ source metadata, s.agentMetadata.lookup source = some metadata →
    Later now (agentMetadataExpiry metadata)

theorem MetadataFresh.not_overdue (hFresh : s.MetadataFresh now) : ¬ s.MetadataOverdue now := by
  rintro ⟨source, metadata, hLookup, -, -, hDue⟩
  exact (hFresh source metadata hLookup).not_due hDue

/-- Recomputing changes no report and no lifetime. -/
theorem MetadataFresh.recompute (hFresh : s.MetadataFresh now) (previous : Previous)
  (clock : Instant) :
  (s.recomputeEffectiveState previous clock).1.MetadataFresh now := by
  have hCleared : s.clearExpiryPendingForHiddenMetadata.MetadataFresh now := by
    intro source metadata hLookup
    simp only [clearExpiryPendingForHiddenMetadata, FinMap.lookup_mapValues,
      Option.map_eq_some_iff] at hLookup
    obtain ⟨before, hBefore, rfl⟩ := hLookup
    have hExpiry : agentMetadataExpiry (if before.expiryEventPending &&
        !s.agentMetadataIsVisibleIgnoringTtl before then
          { before with expiryEventPending := false } else before) =
        agentMetadataExpiry before := by
      split <;> rfl
    rw [hExpiry]
    exact hFresh source before hBefore
  unfold recomputeEffectiveState
  dsimp only
  split
  · exact hCleared
  · exact hCleared

theorem mem_expiredMetadataSources {source : String} {metadata : AgentMetadata} {d : Instant}
  (hLookup : s.agentMetadata.lookup source = some metadata)
  (hExpiry : agentMetadataExpiry metadata = some d) (hDue : d ≤ now) :
  (source, d) ∈ s.expiredMetadataSources now := by
  refine List.mem_filter.2 ⟨FinMap.mem_collect.2 ⟨source, metadata, hLookup, ?_⟩, ?_⟩
  · rw [hExpiry]
    rfl
  · simpa using hDue

/-- Whatever has expired is dropped, silently or not. -/
theorem metadataFresh_expireAgentMetadataAt (s : TerminalState) (scheduledDeadline now : Instant) :
  (s.expireAgentMetadataAt scheduledDeadline now).1.MetadataFresh now := by
  unfold expireAgentMetadataAt
  set split := (s.expiredMetadataSources now).partition fun expired =>
    decide (scheduledDeadline ≤ expired.2) with hSplit
  obtain ⟨expired, stale⟩ := split
  have hParts : ∀ entry ∈ s.expiredMetadataSources now, entry ∈ expired ∨ entry ∈ stale := by
    intro entry hMem
    rw [List.partition_eq_filter_filter] at hSplit
    cases hSplit
    by_cases hAfter : scheduledDeadline ≤ entry.2
    · exact Or.inl (List.mem_filter.2 ⟨hMem, by simpa using hAfter⟩)
    · exact Or.inr (List.mem_filter.2 ⟨hMem, by simpa using hAfter⟩)
  have hRemoved : ((s.removeMetadata (stale.map Prod.fst)).removeMetadata
      (expired.map Prod.fst)).MetadataFresh now := by
    intro source metadata hLookup
    obtain ⟨hLookup, hNotExpired⟩ := FinMap.mem_retain.1 hLookup
    obtain ⟨hLookup, hNotStale⟩ := FinMap.mem_retain.1 hLookup
    rw [← not_due_iff]
    intro hDue
    obtain ⟨d, hExpiry, hDue⟩ := due_iff.1 hDue
    rcases hParts (source, d) (mem_expiredMetadataSources hLookup hExpiry hDue) with hMem | hMem
    · exact of_decide_eq_true hNotExpired (List.mem_map.2 ⟨(source, d), hMem, rfl⟩)
    · exact of_decide_eq_true hNotStale (List.mem_map.2 ⟨(source, d), hMem, rfl⟩)
  dsimp only
  split
  next hEmpty =>
    rw [List.isEmpty_iff.1 hEmpty] at hRemoved
    intro source metadata hLookup
    apply hRemoved source metadata
    exact FinMap.mem_retain.2 ⟨hLookup, by simp⟩
  next => exact hRemoved.recompute _ _

theorem recompute_launch (s : TerminalState) (previous : Previous) (clock : Instant) :
  (s.recomputeEffectiveState previous clock).1.managedAgent = s.managedAgent ∧
    (s.recomputeEffectiveState previous clock).1.pendingAgentResumePlan =
      s.pendingAgentResumePlan := by
  obtain ⟨metadata, state, hEq⟩ := s.recomputeEffectiveState_eq previous clock
  rw [hEq]
  exact ⟨rfl, rfl⟩

theorem expireAgentMetadataAt_launch (s : TerminalState) (scheduledDeadline now : Instant) :
  (s.expireAgentMetadataAt scheduledDeadline now).1.managedAgent = s.managedAgent ∧
    (s.expireAgentMetadataAt scheduledDeadline now).1.pendingAgentResumePlan =
      s.pendingAgentResumePlan := by
  unfold expireAgentMetadataAt
  dsimp only
  split
  · exact ⟨rfl, rfl⟩
  · exact recompute_launch _ _ _

end TerminalState

end Terminal

namespace App

open Layout Workspaces Terminal Deadlines

/-- The panes the layouts show, with their workspaces and their terminals. -/
def paneTerminals (workspaces : List Workspace) : List (Nat × PaneId × TerminalId) :=
  workspaces.zipIdx.flatMap fun (ws, wsIdx) =>
    ws.tabs.flatMap fun tab =>
      tab.layout.paneIds.filterMap fun paneId =>
        (ws.paneState paneId).map fun pane => (wsIdx, paneId, pane.attachedTerminalId)

namespace AppLoop

variable (s : AppLoop)

def nextAgentMetadataExpiry {now : Instant} (around : Surroundings now) : Option Instant :=
  earliest (
    (s.terminals.entries.map fun e => e.2.nextAgentMetadataExpiry (around.metadataRead e.1).time) ++
    (s.terminals.entries.map fun e => (s.metadataTokens e.1).nextExpiry) ++
    s.workspaceTokens.map MetadataTokens.nextExpiry)

def syncAgentMetadataDeadline {now : Instant} (around : Surroundings now) : AppLoop :=
  { s with agentMetadataDeadline := s.nextAgentMetadataExpiry around }

/-- Expire the metadata of one pane's terminal and announce what becomes of its agent. -/
def expirePaneMetadata {now : Instant} (around : Surroundings now) (scheduledDeadline : Instant)
  (pane : Nat × PaneId × TerminalId) : AppLoop :=
  let (wsIdx, paneId, terminalId) := pane
  match s.workspaces[wsIdx]?.bind fun ws => ws.paneState paneId, s.terminals.lookup terminalId with
  | some _, some terminal =>
    let (expired, mutation) := terminal.expireAgentMetadataAt scheduledDeadline now
    let s := s.updateTerminal terminalId fun _ => expired
    match mutation.bind (·.effectiveStateChange) with
    | none => s
    | some change => { s with
        toAppState := (s.toAppState.applyPaneStateChange s.announcing
          (around.notified paneId).time wsIdx paneId change).1 }
  | _, _ => s

def expireAgentMetadataAt {now : Instant} (around : Surroundings now)
  (scheduledDeadline : Instant) : AppLoop :=
  (paneTerminals s.workspaces).foldl
    (fun s pane => s.expirePaneMetadata around scheduledDeadline pane) s

/-- Expire the tokens of one pane's terminal. -/
def expirePaneTokens (now : Instant) (pane : Nat × PaneId × TerminalId) : AppLoop :=
  let terminalId := pane.2.2
  match s.terminals.lookup terminalId with
  | none => s
  | some _ =>
    let (tokens, changed) := (s.metadataTokens terminalId).expireAt now
    let s := { s with metadataTokens := Function.update s.metadataTokens terminalId tokens }
    if changed then
      s.updateTerminal terminalId fun terminal =>
        { terminal with revision := min (terminal.revision + 1) (2 ^ 64 - 1) }
    else s

def expireMetadataTokens (now : Instant) : AppLoop :=
  let s := (paneTerminals s.workspaces).foldl (fun s pane => s.expirePaneTokens now pane) s
  { s with workspaceTokens := s.workspaceTokens.map fun tokens => (tokens.expireAt now).1 }

def expireMetadataAt {now : Instant} (around : Surroundings now) (deadline : Instant) : AppLoop :=
  ((s.expireAgentMetadataAt around deadline).expireMetadataTokens now).syncAgentMetadataDeadline
    around

/-- Whatever is shown by no pane and has expired has already been acted on. -/
def UnshownMetadataSettled (now : Instant) : Prop :=
  ∀ id terminal, s.terminals.lookup id = some terminal →
    id ∉ (paneTerminals s.workspaces).map (·.2.2) →
      ¬ terminal.MetadataOverdue now ∧ Later now (s.metadataTokens id).nextExpiry

/-- A launch and a resume of a terminal that are pending. -/
def launch (terminal : TerminalState) : Option ManagedAgent × Option AgentResume.AgentResumePlan :=
  (terminal.managedAgent, terminal.pendingAgentResumePlan)

/-- From `s` to `t` metadata expired and was announced, and nothing else changed. -/
structure OnlyMetadata (now : Instant) (s t : AppLoop) : Prop where
  rest : t = { s with
    toAppState := t.toAppState
    metadataTokens := t.metadataTokens
    workspaceTokens := t.workspaceTokens }
  workspaces : t.workspaces.map Workspace.allSeen = s.workspaces.map Workspace.allSeen
  active : t.active = s.active
  pending : ∀ paneId pending, t.pendingAgentNotifications.lookup paneId = some pending →
    s.pendingAgentNotifications.lookup paneId = some pending ∨ now < pending.deadline
  launches : ∀ id, (t.terminals.lookup id).map launch = (s.terminals.lookup id).map launch

variable {s} {now : Instant}

theorem OnlyMetadata.refl : OnlyMetadata now s s where
  rest := rfl
  workspaces := rfl
  active := rfl
  pending := fun _ _ hLookup => Or.inl hLookup
  launches := fun _ => rfl

variable {t : AppLoop}

theorem OnlyMetadata.trans {u : AppLoop} (hLeft : OnlyMetadata now s t)
  (hRight : OnlyMetadata now t u) : OnlyMetadata now s u where
  rest := by
    rw [hRight.rest, hLeft.rest]
  workspaces := hRight.workspaces.trans hLeft.workspaces
  active := hRight.active.trans hLeft.active
  pending := by
    intro paneId pending hLookup
    rcases hRight.pending paneId pending hLookup with hLookup | hLater
    · exact hLeft.pending paneId pending hLookup
    · exact Or.inr hLater
  launches := fun id => (hRight.launches id).trans (hLeft.launches id)

theorem OnlyMetadata.updateTerminal (id : TerminalId) (update : TerminalState → TerminalState)
  (hLaunch : ∀ terminal, s.terminals.lookup id = some terminal →
    launch (update terminal) = launch terminal) :
  OnlyMetadata now s (s.updateTerminal id update) where
  rest := rfl
  workspaces := rfl
  active := rfl
  pending := fun _ _ hLookup => Or.inl hLookup
  launches := by
    intro other
    rw [lookup_updateTerminal, Option.map_map]
    cases hLookup : s.terminals.lookup other with
    | none => rfl
    | some terminal =>
      simp only [Option.map_some, Function.comp_apply]
      split
      next hSame => rw [hLaunch terminal (hSame ▸ hLookup)]
      next => rfl

theorem OnlyMetadata.announced {t : AppState} (hAnnounced : AppState.Announced now s.toAppState t) :
  OnlyMetadata now s { s with toAppState := t } where
  rest := rfl
  workspaces := hAnnounced.workspaces
  active := hAnnounced.active
  pending := hAnnounced.pending
  launches := fun _ => by rw [hAnnounced.terminals]

/-- A pane that is there. -/
def Shown (s : AppLoop) (pane : Nat × PaneId × TerminalId) : Prop :=
  (s.workspaces[pane.1]?.bind fun ws => ws.paneState pane.2.1).isSome = true

theorem OnlyMetadata.shown (hOnly : OnlyMetadata now s t) {pane : Nat × PaneId × TerminalId}
  (hShown : s.Shown pane) : t.Shown pane := by
  have hWs := congrArg (fun workspaces : List Workspace =>
    (workspaces[pane.1]?.bind fun ws => ws.paneState pane.2.1).isSome) hOnly.workspaces
  simp only [List.getElem?_map, Option.bind_map, Function.comp_def, Workspace.paneState_allSeen]
    at hWs
  unfold Shown at *
  rw [← hShown]
  cases hT : t.workspaces[pane.1]? <;> cases hS : s.workspaces[pane.1]? <;> simp_all

section Pane

variable (around : Surroundings now) (scheduledDeadline : Instant)
  (pane : Nat × PaneId × TerminalId)

theorem onlyMetadata_expirePaneMetadata :
  OnlyMetadata now s (s.expirePaneMetadata around scheduledDeadline pane) := by
  obtain ⟨wsIdx, paneId, terminalId⟩ := pane
  unfold expirePaneMetadata
  dsimp only
  split
  next pane terminal _ hTerminal =>
    have hLaunch : ∀ other, s.terminals.lookup terminalId = some other →
        launch (terminal.expireAgentMetadataAt scheduledDeadline now).1 = launch other := by
      intro other hOther
      obtain rfl := Option.some.inj (hTerminal.symm.trans hOther)
      obtain ⟨hManaged, hPlan⟩ := terminal.expireAgentMetadataAt_launch scheduledDeadline now
      exact Prod.ext hManaged hPlan
    have hUpdated := @OnlyMetadata.updateTerminal s now terminalId _ hLaunch
    split
    · exact hUpdated
    · exact hUpdated.trans (OnlyMetadata.announced
        (AppState.announced_applyPaneStateChange _ (around.notified paneId) wsIdx paneId _))
  next => exact OnlyMetadata.refl

theorem lookup_expirePaneMetadata (hShown : s.Shown pane) (id : TerminalId) :
  (s.expirePaneMetadata around scheduledDeadline pane).terminals.lookup id =
    (s.terminals.lookup id).map fun terminal =>
      if id = pane.2.2 then (terminal.expireAgentMetadataAt scheduledDeadline now).1
      else terminal := by
  obtain ⟨wsIdx, paneId, terminalId⟩ := pane
  obtain ⟨found, hFound⟩ := Option.isSome_iff_exists.1 hShown
  have hUpdated : ∀ terminal, s.terminals.lookup terminalId = some terminal →
      (s.updateTerminal terminalId fun _ =>
        (terminal.expireAgentMetadataAt scheduledDeadline now).1).terminals.lookup id =
          (s.terminals.lookup id).map fun terminal =>
            if id = terminalId then (terminal.expireAgentMetadataAt scheduledDeadline now).1
            else terminal := by
    intro terminal hTerminal
    rw [lookup_updateTerminal]
    cases hLookup : s.terminals.lookup id with
    | none => rfl
    | some other =>
      simp only [Option.map_some]
      split
      next hSame =>
        subst hSame
        rw [Option.some.inj (hTerminal.symm.trans hLookup)]
      next => rfl
  unfold expirePaneMetadata
  dsimp only
  rw [hFound]
  cases hTerminal : s.terminals.lookup terminalId with
  | none =>
    cases hLookup : s.terminals.lookup id with
    | none => rfl
    | some other =>
      have hOther : id ≠ terminalId := by
        rintro rfl
        rw [hTerminal] at hLookup
        cases hLookup
      simp [hOther]
  | some terminal =>
    dsimp only
    split
    · exact hUpdated terminal hTerminal
    rw [(AppState.announced_applyPaneStateChange _ (around.notified paneId) wsIdx paneId
      _).terminals]
    exact hUpdated terminal hTerminal

theorem metadataTokens_expirePaneMetadata :
  (s.expirePaneMetadata around scheduledDeadline pane).metadataTokens = s.metadataTokens := by
  unfold expirePaneMetadata
  dsimp only
  split
  · split <;> rfl
  · rfl

end Pane

/-- The metadata of a terminal, if there is one, has not expired. -/
def FreshIn (s : AppLoop) (now : Instant) (id : TerminalId) : Prop :=
  ∀ terminal, s.terminals.lookup id = some terminal → terminal.MetadataFresh now

theorem foldl_expirePaneMetadata (around : Surroundings now) (scheduledDeadline : Instant)
  (panes : List (Nat × PaneId × TerminalId)) (hShown : ∀ pane ∈ panes, s.Shown pane) :
  let t := panes.foldl (fun s pane => s.expirePaneMetadata around scheduledDeadline pane) s
  OnlyMetadata now s t ∧ t.metadataTokens = s.metadataTokens ∧
    (∀ id, id ∉ panes.map (·.2.2) → t.terminals.lookup id = s.terminals.lookup id) ∧
    ∀ id, s.FreshIn now id ∨ id ∈ panes.map (·.2.2) → t.FreshIn now id := by
  induction panes generalizing s with
  | nil =>
    exact ⟨OnlyMetadata.refl, rfl, fun _ _ => rfl, fun id hFresh => by simpa using hFresh⟩
  | cons pane panes ih =>
    have hPane := hShown pane List.mem_cons_self
    have hOnly := @onlyMetadata_expirePaneMetadata s now around scheduledDeadline pane
    have hLookup := @lookup_expirePaneMetadata s now around scheduledDeadline pane hPane
    obtain ⟨hRest, hTokens, hOthers, hFresh⟩ := @ih
      (s.expirePaneMetadata around scheduledDeadline pane)
      fun other hMem => hOnly.shown (hShown other (List.mem_cons_of_mem _ hMem))
    refine ⟨hOnly.trans hRest, ?_, ?_, ?_⟩
    · exact hTokens.trans (metadataTokens_expirePaneMetadata around scheduledDeadline pane)
    · intro id hOther
      rw [List.map_cons, List.mem_cons, not_or] at hOther
      refine (hOthers id hOther.2).trans ?_
      rw [hLookup]
      simp [hOther.1]
    · intro id hId
      apply hFresh
      rw [List.map_cons, List.mem_cons] at hId
      by_cases hRestMem : id ∈ panes.map (·.2.2)
      · exact Or.inr hRestMem
      refine Or.inl ?_
      intro terminal hTerminal
      rw [hLookup, Option.map_eq_some_iff] at hTerminal
      obtain ⟨before, hBefore, rfl⟩ := hTerminal
      split
      next => exact before.metadataFresh_expireAgentMetadataAt scheduledDeadline now
      next hOther =>
        rcases hId with hOld | hSame | hMem
        · exact hOld before hBefore
        · exact absurd hSame hOther
        · exact absurd hMem hRestMem

section Tokens

variable (pane : Nat × PaneId × TerminalId)

theorem onlyMetadata_expirePaneTokens : OnlyMetadata now s (s.expirePaneTokens now pane) := by
  have hTokens : ∀ tokens, OnlyMetadata now s { s with metadataTokens := tokens } := fun _ =>
    ⟨rfl, rfl, rfl, fun _ _ hLookup => Or.inl hLookup, fun _ => rfl⟩
  unfold expirePaneTokens
  dsimp only
  split
  · exact OnlyMetadata.refl
  split
  · exact (hTokens _).trans (OnlyMetadata.updateTerminal _ _ fun _ _ => rfl)
  · exact hTokens _

/-- Expiring tokens touches no metadata. -/
theorem lookup_expirePaneTokens {id : TerminalId} :
  ((s.expirePaneTokens now pane).terminals.lookup id).map (fun terminal =>
      { terminal with revision := 0 }) =
    (s.terminals.lookup id).map fun terminal => { terminal with revision := 0 } := by
  unfold expirePaneTokens
  dsimp only
  split
  · rfl
  split
  · rw [lookup_updateTerminal, Option.map_map]
    congr 1
    funext terminal
    dsimp only [Function.comp_apply]
    split <;> rfl
  · rfl

theorem metadataTokens_expirePaneTokens (id : TerminalId) :
  (s.expirePaneTokens now pane).metadataTokens id =
    if id = pane.2.2 ∧ pane.2.2 ∈ s.terminals then ((s.metadataTokens id).expireAt now).1
    else s.metadataTokens id := by
  unfold expirePaneTokens
  dsimp only
  cases hLookup : s.terminals.lookup pane.2.2 with
  | none => simp [AList.lookup_eq_none.1 hLookup]
  | some terminal =>
    have hMem : pane.2.2 ∈ s.terminals := AList.lookup_isSome.1 (by rw [hLookup]; rfl)
    have hUpdate : Function.update s.metadataTokens pane.2.2
        ((s.metadataTokens pane.2.2).expireAt now).1 id =
        if id = pane.2.2 ∧ pane.2.2 ∈ s.terminals then ((s.metadataTokens id).expireAt now).1
        else s.metadataTokens id := by
      by_cases hSame : id = pane.2.2
      · subst hSame
        simp [hMem]
      · simp [hSame]
    dsimp only
    split <;> exact hUpdate

theorem mem_expirePaneTokens {id : TerminalId} :
  id ∈ (s.expirePaneTokens now pane).terminals ↔ id ∈ s.terminals := by
  have hLookup := congrArg Option.isSome (@lookup_expirePaneTokens s now pane id)
  rw [Option.isSome_map, Option.isSome_map] at hLookup
  rw [← AList.lookup_isSome, ← AList.lookup_isSome, hLookup]

end Tokens

theorem foldl_expirePaneTokens (panes : List (Nat × PaneId × TerminalId)) :
  let t := panes.foldl (fun s pane => s.expirePaneTokens now pane) s
  OnlyMetadata now s t ∧
    (∀ id, (t.terminals.lookup id).map (fun terminal => { terminal with revision := 0 }) =
      (s.terminals.lookup id).map fun terminal => { terminal with revision := 0 }) ∧
    (∀ id, id ∉ panes.map (·.2.2) → t.metadataTokens id = s.metadataTokens id) ∧
    ∀ id ∈ s.terminals, Later now (s.metadataTokens id).nextExpiry ∨ id ∈ panes.map (·.2.2) →
      Later now (t.metadataTokens id).nextExpiry := by
  induction panes generalizing s with
  | nil =>
    exact ⟨OnlyMetadata.refl, fun _ => rfl, fun _ _ => rfl, fun id _ hId => by simpa using hId⟩
  | cons pane panes ih =>
    obtain ⟨hOnly, hTerminals, hOthers, hLater⟩ := @ih (s.expirePaneTokens now pane)
    refine ⟨(onlyMetadata_expirePaneTokens pane).trans hOnly, ?_, ?_, ?_⟩
    · intro id
      exact (hTerminals id).trans (lookup_expirePaneTokens pane)
    · intro id hOther
      rw [List.map_cons, List.mem_cons, not_or] at hOther
      refine (hOthers id hOther.2).trans ?_
      rw [metadataTokens_expirePaneTokens, if_neg fun hBoth => hOther.1 hBoth.1]
    · intro id hMem hId
      apply hLater id ((mem_expirePaneTokens pane).2 hMem)
      rw [List.map_cons, List.mem_cons] at hId
      by_cases hRestMem : id ∈ panes.map (·.2.2)
      · exact Or.inr hRestMem
      refine Or.inl ?_
      rw [metadataTokens_expirePaneTokens]
      split
      next => exact MetadataTokens.later_expireAt _ now
      next hNot =>
        rcases hId with hOld | hSame | hIn
        · exact hOld
        · exact absurd ⟨hSame, hSame ▸ hMem⟩ hNot
        · exact absurd hIn hRestMem

theorem metadataOverdue_revision {terminal other : TerminalState}
  (hSame : ({ terminal with revision := 0 } : TerminalState) = { other with revision := 0 }) :
  terminal.MetadataOverdue now ↔ other.MetadataOverdue now := by
  have hRevision : ∀ terminal : TerminalState, terminal.MetadataOverdue now ↔
      ({ terminal with revision := 0 } : TerminalState).MetadataOverdue now := fun _ => Iff.rfl
  rw [hRevision terminal, hSame, ← hRevision other]

/-- The layouts and what they show do not depend on what has been seen. -/
theorem paneTerminals_allSeen (workspaces : List Workspace) :
  paneTerminals (workspaces.map Workspace.allSeen) = paneTerminals workspaces := by
  unfold paneTerminals
  rw [List.zipIdx_map, List.flatMap_map]
  congr 1
  funext entry
  obtain ⟨ws, wsIdx⟩ := entry
  simp only [Prod.map_apply, Workspace.allSeen, List.flatMap_map, id_eq]
  congr 1
  funext tab
  congr 1
  funext paneId
  have hPane := ws.paneState_allSeen paneId
  unfold Workspace.allSeen at hPane
  rw [hPane, Option.map_map]
  rfl

theorem OnlyMetadata.paneTerminals (hOnly : OnlyMetadata now s t) :
  App.paneTerminals t.workspaces = App.paneTerminals s.workspaces := by
  rw [← paneTerminals_allSeen, hOnly.workspaces, paneTerminals_allSeen]

theorem shown_of_mem_paneTerminals {pane : Nat × PaneId × TerminalId}
  (hMem : pane ∈ App.paneTerminals s.workspaces) : s.Shown pane := by
  obtain ⟨⟨ws, wsIdx⟩, hWs, hMem⟩ := List.mem_flatMap.1 hMem
  obtain ⟨tab, _, hMem⟩ := List.mem_flatMap.1 hMem
  obtain ⟨paneId, _, hPane⟩ := List.mem_filterMap.1 hMem
  obtain ⟨found, hFound, rfl⟩ := Option.map_eq_some_iff.1 hPane
  have hGet : s.workspaces[wsIdx]? = some ws := List.mem_zipIdx_iff_getElem?.1 hWs
  unfold Shown
  rw [hGet, Option.bind_some, hFound]
  rfl

theorem later_nextAgentMetadataExpiry (around : Surroundings now) :
  Later now (s.nextAgentMetadataExpiry around) ↔
    (∀ id terminal, s.terminals.lookup id = some terminal →
      ¬ terminal.MetadataOverdue now ∧ Later now (s.metadataTokens id).nextExpiry) ∧
    ∀ tokens ∈ s.workspaceTokens, Later now tokens.nextExpiry := by
  unfold nextAgentMetadataExpiry
  rw [later_earliest]
  simp only [List.mem_append, List.mem_map, or_imp, forall_and, forall_exists_index, and_imp,
    forall_apply_eq_imp_iff₂]
  have hReading : ∀ e : Sigma fun _ : TerminalId => TerminalState,
      Later now (e.2.nextAgentMetadataExpiry (around.metadataRead e.1).time) ↔
        ¬ e.2.MetadataOverdue now := fun e =>
    TerminalState.later_nextAgentMetadataExpiry (around.metadataRead e.1).notBefore
  simp only [hReading, FinMap.mem_entries_iff, Sigma.forall]

/-- The terminals the layouts show. -/
def shownTerminals (s : AppLoop) : List TerminalId := (App.paneTerminals s.workspaces).map (·.2.2)

theorem expireAgentMetadataAt_spec (around : Surroundings now) (deadline : Instant) :
  let t := s.expireAgentMetadataAt around deadline
  OnlyMetadata now s t ∧ t.metadataTokens = s.metadataTokens ∧
    (∀ id, id ∉ s.shownTerminals → t.terminals.lookup id = s.terminals.lookup id) ∧
    ∀ id ∈ s.shownTerminals, t.FreshIn now id := by
  obtain ⟨hOnly, hTokens, hOthers, hFresh⟩ := foldl_expirePaneMetadata around deadline
    (App.paneTerminals s.workspaces) fun _ hMem => shown_of_mem_paneTerminals hMem
  exact ⟨hOnly, hTokens, hOthers, fun id hShown => hFresh id (Or.inr hShown)⟩

theorem expireMetadataTokens_spec (s : AppLoop) :
  let t := s.expireMetadataTokens now
  OnlyMetadata now s t ∧
    (∀ id, (t.terminals.lookup id).map (fun terminal => { terminal with revision := 0 }) =
      (s.terminals.lookup id).map fun terminal => { terminal with revision := 0 }) ∧
    (∀ id, id ∉ s.shownTerminals → t.metadataTokens id = s.metadataTokens id) ∧
    (∀ id ∈ s.terminals, id ∈ s.shownTerminals → Later now (t.metadataTokens id).nextExpiry) ∧
    ∀ tokens ∈ t.workspaceTokens, Later now tokens.nextExpiry := by
  obtain ⟨hOnly, hTerminals, hOthers, hLater⟩ :=
    @foldl_expirePaneTokens s now (App.paneTerminals s.workspaces)
  refine ⟨hOnly.trans ⟨rfl, rfl, rfl, fun _ _ hLookup => Or.inl hLookup, fun _ => rfl⟩,
    hTerminals, hOthers, fun id hMem hShown => hLater id hMem (Or.inr hShown), ?_⟩
  intro tokens hMem
  obtain ⟨before, _, rfl⟩ := List.mem_map.1 hMem
  exact MetadataTokens.later_expireAt before now

/-- Expiring what is due: only metadata changes, and the next expiry is later than now
exactly if what no pane shows had been settled. -/
theorem expireMetadataAt_spec (around : Surroundings now) (deadline : Instant) :
  let t := s.expireMetadataAt around deadline
  OnlyMetadata now s { t with agentMetadataDeadline := s.agentMetadataDeadline } ∧
    (Later now t.agentMetadataDeadline ↔ s.UnshownMetadataSettled now) := by
  obtain ⟨hExpired, hSameTokens, hOthers, hFresh⟩ :=
    @expireAgentMetadataAt_spec s now around deadline
  obtain ⟨hCleared, hTerminals, hTokenOthers, hTokenLater, hSpaces⟩ :=
    @expireMetadataTokens_spec now (s.expireAgentMetadataAt around deadline)
  have hShown : (s.expireAgentMetadataAt around deadline).shownTerminals = s.shownTerminals := by
    unfold shownTerminals
    rw [hExpired.paneTerminals]
  rw [hShown] at hTokenOthers hTokenLater
  have hOnly := hExpired.trans hCleared
  refine ⟨⟨?_, hOnly.workspaces, hOnly.active, hOnly.pending, hOnly.launches⟩, ?_⟩
  · exact congrArg (fun t : AppLoop => { t with agentMetadataDeadline := s.agentMetadataDeadline })
      hOnly.rest
  refine (later_nextAgentMetadataExpiry around).trans ?_
  constructor
  · rintro ⟨hEach, _⟩ id terminal hLookup hUnshown
    have hBefore := (hOthers id hUnshown).trans hLookup
    have hAfter := hTerminals id
    rw [hBefore] at hAfter
    obtain ⟨after, hAfterLookup, hSame⟩ := Option.map_eq_some_iff.1 hAfter
    obtain ⟨hNot, hLater⟩ := hEach id after hAfterLookup
    rw [hTokenOthers id hUnshown, hSameTokens] at hLater
    exact ⟨fun hOverdue => hNot ((metadataOverdue_revision hSame).2 hOverdue), hLater⟩
  · intro hSettled
    refine ⟨?_, hSpaces⟩
    intro id terminal hLookup
    have hAfter := hTerminals id
    rw [hLookup] at hAfter
    obtain ⟨before, hBefore, hSame⟩ := Option.map_eq_some_iff.1 hAfter.symm
    by_cases hIn : id ∈ s.shownTerminals
    · have hMem : id ∈ (s.expireAgentMetadataAt around deadline).terminals :=
        AList.lookup_isSome.1 (by rw [hBefore]; rfl)
      refine ⟨?_, hTokenLater id hMem hIn⟩
      rw [← metadataOverdue_revision hSame]
      exact (hFresh id hIn before hBefore).not_overdue
    · obtain ⟨hNot, hLater⟩ := hSettled id before ((hOthers id hIn).symm.trans hBefore) hIn
      rw [hTokenOthers id hIn, hSameTokens]
      exact ⟨fun hOverdue => hNot ((metadataOverdue_revision hSame).2 hOverdue), hLater⟩

end AppLoop

end App
