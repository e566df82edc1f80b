import VimeflowTerminal.TitleSync.Engine

/-! A name other than the one last recorded stays as it is until the user changes it. -/

namespace TitleSync

open Transition TitleSync.System

def Work.apply (disk : Disk) : Work → Disk
  | .resolve .. => disk
  | .persist writes => writes.foldl Write.apply disk

namespace System

/-- The records once the worker has done what is in its queue. -/
def records (s : System) : Disk := s.queue.foldl Work.apply s.disk

/-- The last title recorded for a pane. -/
def recordedTitle (s : System) (paneId : List Char) : Option (List Char) :=
  (s.records.lookup paneId).map Ownership.title

/-- One look-up at most is on its way, behind all records that were made before it.
When it is done it has the records as they are. -/
inductive Coherent (s : System) : Prop where
  | idle (hFlight : s.engine.inFlight = false) (hEvents : s.events = [])
      (hQueue : ∀ work ∈ s.queue, ∃ writes, work = .persist writes)
  | resolving {records : List Work} {generation : UInt64} {panes : List PaneInput}
      (hFlight : s.engine.inFlight = true) (hEvents : s.events = [])
      (hQueue : s.queue = records ++ [.resolve generation panes])
      (hRecords : ∀ work ∈ records, ∃ writes, work = .persist writes)
  | resolved {generation : UInt64} {panes : List ResolvedPane}
      (hFlight : s.engine.inFlight = true) (hEvents : s.events = [(generation, panes)])
      (hQueue : s.queue = [])
      (hPrevious : ∀ pane ∈ panes, pane.previous = s.disk.lookup pane.paneId)

variable {s : System}

theorem coherent_started (hStart : Started s) : s.Coherent :=
  .idle hStart.inFlight hStart.events (by simp [hStart.queue])

theorem Coherent.withApp (h : s.Coherent) (app : App) : { s with app }.Coherent := by
  cases h with
  | idle hFlight hEvents hQueue => exact .idle hFlight hEvents hQueue
  | resolving hFlight hEvents hQueue hRecords => exact .resolving hFlight hEvents hQueue hRecords
  | resolved hFlight hEvents hQueue hPrevious => exact .resolved hFlight hEvents hQueue hPrevious

theorem Coherent.startResolution (hEvents : s.events = [])
  (hQueue : ∀ work ∈ s.queue, ∃ writes, work = .persist writes) (generation : UInt64) :
  (s.startResolution generation).Coherent :=
  .resolving rfl hEvents rfl hQueue

theorem Coherent.poll (h : s.Coherent) (now : Nat) : (s.poll now).Coherent := by
  unfold System.poll
  dsimp only
  split
  case isTrue => exact h
  case isFalse =>
    cases h with
    | idle hFlight hEvents hQueue =>
      rw [if_neg (by simp [hFlight])]
      refine Coherent.startResolution ?_ ?_ _
      · exact hEvents
      · exact hQueue
    | resolving hFlight hEvents hQueue hRecords =>
      rw [if_pos hFlight]
      exact .resolving hFlight hEvents hQueue hRecords
    | resolved hFlight hEvents hQueue hPrevious =>
      rw [if_pos hFlight]
      exact .resolved hFlight hEvents hQueue hPrevious

theorem Coherent.work {t : System} (h : s.Coherent) {titles : PaneInput → Option (List Char)}
  (hWork : s.work titles = some t) : t.Coherent := by
  unfold System.work at hWork
  cases h with
  | idle hFlight hEvents hQueue =>
    split at hWork
    case h_1 => cases hWork
    case h_2 generation panes queue hEq =>
      rw [hEq] at hQueue
      obtain ⟨writes, hWrites⟩ := hQueue _ List.mem_cons_self
      cases hWrites
    case h_3 writes queue hEq =>
      cases hWork
      rw [hEq] at hQueue
      exact .idle hFlight hEvents fun work hMem => hQueue work (List.mem_cons_of_mem _ hMem)
  | resolving hFlight hEvents hQueue hRecords =>
    rename_i records generation panes
    cases records with
    | nil =>
      rw [hQueue] at hWork
      cases hWork
      refine @Coherent.resolved _ generation (panes.map (resolvePane s.disk titles)) hFlight
        ?_ rfl ?_
      · simp [hEvents]
      intro pane hMem
      obtain ⟨input, -, rfl⟩ := List.mem_map.1 hMem
      rfl
    | cons record records =>
      obtain ⟨writes, rfl⟩ := hRecords record List.mem_cons_self
      rw [hQueue] at hWork
      cases hWork
      exact .resolving hFlight hEvents rfl fun work hMem =>
        hRecords work (List.mem_cons_of_mem _ hMem)
  | resolved hFlight hEvents hQueue hPrevious =>
    rw [hQueue] at hWork
    cases hWork

theorem Coherent.handleResolved {t : System} (h : s.Coherent) {succeeds : Nat → Bool}
  (hStep : s.handleResolved succeeds = some t) : t.Coherent := by
  unfold System.handleResolved at hStep
  cases h with
  | idle hFlight hEvents hQueue => rw [hEvents] at hStep; cases hStep
  | resolving hFlight hEvents hQueue hRecords => rw [hEvents] at hStep; cases hStep
  | resolved hFlight hEvents hQueue hPrevious =>
    rw [hEvents] at hStep
    cases hStep
    unfold complete
    dsimp only
    have hPersist : ∀ {writes : List Write} (work : Work), work ∈ s.queue ++ [.persist writes] →
        ∃ writes, work = .persist writes := by
      intro writes work hMem
      rw [hQueue, List.nil_append, List.mem_singleton] at hMem
      exact ⟨writes, hMem⟩
    split
    · exact Coherent.startResolution rfl (fun work hMem => hPersist work hMem) _
    · exact .idle rfl rfl fun work hMem => hPersist work hMem

theorem Coherent.step {s t : System} (h : s.Coherent) {label : Label}
  (hStep : step s label = some t) : t.Coherent := by
  cases label with
  | rename paneId label =>
    obtain ⟨app, -, rfl⟩ := Option.map_eq_some_iff.1 hStep
    exact h.withApp app
  | agentChanged paneId agent agentSession dirty =>
    obtain ⟨app, -, rfl⟩ := Option.map_eq_some_iff.1 hStep
    exact h.withApp app
  | poll now =>
    cases hStep
    exact h.poll now
  | work titles => exact h.work hStep
  | resolved succeeds => exact h.handleResolved hStep

end System

namespace App

variable {app : App} {paneId other : List Char} {resolved : ResolvedPane}

theorem labelOf_mutatePaneLabel_ne {after : App} {label : Option (List Char)}
  (hMutate : app.mutatePaneLabel other label = some after) (hNe : paneId ≠ other) :
  after.labelOf paneId = app.labelOf paneId := by
  obtain ⟨pane, -, hRest⟩ := Option.bind_eq_some_iff.1 hMutate
  dsimp only at hRest
  split at hRest
  · cases hRest
    rfl
  · cases hRest
    simp [labelOf, markTitleSyncDirty, AList.lookup_insert_ne hNe]

theorem labelOf_relabel_ne (app : App) (label : Option (List Char)) (hNe : paneId ≠ other) :
  (app.relabel other label).labelOf paneId = app.labelOf paneId := by
  unfold relabel
  cases hMutate : app.mutatePaneLabel other label with
  | none => rfl
  | some after => exact labelOf_mutatePaneLabel_ne hMutate hNe

theorem labelOf_agentChanged {after : App} {agent : Option (List Char)}
  {agentSession : Option AgentSession} {dirty : Bool}
  (hChange : agentChanged app other agent agentSession dirty = some after) (paneId : List Char) :
  after.labelOf paneId = app.labelOf paneId := by
  obtain ⟨pane, hPane, hEq⟩ := Option.map_eq_some_iff.1 hChange
  have hLabel : ({ app with panes := app.panes.insert other { pane with agent, agentSession } } :
      App).labelOf paneId = app.labelOf paneId := by
    by_cases hId : paneId = other
    · subst hId
      simp [labelOf, AList.lookup_insert, hPane]
    · simp [labelOf, AList.lookup_insert_ne hId]
  cases dirty with
  | false =>
    obtain rfl := hEq
    exact hLabel
  | true =>
    obtain rfl := hEq
    exact hLabel

/-- Applying a look-up for another pane. -/
theorem applyResolved_ne (app : App) (hNe : paneId ≠ resolved.paneId) :
  (app.applyResolved resolved).1.labelOf paneId = app.labelOf paneId := by
  unfold applyResolved
  dsimp only
  split
  · rfl
  split
  · rfl
  split
  · split
    · exact labelOf_relabel_ne app none hNe
    · rfl
  · split
    · rfl
    · exact labelOf_relabel_ne app none hNe
    · split
      · rfl
      · split
        · rfl
        · rename_i hMutate
          exact labelOf_mutatePaneLabel_ne hMutate hNe
    · split
      · split <;> rfl
      · rfl

theorem applyResolved_paneId {mutation : OwnershipMutation}
  (hMem : mutation ∈ (app.applyResolved resolved).2) : mutation.paneId = resolved.paneId := by
  unfold applyResolved at hMem
  dsimp only at hMem
  repeat' split at hMem
  all_goals simp_all

/-- A name that is not on record is left alone, and the record goes. -/
theorem applyResolved_manual {name title : List Char}
  (hLabel : app.labelOf resolved.paneId = some name)
  (hTitle : sanitizeTitle (some name) 200 = some title)
  (hOther : resolved.previous.map Ownership.title ≠ some title) :
  (app.applyResolved resolved).1 = app ∧
    ∀ mutation ∈ (app.applyResolved resolved).2, mutation.state = none := by
  obtain ⟨pane, hPane, hName⟩ := Option.bind_eq_some_iff.1 hLabel
  have hInput : app.titleSyncInput resolved.paneId = some (paneInput resolved.paneId pane) := by
    rw [titleSyncInput, hPane]
    rfl
  have hCurrent : sanitizeTitle (paneInput resolved.paneId pane).label 200 = some title := by
    show sanitizeTitle pane.manualLabel 200 = _
    rw [hName, hTitle]
  unfold applyResolved
  dsimp only
  rw [hInput]
  dsimp only
  split
  case isTrue => simp
  case isFalse =>
    rw [hCurrent, if_neg hOther, renameDecision_manual hCurrent hOther]
    split <;> simp

/-- Whatever look-ups are applied, a name that is not on record stays. -/
theorem applyTitleSyncResults_manual {panes : List ResolvedPane} {app : App}
  {paneId name title : List Char} (hLabel : app.labelOf paneId = some name)
  (hTitle : sanitizeTitle (some name) 200 = some title)
  (hOther : ∀ pane ∈ panes, pane.paneId = paneId → pane.previous.map Ownership.title ≠ some title) :
  (app.applyTitleSyncResults panes).1.labelOf paneId = some name ∧
    ∀ mutation ∈ (app.applyTitleSyncResults panes).2, mutation.paneId = paneId →
      mutation.state = none := by
  induction panes generalizing app with
  | nil => exact ⟨hLabel, by simp [applyTitleSyncResults]⟩
  | cons resolved panes ih =>
    have hFirst : (app.applyResolved resolved).1.labelOf paneId = some name ∧
        ∀ mutation ∈ (app.applyResolved resolved).2, mutation.paneId = paneId →
          mutation.state = none := by
      by_cases hId : resolved.paneId = paneId
      case pos =>
        obtain ⟨hApp, hNone⟩ := applyResolved_manual
          (show app.labelOf resolved.paneId = some name from hId ▸ hLabel) hTitle (hOther resolved List.mem_cons_self hId)
        refine ⟨?_, fun mutation hMem _ => hNone mutation hMem⟩
        rw [hApp]
        exact hLabel
      case neg =>
        refine ⟨(applyResolved_ne app (Ne.symm hId)).trans hLabel, fun mutation hMem hEq => ?_⟩
        exact absurd ((applyResolved_paneId hMem).symm.trans hEq) hId
    obtain ⟨hRestLabel, hRestNone⟩ :=
      ih hFirst.1 fun pane hMem => hOther pane (List.mem_cons_of_mem _ hMem)
    refine ⟨hRestLabel, fun mutation hMem hEq => ?_⟩
    rcases List.mem_append.1 hMem with hMem | hMem
    · exact hFirst.2 mutation hMem hEq
    · exact hRestNone mutation hMem hEq

end App

/-- Writing records of other panes, or dropping this one, does not put a title on
record for the pane. -/
theorem writes_other {writes : List Write} {disk : Disk} {paneId title : List Char}
  (hDisk : (disk.lookup paneId).map Ownership.title ≠ some title)
  (hWrites : ∀ write ∈ writes, write.mutation.paneId = paneId → write.mutation.state = none) :
  ((writes.foldl Write.apply disk).lookup paneId).map Ownership.title ≠ some title := by
  induction writes generalizing disk with
  | nil => exact hDisk
  | cons write writes ih =>
    refine ih ?_ fun write hMem => hWrites write (List.mem_cons_of_mem _ hMem)
    have hWrite := hWrites write List.mem_cons_self
    unfold Write.apply
    split
    case isFalse => exact hDisk
    case isTrue =>
      by_cases hId : write.mutation.paneId = paneId
      case pos =>
        rw [hWrite hId, hId]
        simp
      case neg =>
        split
        · rw [AList.lookup_insert_ne (Ne.symm hId)]
          exact hDisk
        · rw [AList.lookup_erase_ne (Ne.symm hId)]
          exact hDisk

/-- The pane has a name of its own, which is not the title on record. -/
structure Named (paneId name title : List Char) (s : System) : Prop where
  coherent : s.Coherent
  label : s.app.labelOf paneId = some name
  record : s.recordedTitle paneId ≠ some title

/-- The label is not a rename of the pane by the user. -/
def Label.sparesName (paneId : List Char) : Label → Prop
  | .rename other _ => other ≠ paneId
  | _ => True

variable {s : System}

theorem work_app {t : System} {titles : PaneInput → Option (List Char)}
  (hWork : s.work titles = some t) : t.app = s.app ∧ t.records = s.records := by
  unfold work at hWork
  split at hWork
  case h_1 => cases hWork
  case h_2 generation panes queue hEq =>
    cases hWork
    refine ⟨rfl, ?_⟩
    unfold records
    rw [hEq]
    rfl
  case h_3 writes queue hEq =>
    cases hWork
    refine ⟨rfl, ?_⟩
    unfold records
    rw [hEq]
    rfl

theorem records_startResolution (s : System) (generation : UInt64) :
  (s.startResolution generation).records = s.records := by
  simp [records, startResolution, Work.apply]

theorem poll_app (s : System) (now : Nat) :
  (s.poll now).app = s.app ∧ (s.poll now).records = s.records := by
  unfold poll
  dsimp only
  split
  · exact ⟨rfl, rfl⟩
  split
  · exact ⟨rfl, rfl⟩
  · exact ⟨rfl, records_startResolution _ _⟩

theorem complete_app (s : System) (generation : UInt64) (writes : List Write) :
  (s.complete generation writes).app = s.app ∧
    (s.complete generation writes).records = writes.foldl Write.apply s.records := by
  have hRecords : (s.queue ++ [Work.persist writes]).foldl Work.apply s.disk =
      writes.foldl Write.apply s.records := by
    rw [List.foldl_append]
    rfl
  unfold complete
  dsimp only
  split
  · refine ⟨rfl, ?_⟩
    rw [records_startResolution]
    exact hRecords
  · exact ⟨rfl, hRecords⟩

/-- What was looked up saw the records as they are. -/
theorem handleResolved_named {paneId name title : List Char}
  (hTitle : sanitizeTitle (some name) 200 = some title) {t : System}
  (h : Named paneId name title s) {succeeds : Nat → Bool}
  (hStep : s.handleResolved succeeds = some t) :
  t.app.labelOf paneId = some name ∧ t.recordedTitle paneId ≠ some title := by
  obtain ⟨hCoherent, hLabel, hRecord⟩ := h
  unfold handleResolved at hStep
  cases hCoherent with
  | idle hFlight hEvents hQueue => rw [hEvents] at hStep; cases hStep
  | resolving hFlight hEvents hQueue hRecords => rw [hEvents] at hStep; cases hStep
  | resolved hFlight hEvents hQueue hPrevious =>
    rename_i generation panes
    rw [hEvents] at hStep
    cases hStep
    have hDisk : s.records = s.disk := by
      rw [records, hQueue]
      rfl
    rw [recordedTitle, hDisk] at hRecord
    have hOther : ∀ pane ∈ panes, pane.paneId = paneId →
        pane.previous.map Ownership.title ≠ some title := by
      intro pane hMem hId
      rw [hPrevious pane hMem, hId]
      exact hRecord
    obtain ⟨hKept, hNone⟩ := App.applyTitleSyncResults_manual hLabel hTitle hOther
    refine ⟨by rw [(complete_app _ generation _).1]; exact hKept, ?_⟩
    rw [recordedTitle, (complete_app _ generation _).2]
    refine writes_other (show (s.records.lookup paneId).map Ownership.title ≠ some title by
      rw [hDisk]; exact hRecord) ?_
    intro write hMem hId
    obtain ⟨⟨mutation, index⟩, hPair, rfl⟩ := List.mem_map.1 hMem
    exact hNone mutation (List.fst_mem_of_mem_zipIdx hPair) hId

theorem Named.step {paneId name title : List Char}
  (hTitle : sanitizeTitle (some name) 200 = some title) {s t : System}
  (h : Named paneId name title s) {label : Label} (hSpares : label.sparesName paneId)
  (hStep : step s label = some t) : Named paneId name title t := by
  have hCoherent := h.coherent.step hStep
  cases label with
  | rename other label =>
    obtain ⟨app, hMutate, rfl⟩ := Option.map_eq_some_iff.1 hStep
    exact ⟨hCoherent, (App.labelOf_mutatePaneLabel_ne hMutate (Ne.symm hSpares)).trans h.label,
      h.record⟩
  | agentChanged other agent agentSession dirty =>
    obtain ⟨app, hChange, rfl⟩ := Option.map_eq_some_iff.1 hStep
    exact ⟨hCoherent, (App.labelOf_agentChanged hChange paneId).trans h.label, h.record⟩
  | poll now =>
    cases hStep
    obtain ⟨hApp, hRecords⟩ := poll_app s now
    refine ⟨hCoherent, by rw [hApp]; exact h.label, ?_⟩
    rw [recordedTitle, hRecords]
    exact h.record
  | work titles =>
    obtain ⟨hApp, hRecords⟩ := work_app hStep
    refine ⟨hCoherent, by rw [hApp]; exact h.label, ?_⟩
    rw [recordedTitle, hRecords]
    exact h.record
  | resolved succeeds =>
    obtain ⟨hLabel, hRecord⟩ := handleResolved_named hTitle h hStep
    exact ⟨hCoherent, hLabel, hRecord⟩

/-- A name that says something and is not the title last recorded for the pane stays
until the user renames the pane, whatever title sync does in between. -/
theorem manual_label_kept {s t u : System} {before after : List Label}
  {paneId name title : List Char} (hStart : Started s) (hRun : Run (ofPartial step) s before t)
  (hLabel : t.app.labelOf paneId = some name)
  (hTitle : sanitizeTitle (some name) 200 = some title)
  (hRecord : t.recordedTitle paneId ≠ some title)
  (hRest : Run (ofPartial step) t after u)
  (hSpares : ∀ label ∈ after, label.sparesName paneId) :
  u.app.labelOf paneId = some name := by
  have hStep : ∀ u label v, Coherent u → ofPartial step u label v → v.Coherent :=
    fun _ _ _ h hStep => h.step hStep
  have hCoherent : t.Coherent := hRun.preserves (coherent_started hStart) hStep
  have hNamedStep : ∀ u label v, label.sparesName paneId → Named paneId name title u →
      ofPartial step u label v → Named paneId name title v :=
    fun _ _ _ hSpares h hStep => h.step hTitle hSpares hStep
  have hNamed : Named paneId name title u :=
    hRest.preserves_of_mem hSpares ⟨hCoherent, hLabel, hRecord⟩ hNamedStep
  exact hNamed.label

/-- One pane with an agent. -/
def onePane : System where
  app := {
    panes := FinMap.ofPairs [(['p'], { agent := some ['c'], agentSession := none, manualLabel := none })]
    titleSyncGeneration := 0 }
  engine := {
    interval := 1, nextTick := 0, observedGeneration := 0, inFlight := false, pending := false }
  queue := []
  disk := ∅
  events := []

/-- Title sync names the pane, then the user does. -/
def namedByUser (name : List Char) : List Label :=
  [.poll 0, .work fun _ => some ['A'], .resolved fun _ => true, .work fun _ => none,
    .work fun _ => some ['A'], .resolved fun _ => true, .work fun _ => none,
    .rename ['p'] (some name)]

/-- Another title is looked up and applied. -/
def otherTitle : List Label :=
  [.poll 5, .work fun _ => some ['B'], .resolved fun _ => true]

/-- A name of control characters only is taken for none and replaced. -/
theorem controlName_replaced :
  ∃ t u, Started onePane ∧ Run (ofPartial step) onePane (namedByUser ['\x01']) t ∧
    t.app.labelOf ['p'] = some ['\x01'] ∧ t.recordedTitle ['p'] = some ['A'] ∧
    sanitizeTitle (some ['\x01']) 200 ≠ t.recordedTitle ['p'] ∧
    Run (ofPartial step) t otherTitle u ∧ (∀ label ∈ otherTitle, label.sparesName ['p']) ∧
    u.app.labelOf ['p'] = some ['B'] := by
  refine ⟨reached step onePane (namedByUser ['\x01']),
    reached step (reached step onePane (namedByUser ['\x01'])) otherTitle, ⟨rfl, rfl, rfl⟩,
    run_reached (by decide), by decide, by decide, by decide, run_reached (by decide), ?_, by decide⟩
  simp [otherTitle, Label.sparesName]

/-- A name of the user's that says something is kept through the same steps. -/
theorem manual_label_kept_mine :
  (reached step (reached step onePane (namedByUser ['m'])) otherTitle).app.labelOf ['p'] =
    some ['m'] :=
  @manual_label_kept onePane (reached step onePane (namedByUser ['m'])) _ (namedByUser ['m'])
    otherTitle ['p'] ['m'] ['m'] ⟨rfl, rfl, rfl⟩ (run_reached (by decide)) (by decide) (by decide)
    (by decide) (run_reached (by decide)) (by simp [otherTitle, Label.sparesName])

end TitleSync
