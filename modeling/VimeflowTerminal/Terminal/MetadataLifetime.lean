import VimeflowTerminal.Terminal.MetadataChanges

/-! A source has one time to live for everything it reports. A report that sets a
field or carries a time to live renews the whole entry of its source; a report
that only clears fields leaves the earlier deadline in place. Runs are traced
with the accepted reports, newest first. -/

namespace Terminal

open Detect AgentResume Transition

/-- The parts of the presentation that sources report. -/
inductive PresentationField where
  | title
  | displayAgent
  | stateLabel (state : String)
  deriving DecidableEq

def EffectivePresentation.value (presentation : EffectivePresentation) :
  PresentationField → Option String
  | .title => presentation.title
  | .displayAgent => presentation.displayAgent
  | .stateLabel state => presentation.stateLabels.lookup state

def AgentMetadata.value (metadata : AgentMetadata) : PresentationField → Option String
  | .title => metadata.title
  | .displayAgent => metadata.displayAgent
  | .stateLabel state => metadata.stateLabels.lookup state

def AgentMetadataReport.value (report : AgentMetadataReport) : PresentationField → Option String
  | .title => report.title
  | .displayAgent => report.displayAgent
  | .stateLabel state => report.stateLabels.lookup state

/-- The report sets a field or carries a time to live. -/
def AgentMetadataReport.renews (report : AgentMetadataReport) : Bool :=
  report.title.isSome || report.displayAgent.isSome || !report.stateLabels.entries.isEmpty ||
    report.ttl.isSome

/-- A report that was not turned away, with the time it came in. -/
structure AcceptedReport where
  report : AgentMetadataReport
  reportedAt : Instant

/-- The time to live of the report has not run out. -/
def AcceptedReport.LiveAt (accepted : AcceptedReport) (now : Instant) : Prop :=
  ∀ ttl, accepted.report.ttl = some ttl → now < accepted.reportedAt + ttl

/-- The last report of the source that set the field. -/
def lastReport (reports : List AcceptedReport) (source : String) (field : PresentationField) :
  Option AcceptedReport :=
  reports.find? fun accepted =>
    accepted.report.source == source && (accepted.report.value field).isSome

/-- The last report of the source that renewed its entry. -/
def lastRenewal (reports : List AcceptedReport) (source : String) : Option AcceptedReport :=
  reports.find? fun accepted => accepted.report.source == source && accepted.report.renews

theorem AgentMetadataReport.renews_of_value {report : AgentMetadataReport}
  {field : PresentationField} {value : String} (hValue : report.value field = some value) :
  report.renews = true := by
  cases field with
  | title =>
    have hTitle : report.title = some value := hValue
    simp [renews, hTitle]
  | displayAgent =>
    have hDisplayAgent : report.displayAgent = some value := hValue
    simp [renews, hDisplayAgent]
  | stateLabel state =>
    have hEntry : (⟨state, value⟩ : Sigma fun _ : String => String) ∈
        report.stateLabels.entries := FinMap.mem_entries_iff.2 hValue
    have hLabels : report.stateLabels.entries.isEmpty = false := by
      cases hEntries : report.stateLabels.entries with
      | nil => simp [hEntries] at hEntry
      | cons => rfl
    simp [renews, hLabels]

namespace TerminalState

variable {metadata : AgentMetadata} {s t : TerminalState} {now : Instant}
  {field : PresentationField} {reports : List AcceptedReport}

theorem mem_of_maxByKey {key : AgentMetadata → Option Instant} {entries : List AgentMetadata}
  (hMax : maxByKey key entries = some metadata) :
  metadata ∈ entries := by
  refine List.foldlRecOn entries _ (motive := fun best => best = some metadata → metadata ∈ entries)
    (fun hNone => by cases hNone) (fun best hBest entry hEntry hNext => ?_) hMax
  cases best with
  | none => exact Option.some.inj hNext ▸ hEntry
  | some other =>
    dsimp only at hNext
    split at hNext
    · exact Option.some.inj hNext ▸ hEntry
    · exact hBest hNext

theorem mem_validAgentMetadata (hMem : metadata ∈ s.validAgentMetadata now true) :
  ∃ source, s.agentMetadata.lookup source = some metadata ∧
    agentMetadataIsExpired metadata now = false := by
  obtain ⟨hEntry, hValid⟩ := List.mem_filter.1 hMem
  obtain ⟨source, hLookup⟩ := FinMap.mem_values.1 hEntry
  refine ⟨source, hLookup, ?_⟩
  simp [agentMetadataIsValid] at hValid
  exact hValid.1.2

/-- Every value shown belongs to an entry that has not expired. -/
theorem entry_of_value {state : AgentState} {value : String}
  (hShown : (s.effectivePresentationForStateAt state now).value field = some value) :
  ∃ source metadata, s.agentMetadata.lookup source = some metadata ∧
    agentMetadataIsExpired metadata now = false ∧ metadata.value field = some value := by
  cases field with
  | title =>
    obtain ⟨metadata, hMax, hTitle⟩ := Option.bind_eq_some_iff.1 hShown
    have hValid := (List.mem_filter.1 (mem_of_maxByKey hMax)).1
    obtain ⟨source, hLookup, hExpired⟩ := mem_validAgentMetadata hValid
    exact ⟨source, metadata, hLookup, hExpired, hTitle⟩
  | displayAgent =>
    obtain ⟨metadata, hMax, hDisplayAgent⟩ := Option.bind_eq_some_iff.1 hShown
    have hValid := (List.mem_filter.1 (mem_of_maxByKey hMax)).1
    obtain ⟨source, hLookup, hExpired⟩ := mem_validAgentMetadata hValid
    exact ⟨source, metadata, hLookup, hExpired, hDisplayAgent⟩
  | stateLabel label =>
    have hPair := FinMap.mem_of_lookup_ofPairs hShown
    obtain ⟨⟨reportedAt, pair⟩, hSorted, rfl⟩ := List.mem_map.1 hPair
    rw [List.mem_insertionSort] at hSorted
    obtain ⟨metadata, hValid, hCollected⟩ := List.mem_flatMap.1 hSorted
    obtain ⟨state, text, hText, hTime⟩ := FinMap.mem_collect.1 hCollected
    obtain ⟨source, hLookup, hExpired⟩ := mem_validAgentMetadata hValid
    refine ⟨source, metadata, hLookup, hExpired, ?_⟩
    obtain ⟨_, _, hEq⟩ := Option.map_eq_some_iff.1 hTime
    cases hEq
    exact hText

/-- An entry that has not expired is within its time to live, also when the
deadline is out of range. -/
theorem lt_of_not_expired {ttl : Duration}
  (hExpired : agentMetadataIsExpired metadata now = false) (hTtl : metadata.ttl = some ttl) :
  now < metadata.reportedAt + ttl := by
  simp only [agentMetadataIsExpired, agentMetadataExpiry, hTtl, Option.map_some,
    Option.any_some, decide_eq_false_iff_not, not_le] at hExpired
  refine lt_of_lt_of_le hExpired ?_
  unfold Instant.checkedAdd
  split
  · exact le_refl _
  · exact Nat.le_add_right _ _

/-- Every entry of `t` is one of `s`, up to the flag that announces its expiry. -/
def MetadataKept (s t : TerminalState) : Prop :=
  ∀ source metadata, t.agentMetadata.lookup source = some metadata →
    ∃ earlier flag, s.agentMetadata.lookup source = some earlier ∧
      metadata = { earlier with expiryEventPending := flag }

theorem MetadataKept.refl (s : TerminalState) : MetadataKept s s := by
  intro source metadata hLookup
  exact ⟨metadata, metadata.expiryEventPending, hLookup, rfl⟩

theorem MetadataKept.trans {u : TerminalState} (hLeft : MetadataKept s t)
  (hRight : MetadataKept t u) : MetadataKept s u := by
  intro source metadata hLookup
  obtain ⟨middle, flag, hMiddle, rfl⟩ := hRight source metadata hLookup
  obtain ⟨earlier, _, hEarlier, rfl⟩ := hLeft source middle hMiddle
  exact ⟨earlier, flag, hEarlier, rfl⟩

theorem MetadataKept.of_eq (hSame : t.agentMetadata = s.agentMetadata) : MetadataKept s t := by
  intro source metadata hLookup
  rw [hSame] at hLookup
  exact ⟨metadata, metadata.expiryEventPending, hLookup, rfl⟩

theorem metadataKept_flags (s : TerminalState) (f : String → AgentMetadata → AgentMetadata)
  (hFlag : ∀ source metadata, ∃ flag, f source metadata =
    { metadata with expiryEventPending := flag }) (state : AgentState) :
  MetadataKept s { s with agentMetadata := FinMap.mapValues s.agentMetadata f, state } := by
  intro source metadata hLookup
  rw [FinMap.lookup_mapValues] at hLookup
  obtain ⟨earlier, hEarlier, rfl⟩ := Option.map_eq_some_iff.1 hLookup
  obtain ⟨flag, hEq⟩ := hFlag source earlier
  exact ⟨earlier, flag, hEarlier, hEq⟩

theorem metadataKept_clearExpiryPending (s : TerminalState) (state : AgentState) :
  MetadataKept s { s.clearExpiryPendingForHiddenMetadata with state } := by
  refine s.metadataKept_flags _ ?_ state
  intro source metadata
  split
  · exact ⟨false, rfl⟩
  · exact ⟨metadata.expiryEventPending, rfl⟩

theorem metadataKept_recompute (s : TerminalState) (previous : Previous) (now : Instant) :
  MetadataKept s (s.recomputeEffectiveState previous now).1 := by
  unfold recomputeEffectiveState
  dsimp only
  split
  · exact s.metadataKept_clearExpiryPending s.state
  · exact s.metadataKept_clearExpiryPending s.derivedState

theorem metadataKept_removeMetadata (s : TerminalState) (sources : List String) :
  MetadataKept s (s.removeMetadata sources) := by
  intro source metadata hLookup
  have hEarlier := (FinMap.mem_retain.1 hLookup).1
  exact ⟨metadata, metadata.expiryEventPending, hEarlier, rfl⟩

section Kept

variable (s : TerminalState)

theorem metadataKept_expire (scheduledDeadline now : Instant) :
  MetadataKept s (s.expireAgentMetadataAt scheduledDeadline now).1 := by
  unfold expireAgentMetadataAt
  dsimp only
  split
  · exact s.metadataKept_removeMetadata _
  · exact ((s.metadataKept_removeMetadata _).trans (metadataKept_removeMetadata _ _)).trans
      (metadataKept_recompute _ _ _)

/-- The operation is a metadata report. -/
def TerminalOp.reportsMetadata : TerminalOp → Bool
  | .metadata .. => true
  | _ => false

theorem Concluded.metadataKept {s t : TerminalState} {now : Instant}
  {change : Option EffectiveStateChange} (concluded : Concluded s now t change) :
  MetadataKept s t := by
  cases concluded with
  | untouched same => exact .of_eq same.agentMetadata
  | recomputed same keep kept =>
    refine MetadataKept.trans ?_ (metadataKept_recompute _ _ _)
    intro source metadata hLookup
    rw [kept] at hLookup
    exact ⟨metadata, metadata.expiryEventPending, (FinMap.mem_retain.1 hLookup).1, rfl⟩

/-- Only metadata reports write metadata; every other operation at most drops it. -/
theorem metadataKept_step {op : TerminalOp} (hOther : TerminalOp.reportsMetadata op = false) :
  MetadataKept s (s.step op) := by
  by_cases hPlain : TerminalOp.isPlain op = true
  · have hTime : ∀ time, TerminalOp.time op = some time →
        time = (TerminalOp.time op).getD 0 := fun time hTime => by rw [hTime, Option.getD_some]
    exact (s.concluded_plain hPlain hTime).metadataKept
  cases op with
  | metadata => cases hOther
  | expireMetadata scheduledDeadline now => exact s.metadataKept_expire scheduledDeadline now
  | respawn =>
    intro source metadata hLookup
    simp [step, clearAgentRuntimeIdentityAfterRespawn] at hLookup
  | _ => exact absurd rfl hPlain

end Kept

theorem lookup_insertEntries {κ ν : Type} [DecidableEq κ]
  {entries : List (Sigma fun _ : κ => ν)} {m : FinMap κ ν} {key : κ} {value : ν}
  (hLookup : (entries.foldl (fun m entry => m.insert entry.1 entry.2) m).lookup key =
    some value) :
  ⟨key, value⟩ ∈ entries ∨ key ∉ entries.map Sigma.fst ∧ m.lookup key = some value := by
  induction entries generalizing m with
  | nil => exact Or.inr ⟨by simp, hLookup⟩
  | cons entry entries ih =>
    rcases ih hLookup with hMem | ⟨hAbsent, hFirst⟩
    · exact Or.inl (List.mem_cons_of_mem _ hMem)
    by_cases hKey : key = entry.1
    · rw [hKey, AList.lookup_insert, Option.some.injEq] at hFirst
      subst hKey hFirst
      exact Or.inl List.mem_cons_self
    · rw [AList.lookup_insert_ne hKey] at hFirst
      refine Or.inr ⟨?_, hFirst⟩
      simp [hKey, hAbsent]

section Patch

variable (metadata : AgentMetadata) (report : AgentMetadataReport) (now : Instant)

theorem patchMetadata_title : (patchMetadata metadata report now).title =
  report.title.or (if report.clearTitle then none else metadata.title) := by
  unfold patchMetadata
  cases report.title <;> cases report.displayAgent <;> dsimp only <;> split_ifs <;> rfl

theorem patchMetadata_displayAgent : (patchMetadata metadata report now).displayAgent =
  report.displayAgent.or (if report.clearDisplayAgent then none else metadata.displayAgent) := by
  unfold patchMetadata
  cases report.title <;> cases report.displayAgent <;> dsimp only <;> split_ifs <;> rfl

theorem patchMetadata_stateLabels : (patchMetadata metadata report now).stateLabels =
  report.stateLabels.entries.foldl (fun labels entry => labels.insert entry.1 entry.2)
    (if report.clearStateLabels then ∅ else metadata.stateLabels) := by
  unfold patchMetadata
  cases report.title <;> cases report.displayAgent <;> dsimp only <;> split_ifs <;> rfl

theorem patchMetadata_stamp :
  ((patchMetadata metadata report now).reportedAt, (patchMetadata metadata report now).ttl) =
    if report.renews then (now, report.ttl) else (metadata.reportedAt, metadata.ttl) := by
  unfold patchMetadata AgentMetadataReport.renews
  cases report.title <;> cases report.displayAgent <;> dsimp only <;> split_ifs <;> rfl

end Patch

/-- What a patched entry holds was either just set or already there. -/
theorem value_of_patch {report : AgentMetadataReport} {value : String}
  (hValue : (patchMetadata metadata report now).value field = some value) :
  report.value field = some value ∨
    report.value field = none ∧ metadata.value field = some value := by
  cases field with
  | title =>
    have hTitle := hValue
    rw [AgentMetadata.value, patchMetadata_title, Option.or_eq_some_iff] at hTitle
    refine hTitle.imp_right fun hKept => ⟨hKept.1, ?_⟩
    exact (Option.ite_none_left_eq_some.1 hKept.2).2
  | displayAgent =>
    have hDisplayAgent := hValue
    rw [AgentMetadata.value, patchMetadata_displayAgent, Option.or_eq_some_iff]
      at hDisplayAgent
    refine hDisplayAgent.imp_right fun hKept => ⟨hKept.1, ?_⟩
    exact (Option.ite_none_left_eq_some.1 hKept.2).2
  | stateLabel state =>
    have hLabel := hValue
    rw [AgentMetadata.value, patchMetadata_stateLabels] at hLabel
    rcases lookup_insertEntries hLabel with hMem | ⟨hAbsent, hKept⟩
    · exact Or.inl (FinMap.mem_entries_iff.1 hMem)
    refine Or.inr ⟨AList.lookup_eq_none.2 hAbsent, ?_⟩
    split at hKept
    · simp at hKept
    · exact hKept

theorem value_reportedMetadata (report : AgentMetadataReport) (now : Instant)
  (field : PresentationField) :
  (reportedMetadata report now).value field = report.value field := by
  cases field <;> rfl

theorem value_emptyMetadata (report : AgentMetadataReport) (now : Instant)
  (field : PresentationField) : (emptyMetadata report now).value field = none := by
  cases field <;> rfl

/-- A report is turned away and changes no metadata, or it is stored on top
of what has not expired. -/
theorem setAgentMetadata_cases (s : TerminalState) (report : AgentMetadataReport) (now : Instant) :
  ((s.setAgentMetadata report now).2.isSome = false ∧
      (s.setAgentMetadata report now).1.agentMetadata = s.agentMetadata) ∨
    (s.setAgentMetadata report now).2.isSome = true ∧
      ∃ kept, MetadataKept s kept ∧
        MetadataKept (kept.storeMetadata report now) (s.setAgentMetadata report now).1 := by
  unfold setAgentMetadata
  split
  · exact Or.inl ⟨rfl, rfl⟩
  have hSequenced := s.agentMetadata_acceptMetadataReport report.source report.seq false
    (metadataReportAgent report.source report.agentLabel report.appliesToSource)
  generalize s.acceptMetadataReport report.source report.seq false
    (metadataReportAgent report.source report.agentLabel report.appliesToSource) = accepted
    at hSequenced ⊢
  obtain ⟨sequenced, passed⟩ := accepted
  match passed with
  | none => exact Or.inl ⟨rfl, hSequenced⟩
  | some false => exact Or.inl ⟨rfl, hSequenced⟩
  | some true =>
    refine Or.inr ⟨rfl, sequenced.dropExpiredMetadata report.source now, ?_, ?_⟩
    · refine MetadataKept.trans (.of_eq hSequenced) ?_
      unfold dropExpiredMetadata
      split
      · intro source metadata hLookup
        have hErased : (sequenced.agentMetadata.erase report.source).lookup source =
          some metadata := hLookup
        by_cases hSource : source = report.source
        · rw [hSource, AList.lookup_erase] at hErased
          cases hErased
        · rw [AList.lookup_erase_ne hSource] at hErased
          exact ⟨metadata, metadata.expiryEventPending, hErased, rfl⟩
      · exact .refl _
    · dsimp only
      generalize (sequenced.dropExpiredMetadata report.source now).storeMetadata report now =
        stored
      have hArmed : MetadataKept stored (stored.armMetadataExpiry report) := by
        refine stored.metadataKept_flags _ ?_ stored.state
        intro source metadata
        split
        · exact ⟨true, rfl⟩
        · exact ⟨metadata.expiryEventPending, rfl⟩
      have hFinished := hArmed.trans ((stored.armMetadataExpiry report).metadataKept_recompute
        ((sequenced.dropExpiredMetadata report.source now).previous now) now)
      split
      · exact hFinished.trans (metadataKept_clearExpiryPending _ _)
      · exact hFinished

/-- The state and the metadata reports accepted so far, newest first. -/
structure Traced where
  state : TerminalState
  reports : List AcceptedReport

def Traced.step (traced : Traced) (op : TerminalOp) : Traced where
  state := traced.state.step op
  reports := match op with
    | .metadata report now =>
      if (traced.state.setAgentMetadata report now).2.isSome then
        ⟨report, now⟩ :: traced.reports
      else traced.reports
    | _ => traced.reports

def Traced.new : Traced := ⟨TerminalState.new, []⟩

abbrev TracedRuns : Traced → List TerminalOp → Traced → Prop := Run (ofFunction Traced.step)

/-- The value was last reported for the field by this source, in a report
that is followed by the given renewal of the source's entry. -/
structure ReportedBy (reports : List AcceptedReport) (source : String) (field : PresentationField)
  (value : String) (last renewal : AcceptedReport) : Prop where
  last_eq : lastReport reports source field = some last
  value_eq : last.report.value field = some value
  renewal_eq : lastRenewal reports source = some renewal

/-- Every value held was reported, and expires with the last renewal of its source. -/
def Traced.Inv (traced : Traced) : Prop :=
  ∀ source metadata, traced.state.agentMetadata.lookup source = some metadata →
    ∀ field value, metadata.value field = some value →
      ∃ last renewal, ReportedBy traced.reports source field value last renewal ∧
        renewal.reportedAt = metadata.reportedAt ∧ renewal.report.ttl = metadata.ttl

theorem Traced.Inv.kept (hInv : Traced.Inv ⟨s, reports⟩) (hKept : MetadataKept s t) :
  Traced.Inv ⟨t, reports⟩ := by
  intro source metadata hLookup field value hValue
  obtain ⟨earlier, flag, hEarlier, rfl⟩ := hKept source metadata hLookup
  apply hInv source earlier hEarlier field value
  cases field <;> exact hValue

theorem ReportedBy.other {source : String} {value : String}
  {last renewal accepted : AcceptedReport}
  (h : ReportedBy reports source field value last renewal)
  (hSource : accepted.report.source ≠ source) :
  ReportedBy (accepted :: reports) source field value last renewal := by
  refine ⟨?_, h.value_eq, ?_⟩
  · simpa [lastReport, hSource] using h.last_eq
  · simpa [lastRenewal, hSource] using h.renewal_eq

theorem reportedBy_new {report : AgentMetadataReport} {value : String}
  (hValue : report.value field = some value) :
  ReportedBy (⟨report, now⟩ :: reports) report.source field value ⟨report, now⟩
    ⟨report, now⟩ := by
  refine ⟨?_, hValue, ?_⟩
  · simp [lastReport, hValue]
  · simp [lastRenewal, AgentMetadataReport.renews_of_value hValue]

/-- Storing an accepted report keeps the account of all values. -/
theorem Traced.Inv.store (hInv : Traced.Inv ⟨s, reports⟩) (report : AgentMetadataReport)
  (now : Instant) :
  Traced.Inv ⟨s.storeMetadata report now, ⟨report, now⟩ :: reports⟩ := by
  intro source metadata hLookup field value hValue
  by_cases hSource : source = report.source
  · subst hSource
    rw [storeMetadata, AList.lookup_insert, Option.some.injEq] at hLookup
    subst hLookup
    split at hValue
    · rw [if_pos ‹_›]
      have hStamp := patchMetadata_stamp
        ((s.agentMetadata.lookup report.source).getD (emptyMetadata report now)) report now
      rcases value_of_patch hValue with hSet | ⟨hUnset, hKept⟩
      · rw [if_pos (AgentMetadataReport.renews_of_value hSet), Prod.mk.injEq] at hStamp
        exact ⟨_, _, reportedBy_new hSet, hStamp.1.symm, hStamp.2.symm⟩
      cases hEntry : s.agentMetadata.lookup report.source with
      | none =>
        rw [hEntry, Option.getD_none, value_emptyMetadata] at hKept
        simp at hKept
      | some earlier =>
        rw [hEntry, Option.getD_some] at hKept hStamp
        obtain ⟨last, renewal, hReported, hTime, hTtl⟩ :=
          hInv report.source earlier hEntry field value hKept
        have hLast : lastReport (⟨report, now⟩ :: reports) report.source field = some last := by
          simpa [lastReport, hUnset] using hReported.last_eq
        rw [Option.getD_some]
        cases hRenews : report.renews with
        | true =>
          rw [if_pos hRenews, Prod.mk.injEq] at hStamp
          refine ⟨last, ⟨report, now⟩, ⟨hLast, hReported.value_eq, ?_⟩, hStamp.1.symm,
            hStamp.2.symm⟩
          simp [lastRenewal, hRenews]
        | false =>
          rw [hRenews, if_neg Bool.false_ne_true, Prod.mk.injEq] at hStamp
          refine ⟨last, renewal, ⟨hLast, hReported.value_eq, ?_⟩, hTime.trans hStamp.1.symm,
            hTtl.trans hStamp.2.symm⟩
          simpa [lastRenewal, hRenews] using hReported.renewal_eq
    · rw [if_neg ‹_›]
      rw [value_reportedMetadata] at hValue
      exact ⟨_, _, reportedBy_new hValue, rfl, rfl⟩
  · rw [storeMetadata, AList.lookup_insert_ne hSource] at hLookup
    obtain ⟨last, renewal, hReported, hStamp⟩ := hInv source metadata hLookup field value hValue
    exact ⟨last, renewal, hReported.other (Ne.symm hSource), hStamp⟩

theorem Traced.Inv.step {traced : Traced} (hInv : traced.Inv) (op : TerminalOp) :
  (traced.step op).Inv := by
  obtain ⟨s, reports⟩ := traced
  cases hReports : TerminalOp.reportsMetadata op with
  | false =>
    have hKept := hInv.kept (s.metadataKept_step hReports)
    cases op with
    | metadata => simp [TerminalOp.reportsMetadata] at hReports
    | _ => exact hKept
  | true =>
    cases op with
    | metadata report now =>
      rcases s.setAgentMetadata_cases report now with
        ⟨hRejected, hSame⟩ | ⟨hAccepted, kept, hKept, hStored⟩
      · simp only [Traced.step, hRejected, Bool.false_eq_true, if_false]
        exact hInv.kept (.of_eq hSame)
      · simp only [Traced.step, hAccepted, if_true]
        exact ((hInv.kept hKept).store report now).kept hStored
    | _ => simp [TerminalOp.reportsMetadata] at hReports

/-- Whatever is shown was last reported for its field by a source whose last
renewal has not run out. A report of the source that only clears fields is no
renewal. -/
theorem shown_within_renewal {ops : List TerminalOp} {traced : Traced}
  (hRun : TracedRuns Traced.new ops traced) (now : Instant) {field : PresentationField}
  {value : String}
  (hShown : (traced.state.effectivePresentationForStateAt traced.state.state now).value field =
    some value) :
  ∃ source last renewal, ReportedBy traced.reports source field value last renewal ∧
    renewal.LiveAt now := by
  have hInv : traced.Inv := by
    apply hRun.preserves
    · intro source metadata hLookup
      simp [Traced.new, TerminalState.new] at hLookup
    intro earlier op later hEarlier hStep
    rw [hStep]
    exact hEarlier.step op
  obtain ⟨source, metadata, hLookup, hExpired, hValue⟩ := entry_of_value hShown
  obtain ⟨last, renewal, hReported, hTime, hTtl⟩ := hInv source metadata hLookup field value hValue
  refine ⟨source, last, renewal, hReported, ?_⟩
  intro ttl hRenewalTtl
  rw [hTime]
  exact lt_of_not_expired hExpired (hTtl.symm.trans hRenewalTtl)

/-- The title is reported for ten milliseconds, and never again. -/
def titleForTen : AgentMetadataReport where
  source := "user:status"
  agentLabel := none
  appliesToSource := none
  title := some "Build"
  displayAgent := none
  stateLabels := ∅
  clearTitle := false
  clearDisplayAgent := false
  clearStateLabels := false
  ttl := some 10000000
  seq := none

/-- A partial update of the same source that leaves the title alone. -/
def displayAgentOnly : AgentMetadataReport :=
  { titleForTen with title := none, displayAgent := some "Builder", clearStateLabels := true,
                     ttl := none }

def titleThenDisplayAgent : List TerminalOp :=
  [.metadata titleForTen 0, .metadata displayAgentOnly 1]

theorem shown_within_renewal_titleThenDisplayAgent :
  ∃ source last renewal,
    ReportedBy (titleThenDisplayAgent.foldl Traced.step Traced.new).reports source .title "Build"
      last renewal ∧ renewal.LiveAt 10000000 :=
  shown_within_renewal ((run_ofFunction_iff _).2 rfl) 10000000 (by decide)

/-- What is shown was last reported for its field in a report whose own time to
live has not run out. -/
def Traced.ShowsLiveReports (traced : Traced) (now : Instant) : Prop :=
  ∀ field value,
    (traced.state.effectivePresentationForStateAt traced.state.state now).value field =
      some value →
    ∃ source last, lastReport traced.reports source field = some last ∧
      last.report.value field = some value ∧ last.LiveAt now

/-- A later report of another field without a time to live keeps the title for good. -/
theorem not_showsLiveReports_titleThenDisplayAgent :
  ∃ traced, TracedRuns Traced.new titleThenDisplayAgent traced ∧
    ¬ traced.ShowsLiveReports 10000000 := by
  refine ⟨_, (run_ofFunction_iff _).2 rfl, ?_⟩
  intro hShows
  obtain ⟨source, last, hLast, -, hLive⟩ := hShows .title "Build" (by decide)
  have hReports : (titleThenDisplayAgent.foldl Traced.step Traced.new).reports =
      [⟨displayAgentOnly, 1⟩, ⟨titleForTen, 0⟩] := rfl
  rw [hReports] at hLast
  have hMem := List.mem_of_find?_eq_some hLast
  have hSet := List.find?_some hLast
  rcases List.mem_pair.1 hMem with rfl | rfl
  · simp [displayAgentOnly, AgentMetadataReport.value] at hSet
  · exact absurd (hLive 10000000 rfl) (by decide)

end TerminalState

end Terminal
