import VimeflowTerminal.Terminal.EffectiveState

/-! State reports, session starts, clears and releases share one table of the last
sequence number each source has used. Between two removals of a source's entry
its numbers only grow, and a source that numbers its reports can no longer
send unnumbered ones. -/

namespace Terminal

open Detect AgentResume Transition LoggedMap

namespace TerminalState

/-- The sequence table of `t` is that of `s` after growing writes. -/
def SequencesGrow (s t : TerminalState) : Prop :=
  s.hookReportSequences.Grows t.hookReportSequences

namespace SequencesGrow

theorem refl (s : TerminalState) : SequencesGrow s s := Grows.refl _

theorem trans {s t u : TerminalState} (hLeft : SequencesGrow s t) (hRight : SequencesGrow t u) :
  SequencesGrow s u :=
  Grows.trans hLeft hRight

theorem of_eq {s t : TerminalState} (h : t.hookReportSequences = s.hookReportSequences) :
  SequencesGrow s t := by
  unfold SequencesGrow
  rw [h]
  exact Grows.refl _

end SequencesGrow

/-! ## Writes of the helpers -/

variable {s t : TerminalState} {source : String} {seq : Nat} {report : SessionStartReport}
  {now clock : Instant}

theorem lookup_lt_of_not_stale (hFresh : s.sequenceIsStale source seq = false) :
  ∀ old ∈ s.hookReportSequences.lookup source, old < seq := by
  intro old hOld
  rw [Option.mem_def] at hOld
  simpa [sequenceIsStale, hOld] using hFresh

theorem ignores_hookReportSequences : IgnoresArbitration hookReportSequences :=
  ⟨⟨fun _ _ => rfl, fun _ _ => rfl⟩, fun _ _ _ => rfl, fun _ _ _ _ _ _ => rfl⟩

theorem ignoresNames_hookReportSequences : IgnoresNames hookReportSequences := fun _ _ _ _ => rfl

section

variable (s : TerminalState)

theorem sequencesGrow_acceptHookReport (source : String) (seq : Option Nat) :
  SequencesGrow s (s.acceptHookReport source seq).1 := by
  unfold acceptHookReport
  cases seq with
  | none => exact .refl s
  | some seq =>
    dsimp only
    split
    · exact .refl s
    next hFresh =>
      exact grows_insert (lookup_lt_of_not_stale (Bool.eq_false_iff.2 hFresh))

end

theorem sequencesGrow_removeHookReportSequences (sources : List String) (s : TerminalState) :
  SequencesGrow s (s.removeHookReportSequences sources) := by
  induction sources generalizing s with
  | nil => exact .refl s
  | cons source sources ih =>
    have hFirst : SequencesGrow s
        { s with hookReportSequences := s.hookReportSequences.remove source } :=
      grows_remove _ source
    exact hFirst.trans (ih _)

/-! ## Replayed reports -/

theorem installValidatedReplacement_hookReportSequences (s : TerminalState)
  (validated : ValidatedReplacement) :
  (s.installValidatedReplacement validated).hookReportSequences =
    match validated.pending with
      | none => s.hookReportSequences
      | some pending => s.hookReportSequences.insert validated.source pending.seq := by
  unfold installValidatedReplacement
  cases validated.pending with
  | none =>
    exact (ignoresNames_hookReportSequences.reconcile ..).trans
      (ignores_hookReportSequences.forgetStale ..)
  | some pending =>
    dsimp only
    rw [ignoresNames_hookReportSequences.reconcile, ignores_hookReportSequences.forgetStale]

/-- The replayed report is newer than the sequence recorded for its source. -/
def ReplaysFresh (s : TerminalState) (validated : ValidatedReplacement) : Prop :=
  ∀ pending ∈ validated.pending, ∀ old ∈ s.hookReportSequences.lookup validated.source,
    old < pending.seq

theorem sequencesGrow_installValidatedReplacement {validated : ValidatedReplacement}
  (hFresh : ReplaysFresh s validated) :
  SequencesGrow s (s.installValidatedReplacement validated) := by
  unfold SequencesGrow
  rw [installValidatedReplacement_hookReportSequences]
  cases hPending : validated.pending with
  | none => exact Grows.refl _
  | some pending => exact grows_insert (hFresh pending hPending)

/-- Replacements of different sources are installed independently. -/
theorem sequencesGrow_foldl_installValidatedReplacement (validated : List ValidatedReplacement)
  (s : TerminalState) (hSources : (validated.map ValidatedReplacement.source).Nodup)
  (hFresh : ∀ replacement ∈ validated, ReplaysFresh s replacement) :
  SequencesGrow s (validated.foldl installValidatedReplacement s) := by
  induction validated generalizing s with
  | nil => exact .refl s
  | cons replacement validated ih =>
    obtain ⟨hNew, hRest⟩ := List.nodup_cons.1 hSources
    refine (sequencesGrow_installValidatedReplacement
      (hFresh replacement List.mem_cons_self)).trans (ih _ hRest ?_)
    intro other hOther pending hPending old hOld
    refine hFresh other (List.mem_cons_of_mem _ hOther) pending hPending old ?_
    have hNe : other.source ≠ replacement.source := by
      intro hSame
      exact hNew (hSame ▸ List.mem_map_of_mem hOther)
    rw [installValidatedReplacement_hookReportSequences] at hOld
    cases hCase : replacement.pending with
    | none => simpa [hCase] using hOld
    | some first =>
      simp only [hCase] at hOld
      rwa [lookup_insert_ne _ hNe] at hOld

theorem validatedReplacements_nodup (s : TerminalState) (detected : Agent) :
  ((s.validatedReplacementsOnDetection detected).map ValidatedReplacement.source).Nodup := by
  refine FinMap.nodup_collect_map _ _ _ ?_
  intro source suppressed replacement hValidated
  unfold SuppressedFullLifecycleHookReport.validatedOnDetection at hValidated
  split at hValidated
  · simp at hValidated
  split at hValidated
  · cases hValidated
    rfl
  · simp at hValidated

/-- A buffered report is only replayed if it is newer than the session start. -/
theorem lt_pending_of_validated {detected : Agent} {replacement : ValidatedReplacement}
  (hMem : replacement ∈ s.validatedReplacementsOnDetection detected) :
  ReplaysFresh s replacement := by
  obtain ⟨source, suppressed, -, hValidated⟩ := FinMap.mem_collect.1 hMem
  unfold SuppressedFullLifecycleHookReport.validatedOnDetection at hValidated
  split at hValidated
  · simp at hValidated
  split at hValidated
  · cases hValidated
    intro pending hPending old hOld
    rw [Option.mem_def] at hOld hPending
    have hNewer := (Option.filter_eq_some_iff.1 hPending).2
    simp only [hOld, Option.all_some, Bool.and_eq_true, decide_eq_true_eq] at hNewer
    exact hNewer.2
  · simp at hValidated

theorem sequencesGrow_clearSuppression (s : TerminalState)
  (previousDetectedAgent detectedAgent : Option Agent) :
  SequencesGrow s (s.clearFullLifecycleHookSuppressionForDetectedAgent previousDetectedAgent
    detectedAgent) := by
  unfold clearFullLifecycleHookSuppressionForDetectedAgent
  cases detectedAgent with
  | none => exact .refl s
  | some detected =>
    dsimp only
    split
    · exact .refl s
    generalize hRemembered : (s.retiredSessionsOnDetection detected).foldl
      rememberRetiredSession _ = t
    have hSame : t.hookReportSequences = s.hookReportSequences := by
      rw [← hRemembered, ignores_hookReportSequences.rememberRetired]
    have hRetained : SequencesGrow s
        { t with
          hookReportSequences := t.hookReportSequences.retain (keepsSequenceOnDetection
            (s.validatedReplacementsOnDetection detected) detected) } := by
      refine SequencesGrow.trans (SequencesGrow.of_eq hSame) ?_
      exact grows_retain _ _
    refine hRetained.trans (sequencesGrow_foldl_installValidatedReplacement _ _
      (s.validatedReplacements_nodup detected) ?_)
    intro replacement hMem pending hPending old hOld
    refine lt_pending_of_validated hMem pending hPending old ?_
    have hOld' : old ∈ (t.hookReportSequences.retain (keepsSequenceOnDetection
        (s.validatedReplacementsOnDetection detected) detected)).lookup
          replacement.source := hOld
    rw [lookup_retain, hSame] at hOld'
    split at hOld'
    · exact hOld'
    · simp at hOld'

/-! ## Writes of the mutators -/

section

variable (s : TerminalState)

theorem sequencesGrow_applyProcessExit (agent : Option Agent)
  (newerCustomAuthority : Bool) (now : Instant) :
  SequencesGrow s (s.applyProcessExit agent newerCustomAuthority now) := by
  have hReset : ∀ t : TerminalState, SequencesGrow t (t.resetSuppressionsOnExit agent now) := by
    intro t
    refine SequencesGrow.trans ?_ (sequencesGrow_removeHookReportSequences _ _)
    refine SequencesGrow.of_eq ?_
    exact ignores_hookReportSequences.rememberRetired ..
  have hSession : ∀ t : TerminalState,
      SequencesGrow t (t.suppressOfficialSessionOnExit agent now) := by
    intro t
    unfold suppressOfficialSessionOnExit
    split
    · exact .refl t
    · exact SequencesGrow.trans (sequencesGrow_removeHookReportSequences _ t)
        (SequencesGrow.of_eq rfl)
  have hAuthority : ∀ t : TerminalState,
      SequencesGrow t (t.clearHookAuthorityOnExit agent newerCustomAuthority) := by
    intro t
    unfold clearHookAuthorityOnExit
    split
    · exact .refl t
    split
    · exact SequencesGrow.trans (sequencesGrow_removeHookReportSequences _ t)
        (SequencesGrow.of_eq rfl)
    · exact .refl t
  have hPersisted : ∀ t : TerminalState,
      SequencesGrow t (t.clearPersistedSessionOnExit agent newerCustomAuthority) := by
    intro t
    obtain ⟨_, hEq⟩ := t.clearPersistedSessionOnExit_eq agent newerCustomAuthority
    rw [hEq]
    exact .of_eq rfl
  have hMetadata : ∀ t : TerminalState, SequencesGrow t (t.clearMetadataOnExit agent now) := by
    intro t
    obtain ⟨_, _, _, _, hEq⟩ := t.clearMetadataOnExit_eq agent now
    rw [hEq]
    exact .of_eq rfl
  exact ((((hReset _).trans (hSession _)).trans (hAuthority _)).trans (hPersisted _)).trans
    (hMetadata _)

theorem sequencesGrow_applyDetection (detection : ScreenDetection)
  (now clock : Instant) : SequencesGrow s (s.applyDetection detection now clock) := by
  have hAdopt : SequencesGrow s (s.adoptDetectedAgent detection.agent) :=
    .of_eq (ignores_hookReportSequences.adopt s ignoresNames_hookReportSequences _)
  have hExit : ∀ t : TerminalState, SequencesGrow t (t.recordProcessExit detection now) :=
    fun t => .of_eq (ignores_hookReportSequences.recordProcessExit t detection now)
  have hFallback : ∀ t : TerminalState, SequencesGrow t (t.recordFallback detection now) :=
    fun t => .of_eq rfl
  have hSuperseded : ∀ (t : TerminalState) previous,
      SequencesGrow t (t.clearSupersededAuthority previous detection.agent now clock) :=
    fun t previous => .of_eq (ignores_hookReportSequences.superseded t previous _ now clock)
  have hRelease : ∀ (t : TerminalState) (released : Bool),
      SequencesGrow t (if released = true then t.clearAgentName else t) := by
    intro t released
    cases released <;> exact .of_eq rfl
  unfold applyDetection
  refine SequencesGrow.trans ?_ (hRelease _ _)
  refine SequencesGrow.trans ?_ (hSuperseded _ _)
  cases detection.processExited with
  | true =>
    exact (hAdopt.trans ((hFallback _).trans (hExit _))).trans
      (sequencesGrow_applyProcessExit ..)
  | false =>
    exact (hAdopt.trans (sequencesGrow_clearSuppression ..)).trans
      ((hFallback _).trans (hExit _))

theorem sequencesGrow_detection (detection : ScreenDetection)
  (now clock : Instant) :
  SequencesGrow s (s.setDetectedStateWithScreenSignalsAt detection now clock).1 := by
  unfold setDetectedStateWithScreenSignalsAt
  split
  · refine .of_eq ?_
    rw [finish_fst, recompute_hookReportSequences]
    split <;> rfl
  · split
    · exact .of_eq (by simp)
    · exact (s.sequencesGrow_applyDetection detection now clock).trans (.of_eq (by simp))

theorem installHookAuthority_hookReportSequences (report : HookReport)
  (admission : HookReportAdmission) (now clock : Instant) :
  (s.installHookAuthority report admission now clock).1.hookReportSequences =
    s.hookReportSequences := by
  unfold installHookAuthority
  rw [finish_fst, recompute_hookReportSequences]
  split <;> split <;>
    simp only [ignores_hookReportSequences.liftSuppression,
      ignores_hookReportSequences.suppressCurrent, ignoresNames_hookReportSequences.reconcile]

theorem sequencesGrow_reanchor (source : String) (reanchor : Bool) :
  SequencesGrow s (s.reanchorHookReportSequence source reanchor) := by
  cases reanchor with
  | false => exact .refl s
  | true => exact grows_remove _ source

theorem sequencesGrow_hookReport (report : HookReport) (now clock : Instant) :
  SequencesGrow s (s.setHookAuthorityAt report now clock).1 := by
  have hOutcome := s.setHookAuthorityAt_outcome report now clock
  generalize s.setHookAuthorityAt report now clock = result at hOutcome ⊢
  cases hOutcome with
  | rejected => exact .refl s
  | buffered sessionRef seq hBuffers => exact .of_eq rfl
  | accepted admission hAccepts sequenced hSequenced =>
    subst hSequenced
    exact ((sequencesGrow_reanchor ..).trans (sequencesGrow_acceptHookReport ..)).trans
      (.of_eq (installHookAuthority_hookReportSequences ..))

theorem installSessionStart_hookReportSequences (report : SessionStartReport)
  (sessionRef : AgentSessionRef) (admission : SessionStartAdmission) (now clock : Instant) :
  (s.installSessionStart report sessionRef admission now clock).1.hookReportSequences =
    s.hookReportSequences := by
  obtain ⟨replacementAllowed, takeoverAllowed, replacedHookSession⟩ := admission
  unfold installSessionStart
  rw [finish_fst, recompute_hookReportSequences]
  rw [ignoresNames_hookReportSequences.reconcile]
  cases replacedHookSession with
  | some replaced =>
    cases replacementAllowed <;> cases takeoverAllowed <;>
      simp [rememberStaleFullLifecycleHookSession, ignores_hookReportSequences.forgetStale]
  | none =>
    cases replacementAllowed <;> cases takeoverAllowed <;>
      simp [ignores_hookReportSequences.suppressCurrent, ignores_hookReportSequences.forgetStale]

end

theorem sequencesGrow_recordReplacementSession {sessionRef : AgentSessionRef}
  (hNotes : NotesReplacement s report sessionRef seq) (now : Instant) :
  SequencesGrow s (s.recordReplacementSession report sessionRef seq now) :=
  grows_insert (lookup_lt_of_not_stale hNotes.fresh)

section

variable (s : TerminalState)

theorem sequencesGrow_sessionStart (report : SessionStartReport)
  (now clock : Instant) :
  SequencesGrow s (s.setAgentSessionRefForSessionStart report now clock).1 := by
  have hAccepted := s.sequencesGrow_acceptHookReport report.source report.seq
  have hOutcome := s.setAgentSessionRefForSessionStart_outcome report now clock
  generalize (s.setAgentSessionRefForSessionStart report now clock).2.isSome = accepted at hOutcome
  generalize (s.setAgentSessionRefForSessionStart report now clock).1 = t at hOutcome ⊢
  cases hOutcome with
  | rejected => exact .refl s
  | sequenced hPassed => exact hAccepted
  | noted sessionRef seq hNotes hAbsent => exact sequencesGrow_recordReplacementSession hNotes now
  | validated sessionRef seq hNotes hPresent =>
    exact ((sequencesGrow_recordReplacementSession hNotes now).trans
      (sequencesGrow_clearSuppression ..)).trans
        (.of_eq (recompute_hookReportSequences ..))
  | installed sessionRef admission hSession hOpen hPassed hAdmit =>
    exact hAccepted.trans (.of_eq (installSessionStart_hookReportSequences ..))

theorem sequencesGrow_hookClear (source : Option String) (seq : Option Nat)
  (now clock : Instant) :
  SequencesGrow s (s.clearHookAuthorityWithMutation source seq now clock).1 := by
  rcases s.clearHookAuthorityWithMutation_cases source seq now clock with
    hSame | ⟨speaker, t, changed, -, hPassed, hCleared⟩
  · rw [hSame]
    exact .refl s
  · have hAccepted := s.sequencesGrow_acceptHookReport speaker seq
    rw [hPassed] at hAccepted
    rw [hCleared]
    refine hAccepted.trans (.of_eq (Eq.trans (recompute_hookReportSequences ..) ?_))
    exact ignores_hookReportSequences.suppressCurrent ..

theorem sequencesGrow_release (source agentLabel : String)
  (seq : Option Nat) (now clock : Instant) :
  SequencesGrow s (s.releaseAgentWithMutation source agentLabel seq now clock).1 := by
  rcases s.releaseAgentWithMutation_cases source agentLabel seq now clock with
    hSame | ⟨t, changed, released, hPassed, hGiven⟩
  · rw [hSame]
    exact .refl s
  · have hAccepted := s.sequencesGrow_acceptHookReport source seq
    rw [hPassed] at hAccepted
    rw [hGiven]
    refine hAccepted.trans (.of_eq (Eq.trans (recompute_hookReportSequences ..) ?_))
    exact ignores_hookReportSequences.giveUp _ ignoresNames_hookReportSequences ..

theorem setAgentMetadata_hookReportSequences (report : AgentMetadataReport)
  (now : Instant) :
  (s.setAgentMetadata report now).1.hookReportSequences = s.hookReportSequences := by
  have hCosmetic : SameArbitration s (s.step (.acceptMetadata report.source report.seq false
      (metadataReportAgent report.source report.agentLabel report.appliesToSource))) :=
    sameArbitration_of_cosmetic s rfl
  have hAccepted := hCosmetic.hookReportSequences
  unfold setAgentMetadata
  split
  · rfl
  simp only [step] at hAccepted
  rcases hResult : s.acceptMetadataReport report.source report.seq false
    (metadataReportAgent report.source report.agentLabel report.appliesToSource) with ⟨t, accepted⟩
  rw [hResult] at hAccepted
  rcases accepted with _ | _ | _
  · exact hAccepted
  · exact hAccepted
  · have hDropped : (t.dropExpiredMetadata report.source now).hookReportSequences =
        t.hookReportSequences := by
      unfold dropExpiredMetadata
      split <;> rfl
    have hStored : (((t.dropExpiredMetadata report.source now).storeMetadata report
        now).armMetadataExpiry report).hookReportSequences = t.hookReportSequences := by
      simp only [armMetadataExpiry, storeMetadata, hDropped]
    dsimp only [finish]
    rw [← hAccepted, ← hStored]
    split <;> simp [clearExpiryPendingForHiddenMetadata]

theorem expireAgentMetadataAt_hookReportSequences
  (scheduledDeadline now : Instant) :
  (s.expireAgentMetadataAt scheduledDeadline now).1.hookReportSequences =
    s.hookReportSequences := by
  unfold expireAgentMetadataAt
  dsimp only
  split
  · rfl
  · simp [removeMetadata]

/-- One operation writes the table so that recorded sequences grow. -/
theorem sequencesGrow_step (op : TerminalOp) : SequencesGrow s (s.step op) := by
  cases hCosmetic : TerminalOp.isCosmetic op with
  | true => exact .of_eq (sameArbitration_of_cosmetic s hCosmetic).hookReportSequences
  | false =>
    cases op with
    | detection detection now clock => exact s.sequencesGrow_detection detection now clock
    | hookReport report now clock => exact s.sequencesGrow_hookReport report now clock
    | sessionStart report now clock => exact s.sequencesGrow_sessionStart report now clock
    | hookClear source seq now clock => exact s.sequencesGrow_hookClear source seq now clock
    | release source agentLabel seq now clock =>
      exact s.sequencesGrow_release source agentLabel seq now clock
    | persistSession session => exact .of_eq rfl
    | metadata report now => exact .of_eq (s.setAgentMetadata_hookReportSequences report now)
    | expireMetadata scheduledDeadline now =>
      exact .of_eq (s.expireAgentMetadataAt_hookReportSequences scheduledDeadline now)
    | respawn => exact .of_eq rfl
    | acceptMetadata | terminalTitle | manualLabel | clearManualLabel | agentName
    | clearAgentName | beginManagedAgent | restoreManagedAgent | reconcileManagedAgent
    | launchArgv | respawnShellOnExit | pendingAgentResumePlan =>
      simp [TerminalOp.isCosmetic] at hCosmetic

end

theorem sequencesGrow_runs {ops : List TerminalOp} (hRun : Runs s ops t) : SequencesGrow s t := by
  refine Run.preserves hRun (SequencesGrow.refl s) ?_
  rintro u op v hInv rfl
  exact hInv.trans (u.sequencesGrow_step op)

/-! ## Accepted and rejected reports -/

/-- The source and sequence number of a report. A clear without a source
speaks for the current authority. -/
def reportOf (s : TerminalState) : TerminalOp → Option (String × Option Nat)
  | .hookReport report _ _ => some (report.source, report.seq)
  | .sessionStart report _ _ => some (report.source, report.seq)
  | .hookClear source seq _ _ =>
    (source.or (s.hookAuthority.map HookAuthority.source)).map fun source => (source, seq)
  | .release source _ seq _ _ => some (source, seq)
  | _ => none

/-- The report was accepted, with a mutation to show for it. -/
def accepts (s : TerminalState) : TerminalOp → Bool
  | .hookReport report now clock => (s.setHookAuthorityAt report now clock).2.isSome
  | .sessionStart report now clock =>
    (s.setAgentSessionRefForSessionStart report now clock).2.isSome
  | .hookClear source seq now clock =>
    (s.clearHookAuthorityWithMutation source seq now clock).2.isSome
  | .release source agentLabel seq now clock =>
    (s.releaseAgentWithMutation source agentLabel seq now clock).2.isSome
  | _ => false

/-- The step from `s` to `t` records `seq` for the source. -/
def RecordsSequence (s t : TerminalState) (source : String) (seq : Nat) : Prop :=
  ∃ after before, t.hookReportSequences.log =
    after ++ .recorded source seq :: (before ++ s.hookReportSequences.log)

theorem acceptHookReport_some (hAccepted : (s.acceptHookReport source (some seq)).2 = true) :
  (s.acceptHookReport source (some seq)).1.hookReportSequences =
    s.hookReportSequences.insert source seq := by
  unfold acceptHookReport at hAccepted ⊢
  dsimp only at hAccepted ⊢
  split
  next hStale => simp [hStale] at hAccepted
  next => rfl

theorem RecordsSequence.of_insert {u : TerminalState} (hBefore : SequencesGrow s t)
  (hInsert : u.hookReportSequences = t.hookReportSequences.insert source seq)
  {v : TerminalState} (hAfter : SequencesGrow u v) : RecordsSequence s v source seq := by
  obtain ⟨before, hBeforeLog⟩ := hBefore.log
  obtain ⟨after, hAfterLog⟩ := hAfter.log
  exact ⟨after, before, by rw [hAfterLog, hInsert, log_insert, hBeforeLog]⟩

theorem RecordsSequence.of_acceptHookReport {u : TerminalState}
  (hResult : s.acceptHookReport source (some seq) = (t, true)) (hAfter : SequencesGrow t u) :
  RecordsSequence s u source seq := by
  have hAccepted : (s.acceptHookReport source (some seq)).2 = true := by rw [hResult]
  have hInsert := acceptHookReport_some hAccepted
  rw [hResult] at hInsert
  exact RecordsSequence.of_insert (SequencesGrow.refl s) hInsert hAfter

theorem recordsSequence_hookReport {report : HookReport} (hSeq : report.seq = some seq)
  (hAccepted : (s.setHookAuthorityAt report now clock).2.isSome = true) :
  RecordsSequence s (s.setHookAuthorityAt report now clock).1 report.source seq := by
  have hOutcome := s.setHookAuthorityAt_outcome report now clock
  generalize s.setHookAuthorityAt report now clock = result at hOutcome hAccepted ⊢
  cases hOutcome with
  | rejected => cases hAccepted
  | buffered sessionRef seq hBuffers => cases hAccepted
  | accepted admission hAccepts sequenced hSequenced =>
    have hPassed := hAccepts.sequence
    rw [hSeq] at hPassed hSequenced
    refine RecordsSequence.of_insert (s.sequencesGrow_reanchor report.source
      admission.reanchorSequence) (acceptHookReport_some hPassed) ?_
    rw [← hSequenced]
    exact .of_eq (installHookAuthority_hookReportSequences ..)

theorem recordsSequence_sessionStart (hSeq : report.seq = some seq)
  (hAccepted : (s.setAgentSessionRefForSessionStart report now clock).2.isSome = true) :
  RecordsSequence s (s.setAgentSessionRefForSessionStart report now clock).1
    report.source seq := by
  have hOutcome := s.setAgentSessionRefForSessionStart_outcome report now clock
  rw [hAccepted] at hOutcome
  generalize (s.setAgentSessionRefForSessionStart report now clock).1 = t at hOutcome ⊢
  cases hOutcome with
  | validated sessionRef number hNotes hPresent =>
    have hNumber := hNotes.sequenced
    rw [hSeq] at hNumber
    cases hNumber
    refine RecordsSequence.of_insert (SequencesGrow.refl s)
      (u := s.recordReplacementSession report sessionRef seq now) rfl ?_
    exact (sequencesGrow_clearSuppression ..).trans (.of_eq (recompute_hookReportSequences ..))
  | installed sessionRef admission hSession hOpen hPassed hAdmit =>
    rw [hSeq] at hPassed ⊢
    exact RecordsSequence.of_insert (SequencesGrow.refl s) (acceptHookReport_some hPassed)
      (.of_eq (installSessionStart_hookReportSequences ..))

theorem recordsSequence_hookClear {source : Option String} {speaker : String}
  (hSpeaker : source.or (s.hookAuthority.map HookAuthority.source) = some speaker)
  (hAccepted : (s.clearHookAuthorityWithMutation source (some seq) now clock).2.isSome = true) :
  RecordsSequence s (s.clearHookAuthorityWithMutation source (some seq) now clock).1
    speaker seq := by
  rcases s.clearHookAuthorityWithMutation_cases source (some seq) now clock with
    hSame | ⟨named, t, changed, hNamed, hPassed, hCleared⟩
  · rw [hSame] at hAccepted
    cases hAccepted
  · cases hSpeaker.symm.trans hNamed
    rw [hCleared]
    refine RecordsSequence.of_acceptHookReport hPassed (.of_eq ?_)
    exact (recompute_hookReportSequences ..).trans (ignores_hookReportSequences.suppressCurrent ..)

theorem recordsSequence_release {agentLabel : String} (hAccepted :
    (s.releaseAgentWithMutation source agentLabel (some seq) now clock).2.isSome = true) :
  RecordsSequence s (s.releaseAgentWithMutation source agentLabel (some seq) now clock).1
    source seq := by
  rcases s.releaseAgentWithMutation_cases source agentLabel (some seq) now clock with
    hSame | ⟨t, changed, released, hPassed, hGiven⟩
  · rw [hSame] at hAccepted
    cases hAccepted
  · rw [hGiven]
    refine RecordsSequence.of_acceptHookReport hPassed (.of_eq ?_)
    exact (recompute_hookReportSequences ..).trans
      (ignores_hookReportSequences.giveUp _ ignoresNames_hookReportSequences ..)

/-- Every accepted numbered report has its number recorded for its source. -/
theorem recordsSequence_step {op : TerminalOp} (hReport : s.reportOf op = some (source, some seq))
  (hAccepted : s.accepts op = true) :
  RecordsSequence s (s.step op) source seq := by
  cases op with
  | hookReport report now clock =>
    simp only [reportOf, Option.some.injEq, Prod.mk.injEq] at hReport
    obtain ⟨rfl, hSeq⟩ := hReport
    exact recordsSequence_hookReport hSeq hAccepted
  | sessionStart report now clock =>
    simp only [reportOf, Option.some.injEq, Prod.mk.injEq] at hReport
    obtain ⟨rfl, hSeq⟩ := hReport
    exact recordsSequence_sessionStart hSeq hAccepted
  | hookClear named number now clock =>
    obtain ⟨speaker, hSpeaker, hPair⟩ := Option.map_eq_some_iff.1 hReport
    cases hPair
    exact recordsSequence_hookClear hSpeaker hAccepted
  | release named agentLabel number now clock =>
    obtain ⟨rfl, rfl⟩ := hReport
    exact recordsSequence_release hAccepted
  | _ => simp [accepts] at hAccepted

/-! ## Unnumbered reports -/

theorem acceptHookReport_none (hUsed : s.hookReportSequences.contains source = true) :
  s.acceptHookReport source none = (s, false) := by
  simp [acceptHookReport, hUsed]

/-- An unnumbered state report of a numbering source is rejected, unless its
fresh session has the old entry removed first. -/
theorem unnumbered_hookReport {report : HookReport} (hSeq : report.seq = none)
  (hUsed : s.hookReportSequences.contains report.source = true) (now clock : Instant) :
  (s.setHookAuthorityAt report now clock).1.hookReportSequences.log =
      .removed report.source :: s.hookReportSequences.log ∨
    s.setHookAuthorityAt report now clock = (s, none) := by
  have hOutcome := s.setHookAuthorityAt_outcome report now clock
  generalize s.setHookAuthorityAt report now clock = result at hOutcome ⊢
  cases hOutcome with
  | rejected => exact Or.inr rfl
  | buffered sessionRef seq hBuffers =>
    have hSequenced := hBuffers.sequenced
    rw [hSeq] at hSequenced
    cases hSequenced
  | accepted admission hAccepts sequenced hSequenced =>
    left
    rw [installHookAuthority_hookReportSequences, hSequenced, hSeq]
    have hPassed := hAccepts.sequence
    rw [hSeq] at hPassed
    cases hReanchor : admission.reanchorSequence with
    | false =>
      rw [hReanchor] at hPassed
      simp [reanchorHookReportSequence, acceptHookReport_none hUsed] at hPassed
    | true => exact log_remove_of_contains hUsed

theorem unnumbered_sessionStart (hSeq : report.seq = none)
  (hUsed : s.hookReportSequences.contains report.source = true) (now clock : Instant) :
  s.setAgentSessionRefForSessionStart report now clock = (s, none) := by
  unfold setAgentSessionRefForSessionStart gatedSessionStart
  rw [hSeq, acceptHookReport_none hUsed]
  cases report.sessionRef with
  | none => rfl
  | some sessionRef =>
    dsimp only
    split
    · split <;> rfl
    · rfl

theorem unnumbered_hookClear {source : Option String} {speaker : String}
  (hSpeaker : source.or (s.hookAuthority.map HookAuthority.source) = some speaker)
  (hUsed : s.hookReportSequences.contains speaker = true) (now clock : Instant) :
  s.clearHookAuthorityWithMutation source none now clock = (s, none) := by
  rcases s.clearHookAuthorityWithMutation_cases source none now clock with
    hSame | ⟨named, t, changed, hNamed, hPassed, hCleared⟩
  · exact hSame
  · cases hSpeaker.symm.trans hNamed
    rw [acceptHookReport_none hUsed] at hPassed
    cases hPassed

theorem unnumbered_release (hUsed : s.hookReportSequences.contains source = true)
  (agentLabel : String) (now clock : Instant) :
  s.releaseAgentWithMutation source agentLabel none now clock = (s, none) := by
  unfold releaseAgentWithMutation
  rw [acceptHookReport_none hUsed]
  split <;> rfl

/-- An unnumbered report of a source with a recorded number changes nothing,
unless the entry of the source is removed by the same step. -/
theorem unnumbered_step {op : TerminalOp} (hReport : s.reportOf op = some (source, none))
  (hUsed : s.hookReportSequences.contains source = true) :
  (s.step op).hookReportSequences.log = .removed source :: s.hookReportSequences.log ∨
    (s.accepts op = false ∧ s.step op = s) := by
  cases op with
  | hookReport report now clock =>
    simp only [reportOf, Option.some.injEq, Prod.mk.injEq] at hReport
    obtain ⟨rfl, hSeq⟩ := hReport
    rcases unnumbered_hookReport hSeq hUsed now clock with hRemoved | hRejected
    · exact Or.inl hRemoved
    · exact Or.inr ⟨by simp [accepts, hRejected], by simp [step, hRejected]⟩
  | sessionStart report now clock =>
    simp only [reportOf, Option.some.injEq, Prod.mk.injEq] at hReport
    obtain ⟨rfl, hSeq⟩ := hReport
    have hRejected := unnumbered_sessionStart hSeq hUsed now clock
    exact Or.inr ⟨by simp [accepts, hRejected], by simp [step, hRejected]⟩
  | hookClear named number now clock =>
    obtain ⟨speaker, hSpeaker, hPair⟩ := Option.map_eq_some_iff.1 hReport
    cases hPair
    have hRejected := unnumbered_hookClear hSpeaker hUsed now clock
    exact Or.inr ⟨by simp [accepts, hRejected], by simp [step, hRejected]⟩
  | release named agentLabel number now clock =>
    obtain ⟨rfl, rfl⟩ := hReport
    have hRejected := unnumbered_release hUsed agentLabel now clock
    exact Or.inr ⟨by simp [accepts, hRejected], by simp [step, hRejected]⟩
  | _ => simp [reportOf] at hReport

/-! ## Sequences over whole runs -/

/-- In every run, between two removals of a source's entry: the recorded
sequence never decreases, every accepted numbered report is recorded with a
number above all recorded before it, and once a number is recorded an
unnumbered report of the source is rejected with the state left as it is. -/
theorem report_sequences_of_runs {ops : List TerminalOp} {s : TerminalState}
  (hRun : Runs new ops s) (source : String) :
  (∀ {later : List TerminalOp} {t : TerminalState}, Runs s later t →
    ∃ writes, t.hookReportSequences.log = writes ++ s.hookReportSequences.log ∧
      (.removed source ∉ writes → ∀ old, s.hookReportSequences.lookup source = some old →
        ∃ seq, t.hookReportSequences.lookup source = some seq ∧ old ≤ seq)) ∧
  (∀ {newest middle oldest : List (MapWrite String Nat)} {old seq : Nat},
    s.hookReportSequences.log =
      newest ++ .recorded source seq :: (middle ++ .recorded source old :: oldest) →
    .removed source ∉ middle → old < seq) ∧
  (∀ (op : TerminalOp) (seq : Nat), s.reportOf op = some (source, some seq) →
    s.accepts op = true → RecordsSequence s (s.step op) source seq) ∧
  (∀ op : TerminalOp, s.reportOf op = some (source, none) →
    s.hookReportSequences.contains source = true →
    (s.step op).hookReportSequences.log = .removed source :: s.hookReportSequences.log ∨
      (s.accepts op = false ∧ s.step op = s)) := by
  have hIncreasing : ∀ {first : List TerminalOp} {t : TerminalState}, Runs new first t →
      t.hookReportSequences.Increasing :=
    fun hReach => (sequencesGrow_runs hReach).increasing increasing_empty
  refine ⟨?_, ?_, fun op seq => recordsSequence_step, fun op => unnumbered_step⟩
  · intro later t hLater
    obtain ⟨writes, hWrites⟩ := (sequencesGrow_runs hLater).log
    refine ⟨writes, hWrites, ?_⟩
    intro hKept old hOld
    have hLog := hIncreasing (hRun.trans hLater)
    unfold Increasing at hLog
    rw [hWrites] at hLog
    rw [lookup_eq_current] at hOld ⊢
    rw [hWrites]
    exact hLog.le_current hKept hOld
  · intro newest middle oldest old seq hLog hKept
    have hGrowing := hIncreasing hRun
    unfold Increasing at hGrowing
    rw [hLog] at hGrowing
    exact hGrowing.lt_of_recorded hKept

/-- A custom integration numbers its first report; an unnumbered one is then rejected. -/
theorem report_sequences_custom_run :
  ((new.step (.hookReport ⟨"custom:claude", "claude", .working, none, none, some 4⟩ 1 1)).step
      (.hookReport ⟨"custom:claude", "claude", .idle, none, none, none⟩ 2 2)).state = .working ∧
    ((new.step (.hookReport ⟨"custom:claude", "claude", .working, none, none, some 4⟩ 1
      1)).step (.hookReport ⟨"custom:claude", "claude", .idle, none, none, none⟩ 2
        2)).hookReportSequences.lookup "custom:claude" = some 4 := by
  have hRun : Runs new [.hookReport ⟨"custom:claude", "claude", .working, none, none, some 4⟩ 1 1]
      (new.step (.hookReport ⟨"custom:claude", "claude", .working, none, none, some 4⟩ 1 1)) :=
    Run.single rfl
  have hRejected := (report_sequences_of_runs hRun "custom:claude").2.2.2
    (.hookReport ⟨"custom:claude", "claude", .idle, none, none, none⟩ 2 2) (by decide) (by decide)
  have hKept := (hRejected.resolve_left (by decide)).2
  rw [hKept]
  exact ⟨by decide, by decide⟩

end TerminalState

end Terminal
