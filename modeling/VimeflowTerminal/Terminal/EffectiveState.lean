import VimeflowTerminal.Terminal.Transitions

/-! Every mutator of a terminal leaves the stored state equal to the state
derived from the detector, the visible blocker and the hook authority. -/

namespace Terminal

open Detect AgentResume Transition

namespace TerminalState

/-- The stored state agrees with the derivation. -/
def StateIsDerived (s : TerminalState) : Prop := s.state = s.derivedState

theorem stateIsDerived_new : StateIsDerived new := rfl

variable {s : TerminalState}

theorem StateIsDerived.of_sameDerivation {t : TerminalState} (hDerived : StateIsDerived s)
  (h : SameDerivation s t) (hState : t.state = s.state) : StateIsDerived t := by
  unfold StateIsDerived
  rw [hState, h.derivedState]
  exact hDerived

/-- A mutator that recomputes at its end and did not touch the stored state
before establishes the derivation, whatever it changed. -/
theorem stateIsDerived_recompute {t : TerminalState} {now : Instant} (previous : Previous)
  (hPrevious : previous.state = s.state) (hState : t.state = s.state) :
  StateIsDerived (t.recomputeEffectiveState previous now).1 :=
  t.recompute_state previous now (hPrevious.trans hState.symm)

theorem ignores_state : IgnoresArbitration TerminalState.state :=
  ⟨⟨fun _ _ => rfl, fun _ _ => rfl⟩, fun _ _ _ => rfl, fun _ _ _ _ _ _ => rfl⟩

theorem ignoresNames_state : IgnoresNames TerminalState.state := fun _ _ _ _ => rfl

section

variable (s : TerminalState)

theorem sameDerivation_acceptHookReport (source : String)
  (seq : Option Nat) : SameDerivation s (s.acceptHookReport source seq).1 := by
  obtain ⟨sequences, hEq⟩ := s.acceptHookReport_eq source seq
  rw [hEq]
  exact ⟨rfl, rfl, rfl, rfl, rfl, rfl⟩

theorem acceptHookReport_state (source : String) (seq : Option Nat) :
  (s.acceptHookReport source seq).1.state = s.state :=
  IgnoresSequences.accept s (fun _ _ => rfl) source seq

end

theorem stateIsDerived_detection (s : TerminalState) (detection : ScreenDetection)
  (now clock : Instant) :
  StateIsDerived (s.setDetectedStateWithScreenSignalsAt detection now clock).1 := by
  unfold setDetectedStateWithScreenSignalsAt
  split
  · refine stateIsDerived_recompute (s := s) _ rfl ?_
    split <;> rfl
  split
  · exact stateIsDerived_recompute (s := s) (s.previous now) rfl rfl
  · refine stateIsDerived_recompute (s := s) (s.previous now) rfl ?_
    exact ignores_state.applied s ignoresNames_state (fun _ _ => rfl) (fun _ _ _ _ _ => rfl) ..

theorem stateIsDerived_installHookAuthority (s : TerminalState) (report : HookReport)
  (admission : HookReportAdmission) (now clock : Instant) :
  StateIsDerived (s.installHookAuthority report admission now clock).1 := by
  refine stateIsDerived_recompute (s := s) _ rfl ?_
  split <;> split <;> simp [ignores_state.liftSuppression, ignores_state.suppressCurrent,
    ignoresNames_state.reconcile]

theorem stateIsDerived_hookReport (hDerived : StateIsDerived s) (report : HookReport)
  (now clock : Instant) :
  StateIsDerived (s.setHookAuthorityAt report now clock).1 := by
  have hOutcome := s.setHookAuthorityAt_outcome report now clock
  generalize s.setHookAuthorityAt report now clock = result at hOutcome ⊢
  cases hOutcome with
  | rejected => exact hDerived
  | buffered sessionRef seq hBuffers =>
    exact hDerived.of_sameDerivation ⟨rfl, rfl, rfl, rfl, rfl, rfl⟩ rfl
  | accepted admission hAccepts sequenced hSequenced =>
    exact stateIsDerived_installHookAuthority sequenced report admission now clock

theorem stateIsDerived_installSessionStart (s : TerminalState) (report : SessionStartReport)
  (sessionRef : AgentSessionRef) (admission : SessionStartAdmission) (now clock : Instant) :
  StateIsDerived (s.installSessionStart report sessionRef admission now clock).1 := by
  unfold installSessionStart
  refine stateIsDerived_recompute (s := s) _ rfl ?_
  obtain ⟨replacementAllowed, takeoverAllowed, replacedHookSession⟩ := admission
  cases replacedHookSession with
  | some replaced =>
    cases replacementAllowed <;> cases takeoverAllowed <;> simp [ignores_state.forgetStale,
      rememberStaleFullLifecycleHookSession, ignoresNames_state.reconcile]
  | none =>
    cases replacementAllowed <;> cases takeoverAllowed <;> simp [ignores_state.forgetStale,
      ignores_state.suppressCurrent, ignoresNames_state.reconcile]

theorem stateIsDerived_sessionStart (hDerived : StateIsDerived s) (report : SessionStartReport)
  (now clock : Instant) :
  StateIsDerived (s.setAgentSessionRefForSessionStart report now clock).1 := by
  have hOutcome := s.setAgentSessionRefForSessionStart_outcome report now clock
  generalize (s.setAgentSessionRefForSessionStart report now clock).2.isSome = accepted at hOutcome
  generalize (s.setAgentSessionRefForSessionStart report now clock).1 = t at hOutcome ⊢
  cases hOutcome with
  | rejected => exact hDerived
  | sequenced hPassed =>
    exact hDerived.of_sameDerivation
      (s.sameDerivation_acceptHookReport report.source report.seq)
      (s.acceptHookReport_state report.source report.seq)
  | noted sessionRef seq hNotes hAbsent =>
    exact hDerived.of_sameDerivation ⟨rfl, rfl, rfl, rfl, rfl, rfl⟩ rfl
  | validated sessionRef seq hNotes hPresent =>
    refine stateIsDerived_recompute (s := s) (s.previous now) rfl ?_
    exact ignores_state.lifted _ ignoresNames_state (fun _ _ => rfl) _ _
  | installed sessionRef admission hSession hOpen hPassed hAdmit =>
    exact stateIsDerived_installSessionStart _ report sessionRef admission now clock

theorem stateIsDerived_hookClear (hDerived : StateIsDerived s) (source : Option String)
  (seq : Option Nat) (now clock : Instant) :
  StateIsDerived (s.clearHookAuthorityWithMutation source seq now clock).1 := by
  rcases s.clearHookAuthorityWithMutation_cases source seq now clock with
    hSame | ⟨speaker, t, changed, -, hPassed, hCleared⟩
  · rw [hSame]
    exact hDerived
  · rw [hCleared]
    refine stateIsDerived_recompute (s := t) _ rfl ?_
    exact ignores_state.suppressCurrent t .hookClear clock

section

variable (hDerived : StateIsDerived s)
include hDerived

theorem stateIsDerived_release (source agentLabel : String)
  (seq : Option Nat) (now clock : Instant) :
  StateIsDerived (s.releaseAgentWithMutation source agentLabel seq now clock).1 := by
  rcases s.releaseAgentWithMutation_cases source agentLabel seq now clock with
    hSame | ⟨t, changed, released, hPassed, hGiven⟩
  · rw [hSame]
    exact hDerived
  · rw [hGiven]
    refine stateIsDerived_recompute (s := t) _ rfl ?_
    exact ignores_state.giveUp t ignoresNames_state source agentLabel clock

theorem stateIsDerived_metadata (report : AgentMetadataReport)
  (now : Instant) :
  StateIsDerived (s.setAgentMetadata report now).1 := by
  have hAccepted : SameArbitration s (s.step (.acceptMetadata report.source report.seq false
      (metadataReportAgent report.source report.agentLabel report.appliesToSource))) :=
    sameArbitration_of_cosmetic s rfl
  unfold setAgentMetadata
  split
  · exact hDerived
  simp only [step] at hAccepted
  rcases hResult : s.acceptMetadataReport report.source report.seq false
    (metadataReportAgent report.source report.agentLabel report.appliesToSource) with ⟨t, accepted⟩
  rw [hResult] at hAccepted
  have hKept : StateIsDerived t :=
    hDerived.of_sameDerivation hAccepted.toSameDerivation hAccepted.state
  cases accepted with
  | none => exact hKept
  | some accepted =>
    cases accepted with
    | false => exact hKept
    | true =>
      dsimp only [finish]
      have hRecomputed : StateIsDerived
          ((((t.dropExpiredMetadata report.source now).storeMetadata report
            now).armMetadataExpiry report).recomputeEffectiveState
              ((t.dropExpiredMetadata report.source now).previous now) now).1 := by
        refine stateIsDerived_recompute (s := t.dropExpiredMetadata report.source now) _ rfl ?_
        simp only [armMetadataExpiry, storeMetadata]
      split
      · exact hRecomputed.of_sameDerivation ⟨rfl, rfl, rfl, rfl, rfl, rfl⟩ rfl
      · exact hRecomputed

theorem stateIsDerived_expireMetadata
  (scheduledDeadline now : Instant) :
  StateIsDerived (s.expireAgentMetadataAt scheduledDeadline now).1 := by
  unfold expireAgentMetadataAt
  dsimp only
  split
  · exact hDerived.of_sameDerivation ⟨rfl, rfl, rfl, rfl, rfl, rfl⟩ rfl
  · refine stateIsDerived_recompute (s := s) _ rfl ?_
    simp only [removeMetadata]

/-- One operation keeps the stored state derived. -/
theorem stateIsDerived_step (op : TerminalOp) :
  StateIsDerived (s.step op) := by
  cases hCosmetic : TerminalOp.isCosmetic op with
  | true =>
    have hSame := sameArbitration_of_cosmetic s hCosmetic
    exact hDerived.of_sameDerivation hSame.toSameDerivation hSame.state
  | false =>
    cases op with
    | detection detection now clock => exact stateIsDerived_detection s detection now clock
    | hookReport report now clock => exact stateIsDerived_hookReport hDerived report now clock
    | sessionStart report now clock => exact stateIsDerived_sessionStart hDerived report now clock
    | hookClear source seq now clock => exact stateIsDerived_hookClear hDerived source seq now clock
    | release source agentLabel seq now clock =>
      exact stateIsDerived_release hDerived source agentLabel seq now clock
    | persistSession session =>
      exact hDerived.of_sameDerivation ⟨rfl, rfl, rfl, rfl, rfl, rfl⟩ rfl
    | metadata report now => exact stateIsDerived_metadata hDerived report now
    | expireMetadata scheduledDeadline now =>
      exact stateIsDerived_expireMetadata hDerived scheduledDeadline now
    | respawn => rfl
    | acceptMetadata | terminalTitle | manualLabel | clearManualLabel | agentName
    | clearAgentName | beginManagedAgent | restoreManagedAgent | reconcileManagedAgent
    | launchArgv | respawnShellOnExit | pendingAgentResumePlan =>
      simp [TerminalOp.isCosmetic] at hCosmetic

end

/-- After every operation of every run from a new terminal the stored state
is the derived one: a visible blocker, else the effective hook authority,
else the screen detector. -/
theorem state_eq_derived_of_runs {ops : List TerminalOp} {s : TerminalState}
  (hRun : Runs new ops s) :
  s.state =
    if s.visibleBlockerOverridesHook then .blocked
    else
      match s.hookAuthority with
        | some authority =>
          if s.hookAuthorityIsEffective authority then authority.state else s.fallbackState
        | none => s.fallbackState := by
  have hDerived : StateIsDerived s := by
    refine Run.preserves hRun stateIsDerived_new ?_
    rintro u op v hInv rfl
    exact stateIsDerived_step hInv op
  refine Eq.trans hDerived ?_
  unfold derivedState effectiveHookAuthority
  cases hAuthority : s.hookAuthority with
  | none => rfl
  | some authority =>
    cases hEffective : s.hookAuthorityIsEffective authority <;>
      simp [Option.filter, hEffective]

/-- A visible blocker on the screen of a custom integration's agent. -/
theorem state_eq_derived_blocker_run :
  (new.step (.hookReport ⟨"custom:claude", "claude", .working, none, none, none⟩ 1 1)).state =
      .working ∧
    ((new.step (.hookReport ⟨"custom:claude", "claude", .working, none, none, none⟩ 1 1)).step
      (.detection ⟨some .claude, .blocked, true, false, false, false⟩ 2 2)).state = .blocked ∧
    ∃ s, Runs new [.hookReport ⟨"custom:claude", "claude", .working, none, none, none⟩ 1 1] s ∧
      s.state =
        if s.visibleBlockerOverridesHook then .blocked
        else
          match s.hookAuthority with
            | some authority =>
              if s.hookAuthorityIsEffective authority then authority.state else s.fallbackState
            | none => s.fallbackState :=
  ⟨by decide, by decide, _, Run.single rfl, state_eq_derived_of_runs (Run.single rfl)⟩

end TerminalState

end Terminal
