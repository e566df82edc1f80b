import VimeflowTerminal.Terminal.Transitions

/-! Apart from the reports of metadata and their expiry, an operation on a terminal compares what
was shown before with what is shown afterwards, or it changes nothing that is shown. It does not
write metadata, at most it drops some. -/

namespace Terminal

open Detect AgentResume

namespace TerminalState

/-- The change that an operation announces. -/
def announcement (s : TerminalState) : TerminalOp → Option EffectiveStateChange
  | .detection detection now clock =>
    (s.setDetectedStateWithScreenSignalsAt detection now clock).2.effectiveStateChange
  | .hookReport report now clock =>
    (s.setHookAuthorityAt report now clock).2.bind (·.effectiveStateChange)
  | .sessionStart report now clock =>
    (s.setAgentSessionRefForSessionStart report now clock).2.bind (·.effectiveStateChange)
  | .hookClear source seq now clock =>
    (s.clearHookAuthorityWithMutation source seq now clock).2.bind (·.effectiveStateChange)
  | .release source agentLabel seq now clock =>
    (s.releaseAgentWithMutation source agentLabel seq now clock).2.bind (·.effectiveStateChange)
  | .metadata report now => (s.setAgentMetadata report now).2.bind (·.effectiveStateChange)
  | .expireMetadata scheduledDeadline now =>
    (s.expireAgentMetadataAt scheduledDeadline now).2.bind (·.effectiveStateChange)
  | _ => none

/-- Nothing that is shown differs. -/
structure SameShown (s t : TerminalState) : Prop extends SameDerivation s t where
  agentMetadata : t.agentMetadata = s.agentMetadata
  state : t.state = s.state

theorem SameShown.refl (s : TerminalState) : SameShown s s := ⟨.refl s, rfl, rfl⟩

/-- `t` and what is announced come about by comparing with what was shown in `s` at `now`. -/
inductive Concluded (s : TerminalState) (now : Instant) :
  TerminalState → Option EffectiveStateChange → Prop where
  | untouched {t : TerminalState} (same : SameShown s t) : Concluded s now t none
  | recomputed {before u : TerminalState} (same : SameShown s before)
      (keep : String → AgentMetadata → Bool)
      (kept : u.agentMetadata = FinMap.retain s.agentMetadata keep) :
      Concluded s now (u.recomputeEffectiveState (before.previous now) now).1
        (u.recomputeEffectiveState (before.previous now) now).2

theorem retain_all (m : FinMap String AgentMetadata) : m.retain (fun _ _ => true) = m :=
  AList.ext (List.filter_eq_self.2 fun _ _ => rfl)

theorem Concluded.recompute {s before u : TerminalState} {now : Instant} (same : SameShown s before)
  (kept : u.agentMetadata = s.agentMetadata) :
  Concluded s now (u.recomputeEffectiveState (before.previous now) now).1
    (u.recomputeEffectiveState (before.previous now) now).2 := by
  apply Concluded.recomputed same fun _ _ => true
  rw [retain_all]
  exact kept

variable (s : TerminalState)

theorem ignores_agentMetadata : IgnoresArbitration agentMetadata :=
  ⟨⟨fun _ _ => rfl, fun _ _ => rfl⟩, fun _ _ _ => rfl, fun _ _ _ _ _ _ => rfl⟩

theorem ignoresNames_agentMetadata : IgnoresNames agentMetadata := fun _ _ _ _ => rfl

theorem agentMetadata_acceptMetadataReport (source : String) (seq : Option Nat)
  (includesTokens : Bool) (agent : Option Agent) :
  (s.acceptMetadataReport source seq includesTokens agent).1.agentMetadata =
    s.agentMetadata := by
  unfold acceptMetadataReport
  cases seq with
  | none => rfl
  | some seq =>
    dsimp only
    split
    · rfl
    · split <;> rfl

theorem agentMetadata_setTerminalTitle (title : Option String) :
  (s.setTerminalTitle title).1.agentMetadata = s.agentMetadata := by
  unfold setTerminalTitle
  split
  · rfl
  · dsimp only
    split <;> rfl

theorem agentMetadata_reconcileManagedAgentAt (now : Instant) (processExited : Bool) :
  (s.reconcileManagedAgentAt now processExited).1.agentMetadata = s.agentMetadata := by
  unfold reconcileManagedAgentAt reconcilePendingAgent clearAgentName
  split
  · rfl
  · dsimp only
    split <;> split_ifs <;> rfl

theorem sameShown_acceptHookReport (source : String) (seq : Option Nat) :
  SameShown s (s.acceptHookReport source seq).1 := by
  obtain ⟨_, hEq⟩ := s.acceptHookReport_eq source seq
  rw [hEq]
  exact ⟨⟨rfl, rfl, rfl, rfl, rfl, rfl⟩, rfl, rfl⟩

theorem agentMetadata_applyProcessExit (agent : Option Agent) (newerCustomAuthority : Bool)
  (now : Instant) :
  ∃ keep, (s.applyProcessExit agent newerCustomAuthority now).agentMetadata =
    FinMap.retain s.agentMetadata keep := by
  have hCleared : ∀ t : TerminalState, t.agentMetadata = s.agentMetadata →
      ∃ keep, (t.clearMetadataOnExit agent now).agentMetadata =
        FinMap.retain s.agentMetadata keep := by
    intro t hSame
    cases agent with
    | none => exact ⟨fun _ _ => true, hSame.trans (retain_all _).symm⟩
    | some agent =>
      refine ⟨fun _ metadata => !metadataClearedOnExit agent now metadata, ?_⟩
      rw [← hSame]
      rfl
  exact hCleared _ (ignores_agentMetadata.exited s (fun _ _ => rfl) agent newerCustomAuthority now)

theorem agentMetadata_applyDetection (detection : ScreenDetection) (now clock : Instant) :
  ∃ keep, (s.applyDetection detection now clock).agentMetadata =
    FinMap.retain s.agentMetadata keep := by
  unfold applyDetection
  dsimp only
  have hLifted : (if !detection.processExited then
      (s.adoptDetectedAgent
        detection.agent).clearFullLifecycleHookSuppressionForDetectedAgent
          (s.detectionPredecessor detection now) detection.agent
      else s.adoptDetectedAgent detection.agent).agentMetadata = s.agentMetadata := by
    split <;> simp [ignores_agentMetadata.lifted _ ignoresNames_agentMetadata (fun _ _ => rfl),
      ignores_agentMetadata.adopt _ ignoresNames_agentMetadata]
  generalize (if !detection.processExited then
      (s.adoptDetectedAgent
        detection.agent).clearFullLifecycleHookSuppressionForDetectedAgent
          (s.detectionPredecessor detection now) detection.agent
      else s.adoptDetectedAgent detection.agent) = lifted at hLifted ⊢
  have hRecorded : ((lifted.recordFallback detection now).recordProcessExit detection
      now).agentMetadata = s.agentMetadata := by
    rw [ignores_agentMetadata.recordProcessExit, ignores_agentMetadata.recordFallback, hLifted]
  generalize (lifted.recordFallback detection now).recordProcessExit detection now = recorded
    at hRecorded ⊢
  have hExited : ∃ keep, (if detection.processExited then
      recorded.applyProcessExit detection.agent (s.newerCustomAuthority detection now) now
      else recorded).agentMetadata = FinMap.retain s.agentMetadata keep := by
    split
    · rw [← hRecorded]
      exact recorded.agentMetadata_applyProcessExit _ _ _
    · exact ⟨fun _ _ => true, hRecorded.trans (retain_all _).symm⟩
  obtain ⟨keep, hKept⟩ := hExited
  refine ⟨keep, Eq.trans ?_ hKept⟩
  split
  · exact ignores_agentMetadata.superseded ..
  · exact ignores_agentMetadata.superseded ..

theorem concluded_detection (detection : ScreenDetection) (now clock : Instant) :
  Concluded s now (s.setDetectedStateWithScreenSignalsAt detection now clock).1
    (s.setDetectedStateWithScreenSignalsAt detection now clock).2.effectiveStateChange := by
  unfold setDetectedStateWithScreenSignalsAt
  split
  · apply Concluded.recompute (.refl s)
    split <;> rfl
  split
  · exact Concluded.recompute (.refl s) rfl
  · obtain ⟨keep, hKept⟩ := s.agentMetadata_applyDetection detection now clock
    exact Concluded.recomputed (.refl s) keep hKept

theorem concluded_hookReport (report : HookReport) (now clock : Instant) :
  Concluded s now (s.setHookAuthorityAt report now clock).1
    ((s.setHookAuthorityAt report now clock).2.bind (·.effectiveStateChange)) := by
  have hOutcome := s.setHookAuthorityAt_outcome report now clock
  generalize s.setHookAuthorityAt report now clock = result at hOutcome
  cases hOutcome with
  | rejected => exact .untouched (.refl s)
  | buffered => exact .untouched ⟨⟨rfl, rfl, rfl, rfl, rfl, rfl⟩, rfl, rfl⟩
  | accepted admission hAccepts sequenced hSequenced =>
    have hSame : SameShown s sequenced := by
      rw [hSequenced]
      cases admission.reanchorSequence with
      | false => exact s.sameShown_acceptHookReport _ _
      | true =>
        obtain ⟨hDerivation, hMetadata, hState⟩ := sameShown_acceptHookReport
          (s.reanchorHookReportSequence report.source true) report.source report.seq
        refine ⟨SameDerivation.trans ?_ hDerivation, hMetadata, hState⟩
        exact ⟨rfl, rfl, rfl, rfl, rfl, rfl⟩
    apply Concluded.recompute hSame
    rw [← hSame.agentMetadata]
    split <;> split <;> simp [ignores_agentMetadata.liftSuppression,
      ignores_agentMetadata.suppressCurrent, ignoresNames_agentMetadata.reconcile]

theorem concluded_sessionStart (report : SessionStartReport) (now clock : Instant) :
  Concluded s now (s.setAgentSessionRefForSessionStart report now clock).1
    ((s.setAgentSessionRefForSessionStart report now clock).2.bind
      (·.effectiveStateChange)) := by
  unfold setAgentSessionRefForSessionStart
  cases report.sessionRef with
  | none => exact .untouched (.refl s)
  | some sessionRef =>
    dsimp only
    split
    · -- the gated start
      unfold gatedSessionStart
      split
      · exact .untouched (.refl s)
      cases report.seq with
      | none => exact .untouched (.refl s)
      | some seq =>
        dsimp only
        split
        · exact .untouched (.refl s)
        split
        · apply Concluded.recompute (.refl s)
          exact ignores_agentMetadata.lifted _ ignoresNames_agentMetadata (fun _ _ => rfl) _ _
        · exact .untouched ⟨⟨rfl, rfl, rfl, rfl, rfl, rfl⟩, rfl, rfl⟩
    · have hSame := s.sameShown_acceptHookReport report.source report.seq
      generalize s.acceptHookReport report.source report.seq = accepted at hSame ⊢
      obtain ⟨sequenced, passed⟩ := accepted
      cases passed with
      | false => exact .untouched hSame
      | true =>
        dsimp only
        cases sequenced.admitSessionStart report sessionRef with
        | none => exact .untouched hSame
        | some admission =>
          apply Concluded.recompute hSame
          rw [← hSame.agentMetadata]
          rw [ignoresNames_agentMetadata.reconcile]
          split
          · split <;>
              simp [rememberStaleFullLifecycleHookSession, ignores_agentMetadata.forgetStale]
          · split <;> split <;>
              simp [ignores_agentMetadata.suppressCurrent, ignores_agentMetadata.forgetStale]

theorem concluded_hookClear (source : Option String) (seq : Option Nat) (now clock : Instant) :
  Concluded s now (s.clearHookAuthorityWithMutation source seq now clock).1
    ((s.clearHookAuthorityWithMutation source seq now clock).2.bind
      (·.effectiveStateChange)) := by
  rcases s.clearHookAuthorityWithMutation_cases source seq now clock with
    hSame | ⟨speaker, t, changed, -, hPassed, hCleared⟩
  · rw [hSame]
    exact .untouched (.refl s)
  · have hSame := s.sameShown_acceptHookReport speaker seq
    rw [hPassed] at hSame
    rw [hCleared]
    apply Concluded.recompute hSame
    rw [← hSame.agentMetadata]
    exact ignores_agentMetadata.suppressCurrent ..

theorem concluded_release (source agentLabel : String) (seq : Option Nat) (now clock : Instant) :
  Concluded s now (s.releaseAgentWithMutation source agentLabel seq now clock).1
    ((s.releaseAgentWithMutation source agentLabel seq now clock).2.bind
      (·.effectiveStateChange)) := by
  rcases s.releaseAgentWithMutation_cases source agentLabel seq now clock with
    hSame | ⟨t, changed, released, hPassed, hGiven⟩
  · rw [hSame]
    exact .untouched (.refl s)
  · have hSame := s.sameShown_acceptHookReport source seq
    rw [hPassed] at hSame
    rw [hGiven]
    apply Concluded.recompute hSame
    rw [← hSame.agentMetadata]
    exact ignores_agentMetadata.giveUp _ ignoresNames_agentMetadata ..

/-- The operation neither reports metadata, nor lets it expire, nor makes the terminal anew. -/
def TerminalOp.isPlain : TerminalOp → Bool
  | .metadata .. | .expireMetadata .. | .respawn => false
  | _ => true

/-- The time an operation reads from the clock first. -/
def TerminalOp.time : TerminalOp → Option Instant
  | .detection _ now _ | .hookReport _ now _ | .sessionStart _ now _ | .hookClear _ _ now _
  | .release _ _ _ now _ | .metadata _ now | .expireMetadata _ now
  | .beginManagedAgent _ _ now _ _ | .reconcileManagedAgent now _ => some now
  | _ => none

theorem concluded_plain {op : TerminalOp} (hPlain : TerminalOp.isPlain op = true) {now : Instant}
  (hTime : ∀ time, TerminalOp.time op = some time → time = now) :
  Concluded s now (s.step op) (s.announcement op) := by
  have hCosmetic : TerminalOp.isCosmetic op = true → s.announcement op = none →
      (s.step op).agentMetadata = s.agentMetadata →
        Concluded s now (s.step op) (s.announcement op) := by
    intro hCosmetic hNone hMetadata
    have hSame := s.sameArbitration_of_cosmetic hCosmetic
    rw [hNone]
    exact .untouched ⟨hSame.toSameDerivation, hMetadata, hSame.state⟩
  cases op with
  | metadata | expireMetadata | respawn => cases hPlain
  | detection detection time clock =>
    cases hTime time rfl
    exact s.concluded_detection detection now clock
  | hookReport report time clock =>
    cases hTime time rfl
    exact s.concluded_hookReport report now clock
  | sessionStart report time clock =>
    cases hTime time rfl
    exact s.concluded_sessionStart report now clock
  | hookClear source seq time clock =>
    cases hTime time rfl
    exact s.concluded_hookClear source seq now clock
  | release source agentLabel seq time clock =>
    cases hTime time rfl
    exact s.concluded_release source agentLabel seq now clock
  | persistSession => exact .untouched ⟨⟨rfl, rfl, rfl, rfl, rfl, rfl⟩, rfl, rfl⟩
  | acceptMetadata => exact hCosmetic rfl rfl (s.agentMetadata_acceptMetadataReport _ _ _ _)
  | terminalTitle title => exact hCosmetic rfl rfl (s.agentMetadata_setTerminalTitle title)
  | reconcileManagedAgent time processExited =>
    exact hCosmetic rfl rfl (s.agentMetadata_reconcileManagedAgentAt time processExited)
  | manualLabel label =>
    apply hCosmetic rfl rfl
    show (s.setManualLabel label).agentMetadata = s.agentMetadata
    simp only [setManualLabel]
  | clearManualLabel | agentName | clearAgentName | beginManagedAgent | restoreManagedAgent
  | launchArgv | respawnShellOnExit | pendingAgentResumePlan => exact hCosmetic rfl rfl rfl

end TerminalState

end Terminal
