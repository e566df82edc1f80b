import VimeflowTerminal.Terminal.EffectiveState

/-! Once the exit of an agent's process has been seen, reports that still arrive
from its hooks cannot bring the agent back: only a session start or a new
detection of the agent can. -/

namespace Terminal

open Detect AgentResume Transition

namespace TerminalState

/-- A detection of no agent keeps the noted exit and the authority, unless it
drops the authority. -/
structure KeepsExit (s t : TerminalState) : Prop where
  recentAgentProcessExit : t.recentAgentProcessExit = s.recentAgentProcessExit
  hookAuthority : t.hookAuthority = s.hookAuthority ∨ t.hookAuthority = none

theorem KeepsExit.refl (s : TerminalState) : KeepsExit s s := ⟨rfl, Or.inl rfl⟩

theorem KeepsExit.trans {s t u : TerminalState} (hLeft : KeepsExit s t) (hRight : KeepsExit t u) :
  KeepsExit s u := by
  refine ⟨hRight.1.trans hLeft.1, ?_⟩
  rcases hRight.2 with hSame | hNone
  · rw [hSame]
    exact hLeft.2
  · exact Or.inr hNone

section

variable (s : TerminalState)

theorem clearSupersededAuthority_keepsExit (previousAgent agent : Option Agent)
  (now clock : Instant) :
  KeepsExit s (s.clearSupersededAuthority previousAgent agent now clock) := by
  unfold clearSupersededAuthority
  split
  · obtain ⟨_, hEq⟩ := s.suppressCurrentFullLifecycleHookAuthority_eq .hookClear clock
    rw [hEq]
    exact ⟨rfl, Or.inr rfl⟩
  · exact .refl s

theorem clearHookAuthorityOnExit_keepsExit (agent : Option Agent)
  (newerCustomAuthority : Bool) :
  KeepsExit s (s.clearHookAuthorityOnExit agent newerCustomAuthority) := by
  unfold clearHookAuthorityOnExit
  split
  · exact .refl s
  next authority hAuthority =>
    split
    · obtain ⟨_, hEq⟩ := removeHookReportSequences_eq [authority.source] s
      rw [hEq]
      exact ⟨rfl, Or.inr rfl⟩
    · exact .refl s

theorem applyProcessExit_keepsExit (agent : Option Agent)
  (newerCustomAuthority : Bool) (now : Instant) :
  KeepsExit s (s.applyProcessExit agent newerCustomAuthority now) := by
  have hReset : ∀ t : TerminalState, KeepsExit t (t.resetSuppressionsOnExit agent now) := by
    intro t
    obtain ⟨_, _, _, hEq⟩ := t.resetSuppressionsOnExit_eq agent now
    rw [hEq]
    exact ⟨rfl, Or.inl rfl⟩
  have hSession : ∀ t : TerminalState, KeepsExit t (t.suppressOfficialSessionOnExit agent now) := by
    intro t
    obtain ⟨_, _, hEq⟩ := t.suppressOfficialSessionOnExit_eq agent now
    rw [hEq]
    exact ⟨rfl, Or.inl rfl⟩
  have hPersisted : ∀ t : TerminalState,
      KeepsExit t (t.clearPersistedSessionOnExit agent newerCustomAuthority) := by
    intro t
    obtain ⟨_, hEq⟩ := t.clearPersistedSessionOnExit_eq agent newerCustomAuthority
    rw [hEq]
    exact ⟨rfl, Or.inl rfl⟩
  have hMetadata : ∀ t : TerminalState, KeepsExit t (t.clearMetadataOnExit agent now) := by
    intro t
    obtain ⟨_, _, _, _, hEq⟩ := t.clearMetadataOnExit_eq agent now
    rw [hEq]
    exact ⟨rfl, Or.inl rfl⟩
  exact ((((hReset _).trans (hSession _)).trans
    (clearHookAuthorityOnExit_keepsExit _ agent newerCustomAuthority)).trans
      (hPersisted _)).trans (hMetadata _)

theorem applyDetection_none_keepsExit (detection : ScreenDetection)
  (hNone : detection.agent = none) (now clock : Instant) :
  KeepsExit s (s.applyDetection detection now clock) := by
  have hRelease : ∀ (t : TerminalState) (released : Bool),
      KeepsExit t (if released = true then t.clearAgentName else t) := by
    intro t released
    cases released <;> exact ⟨rfl, Or.inl rfl⟩
  unfold applyDetection
  refine KeepsExit.trans ?_ (hRelease _ _)
  refine KeepsExit.trans ?_ (clearSupersededAuthority_keepsExit ..)
  rw [hNone]
  cases hExited : detection.processExited with
  | true =>
    simp only [Bool.not_true, Bool.false_eq_true, if_false, if_true]
    refine KeepsExit.trans ?_ (applyProcessExit_keepsExit ..)
    simp only [recordProcessExit, hExited, hNone]
    exact ⟨rfl, Or.inl rfl⟩
  | false =>
    simp only [Bool.not_false, Bool.false_eq_true, if_false, if_true, recordProcessExit, hExited,
      hNone]
    exact ⟨rfl, Or.inl rfl⟩

theorem detection_none_keepsExit (detection : ScreenDetection)
  (hNone : detection.agent = none) (now clock : Instant) :
  KeepsExit s (s.setDetectedStateWithScreenSignalsAt detection now clock).1 := by
  unfold setDetectedStateWithScreenSignalsAt
  split
  · rw [finish_fst]
    refine ⟨?_, Or.inl ?_⟩
    · rw [recompute_recentAgentProcessExit]
      split <;> rfl
    · rw [recompute_hookAuthority]
      split <;> rfl
  · split
    · exact ⟨by simp, Or.inl (by simp)⟩
    · have hApplied := s.applyDetection_none_keepsExit detection hNone now clock
      exact ⟨by simpa using hApplied.1, by simpa using hApplied.2⟩

end

/-- A process exit of an agent is always applied and noted. -/
theorem recentAgentProcessExit_of_exit (s : TerminalState) (detection : ScreenDetection)
  {agent : Agent} (hAgent : detection.agent = some agent)
  (hExited : detection.processExited = true) (now clock : Instant) :
  (s.setDetectedStateWithScreenSignalsAt detection now clock).1.recentAgentProcessExit =
    some { agent, observedAt := now } := by
  have hRelease : ∀ (t : TerminalState) (released : Bool),
      (if released = true then t.clearAgentName else t).recentAgentProcessExit =
        t.recentAgentProcessExit := by
    intro t released
    cases released <;> rfl
  unfold setDetectedStateWithScreenSignalsAt
  simp only [shouldIgnoreDetectedStateUnderFullLifecycleHook, hExited, Bool.not_true,
    Bool.and_false, Bool.false_and, Bool.false_eq_true, if_false, finish_fst,
    recompute_recentAgentProcessExit]
  unfold applyDetection
  simp only [hExited, Bool.not_true, Bool.false_eq_true, if_false, if_true, hRelease]
  rw [(clearSupersededAuthority_keepsExit ..).1, (applyProcessExit_keepsExit ..).1]
  simp only [recordProcessExit, hExited, hAgent]

/-- What may still arrive after the exit: reports from the source for the
agent, whatever session and sequence they carry, and detections of no agent. -/
def IsLate (source : String) (agent : Agent) : TerminalOp → Prop
  | .hookReport report _ _ =>
    report.source = source ∧ parseAgentLabel report.agentLabel = some agent
  | .detection detection _ _ => detection.agent = none
  | _ => False

/-- The exit is still noted, and an authority of the source is either the one
the exit left or one that only counts while the process is present. -/
structure StaysExited (source : String) (agent : Agent) (left : Option HookAuthority)
  (s : TerminalState) : Prop where
  exit : ∃ observedAt, s.recentAgentProcessExit = some { agent, observedAt }
  authority : ∀ authority, s.hookAuthority = some authority → authority.source = source →
    left = some authority ∨ fullLifecycleHookAuthority source authority.agentLabel = true

variable {s t : TerminalState} {source : String} {agent : Agent} {left : Option HookAuthority}

theorem KeepsExit.staysExited (hKept : KeepsExit s t) (hExited : StaysExited source agent left s) :
  StaysExited source agent left t := by
  refine ⟨by rw [hKept.1]; exact hExited.exit, ?_⟩
  intro authority hAuthority hSource
  rcases hKept.2 with hSame | hNone
  · exact hExited.authority authority (hSame ▸ hAuthority) hSource
  · rw [hNone] at hAuthority
    cases hAuthority

/-- Installing a report keeps what the detector has noted. -/
theorem installHookAuthority_recentAgentProcessExit (s : TerminalState) (report : HookReport)
  (admission : HookReportAdmission) (now clock : Instant) :
  (s.installHookAuthority report admission now clock).1.recentAgentProcessExit =
    s.recentAgentProcessExit := by
  unfold installHookAuthority
  rw [finish_fst, recompute_recentAgentProcessExit]
  have hNames : IgnoresNames recentAgentProcessExit := fun _ _ _ _ => rfl
  have hPart : IgnoresSuppressions recentAgentProcessExit := ⟨fun _ _ => rfl, fun _ _ => rfl⟩
  split <;> split <;> simp only [hPart.liftSuppression, hPart.suppressCurrent, hNames.reconcile]

theorem installHookAuthority_hookAuthority (s : TerminalState) (report : HookReport)
  (admission : HookReportAdmission) (now clock : Instant) :
  (s.installHookAuthority report admission now clock).1.hookAuthority =
    some (report.authority admission.sessionRef now) := by
  unfold installHookAuthority
  rw [finish_fst, recompute_hookAuthority]

theorem sequenced_recentAgentProcessExit (s : TerminalState) (source : String) (reanchor : Bool)
  (seq : Option Nat) :
  ((s.reanchorHookReportSequence source reanchor).acceptHookReport source
    seq).1.recentAgentProcessExit = s.recentAgentProcessExit := by
  rw [(sameDerivation_acceptHookReport ..).recentAgentProcessExit]
  cases reanchor <;> rfl

/-- A late report is accepted only from a full lifecycle integration. -/
theorem staysExited_hookReport (hExited : StaysExited source agent left s) (report : HookReport)
  (hSource : report.source = source) (hLabel : parseAgentLabel report.agentLabel = some agent)
  (now clock : Instant) :
  StaysExited source agent left (s.setHookAuthorityAt report now clock).1 := by
  obtain ⟨observedAt, hExit⟩ := hExited.exit
  have hOutcome := s.setHookAuthorityAt_outcome report now clock
  generalize s.setHookAuthorityAt report now clock = result at hOutcome ⊢
  cases hOutcome with
  | rejected => exact hExited
  | buffered sessionRef seq hBuffers => exact ⟨hExited.exit, hExited.authority⟩
  | accepted admission hAccepts sequenced hSequenced =>
    have hFull : report.fullLifecycle = true := by
      cases hFull : report.fullLifecycle with
      | true => rfl
      | false => simpa [hExit, hLabel] using hAccepts.notExited hFull
    refine ⟨⟨observedAt, ?_⟩, ?_⟩
    · rw [installHookAuthority_recentAgentProcessExit, hSequenced,
        sequenced_recentAgentProcessExit]
      exact hExit
    · intro authority hAuthority hOwn
      rw [installHookAuthority_hookAuthority] at hAuthority
      cases hAuthority
      right
      rw [← hSource]
      exact hFull

theorem staysExited_step {op : TerminalOp} (hLate : IsLate source agent op)
  (hExited : StaysExited source agent left s) : StaysExited source agent left (s.step op) := by
  cases op with
  | hookReport report now clock =>
    exact staysExited_hookReport hExited report hLate.1 hLate.2 now clock
  | detection detection now clock =>
    exact (s.detection_none_keepsExit detection hLate now clock).staysExited hExited
  | _ => exact hLate.elim

theorem not_effective_of_exit (hExited : StaysExited source agent left s)
  {authority : HookAuthority}
  (hFull : fullLifecycleHookAuthority authority.source authority.agentLabel = true) :
  s.hookAuthorityIsEffective authority = false := by
  obtain ⟨observedAt, hExit⟩ := hExited.exit
  obtain ⟨owner, hOwner⟩ := exists_parseAgentLabel_of_fullLifecycle hFull
  simp [hookAuthorityIsEffective, hFull, hOwner, hExit]

/-- After the exit of an agent's process, no run of late reports from a source
for that agent and of detections of no agent makes an authority of the source
effective: one that is effective was left in place by the exit itself, by a
custom integration, and never belongs to a full lifecycle integration. -/
theorem late_reports_never_revive (exit : ScreenDetection) (hAgent : exit.agent = some agent)
  (hExited : exit.processExited = true) (now clock : Instant) {ops : List TerminalOp}
  (hLate : ∀ op ∈ ops, IsLate source agent op)
  (hRun : Runs (s.step (.detection exit now clock)) ops t) {authority : HookAuthority}
  (hAuthority : t.hookAuthority = some authority) (hSource : authority.source = source)
  (hEffective : t.hookAuthorityIsEffective authority = true) :
  (s.step (.detection exit now clock)).hookAuthority = some authority ∧
    fullLifecycleHookAuthority source authority.agentLabel = false := by
  have hStays : StaysExited source agent
      (s.step (.detection exit now clock)).hookAuthority t := by
    refine Run.preserves_of_mem hRun hLate ?_ ?_
    · refine ⟨⟨now, s.recentAgentProcessExit_of_exit exit hAgent hExited now clock⟩, ?_⟩
      intro left hLeft _
      exact Or.inl hLeft
    · rintro u op v hOp hInv rfl
      exact staysExited_step hOp hInv
  have hNotFull : fullLifecycleHookAuthority source authority.agentLabel = false := by
    cases hFull : fullLifecycleHookAuthority source authority.agentLabel with
    | false => rfl
    | true =>
      rw [← hSource] at hFull
      rw [not_effective_of_exit hStays hFull] at hEffective
      cases hEffective
  refine ⟨?_, hNotFull⟩
  rcases hStays.authority authority hAuthority hSource with hLeft | hFull
  · exact hLeft
  · rw [hNotFull] at hFull
    cases hFull

/-- A custom label reported later than the exit survives it, and a late Pi
report changes nothing. -/
theorem late_pi_reports_never_revive :
  (((new.step (.hookReport ⟨"herdr:pi", "PI", .working, none, none, none⟩ 10 10)).step
    (.detection ⟨some .pi, .idle, false, false, false, true⟩ 5 5)).hookAuthority =
      some ⟨"herdr:pi", "PI", .working, none, 10, none⟩) ∧
    fullLifecycleHookAuthority "herdr:pi" "PI" = false :=
  have hLate : ∀ op ∈ [TerminalOp.hookReport
      ⟨"herdr:pi", "pi", .working, none, some ⟨.id, "one"⟩, some 7⟩ 20 20],
      IsLate "herdr:pi" .pi op := by
    intro op hMem
    rw [List.mem_singleton.1 hMem]
    exact ⟨rfl, by decide⟩
  late_reports_never_revive ⟨some .pi, .idle, false, false, false, true⟩ rfl rfl 5 5 hLate
    (Run.single rfl) (by decide) rfl (by decide)

end TerminalState

end Terminal
