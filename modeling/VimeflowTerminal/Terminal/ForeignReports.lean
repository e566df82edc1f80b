import VimeflowTerminal.Terminal.EffectiveState

/-! While the detector sees an agent, a report whose label names another known
agent changes neither the authority, the persisted session, the agent shown
nor its state. It may still be kept for later, or use up a sequence number. -/

namespace Terminal

open Detect AgentResume Transition

namespace TerminalState

/-- The agent shown for the terminal, and what it rests on, are the same. -/
structure SameShownAgent (s t : TerminalState) : Prop where
  hookAuthority : t.hookAuthority = s.hookAuthority
  persistedAgentSession : t.persistedAgentSession = s.persistedAgentSession
  effectiveAgentLabel : t.effectiveAgentLabel = s.effectiveAgentLabel
  state : t.state = s.state
  derivedState : t.derivedState = s.derivedState

theorem SameShownAgent.refl (s : TerminalState) : SameShownAgent s s := ⟨rfl, rfl, rfl, rfl, rfl⟩

theorem SameDerivation.sameShownAgent {s t : TerminalState} (h : SameDerivation s t)
  (hState : t.state = s.state) (hSession : t.persistedAgentSession = s.persistedAgentSession) :
  SameShownAgent s t :=
  ⟨h.hookAuthority, hSession, h.effectiveAgentLabel, hState, h.derivedState⟩

theorem acceptHookReport_sameShownAgent (s : TerminalState) (source : String) (seq : Option Nat) :
  SameShownAgent s (s.acceptHookReport source seq).1 := by
  obtain ⟨sequences, hEq⟩ := s.acceptHookReport_eq source seq
  rw [hEq]
  exact SameDerivation.sameShownAgent ⟨rfl, rfl, rfl, rfl, rfl, rfl⟩ rfl rfl

variable {s : TerminalState} {detected other : Agent}

theorem knownAgentLabelConflicts_of_ne
  (hDetected : s.detectedAgent = some detected) (hOther : other ≠ detected)
  {label : String} (hLabel : parseAgentLabel label = some other) :
  s.knownAgentLabelConflictsWithDetectedAgent label = true := by
  simp [knownAgentLabelConflictsWithDetectedAgent, hDetected, hLabel, hOther]

theorem processPresent_of_ne
  (hDetected : s.detectedAgent = some detected) (hOther : other ≠ detected) :
  s.processPresent (some other) = false := by
  have hNe : detected ≠ other := fun h => hOther h.symm
  simp [processPresent, hDetected, hNe]

/-- The detected agent rejects a foreign state report, or keeps it unseen. -/
theorem sameShownAgent_hookReport
  (hDetected : s.detectedAgent = some detected) (hOther : other ≠ detected)
  (report : HookReport)
  (hLabel : parseAgentLabel report.agentLabel = some other) (now clock : Instant) :
  SameShownAgent s (s.setHookAuthorityAt report now clock).1 := by
  have hOutcome := s.setHookAuthorityAt_outcome report now clock
  generalize s.setHookAuthorityAt report now clock = result at hOutcome ⊢
  cases hOutcome with
  | rejected => exact .refl s
  | buffered sessionRef seq hBuffers =>
    exact SameDerivation.sameShownAgent ⟨rfl, rfl, rfl, rfl, rfl, rfl⟩ rfl rfl
  | accepted admission hAccepts sequenced hSequenced =>
    have hConflict := knownAgentLabelConflicts_of_ne hDetected hOther hLabel
    have hAdmit := hAccepts.admitted
    simp [admitHookReport, hConflict] at hAdmit

theorem sameShownAgent_sessionStart
  (hDetected : s.detectedAgent = some detected) (hOther : other ≠ detected)
  (report : SessionStartReport)
  (hLabel : parseAgentLabel report.agentLabel = some other) (now clock : Instant) :
  SameShownAgent s (s.setAgentSessionRefForSessionStart report now clock).1 := by
  have hOutcome := s.setAgentSessionRefForSessionStart_outcome report now clock
  generalize (s.setAgentSessionRefForSessionStart report now clock).2.isSome = accepted at hOutcome
  generalize (s.setAgentSessionRefForSessionStart report now clock).1 = t at hOutcome ⊢
  cases hOutcome with
  | rejected => exact .refl s
  | sequenced hPassed => exact s.acceptHookReport_sameShownAgent report.source report.seq
  | noted sessionRef seq hNotes hAbsent =>
    exact SameDerivation.sameShownAgent ⟨rfl, rfl, rfl, rfl, rfl, rfl⟩ rfl rfl
  | validated sessionRef seq hNotes hPresent =>
    rw [hLabel, processPresent_of_ne hDetected hOther] at hPresent
    cases hPresent
  | installed sessionRef admission hSession hOpen hPassed hAdmit =>
    have hSame := s.sameDerivation_acceptHookReport report.source report.seq
    have hConflict := knownAgentLabelConflicts_of_ne
      (hSame.detectedAgent.trans hDetected) hOther hLabel
    simp [admitSessionStart, hConflict] at hAdmit

/-- Whatever their source, session and sequence, state reports and session
starts for another known agent leave the detected agent as it is shown, in
every state and so in every reachable one. -/
theorem foreign_reports_keep_shown_agent
  (hDetected : s.detectedAgent = some detected) (hOther : other ≠ detected) :
  (∀ (report : HookReport) (now clock : Instant),
      parseAgentLabel report.agentLabel = some other →
        SameShownAgent s (s.step (.hookReport report now clock))) ∧
    ∀ (report : SessionStartReport) (now clock : Instant),
      parseAgentLabel report.agentLabel = some other →
        SameShownAgent s (s.step (.sessionStart report now clock)) :=
  ⟨fun report now clock hLabel =>
      sameShownAgent_hookReport hDetected hOther report hLabel now clock,
    fun report now clock hLabel =>
      sameShownAgent_sessionStart hDetected hOther report hLabel now clock⟩

/-- A Codex report while Claude is detected. -/
theorem foreign_reports_keep_detected_claude :
  SameShownAgent (new.step (.detection ⟨some .claude, .idle, false, false, false, false⟩ 1 1))
    ((new.step (.detection ⟨some .claude, .idle, false, false, false, false⟩ 1 1)).step
      (.hookReport ⟨"custom:codex", "codex", .working, none, none, none⟩ 2 2)) :=
  (foreign_reports_keep_shown_agent (by decide : _ = some Agent.claude)
    (by decide : Agent.codex ≠ .claude)).1 _ 2 2 (by decide)

end TerminalState

end Terminal
