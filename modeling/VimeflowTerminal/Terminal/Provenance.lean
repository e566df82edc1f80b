import VimeflowTerminal.Terminal.ReportSequences
import VimeflowTerminal.Terminal.ProcessExit

/-! Every authority of a terminal is the record of a state report of its run, and
every persisted session comes from a session start or from such a record. The
reports kept for a suppressed source are tracked in the same way. -/

namespace Terminal

open Detect AgentResume Transition

/-- The authority records a state report of the history, under the session
the report itself carries. -/
def RecordOf (history : List TerminalOp) (authority : HookAuthority) : Prop :=
  ∃ report now clock, .hookReport report now clock ∈ history ∧
    authority = report.authority report.sessionRef now

/-- The session was named by a session start of the history, or is the session
of a recorded state report. -/
def SessionOf (history : List TerminalOp) (session : PersistedAgentSession) : Prop :=
  (∃ report now clock, .sessionStart report now clock ∈ history ∧
      report.source = session.source ∧ report.sessionRef = some session.sessionRef) ∨
    ∃ authority, RecordOf history authority ∧ authority.source = session.source ∧
      authority.agentLabel = session.agent ∧ authority.sessionRef = some session.sessionRef

/-- What a suppressed source keeps for later comes from its own reports. -/
structure KeptFrom (history : List TerminalOp) (source : String)
  (suppressed : SuppressedFullLifecycleHookReport) : Prop where
  pending : ∀ pending, suppressed.pendingReplacementReport = some pending →
    RecordOf history pending.authority ∧ pending.authority.source = source ∧
      pending.authority.agentLabel = suppressed.agentLabel
  replacement : ∀ sessionRef, suppressed.replacementSessionRef = some sessionRef →
    ∃ report now clock, .sessionStart report now clock ∈ history ∧ report.source = source ∧
      report.sessionRef = some sessionRef

/-- The current session of a full lifecycle authority is not a stale one. -/
def AuthorityIsNotStale (s : TerminalState) : Prop :=
  ∀ authority sessionRef, s.hookAuthority = some authority →
    fullLifecycleHookAuthority authority.source authority.agentLabel = true →
      authority.sessionRef = some sessionRef →
        (⟨authority.agentLabel, sessionRef⟩ : StaleFullLifecycleHookSession) ∉
          s.staleSessionsOf authority.source

/-- What the suppressed sources keep is accounted for. -/
structure SuppressionsKept (history : List TerminalOp) (s : TerminalState) : Prop where
  kept : FinMap.Forall (KeptFrom history) s.suppressedFullLifecycleHookReports

/-- The provenance of everything a terminal holds. -/
structure Provenance (history : List TerminalOp) (s : TerminalState) : Prop where
  suppressions : SuppressionsKept history s
  authority : ∀ authority, s.hookAuthority = some authority → RecordOf history authority
  session : ∀ session, s.persistedAgentSession = some session → SessionOf history session

section History

variable {history : List TerminalOp} {later : List TerminalOp}

theorem RecordOf.append {authority : HookAuthority} (h : RecordOf history authority) :
  RecordOf (history ++ later) authority := by
  obtain ⟨report, now, clock, hMem, hEq⟩ := h
  exact ⟨report, now, clock, List.mem_append_left _ hMem, hEq⟩

theorem SessionOf.append {session : PersistedAgentSession} (h : SessionOf history session) :
  SessionOf (history ++ later) session := by
  rcases h with ⟨report, now, clock, hMem, hSource, hSession⟩ | ⟨authority, hRecord, hRest⟩
  · exact Or.inl ⟨report, now, clock, List.mem_append_left _ hMem, hSource, hSession⟩
  · exact Or.inr ⟨authority, hRecord.append, hRest⟩

theorem KeptFrom.append {source : String} {suppressed : SuppressedFullLifecycleHookReport}
  (h : KeptFrom history source suppressed) : KeptFrom (history ++ later) source suppressed := by
  refine ⟨?_, ?_⟩
  · intro pending hPending
    obtain ⟨hRecord, hRest⟩ := h.pending pending hPending
    exact ⟨hRecord.append, hRest⟩
  · intro sessionRef hReplacement
    obtain ⟨report, now, clock, hMem, hRest⟩ := h.replacement sessionRef hReplacement
    exact ⟨report, now, clock, List.mem_append_left _ hMem, hRest⟩

theorem Provenance.append {s : TerminalState} (h : Provenance history s) :
  Provenance (history ++ later) s :=
  ⟨⟨h.suppressions.kept.mono fun _ _ hKept => hKept.append⟩,
    fun authority hAuthority => (h.authority authority hAuthority).append,
    fun session hSession => (h.session session hSession).append⟩

theorem KeptFrom.of_none {source : String} {suppressed : SuppressedFullLifecycleHookReport}
  (hPending : suppressed.pendingReplacementReport = none)
  (hReplacement : suppressed.replacementSessionRef = none) :
  KeptFrom history source suppressed := by
  refine ⟨?_, ?_⟩
  · intro pending h
    rw [hPending] at h
    cases h
  · intro sessionRef h
    rw [hReplacement] at h
    cases h

end History

open TerminalState

variable {history : List TerminalOp} {s t : TerminalState}

section

variable (h : SuppressionsKept history s)
include h

theorem SuppressionsKept.of_eq
  (hEq : t.suppressedFullLifecycleHookReports = s.suppressedFullLifecycleHookReports) :
  SuppressionsKept history t := by
  refine ⟨?_⟩
  rw [hEq]
  exact h.kept

theorem SuppressionsKept.suppressWith
  (source agentLabel : String) (sessionRef : Option AgentSessionRef)
  (reason : FullLifecycleHookSuppressionReason) (observedAt : Instant) :
  SuppressionsKept history (s.suppressFullLifecycleHookReportWithSessionRef source agentLabel
    sessionRef reason observedAt) :=
  ⟨h.kept.insert (KeptFrom.of_none rfl rfl)⟩

theorem SuppressionsKept.suppressCurrent
  (reason : FullLifecycleHookSuppressionReason) (clock : Instant) :
  SuppressionsKept history (s.suppressCurrentFullLifecycleHookAuthority reason clock) := by
  unfold suppressCurrentFullLifecycleHookAuthority
  split
  · exact h
  split
  · exact h.suppressWith ..
  · exact h

theorem SuppressionsKept.suppressReport
  (source agentLabel : String) (reason : FullLifecycleHookSuppressionReason) (clock : Instant) :
  SuppressionsKept history (s.suppressFullLifecycleHookReport source agentLabel reason clock) := by
  unfold suppressFullLifecycleHookReport
  split
  · exact h.suppressWith ..
  · exact h

theorem SuppressionsKept.lift (source : String) :
  SuppressionsKept history (s.liftSuppression source) := by
  have hErased := h.kept.erase source
  unfold liftSuppression
  split
  · exact h
  split
  · exact ⟨hErased⟩
  · exact ⟨hErased⟩

theorem SuppressionsKept.reconcile (agentLabel : String)
  (sessionRef : Option AgentSessionRef) :
  SuppressionsKept history (s.reconcileAgentNameOwner agentLabel sessionRef) := by
  obtain ⟨_, _, hEq⟩ := s.reconcileAgentNameOwner_eq agentLabel sessionRef
  exact h.of_eq (by rw [hEq])

end

end Terminal
