import VimeflowTerminal.Terminal.ProcessExit

/-! A full lifecycle report without a session reference is taken to belong to the
session its source is anchored to. Accepting it erases that anchor, so the
source is not listened to again until a new session starts. -/

namespace Terminal

open Detect AgentResume Transition

namespace TerminalState

/-- The second report speaks for the same agent as the first, without a session. -/
structure FollowsUp (first next : HookReport) : Prop where
  source : next.source = first.source
  agentLabel : next.agentLabel = first.agentLabel
  sessionless : next.sessionRef = none

/-- The report is accepted and its state becomes the authority's state. -/
def TakesEffect (s : TerminalState) (report : HookReport) (now clock : Instant) : Prop :=
  (s.setHookAuthorityAt report now clock).2.isSome = true ∧
    ∃ authority, (s.setHookAuthorityAt report now clock).1.hookAuthority = some authority ∧
      authority.state = report.state

variable {s : TerminalState} {report : HookReport}

/-- No suppression lets a report without a session through. -/
theorem suppressionRoute_sessionless (hSession : report.sessionRef = none) :
  s.suppressionRoute report = none ∨ s.suppressionRoute report = some .ignore := by
  unfold suppressionRoute
  cases s.suppressedFullLifecycleHookReports.lookup report.source with
  | none => exact Or.inl rfl
  | some suppressed =>
    simp only [hSession, Option.isSome_none, Bool.false_eq_true, false_and, and_false, if_false]
    split
    · exact Or.inr rfl
    split
    · exact Or.inr rfl
    · exact Or.inl rfl

theorem route_unanchored (hFull : report.fullLifecycle = true)
  (hSession : report.sessionRef = none) (hAnchor : s.sessionAnchored report = false)
  (reportedAt : Instant) :
  s.routeFullLifecycleHookReport report reportedAt = (s, .ignore) := by
  unfold routeFullLifecycleHookReport
  rcases suppressionRoute_sessionless (s := s) hSession with hRoute | hRoute
  · simp [hFull, hRoute, hAnchor, hSession]
  · simp [hFull, hRoute]

theorem setHookAuthorityAt_unanchored (hFull : report.fullLifecycle = true)
  (hSession : report.sessionRef = none) (hAnchor : s.sessionAnchored report = false)
  (now clock : Instant) :
  s.setHookAuthorityAt report now clock = (s, none) := by
  unfold setHookAuthorityAt
  rw [route_unanchored hFull hSession hAnchor now]
  simp [hFull]

/-- An accepted report without a session leaves an authority and a terminal
without one. -/
theorem accepted_sessionless {now clock : Instant} (hSession : report.sessionRef = none)
  (hAccepted : (s.setHookAuthorityAt report now clock).2.isSome = true) :
  (s.setHookAuthorityAt report now clock).1.hookAuthority = some (report.authority none now) ∧
    (s.setHookAuthorityAt report now clock).1.persistedAgentSession = none := by
  have hOutcome := s.setHookAuthorityAt_outcome report now clock
  generalize s.setHookAuthorityAt report now clock = result at hOutcome hAccepted ⊢
  cases hOutcome with
  | rejected => cases hAccepted
  | buffered => cases hAccepted
  | accepted admission hAccepts sequenced hSequenced =>
    have hNone : admission.sessionRef = none := by
      have hAdmit := hAccepts.admitted
      have hRecorded : s.recordedSessionRef report = none := by
        simp [recordedSessionRef, hSession]
      unfold admitHookReport at hAdmit
      grind
    refine ⟨?_, ?_⟩
    · rw [installHookAuthority_hookAuthority, hNone]
    unfold installHookAuthority
    rw [finish_fst, recompute_persistedAgentSession]

/-- In no state does a second report without a session take effect: once one
is accepted the next is turned away, whatever its sequence number, and the
authority keeps the state of the first. -/
theorem sessionless_reports_freeze (s : TerminalState) {first next : HookReport}
  {now clock : Instant} (hFull : first.fullLifecycle = true) (hSession : first.sessionRef = none)
  (hAccepted : (s.setHookAuthorityAt first now clock).2.isSome = true)
  (hFollows : FollowsUp first next) (later laterClock : Instant) :
  ¬ TakesEffect (s.setHookAuthorityAt first now clock).1 next later laterClock ∧
    ((s.setHookAuthorityAt first now clock).1.setHookAuthorityAt next later
      laterClock).1.hookAuthority = some (first.authority none now) := by
  obtain ⟨hAuthority, hPersisted⟩ := accepted_sessionless hSession hAccepted
  have hNextFull : next.fullLifecycle = true := by
    unfold HookReport.fullLifecycle at hFull ⊢
    rw [hFollows.source, hFollows.agentLabel]
    exact hFull
  have hAnchor : (s.setHookAuthorityAt first now clock).1.sessionAnchored next = false := by
    unfold sessionAnchored
    rw [hAuthority, hPersisted, Option.filter_some]
    split <;> simp [HookReport.authority]
  have hIgnored := setHookAuthorityAt_unanchored hNextFull hFollows.sessionless hAnchor later
    laterClock
  refine ⟨?_, ?_⟩
  · intro hEffect
    rw [TakesEffect, hIgnored] at hEffect
    exact absurd hEffect.1 (by simp)
  · rw [hIgnored]
    exact hAuthority

/-- Pi is seen and starts a session. -/
def piSessionStarts : List TerminalOp :=
  [.detection ⟨some .pi, .idle, false, false, false, false⟩ 1 1,
    .sessionStart ⟨"herdr:pi", "pi", some ⟨.path, "/sessions/pi.jsonl"⟩, some 10, some "startup"⟩
      2 2]

def piSession : TerminalState := piSessionStarts.foldl step new

def piWorking : HookReport := ⟨"herdr:pi", "pi", .working, none, none, some 21⟩

def piIdle : HookReport := ⟨"herdr:pi", "pi", .idle, none, none, some 22⟩

/-- Pi stays at work. -/
theorem sessionless_reports_freeze_pi :
  ¬ TakesEffect (piSession.setHookAuthorityAt piWorking 3 3).1 piIdle 4 4 ∧
    ((piSession.setHookAuthorityAt piWorking 3 3).1.setHookAuthorityAt piIdle 4
      4).1.hookAuthority = some (piWorking.authority none 3) :=
  @sessionless_reports_freeze piSession piWorking piIdle 3 3 (by decide) rfl (by decide)
    ⟨rfl, rfl, rfl⟩ 4 4

/-- Not every newer report without a session takes effect after an accepted one. -/
theorem not_takesEffect_pi :
  Reachable piSession ∧ piWorking.fullLifecycle = true ∧ piWorking.sessionRef = none ∧
    (piSession.setHookAuthorityAt piWorking 3 3).2.isSome = true ∧
    FollowsUp piWorking piIdle ∧ piWorking.seq = some 21 ∧ piIdle.seq = some 22 ∧
    ¬ TakesEffect (piSession.setHookAuthorityAt piWorking 3 3).1 piIdle 4 4 := by
  refine ⟨⟨piSessionStarts, (run_ofFunction_iff _).2 rfl⟩, by decide, rfl, by decide,
    ⟨rfl, rfl, rfl⟩, rfl, rfl, ?_⟩
  intro hEffect
  exact absurd hEffect.1 (by decide)

end TerminalState

end Terminal
