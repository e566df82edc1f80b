import VimeflowTerminal.Server.AltScreenRead

/-! What a poll can leave of a read, by the phase it turns to. Three polls, far enough
apart, bring every read to an end. -/

namespace Server

open Terminal

namespace PendingAltScreenRead

/-- Nothing has been scrolled yet. -/
def Settling (read : PendingAltScreenRead) : Prop := ∃ checks, read.phase = .settleInitial checks

def Restoring (read : PendingAltScreenRead) : Prop :=
  read.phase = .restoreProbe ∨ ∃ checks, read.phase = .restore checks

/-- The time a restore has taken is known. -/
def Timed (read : PendingAltScreenRead) : Prop :=
  read.Restoring → ∃ started, read.restoreStartedAt = some started ∧ started ≤ read.nextPollAt

/-- A restore starts now, or goes on before its deadline. -/
def RestoresFrom (read : PendingAltScreenRead) (now started : Instant) : Prop :=
  ¬ read.Restoring ∧ started = now ∨
    read.Restoring ∧ read.restoreStartedAt = some started ∧ read.nextPollAt ≤ now ∧
      now - started < maxRestoreDuration

/-- The phase a read turns to at a time, with the start of its restore. -/
inductive TurnsTo (read : PendingAltScreenRead) (now : Instant) : Phase → Option Instant → Prop where
  | settle {checks : Nat} {restore : Option Instant} (settling : read.Settling)
      (early : now - read.startedAt < maxDuration) : TurnsTo read now (.settleInitial checks) restore
  | probe {restore : Option Instant} (settling : read.Settling)
      (early : now - read.startedAt < maxDuration) : TurnsTo read now .probeBottom restore
  | harvest {checks : Nat} {restore : Option Instant}
      (early : read.phase = .probeBottom ∨ now - read.startedAt < maxDuration) :
      TurnsTo read now (.harvest checks) restore
  | restoreProbe {started : Instant} (timed : read.RestoresFrom now started) :
      TurnsTo read now .restoreProbe (some started)
  | restore {checks : Nat} {started : Instant} (timed : read.RestoresFrom now started) :
      TurnsTo read now (.restore checks) (some started)

/-- How a read goes on at a time. Its screen only changes before anything is scrolled. -/
structure GoesOn (read : PendingAltScreenRead) (now : Instant) (next : PendingAltScreenRead) :
  Prop where
  startedAt : next.startedAt = read.startedAt
  again : next.nextPollAt = now + stepSettle
  screen : next.initial = read.initial ∨ read.Settling ∧ next.Settling
  turn : read.TurnsTo now next.phase next.restoreStartedAt

/-- The outcome is an answer, or a read of which the predicate holds. -/
def Leaves (Holds : PendingAltScreenRead → Prop) : PollOutcome → Prop
  | .pending next => Holds next
  | .completed _ => True

theorem Leaves.mono {Weak Strong : PendingAltScreenRead → Prop} {outcome : PollOutcome}
  (h : Leaves Strong outcome) (hImp : ∀ next, Strong next → Weak next) : Leaves Weak outcome := by
  cases outcome with
  | pending next => exact hImp next h
  | completed response => trivial

variable {read next : PendingAltScreenRead} {runtime : TerminalRuntime} {snapshot : ScreenSnapshot}
  {now : Instant} {Holds : PendingAltScreenRead → Prop}

theorem leaves_sendWheel {events : WheelEvents} (hNext : Holds next) :
  Leaves Holds (read.sendWheel runtime events next).1 := by
  unfold sendWheel
  split
  · exact hNext
  · trivial

theorem goesOn_startRestore (hStarted : next.startedAt = read.startedAt)
  (hInitial : next.initial = read.initial) (hNot : ¬ read.Restoring) :
  Leaves (read.GoesOn now) (next.startRestore runtime now).1 := by
  unfold startRestore
  split
  · trivial
  · apply leaves_sendWheel
    exact ⟨hStarted, rfl, Or.inl hInitial, .restore (Or.inl ⟨hNot, rfl⟩)⟩

theorem goesOn_startHarvest (hStarted : next.startedAt = read.startedAt)
  (hInitial : next.initial = read.initial)
  (hEarly : read.phase = .probeBottom ∨ now - read.startedAt < maxDuration) :
  Leaves (read.GoesOn now) (next.startHarvest runtime now).1 := by
  apply leaves_sendWheel
  exact ⟨hStarted, rfl, Or.inl hInitial, .harvest hEarly⟩

/-- A poll that is due, before the deadline that counts in the phase of the read. -/
theorem goesOn_pollPhase
  (hDeadline : outlivesDeadline read.phase = true ∨ now - read.startedAt < maxDuration)
  (hRestore : read.Restoring → ∃ started, read.restoreStartedAt = some started ∧
    read.RestoresFrom now started) :
  Leaves (read.GoesOn now) (read.pollPhase runtime snapshot now).1 := by
  unfold pollPhase
  cases hPhase : read.phase with
  | settleInitial checks =>
    have hEarly : now - read.startedAt < maxDuration := by
      refine hDeadline.resolve_left ?_
      simp [hPhase, outlivesDeadline]
    have hSettling : read.Settling := ⟨checks, hPhase⟩
    dsimp only
    split
    · split
      · apply leaves_sendWheel
        exact ⟨rfl, rfl, Or.inl rfl, .probe hSettling hEarly⟩
      · exact ⟨rfl, rfl, Or.inl rfl, .settle hSettling hEarly⟩
    · exact ⟨rfl, rfl, Or.inr ⟨hSettling, _, rfl⟩, .settle hSettling hEarly⟩
  | probeBottom =>
    have hNot : ¬ read.Restoring := by simp [Restoring, hPhase]
    dsimp only
    split
    · split
      · exact goesOn_startHarvest rfl rfl (Or.inl hPhase)
      · trivial
    · apply leaves_sendWheel
      exact ⟨rfl, rfl, Or.inl rfl, .restoreProbe (Or.inl ⟨hNot, rfl⟩)⟩
  | restoreProbe =>
    obtain ⟨started, hSome, hFrom⟩ := hRestore (Or.inl hPhase)
    dsimp only
    split
    · trivial
    refine ⟨rfl, rfl, Or.inl rfl, ?_⟩
    rw [hSome]
    exact .restoreProbe hFrom
  | harvest unalignedChecks =>
    have hEarly : now - read.startedAt < maxDuration := by
      refine hDeadline.resolve_left ?_
      simp [hPhase, outlivesDeadline]
    have hNot : ¬ read.Restoring := by simp [Restoring, hPhase]
    dsimp only
    split
    · split
      · exact goesOn_startRestore rfl rfl hNot
      · exact goesOn_startHarvest rfl rfl (Or.inr hEarly)
    · exact goesOn_startRestore rfl rfl hNot
    · split
      · exact ⟨rfl, rfl, Or.inl rfl, .harvest (Or.inr hEarly)⟩
      · exact goesOn_startRestore rfl rfl hNot
  | restore stableChecks =>
    obtain ⟨started, hSome, hFrom⟩ := hRestore (Or.inr ⟨stableChecks, hPhase⟩)
    have hAgain : ∀ checks, read.TurnsTo now (.restore checks) read.restoreStartedAt := by
      intro checks
      rw [hSome]
      exact .restore hFrom
    dsimp only
    split
    · split
      · split
        · trivial
        · trivial
      · exact ⟨rfl, rfl, Or.inl rfl, hAgain _⟩
    · apply leaves_sendWheel
      exact ⟨rfl, rfl, Or.inl rfl, hAgain _⟩

/-- A read that is not due stays as it is. -/
theorem goesOn_poll (runtime : Option TerminalRuntime) (hTimed : read.Timed)
  (hDue : read.nextPollAt ≤ now) : Leaves (read.GoesOn now) (read.poll runtime now).1 := by
  unfold poll
  rw [if_neg (Nat.not_lt_of_le hDue)]
  cases runtime with
  | none => trivial
  | some runtime =>
    dsimp only
    split
    · trivial
    split
    · trivial
    split
    · trivial
    next hSoon =>
      have hRestore : read.Restoring → ∃ started, read.restoreStartedAt = some started ∧
          read.RestoresFrom now started := by
        intro hRestoring
        obtain ⟨started, hSome, -⟩ := hTimed hRestoring
        rw [hSome] at hSoon
        exact ⟨started, hSome, Or.inr ⟨hRestoring, hSome, hDue, Nat.lt_of_not_le (by
          simpa using hSoon)⟩⟩
      split
      next hLate =>
        refine goesOn_startRestore rfl rfl ?_
        obtain ⟨-, hPhase⟩ := Bool.and_eq_true_iff.1 hLate
        rintro (hOther | ⟨checks, hOther⟩)
        · simp [hOther, outlivesDeadline] at hPhase
        · simp [hOther, outlivesDeadline] at hPhase
      next hEarly =>
        apply goesOn_pollPhase _ hRestore
        by_cases hOutlives : outlivesDeadline read.phase = true
        · exact Or.inl hOutlives
        · refine Or.inr (Nat.lt_of_not_le fun hPast => hEarly ?_)
          simp [hPast, hOutlives]

theorem TurnsTo.of_invalid {phase : Phase} {restore : Option Instant}
  (h : ({ read with valid := false } : PendingAltScreenRead).TurnsTo now phase restore) :
  read.TurnsTo now phase restore := by
  cases h with
  | settle settling early => exact .settle settling early
  | probe settling early => exact .probe settling early
  | harvest early => exact .harvest early
  | restoreProbe timed => exact .restoreProbe timed
  | restore timed => exact .restore timed

/-- A call leaves a read that is not due as it is, given up or not. -/
def WaitsOrGoesOn (read : PendingAltScreenRead) (now : Instant) (next : PendingAltScreenRead) :
  Prop :=
  read.GoesOn now next ∨ now < read.nextPollAt ∧ ∃ valid, next = { read with valid }

theorem WaitsOrGoesOn.of_invalid
  (h : ({ read with valid := false } : PendingAltScreenRead).WaitsOrGoesOn now next) :
  read.WaitsOrGoesOn now next := by
  rcases h with hGoes | ⟨hEarly, valid, hSame⟩
  · exact Or.inl ⟨hGoes.startedAt, hGoes.again, hGoes.screen, hGoes.turn.of_invalid⟩
  · exact Or.inr ⟨hEarly, valid, hSame⟩

theorem waitsOrGoesOn_poll (runtime : Option TerminalRuntime) (hTimed : read.Timed) :
  Leaves (read.WaitsOrGoesOn now) (read.poll runtime now).1 := by
  by_cases hDue : read.nextPollAt ≤ now
  · exact (goesOn_poll runtime hTimed hDue).mono fun next hGoes => Or.inl hGoes
  have hEarly := Nat.lt_of_not_le hDue
  unfold poll
  rw [if_pos hEarly]
  exact Or.inr ⟨hEarly, read.valid, rfl⟩

theorem waitsOrGoesOn_call {label : ReadStep} (hTimed : read.Timed) :
  Leaves (read.WaitsOrGoesOn label.now) (AltScreenRun.call read label).1 := by
  unfold AltScreenRun.call
  split
  · exact waitsOrGoesOn_poll label.runtime hTimed
  have hPoll := @waitsOrGoesOn_poll { read with valid := false } label.now label.runtime hTimed
  unfold abort
  dsimp only
  split
  · trivial
  next checks hPhase =>
    have hNot : ¬ read.Restoring := by simp [Restoring, hPhase]
    split
    next runtime hRuntime =>
      have hGoes : Leaves (read.GoesOn label.now) (({ read with
        valid := false } : PendingAltScreenRead).startRestore runtime label.now).1 :=
        goesOn_startRestore rfl rfl hNot
      exact hGoes.mono fun next hNext => Or.inl hNext
    · trivial
  · exact hPoll.mono fun next hNext => hNext.of_invalid
  · exact hPoll.mono fun next hNext => hNext.of_invalid
  · exact hPoll.mono fun next hNext => hNext.of_invalid

theorem RestoresFrom.le {started : Instant} (h : read.RestoresFrom now started)
  (hTimed : read.Timed) : started ≤ now := by
  rcases h with ⟨-, rfl⟩ | ⟨hRestoring, hSome, hDue, -⟩
  · exact Nat.le_refl _
  obtain ⟨first, hFirst, hLe⟩ := hTimed hRestoring
  rw [hSome] at hFirst
  cases hFirst
  exact Nat.le_trans hLe hDue

theorem timed_start (fallbackResponse : String) (lines : Nat) (unwrap : Bool)
  (initial : ScreenSnapshot) (now : Instant) :
  (start fallbackResponse lines unwrap initial now).Timed := by
  rintro (hPhase | ⟨checks, hPhase⟩)
  · cases hPhase
  · cases hPhase

theorem WaitsOrGoesOn.timed (h : read.WaitsOrGoesOn now next) (hTimed : read.Timed) :
  next.Timed := by
  rcases h with hGoes | ⟨-, valid, rfl⟩
  · intro hRestoring
    have hFrom : ∃ started, next.restoreStartedAt = some started ∧
        read.RestoresFrom now started := by
      have hTurn := hGoes.turn
      rcases hRestoring with hPhase | ⟨checks, hPhase⟩
      · rw [hPhase] at hTurn
        generalize next.restoreStartedAt = restore at hTurn
        cases hTurn with
        | restoreProbe timed => exact ⟨_, rfl, timed⟩
      · rw [hPhase] at hTurn
        generalize next.restoreStartedAt = restore at hTurn
        cases hTurn with
        | restore timed => exact ⟨_, rfl, timed⟩
    obtain ⟨started, hSome, hStarted⟩ := hFrom
    refine ⟨started, hSome, ?_⟩
    rw [hGoes.again]
    exact Nat.le_add_right_of_le (hStarted.le hTimed)
  · exact hTimed

/-- A restore past its deadline ends. -/
theorem not_goesOn_of_restoring {started : Instant} (hRestoring : read.Restoring)
  (hSome : read.restoreStartedAt = some started) (hLate : started + maxRestoreDuration ≤ now)
  (hPast : read.startedAt + maxDuration ≤ now) : ¬ read.GoesOn now next := by
  have hNotEarly : ¬ now - read.startedAt < maxDuration := by
    have hLe := Nat.le_sub_of_add_le' hPast
    exact Nat.not_lt_of_le hLe
  have hNotFrom : ∀ first, ¬ read.RestoresFrom now first := by
    rintro first (⟨hNot, -⟩ | ⟨-, hFirst, -, hSoon⟩)
    · exact hNot hRestoring
    · rw [hSome] at hFirst
      cases hFirst
      exact absurd hSoon (Nat.not_lt_of_le (Nat.le_sub_of_add_le' hLate))
  intro hGoes
  have hTurn := hGoes.turn
  generalize next.phase = phase at hTurn
  generalize next.restoreStartedAt = restore at hTurn
  cases hTurn with
  | settle settling early => exact hNotEarly early
  | probe settling early => exact hNotEarly early
  | harvest early =>
    rcases early with hPhase | hEarly
    · simp [Restoring, hPhase] at hRestoring
    · exact hNotEarly hEarly
  | restoreProbe timed => exact hNotFrom _ timed
  | restore timed => exact hNotFrom _ timed

/-- What is left of a read once its deadline has passed: it harvests for the last
time, or it restores. -/
def Closing (read : PendingAltScreenRead) (now : Instant) : Prop :=
  (∃ checks, read.phase = .harvest checks) ∨
    read.Restoring ∧ ∃ started, read.restoreStartedAt = some started ∧ started ≤ now

theorem closing_of_goesOn (hGoes : read.GoesOn now next) (hTimed : read.Timed)
  (hPast : read.startedAt + maxDuration ≤ now) : next.Closing now := by
  have hNotEarly : ¬ now - read.startedAt < maxDuration :=
    Nat.not_lt_of_le (Nat.le_sub_of_add_le' hPast)
  have hTurn := hGoes.turn
  unfold Closing Restoring
  generalize next.phase = phase at hTurn ⊢
  generalize next.restoreStartedAt = restore at hTurn ⊢
  cases hTurn with
  | settle settling early => exact absurd early hNotEarly
  | probe settling early => exact absurd early hNotEarly
  | harvest early => exact Or.inl ⟨_, rfl⟩
  | restoreProbe timed => exact Or.inr ⟨Or.inl rfl, _, rfl, timed.le hTimed⟩
  | restore timed => exact Or.inr ⟨Or.inr ⟨_, rfl⟩, _, rfl, timed.le hTimed⟩

/-- The last harvest turns into a restore that starts now. -/
theorem restoring_of_closing {before : Instant} (hClosing : read.Closing before)
  (hGoes : read.GoesOn now next) (hLater : before + maxRestoreDuration ≤ now)
  (hPast : read.startedAt + maxDuration ≤ now) :
  next.Restoring ∧ next.restoreStartedAt = some now := by
  have hNotEarly : ¬ now - read.startedAt < maxDuration :=
    Nat.not_lt_of_le (Nat.le_sub_of_add_le' hPast)
  rcases hClosing with ⟨checks, hPhase⟩ | ⟨hRestoring, started, hSome, hLe⟩
  · have hFrom : ∀ started, read.RestoresFrom now started → started = now := by
      rintro started (⟨-, hNow⟩ | ⟨hRestoring, -⟩)
      · exact hNow
      · simp [Restoring, hPhase] at hRestoring
    have hTurn := hGoes.turn
    unfold Restoring
    generalize next.phase = phase at hTurn ⊢
    generalize next.restoreStartedAt = restore at hTurn ⊢
    cases hTurn with
    | settle settling early => exact absurd early hNotEarly
    | probe settling early => exact absurd early hNotEarly
    | harvest early =>
      rcases early with hProbe | hEarly
      · rw [hPhase] at hProbe
        cases hProbe
      · exact absurd hEarly hNotEarly
    | restoreProbe timed => exact ⟨Or.inl rfl, by rw [hFrom _ timed]⟩
    | restore timed => exact ⟨Or.inr ⟨_, rfl⟩, by rw [hFrom _ timed]⟩
  · have hLate := Nat.le_trans (Nat.add_le_add_right hLe _) hLater
    exact absurd hGoes (not_goesOn_of_restoring hRestoring hSome hLate hPast)

end PendingAltScreenRead

end Server
