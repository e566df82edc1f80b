import VimeflowTerminal.Handoff.LiveCalls

/-! Each step of either server, of a pane, and the end of a process keeps the
invariant. -/

namespace Handoff

open Pty (Orderly)

section Panes

variable {app : SourceApp} {paused : List TerminalId} {actors : TerminalId → Pty.System}

variable {terminal : TerminalId} {rest : List TerminalId}

theorem update_other {remaining : List TerminalId} {P : Pty.System → Prop} {actor : Pty.System}
  (hAll : ∀ other ∈ remaining, P (actors other)) (hNot : terminal ∉ remaining) :
  ∀ other ∈ remaining, P (Function.update actors terminal actor other) := by
  intro other hMem
  have hOther : other ≠ terminal := by
    rintro rfl
    exact hNot hMem
  rw [Function.update_of_ne hOther]
  exact hAll other hMem

theorem Holds.goesBack (h : Holds app paused actors) : GoesBack app paused actors paused none :=
  { h.toPaused with
    remainingNodup := h.nodup
    subset := fun _ hMem => hMem
    held := h.held
    other := fun _ _ => by simp
    resumed := fun _ hMem _ hNot => absurd hMem hNot }

theorem Holds.givesUp (h : Holds app paused actors) (hCovers : Covers app paused) :
  GivesUp app paused actors :=
  { released := fun terminal hMem => (h.held terminal hMem).toReleased, covers := hCovers }

/-- The next terminal has no runtime. -/
theorem pausing_skip (hNone : app.runtimes.lookup terminal = none)
  (hToPause : ToPause paused actors (terminal :: rest))
  (hCovers : Covers app (paused ++ terminal :: rest)) :
  ToPause paused actors rest ∧ Covers app (paused ++ rest) := by
  refine ⟨⟨(List.nodup_cons.1 hToPause.nodup).2, ?_, ?_⟩, ?_⟩
  · exact fun other hMem => hToPause.disjoint other (List.mem_cons_of_mem _ hMem)
  · exact fun other hMem => hToPause.free other (List.mem_cons_of_mem _ hMem)
  · rintro ⟨other, pane⟩ hEntry
    obtain ⟨⟨fd, hRuntime⟩, -⟩ := SourceApp.mem_handoffEntries.1 hEntry
    have hMem := hCovers _ hEntry
    simp only [List.mem_append, List.mem_cons] at hMem ⊢
    rcases hMem with hMem | rfl | hMem
    · exact Or.inl hMem
    · rw [hNone] at hRuntime
      cases hRuntime
    · exact Or.inr hMem

theorem pausing_begin (hHolds : Holds app paused actors)
  (hToPause : ToPause paused actors (terminal :: rest)) :
  Holds app paused (Function.update actors terminal (actors terminal).beginHandoff) ∧
    ToPause paused (Function.update actors terminal (actors terminal).beginHandoff) rest ∧
    terminal ∉ paused ∧ terminal ∉ rest ∧
    Waiting (Function.update actors terminal (actors terminal).beginHandoff terminal) := by
  have hNot := hToPause.disjoint terminal List.mem_cons_self
  obtain ⟨hNotRest, hNodup⟩ := List.nodup_cons.1 hToPause.nodup
  refine ⟨{ hHolds.toPaused with held := update_other hHolds.held hNot },
    ⟨hNodup, ?_, ?_⟩, hNot, hNotRest, ?_⟩
  · exact fun other hMem => hToPause.disjoint other (List.mem_cons_of_mem _ hMem)
  · exact update_other (fun other hMem => hToPause.free other (List.mem_cons_of_mem _ hMem)) hNotRest
  · rw [Function.update_self]
    exact (hToPause.free terminal List.mem_cons_self).waiting

/-- The terminal the source waited for is paused. -/
theorem pausing_done (hHolds : Holds app paused actors) (hToPause : ToPause paused actors rest)
  (hCovers : Covers app (paused ++ terminal :: rest)) (hNot : terminal ∉ paused)
  (hNotRest : terminal ∉ rest) (hHeld : Held (actors terminal))
  (hRuntime : ∃ fd, app.runtimes.lookup terminal = some fd) :
  Holds app (paused ++ [terminal]) actors ∧ ToPause (paused ++ [terminal]) actors rest ∧
    Covers app (paused ++ [terminal] ++ rest) := by
  have hSplit : ∀ {P : TerminalId → Prop}, (∀ other ∈ paused, P other) → P terminal →
      ∀ other ∈ paused ++ [terminal], P other := by
    intro P hAll hHere other hMem
    rcases List.mem_append.1 hMem with hMem | hMem
    · exact hAll other hMem
    · obtain rfl := List.mem_singleton.1 hMem
      exact hHere
  refine ⟨⟨⟨?_, hSplit hHolds.runtime hRuntime⟩, hSplit hHolds.held hHeld⟩,
    ⟨hToPause.nodup, ?_, hToPause.free⟩, ?_⟩
  · refine List.nodup_append.2 ⟨hHolds.nodup, List.nodup_singleton _, ?_⟩
    rintro other hMem _ hOne rfl
    obtain rfl := List.mem_singleton.1 hOne
    exact hNot hMem
  · intro other hMem hPaused
    rcases List.mem_append.1 hPaused with hPaused | hOne
    · exact hToPause.disjoint other hMem hPaused
    · obtain rfl := List.mem_singleton.1 hOne
      exact hNotRest hMem
  · rw [List.append_assoc]
    exact hCovers

/-- The source rolls back the next terminal. -/
theorem rollingBack_next (h : GoesBack app paused actors (terminal :: rest) none) :
  GoesBack app paused
      (Function.update actors terminal ((actors terminal).rollbackHandoff false)) rest
      (some terminal) ∧
    RollsBack
      (Function.update actors terminal ((actors terminal).rollbackHandoff false) terminal) := by
  obtain ⟨hNotRest, hNodup⟩ := List.nodup_cons.1 h.remainingNodup
  have hRest : ∀ other ∈ rest, other ∈ terminal :: rest := fun other hMem =>
    List.mem_cons_of_mem _ hMem
  refine ⟨{ h.toPaused with
    remainingNodup := hNodup
    subset := fun other hMem => h.subset other (hRest other hMem)
    held := update_other (fun other hMem => h.held other (hRest other hMem)) hNotRest
    other := ?_
    resumed := ?_ }, ?_⟩
  · rintro other hMem hSame
    cases hSame
    exact hNotRest hMem
  · intro other hMem hOther hNot
    have hNe : other ≠ terminal := fun hSame => hOther (by rw [hSame])
    rw [Function.update_of_ne hNe]
    refine h.resumed other hMem (by simp) ?_
    rw [List.mem_cons, not_or]
    exact ⟨hNe, hNot⟩
  · rw [Function.update_self]
    exact (h.held terminal List.mem_cons_self).rollback

/-- The rollback the source waited for is over. -/
theorem rollingBack_done (h : GoesBack app paused actors rest (some terminal))
  (hResumed : Resumed (actors terminal)) :
  GoesBack app paused actors rest none :=
  { h.toPaused with
    remainingNodup := h.remainingNodup
    subset := h.subset
    held := h.held
    other := fun _ _ => by simp
    resumed := fun other hMem _ hNot => by
      by_cases hSame : other = terminal
      · rw [hSame]
        exact hResumed
      · exact h.resumed other hMem (fun h => hSame (Option.some.inj h).symm) hNot }

theorem GivesUp.release (h : GivesUp app paused actors) (terminal : TerminalId) :
  GivesUp app paused
    (Function.update actors terminal ((actors terminal).closeWith .releaseAfterCommit)) := by
  refine ⟨fun other hMem => ?_, h.covers⟩
  by_cases hSame : other = terminal
  · rw [hSame, Function.update_self]
    exact (h.released terminal (hSame ▸ hMem)).release
  · rw [Function.update_of_ne hSame]
    exact h.released other hMem

end Panes

/-! ## The source -/

variable {h h' : System} {arrives : Bool} {importer : ImportServer}

/-- The invariant, with every actor of the source attended to. -/
structure Sound (h : System) : Prop extends Inv h where
  attended : Attended h.source.phase h.source.actors

theorem Sound.congr (hSound : Sound h) (hSource : h'.source = h.source)
  (hImporter : h'.importer = h.importer) (hMessages : h'.toImporter ⊆ h.toImporter) :
  Sound h' := by
  obtain ⟨source, runs, importer, importerRuns, connected, toImporter, toSource⟩ := h'
  obtain rfl : source = h.source := hSource
  obtain rfl : importer = h.importer := hImporter
  exact
    { source := hSound.source, duplicates := hSound.duplicates, importer := hSound.importer
      commitRead := hSound.commitRead, attended := hSound.attended
      messages := fun message hMem => hSound.messages message (hMessages hMem)
      commitSent := fun hMem => hSound.commitSent (hMessages hMem) }

theorem Sound.setSource (hSound : Sound h) {source : SourceServer}
  (hApp : source.app = h.source.app) (hTracks : source.Tracks) (hDuplicates : source.Duplicates)
  (hCommitted : h.source.phase.committed = true → source.phase.committed = true)
  (hAttended : Attended source.phase source.actors) : Sound (h.setSource source) where
  source := hTracks
  duplicates := hDuplicates
  messages := by
    rw [System.setSource, hApp]
    exact hSound.messages
  importer := by
    rw [System.setSource, hApp]
    exact hSound.importer
  commitSent := fun hMem => hCommitted (hSound.commitSent hMem)
  commitRead := fun importer hSome hRead => hCommitted (hSound.commitRead importer hSome hRead)
  attended := hAttended

/-- The source goes on without a command to an actor. -/
theorem Sound.goes (hSound : Sound h) {source : SourceServer} (hApp : source.app = h.source.app)
  (hActors : source.actors = h.source.actors) (hCurrent : h.source.phase.current = none)
  (hTracks : source.Tracks) (hDuplicates : source.Duplicates)
  (hCommitted : h.source.phase.committed = true → source.phase.committed = true) :
  Sound (h.setSource source) :=
  hSound.setSource hApp hTracks hDuplicates hCommitted
    (hActors ▸ hSound.attended.goTo hCurrent hCommitted)

theorem sourceReads_sound {expected : Message} {next failure : SourcePhase} (hSound : Sound h)
  (hStep : h.sourceReads arrives expected next failure = some h')
  (hCurrent : h.source.phase.current = none)
  (hNext : (h.source.goTo next).Tracks ∧ (h.source.goTo next).Duplicates)
  (hFailure : (h.source.goTo failure).Tracks ∧ (h.source.goTo failure).Duplicates)
  (hCommitted : h.source.phase.committed = true →
    next.committed = true ∧ failure.committed = true) : Sound h' := by
  unfold System.sourceReads at hStep
  split at hStep
  case isFalse =>
    cases hStep
    exact hSound.goes rfl rfl hCurrent hFailure.1 hFailure.2 fun h => (hCommitted h).2
  case isTrue =>
    split at hStep
    case h_1 => cases hStep
    case h_2 message rest hQueue =>
      cases hStep
      have hTaken : Sound { h with toSource := rest } := hSound.congr rfl rfl fun _ => id
      split
      · exact hTaken.goes rfl rfl hCurrent hNext.1 hNext.2 fun h => (hCommitted h).1
      · exact hTaken.goes rfl rfl hCurrent hFailure.1 hFailure.2 fun h => (hCommitted h).2

theorem sourceSends_sound (outcome : SendOutcome) {message : Message} {next failure : SourcePhase}
  (hSound : Sound h) (hMessage : message.isOf h.source.app)
  (hCurrent : h.source.phase.current = none)
  (hNext : (h.source.goTo next).Tracks ∧ (h.source.goTo next).Duplicates)
  (hFailure : (h.source.goTo failure).Tracks ∧ (h.source.goTo failure).Duplicates)
  (hBefore : h.source.phase.committed = false)
  (hCommit : message = .committed → next.committed = true) :
  Sound (h.sourceSends outcome message next failure) := by
  have hNever : ∀ {phase : SourcePhase}, h.source.phase.committed = true →
      phase.committed = true := fun hSent => absurd (hBefore.symm.trans hSent) Bool.false_ne_true
  have hWent : Sound (h.goSource next) := hSound.goes rfl rfl hCurrent hNext.1 hNext.2 hNever
  cases outcome with
  | lost => exact hWent
  | failed => exact hSound.goes rfl rfl hCurrent hFailure.1 hFailure.2 hNever
  | delivered =>
    refine { hWent with
      source := hNext.1, duplicates := hNext.2, importer := hSound.importer, messages := ?_
      commitSent := ?_, commitRead := hWent.commitRead, attended := hWent.attended }
    · intro other hMem
      rcases List.mem_append.1 hMem with hMem | hOne
      · exact hSound.messages other hMem
      · obtain rfl := List.mem_singleton.1 hOne
        exact hMessage
    · intro hMem
      rcases List.mem_append.1 hMem with hMem | hOne
      · exact hNever (hSound.commitSent hMem)
      · exact hCommit (List.mem_singleton.1 hOne).symm

theorem sourceNext_sound (hSound : Sound h) (hStep : h.sourceStep .next = some h') : Sound h' := by
  obtain ⟨⟨app, token, protocol, version, inProgress, phase, paused, actors⟩, runs, importer,
    importerRuns, connected, toImporter, toSource⟩ := h
  have hTracks := hSound.source
  have hDuplicates := hSound.duplicates
  have hAttended := hSound.attended
  cases phase with
  | pausing remaining =>
    obtain ⟨hHolds, hToPause, hCovers⟩ := hTracks
    cases remaining with
    | nil =>
      cases hStep
      rw [List.append_nil] at hCovers
      exact hSound.goes rfl rfl rfl ⟨hHolds, hCovers⟩ trivial id
    | cons terminal rest =>
      simp only [System.sourceStep] at hStep
      split at hStep
      case h_1 hNone =>
        cases hStep
        exact hSound.goes rfl rfl rfl ⟨hHolds, pausing_skip hNone hToPause hCovers⟩ trivial id
      case h_2 fd hRuntime =>
        cases hStep
        obtain ⟨hHeld, hFree, hNot, hNotRest, hWaiting⟩ := pausing_begin hHolds hToPause
        refine hSound.setSource rfl
          ⟨hHeld, hFree, hCovers, hNot, hNotRest, hWaiting, fd, hRuntime⟩ trivial id ?_
        have hCalls := hAttended.calls terminal (by simp [SourcePhase.current])
        exact hAttended.commands rfl
          (Pty.System.beginHandoff_inv (hAttended.inv terminal) hCalls) (Or.inl rfl) fun _ =>
          ⟨rfl, Pty.System.beginHandoff_closing (hAttended.opened rfl terminal)⟩
  | awaitingPause terminal rest =>
    obtain ⟨hHolds, hToPause, hCovers, hNot, hNotRest, hWaiting, hRuntime⟩ := hTracks
    simp only [System.sourceStep] at hStep
    split at hStep
    case isTrue => cases hStep
    case isFalse hCalls =>
      split at hStep
      case isTrue hLast =>
        cases hStep
        have hHeld := hWaiting.held (not_not.1 hCalls) hLast
        exact hSound.setSource rfl
          (pausing_done hHolds hToPause hCovers hNot hNotRest hHeld hRuntime) trivial id
          (hAttended.ends rfl (not_not.1 hCalls) rfl)
      case isFalse =>
        cases hStep
        exact hSound.setSource rfl hHolds.goesBack trivial id
          (hAttended.ends rfl (not_not.1 hCalls) rfl)
  | duplicating remaining fds =>
    cases remaining with
    | nil =>
      cases hStep
      obtain ⟨done, hDone, hFds⟩ := hDuplicates
      rw [List.append_nil] at hDone
      exact hSound.goes rfl rfl rfl hTracks (by rw [SourceServer.Duplicates, hFds, ← hDone]; rfl) id
    | cons entry rest => cases hStep
  | releasing remaining =>
    cases remaining with
    | nil =>
      cases hStep
      exact hSound.goes rfl rfl rfl hTracks trivial id
    | cons terminal rest =>
      simp only [System.sourceStep] at hStep
      split at hStep
      case h_1 =>
        cases hStep
        exact hSound.goes rfl rfl rfl hTracks trivial id
      case h_2 =>
        cases hStep
        refine hSound.setSource rfl (GivesUp.release hTracks terminal) trivial id ?_
        refine hAttended.commands rfl
          (Pty.System.closeWith_inv (hAttended.inv terminal) rfl) (Or.inr ?_) fun h => nomatch h
        have hCalls := hAttended.calls terminal (by simp [SourcePhase.current])
        unfold Pty.System.closeWith Pty.System.sendControl
        split <;> exact hCalls
  | rollingBack remaining =>
    cases remaining with
    | nil =>
      cases hStep
      exact hSound.goes rfl rfl rfl ⟨hTracks, rfl⟩ trivial id
    | cons terminal rest =>
      simp only [System.sourceStep] at hStep
      split at hStep
      case h_1 hNone =>
        have hPaused := GoesBack.subset hTracks terminal List.mem_cons_self
        obtain ⟨fd, hRuntime⟩ := Paused.runtime (GoesBack.toPaused hTracks) terminal hPaused
        rw [hNone] at hRuntime
        cases hRuntime
      case h_2 =>
        cases hStep
        refine hSound.setSource rfl (rollingBack_next hTracks) trivial id ?_
        have hCalls := hAttended.calls terminal (by simp [SourcePhase.current])
        exact hAttended.commands rfl
          (Pty.System.rollbackHandoff_inv (hAttended.inv terminal) hCalls) (Or.inl rfl) fun _ =>
          ⟨rfl, Pty.System.rollbackHandoff_closing (hAttended.opened rfl terminal) false⟩
  | awaitingRollback terminal rest =>
    obtain ⟨hBack, hRolls⟩ := hTracks
    simp only [System.sourceStep] at hStep
    split at hStep
    case isTrue => cases hStep
    case isFalse hCalls =>
      cases hStep
      exact hSound.setSource rfl (rollingBack_done hBack (hRolls.resumed (not_not.1 hCalls)))
        trivial id (hAttended.ends rfl (not_not.1 hCalls) rfl)
  | _ => cases hStep

theorem sourceAttempt_sound {succeeds : Bool} (hSound : Sound h)
  (hStep : h.sourceStep (.attempt succeeds) = some h') : Sound h' := by
  obtain ⟨⟨app, token, protocol, version, inProgress, phase, paused, actors⟩, runs, importer,
    importerRuns, connected, toImporter, toSource⟩ := h
  have hTracks := hSound.source
  have hDuplicates := hSound.duplicates
  cases phase with
  | called =>
    obtain ⟨hNone, hIdle, hFree⟩ := hTracks
    replace hNone : paused = [] := hNone
    subst hNone
    have hHolds : Holds app [] actors :=
      { nodup := List.nodup_nil, runtime := by simp, held := by simp }
    simp only [System.sourceStep] at hStep
    split at hStep
    case isTrue =>
      cases hStep
      exact hSound.goes rfl rfl rfl ⟨hHolds.goesBack, rfl⟩ trivial id
    case isFalse =>
      split at hStep
      case isTrue =>
        cases hStep
        exact hSound.goes rfl rfl rfl ⟨hHolds.goesBack, hIdle⟩ trivial id
      case isFalse =>
        cases hStep
        refine hSound.goes rfl rfl rfl ⟨hHolds, ⟨?_, by simp, fun other _ => hFree other⟩, ?_⟩ trivial
          id
        · exact app.paneByTerminal.nodupKeys
        rintro ⟨terminal, pane⟩ hEntry
        obtain ⟨-, hLookup⟩ := SourceApp.mem_handoffEntries.1 hEntry
        have hKey : terminal ∈ app.paneByTerminal :=
          AList.lookup_isSome.1 (by rw [hLookup]; rfl)
        exact hKey
  | duplicating remaining fds =>
    cases remaining with
    | nil => cases hStep
    | cons entry rest =>
      obtain ⟨done, hDone, hFds⟩ := hDuplicates
      have hMore : app.handoffEntries = (done ++ [entry]) ++ rest := by
        rw [List.append_assoc]
        exact hDone
      simp only [System.sourceStep] at hStep
      split at hStep
      case h_1 hNone =>
        cases hStep
        have hAfter : fds =
            (done ++ [entry]).filterMap fun entry => app.runtimes.lookup entry.1 := by
          replace hNone : app.runtimes.lookup entry.1 = none := hNone
          have hFds : fds = done.filterMap fun entry => app.runtimes.lookup entry.1 := hFds
          simp only [List.filterMap_append, List.filterMap_cons, hNone, List.filterMap_nil,
            List.append_nil]
          exact hFds
        exact hSound.goes rfl rfl rfl hTracks ⟨done ++ [entry], hMore, hAfter⟩ id
      case h_2 fd hSome =>
        split at hStep
        case isTrue =>
          cases hStep
          have hAfter : fds ++ [fd] =
              (done ++ [entry]).filterMap fun entry => app.runtimes.lookup entry.1 := by
            replace hSome : app.runtimes.lookup entry.1 = some fd := hSome
            simp only [List.filterMap_append, List.filterMap_cons, hSome,
              List.filterMap_nil]
            exact congrArg (· ++ [fd]) hFds
          exact hSound.goes rfl rfl rfl hTracks ⟨done ++ [entry], hMore, hAfter⟩ id
        case isFalse =>
          cases hStep
          exact hSound.goes rfl rfl rfl hTracks trivial id
  | accepting fds =>
    simp only [System.sourceStep] at hStep
    split at hStep
    case isTrue =>
      cases hStep
      exact hSound.goes rfl rfl rfl hTracks trivial id
    case isFalse =>
      split at hStep
      case isTrue =>
        cases hStep
        exact hSound.goes rfl rfl rfl hTracks hDuplicates id
      case isFalse => cases hStep
  | cleaningUp socketsRemoved =>
    cases hStep
    have hStopped : Sound
        { source := ⟨app, token, protocol, version, inProgress, .cleaningUp socketsRemoved, paused,
            actors⟩
          sourceRuns := runs, importer, importerRuns := importerRuns && !succeeds, connected
          toImporter, toSource } := hSound.congr rfl rfl fun _ => id
    cases socketsRemoved with
    | true => exact hStopped.goes rfl rfl rfl hTracks trivial id
    | false => exact hStopped.goes rfl rfl rfl hTracks.1.goesBack trivial id
  | restoringSockets =>
    cases hStep
    exact hSound.goes rfl rfl rfl hTracks.1.goesBack trivial id
  | _ => cases hStep

theorem sourceSpawn_sound {build : Option Build} (hSound : Sound h)
  (hStep : h.sourceStep (.spawn build) = some h') : Sound h' := by
  obtain ⟨⟨app, token, protocol, version, inProgress, phase, paused, actors⟩, runs, importer,
    importerRuns, connected, toImporter, toSource⟩ := h
  have hTracks := hSound.source
  cases phase with
  | spawning =>
    cases build with
    | none =>
      cases hStep
      exact hSound.goes rfl rfl rfl hTracks.1.goesBack trivial id
    | some build =>
      cases hStep
      refine
        { source := hTracks, duplicates := ⟨[], rfl, rfl⟩, messages := hSound.messages
          importer := ?_, commitSent := hSound.commitSent, commitRead := ?_
          attended := hSound.attended.goTo rfl id }
      · intro importer hSome
        cases hSome
        exact ⟨trivial, by simp [ImportServer.spawned], fun _ _ => dormant_spawned⟩
      · intro importer hSome hRead
        cases hSome
        cases hRead
  | _ => cases hStep

theorem sourceRead_sound (hSound : Sound h) (hStep : h.sourceStep (.read arrives) = some h') :
  Sound h' := by
  obtain ⟨⟨app, token, protocol, version, inProgress, phase, paused, actors⟩, runs, importer,
    importerRuns, connected, toImporter, toSource⟩ := h
  have hTracks := hSound.source
  have hDuplicates := hSound.duplicates
  cases phase with
  | readingToken fds =>
    exact sourceReads_sound hSound hStep rfl ⟨hTracks, hDuplicates⟩ ⟨hTracks, trivial⟩ fun h => nomatch h
  | readingValidated fds =>
    exact sourceReads_sound hSound hStep rfl ⟨hTracks, hDuplicates⟩ ⟨hTracks, trivial⟩ fun h => nomatch h
  | readingRestored =>
    exact sourceReads_sound hSound hStep rfl ⟨hTracks, trivial⟩ ⟨hTracks, trivial⟩ fun h => nomatch h
  | readingReady =>
    exact sourceReads_sound hSound hStep rfl ⟨hTracks, trivial⟩ ⟨hTracks, trivial⟩ fun h => nomatch h
  | readingOwned =>
    exact sourceReads_sound hSound hStep rfl ⟨hTracks, trivial⟩ ⟨hTracks, trivial⟩ fun _ => ⟨rfl, rfl⟩
  | _ => cases hStep

theorem sourceSend_sound {outcome : SendOutcome} (hSound : Sound h)
  (hStep : h.sourceStep (.send outcome) = some h') : Sound h' := by
  obtain ⟨⟨app, token, protocol, version, inProgress, phase, paused, actors⟩, runs, importer,
    importerRuns, connected, toImporter, toSource⟩ := h
  have hTracks := hSound.source
  have hDuplicates := hSound.duplicates
  cases phase with
  | sendingManifest fds =>
    cases hStep
    exact sourceSends_sound outcome hSound rfl rfl ⟨hTracks, hDuplicates⟩ ⟨hTracks, trivial⟩ rfl
      fun h => nomatch h
  | sendingFds fds =>
    simp only [System.sourceStep] at hStep
    split at hStep
    case isTrue =>
      cases hStep
      exact hSound.goes rfl rfl rfl hTracks trivial id
    case isFalse =>
      split at hStep
      case isTrue =>
        cases hStep
        exact hSound.goes rfl rfl rfl hTracks trivial id
      case isFalse =>
        cases hStep
        exact sourceSends_sound outcome hSound hDuplicates rfl ⟨hTracks, trivial⟩ ⟨hTracks, trivial⟩
          rfl fun h => nomatch h
  | committing =>
    cases hStep
    exact sourceSends_sound outcome hSound trivial rfl ⟨hTracks.1.givesUp hTracks.2, trivial⟩
      ⟨hTracks, trivial⟩ rfl fun _ => rfl
  | _ => cases hStep

theorem sourceStep_sound {event : System.SourceEvent} (hSound : Sound h)
  (hStep : h.sourceStep event = some h') : Sound h' := by
  cases event with
  | next => exact sourceNext_sound hSound hStep
  | attempt succeeds => exact sourceAttempt_sound hSound hStep
  | spawn build => exact sourceSpawn_sound hSound hStep
  | read arrives => exact sourceRead_sound hSound hStep
  | send outcome => exact sourceSend_sound hSound hStep

/-! ## The importing server -/

theorem Sound.setImporter (hSound : Sound h) (hTracks : importer.Tracks h.source.app)
  (hCommitted : importer.phase.committed = true → h.source.phase.committed = true) :
  Sound (h.setImporter importer) :=
  { hSound with
    source := hSound.source, duplicates := hSound.duplicates, messages := hSound.messages
    commitSent := hSound.commitSent, attended := hSound.attended
    importer := fun other hSome => by
      cases hSome
      exact hTracks
    commitRead := fun other hSome hRead => by
      cases hSome
      exact hCommitted hRead }

theorem ImportServer.Tracks.goTo {app : SourceApp} {importer : ImportServer}
  (h : importer.Tracks app) {phase : ImportPhase} (hPhase : phase.isOf app)
  (hCommitted : phase.committed = false → importer.phase.committed = false) :
  (importer.goTo phase).Tracks app :=
  { phase := hPhase, panes := h.panes, dormant := fun hBefore => h.dormant (hCommitted hBefore) }

theorem importerReads_sound {next : Message → ImportPhase} (hSound : Sound h)
  (hTracks : importer.Tracks h.source.app)
  (hStep : h.importerReads importer arrives next = some h')
  (hBefore : importer.phase.committed = false)
  (hNext : ∀ message, message.isOf h.source.app → (next message).isOf h.source.app ∧
    ((next message).committed = true → message = .committed)) : Sound h' := by
  unfold System.importerReads at hStep
  split at hStep
  case isFalse =>
    cases hStep
    exact hSound.setImporter (hTracks.goTo trivial fun _ => hBefore) fun h => nomatch h
  case isTrue =>
    split at hStep
    case h_1 => cases hStep
    case h_2 message rest hQueue =>
      cases hStep
      have hHead : message ∈ h.toImporter := by rw [hQueue]; exact List.mem_cons_self
      obtain ⟨hPhase, hCommit⟩ := hNext message (hSound.messages message hHead)
      have hTaken : Sound { h with toImporter := rest } :=
        hSound.congr rfl rfl fun other hMem => by
          rw [hQueue]
          exact List.mem_cons_of_mem _ hMem
      refine hTaken.setImporter (hTracks.goTo hPhase fun _ => hBefore) fun hRead => ?_
      exact hSound.commitSent (hCommit hRead ▸ hHead)

theorem importerSends_sound (outcome : SendOutcome) {message : Message} {next failure : ImportPhase}
  (hSound : Sound h) (hNext : (importer.goTo next).Tracks h.source.app ∧
    (next.committed = true → h.source.phase.committed = true))
  (hFailure : (importer.goTo failure).Tracks h.source.app ∧
    (failure.committed = true → h.source.phase.committed = true)) :
  Sound (h.importerSends importer outcome message next failure) := by
  cases outcome with
  | lost => exact hSound.setImporter hNext.1 hNext.2
  | failed => exact hSound.setImporter hFailure.1 hFailure.2
  | delivered =>
    have hSent : Sound { h with toSource := h.toSource ++ [message] } :=
      hSound.congr rfl rfl fun _ => id
    exact hSent.setImporter hNext.1 hNext.2

theorem importerAttempt_sound {succeeds : Bool} (hSound : Sound h)
  (hTracks : importer.Tracks h.source.app)
  (hStep : h.importerStep importer (.attempt succeeds) = some h') : Sound h' := by
  obtain ⟨build, token, phase, panes, actors⟩ := importer
  have hGo : ∀ {next : ImportPhase}, next.isOf h.source.app → phase.committed = false →
      next.committed = false → Sound (h.setImporter ⟨build, token, next, panes, actors⟩) := by
    intro next hPhase hBefore hNext
    exact hSound.setImporter (hTracks.goTo hPhase fun _ => hBefore)
      fun hRead => absurd (hNext.symm.trans hRead) Bool.false_ne_true
  cases phase with
  | connecting =>
    cases succeeds with
    | true =>
      cases hStep
      have hConnected : Sound { h with connected := true } := hSound.congr rfl rfl fun _ => id
      exact hConnected.setImporter (hTracks.goTo trivial fun _ => rfl) fun h => nomatch h
    | false =>
      cases hStep
      exact hGo trivial rfl rfl
  | waitingForSockets =>
    cases hStep
    cases succeeds <;> exact hGo trivial rfl rfl
  | starting =>
    cases hStep
    cases succeeds <;> exact hGo trivial rfl rfl
  | _ => cases hStep

theorem importerRead_sound (hSound : Sound h) (hTracks : importer.Tracks h.source.app)
  (hStep : h.importerStep importer (.read arrives) = some h') : Sound h' := by
  obtain ⟨build, token, phase, panes, actors⟩ := importer
  cases phase with
  | readingManifest =>
    refine importerReads_sound hSound hTracks hStep rfl fun message hMessage => ?_
    cases message with
    | manifest manifest =>
      dsimp only
      split
      · exact ⟨hMessage, fun h => nomatch h⟩
      · exact ⟨trivial, fun h => nomatch h⟩
    | _ => exact ⟨trivial, fun h => nomatch h⟩
  | receivingFds manifest =>
    have hManifest : manifest.isOf h.source.app := hTracks.phase
    simp only [System.importerStep] at hStep
    split at hStep
    case isTrue hEmpty =>
      cases hStep
      have hEntries : h.source.app.handoffEntries = [] :=
        List.map_eq_nil_iff.1 (hManifest.symm.trans hEmpty)
      have hFds : [] = h.source.app.handoffFds := by
        rw [SourceApp.handoffFds, hEntries]
        rfl
      exact hSound.setImporter (hTracks.goTo ⟨hManifest, hFds⟩ fun _ => rfl) fun h => nomatch h
    case isFalse =>
      refine importerReads_sound hSound hTracks hStep rfl fun message hMessage => ?_
      cases message with
      | fds fds =>
        dsimp only
        split
        case h_1 received hReceived =>
          obtain ⟨-, hSame⟩ := Option.ite_none_right_eq_some.1 hReceived
          cases hSame
          exact ⟨⟨hManifest, hMessage⟩, fun h => nomatch h⟩
        case h_2 => exact ⟨trivial, fun h => nomatch h⟩
      | _ => exact ⟨trivial, fun h => nomatch h⟩
  | readingCommitted =>
    refine importerReads_sound hSound hTracks hStep rfl fun message _ => ?_
    split
    case isTrue hCommit => exact ⟨trivial, fun _ => hCommit⟩
    case isFalse => exact ⟨trivial, fun h => nomatch h⟩
  | _ => cases hStep

theorem importerSend_sound {outcome : SendOutcome} (hSound : Sound h)
  (hTracks : importer.Tracks h.source.app)
  (hCommitted : importer.phase.committed = true → h.source.phase.committed = true)
  (hStep : h.importerStep importer (.send outcome) = some h') : Sound h' := by
  obtain ⟨build, token, phase, panes, actors⟩ := importer
  cases phase with
  | sendingToken =>
    cases hStep
    exact importerSends_sound outcome hSound ⟨hTracks.goTo trivial fun _ => rfl, fun h => nomatch h⟩
      ⟨hTracks.goTo trivial fun _ => rfl, fun h => nomatch h⟩
  | sendingValidated manifest =>
    cases hStep
    exact importerSends_sound outcome hSound
      ⟨hTracks.goTo hTracks.phase fun _ => rfl, fun h => nomatch h⟩
      ⟨hTracks.goTo trivial fun _ => rfl, fun h => nomatch h⟩
  | sendingRestored =>
    cases hStep
    exact importerSends_sound outcome hSound ⟨hTracks.goTo trivial fun _ => rfl, fun h => nomatch h⟩
      ⟨hTracks.goTo trivial fun _ => rfl, fun h => nomatch h⟩
  | sendingReady =>
    cases hStep
    exact importerSends_sound outcome hSound ⟨hTracks.goTo trivial fun _ => rfl, fun h => nomatch h⟩
      ⟨hTracks.goTo trivial fun _ => rfl, fun h => nomatch h⟩
  | sendingOwned =>
    cases hStep
    have hOwner := @ImportServer.Tracks.goTo _ _ hTracks .owner trivial fun h => nomatch h
    exact importerSends_sound outcome hSound ⟨hOwner, hCommitted⟩ ⟨hOwner, hCommitted⟩
  | _ => cases hStep

theorem importerRestore_sound {fails : PaneId → Bool} (hSound : Sound h)
  (hTracks : importer.Tracks h.source.app)
  (hStep : h.importerStep importer (.restore fails) = some h') : Sound h' := by
  obtain ⟨build, token, phase, panes, actors⟩ := importer
  cases phase with
  | restoring manifest fds =>
    obtain ⟨hManifest, hFds⟩ := hTracks.phase
    simp only [System.importerStep] at hStep
    split at hStep
    case h_1 restored hRestored =>
      cases hStep
      refine hSound.setImporter ⟨trivial, fun pane fd hMem => ?_, fun _ => hTracks.dormant rfl⟩
        fun h => nomatch h
      rw [← hManifest, ← hFds]
      exact mem_restoreHandoff hRestored hMem
    case h_2 =>
      cases hStep
      exact hSound.setImporter (hTracks.goTo trivial fun _ => rfl) fun h => nomatch h
  | _ => cases hStep

theorem importerNext_sound (hSound : Sound h) (hTracks : importer.Tracks h.source.app)
  (hCommitted : importer.phase.committed = true → h.source.phase.committed = true)
  (hStep : h.importerStep importer .next = some h') : Sound h' := by
  obtain ⟨build, token, phase, panes, actors⟩ := importer
  cases phase with
  | unpausing remaining =>
    cases remaining with
    | nil =>
      cases hStep
      exact hSound.setImporter ⟨trivial, hTracks.panes, fun h => nomatch h⟩ hCommitted
    | cons pane rest =>
      cases hStep
      exact hSound.setImporter ⟨trivial, hTracks.panes, fun h => nomatch h⟩ hCommitted
  | awaitingUnpause pane rest =>
    simp only [System.importerStep] at hStep
    split at hStep
    case isTrue => cases hStep
    case isFalse =>
      cases hStep
      exact hSound.setImporter ⟨trivial, hTracks.panes, fun h => nomatch h⟩ hCommitted
  | _ => cases hStep

theorem importerStep_sound {event : System.ImportEvent} (hSound : Sound h)
  (hSome : h.importer = some importer) (hStep : h.importerStep importer event = some h') :
  Sound h' := by
  have hTracks := hSound.importer importer hSome
  have hCommitted := hSound.commitRead importer hSome
  cases event with
  | next => exact importerNext_sound hSound hTracks hCommitted hStep
  | attempt succeeds => exact importerAttempt_sound hSound hTracks hStep
  | read arrives => exact importerRead_sound hSound hTracks hStep
  | send outcome => exact importerSend_sound hSound hTracks hCommitted hStep
  | restore fails => exact importerRestore_sound hSound hTracks hStep

/-! ## Every step -/

/-- The condition: the source gives up on a pane's rollback only when the
pane's actor has left. -/
def Answers (h : System) : Label → Prop
  | .sourcePane terminal label => Orderly (h.source.actors terminal) label
  | _ => True

theorem Sound.step {h h' : System} {label : Label} (hSound : Sound h)
  (hStep : Handoff.step h label = some h') (hAnswers : Answers h label) : Sound h' := by
  cases label with
  | source event =>
    obtain ⟨-, hStep⟩ := Option.ite_none_right_eq_some.1 hStep
    exact sourceStep_sound hSound hStep
  | importer event =>
    obtain ⟨-, hStep⟩ := Option.ite_none_right_eq_some.1 hStep
    obtain ⟨importer, hSome, hStep⟩ := Option.bind_eq_some_iff.1 hStep
    exact importerStep_sound hSound hSome hStep
  | sourcePane terminal label =>
    obtain ⟨hMay, hStep⟩ := Option.ite_none_right_eq_some.1 hStep
    obtain ⟨actor, hActor, rfl⟩ := Option.map_eq_some_iff.1 hStep
    have hLabel := (Bool.and_eq_true_iff.1 hMay).2
    have hFollows : ∀ other, Follows (h.source.actors other)
        (Function.update h.source.actors terminal actor other) := by
      intro other
      by_cases hSame : other = terminal
      · rw [hSame, Function.update_self]
        exact follows_step hLabel hAnswers hActor
      · rw [Function.update_of_ne hSame]
        exact .refl _
    exact hSound.setSource rfl (hSound.source.follow hFollows) hSound.duplicates id
      (hSound.attended.pane hLabel hAnswers hActor)
  | importerPane pane label =>
    obtain ⟨hMay, hStep⟩ := Option.ite_none_right_eq_some.1 hStep
    obtain ⟨importer, hSome, hStep⟩ := Option.bind_eq_some_iff.1 hStep
    obtain ⟨actor, hActor, rfl⟩ := Option.map_eq_some_iff.1 hStep
    have hLabel := (Bool.and_eq_true_iff.1 hMay).2
    have hTracks := hSound.importer importer hSome
    refine hSound.setImporter ⟨hTracks.phase, hTracks.panes, fun hBefore other => ?_⟩
      (hSound.commitRead importer hSome)
    have hDormant := hTracks.dormant hBefore
    dsimp only [ImportServer.setActor]
    by_cases hSame : other = pane
    · rw [hSame, Function.update_self]
      exact (hDormant pane).step hLabel hActor
    · rw [Function.update_of_ne hSame]
      exact hDormant other
  | sourceStops =>
    cases hStep
    exact hSound.congr rfl rfl fun _ => id
  | importerStops =>
    cases hStep
    exact hSound.congr rfl rfl fun _ => id

end Handoff
