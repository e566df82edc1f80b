import VimeflowTerminal.Handoff.LiveSteps
import VimeflowTerminal.Pty.ActorRuns

/-! What holds of the panes in every state of a run in which the source never gives
up on a rollback that the pane's actor can still take. -/

namespace Handoff

open Pty (Orderly closing)
open Transition

/-- A source whose handoff was called just now. -/
structure Started (h : System) : Prop where
  phase : h.source.phase = .called
  idle : h.source.handoffInProgress = false
  paused : h.source.paused = []
  importer : h.importer = none
  toImporter : h.toImporter = []
  toSource : h.toSource = []
  actors : ∀ terminal, ∃ initiallyQuiesced labels,
    Run (restrict (ofPartial Pty.step) Orderly) (.spawned initiallyQuiesced) labels
      (h.source.actors terminal)
  free : ∀ terminal, (h.source.actors terminal).calls = [] ∧
    (h.source.actors terminal).lastHandoff ≠ some .began ∧
    closing (h.source.actors terminal).controlQueue = false

/-- What a live handoff owes the panes. -/
structure Safe (h : System) : Prop where
  /-- A pane that is handed over has one actor at most that reads and writes. -/
  oneOwner : ∀ importer, h.importer = some importer → ∀ pane fd, (pane, fd) ∈ importer.panes →
    ∀ terminal, (pane, terminal) ∈ h.source.app.panes →
      ¬(Unpaused (h.source.actors terminal) ∧ Unpaused (importer.actors pane))
  /-- After a failure each pane whose handoff was begun runs and takes input
  again, unless its actor has left. -/
  resumed : h.source.phase = .failed → ∀ terminal,
    terminal ∈ h.source.paused ∨
        (h.source.actors terminal).lastHandoff = some .beginFailed →
      (h.source.actors terminal).activity.stopped = true ∨
        Unpaused (h.source.actors terminal) ∧ (h.source.actors terminal).accepting = true
  cleared : h.source.phase = .failed → h.source.handoffInProgress = false
  /-- After a failure the importing server runs no pane. -/
  unowned : h.source.phase = .failed → ∀ importer, h.importer = some importer →
    ∀ pane, ¬Unpaused (importer.actors pane)
  /-- A pane is imported with the terminal that is attached to it. -/
  paired : ∀ importer, h.importer = some importer → ∀ pane fd, (pane, fd) ∈ importer.panes →
    ∃ terminal, (pane, terminal) ∈ h.source.app.panes ∧
      h.source.app.runtimes.lookup terminal = some fd

theorem SourceServer.Tracks.givesUp {source : SourceServer} (h : source.Tracks)
  (hCommitted : source.phase.committed = true) :
  GivesUp source.app source.paused source.actors := by
  obtain ⟨app, token, protocol, version, inProgress, phase, paused, actors⟩ := source
  cases phase with
  | releasing remaining => exact h
  | readingOwned => exact h
  | succeeded => exact h
  | _ => cases hCommitted

theorem SourceServer.Tracks.failed {source : SourceServer} (h : source.Tracks)
  (hFailed : source.phase = .failed) :
  GoesBack source.app source.paused source.actors [] none ∧
    source.handoffInProgress = false := by
  obtain ⟨app, token, protocol, version, inProgress, phase, paused, actors⟩ := source
  obtain rfl : phase = .failed := hFailed
  exact h

variable {h : System}

theorem Inv.dormant (hInv : Inv h) (hOpen : h.source.phase.committed = false)
  {importer : ImportServer} (hSome : h.importer = some importer) (pane : PaneId) :
  Dormant (importer.actors pane) := by
  have hUnread : importer.phase.committed = false := by
    cases hRead : importer.phase.committed with
    | false => rfl
    | true => exact absurd (hOpen.symm.trans (hInv.commitRead importer hSome hRead)) Bool.false_ne_true
  exact (hInv.importer importer hSome).dormant hUnread pane

theorem Inv.oneOwner (hInv : Inv h) {importer : ImportServer} (hSome : h.importer = some importer)
  {pane : PaneId} {fd : Fd} (hImported : (pane, fd) ∈ importer.panes) {terminal : TerminalId}
  (hAttached : (pane, terminal) ∈ h.source.app.panes) :
  ¬(Unpaused (h.source.actors terminal) ∧ Unpaused (importer.actors pane)) := by
  rintro ⟨hSource, hImporter⟩
  cases hCommitted : h.source.phase.committed with
  | false => exact (hInv.dormant hCommitted hSome pane).not_unpaused hImporter
  | true =>
    have hGivesUp := hInv.source.givesUp hCommitted
    obtain ⟨other, hEntry, hOther, -⟩ :=
      imported_fd ((hInv.importer importer hSome).panes pane fd hImported)
    obtain rfl := SourceApp.attached_unique hAttached hOther
    exact (hGivesUp.released _ (hGivesUp.covers _ hEntry)).not_unpaused hSource

theorem Sound.safe (hSound : Sound h) : Safe h where
  oneOwner := fun _ hSome _ _ hImported _ hAttached => hSound.oneOwner hSome hImported hAttached
  resumed := fun hFailed terminal hBegun => by
    have hBack := (hSound.source.failed hFailed).1
    rcases hBegun with hPaused | hLast
    · exact (hBack.resumed terminal hPaused (by simp) (by simp)).accepts
    · have hOpened := hSound.attended.opened (by rw [hFailed]; rfl) terminal
      exact accepts_of_last (hSound.attended.inv terminal) hOpened (Or.inl hLast)
  cleared := fun hFailed => (hSound.source.failed hFailed).2
  unowned := fun hFailed _ hSome pane =>
    (hSound.dormant (by rw [hFailed]; rfl) hSome pane).not_unpaused
  paired := fun importer hSome pane fd hImported => by
    obtain ⟨terminal, -, hAttached, hRuntime⟩ :=
      imported_fd ((hSound.importer importer hSome).panes pane fd hImported)
    exact ⟨terminal, hAttached, hRuntime⟩

theorem Started.sound (hStarted : Started h) : Sound h := by
  have hActors : ∀ terminal, (h.source.actors terminal).Inv := by
    intro terminal
    obtain ⟨initiallyQuiesced, labels, hRun⟩ := hStarted.actors terminal
    exact hRun.preserves (Pty.System.inv_spawned initiallyQuiesced) fun _ _ _ hInv hStep =>
      hInv.step hStep.1 hStep.2
  have hFree : ∀ terminal, Free (h.source.actors terminal) := fun terminal =>
    ⟨⟨hActors terminal, (hStarted.free terminal).1⟩, (hStarted.free terminal).2.1,
      (hStarted.free terminal).2.2⟩
  obtain ⟨source, runs, importer, importerRuns, connected, toImporter, toSource⟩ := h
  obtain ⟨app, token, protocol, version, inProgress, phase, paused, actors⟩ := source
  obtain rfl : phase = .called := hStarted.phase
  obtain rfl : importer = none := hStarted.importer
  obtain rfl : toImporter = [] := hStarted.toImporter
  exact
    { source := ⟨hStarted.paused, hStarted.idle, hFree⟩
      duplicates := trivial
      messages := fun _ hMem => nomatch hMem
      importer := fun _ hSome => nomatch hSome
      commitSent := fun hMem => nomatch hMem
      commitRead := fun _ hSome => nomatch hSome
      attended := ⟨hActors, fun terminal _ => (hStarted.free terminal).1,
        fun _ terminal => (hStarted.free terminal).2.2⟩ }

/-- In every state of a live handoff in which each rollback is answered the
panes are safe. -/
theorem safe_of_answers {h h' : System} {labels : List Label} (hStarted : Started h)
  (hRun : Run (restrict (ofPartial step) Answers) h labels h') : Safe h' :=
  (hRun.preserves hStarted.sound fun _ _ _ hSound hStep => hSound.step hStep.1 hStep.2).safe

instance (h : System) (label : Label) : Decidable (Answers h label) := by
  cases label <;> simp only [Answers] <;> infer_instance

/-- A server with one pane, whose terminal is open on descriptor 3. -/
def onePane : System where
  source :=
    { app := { panes := [(1, 10)], layout := [1], runtimes := .ofPairs [(10, 3)], nodup := by decide }
      token := []
      expectedProtocol := none
      expectedVersion := none
      handoffInProgress := false
      phase := .called
      paused := []
      actors := fun _ => .spawned false }
  sourceRuns := true
  importer := none
  importerRuns := false
  connected := false
  toImporter := []
  toSource := []

theorem onePane_started : Started onePane where
  phase := rfl
  idle := rfl
  paused := rfl
  importer := rfl
  toImporter := rfl
  toSource := rfl
  actors := fun _ => ⟨false, [], .zero _⟩
  free := fun _ => ⟨rfl, (by decide : (none : Option Pty.HandoffResult) ≠ some .began), rfl⟩

/-- The handoff as far as the pane is paused. -/
def untilPaused : List Label :=
  [.source (.attempt true), .source .next] ++
    List.replicate 5 (.sourcePane 10 (.actor .proceed)) ++
    [.sourcePane 10 (.answered 0), .source .next, .source .next]

/-- A handoff in which every message arrives. -/
def handedOver : List Label :=
  untilPaused ++
    [.source (.spawn (some ⟨1, []⟩)), .source (.attempt true), .source .next,
      .importer (.attempt true), .source (.attempt true), .importer (.send .delivered),
      .source (.read true), .source (.send .delivered), .importer (.read true),
      .importer (.send .delivered), .source (.read true), .source (.send .delivered),
      .importer (.read true), .importer (.restore fun _ => false), .importer (.send .delivered),
      .source (.read true), .importer (.attempt true), .importer (.attempt true),
      .importer (.send .delivered), .source (.read true), .source (.send .delivered),
      .importer (.read true), .importer .next, .importerPane 1 (.actor .proceed),
      .importerPane 1 (.answered 0), .importer .next, .importer .next,
      .importer (.send .delivered), .source .next, .source .next, .source (.read true)]

theorem safe_handedOver : Safe (reached (guarded step Answers) onePane handedOver) :=
  safe_of_answers onePane_started (run_reached_guarded (by decide))

/-- The commit passes the panes on: before it the importing server runs none of
them, and after it the source runs none of those in the manifest. -/
structure PassesOn (h : System) : Prop where
  before : h.source.phase.committed = false → ∀ importer, h.importer = some importer →
    ∀ pane, ¬Unpaused (importer.actors pane)
  after : h.source.phase.committed = true → ∀ entry ∈ h.source.app.handoffEntries,
    ¬Unpaused (h.source.actors entry.1)
  /-- The commit is not read before it is sent. -/
  sent : ∀ importer, h.importer = some importer → importer.phase.committed = true →
    h.source.phase.committed = true
  /-- What is restored is what the source has listed and duplicated. -/
  listed : ∀ importer, h.importer = some importer → ∀ manifest fds,
    importer.phase = .restoring manifest fds →
      manifest.panes = h.source.app.handoffEntries.map Prod.snd ∧ fds = h.source.app.handoffFds

theorem Inv.passesOn (hInv : Inv h) : PassesOn h where
  before := fun hOpen _ hSome pane => (hInv.dormant hOpen hSome pane).not_unpaused
  after := fun hCommitted entry hEntry => by
    have hGivesUp := hInv.source.givesUp hCommitted
    exact (hGivesUp.released _ (hGivesUp.covers entry hEntry)).not_unpaused
  sent := hInv.commitRead
  listed := fun importer hSome manifest fds hPhase => by
    have hIsOf := (hInv.importer importer hSome).phase
    rw [hPhase] at hIsOf
    exact hIsOf

/-- In every state of a live handoff in which each rollback is answered, the commit
alone decides which server may run the panes. -/
theorem passesOn_of_answers {h h' : System} {labels : List Label} (hStarted : Started h)
  (hRun : Run (restrict (ofPartial step) Answers) h labels h') : PassesOn h' :=
  (hRun.preserves hStarted.sound fun _ _ _ hSound hStep =>
    hSound.step hStep.1 hStep.2).toInv.passesOn

theorem passesOn_handedOver : PassesOn (reached (guarded step Answers) onePane handedOver) :=
  passesOn_of_answers onePane_started (run_reached_guarded (by decide))

/-- The importing server cannot be started, and the source gives up on the
rollback before the pane's actor takes it. -/
def rollbackGivenUp : List Label :=
  untilPaused ++
    [.source (.spawn none), .source .next, .sourcePane 10 (.timesOut 1), .source .next,
      .source .next, .sourcePane 10 (.actor .proceed)]

/-- The handoff has failed, and its pane takes no input any more. -/
theorem not_safe_rollbackGivenUp :
  ¬∀ (h h' : System) (labels : List Label), Started h → Run (ofPartial step) h labels h' →
    Safe h' := by
  intro hSafe
  have hRun : Run (ofPartial step) onePane rollbackGivenUp (reached step onePane rollbackGivenUp) :=
    run_reached (by decide)
  have hPane := (hSafe _ _ _ onePane_started hRun).resumed (by decide) 10 (Or.inl (by decide))
  rcases hPane with hStopped | hResumed
  · revert hStopped
    decide
  have hAccepting := hResumed.2
  revert hAccepting
  decide

end Handoff
