import VimeflowTerminal.Handoff.PaneActors

/-! Phase by phase, what the source knows of the actors of its panes; and what the
importing server and the messages on their way can hold. -/

namespace Handoff

open Pty (Orderly)

section Panes

variable (app : SourceApp) (paused : List TerminalId) (actors : TerminalId → Pty.System)

/-- Every pane of the manifest is among the listed terminals. -/
def Covers (terminals : List TerminalId) : Prop :=
  ∀ entry ∈ app.handoffEntries, entry.1 ∈ terminals

/-- The terminals to pause yet. -/
structure ToPause (remaining : List TerminalId) : Prop where
  nodup : remaining.Nodup
  disjoint : ∀ terminal ∈ remaining, terminal ∉ paused
  free : ∀ terminal ∈ remaining, Free (actors terminal)

/-- The paused terminals, all with a runtime. -/
structure Paused : Prop where
  nodup : paused.Nodup
  runtime : ∀ terminal ∈ paused, ∃ fd, app.runtimes.lookup terminal = some fd

/-- All that was paused is still held. -/
structure Holds : Prop extends Paused app paused where
  held : ∀ terminal ∈ paused, Held (actors terminal)

/-- The source's actors once it has committed. -/
structure GivesUp : Prop where
  released : ∀ terminal ∈ paused, Released (actors terminal)
  covers : Covers app paused

/-- What was paused is held or runs again. -/
structure GoesBack (remaining : List TerminalId) (current : Option TerminalId) : Prop
  extends Paused app paused where
  remainingNodup : remaining.Nodup
  subset : ∀ terminal ∈ remaining, terminal ∈ paused
  held : ∀ terminal ∈ remaining, Held (actors terminal)
  other : ∀ terminal ∈ remaining, current ≠ some terminal
  resumed : ∀ terminal ∈ paused, current ≠ some terminal → terminal ∉ remaining →
    Resumed (actors terminal)

end Panes

namespace SourceServer

/-- What the source knows in each phase. -/
def Tracks (source : SourceServer) : Prop :=
  match source.phase with
  | .called =>
    source.paused = [] ∧ source.handoffInProgress = false ∧
      ∀ terminal, Free (source.actors terminal)
  | .pausing remaining =>
    Holds source.app source.paused source.actors ∧
      ToPause source.paused source.actors remaining ∧
      Covers source.app (source.paused ++ remaining)
  | .awaitingPause terminal remaining =>
    Holds source.app source.paused source.actors ∧
      ToPause source.paused source.actors remaining ∧
      Covers source.app (source.paused ++ terminal :: remaining) ∧
      terminal ∉ source.paused ∧ terminal ∉ remaining ∧ Waiting (source.actors terminal) ∧
      ∃ fd, source.app.runtimes.lookup terminal = some fd
  | .releasing _ => GivesUp source.app source.paused source.actors
  | .readingOwned => GivesUp source.app source.paused source.actors
  | .succeeded => GivesUp source.app source.paused source.actors
  | .rollingBack remaining => GoesBack source.app source.paused source.actors remaining none
  | .awaitingRollback terminal remaining =>
    GoesBack source.app source.paused source.actors remaining (some terminal) ∧
      RollsBack (source.actors terminal)
  | .failed =>
    GoesBack source.app source.paused source.actors [] none ∧ source.handoffInProgress = false
  | _ => Holds source.app source.paused source.actors ∧ Covers source.app source.paused

/-- The descriptors the source has taken so far. -/
def Duplicates (source : SourceServer) : Prop :=
  match source.phase with
  | .duplicating remaining fds =>
    ∃ done, source.app.handoffEntries = done ++ remaining ∧
      fds = done.filterMap fun entry => source.app.runtimes.lookup entry.1
  | .accepting fds => fds = source.app.handoffFds
  | .readingToken fds => fds = source.app.handoffFds
  | .sendingManifest fds => fds = source.app.handoffFds
  | .readingValidated fds => fds = source.app.handoffFds
  | .sendingFds fds => fds = source.app.handoffFds
  | _ => True

end SourceServer

/-- Actors that are as they were, as far as the source can tell. -/
structure Follows (before after : Pty.System) : Prop where
  free : Free before → Free after
  held : Held before → Held after
  released : Released before → Released after
  waiting : Waiting before → Waiting after
  resumed : Resumed before → Resumed after
  rollsBack : RollsBack before → RollsBack after

theorem Follows.refl (actor : Pty.System) : Follows actor actor := ⟨id, id, id, id, id, id⟩

theorem follows_step {before after : Pty.System} {label : Pty.Label}
  (hLabel : isPaneLabel label = true) (hOrderly : Orderly before label)
  (hStep : Pty.step before label = some after) : Follows before after where
  free := fun h => h.step hLabel hStep
  held := fun h => h.step hLabel hStep
  released := fun h => h.step hLabel hStep
  waiting := fun h => h.step hLabel hOrderly hStep
  resumed := fun h => h.step hLabel hStep
  rollsBack := fun h => h.step hLabel hOrderly hStep

section Follow

variable {app : SourceApp} {paused : List TerminalId} {before after : TerminalId → Pty.System}

theorem Holds.follow (h : Holds app paused before)
  (hFollows : ∀ terminal, Follows (before terminal) (after terminal)) : Holds app paused after :=
  { h.toPaused with held := fun terminal hMem => (hFollows terminal).held (h.held terminal hMem) }

theorem ToPause.follow {remaining : List TerminalId} (h : ToPause paused before remaining)
  (hFollows : ∀ terminal, Follows (before terminal) (after terminal)) :
  ToPause paused after remaining :=
  { nodup := h.nodup, disjoint := h.disjoint
    free := fun terminal hMem => (hFollows terminal).free (h.free terminal hMem) }

theorem GivesUp.follow (h : GivesUp app paused before)
  (hFollows : ∀ terminal, Follows (before terminal) (after terminal)) :
  GivesUp app paused after :=
  { covers := h.covers
    released := fun terminal hMem => (hFollows terminal).released (h.released terminal hMem) }

theorem GoesBack.follow {remaining : List TerminalId} {current : Option TerminalId}
  (h : GoesBack app paused before remaining current)
  (hFollows : ∀ terminal, Follows (before terminal) (after terminal)) :
  GoesBack app paused after remaining current :=
  { h.toPaused with
    remainingNodup := h.remainingNodup
    subset := h.subset
    other := h.other
    held := fun terminal hMem => (hFollows terminal).held (h.held terminal hMem)
    resumed := fun terminal hMem hCurrent hRest =>
      (hFollows terminal).resumed (h.resumed terminal hMem hCurrent hRest) }

theorem SourceServer.Tracks.follow {source : SourceServer} (h : source.Tracks)
  (hFollows : ∀ terminal, Follows (source.actors terminal) (after terminal)) :
  SourceServer.Tracks { source with actors := after } := by
  obtain ⟨app, token, protocol, version, inProgress, phase, paused, actors⟩ := source
  cases phase with
  | called => exact ⟨h.1, h.2.1, fun terminal => (hFollows terminal).free (h.2.2 terminal)⟩
  | pausing remaining => exact ⟨h.1.follow hFollows, h.2.1.follow hFollows, h.2.2⟩
  | awaitingPause terminal remaining =>
    obtain ⟨hHeld, hFree, hCovers, hNot, hNotRest, hWaiting, hRuntime⟩ := h
    exact ⟨hHeld.follow hFollows, hFree.follow hFollows, hCovers, hNot, hNotRest,
      (hFollows terminal).waiting hWaiting, hRuntime⟩
  | releasing remaining => exact GivesUp.follow h hFollows
  | readingOwned => exact GivesUp.follow h hFollows
  | succeeded => exact GivesUp.follow h hFollows
  | rollingBack remaining => exact GoesBack.follow h hFollows
  | awaitingRollback terminal remaining =>
    exact ⟨h.1.follow hFollows, (hFollows terminal).rollsBack h.2⟩
  | failed => exact ⟨h.1.follow hFollows, h.2⟩
  | _ => exact ⟨h.1.follow hFollows, h.2⟩

end Follow

/-- The actor of a restored pane before the commit. -/
structure Dormant (actor : Pty.System) : Prop extends Between actor where
  state : actor.activity.stopped = false → actor.runner.state = .quiesced

theorem Dormant.not_unpaused {actor : Pty.System} (h : Dormant actor) : ¬Unpaused actor := by
  rintro ⟨hGoing, hRunning⟩
  rw [h.state hGoing] at hRunning
  cases hRunning

theorem Dormant.step {actor after : Pty.System} {label : Pty.Label} (h : Dormant actor)
  (hLabel : isPaneLabel label = true) (hStep : Pty.step actor label = some after) :
  Dormant after := by
  obtain ⟨hBetween, hSame⟩ := h.toBetween.step hLabel hStep
  refine ⟨hBetween, fun hGoing => ?_⟩
  have hBefore : actor.activity.stopped = false := by
    cases hStopped : actor.activity.stopped with
    | false => rfl
    | true => exact absurd (hGoing.symm.trans (hSame.stopped hStopped)) Bool.false_ne_true
  rw [hSame.state hGoing]
  exact h.state hBefore

theorem dormant_spawned : Dormant (Pty.System.spawned true) :=
  ⟨⟨Pty.System.inv_spawned true, rfl⟩, fun _ => rfl⟩

/-- The importing server has read the commit. -/
def ImportPhase.committed : ImportPhase → Bool
  | .unpausing _ => true
  | .awaitingUnpause _ _ => true
  | .sendingOwned => true
  | .owner => true
  | _ => false

/-- The source has sent the commit. -/
def SourcePhase.committed : SourcePhase → Bool
  | .releasing _ => true
  | .readingOwned => true
  | .succeeded => true
  | _ => false

section Import

variable (app : SourceApp)

def HandoffManifest.isOf (manifest : HandoffManifest) : Prop :=
  manifest.panes = app.handoffEntries.map Prod.snd

/-- What a message to the importing server says is so. -/
def Message.isOf : Message → Prop
  | .manifest content => content.isOf app
  | .fds content => content = app.handoffFds
  | _ => True

def ImportPhase.isOf : ImportPhase → Prop
  | .sendingValidated manifest => manifest.isOf app
  | .receivingFds manifest => manifest.isOf app
  | .restoring manifest fds => manifest.isOf app ∧ fds = app.handoffFds
  | _ => True

structure ImportServer.Tracks (importer : ImportServer) : Prop where
  phase : importer.phase.isOf app
  panes : ∀ pane fd, (pane, fd) ∈ importer.panes →
    (collectImports (app.handoffEntries.map Prod.snd) app.handoffFds).lookup pane = some fd
  dormant : importer.phase.committed = false → ∀ pane, Dormant (importer.actors pane)

end Import

structure Inv (h : System) : Prop where
  source : h.source.Tracks
  duplicates : h.source.Duplicates
  messages : ∀ message ∈ h.toImporter, message.isOf h.source.app
  importer : ∀ importer, h.importer = some importer → importer.Tracks h.source.app
  commitSent : .committed ∈ h.toImporter → h.source.phase.committed = true
  commitRead : ∀ importer, h.importer = some importer → importer.phase.committed = true →
    h.source.phase.committed = true

end Handoff
