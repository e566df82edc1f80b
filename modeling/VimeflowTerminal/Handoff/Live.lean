import VimeflowTerminal.Data.FinMap
import VimeflowTerminal.Pty.ActorTraffic

/-! The two servers of a live handoff and the stream between them. The source
pauses the actors of its panes, starts the importing server, hands it the
manifest and the descriptors and commits; the importing server restores the
panes with paused actors and unpauses them when it reads the commit. Every
message can be lost or fail to be sent, every read can time out or find the
stream closed, and either server can stop at any point. -/

namespace Handoff

/-- Raw pane ids. -/
abbrev PaneId := Nat

abbrev TerminalId := Nat

/-- The terminal device a descriptor is open on. -/
abbrev Fd := Nat

/-- `MAX_FDS_PER_HANDOFF` -/
def maxFdsPerHandoff : Nat := 64

/-- What a live handoff reads of the source: the panes of every tab of every
workspace with the terminals attached to them, the pane ids in the layouts of
the session snapshot, and the runtimes with their descriptors. -/
structure SourceApp where
  panes : List (PaneId × TerminalId)
  layout : List PaneId
  runtimes : FinMap TerminalId Fd
  nodup : (panes.map Prod.fst).Nodup

namespace SourceApp

def paneByTerminal (app : SourceApp) : FinMap TerminalId PaneId :=
  FinMap.ofPairs (app.panes.map Prod.swap)

/-- `handoff_entries`, in the order of the runtimes -/
def handoffEntries (app : SourceApp) : List (TerminalId × PaneId) :=
  app.runtimes.collect fun terminal _ =>
    (app.paneByTerminal.lookup terminal).map fun pane => (terminal, pane)

/-- The descriptors of the entries, in their order -/
def handoffFds (app : SourceApp) : List Fd :=
  app.handoffEntries.filterMap fun entry => app.runtimes.lookup entry.1

end SourceApp

/-- `HANDOFF_VERSION` -/
def handoffVersion : Nat := 1

structure HandoffManifest where
  version : Nat
  expectedVersion : Option (List Char)
  expectedProtocol : Option Nat
  layout : List PaneId
  panes : List PaneId
  deriving DecidableEq

/-- `manifest_for` -/
def manifestFor (app : SourceApp) (expectedProtocol : Option Nat)
  (expectedVersion : Option (List Char)) : HandoffManifest :=
  { version := handoffVersion
    expectedVersion
    expectedProtocol
    layout := app.layout
    panes := app.handoffEntries.map Prod.snd }

/-- The protocol and the version a server was built with. -/
structure Build where
  protocol : Nat
  version : List Char
  deriving DecidableEq

/-- The checks of `receive` on the manifest -/
def HandoffManifest.acceptedBy (manifest : HandoffManifest) (build : Build) : Bool :=
  manifest.version = handoffVersion &&
    (manifest.expectedProtocol.all fun protocol => protocol = build.protocol) &&
    (manifest.expectedVersion.all fun version => version = build.version)

/-- The check of `recv_fds`: as many descriptors as the manifest has panes. -/
def recvFds (expected : Nat) (fds : List Fd) : Option (List Fd) :=
  if fds.length = expected then some fds else none

/-- The imports of `run_handoff_import_server`, paired by position. -/
def collectImports (panes : List PaneId) (fds : List Fd) : FinMap PaneId Fd :=
  FinMap.ofPairs (panes.zip fds)

/-- What the restore does to the imports: each pane of the snapshot takes its
own, and a runtime may fail to start on one. -/
def restorePanes (fails : PaneId → Bool) :
  List PaneId → FinMap PaneId Fd → List (PaneId × Fd) × Nat × FinMap PaneId Fd
  | [], imports => ([], 0, imports)
  | pane :: rest, imports =>
    match imports.lookup pane with
    | none => restorePanes fails rest imports
    | some fd =>
      let (restored, failed, left) := restorePanes fails rest (imports.erase pane)
      if fails pane then (restored, failed + 1, left)
      else ((pane, fd) :: restored, failed, left)

/-- `restore_handoff`: no import may fail and none may be left over. -/
def restoreHandoff (fails : PaneId → Bool) (layout : List PaneId) (imports : FinMap PaneId Fd) :
  Option (List (PaneId × Fd)) :=
  let (restored, failed, left) := restorePanes fails layout imports
  if 0 < failed then none else if left.entries = [] then some restored else none

variable {app : SourceApp} {pane : PaneId} {terminal : TerminalId} {fd : Fd}

theorem SourceApp.attached_unique {other : TerminalId} (hFirst : (pane, terminal) ∈ app.panes)
  (hSecond : (pane, other) ∈ app.panes) :
  terminal = other := by
  have hSame := List.inj_on_of_nodup_map app.nodup hFirst hSecond rfl
  exact (Prod.mk.inj hSame).2

theorem SourceApp.mem_handoffEntries :
  (terminal, pane) ∈ app.handoffEntries ↔
    (∃ fd, app.runtimes.lookup terminal = some fd) ∧
      app.paneByTerminal.lookup terminal = some pane := by
  rw [handoffEntries, FinMap.mem_collect]
  constructor
  · rintro ⟨key, fd, hRuntime, hPane⟩
    obtain ⟨pane', hLookup, hPair⟩ := Option.map_eq_some_iff.1 hPane
    cases hPair
    exact ⟨⟨fd, hRuntime⟩, hLookup⟩
  · rintro ⟨⟨fd, hRuntime⟩, hLookup⟩
    exact ⟨terminal, fd, hRuntime, by rw [hLookup]; rfl⟩

theorem SourceApp.attached_of_lookup (hLookup : app.paneByTerminal.lookup terminal = some pane) :
  (pane, terminal) ∈ app.panes := by
  obtain ⟨⟨pane', terminal'⟩, hMem, hSwap⟩ :=
    List.mem_map.1 (FinMap.mem_of_lookup_ofPairs hLookup)
  cases hSwap
  exact hMem

theorem mem_restorePanes {fails : PaneId → Bool} {layout : List PaneId}
  {imports : FinMap PaneId Fd} (hMem : (pane, fd) ∈ (restorePanes fails layout imports).1) :
  imports.lookup pane = some fd := by
  induction layout generalizing imports with
  | nil => cases hMem
  | cons first rest ih =>
    rw [restorePanes] at hMem
    cases hLookup : imports.lookup first with
    | none =>
      simp only [hLookup] at hMem
      exact ih hMem
    | some fd' =>
      have hRest : (pane, fd) ∈ (restorePanes fails rest (imports.erase first)).1 →
          imports.lookup pane = some fd := by
        intro hMem
        have hErased := ih hMem
        have hOther : pane ≠ first := by
          rintro rfl
          rw [AList.lookup_erase] at hErased
          cases hErased
        rwa [AList.lookup_erase_ne hOther] at hErased
      simp only [hLookup] at hMem
      split at hMem
      case isTrue => exact hRest hMem
      case isFalse =>
        rcases List.mem_cons.1 hMem with hHere | hMem
        · cases hHere
          exact hLookup
        · exact hRest hMem

theorem mem_restoreHandoff {fails : PaneId → Bool} {layout : List PaneId}
  {imports : FinMap PaneId Fd} {restored : List (PaneId × Fd)}
  (hRestore : restoreHandoff fails layout imports = some restored)
  (hMem : (pane, fd) ∈ restored) : imports.lookup pane = some fd := by
  simp only [restoreHandoff] at hRestore
  split at hRestore
  case isTrue => cases hRestore
  case isFalse =>
    split at hRestore
    case isTrue =>
      cases hRestore
      exact mem_restorePanes hMem
    case isFalse => cases hRestore

/-- Lists made from the same entries pair what belongs together. -/
theorem mem_zip_filterMap {α β γ : Type} {entries : List α} {f : α → β} {g : α → Option γ}
  (hAll : ∀ entry ∈ entries, (g entry).isSome) {b : β} {c : γ}
  (hMem : (b, c) ∈ (entries.map f).zip (entries.filterMap g)) :
  ∃ entry ∈ entries, f entry = b ∧ g entry = some c := by
  induction entries with
  | nil => cases hMem
  | cons first rest ih =>
    obtain ⟨value, hValue⟩ := Option.isSome_iff_exists.1 (hAll first List.mem_cons_self)
    rw [List.map_cons, List.filterMap_cons_some hValue, List.zip_cons_cons, List.mem_cons] at hMem
    rcases hMem with hHere | hMem
    · cases hHere
      exact ⟨first, List.mem_cons_self, rfl, hValue⟩
    have hRest : ∀ entry ∈ rest, (g entry).isSome := fun entry hEntry =>
      hAll entry (List.mem_cons_of_mem _ hEntry)
    obtain ⟨entry, hEntry, hSame⟩ := ih hRest hMem
    exact ⟨entry, List.mem_cons_of_mem _ hEntry, hSame⟩

/-- A pane is imported with the descriptor of a terminal that is attached to it
on the source. -/
theorem imported_fd
  (hImport : (collectImports (app.handoffEntries.map Prod.snd) app.handoffFds).lookup pane =
    some fd) :
  ∃ terminal, (terminal, pane) ∈ app.handoffEntries ∧ (pane, terminal) ∈ app.panes ∧
    app.runtimes.lookup terminal = some fd := by
  have hAll : ∀ entry ∈ app.handoffEntries, (app.runtimes.lookup entry.1).isSome := by
    rintro ⟨terminal, pane⟩ hEntry
    obtain ⟨⟨fd, hRuntime⟩, -⟩ := SourceApp.mem_handoffEntries.1 hEntry
    rw [hRuntime]
    rfl
  obtain ⟨⟨terminal, pane'⟩, hEntry, rfl, hFd⟩ :=
    mem_zip_filterMap hAll (FinMap.mem_of_lookup_ofPairs hImport)
  exact ⟨terminal, hEntry,
    SourceApp.attached_of_lookup (SourceApp.mem_handoffEntries.1 hEntry).2, hFd⟩

/-- The lines of the stream, and the descriptor message. -/
inductive Message where
  | token (token : List Char)
  | manifest (manifest : HandoffManifest)
  | validated
  | fds (fds : List Fd)
  | restored
  | ready
  | committed
  | owned
  deriving DecidableEq

/-- Where `perform_live_handoff` stands. -/
inductive SourcePhase where
  | called
  | pausing (remaining : List TerminalId)
  | awaitingPause (terminal : TerminalId) (remaining : List TerminalId)
  | spawning
  | duplicating (remaining : List (TerminalId × PaneId)) (fds : List Fd)
  | accepting (fds : List Fd)
  | readingToken (fds : List Fd)
  | sendingManifest (fds : List Fd)
  | readingValidated (fds : List Fd)
  | sendingFds (fds : List Fd)
  | readingRestored
  | readingReady
  | committing
  | releasing (remaining : List TerminalId)
  | readingOwned
  | succeeded
  | cleaningUp (socketsRemoved : Bool)
  | restoringSockets
  | rollingBack (remaining : List TerminalId)
  | awaitingRollback (terminal : TerminalId) (remaining : List TerminalId)
  | failed
  deriving DecidableEq

structure SourceServer where
  app : SourceApp
  token : List Char
  expectedProtocol : Option Nat
  expectedVersion : Option (List Char)
  handoffInProgress : Bool
  phase : SourcePhase
  paused : List TerminalId
  actors : TerminalId → Pty.System

namespace SourceServer

def goTo (source : SourceServer) (phase : SourcePhase) : SourceServer := { source with phase }

def setActor (source : SourceServer) (terminal : TerminalId) (actor : Pty.System) : SourceServer :=
  { source with actors := Function.update source.actors terminal actor }

def manifest (source : SourceServer) : HandoffManifest :=
  manifestFor source.app source.expectedProtocol source.expectedVersion

end SourceServer

/-- Where `run_handoff_import_server` stands. -/
inductive ImportPhase where
  | connecting
  | sendingToken
  | readingManifest
  | sendingValidated (manifest : HandoffManifest)
  | receivingFds (manifest : HandoffManifest)
  | restoring (manifest : HandoffManifest) (fds : List Fd)
  | sendingRestored
  | waitingForSockets
  | starting
  | sendingReady
  | readingCommitted
  | unpausing (remaining : List PaneId)
  | awaitingUnpause (pane : PaneId) (remaining : List PaneId)
  | sendingOwned
  | owner
  | failed
  deriving DecidableEq

structure ImportServer where
  build : Build
  token : List Char
  phase : ImportPhase
  panes : List (PaneId × Fd)
  actors : PaneId → Pty.System

namespace ImportServer

def goTo (importer : ImportServer) (phase : ImportPhase) : ImportServer := { importer with phase }

def setActor (importer : ImportServer) (pane : PaneId) (actor : Pty.System) : ImportServer :=
  { importer with actors := Function.update importer.actors pane actor }

/-- The import child as it is spawned. -/
def spawned (build : Build) (token : List Char) : ImportServer :=
  { build, token, phase := .connecting, panes := [], actors := fun _ => Pty.System.spawned true }

end ImportServer

/-- Both servers, whether their processes run, and what is on its way. -/
structure System where
  source : SourceServer
  sourceRuns : Bool
  importer : Option ImportServer
  importerRuns : Bool
  connected : Bool
  toImporter : List Message
  toSource : List Message

inductive SendOutcome where
  | delivered
  | lost
  | failed
  deriving DecidableEq

namespace System

def setSource (h : System) (source : SourceServer) : System := { h with source }

def goSource (h : System) (phase : SourcePhase) : System := h.setSource (h.source.goTo phase)

/-- The source reads a line, or times out, or finds the stream closed. -/
def sourceReads (h : System) (arrives : Bool) (expected : Message) (next failure : SourcePhase) :
  Option System :=
  if arrives then
    match h.toSource with
    | [] => none
    | message :: rest =>
      some ({ h with toSource := rest }.goSource (if message = expected then next else failure))
  else some (h.goSource failure)

def sourceSends (h : System) (outcome : SendOutcome) (message : Message)
  (next failure : SourcePhase) : System :=
  match outcome with
  | .delivered => { h with toImporter := h.toImporter ++ [message] }.goSource next
  | .lost => h.goSource next
  | .failed => h.goSource failure

/-- What decides how the source goes on: whether a call outside the handoff
succeeds, whether a line arrives and what becomes of one that is sent. -/
inductive SourceEvent where
  | next
  | attempt (succeeds : Bool)
  | spawn (build : Option Build)
  | read (arrives : Bool)
  | send (outcome : SendOutcome)
  deriving DecidableEq

/-- `perform_live_handoff` -/
def sourceStep (h : System) : SourceEvent → Option System
  | .next =>
    match h.source.phase with
    | .pausing [] => some (h.goSource .spawning)
    | .pausing (terminal :: rest) =>
      match h.source.app.runtimes.lookup terminal with
      | none => some (h.goSource (.pausing rest))
      | some _ =>
        let actor := (h.source.actors terminal).beginHandoff
        some (h.setSource ((h.source.setActor terminal actor).goTo (.awaitingPause terminal rest)))
    | .awaitingPause terminal rest =>
      -- The call has returned once it is no longer among the actor's calls.
      if (h.source.actors terminal).calls ≠ [] then none
      else if (h.source.actors terminal).lastHandoff = some .began then
        some (h.setSource { h.source with
          paused := h.source.paused ++ [terminal], phase := .pausing rest })
      else some (h.goSource (.rollingBack h.source.paused))
    | .duplicating [] fds => some (h.goSource (.accepting fds))
    | .releasing [] => some (h.goSource .readingOwned)
    | .releasing (terminal :: rest) =>
      match h.source.app.paneByTerminal.lookup terminal with
      | none => some (h.goSource (.releasing rest))
      | some _ =>
        let actor := (h.source.actors terminal).closeWith .releaseAfterCommit
        some (h.setSource ((h.source.setActor terminal actor).goTo (.releasing rest)))
    | .rollingBack [] =>
      some (h.setSource { h.source with handoffInProgress := false, phase := .failed })
    | .rollingBack (terminal :: rest) =>
      match h.source.app.runtimes.lookup terminal with
      | none => some (h.goSource (.rollingBack rest))
      | some _ =>
        let actor := (h.source.actors terminal).rollbackHandoff false
        some (h.setSource
          ((h.source.setActor terminal actor).goTo (.awaitingRollback terminal rest)))
    | .awaitingRollback terminal rest =>
      if (h.source.actors terminal).calls ≠ [] then none
      else some (h.goSource (.rollingBack rest))
    | _ => none
  | .attempt succeeds =>
    match h.source.phase with
    | .called =>
      -- `bind_listener`, then the number of panes
      if !succeeds then
        some (h.setSource { h.source with handoffInProgress := false, phase := .failed })
      else if maxFdsPerHandoff < h.source.app.paneByTerminal.entries.length then
        some (h.goSource .failed)
      else
        some (h.setSource { h.source with
          handoffInProgress := true, phase := .pausing h.source.app.paneByTerminal.keys })
    | .duplicating (entry :: rest) fds =>
      match h.source.app.runtimes.lookup entry.1 with
      | none => some (h.goSource (.duplicating rest fds))
      | some fd =>
        if succeeds then some (h.goSource (.duplicating rest (fds ++ [fd])))
        else some (h.goSource (.cleaningUp false))
    | .accepting fds =>
      if !succeeds then some (h.goSource (.cleaningUp false))
      else if h.connected then some (h.goSource (.readingToken fds))
      else none
    | .cleaningUp socketsRemoved =>
      -- The import child is killed and reaped.
      some ({ h with importerRuns := h.importerRuns && !succeeds }.goSource
        (if socketsRemoved then .restoringSockets else .rollingBack h.source.paused))
    | .restoringSockets => some (h.goSource (.rollingBack h.source.paused))
    | _ => none
  | .spawn build =>
    match h.source.phase with
    | .spawning =>
      match build with
      | none => some (h.goSource (.rollingBack h.source.paused))
      | some build =>
        some ({ h with
          importer := some (.spawned build h.source.token), importerRuns := true }.goSource
            (.duplicating h.source.app.handoffEntries []))
    | _ => none
  | .read arrives =>
    match h.source.phase with
    | .readingToken fds =>
      h.sourceReads arrives (.token h.source.token) (.sendingManifest fds) (.cleaningUp false)
    | .readingValidated fds =>
      h.sourceReads arrives .validated (.sendingFds fds) (.cleaningUp false)
    | .readingRestored => h.sourceReads arrives .restored .readingReady (.cleaningUp false)
    | .readingReady => h.sourceReads arrives .ready .committing (.cleaningUp true)
    | .readingOwned => h.sourceReads arrives .owned .succeeded .succeeded
    | _ => none
  | .send outcome =>
    match h.source.phase with
    | .sendingManifest fds =>
      some (h.sourceSends outcome (.manifest h.source.manifest) (.readingValidated fds)
        (.cleaningUp false))
    | .sendingFds fds =>
      if maxFdsPerHandoff < fds.length then some (h.goSource (.cleaningUp false))
      else if fds = [] then some (h.goSource .readingRestored)
      else some (h.sourceSends outcome (.fds fds) .readingRestored (.cleaningUp false))
    | .committing =>
      some (h.sourceSends outcome .committed (.releasing h.source.app.runtimes.keys)
        (.cleaningUp true))
    | _ => none

def setImporter (h : System) (importer : ImportServer) : System :=
  { h with importer := some importer }

/-- The importing server reads a line. -/
def importerReads (h : System) (importer : ImportServer) (arrives : Bool)
  (next : Message → ImportPhase) : Option System :=
  if arrives then
    match h.toImporter with
    | [] => none
    | message :: rest =>
      some ({ h with toImporter := rest }.setImporter (importer.goTo (next message)))
  else some (h.setImporter (importer.goTo .failed))

def importerSends (h : System) (importer : ImportServer) (outcome : SendOutcome)
  (message : Message) (next failure : ImportPhase) : System :=
  match outcome with
  | .delivered => { h with toSource := h.toSource ++ [message] }.setImporter (importer.goTo next)
  | .lost => h.setImporter (importer.goTo next)
  | .failed => h.setImporter (importer.goTo failure)

inductive ImportEvent where
  | next
  | attempt (succeeds : Bool)
  | read (arrives : Bool)
  | send (outcome : SendOutcome)
  | restore (fails : PaneId → Bool)

/-- `run_handoff_import_server` -/
def importerStep (h : System) (importer : ImportServer) : ImportEvent → Option System
  | .attempt succeeds =>
    match importer.phase with
    | .connecting =>
      if succeeds then some ({ h with connected := true }.setImporter (importer.goTo .sendingToken))
      else some (h.setImporter (importer.goTo .failed))
    | .waitingForSockets =>
      some (h.setImporter (importer.goTo (if succeeds then .starting else .failed)))
    | .starting =>
      some (h.setImporter (importer.goTo (if succeeds then .sendingReady else .failed)))
    | _ => none
  | .read arrives =>
    match importer.phase with
    | .readingManifest =>
      h.importerReads importer arrives fun message =>
        match message with
        | .manifest manifest =>
          if manifest.acceptedBy importer.build then .sendingValidated manifest else .failed
        | _ => .failed
    | .receivingFds manifest =>
      -- `recv_fds` reads nothing when no descriptor is expected.
      if manifest.panes = [] then some (h.setImporter (importer.goTo (.restoring manifest [])))
      else
        h.importerReads importer arrives fun message =>
          match message with
          | .fds fds =>
            match recvFds manifest.panes.length fds with
            | some fds => .restoring manifest fds
            | none => .failed
          | _ => .failed
    | .readingCommitted =>
      h.importerReads importer arrives fun message =>
        if message = .committed then .unpausing (importer.panes.map Prod.fst) else .failed
    | _ => none
  | .send outcome =>
    match importer.phase with
    | .sendingToken =>
      some (h.importerSends importer outcome (.token importer.token) .readingManifest .failed)
    | .sendingValidated manifest =>
      some (h.importerSends importer outcome .validated (.receivingFds manifest) .failed)
    | .sendingRestored =>
      some (h.importerSends importer outcome .restored .waitingForSockets .failed)
    | .sendingReady =>
      some (h.importerSends importer outcome .ready .readingCommitted .failed)
    | .sendingOwned => some (h.importerSends importer outcome .owned .owner .owner)
    | _ => none
  | .restore fails =>
    match importer.phase with
    | .restoring manifest fds =>
      match restoreHandoff fails manifest.layout (collectImports manifest.panes fds) with
      | some panes => some (h.setImporter { importer with panes, phase := .sendingRestored })
      | none => some (h.setImporter (importer.goTo .failed))
    | _ => none
  | .next =>
    match importer.phase with
    | .unpausing [] => some (h.setImporter (importer.goTo .sendingOwned))
    | .unpausing (pane :: rest) =>
      let actor := (importer.actors pane).rollbackHandoff false
      some (h.setImporter ((importer.setActor pane actor).goTo (.awaitingUnpause pane rest)))
    | .awaitingUnpause pane rest =>
      if (importer.actors pane).calls ≠ [] then none
      else some (h.setImporter (importer.goTo (.unpausing rest)))
    | _ => none

end System

inductive Label where
  | source (event : System.SourceEvent)
  | importer (event : System.ImportEvent)
  | sourcePane (terminal : TerminalId) (label : Pty.Label)
  | importerPane (pane : PaneId) (label : Pty.Label)
  | sourceStops
  | importerStops

/-- What can happen at a pane's actor beside the commands of the server: traffic,
and the end of the call the server waits in. -/
def isPaneLabel : Pty.Label → Bool
  | .answered _ => true
  | .timesOut _ => true
  | label => label.isTraffic

def step (h : System) : Label → Option System
  | .source event => if h.sourceRuns then h.sourceStep event else none
  | .importer event =>
    if h.importerRuns then h.importer.bind fun importer => h.importerStep importer event else none
  | .sourcePane terminal label =>
    if h.sourceRuns && isPaneLabel label then
      (Pty.step (h.source.actors terminal) label).map fun actor =>
        h.setSource (h.source.setActor terminal actor)
    else none
  | .importerPane pane label =>
    if h.importerRuns && isPaneLabel label then
      h.importer.bind fun importer =>
        (Pty.step (importer.actors pane) label).map fun actor =>
          h.setImporter (importer.setActor pane actor)
    else none
  | .sourceStops => some { h with sourceRuns := false }
  | .importerStops => some { h with importerRuns := false }

end Handoff
