import VimeflowTerminal.Data.FinMap
import VimeflowTerminal.Detect.Agent
import VimeflowTerminal.Transition.Run

/-! Titles are looked up by a worker and applied by the app. The app hands the worker
what it knows of the panes, one look-up at a time, and the records of the names
it has given, which the worker keeps on disk. In between the user renames panes
and agents come and go. -/

namespace TitleSync

open Detect Transition

structure AgentSession where
  agent : Option (List Char)
  kind : Option (List Char)
  value : Option (List Char)
  deriving DecidableEq

/-- What is known of a pane. The directories and processes from which a title is
looked up are left to the look-up. -/
structure PaneInput where
  paneId : List Char
  agent : Option (List Char)
  agentSession : Option AgentSession
  label : Option (List Char)
  deriving DecidableEq

/-- The record that a title was given by title sync. -/
structure Ownership where
  session : Option (List Char)
  title : List Char
  deriving DecidableEq

inductive RenameDecision where
  | clear
  | manual
  | noop
  | rename
  deriving DecidableEq

def agentIdentity (pane : PaneInput) : Option (List Char) :=
  pane.agent.or (pane.agentSession.bind AgentSession.agent)

def hasAgentIdentity (pane : PaneInput) : Bool := (agentIdentity pane).isSome

def sessionKey (pane : PaneInput) : Option (List Char) := do
  let session ← pane.agentSession
  let value ← session.value
  let agent ← pane.agent.or session.agent
  some (agent ++ ':' :: session.kind.getD [] ++ ':' :: value)

/-- `value.split_whitespace()`. -/
def splitWhitespace (text : List Char) : List (List Char) :=
  (text.splitOnP isWhitespace).filter (· ≠ [])

/-- The longest beginning of at most so many bytes. -/
def truncateBytes : Nat → List Char → List Char
  | _, [] => []
  | bytes, ch :: rest =>
    if ch.utf8Size ≤ bytes then ch :: truncateBytes (bytes - ch.utf8Size) rest else []

def trimEnd (text : List Char) : List Char := (text.reverse.dropWhile isWhitespace).reverse

/-- A title on one line, without control characters. Nothing is left of a title
that has only such characters. -/
def sanitizeTitle (raw : Option (List Char)) (maxBytes : Nat) : Option (List Char) := do
  let raw ← raw
  let spaced := raw.map fun ch => if ch.toNat ≤ 0x1f ∨ ch.toNat = 0x7f then ' ' else ch
  let value := [' '].intercalate (splitWhitespace spaced)
  if value.isEmpty then none
  else
    let value := trimEnd (truncateBytes maxBytes value)
    if value.isEmpty then none else some value

def renameDecision (pane : PaneInput) (desiredTitle : Option (List Char))
  (previous : Option Ownership) : RenameDecision :=
  let current := sanitizeTitle pane.label 200
  if current.isSome ∧ previous.map Ownership.title ≠ current then .manual
  else if desiredTitle.isNone ∧ current.isSome ∧ previous.map Ownership.title = current ∧
      previous.bind Ownership.session ≠ sessionKey pane then .clear
  else if desiredTitle.isNone ∨ desiredTitle = current then .noop
  else .rename

theorem renameDecision_manual {pane : PaneInput} {previous : Option Ownership}
  {current : List Char} (hCurrent : sanitizeTitle pane.label 200 = some current)
  (hOther : previous.map Ownership.title ≠ some current) (desiredTitle : Option (List Char)) :
  renameDecision pane desiredTitle previous = .manual := by
  unfold renameDecision
  rw [hCurrent]
  exact if_pos ⟨rfl, hOther⟩

structure ResolvedPane where
  paneId : List Char
  expectedSession : Option (List Char)
  expectedAgent : Option (List Char)
  expectedLabel : Option (List Char)
  hadAgent : Bool
  desiredTitle : Option (List Char)
  previous : Option Ownership
  deriving DecidableEq

structure OwnershipMutation where
  paneId : List Char
  state : Option Ownership
  deriving DecidableEq

structure Pane where
  agent : Option (List Char)
  agentSession : Option AgentSession
  manualLabel : Option (List Char)
  deriving DecidableEq

/-- The panes under their public ids. -/
structure App where
  panes : FinMap (List Char) Pane
  titleSyncGeneration : UInt64

namespace App

def paneInput (paneId : List Char) (pane : Pane) : PaneInput where
  paneId
  agent := pane.agent
  agentSession := pane.agentSession
  label := pane.manualLabel

def titleSyncInput (app : App) (paneId : List Char) : Option PaneInput :=
  (app.panes.lookup paneId).map (paneInput paneId)

def titleSyncInputs (app : App) : List PaneInput :=
  app.panes.collect fun paneId pane => some (paneInput paneId pane)

def labelOf (app : App) (paneId : List Char) : Option (List Char) :=
  (app.panes.lookup paneId).bind Pane.manualLabel

def markTitleSyncDirty (app : App) : App :=
  { app with titleSyncGeneration := app.titleSyncGeneration + 1 }

/-- A name without the spaces around it, if anything is left. -/
def trimmedLabel (label : Option (List Char)) : Option (List Char) := do
  let label := trimChars (← label)
  if label.isEmpty then none else some label

def mutatePaneLabel (app : App) (paneId : List Char) (label : Option (List Char)) : Option App := do
  let pane ← app.panes.lookup paneId
  let label := trimmedLabel label
  if pane.manualLabel = label then some app
  else
    some { app with panes := app.panes.insert paneId { pane with manualLabel := label } }.markTitleSyncDirty

/-- `let _ = self.mutate_pane_label(..)`. -/
def relabel (app : App) (paneId : List Char) (label : Option (List Char)) : App :=
  (app.mutatePaneLabel paneId label).getD app

/-- Apply what was looked up for one pane, unless the pane has changed since. -/
def applyResolved (app : App) (resolved : ResolvedPane) : App × List OwnershipMutation :=
  let paneId := resolved.paneId
  match app.titleSyncInput paneId with
  | none => (app, [])
  | some current =>
    if sessionKey current ≠ resolved.expectedSession ∨
        agentIdentity current ≠ resolved.expectedAgent ∨
        sanitizeTitle current.label 200 ≠ resolved.expectedLabel then (app, [])
    else if !resolved.hadAgent || !hasAgentIdentity current then
      let app :=
        if resolved.previous.map Ownership.title = sanitizeTitle current.label 200 then
          app.relabel paneId none
        else app
      (app, [{ paneId, state := none }])
    else
      match renameDecision current resolved.desiredTitle resolved.previous with
      | .manual => (app, [{ paneId, state := none }])
      | .clear => (app.relabel paneId none, [{ paneId, state := none }])
      | .rename =>
        match resolved.desiredTitle with
        | none => (app, [])
        | some title =>
          match app.mutatePaneLabel paneId (some title) with
          | none => (app, [])
          | some app =>
            (app, [{ paneId, state := some { session := sessionKey current, title } }])
      | .noop =>
        match resolved.desiredTitle, resolved.previous with
        | some title, some previous =>
          if previous.title = current.label.getD [] then
            (app, [{ paneId, state := some { session := sessionKey current, title } }])
          else (app, [])
        | _, _ => (app, [])

def applyTitleSyncResults (app : App) : List ResolvedPane → App × List OwnershipMutation
  | [] => (app, [])
  | resolved :: panes =>
    let (app, mutations) := app.applyResolved resolved
    let (app, more) := app.applyTitleSyncResults panes
    (app, mutations ++ more)

end App

/-- A record with whether writing it will succeed. -/
structure Write where
  mutation : OwnershipMutation
  succeeds : Bool

inductive Work where
  | resolve (generation : UInt64) (panes : List PaneInput)
  | persist (writes : List Write)

/-- The records on disk. -/
abbrev Disk := FinMap (List Char) Ownership

def Write.apply (disk : Disk) (write : Write) : Disk :=
  if write.succeeds then
    match write.mutation.state with
    | some state => disk.insert write.mutation.paneId state
    | none => disk.erase write.mutation.paneId
  else disk

/-- Look a pane up, with the titles that the agents' own files have now. -/
def resolvePane (disk : Disk) (titles : PaneInput → Option (List Char)) (pane : PaneInput) :
  ResolvedPane where
  paneId := pane.paneId
  expectedSession := sessionKey pane
  expectedAgent := agentIdentity pane
  expectedLabel := sanitizeTitle pane.label 200
  hadAgent := hasAgentIdentity pane
  desiredTitle := if hasAgentIdentity pane then titles pane else none
  previous := disk.lookup pane.paneId

structure Engine where
  interval : Nat
  nextTick : Nat
  observedGeneration : UInt64
  inFlight : Bool
  pending : Bool

/-- The app, the engine, the worker's queue, the disk and the look-ups that are
done but not applied. -/
structure System where
  app : App
  engine : Engine
  queue : List Work
  disk : Disk
  events : List (UInt64 × List ResolvedPane)

namespace System

def startResolution (s : System) (generation : UInt64) : System :=
  { s with
    queue := s.queue ++ [.resolve generation s.app.titleSyncInputs]
    engine := { s.engine with inFlight := true, pending := false } }

def poll (s : System) (now : Nat) : System :=
  let generation := s.app.titleSyncGeneration
  if now < s.engine.nextTick ∧ generation = s.engine.observedGeneration then s
  else
    let s := { s with
      engine := { s.engine with
        nextTick := now + s.engine.interval, observedGeneration := generation } }
    if s.engine.inFlight then { s with engine := { s.engine with pending := true } }
    else s.startResolution generation

def complete (s : System) (generation : UInt64) (writes : List Write) : System :=
  let s := { s with
    queue := s.queue ++ [.persist writes], engine := { s.engine with inFlight := false } }
  let current := s.app.titleSyncGeneration
  if s.engine.pending ∨ current ≠ generation then
    { s with engine := { s.engine with observedGeneration := current } }.startResolution current
  else s

/-- The worker takes its next work. -/
def work (s : System) (titles : PaneInput → Option (List Char)) : Option System :=
  match s.queue with
  | [] => none
  | .resolve generation panes :: queue =>
    some { s with
      queue, events := s.events ++ [(generation, panes.map (resolvePane s.disk titles))] }
  | .persist writes :: queue => some { s with queue, disk := writes.foldl Write.apply s.disk }

/-- The app applies the next look-up that is done. -/
def handleResolved (s : System) (succeeds : Nat → Bool) : Option System :=
  match s.events with
  | [] => none
  | (generation, panes) :: events =>
    let (app, mutations) := s.app.applyTitleSyncResults panes
    let writes := mutations.zipIdx.map fun (mutation, index) =>
      { mutation, succeeds := succeeds index }
    some ({ s with app, events }.complete generation writes)

end System

inductive Label where
  /-- The user names a pane, or clears its name. -/
  | rename (paneId : List Char) (label : Option (List Char))
  /-- An agent appears or exits, or its session changes. -/
  | agentChanged (paneId : List Char) (agent : Option (List Char))
      (agentSession : Option AgentSession) (dirty : Bool)
  | poll (now : Nat)
  | work (titles : PaneInput → Option (List Char))
  | resolved (succeeds : Nat → Bool)

def agentChanged (app : App) (paneId : List Char) (agent : Option (List Char))
  (agentSession : Option AgentSession) (dirty : Bool) : Option App :=
  (app.panes.lookup paneId).map fun pane =>
    let app := { app with panes := app.panes.insert paneId { pane with agent, agentSession } }
    if dirty then app.markTitleSyncDirty else app

def step (s : System) : Label → Option System
  | .rename paneId label => (s.app.mutatePaneLabel paneId label).map fun app => { s with app }
  | .agentChanged paneId agent agentSession dirty =>
    (agentChanged s.app paneId agent agentSession dirty).map fun app => { s with app }
  | .poll now => some (s.poll now)
  | .work titles => s.work titles
  | .resolved succeeds => s.handleResolved succeeds

/-- An engine that has done nothing yet. -/
structure Started (s : System) : Prop where
  inFlight : s.engine.inFlight = false
  queue : s.queue = []
  events : s.events = []

end TitleSync
