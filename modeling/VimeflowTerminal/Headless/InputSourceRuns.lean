import VimeflowTerminal.Headless.EventSteps

/-! Whatever events come and whatever messages fail, the input source for commands is with the
client that is recorded; and it is with the client in the foreground, as long as nothing that the
application does on its own takes away the reason for it. -/

namespace Headless

open ForegroundEffect (openEnvironment startedServer)
open Lease Transition

namespace HeadlessServer

variable {env : Environment} {s : HeadlessServer} {clientId : ClientId}

theorem lookup_updateClient (update : ClientConnection → ClientConnection) (other : ClientId) :
  (s.updateClient clientId update).clients.lookup other =
    (s.clients.lookup other).map fun client =>
      if other = clientId then update client else client :=
  FinMap.lookup_mapValues _ _ _

theorem mem_updateClient (update : ClientConnection → ClientConnection) (other : ClientId) :
  other ∈ (s.updateClient clientId update).clients ↔ other ∈ s.clients := by
  rw [← AList.lookup_isSome, ← AList.lookup_isSome, lookup_updateClient, Option.isSome_map]

theorem hasWriter_updateClient {update : ClientConnection → ClientConnection}
  (hWriter : ∀ client, (update client).writer = client.writer) (other : ClientId) :
  (s.updateClient clientId update).HasWriter other ↔ s.HasWriter other := by
  unfold HasWriter
  rw [lookup_updateClient]
  cases s.clients.lookup other with
  | none => simp
  | some client =>
    by_cases hSame : other = clientId
    · simp [hSame, hWriter]
    · simp [hSame]

theorem detachWriter_eq {client : ClientConnection}
  (hClient : s.clients.lookup clientId = some client) :
  s.detachWriter clientId =
    { s.updateClient clientId fun client => { client with writer := false } with
      notes := s.notes ++ [.detached clientId] } := by
  unfold detachWriter
  rw [hClient]
  rfl

namespace Owned

theorem similar {t : HeadlessServer} (hSimilar : Similar s t) (hOwned : Owned s) : Owned t := by
  rw [Owned, hSimilar.owner]
  exact hOwned.congr hSimilar.clients hSimilar.leases hSimilar.connected

theorem updateClient {update : ClientConnection → ClientConnection}
  (hWriter : ∀ client, (update client).writer = client.writer) (hOwned : Owned s) :
  Owned (s.updateClient clientId update) where
  exclusive := hOwned.exclusive
  held other hHolds := by
    rw [hasWriter_updateClient hWriter]
    exact hOwned.held other hHolds
  live other hHas := hOwned.live other ((hasWriter_updateClient hWriter other).1 hHas)
  known other hKnown := by
    rw [mem_updateClient] at hKnown
    exact hOwned.known other hKnown

/-- A client that is detached has given up the input source. -/
theorem detachWriter (hOwned : Owned s) (clientId : ClientId) :
  Owned (s.detachWriter clientId) := by
  cases hClient : s.clients.lookup clientId with
  | none =>
    unfold HeadlessServer.detachWriter
    rw [hClient]
    exact hOwned
  | some client =>
    have hMember : clientId ∈ s.clients :=
      AList.lookup_isSome.1 (Option.isSome_of_eq_some hClient)
    have hDetached := detachWriter_eq hClient
    have hGone := @Sound.gone s _ clientId (s.detachWriter clientId) hOwned
      (@leases_of_notes s _ (.detached clientId) (by rw [hDetached]))
      (hOwned.known clientId (.inl hMember)) (by rw [hDetached]; rfl)
    rw [hDetached] at hGone ⊢
    refine (hGone ?_ ?_).1
    · intro other hOther
      exact (mem_updateClient _ other).1 hOther
    intro other
    unfold HasWriter
    rw [lookup_updateClient]
    by_cases hSame : other = clientId
    · subst hSame
      simp
    cases s.clients.lookup other with
    | none => simp
    | some found => simp [hSame]

/-- A client that connects has been told nothing yet. -/
theorem join (hOwned : Owned s) (hFresh : clientId ∉ s.connected) (client : ClientConnection) :
  Owned { s with
    clients := s.clients.insert clientId client, connected := clientId :: s.connected } := by
  have hSame : ∀ other, other ≠ clientId →
      (s.clients.insert clientId client).lookup other = s.clients.lookup other :=
    fun other hNe => AList.lookup_insert_ne hNe
  constructor
  · exact hOwned.exclusive
  · intro other hHolds
    obtain ⟨hOwner, found, hLookup, hWriter⟩ := hOwned.held other hHolds
    refine ⟨hOwner, found, ?_, hWriter⟩
    rw [← hLookup]
    apply hSame
    rintro rfl
    exact hFresh (hOwned.known other (.inl (AList.lookup_isSome.1
      (Option.isSome_of_eq_some hLookup))))
  · rintro other ⟨found, hLookup, hWriter⟩ hGone
    have hKnown := hOwned.known other (.inr hGone)
    have hNe : other ≠ clientId := by
      rintro rfl
      exact hFresh hKnown
    exact hOwned.live other ⟨found, (hSame other hNe).symm.trans hLookup, hWriter⟩ hGone
  · intro other hKnown
    obtain hMember | hGone := hKnown
    · obtain rfl | hMember := (AList.mem_insert _).1 hMember
      · exact List.mem_cons_self
      · exact List.mem_cons_of_mem _ (hOwned.known other (.inl hMember))
    · exact List.mem_cons_of_mem _ (hOwned.known other (.inr hGone))

theorem lax (hFits : env.FitsPrefixInputSource) : Lax env Owned where
  similar _ _ := similar
  updated _ _ _ hWriter := updateClient hWriter
  detached _ clientId hOwned := hOwned.detachWriter clientId
  removed _ clientId hOwned :=
    removeClientWith (fun _ => syncDesiredPrefixInputSource_owned hFits)
      (forgotten_owned hOwned clientId)
  resized _ := resizeSharedRuntimeToEffectiveSize

theorem discipline (hFits : env.FitsPrefixInputSource) : Discipline env Owned Owned where
  loose := lax hFits
  settled := lax hFits
  loosen _ hOwned := hOwned
  changed _ _ hOwned := hOwned.congr rfl rfl rfl
  joined _ _ client hFresh hOwned := hOwned.join hFresh client
  synced _ := syncDesiredPrefixInputSource_owned hFits
  focused _ _ hOwned := by
    apply syncDesiredPrefixInputSource_owned hFits
    apply syncForegroundClientStateInner
    exact hOwned.congr rfl rfl rfl

end Owned

/-- The same clients, of which the same one is in the foreground. -/
structure SameClients (s t : HeadlessServer) : Prop where
  members : ∀ clientId, clientId ∈ t.clients ↔ clientId ∈ s.clients
  foreground : t.foregroundClientId = s.foregroundClientId
  resizes : t.resizes = s.resizes
  owner : t.prefixInputSourceClientId = s.prefixInputSourceClientId

variable {t : HeadlessServer} {events : List LoopEvent}

theorem Registered.congr (hSame : SameClients s t) (hRegistered : Registered s) :
  Registered t := by
  intro clientId hForeground
  rw [hSame.foreground] at hForeground
  rw [hSame.members]
  exact hRegistered clientId hForeground

theorem Calm.congr (hSame : SameClients s t) (hCalm : Calm env s) : Calm env t where
  registered := hCalm.registered.congr hSame
  closes := by
    rw [hSame.resizes]
    exact hCalm.closes

theorem Aligned.congr (hSame : SameClients s t)
  (hActive : t.prefixInputSourceActive = s.prefixInputSourceActive) (hAligned : Aligned env s) :
  Aligned env t where
  toCalm := hAligned.toCalm.congr hSame
  target := by
    unfold prefixInputSourceTarget
    rw [hSame.owner, hActive, hSame.foreground]
    exact hAligned.target

theorem Similar.sameClients (hSimilar : Similar s t) : SameClients s t where
  members clientId := by rw [hSimilar.clients]
  foreground := hSimilar.foreground
  resizes := hSimilar.resizes
  owner := hSimilar.owner

theorem sameClients_updateClient (update : ClientConnection → ClientConnection) :
  SameClients s (s.updateClient clientId update) :=
  ⟨mem_updateClient update, rfl, rfl, rfl⟩

theorem sameClients_detachWriter : SameClients s (s.detachWriter clientId) ∧
  (s.detachWriter clientId).prefixInputSourceActive = s.prefixInputSourceActive := by
  unfold detachWriter
  split
  · exact ⟨⟨fun _ => Iff.rfl, rfl, rfl, rfl⟩, rfl⟩
  · exact ⟨⟨mem_updateClient _, rfl, rfl, rfl⟩, rfl⟩

theorem registered_lax : Lax env Registered where
  similar _ _ hSimilar := Registered.congr hSimilar.sameClients
  updated _ _ update _ := Registered.congr (sameClients_updateClient update)
  detached _ _ := Registered.congr sameClients_detachWriter.1
  removed _ _ :=
    (@kept_registered env).removeClientWith (fun _ => kept_registered.syncRounds _) _
  resized _ := Registered.resized

/-- The client in the foreground is connected, whatever changes of size close. -/
theorem registered_discipline : Discipline env Registered Registered where
  loose := registered_lax
  settled := registered_lax
  loosen _ hRegistered := hRegistered
  changed _ _ hRegistered := hRegistered
  joined _ clientId _ _ hRegistered := by
    intro other hForeground
    exact (AList.mem_insert _).2 (.inr (hRegistered other hForeground))
  synced _ := kept_registered.syncRounds _
  focused _ _ _ := kept_registered.syncRounds _ (syncForegroundClientStateInner_registered _)

theorem syncForegroundClientState_aligned (hFits : env.FitsPrefixInputSource)
  (hCloses : env.ClosesNothingFrom s.resizes) : Aligned env (syncForegroundClientState env s) :=
  syncDesiredPrefixInputSource_aligned hFits (Calm.syncForegroundClientStateInner hCloses)

theorem removeClient_kept {R : HeadlessServer → Prop} (hFits : env.FitsPrefixInputSource)
  (hCloses : env.ClosesNothingFrom s.resizes) (hAligned : ∀ t, Aligned env t → R t)
  (hBackground : s.foregroundClientId ≠ some clientId → R (s.forgetClient clientId)) :
  R (s.removeClient env clientId).1 := by
  unfold removeClient removeClientWith
  split
  case isTrue =>
    apply hAligned
    apply syncForegroundClientState_aligned hFits
    rw [resizes_forgetClient]
    exact hCloses
  case isFalse hForeground => exact hBackground hForeground

theorem Calm.forgetClient (hForeground : s.foregroundClientId ≠ some clientId)
  (hCalm : Calm env s) : Calm env (s.forgetClient clientId) where
  registered := hCalm.registered.forgetClient hForeground
  closes := by
    rw [resizes_forgetClient]
    exact hCalm.closes

theorem Aligned.forgetClient (hForeground : s.foregroundClientId ≠ some clientId)
  (hAligned : Aligned env s) : Aligned env (s.forgetClient clientId) where
  toCalm := hAligned.toCalm.forgetClient hForeground
  target := by
    rw [prefixInputSourceClientId_forgetClient, hAligned.target]
    unfold prefixInputSourceTarget prefixInputSourceActive
    rw [forgetClient_foregroundClientId, app_forgetClient]

theorem Aligned.discipline (hFits : env.FitsPrefixInputSource) :
  Discipline env (Calm env) (Aligned env) where
  loose := {
    similar := fun _ _ hSimilar => Calm.congr hSimilar.sameClients
    updated := fun _ _ update _ => Calm.congr (sameClients_updateClient update)
    detached := fun _ _ => Calm.congr sameClients_detachWriter.1
    removed := fun _ _ hCalm => removeClient_kept hFits hCalm.closes
      (fun _ hAligned => hAligned.toCalm) fun hForeground => hCalm.forgetClient hForeground
    resized := fun _ hCalm =>
      ⟨hCalm.registered.resized, closesNothingFrom_resized hCalm.closes⟩ }
  settled := {
    similar := fun _ _ hSimilar => Aligned.congr hSimilar.sameClients hSimilar.active
    updated := fun _ _ update _ => Aligned.congr (sameClients_updateClient update) rfl
    detached := fun _ _ => Aligned.congr sameClients_detachWriter.1 sameClients_detachWriter.2
    removed := fun _ _ hAligned => removeClient_kept hFits hAligned.closes (fun _ h => h)
      fun hForeground => hAligned.forgetClient hForeground
    resized := fun _ => resizeSharedRuntimeToEffectiveSize }
  loosen _ hAligned := hAligned.toCalm
  changed _ _ hCalm := ⟨hCalm.registered, hCalm.closes⟩
  joined s _ _ hFresh hCalm :=
    ⟨(@registered_discipline env).joined s _ _ hFresh hCalm.registered, hCalm.closes⟩
  synced _ := syncDesiredPrefixInputSource_aligned hFits
  focused _ _ hCalm := syncForegroundClientState_aligned hFits hCalm.closes

/-- A server that has just started, with whatever settings and mode its application has. -/
def started (app : ServerApp) : HeadlessServer := { startedServer with app }

/-- The server handles one event after the other; identities of clients are not used again. -/
def Step (env : Environment) : HeadlessServer → LoopEvent → HeadlessServer → Prop :=
  restrict (ofFunction (handleLoopEvent env)) Fresh

instance : ∀ (s : HeadlessServer) (ev : LoopEvent), Decidable (s.Fresh ev)
  | s, .server (.clientConnected clientId _) => inferInstanceAs (Decidable (clientId ∉ s.connected))
  | _, .server (.clientAttachTerminal ..) | _, .server (.clientObserveTerminal ..)
  | _, .server (.clientControlTerminal ..) | _, .server (.clientInput ..)
  | _, .server (.clientInputEvents ..) | _, .server (.clientPasteRejected ..)
  | _, .server (.clientClipboardImage ..) | _, .server (.clientResize _)
  | _, .server (.clientDetach _) | _, .server (.clientDisconnected _)
  | _, .internal _ | _, .api _ | _, .settings _ | _, .task _ | _, .streamed _
  | _, .reloadClientConfig | _, .shutdown => isTrue trivial

/-- What the client was told last about its input source. -/
def LastTold (s : HeadlessServer) (clientId : ClientId) (active : Bool) : Prop :=
  ∃ before after, s.notes = before ++ .sent clientId (.prefixInputSource active) :: after ∧
    ∀ other, .sent clientId (.prefixInputSource other) ∉ after

/-- Before another client is told to switch, the one that has switched is told to restore its
input source, is detached or is removed. -/
def HandsOver (s : HeadlessServer) : Prop :=
  ∀ before between after first second,
    s.notes = before ++ .sent first (.prefixInputSource true) :: between ++
      .sent second (.prefixInputSource true) :: after →
    first ≠ second →
      .sent first (.prefixInputSource false) ∈ between ∨ .detached first ∈ between ∨
        .removed first ∈ between

theorem started_owned (app : ServerApp) : Owned (started app) where
  exclusive := exclusive_nil
  held _ hHolds := absurd hHolds not_holds_nil
  live _ _ hGone := by cases hGone
  known _ hKnown := by
    obtain hMember | hGone := hKnown
    · exact absurd hMember (AList.notMem_empty _)
    · cases hGone

theorem started_registered (app : ServerApp) : Registered (started app) := by
  intro clientId hForeground
  cases hForeground

theorem started_aligned (hCloses : env.ClosesNothing) (app : ServerApp) :
  Aligned env (started app) where
  registered := started_registered app
  closes number _ := hCloses number
  target := by
    unfold prefixInputSourceTarget
    split <;> rfl

theorem run_owned (hFits : env.FitsPrefixInputSource) (run : Run (Step env) s events t)
  (hOwned : Owned s) : Owned t := by
  refine run.preserves hOwned ?_
  rintro u ev _ hOwned ⟨rfl, hFresh⟩
  apply (Owned.discipline hFits).handleLoopEvent hFresh hOwned
  intro change _
  exact hOwned.congr rfl rfl rfl

theorem run_registered (run : Run (Step env) s events t) (hRegistered : Registered s) :
  Registered t := by
  refine run.preserves hRegistered ?_
  rintro u ev _ hRegistered ⟨rfl, hFresh⟩
  apply registered_discipline.handleLoopEvent hFresh hRegistered
  intro change _
  exact hRegistered

theorem run_aligned (hFits : env.FitsPrefixInputSource)
  (run : Run (restrict (Step env) Quiet) s events t) (hAligned : Aligned env s) :
  Aligned env t := by
  refine run.preserves hAligned ?_
  rintro u ev _ hAligned ⟨⟨rfl, hFresh⟩, hQuiet⟩
  apply (Aligned.discipline hFits).handleLoopEvent hFresh hAligned
  rintro change rfl
  exact @Aligned.congr env u _ ⟨fun _ => Iff.rfl, rfl, rfl, rfl⟩ hQuiet hAligned

theorem lease_eq_revoke {note : ClientNote} (hLease : note.lease = some (.revoke clientId)) :
  note = .sent clientId (.prefixInputSource false) := by
  unfold ClientNote.lease at hLease
  split at hLease <;> cases hLease
  rfl

theorem lease_eq_gone {note : ClientNote} (hLease : note.lease = some (.gone clientId)) :
  note = .detached clientId ∨ note = .removed clientId := by
  unfold ClientNote.lease at hLease
  split at hLease <;> cases hLease
  · exact .inl rfl
  · exact .inr rfl

/-- What a client with a channel was told last is that it has the input source. -/
theorem LastTold.holds (hTold : s.LastTold clientId true)
  (hLive : LeaseEvent.gone clientId ∉ s.leases) : Holds s.leases clientId := by
  obtain ⟨before, after, hNotes, hLast⟩ := hTold
  have hLeases : s.leases = before.filterMap ClientNote.lease ++
      .grant clientId :: after.filterMap ClientNote.lease := by
    unfold leases
    rw [hNotes, List.filterMap_append]
    rfl
  refine ⟨_, _, hLeases, ?_⟩
  rintro event hMem (rfl | rfl)
  · obtain ⟨note, hNote, hLease⟩ := List.mem_filterMap.1 hMem
    rw [lease_eq_revoke hLease] at hNote
    exact hLast false hNote
  · apply hLive
    rw [hLeases]
    exact List.mem_append_right _ (List.mem_cons_of_mem _ hMem)

theorem Owned.handsOver (hOwned : Owned s) : s.HandsOver := by
  intro before between after first second hNotes hNe
  have hLeases : s.leases = before.filterMap ClientNote.lease ++
      .grant first :: between.filterMap ClientNote.lease ++
        .grant second :: after.filterMap ClientNote.lease := by
    unfold leases
    rw [hNotes, List.filterMap_append, List.filterMap_append]
    rfl
  obtain ⟨event, hMem, hEnds⟩ := hOwned.exclusive.ends_between hNe hLeases
  obtain ⟨note, hNote, hLease⟩ := List.mem_filterMap.1 hMem
  obtain rfl | rfl := hEnds
  · rw [lease_eq_revoke hLease] at hNote
    exact .inl hNote
  · obtain rfl | rfl := lease_eq_gone hLease
    · exact .inr (.inl hNote)
    · exact .inr (.inr hNote)

/-- The settings and the mode of an application that wants an input source for commands. -/
def commandApp : ServerApp :=
  { startedServer.app with
    mode := .navigate, switchAsciiInputSourceInPrefix := true }

def connect (clientId : ClientId) : LoopEvent := .server (.clientConnected clientId false)

/-- Input that asks for the client to be detached. -/
def detachInput : ClientInput where
  interaction := true
  outerTerminalFocus := none
  themeChanged := false
  routed app := { app with detachRequested := true }
  reloaded := none

def afterEvents (env : Environment) (app : ServerApp) (events : List LoopEvent) :
  HeadlessServer :=
  events.foldl (handleLoopEvent env) (started app)

theorem run_afterEvents {app : ServerApp}
  (hFresh : AllowedAlong (handleLoopEvent env) Fresh (started app) events) :
  Run (Step env) (started app) events (afterEvents env app events) :=
  run_of_allowedAlong hFresh

/-- A task that leaves the mode in which an input source is wanted. -/
def leaveMode : LoopEvent := .task fun app => { app with mode := .terminal }

/-- An environment in which the second change of size closes the island panel. -/
def narrowingEnvironment : Environment :=
  { openEnvironment with closesIslandPanel := fun number => number = 1 }

end HeadlessServer

end Headless
