import VimeflowTerminal.Data.Lease
import VimeflowTerminal.Headless.Clients

/-! One client at a time is told to switch to an input source for commands. Whatever messages fail
on the way, the client that is told last is the one that the server has recorded. -/

namespace Headless

open Lease

/-! ## The lease of the input source -/

/-- A client that is detached or removed cannot be told to restore its input source any more. -/
def ClientNote.lease : ClientNote → Option (LeaseEvent ClientId)
  | .sent clientId (.prefixInputSource true) => some (.grant clientId)
  | .sent clientId (.prefixInputSource false) => some (.revoke clientId)
  | .sent _ _ => none
  | .detached clientId | .removed clientId => some (.gone clientId)

def ServerMessage.isPrefixInputSource : ServerMessage → Bool
  | .prefixInputSource _ => true
  | _ => false

theorem ClientNote.lease_sent {clientId : ClientId} {message : ServerMessage}
  (hOther : message.isPrefixInputSource = false) :
  (ClientNote.sent clientId message).lease = none := by
  cases message with
  | prefixInputSource active => cases hOther
  | clipboard | notify | windowTitle | reloadSoundConfig | serverShutdown => rfl

/-- Both messages about the input source fit in a frame. -/
def Environment.FitsPrefixInputSource (env : Environment) : Prop :=
  ∀ active, env.fits (.prefixInputSource active) = true

/-- No change of size closes the island panel or leaves the mode for agents. -/
def Environment.ClosesNothing (env : Environment) : Prop :=
  ∀ number, env.closesIslandPanel number = false ∧ env.leavesAgentsMode number = false

/-- No change of size from this one on closes the island panel or leaves the mode for agents. -/
def Environment.ClosesNothingFrom (env : Environment) (first : Nat) : Prop :=
  ∀ number, first ≤ number →
    env.closesIslandPanel number = false ∧ env.leavesAgentsMode number = false

namespace HeadlessServer

def leases (s : HeadlessServer) : List (LeaseEvent ClientId) := s.notes.filterMap ClientNote.lease

/-- The client is connected, and messages can be sent to it. -/
def HasWriter (s : HeadlessServer) (clientId : ClientId) : Prop :=
  ∃ client, s.clients.lookup clientId = some client ∧ client.writer = true

/-- Nobody but the owner can have the input source for commands. -/
structure Sound (owner : Option ClientId) (s : HeadlessServer) : Prop where
  exclusive : Exclusive s.leases
  held : ∀ clientId, Holds s.leases clientId → owner = some clientId ∧ s.HasWriter clientId
  live : ∀ clientId, s.HasWriter clientId → .gone clientId ∉ s.leases
  known : ∀ clientId, clientId ∈ s.clients ∨ .gone clientId ∈ s.leases → clientId ∈ s.connected

variable {env : Environment} {s : HeadlessServer} {owner : Option ClientId} {clientId : ClientId}

theorem leases_of_notes {t : HeadlessServer} {note : ClientNote}
  (hNotes : t.notes = s.notes ++ [note]) : t.leases = s.leases ++ note.lease.toList := by
  unfold leases
  rw [hNotes, List.filterMap_append]
  cases hLease : note.lease <;> simp [hLease]

namespace Sound

theorem widen (hSound : Sound none s) : Sound owner s where
  exclusive := hSound.exclusive
  held clientId hHolds := by
    obtain ⟨hOwner, _⟩ := hSound.held clientId hHolds
    cases hOwner
  live := hSound.live
  known := hSound.known

theorem disown (hSound : Sound (some clientId) s) (hFree : ¬ Holds s.leases clientId) :
  Sound none s where
  exclusive := hSound.exclusive
  held other hHolds := by
    obtain ⟨hOwner, _⟩ := hSound.held other hHolds
    cases hOwner
    exact absurd hHolds hFree
  live := hSound.live
  known := hSound.known

/-- Of a server only the clients and the leases count. -/
theorem congr {t : HeadlessServer} (hSound : Sound owner s) (hClients : t.clients = s.clients)
  (hLeases : t.leases = s.leases) (hConnected : t.connected = s.connected) :
  Sound owner t := by
  have hWriter : ∀ clientId, t.HasWriter clientId ↔ s.HasWriter clientId := by
    intro clientId
    unfold HasWriter
    rw [hClients]
  refine ⟨?_, ?_, ?_, ?_⟩
  · rw [hLeases]
    exact hSound.exclusive
  · intro clientId hHolds
    rw [hLeases] at hHolds
    obtain ⟨hOwner, hHas⟩ := hSound.held clientId hHolds
    exact ⟨hOwner, (hWriter clientId).2 hHas⟩
  · intro clientId hHas
    rw [hLeases]
    exact hSound.live clientId ((hWriter clientId).1 hHas)
  · intro clientId hKnown
    rw [hClients, hLeases] at hKnown
    rw [hConnected]
    exact hSound.known clientId hKnown

/-- An entry about a client that keeps its channel, as those about messages are. -/
theorem entered {t : HeadlessServer} {event : LeaseEvent ClientId} {newOwner : Option ClientId}
  (hSound : Sound owner s) (hClients : t.clients = s.clients)
  (hConnected : t.connected = s.connected) (hLeases : t.leases = s.leases ++ [event])
  (hGone : ∀ key, event ≠ .gone key) (hGrant : ∀ key, event = .grant key →
    newOwner = some key ∧ s.HasWriter key ∧ ∀ holder, ¬ Holds s.leases holder)
  (hOwner : ∀ holder, Holds s.leases holder → ¬ event.Ends holder → newOwner = some holder) :
  Sound newOwner t := by
  have hWriter : ∀ key, t.HasWriter key ↔ s.HasWriter key := by
    intro key
    unfold HasWriter
    rw [hClients]
  have hSameGone : ∀ key, LeaseEvent.gone key ∈ t.leases ↔ LeaseEvent.gone key ∈ s.leases := by
    intro key
    rw [hLeases, List.mem_append, List.mem_singleton]
    exact or_iff_left fun hSame => hGone key hSame.symm
  constructor
  · rw [hLeases]
    refine hSound.exclusive.concat ?_
    intro key hSame holder hHolds
    exact absurd hHolds ((hGrant key hSame).2.2 holder)
  · intro key hHolds
    rw [hLeases, holds_concat_iff] at hHolds
    rw [hWriter]
    obtain hSame | ⟨hHeld, hNot⟩ := hHolds
    · obtain ⟨hNew, hHas, _⟩ := hGrant key hSame
      exact ⟨hNew, hHas⟩
    · exact ⟨hOwner key hHeld hNot, (hSound.held key hHeld).2⟩
  · intro key hHas
    rw [hSameGone]
    exact hSound.live key ((hWriter key).1 hHas)
  · intro key hKnown
    rw [hClients, hSameGone] at hKnown
    rw [hConnected]
    exact hSound.known key hKnown

theorem restored {t : HeadlessServer} (hSound : Sound (some clientId) s)
  (hClients : t.clients = s.clients) (hConnected : t.connected = s.connected)
  (hNotes : t.notes = s.notes ++ [.sent clientId (.prefixInputSource false)]) :
  Sound none t := by
  apply hSound.entered hClients hConnected (leases_of_notes hNotes)
  · intro key hSame
    cases hSame
  · intro key hSame
    cases hSame
  · intro holder hHolds hNot
    obtain rfl := Option.some.inj (hSound.held holder hHolds).1
    exact absurd (.inl rfl) hNot

theorem switched {t : HeadlessServer} (hSound : Sound none s) (hWriter : s.HasWriter clientId)
  (hClients : t.clients = s.clients) (hConnected : t.connected = s.connected)
  (hNotes : t.notes = s.notes ++ [.sent clientId (.prefixInputSource true)]) :
  Sound (some clientId) t := by
  have hFree : ∀ holder, ¬ Holds s.leases holder := by
    intro holder hHolds
    obtain ⟨hOwner, _⟩ := hSound.held holder hHolds
    cases hOwner
  apply hSound.entered hClients hConnected (leases_of_notes hNotes)
  · intro key hSame
    cases hSame
  · intro key hSame
    obtain rfl := LeaseEvent.grant.inj hSame
    exact ⟨rfl, hWriter, hFree⟩
  · intro holder hHolds
    exact absurd hHolds (hFree holder)

/-- A client that is gone has given up the input source, and has no channel. -/
theorem gone {t : HeadlessServer} (hSound : Sound owner s)
  (hLeases : t.leases = s.leases ++ [.gone clientId])
  (hKnown : clientId ∈ s.connected) (hConnected : t.connected = s.connected)
  (hMem : ∀ other, other ∈ t.clients → other ∈ s.clients)
  (hWriter : ∀ other, t.HasWriter other ↔ s.HasWriter other ∧ other ≠ clientId) :
  Sound owner t ∧ ¬ Holds t.leases clientId := by
  have hFree : ¬ Holds t.leases clientId := by
    rw [hLeases, holds_concat_iff]
    rintro (hGrant | ⟨_, hNot⟩)
    · cases hGrant
    · exact hNot (.inr rfl)
  refine ⟨⟨?_, ?_, ?_, ?_⟩, hFree⟩
  · rw [hLeases]
    refine hSound.exclusive.concat ?_
    intro key hGrant
    cases hGrant
  · intro other hHolds
    have hNe : other ≠ clientId := by
      rintro rfl
      exact hFree hHolds
    rw [hLeases, holds_concat_iff] at hHolds
    obtain hGrant | ⟨hHeld, hNot⟩ := hHolds
    · cases hGrant
    · obtain ⟨hOwner, hHas⟩ := hSound.held other hHeld
      exact ⟨hOwner, (hWriter other).2 ⟨hHas, hNe⟩⟩
  · intro other hHas hGone
    obtain ⟨hHad, hNe⟩ := (hWriter other).1 hHas
    rw [hLeases, List.mem_append, List.mem_singleton] at hGone
    obtain hGone | hSame := hGone
    · exact hSound.live other hHad hGone
    · exact hNe (LeaseEvent.gone.inj hSame)
  · intro other hOther
    rw [hConnected]
    obtain hMember | hGone := hOther
    · exact hSound.known other (.inl (hMem other hMember))
    · rw [hLeases, List.mem_append, List.mem_singleton] at hGone
      obtain hGone | hSame := hGone
      · exact hSound.known other (.inr hGone)
      · exact LeaseEvent.gone.inj hSame ▸ hKnown

theorem forgotten (hSound : Sound owner s) (clientId : ClientId) :
  Sound owner (s.forgetClient clientId) ∧ ¬ Holds (s.forgetClient clientId).leases clientId := by
  unfold forgetClient
  cases hClient : s.clients.lookup clientId with
  | none =>
    refine ⟨hSound, fun hHolds => ?_⟩
    obtain ⟨_, client, hLookup, _⟩ := hSound.held clientId hHolds
    rw [hClient] at hLookup
    cases hLookup
  | some client =>
    have hMember : clientId ∈ s.clients := AList.lookup_isSome.1 (by rw [hClient]; rfl)
    refine hSound.gone (@leases_of_notes s _ (.removed clientId) rfl)
      (hSound.known clientId (.inl hMember)) rfl ?_ ?_
    · intro other hOther
      exact (AList.mem_erase.1 hOther).2
    intro other
    unfold HasWriter
    by_cases hSame : other = clientId
    · subst hSame
      simp [AList.lookup_erase]
    · simp [AList.lookup_erase_ne hSame, hSame]

end Sound

/-! ## Switching over -/

/-- At most the client that is recorded has the input source for commands. -/
def Owned (s : HeadlessServer) : Prop := Sound s.prefixInputSourceClientId s

namespace Owned

variable {sync : HeadlessServer → HeadlessServer}

theorem syncForegroundClientStateInner (hOwned : Owned s) :
  Owned s.syncForegroundClientStateInner := by
  unfold HeadlessServer.syncForegroundClientStateInner
  split
  · exact hOwned
  split
  · exact hOwned.congr rfl rfl rfl
  · exact hOwned

theorem resizeSharedRuntimeToEffectiveSize (hOwned : Owned s) :
  Owned (s.resizeSharedRuntimeToEffectiveSize env) := by
  unfold HeadlessServer.resizeSharedRuntimeToEffectiveSize
  split
  · exact hOwned
  · exact hOwned.congr rfl rfl rfl

theorem removeClientWith (hSync : ∀ s, Owned s → Owned (sync s))
  (hOwned : Owned (s.forgetClient clientId)) :
  Owned (removeClientWith sync s clientId).1 := by
  unfold HeadlessServer.removeClientWith
  split
  · apply hSync
    apply Owned.syncForegroundClientStateInner
    exact hOwned.congr rfl rfl rfl
  · exact hOwned

theorem removeClientAndResizeIfNeededWith (hSync : ∀ s, Owned s → Owned (sync s))
  (hOwned : Owned (s.forgetClient clientId)) :
  Owned (removeClientAndResizeIfNeededWith env sync s clientId) := by
  have hRemoved := removeClientWith hSync hOwned
  unfold HeadlessServer.removeClientAndResizeIfNeededWith
  dsimp only
  split
  · exact hRemoved.resizeSharedRuntimeToEffectiveSize
  · exact hRemoved

end Owned

theorem prefixInputSourceClientId_forgetClient (s : HeadlessServer) (clientId : ClientId) :
  (s.forgetClient clientId).prefixInputSourceClientId = s.prefixInputSourceClientId := by
  unfold forgetClient
  split <;> rfl

theorem forgotten_owned (hOwned : Owned s) (clientId : ClientId) :
  Owned (s.forgetClient clientId) := by
  rw [Owned, prefixInputSourceClientId_forgetClient]
  exact (hOwned.forgotten clientId).1

theorem forgotten_disowned (hSound : Sound (some clientId) s)
  (hNone : s.prefixInputSourceClientId = none) : Owned (s.forgetClient clientId) := by
  obtain ⟨hForgotten, hFree⟩ := hSound.forgotten clientId
  rw [Owned, prefixInputSourceClientId_forgetClient, hNone]
  exact hForgotten.disown hFree

theorem not_held_of_not_hasWriter (hSound : Sound (some clientId) s)
  (hWriter : ¬ s.HasWriter clientId) : Sound none s :=
  hSound.disown fun hHolds => hWriter (hSound.held clientId hHolds).2

/-- After the restoring holds what holds of every outcome of telling the recorded client. -/
theorem restore_rule {P : HeadlessServer → Prop}
  {remove : HeadlessServer → ClientId → HeadlessServer}
  (hNobody : s.prefixInputSourceClientId = none → P s)
  (hTold : ∀ previous, s.prefixInputSourceClientId = some previous → ∀ result,
    Sending env remove { s with prefixInputSourceClientId := none } previous
      (.prefixInputSource false) result → P result.1) :
  P (restorePrefixInputSourceWith env remove s) := by
  unfold restorePrefixInputSourceWith
  cases hPrevious : s.prefixInputSourceClientId with
  | none => exact hNobody hPrevious
  | some previous => exact hTold previous hPrevious _ (sendToClientWith_sending ..)

theorem switch_rule {P : HeadlessServer → Prop} {remove : HeadlessServer → ClientId → HeadlessServer}
  (hTold : ∀ result, Sending env remove s clientId (.prefixInputSource true) result →
    P (if result.2 then { result.1 with prefixInputSourceClientId := some clientId }
      else result.1)) :
  P (switchPrefixInputSourceWith env remove s (some clientId)) :=
  hTold _ (sendToClientWith_sending ..)

section Rounds

variable {sync : HeadlessServer → HeadlessServer} (hSync : ∀ s, Owned s → Owned (sync s))
  (hFits : env.FitsPrefixInputSource)

include hSync hFits

theorem restorePrefixInputSourceWith_owned (hOwned : Owned s) :
  Owned (restorePrefixInputSourceWith env (removeClientAndResizeIfNeededWith env sync) s) := by
  refine restore_rule (fun _ => hOwned) fun previous hPrevious result hSending => ?_
  have hSound : Sound (some previous) { s with prefixInputSourceClientId := none } := by
    rw [Owned, hPrevious] at hOwned
    exact hOwned.congr rfl rfl rfl
  cases hSending with
  | tooLarge hLarge => exact absurd (hLarge.symm.trans (hFits false)) Bool.false_ne_true
  | absent hClient =>
    apply not_held_of_not_hasWriter hSound
    rintro ⟨client, hLookup, _⟩
    cases hClient.symm.trans hLookup
  | detached hClient hClosed =>
    apply not_held_of_not_hasWriter hSound
    rintro ⟨other, hLookup, hWriter⟩
    obtain rfl := Option.some.inj (hClient.symm.trans hLookup)
    exact Bool.false_ne_true (hClosed.symm.trans hWriter)
  | queued => exact hSound.restored rfl rfl rfl
  | broken =>
    apply Owned.removeClientAndResizeIfNeededWith hSync
    exact forgotten_disowned (hSound.congr rfl rfl rfl) rfl

theorem switchPrefixInputSourceWith_owned (hOwned : Owned s)
  (hNone : s.prefixInputSourceClientId = none) (target : Option ClientId) :
  Owned (switchPrefixInputSourceWith env (removeClientAndResizeIfNeededWith env sync) s
    target) := by
  cases target with
  | none => exact hOwned
  | some clientId =>
    have hSound : Sound none s := by
      rw [Owned, hNone] at hOwned
      exact hOwned
    refine switch_rule fun result hSending => ?_
    cases hSending with
    | tooLarge hLarge => exact absurd (hLarge.symm.trans (hFits true)) Bool.false_ne_true
    | absent => exact hOwned
    | detached => exact (@Sound.widen s (some clientId) hSound).congr rfl rfl rfl
    | queued hClient hOpen =>
      exact @Sound.switched s clientId _ hSound ⟨_, hClient, hOpen⟩ rfl rfl rfl
    | broken =>
      apply Owned.removeClientAndResizeIfNeededWith hSync
      apply forgotten_owned
      exact hOwned.congr rfl rfl rfl

end Rounds

variable {sync : HeadlessServer → HeadlessServer}

theorem removeClientWith_background (hForeground : s.foregroundClientId ≠ some clientId) :
  removeClientWith sync s clientId = (s.forgetClient clientId, false) := if_neg hForeground

theorem forgetClient_foregroundClientId (s : HeadlessServer) (clientId : ClientId) :
  (s.forgetClient clientId).foregroundClientId = s.foregroundClientId := by
  unfold forgetClient
  split <;> rfl

theorem app_forgetClient (s : HeadlessServer) (clientId : ClientId) :
  (s.forgetClient clientId).app = s.app := by
  unfold forgetClient
  split <;> rfl

theorem prefixInputSourceClientId_resize (s : HeadlessServer) :
  (s.resizeSharedRuntimeToEffectiveSize env).prefixInputSourceClientId =
    s.prefixInputSourceClientId := by
  unfold resizeSharedRuntimeToEffectiveSize
  split <;> rfl

theorem prefixInputSourceClientId_remove (hForeground : s.foregroundClientId ≠ some clientId) :
  (removeClientAndResizeIfNeededWith env sync s clientId).prefixInputSourceClientId =
    s.prefixInputSourceClientId := by
  unfold removeClientAndResizeIfNeededWith
  rw [removeClientWith_background hForeground]
  dsimp only
  split
  · rw [prefixInputSourceClientId_resize, prefixInputSourceClientId_forgetClient]
  · exact prefixInputSourceClientId_forgetClient s clientId

/-- While another client is in the foreground, nobody is recorded after the restoring. -/
theorem prefixInputSourceClientId_restore
  (hForeground : s.prefixInputSourceClientId ≠ s.foregroundClientId) :
  (restorePrefixInputSourceWith env (removeClientAndResizeIfNeededWith env sync)
    s).prefixInputSourceClientId = none := by
  refine restore_rule (P := fun t => t.prefixInputSourceClientId = none) id
    fun previous hPrevious result hSending => ?_
  rw [hPrevious] at hForeground
  cases hSending with
  | tooLarge | absent | detached | queued => rfl
  | broken => exact prefixInputSourceClientId_remove hForeground.symm

theorem foreground_of_target (hTarget : s.prefixInputSourceTarget = some clientId) :
  s.foregroundClientId = some clientId :=
  (Option.ite_none_right_eq_some.1 hTarget).2

/-- The switch-over keeps the input source with the client that is recorded, however many of its
messages fail. The induction is on the rounds: a client that is removed starts another one. -/
theorem syncRounds_owned (hFits : env.FitsPrefixInputSource) (rounds : Nat) (hOwned : Owned s) :
  Owned (syncRounds env rounds s) := by
  induction rounds generalizing s with
  | zero => exact hOwned
  | succ rounds ih =>
    have hSync : ∀ s, Owned s → Owned (syncRounds env rounds s) := fun _ => ih
    have hRestored := restorePrefixInputSourceWith_owned hSync hFits hOwned
    unfold syncRounds
    dsimp only
    split
    case isTrue => exact hOwned
    case isFalse hNe =>
      cases hTarget : s.prefixInputSourceTarget with
      | none => exact hRestored
      | some clientId =>
        have hForeground : s.prefixInputSourceClientId ≠ s.foregroundClientId := by
          rwa [hTarget, ← foreground_of_target hTarget] at hNe
        exact switchPrefixInputSourceWith_owned hSync hFits hRestored
          (prefixInputSourceClientId_restore hForeground) _

theorem syncDesiredPrefixInputSource_owned (hFits : env.FitsPrefixInputSource) (hOwned : Owned s) :
  Owned (s.syncDesiredPrefixInputSource env) :=
  syncRounds_owned hFits _ hOwned

/-! ## The client in the foreground is the one recorded -/

def Registered (s : HeadlessServer) : Prop :=
  ∀ clientId, s.foregroundClientId = some clientId → clientId ∈ s.clients

/-- The client in the foreground is connected, and no change of size closes anything any more. -/
structure Calm (env : Environment) (s : HeadlessServer) : Prop where
  registered : s.Registered
  closes : env.ClosesNothingFrom s.resizes

/-- The recorded client is the one in the foreground, or nobody while none is to be switched. -/
structure Aligned (env : Environment) (s : HeadlessServer) : Prop extends Calm env s where
  target : s.prefixInputSourceClientId = s.prefixInputSourceTarget

theorem syncForegroundClientStateInner_registered (s : HeadlessServer) :
  Registered s.syncForegroundClientStateInner := by
  intro clientId hForeground
  unfold syncForegroundClientStateInner at hForeground ⊢
  cases hCurrent : s.foregroundClientId with
  | none =>
    rw [hCurrent] at hForeground
    cases hCurrent.symm.trans hForeground
  | some current =>
    rw [hCurrent] at hForeground
    dsimp only at hForeground ⊢
    cases hClient : s.clients.lookup current with
    | none =>
      rw [hClient] at hForeground
      cases hForeground
    | some client =>
      rw [hClient] at hForeground
      obtain rfl := Option.some.inj (hCurrent.symm.trans hForeground)
      exact AList.lookup_isSome.1 (by rw [hClient]; rfl)

theorem clients_forgetClient (s : HeadlessServer) (clientId : ClientId) :
  (s.forgetClient clientId).clients = s.clients.erase clientId := by
  unfold forgetClient
  cases hClient : s.clients.lookup clientId with
  | none =>
    have hAbsent : clientId ∉ s.clients := AList.lookup_eq_none.1 hClient
    exact AList.ext (List.kerase_of_notMem_keys hAbsent).symm
  | some client => rfl

theorem Registered.forgetClient (hForeground : s.foregroundClientId ≠ some clientId)
  (hRegistered : Registered s) : Registered (s.forgetClient clientId) := by
  intro other hOther
  rw [forgetClient_foregroundClientId] at hOther
  rw [clients_forgetClient, AList.mem_erase]
  refine ⟨?_, hRegistered other hOther⟩
  rintro rfl
  exact hForeground hOther

theorem Registered.resized (hRegistered : Registered s) :
  Registered (s.resizeSharedRuntimeToEffectiveSize env) := by
  unfold resizeSharedRuntimeToEffectiveSize
  split
  · exact hRegistered
  · exact hRegistered

theorem kept_registered : Kept env Registered where
  owner _ _ hRegistered := hRegistered
  attempted _ hRegistered := hRegistered
  noted _ _ _ hRegistered := hRegistered
  forgotten _ _ hForeground := Registered.forgetClient hForeground
  promoted _ _ _ _ := syncForegroundClientStateInner_registered _
  resized _ := Registered.resized

theorem resizes_forgetClient (s : HeadlessServer) (clientId : ClientId) :
  (s.forgetClient clientId).resizes = s.resizes := by
  unfold forgetClient
  split <;> rfl

/-- The changes of size that are still to come only get fewer. -/
theorem closesNothingFrom_resized (hCloses : env.ClosesNothingFrom s.resizes) :
  env.ClosesNothingFrom (s.resizeSharedRuntimeToEffectiveSize env).resizes := by
  unfold resizeSharedRuntimeToEffectiveSize
  split
  · exact hCloses
  · exact fun number hFirst => hCloses number (Nat.le_of_succ_le hFirst)

theorem Calm.syncForegroundClientStateInner (hCloses : env.ClosesNothingFrom s.resizes) :
  Calm env s.syncForegroundClientStateInner where
  registered := syncForegroundClientStateInner_registered s
  closes := by
    obtain ⟨foregroundClientId, hInner⟩ := syncForegroundClientStateInner_eq s
    rw [hInner]
    exact hCloses

theorem resizeSharedRuntime_eq (hCloses : env.ClosesNothingFrom s.resizes) :
  ∃ resizes, s.resizeSharedRuntimeToEffectiveSize env = { s with resizes } := by
  unfold resizeSharedRuntimeToEffectiveSize
  split
  · exact ⟨s.resizes, rfl⟩
  obtain ⟨hPanel, hAgents⟩ := hCloses s.resizes (le_refl _)
  refine ⟨s.resizes + 1, ?_⟩
  simp only [hPanel, hAgents, Bool.false_eq_true, if_false]

theorem Aligned.resizeSharedRuntimeToEffectiveSize (hAligned : Aligned env s) :
  Aligned env (s.resizeSharedRuntimeToEffectiveSize env) where
  registered := hAligned.registered.resized
  closes := closesNothingFrom_resized hAligned.closes
  target := by
    obtain ⟨resizes, hResize⟩ := resizeSharedRuntime_eq hAligned.closes
    rw [hResize]
    exact hAligned.target

/-- What is removed in the background leaves what the input source depends on. -/
theorem remove_background {sync : HeadlessServer → HeadlessServer} (hCalm : Calm env s)
  (hForeground : s.foregroundClientId ≠ some clientId) :
  let t := removeClientAndResizeIfNeededWith env sync s clientId
  t.foregroundClientId = s.foregroundClientId ∧ t.app = s.app ∧
    t.prefixInputSourceClientId = s.prefixInputSourceClientId ∧
    t.clients = s.clients.erase clientId ∧ Calm env t := by
  have hCloses : env.ClosesNothingFrom (s.forgetClient clientId).resizes := by
    rw [resizes_forgetClient]
    exact hCalm.closes
  have hRegistered := hCalm.registered.forgetClient hForeground
  have hForgotten : (s.forgetClient clientId).foregroundClientId = s.foregroundClientId ∧
      (s.forgetClient clientId).app = s.app ∧
      (s.forgetClient clientId).prefixInputSourceClientId = s.prefixInputSourceClientId ∧
      (s.forgetClient clientId).clients = s.clients.erase clientId := by
    exact ⟨forgetClient_foregroundClientId s clientId, app_forgetClient s clientId,
      prefixInputSourceClientId_forgetClient s clientId, clients_forgetClient s clientId⟩
  obtain ⟨hSame, hApp, hOwner, hClients⟩ := hForgotten
  unfold removeClientAndResizeIfNeededWith
  rw [removeClientWith_background hForeground]
  dsimp only
  split
  · have hResized := closesNothingFrom_resized hCloses
    obtain ⟨resizes, hResize⟩ := resizeSharedRuntime_eq hCloses
    rw [hResize] at hResized ⊢
    exact ⟨hSame, hApp, hOwner, hClients, hRegistered, hResized⟩
  · exact ⟨hSame, hApp, hOwner, hClients, hRegistered, hCloses⟩

theorem length_erase_lt {clients : FinMap ClientId ClientConnection}
  (hClient : clientId ∈ clients) :
  (clients.erase clientId).keys.length < clients.keys.length := by
  rw [AList.keys_erase]
  have hPositive := List.length_pos_of_mem (AList.mem_keys.1 hClient)
  rw [List.length_erase_of_mem (AList.mem_keys.1 hClient)]
  omega

/-- Removing a client aligns the server again: of a client in the foreground by the switch-over
to the next one, otherwise because it was aligned before. -/
theorem remove_aligned
  (hSync : ∀ t, t.clients.keys.length < s.clients.keys.length → Calm env t → Aligned env (sync t))
  (hClient : clientId ∈ s.clients) (hCalm : Calm env s)
  (hTarget : s.foregroundClientId ≠ some clientId →
    s.prefixInputSourceClientId = s.prefixInputSourceTarget) :
  Aligned env (removeClientAndResizeIfNeededWith env sync s clientId) := by
  by_cases hForeground : s.foregroundClientId = some clientId
  · have hRemoved : Aligned env (removeClientWith sync s clientId).1 := by
      rw [removeClientWith, if_pos hForeground]
      have hInner := syncForegroundClientStateInner_eq { s.forgetClient clientId with
        foregroundClientId := latestAppClient (s.forgetClient clientId).clients }
      obtain ⟨foregroundClientId, hInner⟩ := hInner
      apply hSync
      · rw [hInner]
        rw [clients_forgetClient]
        exact length_erase_lt hClient
      · apply Calm.syncForegroundClientStateInner
        rw [resizes_forgetClient]
        exact hCalm.closes
    unfold removeClientAndResizeIfNeededWith
    dsimp only
    split
    · exact hRemoved.resizeSharedRuntimeToEffectiveSize
    · exact hRemoved
  · obtain ⟨hSame, hApp, hOwner, -, hAfter⟩ := @remove_background env s clientId sync hCalm
      hForeground
    refine ⟨hAfter, ?_⟩
    rw [hOwner, hTarget hForeground]
    unfold prefixInputSourceTarget prefixInputSourceActive
    rw [hSame, hApp]

/-- What is left to do after the restoring: the target is still in the foreground. -/
structure Restored (env : Environment) (s t : HeadlessServer) : Prop where
  calm : Calm env t
  foreground : t.foregroundClientId = s.foregroundClientId
  app : t.app = s.app
  length : t.clients.keys.length ≤ s.clients.keys.length

theorem restore_restored {sync : HeadlessServer → HeadlessServer} (hCalm : Calm env s)
  (hForeground : s.prefixInputSourceClientId ≠ s.foregroundClientId) :
  Restored env s (restorePrefixInputSourceWith env (removeClientAndResizeIfNeededWith env sync)
    s) := by
  refine restore_rule (fun _ => ⟨hCalm, rfl, rfl, le_refl _⟩)
    fun previous hPrevious result hSending => ?_
  rw [hPrevious] at hForeground
  have hSame : Calm env { s with prefixInputSourceClientId := none } :=
    ⟨hCalm.registered, hCalm.closes⟩
  cases hSending with
  | tooLarge | absent | detached => exact ⟨hSame, rfl, rfl, le_refl _⟩
  | queued => exact ⟨⟨hCalm.registered, hCalm.closes⟩, rfl, rfl, le_refl _⟩
  | broken hClient =>
    obtain ⟨hSame, hApp, _, hClients, hAfter⟩ := @remove_background env
      { s with prefixInputSourceClientId := none, sends := s.sends + 1 } previous sync
      ⟨hCalm.registered, hCalm.closes⟩ hForeground.symm
    have hMember : previous ∈ s.clients := AList.lookup_isSome.1 (Option.isSome_of_eq_some hClient)
    refine ⟨hAfter, hSame, hApp, ?_⟩
    rw [hClients]
    exact (length_erase_lt hMember).le

section

variable (hFits : env.FitsPrefixInputSource)
include hFits

/-- Without a target, the server is aligned as soon as the client that had the input source is
told or gone. -/
theorem restore_aligned
  (hSync : ∀ t, t.clients.keys.length < s.clients.keys.length → Calm env t → Aligned env (sync t))
  (hCalm : Calm env s) (hTarget : s.prefixInputSourceTarget = none) :
  Aligned env (restorePrefixInputSourceWith env (removeClientAndResizeIfNeededWith env sync) s) := by
  refine restore_rule (fun hPrevious => ⟨hCalm, hPrevious.trans hTarget.symm⟩)
    fun previous hPrevious result hSending => ?_
  cases hSending with
  | tooLarge hLarge => exact absurd (hLarge.symm.trans (hFits false)) Bool.false_ne_true
  | absent | detached | queued => exact ⟨⟨hCalm.registered, hCalm.closes⟩, hTarget.symm⟩
  | broken hClient =>
    have hMember : previous ∈ s.clients := AList.lookup_isSome.1 (Option.isSome_of_eq_some hClient)
    exact remove_aligned hSync hMember ⟨hCalm.registered, hCalm.closes⟩
      fun _ => hTarget.symm

/-- The next client has been told and is recorded, or it is gone and the server was aligned
again on the way. -/
theorem switch_aligned
  (hSync : ∀ t, t.clients.keys.length < s.clients.keys.length → Calm env t → Aligned env (sync t))
  (hCalm : Calm env s) (hTarget : s.prefixInputSourceTarget = some clientId) :
  Aligned env (switchPrefixInputSourceWith env (removeClientAndResizeIfNeededWith env sync) s
    (some clientId)) := by
  have hForeground := foreground_of_target hTarget
  have hMember := hCalm.registered clientId hForeground
  refine switch_rule fun result hSending => ?_
  cases hSending with
  | tooLarge hLarge => exact absurd (hLarge.symm.trans (hFits true)) Bool.false_ne_true
  | absent hClient => exact absurd hMember (AList.lookup_eq_none.1 hClient)
  | detached => exact ⟨⟨hCalm.registered, hCalm.closes⟩, hTarget.symm⟩
  | queued => exact ⟨⟨hCalm.registered, hCalm.closes⟩, hTarget.symm⟩
  | broken =>
    exact remove_aligned hSync hMember ⟨hCalm.registered, hCalm.closes⟩
      fun hNe => absurd hForeground hNe

/-- More rounds than clients align the recorded client with the one in the foreground. -/
theorem syncRounds_aligned
  {rounds : Nat} (hRounds : s.clients.keys.length < rounds) (hCalm : Calm env s) :
  Aligned env (syncRounds env rounds s) := by
  induction rounds generalizing s with
  | zero => exact absurd hRounds (Nat.not_lt_zero _)
  | succ rounds ih =>
    have hSync : ∀ t, t.clients.keys.length < s.clients.keys.length → Calm env t →
        Aligned env (syncRounds env rounds t) :=
      fun t hLess => ih (Nat.lt_of_lt_of_le hLess (Nat.lt_succ_iff.1 hRounds))
    unfold syncRounds
    dsimp only
    split
    case isTrue hSame => exact ⟨hCalm, hSame⟩
    case isFalse hNe =>
      cases hTarget : s.prefixInputSourceTarget with
      | none => exact restore_aligned hFits hSync hCalm hTarget
      | some clientId =>
        have hForeground : s.prefixInputSourceClientId ≠ s.foregroundClientId := by
          rwa [hTarget, ← foreground_of_target hTarget] at hNe
        obtain ⟨hKept, hSame, hApp, hLength⟩ := @restore_restored env s
          (syncRounds env rounds) hCalm hForeground
        apply switch_aligned hFits
        · exact fun t hLess => hSync t (Nat.lt_of_lt_of_le hLess hLength)
        · exact hKept
        · rw [← hTarget]
          unfold prefixInputSourceTarget prefixInputSourceActive
          rw [hSame, hApp]

theorem syncDesiredPrefixInputSource_aligned
  (hCalm : Calm env s) :
  Aligned env (s.syncDesiredPrefixInputSource env) :=
  syncRounds_aligned hFits (Nat.lt_succ_self _) hCalm

end

end HeadlessServer

end Headless
