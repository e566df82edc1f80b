import VimeflowTerminal.Server.AltScreenProgress
import VimeflowTerminal.Server.ReadRequests

/-! At most one read scrolls a terminal, nobody attaches to that terminal meanwhile,
other reads get its screen or wait, and every read request is answered once. -/

namespace Server

open App Workspaces Terminal Transition ReadServer

namespace ReadServer

/-! ## What a turn of the loop leaves -/

section

variable (idText : TerminalId → String) (now : Instant) (s : ReadServer)

def pollOutcome (pending : PendingRead) : PollOutcome :=
  (AltScreenRun.call pending.traversal (s.pollStep idText pending now)).1

/-- The read goes on. -/
def goingOn (pending : PendingRead) : Option PendingRead :=
  match s.pollOutcome idText now pending with
  | .pending traversal => some { pending with traversal }
  | .completed _ => none

/-- The read is answered. -/
def completion (pending : PendingRead) : Option ReadAnswer :=
  match s.pollOutcome idText now pending with
  | .pending _ => none
  | .completed response => some (complete pending response)

end

variable {idText : TerminalId → String} {now : Instant} {s t : ReadServer}

theorem foldl_pollPending (reads : List PendingRead) (s : ReadServer) :
  reads.foldl (pollPending idText now) s =
    { s with
      pendingAltScreenReads := s.pendingAltScreenReads ++ reads.filterMap (s.goingOn idText now)
      answers := s.answers ++ reads.filterMap (s.completion idText now) } := by
  induction reads generalizing s with
  | nil => simp
  | cons pending reads ih =>
    rw [List.foldl_cons, ih]
    have hGoing : (pollPending idText now s pending).goingOn idText now = s.goingOn idText now := by
      unfold pollPending
      split
      · rfl
      · rfl
    have hCompletion :
        (pollPending idText now s pending).completion idText now = s.completion idText now := by
      unfold pollPending
      split
      · rfl
      · rfl
    rw [hGoing, hCompletion, List.filterMap_cons, List.filterMap_cons]
    unfold pollPending goingOn completion pollOutcome
    cases (AltScreenRun.call pending.traversal (s.pollStep idText pending now)).1 with
    | pending traversal => simp
    | completed response => simp

theorem pollPendingAltScreenReads_eq (s : ReadServer) :
  s.pollPendingAltScreenReads idText now =
    { s with
      pendingAltScreenReads := s.pendingAltScreenReads.filterMap (s.goingOn idText now)
      answers := s.answers ++ s.pendingAltScreenReads.filterMap (s.completion idText now) } := by
  unfold pollPendingAltScreenReads
  rw [foldl_pollPending]
  rfl

variable {next : PendingRead} {frozen : Option TerminalReadSnapshot} {u : ReadServer}

theorem goingOn_some {pending : PendingRead} (hNext : s.goingOn idText now pending = some next) :
  next = { pending with traversal := next.traversal } ∧
    s.pollOutcome idText now pending = .pending next.traversal := by
  unfold goingOn at hNext
  split at hNext
  next traversal hOutcome =>
    cases hNext
    exact ⟨rfl, hOutcome⟩
  · cases hNext

theorem waitsOrGoesOn_of_goingOn {pending : PendingRead} (hTimed : pending.traversal.Timed)
  (hNext : s.goingOn idText now pending = some next) :
  pending.traversal.WaitsOrGoesOn now next.traversal := by
  have hCall := @PendingAltScreenRead.waitsOrGoesOn_call pending.traversal
    (s.pollStep idText pending now) hTimed
  have hOutcome := (goingOn_some hNext).2
  unfold pollOutcome at hOutcome
  rw [hOutcome] at hCall
  exact hCall

theorem polled_perm (reads : List PendingRead) :
  ((reads.filterMap (s.completion idText now)).map (·.respondTo) ++
    (reads.filterMap (s.goingOn idText now)).map (·.respondTo)).Perm
      (reads.map (·.respondTo)) := by
  induction reads with
  | nil => exact .nil
  | cons pending reads ih =>
    rw [List.filterMap_cons, List.filterMap_cons, List.map_cons]
    unfold completion goingOn at ih ⊢
    cases s.pollOutcome idText now pending with
    | pending traversal => exact List.perm_middle.trans (ih.cons _)
    | completed response => exact ih.cons _

theorem polled_sublist (reads : List PendingRead) :
  ((reads.filterMap (s.goingOn idText now)).map fun pending => idText pending.terminalId).Sublist
    (reads.map fun pending => idText pending.terminalId) := by
  induction reads with
  | nil => exact .slnil
  | cons pending reads ih =>
    rw [List.filterMap_cons]
    unfold goingOn at ih ⊢
    cases s.pollOutcome idText now pending with
    | pending traversal => exact ih.cons_cons _
    | completed response => exact ih.cons _

/-! ## Requests -/

theorem pendingRead_none {terminalId : String} (hNone : s.pendingRead idText terminalId = none) :
  ∀ pending ∈ s.pendingAltScreenReads, idText pending.terminalId ≠ terminalId := by
  intro pending hMem
  simpa using List.find?_eq_none.1 hNone pending hMem

theorem terminalByText_some {app : AppState} {text : String} {terminalId : TerminalId}
  {terminal : TerminalState} (hFound : app.terminalByText idText text = some (terminalId, terminal)) :
  idText terminalId = text := by
  obtain ⟨entry, hEntry, hPair⟩ := Option.map_eq_some_iff.1 hFound
  obtain ⟨rfl, -⟩ := Prod.mk.inj hPair
  simpa using List.find?_some hEntry

/-- A read only scrolls a terminal that nobody owns and no other read scrolls, and
starts with the screen that it finds. -/
structure MayScroll (idText : TerminalId → String) (s : ReadServer) (method : Method)
  (spec : AltScreenReadSpec) : Prop where
  text : method.format = .text
  unowned : idText spec.terminalId ∉ s.terminalAttachOwners
  alone : ∀ pending ∈ s.pendingAltScreenReads, idText pending.terminalId ≠ idText spec.terminalId
  screen : ∃ runtime, s.screens.runtimes.lookup spec.terminalId = some runtime ∧
    runtime.screenText = some (.alternate, spec.initial)

theorem altScreenReadSpec_some {method : Method} {spec : AltScreenReadSpec}
  (hSpec : s.altScreenReadSpec idText method = some spec) : MayScroll idText s method spec := by
  unfold altScreenReadSpec at hSpec
  split at hSpec
  · cases hSpec
  obtain ⟨target, -, hSpec⟩ := Option.bind_eq_some_iff.1 hSpec
  obtain ⟨hText, hSpec⟩ := Option.ite_none_left_eq_some.1 hSpec
  obtain ⟨hFree, hSpec⟩ := Option.ite_none_left_eq_some.1 hSpec
  obtain ⟨⟨terminalId, terminal⟩, hTerminal, hSpec⟩ := Option.bind_eq_some_iff.1 hSpec
  obtain ⟨-, hSpec⟩ := Option.ite_none_left_eq_some.1 hSpec
  obtain ⟨runtime, hRuntime, hSpec⟩ := Option.bind_eq_some_iff.1 hSpec
  obtain ⟨-, hSpec⟩ := Option.ite_none_left_eq_some.1 hSpec
  obtain ⟨⟨screen, initial⟩, hScreen, hSpec⟩ := Option.bind_eq_some_iff.1 hSpec
  obtain ⟨hAlternate, hSpec⟩ := Option.ite_none_left_eq_some.1 hSpec
  cases hSpec
  have hId := terminalByText_some hTerminal
  simp only [Bool.or_eq_true, not_or, decide_eq_true_eq, Bool.not_eq_true,
    Option.isSome_eq_false_iff, Option.isNone_iff_eq_none] at hText hFree hAlternate
  refine ⟨by simpa using hText.1, ?_, ?_, runtime, hRuntime, ?_⟩
  · rw [hId]
    exact hFree.1.2
  · rw [hId]
    exact pendingRead_none hFree.2
  · rw [hScreen]
    simp only [ne_eq, Decidable.not_not] at hAlternate
    rw [hAlternate.1]

/-- A request is answered, with the frozen screen if there is one and the read
succeeds, or a read starts to scroll for it. -/
inductive Takes (idText : TerminalId → String) (s : ReadServer) (request : ReadRequest)
  (frozen : Option TerminalReadSnapshot) (now : Instant) : ReadServer → Prop where
  | answer (reply : Reply)
      (shown : ∀ read snapshot, reply = .paneRead read → frozen = some snapshot →
        read.text = snapshot.text ∧ read.truncated = snapshot.truncated) :
      Takes idText s request frozen now (s.respond request reply)
  | scroll (spec : AltScreenReadSpec) (read : PaneReadResult)
      (may : MayScroll idText s request.method spec) :
      Takes idText s request frozen now { s with
        pendingAltScreenReads := s.pendingAltScreenReads ++ [⟨spec.terminalId, request.id,
          request.respondTo, read, .start "" spec.lines spec.unwrap spec.initial now⟩] }

theorem freeze_shown {reply : Reply} {read : PaneReadResult} {snapshot : TerminalReadSnapshot}
  (hReply : freeze frozen reply = .paneRead read) (hFrozen : frozen = some snapshot) :
  read.text = snapshot.text ∧ read.truncated = snapshot.truncated := by
  subst hFrozen
  cases reply with
  | paneRead live =>
    cases hReply
    exact ⟨rfl, rfl⟩
  | error body => cases hReply

theorem answerRead_takes (s : ReadServer) (request : ReadRequest)
  (frozen : Option TerminalReadSnapshot) (now : Instant) :
  Takes idText s request frozen now (s.answerRead idText request frozen now) := by
  unfold answerRead
  split
  next error hBusy =>
    refine .answer (.error error) ?_
    intro read snapshot hReply
    cases hReply
  next hIdle =>
    dsimp only
    split
    next spec read hSpec hReply => exact .scroll spec read (altScreenReadSpec_some hSpec)
    next reply hReply => exact .answer _ fun read snapshot => freeze_shown

/-! ## The invariant -/

def answered (s : ReadServer) : List Nat := s.answers.map (·.respondTo)

/-- The requests that are answered later. -/
def waiting (s : ReadServer) : List Nat :=
  s.pendingAltScreenReads.map (·.respondTo) ++ s.deferredAltScreenReads.map (·.respondTo)

/-- One read for a terminal, none where there is an owner, and every request
answered, waiting or in hand. -/
structure Inv (idText : TerminalId → String) (s : ReadServer) (inHand : List Nat) : Prop where
  alone : (s.pendingAltScreenReads.map fun pending => idText pending.terminalId).Nodup
  unowned : ∀ pending ∈ s.pendingAltScreenReads, idText pending.terminalId ∉ s.terminalAttachOwners
  waits : ∀ request ∈ s.deferredAltScreenReads, request.method.format ≠ .text
  timed : ∀ pending ∈ s.pendingAltScreenReads, pending.traversal.Timed
  accounted : (inHand ++ (s.answered ++ s.waiting)).Perm (List.range s.received)

theorem Inv.start (screens : Screens) : Inv idText (start screens) [] where
  alone := .nil
  unowned := by
    intro pending hMem
    cases hMem
  waits := by
    intro request hMem
    cases hMem
  timed := by
    intro pending hMem
    cases hMem
  accounted := .nil

variable {inHand : List Nat} {request : ReadRequest}

section

variable (h : Inv idText s [request.respondTo])
include h

theorem Inv.respond (reply : Reply) :
  Inv idText (s.respond request reply) [] := by
  refine ⟨h.alone, h.unowned, h.waits, h.timed, ?_⟩
  refine List.Perm.trans ?_ h.accounted
  simp only [answered, waiting, ReadServer.respond, List.map_append, List.map_singleton,
    List.append_assoc, List.nil_append]
  exact List.perm_middle

theorem Inv.defer (hWaits : request.method.format ≠ .text) :
  Inv idText { s with deferredAltScreenReads := s.deferredAltScreenReads ++ [request] } [] := by
  refine ⟨h.alone, h.unowned, ?_, h.timed, ?_⟩
  · intro other hMem
    rcases List.mem_append.1 hMem with hOld | hNew
    · exact h.waits other hOld
    · rw [List.mem_singleton.1 hNew]
      exact hWaits
  · refine List.Perm.trans ?_ h.accounted
    simp only [answered, waiting, List.map_append, List.map_singleton, ← List.append_assoc,
      List.nil_append]
    exact List.perm_append_singleton _ _

theorem Inv.scroll {spec : AltScreenReadSpec}
  (hMay : MayScroll idText s request.method spec) (read : PaneReadResult) (now : Instant) :
  Inv idText { s with
    pendingAltScreenReads := s.pendingAltScreenReads ++ [⟨spec.terminalId, request.id,
      request.respondTo, read, .start "" spec.lines spec.unwrap spec.initial now⟩] } [] := by
  refine ⟨?_, ?_, h.waits, ?_, ?_⟩
  · rw [List.map_append, List.map_singleton, List.nodup_append]
    refine ⟨h.alone, by simp, ?_⟩
    intro text hText other hOther
    obtain ⟨pending, hMem, rfl⟩ := List.mem_map.1 hText
    rw [List.mem_singleton.1 hOther]
    exact hMay.alone pending hMem
  · intro pending hMem
    rcases List.mem_append.1 hMem with hOld | hNew
    · exact h.unowned pending hOld
    · rw [List.mem_singleton.1 hNew]
      exact hMay.unowned
  · intro pending hMem
    rcases List.mem_append.1 hMem with hOld | hNew
    · exact h.timed pending hOld
    · rw [List.mem_singleton.1 hNew]
      exact PendingAltScreenRead.timed_start _ _ _ _ _
  · refine List.Perm.trans ?_ h.accounted
    simp only [answered, waiting, List.map_append, List.map_singleton, List.append_assoc,
      List.nil_append, List.singleton_append]
    rw [← List.append_assoc, ← List.append_assoc]
    exact List.perm_middle

theorem Inv.takes
  (hTakes : Takes idText s request frozen now t) : Inv idText t [] := by
  cases hTakes with
  | answer reply shown => exact h.respond reply
  | scroll spec read may => exact h.scroll may read now

end

theorem Inv.screens (h : Inv idText s inHand) (screens : Screens) :
  Inv idText { s with screens } inHand :=
  ⟨h.alone, h.unowned, h.waits, h.timed, h.accounted⟩

theorem altScreenReadConflict_defer {method : Method}
  (hDefer : s.altScreenReadConflict idText method = .defer) : method.format ≠ .text := by
  unfold altScreenReadConflict at hDefer
  split at hDefer
  · cases hDefer
  split at hDefer
  · cases hDefer
  next hNot => exact hNot

theorem Inv.handleApiRequest (h : Inv idText s [request.respondTo]) (drained : Screens) :
  Inv idText (s.handleApiRequest idText request now drained) [] := by
  unfold ReadServer.handleApiRequest
  split
  · exact h.respond _
  split
  next hDefer => exact h.defer (altScreenReadConflict_defer hDefer)
  · exact (h.screens drained).takes (answerRead_takes _ _ _ _)
  · exact (h.screens drained).takes (answerRead_takes _ _ _ _)

theorem Inv.processDeferred (h : Inv idText s []) (drained : Screens) :
  Inv idText (s.processDeferredAltScreenRead idText now drained) [] := by
  unfold processDeferredAltScreenRead
  split
  · exact h
  next request rest hDeferred =>
    have hRest : Inv idText { s with deferredAltScreenReads := rest } [request.respondTo] := by
      refine ⟨h.alone, h.unowned, ?_, h.timed, ?_⟩
      · intro other hMem
        exact h.waits other (by rw [hDeferred]; exact List.mem_cons_of_mem _ hMem)
      refine List.Perm.trans ?_ h.accounted
      simp only [answered, waiting, hDeferred, List.map_cons, List.singleton_append,
        List.nil_append]
      rw [← List.append_assoc, ← List.append_assoc]
      exact List.perm_middle.symm
    dsimp only
    split
    · exact hRest.handleApiRequest drained
    · exact hRest.defer (h.waits request (by rw [hDeferred]; exact List.mem_cons_self))
    · exact hRest.defer (h.waits request (by rw [hDeferred]; exact List.mem_cons_self))

theorem Inv.poll (h : Inv idText s []) (now : Instant) :
  Inv idText (s.pollPendingAltScreenReads idText now) [] := by
  rw [pollPendingAltScreenReads_eq]
  have hFrom : ∀ next ∈ s.pendingAltScreenReads.filterMap (s.goingOn idText now),
      ∃ pending ∈ s.pendingAltScreenReads, next.terminalId = pending.terminalId ∧
        pending.traversal.WaitsOrGoesOn now next.traversal := by
    intro next hMem
    obtain ⟨pending, hPending, hNext⟩ := List.mem_filterMap.1 hMem
    refine ⟨pending, hPending, ?_, waitsOrGoesOn_of_goingOn (h.timed pending hPending) hNext⟩
    rw [(goingOn_some hNext).1]
  refine ⟨h.alone.sublist (polled_sublist _), ?_, h.waits, ?_, ?_⟩
  · intro next hMem
    obtain ⟨pending, hPending, hSame, -⟩ := hFrom next hMem
    rw [hSame]
    exact h.unowned pending hPending
  · intro next hMem
    obtain ⟨pending, hPending, -, hGoes⟩ := hFrom next hMem
    exact hGoes.timed (h.timed pending hPending)
  · refine List.Perm.trans ?_ h.accounted
    simp only [answered, waiting, List.map_append, List.append_assoc, List.nil_append]
    refine List.Perm.append_left _ ?_
    rw [← List.append_assoc]
    exact (polled_perm _).append_right _

/-! ## Clients -/

theorem Inv.clients (h : Inv idText s inHand) (clients : FinMap Nat ClientConnection)
  {terminalAttachOwners : FinMap String Nat}
  (hFree : ∀ pending ∈ s.pendingAltScreenReads, idText pending.terminalId ∉ terminalAttachOwners) :
  Inv idText { s with clients, terminalAttachOwners } inHand :=
  ⟨h.alone, hFree, h.waits, h.timed, h.accounted⟩

/-- Only the clients and the owners differ, and a new owner's terminal has no read
in progress. -/
def Reconnects (idText : TerminalId → String) (s t : ReadServer) : Prop :=
  t = { s with clients := t.clients, terminalAttachOwners := t.terminalAttachOwners } ∧
    ∀ owned ∈ t.terminalAttachOwners,
      owned ∈ s.terminalAttachOwners ∨ s.pendingRead idText owned = none

theorem Inv.reconnects (h : Inv idText s inHand) (hReconnects : Reconnects idText s t) :
  Inv idText t inHand := by
  obtain ⟨hSame, hOwners⟩ := hReconnects
  rw [hSame]
  refine h.clients t.clients ?_
  intro pending hMem hOwned
  rcases hOwners _ hOwned with hOld | hNone
  · exact h.unowned pending hMem hOld
  · exact pendingRead_none hNone pending hMem rfl

theorem mem_owners_removeClient {clientId : Nat} {owned : String}
  (hOwned : owned ∈ (s.removeClient clientId).terminalAttachOwners) :
  owned ∈ s.terminalAttachOwners := by
  unfold removeClient at hOwned
  split at hOwned
  · exact (AList.mem_erase.1 hOwned).2
  · exact hOwned

theorem reconnects_removeClient (clientId : Nat) : Reconnects idText s (s.removeClient clientId) :=
  ⟨rfl, fun _ hOwned => Or.inl (mem_owners_removeClient hOwned)⟩

theorem reconnects_becomeOwner (clientId : Nat) {terminalId : String}
  (hNone : s.pendingRead idText terminalId = none) :
  Reconnects idText s (s.becomeOwner clientId terminalId) := by
  unfold becomeOwner
  split
  · refine ⟨rfl, ?_⟩
    intro owned hOwned
    rcases (AList.mem_insert _).1 hOwned with rfl | hOld
    · exact Or.inr hNone
    · exact Or.inl hOld
  · exact ⟨rfl, fun _ hOwned => Or.inl hOwned⟩

theorem Reconnects.trans (hLeft : Reconnects idText s t) (hRight : Reconnects idText t u) :
  Reconnects idText s u := by
  obtain ⟨hSame, hOwners⟩ := hLeft
  obtain ⟨hSame', hOwners'⟩ := hRight
  refine ⟨hSame'.trans (by rw [hSame]), ?_⟩
  intro owned hOwned
  rcases hOwners' owned hOwned with hOld | hNone
  · exact hOwners owned hOld
  · rw [hSame] at hNone
    exact Or.inr hNone

theorem attachTerminalClient_reconnects (s : ReadServer) (clientId : Nat) (terminalId : String)
  (takeover : Bool) :
  Reconnects idText s (s.attachTerminalClient idText clientId terminalId takeover) := by
  unfold attachTerminalClient
  split
  · exact reconnects_removeClient clientId
  split
  · exact reconnects_removeClient clientId
  next realTerminalId terminal hReal =>
    split
    · exact reconnects_removeClient clientId
    next hFree =>
      have hNone : s.pendingRead idText terminalId = none := by
        rw [← terminalByText_some hReal]
        simpa using hFree
      split
      · exact reconnects_becomeOwner clientId hNone
      next existingOwner hOwner =>
        split
        · exact reconnects_becomeOwner clientId hNone
        split
        · exact (reconnects_removeClient existingOwner).trans
            (reconnects_becomeOwner clientId hNone)
        · exact reconnects_removeClient clientId

/-! ## Steps -/

theorem Inv.step (h : Inv idText s []) (label : ReadLabel) : Inv idText (s.step idText label) [] := by
  cases label with
  | request id method now drained =>
    refine @Inv.handleApiRequest idText now { s with received := s.received + 1 }
      ⟨id, method, s.received⟩ ?_ drained
    refine ⟨h.alone, h.unowned, h.waits, h.timed, ?_⟩
    have hMore := h.accounted.append_right [s.received]
    rw [← List.range_succ] at hMore
    exact (@List.perm_append_comm _ [s.received] _).trans hMore
  | poll now => exact h.poll now
  | processDeferred now drained => exact h.processDeferred drained
  | connect clientId pendingTerminalAttach => exact h.clients _ h.unowned
  | attach clientId terminalId takeover =>
    exact h.reconnects (attachTerminalClient_reconnects s clientId terminalId takeover)
  | disconnect clientId => exact h.reconnects (reconnects_removeClient clientId)
  | outside screens => exact h.screens screens
  | shutDown => exact ⟨h.alone, h.unowned, h.waits, h.timed, h.accounted⟩

/-! ## What other reads get -/

/-- The read in progress on the terminal that a read names. -/
def namedRead (idText : TerminalId → String) (s : ReadServer) (method : Method) :
  Option PendingRead :=
  (s.screens.readTarget idText method).bind fun target => s.pendingRead idText target.terminalId

theorem altScreenReadConflict_named {method : Method} {pending : PendingRead}
  (hNamed : s.namedRead idText method = some pending) :
  s.altScreenReadConflict idText method =
    if method.format = .text then
      .frozen (pending.traversal.frozenSnapshot method.source method.lines)
    else .defer := by
  unfold altScreenReadConflict
  unfold namedRead at hNamed
  rw [hNamed]

theorem altScreenReadConflict_unnamed {method : Method}
  (hNone : s.namedRead idText method = none) : s.altScreenReadConflict idText method = .none := by
  unfold altScreenReadConflict
  unfold namedRead at hNone
  rw [hNone]

/-- What is read is the frozen screen. -/
def ShowsFrozen (pending : PendingRead) (method : Method) (reply : Reply) : Prop :=
  ∀ read, reply = .paneRead read →
    read.text = (pending.traversal.frozenSnapshot method.source method.lines).text ∧
      read.truncated = (pending.traversal.frozenSnapshot method.source method.lines).truncated

/-- A read starts to scroll only where there is no owner and no other such read. -/
def ScrollsAlone (idText : TerminalId → String) (s t : ReadServer) : Prop :=
  t.pendingAltScreenReads = s.pendingAltScreenReads ∨
    ∃ pending, t.pendingAltScreenReads = s.pendingAltScreenReads ++ [pending] ∧
      idText pending.terminalId ∉ s.terminalAttachOwners ∧
      ∀ other ∈ s.pendingAltScreenReads, idText other.terminalId ≠ idText pending.terminalId

/-- What each step sees to while reads are in progress. -/
def Keeps (idText : TerminalId → String) (s t : ReadServer) : ReadLabel → Prop
  | .request id method _ _ => ScrollsAlone idText s t ∧
      ∀ pending, s.namedRead idText method = some pending →
        (method.format = .text → ∃ given, t.answers = s.answers ++ given ∧
          ∀ answer ∈ given, ShowsFrozen pending method answer.reply) ∧
        (method.format ≠ .text → s.shuttingDown = false →
          t.answers = s.answers ∧
            t.deferredAltScreenReads = s.deferredAltScreenReads ++ [⟨id, method, s.received⟩])
  | .processDeferred _ _ => ScrollsAlone idText s t ∧
      ∀ request ∈ s.deferredAltScreenReads, (s.namedRead idText request.method).isSome →
        request ∈ t.deferredAltScreenReads
  | .poll _ => ∀ next ∈ t.pendingAltScreenReads, ∃ pending ∈ s.pendingAltScreenReads,
      next = { pending with traversal := next.traversal } ∧
        (next.traversal.initial = pending.traversal.initial ∨
          pending.traversal.Settling ∧ next.traversal.Settling)
  | _ => t.answers = s.answers ∧ t.pendingAltScreenReads = s.pendingAltScreenReads ∧
      ∀ owned ∈ t.terminalAttachOwners,
        owned ∈ s.terminalAttachOwners ∨ s.pendingRead idText owned = none

theorem Takes.scrollsAlone (hTakes : Takes idText s request frozen now t)
  (hPending : s.pendingAltScreenReads = u.pendingAltScreenReads)
  (hOwners : s.terminalAttachOwners = u.terminalAttachOwners) : ScrollsAlone idText u t := by
  cases hTakes with
  | answer reply shown => exact Or.inl hPending
  | scroll spec read may =>
    refine Or.inr ⟨_, congrArg (· ++ _) hPending, ?_, ?_⟩
    · rw [← hOwners]
      exact may.unowned
    · rw [← hPending]
      exact may.alone

theorem handleApiRequest_scrollsAlone (drained : Screens)
  (hPending : s.pendingAltScreenReads = u.pendingAltScreenReads)
  (hOwners : s.terminalAttachOwners = u.terminalAttachOwners) :
  ScrollsAlone idText u (s.handleApiRequest idText request now drained) := by
  unfold handleApiRequest
  split
  · exact Or.inl hPending
  split
  · exact Or.inl hPending
  · exact (answerRead_takes _ _ _ _).scrollsAlone hPending hOwners
  · exact (answerRead_takes _ _ _ _).scrollsAlone hPending hOwners

/-- A text read of a pane with a read in progress. -/
theorem handleApiRequest_text {pending : PendingRead} (drained : Screens)
  (hNamed : s.namedRead idText request.method = some pending)
  (hText : request.method.format = .text) :
  ∃ given, (s.handleApiRequest idText request now drained).answers = s.answers ++ given ∧
    ∀ answer ∈ given, ShowsFrozen pending request.method answer.reply := by
  unfold handleApiRequest
  rw [altScreenReadConflict_named hNamed, if_pos hText]
  split
  · refine ⟨[_], rfl, ?_⟩
    intro answer hMem read hReply
    rw [List.mem_singleton.1 hMem] at hReply
    cases hReply
  · have hTakes := @answerRead_takes idText { s with screens := drained } request
      (some (pending.traversal.frozenSnapshot request.method.source request.method.lines)) now
    dsimp only
    generalize (answerRead idText _ request _ now) = t at hTakes ⊢
    cases hTakes with
    | answer reply shown =>
      refine ⟨[_], rfl, ?_⟩
      intro answer hMem read hReply
      rw [List.mem_singleton.1 hMem] at hReply
      exact shown read _ hReply rfl
    | scroll spec read may => exact ⟨[], by simp, fun answer hMem => absurd hMem List.not_mem_nil⟩

theorem handleApiRequest_waits {pending : PendingRead} (drained : Screens)
  (hNamed : s.namedRead idText request.method = some pending)
  (hNotText : request.method.format ≠ .text) (hUp : s.shuttingDown = false) :
  s.handleApiRequest idText request now drained =
    { s with deferredAltScreenReads := s.deferredAltScreenReads ++ [request] } := by
  unfold handleApiRequest
  rw [altScreenReadConflict_named hNamed, if_neg hNotText, if_neg (by simp [hUp])]

/-- Requests that wait go on waiting. -/
theorem handleApiRequest_deferred (drained : Screens) :
  s.deferredAltScreenReads <+:
    (s.handleApiRequest idText request now drained).deferredAltScreenReads := by
  have hTaken : ∀ frozen, s.deferredAltScreenReads <+: (({ s with
      screens := drained } : ReadServer).answerRead idText request frozen now).deferredAltScreenReads := by
    intro frozen
    have hTakes := @answerRead_takes idText { s with screens := drained } request frozen now
    generalize (answerRead idText _ request frozen now) = t at hTakes ⊢
    cases hTakes with
    | answer reply shown => exact List.prefix_refl _
    | scroll spec read may => exact List.prefix_refl _
  unfold handleApiRequest
  split
  · exact List.prefix_refl _
  split
  · exact List.prefix_append _ _
  · exact hTaken _
  · exact hTaken _

/-- The first request waits on if it names a pane with a read in progress. -/
theorem processDeferred_cases (s : ReadServer) (now : Instant) (drained : Screens) :
  (s.deferredAltScreenReads = [] ∧ s.processDeferredAltScreenRead idText now drained = s) ∨
    ∃ request rest, s.deferredAltScreenReads = request :: rest ∧
      ((s.namedRead idText request.method).isSome ∧
          s.processDeferredAltScreenRead idText now drained =
            { s with deferredAltScreenReads := rest ++ [request] } ∨
        s.namedRead idText request.method = none ∧
          s.processDeferredAltScreenRead idText now drained =
            ({ s with deferredAltScreenReads := rest } : ReadServer).handleApiRequest idText request
              now drained) := by
  unfold processDeferredAltScreenRead
  cases hDeferred : s.deferredAltScreenReads with
  | nil => exact Or.inl ⟨rfl, rfl⟩
  | cons request rest =>
    refine Or.inr ⟨request, rest, rfl, ?_⟩
    dsimp only
    cases hNamed : s.namedRead idText request.method with
    | none =>
      refine Or.inr ⟨rfl, ?_⟩
      rw [@altScreenReadConflict_unnamed idText { s with deferredAltScreenReads := rest }
        request.method hNamed]
    | some pending =>
      refine Or.inl ⟨rfl, ?_⟩
      rw [@altScreenReadConflict_named idText { s with deferredAltScreenReads := rest }
        request.method pending hNamed]
      split_ifs
      · rfl
      · rfl

theorem processDeferred_keeps (s : ReadServer) (now : Instant) (drained : Screens) :
  ScrollsAlone idText s (s.processDeferredAltScreenRead idText now drained) ∧
    ∀ request ∈ s.deferredAltScreenReads, (s.namedRead idText request.method).isSome →
      request ∈ (s.processDeferredAltScreenRead idText now drained).deferredAltScreenReads := by
  rcases @processDeferred_cases idText s now drained with ⟨-, hState⟩ |
    ⟨request, rest, hDeferred, ⟨-, hState⟩ | ⟨hNone, hState⟩⟩
  · rw [hState]
    exact ⟨Or.inl rfl, fun request hMem _ => hMem⟩
  · rw [hState, hDeferred]
    refine ⟨Or.inl rfl, ?_⟩
    intro other hMem _
    rcases List.mem_cons.1 hMem with rfl | hRest
    · exact List.mem_append_right _ List.mem_cons_self
    · exact List.mem_append_left _ hRest
  · rw [hState, hDeferred]
    refine ⟨handleApiRequest_scrollsAlone drained rfl rfl, ?_⟩
    intro other hMem hNamed
    rcases List.mem_cons.1 hMem with rfl | hRest
    · rw [hNone] at hNamed
      cases hNamed
    · exact (@handleApiRequest_deferred idText now { s with deferredAltScreenReads := rest } request
        drained).subset hRest

theorem poll_keeps (h : Inv idText s []) (now : Instant) :
  ∀ next ∈ (s.pollPendingAltScreenReads idText now).pendingAltScreenReads,
    ∃ pending ∈ s.pendingAltScreenReads, next = { pending with traversal := next.traversal } ∧
      (next.traversal.initial = pending.traversal.initial ∨
        pending.traversal.Settling ∧ next.traversal.Settling) := by
  intro next hMem
  rw [pollPendingAltScreenReads_eq] at hMem
  obtain ⟨pending, hPending, hNext⟩ := List.mem_filterMap.1 hMem
  refine ⟨pending, hPending, (goingOn_some hNext).1, ?_⟩
  rcases waitsOrGoesOn_of_goingOn (h.timed pending hPending) hNext with hGoes | ⟨-, valid, hSame⟩
  · exact hGoes.screen
  · exact Or.inl (by rw [hSame])

theorem step_keeps (h : Inv idText s []) (label : ReadLabel) :
  Keeps idText s (s.step idText label) label := by
  cases label with
  | request id method now drained =>
    refine ⟨handleApiRequest_scrollsAlone drained rfl rfl, ?_⟩
    intro pending hNamed
    constructor
    · intro hText
      exact @handleApiRequest_text idText now { s with received := s.received + 1 }
        ⟨id, method, s.received⟩ pending drained hNamed hText
    · intro hNotText hUp
      have hWaits := @handleApiRequest_waits idText now { s with received := s.received + 1 }
        ⟨id, method, s.received⟩ pending drained hNamed hNotText hUp
      change (handleApiRequest idText _ _ now drained).answers = _ ∧
        (handleApiRequest idText _ _ now drained).deferredAltScreenReads = _
      rw [hWaits]
      exact ⟨rfl, rfl⟩
  | poll now => exact poll_keeps h now
  | processDeferred now drained => exact processDeferred_keeps s now drained
  | connect clientId pendingTerminalAttach => exact ⟨rfl, rfl, fun owned hOwned => Or.inl hOwned⟩
  | attach clientId terminalId takeover =>
    obtain ⟨hSame, hOwners⟩ := @attachTerminalClient_reconnects idText s clientId terminalId takeover
    have hAnswers := congrArg answers hSame
    have hPending := congrArg pendingAltScreenReads hSame
    exact ⟨hAnswers, hPending, hOwners⟩
  | disconnect clientId => exact ⟨rfl, rfl, fun owned hOwned => Or.inl (mem_owners_removeClient hOwned)⟩
  | outside screens => exact ⟨rfl, rfl, fun owned hOwned => Or.inl hOwned⟩
  | shutDown => exact ⟨rfl, rfl, fun owned hOwned => Or.inl hOwned⟩

/-! ## Every wait ends -/

theorem goesOn_of_poll (h : Inv idText s [])
  (hDue : ∀ pending ∈ s.pendingAltScreenReads, pending.traversal.nextPollAt ≤ now)
  (hMem : next ∈ (s.pollPendingAltScreenReads idText now).pendingAltScreenReads) :
  ∃ pending ∈ s.pendingAltScreenReads, pending.traversal.GoesOn now next.traversal := by
  rw [pollPendingAltScreenReads_eq] at hMem
  obtain ⟨pending, hPending, hNext⟩ := List.mem_filterMap.1 hMem
  refine ⟨pending, hPending, ?_⟩
  rcases waitsOrGoesOn_of_goingOn (h.timed pending hPending) hNext with hGoes | ⟨hEarly, -⟩
  · exact hGoes
  · exact absurd (hDue pending hPending) (Nat.not_le_of_lt hEarly)

/-- The polls of the server loop at three times. -/
def pollThrice (idText : TerminalId → String) (s : ReadServer) (first second third : Instant) :
  ReadServer :=
  ((s.pollPendingAltScreenReads idText first).pollPendingAltScreenReads idText
    second).pollPendingAltScreenReads idText third

/-- Three polls end every read: the first past its deadline, the others each a
restore's time later. -/
theorem pollThrice_ends (h : Inv idText s []) {first second third : Instant}
  (hFirst : ∀ pending ∈ s.pendingAltScreenReads, pending.traversal.nextPollAt ≤ first ∧
    pending.traversal.startedAt + maxDuration ≤ first)
  (hSecond : first + maxRestoreDuration ≤ second) (hThird : second + maxRestoreDuration ≤ third) :
  (s.pollThrice idText first second third).pendingAltScreenReads = [] := by
  have hSettle : stepSettle ≤ maxRestoreDuration := by decide
  have hSecondLe : first ≤ second := Nat.le_trans (Nat.le_add_right _ _) hSecond
  have hThirdLe : second ≤ third := Nat.le_trans (Nat.le_add_right _ _) hThird
  have hInvFirst := h.poll first
  have hInvSecond := hInvFirst.poll second
  -- After the first poll each read closes.
  have hClosing : ∀ next ∈ (s.pollPendingAltScreenReads idText first).pendingAltScreenReads,
      next.traversal.Closing first ∧ next.traversal.nextPollAt ≤ second ∧
        next.traversal.startedAt + maxDuration ≤ first := by
    intro next hMem
    obtain ⟨pending, hPending, hGoes⟩ := goesOn_of_poll h (fun p hp => (hFirst p hp).1) hMem
    obtain ⟨-, hPast⟩ := hFirst pending hPending
    refine ⟨PendingAltScreenRead.closing_of_goesOn hGoes (h.timed pending hPending) hPast, ?_, ?_⟩
    · rw [hGoes.again]
      exact Nat.le_trans (Nat.add_le_add_left hSettle _) hSecond
    · rw [hGoes.startedAt]
      exact hPast
  -- After the second it restores, since then.
  have hRestoring : ∀ next ∈ ((s.pollPendingAltScreenReads idText first).pollPendingAltScreenReads
      idText second).pendingAltScreenReads,
      (next.traversal.Restoring ∧ next.traversal.restoreStartedAt = some second) ∧
        next.traversal.nextPollAt ≤ third ∧ next.traversal.startedAt + maxDuration ≤ second := by
    intro next hMem
    obtain ⟨pending, hPending, hGoes⟩ :=
      goesOn_of_poll hInvFirst (fun p hp => (hClosing p hp).2.1) hMem
    obtain ⟨hCloses, -, hPast⟩ := hClosing pending hPending
    have hPastLater := Nat.le_trans hPast hSecondLe
    refine ⟨PendingAltScreenRead.restoring_of_closing hCloses hGoes hSecond hPastLater, ?_, ?_⟩
    · rw [hGoes.again]
      exact Nat.le_trans (Nat.add_le_add_left hSettle _) hThird
    · rw [hGoes.startedAt]
      exact hPastLater
  -- The third finds the restore past its deadline.
  rw [List.eq_nil_iff_forall_not_mem]
  intro next hMem
  obtain ⟨pending, hPending, hGoes⟩ :=
    goesOn_of_poll hInvSecond (fun p hp => (hRestoring p hp).2.1) hMem
  obtain ⟨⟨hRestores, hSome⟩, -, hPast⟩ := hRestoring pending hPending
  exact PendingAltScreenRead.not_goesOn_of_restoring hRestores hSome hThird
    (Nat.le_trans hPast hThirdLe) hGoes

/-- With no read in progress, the first waiting request is answered. -/
theorem processDeferred_answers (h : Inv idText s []) (hIdle : s.pendingAltScreenReads = [])
  {rest : List ReadRequest} (hDeferred : s.deferredAltScreenReads = request :: rest)
  (now : Instant) (drained : Screens) :
  (s.processDeferredAltScreenRead idText now drained).pendingAltScreenReads = [] ∧
    (s.processDeferredAltScreenRead idText now drained).deferredAltScreenReads = rest ∧
      (s.processDeferredAltScreenRead idText now drained).received = s.received := by
  have hNotText := h.waits request (by rw [hDeferred]; exact List.mem_cons_self)
  have hUnnamed : s.namedRead idText request.method = none := by
    unfold namedRead pendingRead
    rw [hIdle]
    cases s.screens.readTarget idText request.method with
    | none => rfl
    | some target => rfl
  have hNone := @altScreenReadConflict_unnamed idText { s with deferredAltScreenReads := rest }
    request.method hUnnamed
  unfold processDeferredAltScreenRead
  rw [hDeferred]
  dsimp only
  rw [hNone]
  dsimp only
  unfold handleApiRequest
  rw [hNone]
  split
  · exact ⟨hIdle, rfl, rfl⟩
  have hTakes := @answerRead_takes idText { s with
    deferredAltScreenReads := rest
    screens := drained } request none now
  generalize (answerRead idText _ request none now) = t at hTakes ⊢
  cases hTakes with
  | answer reply shown => exact ⟨hIdle, rfl, rfl⟩
  | scroll spec read may => exact absurd may.text hNotText

/-- The waiting requests are looked at one after the other. -/
def processAll (idText : TerminalId → String) (s : ReadServer)
  (turns : List (Instant × Screens)) : ReadServer :=
  turns.foldl (fun s turn => s.processDeferredAltScreenRead idText turn.1 turn.2) s

theorem processAll_answers {turns : List (Instant × Screens)} (h : Inv idText s [])
  (hIdle : s.pendingAltScreenReads = []) (hLength : turns.length = s.deferredAltScreenReads.length) :
  Inv idText (s.processAll idText turns) [] ∧
    (s.processAll idText turns).waiting = [] ∧
      (s.processAll idText turns).received = s.received := by
  induction turns generalizing s with
  | nil =>
    have hNone := List.length_eq_zero_iff.1 hLength.symm
    refine ⟨h, ?_, rfl⟩
    change s.waiting = []
    rw [waiting, hIdle, hNone]
    rfl
  | cons turn turns ih =>
    cases hDeferred : s.deferredAltScreenReads with
    | nil =>
      rw [hDeferred] at hLength
      cases hLength
    | cons request rest =>
      obtain ⟨hStill, hRest, hSame⟩ := processDeferred_answers h hIdle hDeferred turn.1 turn.2
      have hLater := ih (h.processDeferred turn.2) hStill (by
        rw [hRest]
        rw [hDeferred] at hLength
        simpa using hLength)
      rwa [hSame] at hLater

/-! ## Runs -/

/-- At most one read scrolls a terminal, none where there is an owner, and every
request was answered once or waits in one place. -/
structure Orderly (idText : TerminalId → String) (s : ReadServer) : Prop where
  alone : (s.pendingAltScreenReads.map fun pending => idText pending.terminalId).Nodup
  unowned : ∀ pending ∈ s.pendingAltScreenReads, idText pending.terminalId ∉ s.terminalAttachOwners
  accounted : (s.answered ++ s.waiting).Perm (List.range s.received)

/-- The server loop answers every request: three polls end the reads in progress,
and then the waiting requests are answered in turn. -/
def AnswersAll (idText : TerminalId → String) (s : ReadServer) : Prop :=
  ∀ first second third turns,
    (∀ pending ∈ s.pendingAltScreenReads, pending.traversal.nextPollAt ≤ first ∧
      pending.traversal.startedAt + maxDuration ≤ first) →
    first + maxRestoreDuration ≤ second → second + maxRestoreDuration ≤ third →
    turns.length = s.deferredAltScreenReads.length →
      ((s.pollThrice idText first second third).processAll idText turns).answered.Perm
        (List.range s.received)

theorem Inv.answersAll (h : Inv idText s []) : AnswersAll idText s := by
  intro first second third turns hFirst hSecond hThird hLength
  have hIdle := pollThrice_ends h hFirst hSecond hThird
  have hInv : Inv idText (s.pollThrice idText first second third) [] :=
    ((h.poll first).poll second).poll third
  have hSame : (s.pollThrice idText first second third).deferredAltScreenReads =
      s.deferredAltScreenReads ∧
        (s.pollThrice idText first second third).received = s.received := by
    unfold pollThrice
    rw [pollPendingAltScreenReads_eq, pollPendingAltScreenReads_eq, pollPendingAltScreenReads_eq]
    exact ⟨rfl, rfl⟩
  obtain ⟨hEnd, hNone, hReceived⟩ := processAll_answers hInv hIdle (by rw [hSame.1, hLength])
  have hAccounted := hEnd.accounted
  rwa [hNone, List.append_nil, List.nil_append, hReceived, hSame.2] at hAccounted

/-- While a read scrolls a terminal it does so alone: nobody attaches, another text
read that succeeds gets its screen, any other waits, and all are answered. -/
theorem alt_screen_reads_shared {screens : Screens} {labels : List ReadLabel}
  (hRun : Run (ofFunction (step idText)) (start screens) labels s) :
  Orderly idText s ∧ (∀ label, Keeps idText s (s.step idText label) label) ∧
    AnswersAll idText s := by
  have hInv : Inv idText s [] := by
    apply @Run.preserves _ _ _ (fun s => Inv idText s []) _ _ _ hRun (Inv.start screens)
    intro u label v hBefore hStep
    rw [hStep]
    exact hBefore.step label
  exact ⟨⟨hInv.alone, hInv.unowned, hInv.accounted⟩, step_keeps hInv, hInv.answersAll⟩

/-! ## An agent that is read -/

def terminalName (id : TerminalId) : String := "term_" ++ toString id.counter

def coderWorkspace : Workspace :=
  (Workspace.fromExistingPane none none ⟨⟨1⟩, .new ⟨1⟩⟩ IdCounters.initial).2

/-- One agent, in the given state, with the given rows on the alternate screen. -/
def coderScreens (state : Detect.AgentState) (rows : List Nat) : Screens where
  app := { AppState.initial ⟨false, .island, .toast, 0, .off⟩ with
    workspaces := [coderWorkspace]
    terminals := (∅ : FinMap TerminalId TerminalState).insert ⟨1⟩
      { TerminalState.new with
        detectedAgent := some .claude
        agentName := some "coder"
        state } }
  runtimes := (∅ : FinMap TerminalId PaneRuntime).insert ⟨1⟩ {
    screenText := some (.alternate, AltScreenRun.columnScreen rows)
    wheelRouting := some .mouseReport
    encodesWheel := true
    acceptsBytes := true
    visibleText := ""
    detectionText := ""
    visibleAnsi := ""
    recentText := fun _ => ⟨"", false⟩
    recentUnwrappedText := fun _ => ⟨"", false⟩
    recentAnsi := fun _ => ⟨"", false⟩
    recentUnwrappedAnsi := fun _ => ⟨"", false⟩ }

def readCoder : Method := .agentRead ⟨"coder", .recent, some 80, .text⟩

/-- A client attaches in vain while the agent is read. -/
def attachDuringRead : List ReadLabel :=
  [.request "first" readCoder 0 (coderScreens .idle [97, 98]), .connect 7 true,
    .attach 7 "term_1" true]

theorem alt_screen_reads_shared_attachDuringRead :
  Orderly terminalName
      (attachDuringRead.foldl (step terminalName) (start (coderScreens .idle [97, 98]))) ∧
    (∀ label, Keeps terminalName
      (attachDuringRead.foldl (step terminalName) (start (coderScreens .idle [97, 98])))
      ((attachDuringRead.foldl (step terminalName)
        (start (coderScreens .idle [97, 98]))).step terminalName label) label) ∧
    AnswersAll terminalName
      (attachDuringRead.foldl (step terminalName) (start (coderScreens .idle [97, 98]))) :=
  alt_screen_reads_shared ((run_ofFunction_iff _).2 rfl)

/-- In every run a text read of a pane, made while a read that started earlier in the
run scrolls it, is answered with a reply of which the predicate holds. -/
def DuringRead (idText : TerminalId → String) (Holds : PendingRead → Method → Reply → Prop) : Prop :=
  ∀ (screens : Screens) (first second : List ReadLabel) (s t : ReadServer) (label : ReadLabel)
    (started : PendingRead) (id : String) (method : Method) (now : Instant) (drained : Screens)
    (reply : Reply),
    Run (ofFunction (step idText)) (start screens) first s →
      (s.step idText label).pendingAltScreenReads = s.pendingAltScreenReads ++ [started] →
      Run (ofFunction (step idText)) (s.step idText label) second t →
      (t.namedRead idText method).map (·.respondTo) = some started.respondTo →
      method.format = .text →
      (t.step idText (.request id method now drained)).answers =
        t.answers ++ [⟨t.received, id, reply⟩] →
      Holds started method reply

def readsText (_ : PendingRead) (_ : Method) : Reply → Prop
  | .paneRead _ => True
  | .error _ => False

def readsStart (started : PendingRead) (method : Method) : Reply → Prop
  | .paneRead read =>
    read.text = (started.traversal.frozenSnapshot method.source method.lines).text
  | .error _ => True

/-- A read of an agent that has got to work is refused, and the screen is taken
anew as long as nothing is scrolled. -/
theorem not_duringRead_readsText_readsStart :
  ¬ DuringRead terminalName readsText ∧ ¬ DuringRead terminalName readsStart := by
  let idle := coderScreens .idle [97, 98]
  let start := start idle
  let request : ReadLabel := .request "first" readCoder 0 idle
  have hStarted : ∃ started ∈ (start.step terminalName request).pendingAltScreenReads,
      (start.step terminalName request).pendingAltScreenReads = [started] ∧
        started.respondTo = 0 ∧
          (started.traversal.frozenSnapshot .recent (some 80)).text = "a\nb\n" := by
    decide +kernel
  obtain ⟨started, -, hStarts, hChannel, hText⟩ := hStarted
  constructor
  · intro hClaim
    let busy := coderScreens .working [97, 98]
    let t := [.outside busy].foldl (step terminalName) (start.step terminalName request)
    refine hClaim idle [] [.outside busy] start t request started "second" readCoder 0 busy
      (.error ⟨"agent_not_idle", "cannot read 80 lines while coder is working: its " ++
        "alternate-screen history can only be captured by scrolling while idle. " ++
        "Wait and retry, or use --source visible"⟩) (.zero _) hStarts
      ((run_ofFunction_iff _).2 rfl) ?_ rfl ?_
    · rw [hChannel]
      decide +kernel
    · decide +kernel
  · intro hClaim
    let other := coderScreens .idle [120, 121]
    let t := [.outside other, .poll (millis 120)].foldl (step terminalName)
      (start.step terminalName request)
    have hReply := hClaim idle [] [.outside other, .poll (millis 120)] start t request started
      "second" readCoder (millis 130) other
      (.paneRead ⟨"w1:p1", "w1", "w1:t1", .recent, .text, "x\ny\n", 0, false⟩) (.zero _) hStarts
      ((run_ofFunction_iff _).2 rfl) (by rw [hChannel]; decide +kernel) rfl (by decide +kernel)
    change "x\ny\n" = (started.traversal.frozenSnapshot .recent (some 80)).text at hReply
    rw [hText] at hReply
    revert hReply
    decide

end ReadServer

end Server
