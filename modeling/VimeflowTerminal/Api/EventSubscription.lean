import VimeflowTerminal.Api.EventHub
import VimeflowTerminal.Transition.Run

/-! A subscription to one kind of events reads the hub from its first retained
event on and returns one event a poll. -/

namespace Api

open Transition BoundedLog EventHub

structure ActiveEventSubscription where
  eventKind : EventKind
  lastSequence : Nat

namespace ActiveEventSubscription

def new (eventKind : EventKind) : ActiveEventSubscription := ⟨eventKind, 0⟩

/-- Move the cursor to the next event of the kind, or past all events. -/
def scan (sub : ActiveEventSubscription) :
  List (Nat × EventEnvelope) → ActiveEventSubscription × Option EventEnvelope
  | [] => (sub, none)
  | (sequence, event) :: rest =>
    let sub := { sub with lastSequence := sequence }
    if event.event = sub.eventKind then (sub, some event) else scan sub rest

def poll (sub : ActiveEventSubscription) (hub : EventHub) :
  ActiveEventSubscription × Option EventEnvelope :=
  sub.scan (hub.eventsAfter sub.lastSequence)

/-- A scan of consecutive events skips those of other kinds and stops after the
first of its kind. -/
theorem scan_spec (sub : ActiveEventSubscription) (first : Nat) (events : List EventEnvelope) :
  ∃ skipped rest, (∀ event ∈ skipped, event.event ≠ sub.eventKind) ∧
    (events = skipped ∧ rest = [] ∧
        sub.scan (numbered (first + 1) events) = ({ sub with
          lastSequence := if events = [] then sub.lastSequence else first + events.length },
          none) ∨
      ∃ event, events = skipped ++ event :: rest ∧ event.event = sub.eventKind ∧
        sub.scan (numbered (first + 1) events) =
          ({ sub with lastSequence := first + (skipped.length + 1) }, some event)) := by
  induction events generalizing sub first with
  | nil => exact ⟨[], [], by simp, Or.inl ⟨rfl, rfl, rfl⟩⟩
  | cons event events ih =>
    by_cases hKind : event.event = sub.eventKind
    · refine ⟨[], events, by simp, Or.inr ⟨event, rfl, hKind, ?_⟩⟩
      simp [numbered, scan, hKind]
    obtain ⟨skipped, rest, hSkipped, hScan⟩ := ih { sub with lastSequence := first + 1 } (first + 1)
    refine ⟨event :: skipped, rest, ?_, ?_⟩
    · intro other hMem
      rcases List.mem_cons.1 hMem with rfl | hRest
      · exact hKind
      · exact hSkipped other hRest
    · simp only [numbered, scan, hKind, if_false]
      rcases hScan with ⟨hEvents, hRest, hResult⟩ | ⟨found, hEvents, hFound, hResult⟩
      · refine Or.inl ⟨congrArg _ hEvents, hRest, ?_⟩
        rw [hResult]
        by_cases hEmpty : events = []
        · simp [hEmpty]
        · simp [hEmpty, Nat.add_assoc, Nat.add_comm 1]
      · refine Or.inr ⟨found, congrArg _ hEvents, hFound, ?_⟩
        rw [hResult]
        simp [Nat.add_assoc, Nat.add_comm 1]

end ActiveEventSubscription

/-- A hub with a subscription: the events pushed since it started, the events it
returned, and the number of pushes since a poll last emptied the backlog. -/
structure Feed where
  hub : EventHub
  subscription : ActiveEventSubscription
  pushed : List EventEnvelope
  returned : List EventEnvelope
  gap : Nat

inductive FeedStep where
  | push (event : EventEnvelope)
  | poll

namespace Feed

/-- A subscription starts when some events have been pushed. -/
def start (eventKind : EventKind) (earlier : List EventEnvelope) : Feed where
  hub := earlier.foldl push BoundedLog.empty
  subscription := .new eventKind
  pushed := []
  returned := []
  gap := 0

def backlog (feed : Feed) : List (Nat × EventEnvelope) :=
  feed.hub.eventsAfter feed.subscription.lastSequence

def step (feed : Feed) : FeedStep → Feed
  | .push event =>
    { feed with
      hub := feed.hub.push event
      pushed := feed.pushed ++ [event]
      gap := feed.gap + 1 }
  | .poll =>
    let (subscription, event) := feed.subscription.poll feed.hub
    let polled := { feed with subscription, returned := feed.returned ++ event.toList }
    { polled with gap := if polled.backlog.isEmpty then 0 else feed.gap }

/-- No more events than the hub retains are pushed between two polls that empty
the backlog. -/
def Timely (feed : Feed) : FeedStep → Prop
  | .push _ => feed.gap < maxEvents
  | .poll => True

instance Timely.decidable (feed : Feed) : (label : FeedStep) → Decidable (Timely feed label)
  | .push _ => inferInstanceAs (Decidable (_ < _))
  | .poll => isTrue trivial

/-- The events of a kind. -/
def ofKind (eventKind : EventKind) (events : List EventEnvelope) : List EventEnvelope :=
  events.filter fun event => event.event = eventKind

theorem ofKind_append (eventKind : EventKind) (events events' : List EventEnvelope) :
  ofKind eventKind (events ++ events') = ofKind eventKind events ++ ofKind eventKind events' :=
  List.filter_append events events'

theorem ofKind_others {eventKind : EventKind} {events : List EventEnvelope}
  (hOthers : ∀ event ∈ events, event.event ≠ eventKind) : ofKind eventKind events = [] := by
  refine List.filter_eq_nil_iff.2 ?_
  intro event hMem hKind
  exact hOthers event hMem (of_decide_eq_true hKind)

/-- The subscription has read a part of what it will read in all: some events from
before its start and every event since. Only the former can get lost. -/
structure Follows (eventKind : EventKind) (earlier kept read : List EventEnvelope) (feed : Feed) :
  Prop where
  kind : feed.subscription.eventKind = eventKind
  hub : Holds maxEvents feed.hub (earlier ++ feed.pushed)
  behind : feed.subscription.lastSequence ≤ (earlier ++ feed.pushed).length
  older : kept.Sublist earlier
  returned : feed.returned = ofKind eventKind read
  rest : read ++ unread maxEvents (earlier ++ feed.pushed) feed.subscription.lastSequence =
    kept ++ feed.pushed
  recent : (unread maxEvents (earlier ++ feed.pushed)
    feed.subscription.lastSequence).length ≤ feed.gap + (kept.length - read.length)

variable {eventKind : EventKind} {earlier kept read : List EventEnvelope} {feed : Feed}

theorem holds_foldl (earlier : List EventEnvelope) :
  Holds maxEvents (earlier.foldl push BoundedLog.empty) earlier := by
  induction earlier using List.reverseRecOn with
  | nil => exact Holds.empty _
  | append_singleton earlier event ih =>
    rw [List.foldl_append]
    exact ih.push event

theorem start_pushed (earlier : List EventEnvelope) :
  earlier ++ (start eventKind earlier).pushed = earlier := List.append_nil earlier

theorem push_pushed (earlier : List EventEnvelope) (feed : Feed) (event : EventEnvelope) :
  earlier ++ (feed.step (.push event)).pushed = (earlier ++ feed.pushed) ++ [event] :=
  (List.append_assoc _ _ _).symm

theorem follows_start (eventKind : EventKind) (earlier : List EventEnvelope) :
  ∃ kept, Follows eventKind earlier kept [] (start eventKind earlier) := by
  refine ⟨unread maxEvents earlier 0, rfl, ?_, Nat.zero_le _, List.drop_sublist _ _, rfl,
    ?_, ?_⟩
  · rw [start_pushed]
    exact holds_foldl earlier
  · rw [start_pushed]
    exact (List.append_nil _).symm
  · rw [start_pushed]
    exact Nat.le_add_left _ _

section

variable (h : Follows eventKind earlier kept read feed)
include h

/-- A timely push loses at most an event from before the start. -/
theorem Follows.push
  (hGap : feed.gap < maxEvents) (event : EventEnvelope) :
  ∃ kept', Follows eventKind earlier kept' read (feed.step (.push event)) := by
  have hPushed := push_pushed earlier feed event
  have hHub := h.hub.push event
  have hUnread := unread_push h.behind maxEvents_pos event
  have hLength := length_unread_le maxEvents (earlier ++ feed.pushed)
    feed.subscription.lastSequence
  have hRecent := h.recent
  have hBehind : feed.subscription.lastSequence ≤ ((earlier ++ feed.pushed) ++ [event]).length := by
    have hOld := h.behind
    rw [List.length_append]
    omega
  have hAll : read ++ (unread maxEvents (earlier ++ feed.pushed)
      feed.subscription.lastSequence ++ [event]) = kept ++ (feed.pushed ++ [event]) := by
    rw [← List.append_assoc, h.rest, List.append_assoc]
  by_cases hFull : (unread maxEvents (earlier ++ feed.pushed)
      feed.subscription.lastSequence).length = maxEvents
  · -- the oldest unread event is dropped, and it is one of those kept so far
    have hOlder : read.length < kept.length := by omega
    have hOne : maxEvents + 1 - maxEvents = 1 := by omega
    rw [hFull, hOne] at hUnread
    refine ⟨kept.eraseIdx read.length, h.kind, hPushed ▸ hHub, hPushed ▸ hBehind,
      (List.eraseIdx_sublist _ _).trans h.older, h.returned, ?_, ?_⟩
    · rw [hPushed]
      show read ++ unread _ _ feed.subscription.lastSequence = _
      have hErase := congrArg (fun events => List.eraseIdx events read.length) hAll
      rw [List.eraseIdx_append_of_length_le (Nat.le_refl _), Nat.sub_self, List.eraseIdx_zero,
        List.eraseIdx_append_of_lt_length hOlder] at hErase
      rw [hUnread, List.drop_one]
      exact hErase
    · rw [hPushed]
      show (unread _ _ feed.subscription.lastSequence).length ≤ feed.gap + 1 + _
      rw [hUnread, List.length_drop, List.length_append, List.length_singleton,
        List.length_eraseIdx_of_lt hOlder]
      omega
  · have hNone : (unread maxEvents (earlier ++ feed.pushed)
        feed.subscription.lastSequence).length + 1 - maxEvents = 0 := by omega
    rw [hNone, List.drop_zero] at hUnread
    refine ⟨kept, h.kind, hPushed ▸ hHub, hPushed ▸ hBehind, h.older, h.returned, ?_, ?_⟩
    · rw [hPushed]
      show read ++ unread _ _ feed.subscription.lastSequence = _
      rw [hUnread]
      exact hAll
    · rw [hPushed]
      show (unread _ _ feed.subscription.lastSequence).length ≤ feed.gap + 1 + _
      rw [hUnread, List.length_append, List.length_singleton]
      omega

theorem backlog_eq :
  feed.backlog = numbered (max feed.subscription.lastSequence
      ((earlier ++ feed.pushed).length - maxEvents) + 1)
    (unread maxEvents (earlier ++ feed.pushed) feed.subscription.lastSequence) :=
  h.hub.eventsAfter _

/-- A poll that moves the cursor past `passed` has read just these events. -/
theorem Follows.advance
  (subscription : ActiveEventSubscription) (passed rest : List EventEnvelope)
  {returned : List EventEnvelope} (gap : Nat) (hKind : subscription.eventKind = eventKind)
  (hUnread : unread maxEvents (earlier ++ feed.pushed)
    feed.subscription.lastSequence = passed ++ rest)
  (hLast : subscription.lastSequence = if passed = [] then feed.subscription.lastSequence else
    max feed.subscription.lastSequence
      ((earlier ++ feed.pushed).length - maxEvents) + passed.length)
  (hReturned : returned = feed.returned ++ ofKind eventKind passed)
  (hGap : feed.gap ≤ gap ∨ rest = []) :
  Follows eventKind earlier kept (read ++ passed)
    { feed with subscription, returned, gap } := by
  have hRest : unread maxEvents (earlier ++ feed.pushed) subscription.lastSequence =
      rest := by
    by_cases hEmpty : passed = []
    · rw [hLast, if_pos hEmpty, hUnread, hEmpty, List.nil_append]
    · rw [hLast, if_neg hEmpty]
      exact unread_advance hUnread
  have hLengths := congrArg List.length hUnread
  have hRecent := h.recent
  have hBehind := h.behind
  refine ⟨hKind, h.hub, ?_, h.older, ?_, ?_, ?_⟩
  · show subscription.lastSequence ≤ (earlier ++ feed.pushed).length
    rw [hLast]
    split
    · exact hBehind
    next hSome =>
      have hPassed := List.length_pos_iff.2 hSome
      have hParts : (passed ++ rest).length = passed.length + rest.length := List.length_append
      unfold unread at hLengths
      rw [List.length_drop, hParts] at hLengths
      omega
  · rw [hReturned, h.returned, ofKind_append]
  · rw [hRest, List.append_assoc, ← hUnread]
    exact h.rest
  · show (unread _ _ subscription.lastSequence).length ≤ gap + _
    rw [hRest, List.length_append]
    rw [List.length_append] at hLengths
    rcases hGap with hSame | hDone
    · omega
    · rw [hDone]
      exact Nat.zero_le _

theorem Follows.poll :
  ∃ read', Follows eventKind earlier kept read' (feed.step .poll) := by
  obtain ⟨skipped, rest, hSkipped, hScan⟩ := feed.subscription.scan_spec
    (max feed.subscription.lastSequence ((earlier ++ feed.pushed).length - maxEvents))
    (unread maxEvents (earlier ++ feed.pushed) feed.subscription.lastSequence)
  rw [h.kind] at hSkipped
  have hPoll : feed.subscription.poll feed.hub = feed.subscription.scan
      (numbered (max feed.subscription.lastSequence
        ((earlier ++ feed.pushed).length - maxEvents) + 1)
      (unread maxEvents (earlier ++ feed.pushed) feed.subscription.lastSequence)) :=
    congrArg feed.subscription.scan (backlog_eq h)
  rcases hScan with ⟨hUnread, -, hResult⟩ | ⟨event, hUnread, hEvent, hResult⟩
  · have hNone := ofKind_others hSkipped
    refine ⟨read ++ skipped, ?_⟩
    rw [hUnread] at hResult
    unfold step
    rw [hPoll, hUnread, hResult]
    exact h.advance _ skipped [] _ h.kind (by rw [hUnread, List.append_nil]) rfl
      (by rw [hNone, Option.toList_none]) (Or.inr rfl)
  · refine ⟨read ++ (skipped ++ [event]), ?_⟩
    unfold step
    dsimp only
    rw [hPoll, hResult]
    have hPassed : ofKind eventKind (skipped ++ [event]) = [event] := by
      rw [ofKind_append, ofKind_others hSkipped, List.nil_append]
      simp [ofKind, hEvent, h.kind]
    have hLast : max feed.subscription.lastSequence
          ((earlier ++ feed.pushed).length - maxEvents) + (skipped.length + 1) =
        if skipped ++ [event] = [] then feed.subscription.lastSequence else
          max feed.subscription.lastSequence
            ((earlier ++ feed.pushed).length - maxEvents) + (skipped ++ [event]).length := by
      simp
    have hFollows := fun gap hGap => h.advance { feed.subscription with
        lastSequence := max feed.subscription.lastSequence
          ((earlier ++ feed.pushed).length - maxEvents) + (skipped.length + 1) }
      (skipped ++ [event]) rest gap h.kind (by rw [hUnread, List.append_assoc]; rfl) hLast
      (congrArg (feed.returned ++ ·) hPassed.symm) hGap
    split
    next hEmptied =>
      refine hFollows 0 (Or.inr ?_)
      have hBacklog := backlog_eq (hFollows feed.gap (Or.inl (Nat.le_refl _)))
      have hLength := congrArg List.length (hBacklog.symm.trans (List.isEmpty_iff.1 hEmptied))
      rw [length_numbered] at hLength
      have hRest := unread_advance (hUnread.trans (List.append_assoc skipped [event] rest).symm)
      have hOne : (skipped ++ [event]).length = skipped.length + 1 := List.length_append
      rw [hOne] at hRest
      exact hRest.symm.trans (List.length_eq_zero_iff.1 hLength)
    · exact hFollows feed.gap (Or.inl (Nat.le_refl _))

end

/-- What holds even when the hub drops events that the subscription has not read. -/
structure Trails (eventKind : EventKind) (earlier : List EventEnvelope) (feed : Feed) : Prop where
  kind : feed.subscription.eventKind = eventKind
  hub : Holds maxEvents feed.hub (earlier ++ feed.pushed)
  behind : feed.subscription.lastSequence ≤ (earlier ++ feed.pushed).length
  returned : feed.returned.Sublist
    (ofKind eventKind ((earlier ++ feed.pushed).take feed.subscription.lastSequence))

theorem trails_push (h : Trails eventKind earlier feed) (event : EventEnvelope) :
  Trails eventKind earlier (feed.step (.push event)) := by
  have hPushed := push_pushed earlier feed event
  refine ⟨h.kind, hPushed ▸ h.hub.push event, ?_, ?_⟩
  · rw [hPushed, List.length_append]
    exact Nat.le_trans h.behind (Nat.le_add_right _ _)
  · show feed.returned.Sublist (ofKind _ (List.take feed.subscription.lastSequence _))
    rw [hPushed, List.take_append_of_le_length h.behind]
    exact h.returned

theorem trails_poll (h : Trails eventKind earlier feed) :
  Trails eventKind earlier (feed.step .poll) := by
  obtain ⟨skipped, rest, -, hScan⟩ := feed.subscription.scan_spec
    (max feed.subscription.lastSequence ((earlier ++ feed.pushed).length - maxEvents))
    (unread maxEvents (earlier ++ feed.pushed) feed.subscription.lastSequence)
  have hFurther : ∀ last, feed.subscription.lastSequence ≤ last → feed.returned.Sublist
      (ofKind eventKind ((earlier ++ feed.pushed).take last)) := fun last hLast =>
    h.returned.trans ((List.take_sublist_take_left hLast).filter _)
  have hBehind := h.behind
  have hLength : (unread maxEvents (earlier ++ feed.pushed)
      feed.subscription.lastSequence).length = _ := List.length_drop
  have hPoll : feed.subscription.poll feed.hub = feed.subscription.scan _ :=
    congrArg feed.subscription.scan (h.hub.eventsAfter _)
  unfold step
  rw [hPoll]
  rcases hScan with ⟨-, -, hResult⟩ | ⟨event, hUnread, hEvent, hResult⟩
  · rw [hResult]
    refine ⟨h.kind, h.hub, ?_, ?_⟩
    · dsimp only
      split <;> omega
    · dsimp only
      rw [Option.toList_none, List.append_nil]
      refine hFurther _ ?_
      split <;> omega
  · rw [hResult]
    rw [hUnread, List.length_append, List.length_cons] at hLength
    refine ⟨h.kind, h.hub, ?_, ?_⟩
    · dsimp only
      omega
    · have hOne : ofKind eventKind [event] = [event] := by simp [ofKind, hEvent, h.kind]
      have hRead : (skipped ++ event :: rest).take (skipped.length + 1) = skipped ++ [event] := by
        rw [List.take_length_add_append]
        rfl
      rw [List.take_add, ← unread, hUnread, hRead, ofKind_append, ofKind_append, hOne]
      exact (hFurther _ (Nat.le_max_left _ _)).append (List.sublist_append_right _ _)

/-- Also of a subscription that polls too late no event of its kind is returned twice, out of
order or without having been pushed. -/
theorem returned_sublist_of_run {labels : List FeedStep}
  (run : Run (ofFunction step) (start eventKind earlier) labels feed) :
  feed.returned.Sublist (ofKind eventKind (earlier ++ feed.pushed)) := by
  have hTrails : Trails eventKind earlier feed := by
    refine run.preserves ?_ ?_
    · refine ⟨rfl, ?_, Nat.zero_le _, List.nil_sublist _⟩
      rw [start_pushed]
      exact holds_foldl earlier
    · rintro feed label _ h rfl
      cases label with
      | push event => exact trails_push h event
      | poll => exact trails_poll h
  exact hTrails.returned.trans ((List.take_sublist _ _).filter _)

theorem returned_sublist_of_lateRun : ∃ feed, Run (ofFunction step) (start .tabClosed [])
  (.poll :: List.replicate (EventHub.maxEvents + 1) (.push ⟨.tabClosed, .other "tab"⟩) ++ [.poll]) feed ∧
  feed.returned.Sublist (ofKind .tabClosed ([] ++ feed.pushed)) := by
  refine ⟨_, (run_ofFunction_iff step).2 rfl, ?_⟩
  exact returned_sublist_of_run ((run_ofFunction_iff step).2 rfl)

end Feed

end Api
