import Mathlib.Data.List.Basic

/-! A log that numbers its entries from one and retains the last few, and readers
that remember the number of the last entry they read. -/

variable {ε : Type}

structure BoundedLog (ε : Type) where
  nextSequence : Nat
  events : List (Nat × ε)

namespace BoundedLog

def empty : BoundedLog ε := ⟨0, []⟩

/-- Append an entry and drop the oldest ones past the capacity. -/
def push (capacity : Nat) (hub : BoundedLog ε) (event : ε) : BoundedLog ε :=
  let sequence := hub.nextSequence + 1
  let events := hub.events ++ [(sequence, event)]
  ⟨sequence, events.drop (events.length - capacity)⟩

def eventsAfter (hub : BoundedLog ε) (sequence : Nat) : List (Nat × ε) :=
  hub.events.filter fun entry => sequence < entry.1

def currentSequence (hub : BoundedLog ε) : Nat := hub.nextSequence

/-- Entries numbered one after the other. -/
def numbered (first : Nat) : List ε → List (Nat × ε)
  | [] => []
  | event :: events => (first, event) :: numbered (first + 1) events

theorem length_numbered (first : Nat) (events : List ε) :
  (numbered first events).length = events.length := by
  induction events generalizing first with
  | nil => rfl
  | cons event events ih => rw [numbered, List.length_cons, ih, List.length_cons]

theorem map_snd_numbered (first : Nat) (events : List ε) :
  (numbered first events).map Prod.snd = events := by
  induction events generalizing first with
  | nil => rfl
  | cons event events ih => rw [numbered, List.map_cons, ih]

theorem numbered_append (first : Nat) (events events' : List ε) :
  numbered first (events ++ events') =
    numbered first events ++ numbered (first + events.length) events' := by
  induction events generalizing first with
  | nil => rfl
  | cons event events ih =>
    rw [List.cons_append, numbered, ih, numbered, List.length_cons, List.cons_append]
    congr 3
    omega

theorem numbered_drop (first n : Nat) (events : List ε) :
  (numbered first events).drop n = numbered (first + n) (events.drop n) := by
  induction n generalizing first events with
  | zero => rfl
  | succ n ih =>
    cases events with
    | nil => rfl
    | cons event events =>
      rw [numbered, List.drop_succ_cons, ih, List.drop_succ_cons]
      congr 1
      omega

/-- Of consecutive numbers those after a bound are the last ones. -/
theorem filter_numbered (sequence first : Nat) (events : List ε) :
  (numbered first events).filter (fun entry => sequence < entry.1) =
    (numbered first events).drop (sequence + 1 - first) := by
  induction events generalizing first with
  | nil => rw [numbered, List.filter_nil, List.drop_nil]
  | cons event events ih =>
    rw [numbered, List.filter_cons, ih]
    by_cases hAfter : sequence < first
    · have hNone : sequence + 1 - first = 0 := by omega
      have hRest : sequence + 1 - (first + 1) = 0 := by omega
      simp [hAfter, hNone, hRest]
    · have hSome : sequence + 1 - first = (sequence + 1 - (first + 1)) + 1 := by omega
      rw [hSome, List.drop_succ_cons]
      simp [hAfter]

/-- The log after the given pushes. -/
structure Holds (capacity : Nat) (hub : BoundedLog ε) (pushed : List ε) : Prop where
  nextSequence : hub.nextSequence = pushed.length
  events : hub.events = numbered (pushed.length - capacity + 1)
    (pushed.drop (pushed.length - capacity))

variable {capacity : Nat} {hub : BoundedLog ε} {pushed : List ε}

theorem Holds.empty (capacity : Nat) : Holds capacity (BoundedLog.empty (ε := ε)) [] :=
  ⟨rfl, by rw [List.drop_nil]; rfl⟩

theorem Holds.push (h : Holds capacity hub pushed) (event : ε) :
  Holds capacity (hub.push capacity event) (pushed ++ [event]) := by
  have hEvents : hub.events ++ [(hub.nextSequence + 1, event)] =
      numbered (pushed.length - capacity + 1)
        ((pushed ++ [event]).drop (pushed.length - capacity)) := by
    rw [List.drop_append_of_le_length (by omega), numbered_append, ← h.events, h.nextSequence,
      List.length_drop]
    rw [numbered, numbered]
    congr 3
    omega
  refine ⟨?_, ?_⟩
  · show hub.nextSequence + 1 = _
    rw [h.nextSequence, List.length_append, List.length_singleton]
  show List.drop _ (hub.events ++ _) = _
  rw [hEvents, length_numbered, numbered_drop, List.drop_drop, List.length_drop,
    List.length_append, List.length_singleton]
  have hFirst : pushed.length - capacity + (pushed.length + 1 - (pushed.length - capacity) -
      capacity) = pushed.length + 1 - capacity := by omega
  rw [Nat.add_right_comm, hFirst]

/-- The entries a reader at `sequence` has not seen, as far as they are retained. -/
def unread (capacity : Nat) (pushed : List ε) (sequence : Nat) : List ε :=
  pushed.drop (max sequence (pushed.length - capacity))

theorem Holds.eventsAfter (h : Holds capacity hub pushed) (sequence : Nat) :
  hub.eventsAfter sequence =
    numbered (max sequence (pushed.length - capacity) + 1) (unread capacity pushed sequence) := by
  unfold BoundedLog.eventsAfter unread
  have hFirst : pushed.length - capacity + (sequence + 1 - (pushed.length - capacity + 1)) =
      max sequence (pushed.length - capacity) := by omega
  rw [h.events, filter_numbered, numbered_drop, List.drop_drop, Nat.add_right_comm, hFirst]

theorem length_unread_le (capacity : Nat) (pushed : List ε) (sequence : Nat) :
  (unread capacity pushed sequence).length ≤ capacity := by
  unfold unread
  rw [List.length_drop]
  omega

theorem unread_push {sequence : Nat} (hBehind : sequence ≤ pushed.length)
  (hCapacity : 0 < capacity) (event : ε) :
  unread capacity (pushed ++ [event]) sequence =
    (unread capacity pushed sequence ++ [event]).drop
      ((unread capacity pushed sequence).length + 1 - capacity) := by
  unfold unread
  rw [List.length_append, List.length_singleton, List.length_drop,
    ← List.drop_append_of_le_length (by omega), List.drop_drop]
  congr 1
  omega

theorem unread_advance {sequence : Nat} {passed rest : List ε}
  (hUnread : unread capacity pushed sequence = passed ++ rest) :
  unread capacity pushed (max sequence (pushed.length - capacity) + passed.length) = rest := by
  have hDrop := congrArg (List.drop passed.length) hUnread
  unfold unread at hDrop ⊢
  rw [List.drop_drop, List.drop_left] at hDrop
  rw [← hDrop]
  congr 1
  omega

end BoundedLog
