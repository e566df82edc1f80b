import Mathlib.Data.List.Induction

/-! A log of grants and revocations. A holder whose last entry is a grant holds the lease until it
is revoked or the holder is gone. In an exclusive log nobody is granted the lease while another
one holds it. -/

namespace Lease

variable {κ : Type}

inductive LeaseEvent (κ : Type) where
  | grant (key : κ)
  | revoke (key : κ)
  | gone (key : κ)
  deriving DecidableEq

/-- The entries that end a lease of `key`. -/
def LeaseEvent.Ends (key : κ) (event : LeaseEvent κ) : Prop :=
  event = .revoke key ∨ event = .gone key

/-- A grant to `key` that nothing has ended since. -/
def Holds (log : List (LeaseEvent κ)) (key : κ) : Prop :=
  ∃ before after, log = before ++ .grant key :: after ∧ ∀ event ∈ after, ¬ event.Ends key

/-- Whoever is granted the lease is the only one to hold it. -/
def Exclusive (log : List (LeaseEvent κ)) : Prop :=
  ∀ before key after, log = before ++ .grant key :: after →
    ∀ holder, Holds before holder → holder = key

variable {log : List (LeaseEvent κ)} {key holder : κ} {event : LeaseEvent κ}

theorem not_holds_nil : ¬ Holds ([] : List (LeaseEvent κ)) key := by
  rintro ⟨before, after, hLog, _⟩
  exact absurd hLog.symm (by simp)

/-- One entry later, a lease is held that was just granted or was held and not ended. -/
theorem holds_concat_iff :
  Holds (log ++ [event]) key ↔ event = .grant key ∨ (Holds log key ∧ ¬ event.Ends key) := by
  constructor
  · rintro ⟨before, after, hLog, hAfter⟩
    cases after using List.reverseRecOn with
    | nil =>
      left
      obtain ⟨_, hLast⟩ := List.append_inj' hLog rfl
      simpa using hLast
    | append_singleton after last =>
      right
      have hSplit : log ++ [event] = (before ++ .grant key :: after) ++ [last] := by
        rw [hLog]
        simp
      obtain ⟨hInit, hLast⟩ := List.append_inj' hSplit rfl
      obtain rfl : event = last := by simpa using hLast
      refine ⟨⟨before, after, hInit, ?_⟩, hAfter event (by simp)⟩
      exact fun other hMem => hAfter other (List.mem_append_left _ hMem)
  · rintro (rfl | ⟨⟨before, after, rfl, hAfter⟩, hEvent⟩)
    · exact ⟨log, [], rfl, by simp⟩
    · refine ⟨before, after ++ [event], by simp, ?_⟩
      intro other hMem
      obtain hMem | hMem := List.mem_append.1 hMem
      · exact hAfter other hMem
      · rw [List.mem_singleton.1 hMem]
        exact hEvent

theorem exclusive_nil : Exclusive ([] : List (LeaseEvent κ)) := by
  intro before key after hLog
  exact absurd hLog.symm (by simp)

/-- An entry keeps a log exclusive unless it is a grant while another one holds the lease. -/
theorem Exclusive.concat (hLog : Exclusive log)
  (hGrant : ∀ key, event = .grant key → ∀ holder, Holds log holder → holder = key) :
  Exclusive (log ++ [event]) := by
  intro before key after hSplit
  cases after using List.reverseRecOn with
  | nil =>
    obtain ⟨hInit, hLast⟩ := List.append_inj' hSplit rfl
    obtain rfl : event = .grant key := by simpa using hLast
    rw [← hInit]
    exact hGrant key rfl
  | append_singleton after last =>
    have hSplit : log ++ [event] = (before ++ .grant key :: after) ++ [last] := by
      rw [hSplit]
      simp
    obtain ⟨hInit, _⟩ := List.append_inj' hSplit rfl
    exact hLog before key after hInit

theorem Exclusive.ends_between {before between after : List (LeaseEvent κ)} {first second : κ}
  (hLog : Exclusive log) (hNe : first ≠ second)
  (hSplit : log = before ++ .grant first :: between ++ .grant second :: after) :
  ∃ event ∈ between, event.Ends first := by
  by_contra hNone
  have hHolds : Holds (before ++ .grant first :: between) first :=
    ⟨before, between, rfl, fun event hMem hEnds => hNone ⟨event, hMem, hEnds⟩⟩
  exact hNe (hLog _ second after hSplit first hHolds)

end Lease
