import VimeflowTerminal.Handoff.LiveInvariant

/-! The source waits for one actor at a time, and between calls every actor is
known. -/

namespace Handoff

open Pty (Orderly closing)

/-- The terminal whose actor the source is calling. -/
def SourcePhase.current : SourcePhase → Option TerminalId
  | .awaitingPause terminal _ => some terminal
  | .awaitingRollback terminal _ => some terminal
  | _ => none

/-- The source makes one handoff call at a time, and tells no actor to end
before it has committed. -/
structure Attended (phase : SourcePhase) (actors : TerminalId → Pty.System) : Prop where
  inv : ∀ terminal, (actors terminal).Inv
  calls : ∀ terminal, phase.current ≠ some terminal → (actors terminal).calls = []
  opened : phase.committed = false → ∀ terminal, closing (actors terminal).controlQueue = false

section Attended

variable {phase next : SourcePhase} {actors : TerminalId → Pty.System}

section

variable (h : Attended phase actors)
include h

theorem Attended.goTo (hCurrent : phase.current = none)
  (hCommitted : phase.committed = true → next.committed = true) : Attended next actors where
  inv := h.inv
  calls := fun terminal _ => h.calls terminal (by rw [hCurrent]; simp)
  opened := fun hOpen => h.opened <| Bool.eq_false_iff.2 fun hSent =>
    Bool.false_ne_true (hOpen.symm.trans (hCommitted hSent))

theorem Attended.ends {terminal : TerminalId}
  (hCurrent : phase.current = some terminal) (hCalls : (actors terminal).calls = [])
  (hCommitted : phase.committed = false) : Attended next actors where
  inv := h.inv
  calls := fun other _ => by
    by_cases hSame : other = terminal
    · rw [hSame]
      exact hCalls
    · exact h.calls other (by rw [hCurrent]; simpa using fun h => hSame h.symm)
  opened := fun _ => h.opened hCommitted

/-- The source commands one actor. -/
theorem Attended.commands {terminal : TerminalId} {actor : Pty.System}
  (hCurrent : phase.current = none) (hInv : actor.Inv)
  (hCalls : next.current = some terminal ∨ actor.calls = []) (hOpened : next.committed = false →
    phase.committed = false ∧ closing actor.controlQueue = false) :
  Attended next (Function.update actors terminal actor) where
  inv := fun other => by
    by_cases hSame : other = terminal
    · rw [hSame, Function.update_self]
      exact hInv
    · rw [Function.update_of_ne hSame]
      exact h.inv other
  calls := fun other hOther => by
    by_cases hSame : other = terminal
    · rw [hSame, Function.update_self]
      rcases hCalls with hCalls | hCalls
      · rw [hSame] at hOther
        exact absurd hCalls hOther
      · exact hCalls
    · rw [Function.update_of_ne hSame]
      exact h.calls other (by rw [hCurrent]; simp)
  opened := fun hNext other => by
    obtain ⟨hBefore, hActor⟩ := hOpened hNext
    by_cases hSame : other = terminal
    · rw [hSame, Function.update_self]
      exact hActor
    · rw [Function.update_of_ne hSame]
      exact h.opened hBefore other

/-- A pane's own step. -/
theorem Attended.pane {terminal : TerminalId} {actor : Pty.System} {label : Pty.Label}
  (hLabel : isPaneLabel label = true)
  (hOrderly : Orderly (actors terminal) label)
  (hStep : Pty.step (actors terminal) label = some actor) :
  Attended phase (Function.update actors terminal actor) where
  inv := fun other => by
    by_cases hSame : other = terminal
    · rw [hSame, Function.update_self]
      exact (h.inv terminal).step hStep hOrderly
    · rw [Function.update_of_ne hSame]
      exact h.inv other
  calls := fun other hOther => by
    by_cases hSame : other = terminal
    · rw [hSame] at hOther ⊢
      rw [Function.update_self]
      have hBetween : Between (actors terminal) := ⟨h.inv terminal, h.calls terminal hOther⟩
      exact (hBetween.step hLabel hStep).1.calls
    · rw [Function.update_of_ne hSame]
      exact h.calls other hOther
  opened := fun hBefore other => by
    by_cases hSame : other = terminal
    · rw [hSame, Function.update_self]
      exact Pty.System.step_closing hStep (isPaneLabel_open hLabel) (h.opened hBefore terminal)
    · rw [Function.update_of_ne hSame]
      exact h.opened hBefore other

end

end Attended

end Handoff
