import Mathlib.Algebra.Ring.Parity
import Mathlib.Order.Basic
import VimeflowTerminal.Pane.OscTrackers

/-! What an OSC string is, in terms of the bytes alone: it begins with `ESC ]` outside of other
strings and ends with the first `BEL` or `ESC \` after it. The collector follows this reading.
The colour trackers take escapes in a body two by two, so they see the same strings only where
this does not hide a terminator. -/

namespace Pane

open Mealy Transition OscStreamCollector

/-- Where a stream has come to. -/
inductive Reading where
  | ground
  | escape
  /-- Within an OSC string, with the bytes after its introducer. -/
  | osc (read : List UInt8)
  /-- Within another string; its last byte is an escape or not. -/
  | ignored (escaped : Bool)
  deriving DecidableEq

namespace Reading

/-- The body that the byte ends. -/
def ends : Reading → UInt8 → Option (List UInt8)
  | osc read, byte =>
    if byte = BEL then some read
    else if byte = BACKSLASH ∧ read.getLast? = some ESC then some read.dropLast
    else none
  | _, _ => none

def step (reading : Reading) (byte : UInt8) : Reading × Option (List UInt8) :=
  match reading with
  | ground => (if byte = ESC then escape else ground, none)
  | escape =>
    (if byte = OSC_INTRO then osc []
      else if isIgnoredStringIntro byte then ignored false
      else if byte = ESC then escape
      else ground, none)
  | osc read =>
    match (osc read).ends byte with
    | some body => (ground, some body)
    | none => (osc (read ++ [byte]), none)
  | ignored escaped =>
    (if byte = BACKSLASH ∧ escaped = true then ground else ignored (byte == ESC), none)

theorem step_snd (reading : Reading) (byte : UInt8) : (reading.step byte).2 = reading.ends byte := by
  cases reading with
  | osc read =>
    rw [step]
    cases (osc read).ends byte <;> rfl
  | ground => rfl
  | escape => rfl
  | ignored escaped => rfl

variable {read : List UInt8} {byte : UInt8}

theorem step_of_ends {body : List UInt8} (hEnds : (osc read).ends byte = some body) :
  (osc read).step byte = (ground, some body) := by
  rw [step, hEnds]

theorem step_of_not_ends (hEnds : (osc read).ends byte = none) :
  (osc read).step byte = (osc (read ++ [byte]), none) := by
  rw [step, hEnds]

theorem ends_bel (read : List UInt8) : (osc read).ends BEL = some read := by
  rw [ends, if_pos rfl]

theorem ends_backslash (read : List UInt8) : (osc (read ++ [ESC])).ends BACKSLASH = some read := by
  rw [ends, if_neg (by decide), if_pos ⟨rfl, List.getLast?_concat⟩, List.dropLast_concat]

theorem ends_eq_none {read : List UInt8} {byte : UInt8} (hBel : byte ≠ BEL)
  (hBackslash : byte = BACKSLASH → read.getLast? ≠ some ESC) : (osc read).ends byte = none := by
  rw [ends, if_neg hBel, if_neg fun hBoth => hBackslash hBoth.1 hBoth.2]

/-- A string that ends is as long as what was read of it, up to an escape. -/
theorem length_of_ends {body : List UInt8} (hEnds : (osc read).ends byte = some body) :
  read.length ≤ body.length + 1 := by
  rw [ends] at hEnds
  split at hEnds
  · cases hEnds
    exact Nat.le_succ _
  split at hEnds
  · cases hEnds
    rw [List.length_dropLast]
    omega
  · cases hEnds

end Reading

/-- The escapes a list ends with. -/
def escapes (bytes : List UInt8) : Nat := (bytes.reverse.takeWhile (· == ESC)).length

theorem escapes_append_escape (bytes : List UInt8) : escapes (bytes ++ [ESC]) = escapes bytes + 1 := by
  simp [escapes]

variable {byte : UInt8} {body read : List UInt8} {osc : DefaultColorOsc}

theorem escapes_append (bytes : List UInt8) (hByte : byte ≠ ESC) :
  escapes (bytes ++ [byte]) = 0 := by
  simp [escapes, hByte]

theorem escapes_eq_zero_iff (bytes : List UInt8) : escapes bytes = 0 ↔ bytes.getLast? ≠ some ESC := by
  induction bytes using List.reverseRecOn with
  | nil => simp [escapes]
  | append_singleton bytes byte _ =>
    rw [List.getLast?_concat]
    by_cases hByte : byte = ESC
    · simp [hByte, escapes_append_escape]
    · simp [hByte, escapes_append]

/-- No string ends with this byte that is longer than what the colour trackers keep. -/
def ShortEnd (reading : Reading) (byte : UInt8) : Prop :=
  ∀ body, reading.ends byte = some body → body.length ≤ DEFAULT_COLOR_BODY_BYTES

/-- Where `BEL` ends a string, an even number of escapes is before it; where `\` does, an odd
one. -/
def PairedEnd (reading : Reading) (byte : UInt8) : Prop :=
  match reading with
  | .osc read =>
    (byte = BEL → Even (escapes read)) ∧ (byte = BACKSLASH → escapes read = 0 ∨ Odd (escapes read))
  | _ => True

/-- All OSC strings of a stream that come to an end fit the colour trackers. -/
def ShortBodies (stream : List UInt8) : Prop :=
  AllowedAlong (next Reading.step) ShortEnd .ground stream

/-- Escapes at the ends of OSC strings pair up as the colour trackers pair them. -/
def PairedEscapes (stream : List UInt8) : Prop :=
  AllowedAlong (next Reading.step) PairedEnd .ground stream

instance (reading : Reading) (byte : UInt8) : Decidable (ShortEnd reading byte) :=
  decidable_of_iff (reading.ends byte = none ∨
      ((reading.ends byte).getD []).length ≤ DEFAULT_COLOR_BODY_BYTES) (by
    unfold ShortEnd
    cases reading.ends byte <;> simp)

instance (stream : List UInt8) : Decidable (ShortBodies stream) :=
  AllowedAlong.decidable (next Reading.step) ShortEnd .ground stream

/-- The collector that has read an OSC string up to some byte. -/
inductive Collects : Reading → OscStreamCollector → Prop where
  | ground : Collects .ground { state := .ground, body := [] }
  | escape : Collects .escape { state := .escape, body := [] }
  | ignored (escaped : Bool) :
      Collects (.ignored escaped)
        { state := if escaped then .ignoringStringEscape else .ignoringString, body := [] }
  | body {read : List UInt8} (hLast : read.getLast? ≠ some ESC)
      (hLength : read.length ≤ MAX_BODY_BYTES) :
      Collects (.osc read) { state := .body, body := read }
  | bodyEscape {read : List UInt8} (hLength : read.length ≤ MAX_BODY_BYTES) :
      Collects (.osc (read ++ [ESC])) { state := .bodyEscape, body := read }
  | discarding {read : List UInt8} (last : UInt8)
      (hLength : MAX_BODY_BYTES ≤ read.length) :
      Collects (.osc (read ++ [last]))
        { state := if last = ESC then .discardingEscape else .discarding, body := [] }

theorem OscStreamCollector.push_of_le {state : OscStreamState}
  (hFits : (body ++ [byte]).length ≤ MAX_BODY_BYTES) :
  push { state, body } byte = { state := .body, body := body ++ [byte] } :=
  if_neg (Nat.not_lt.2 hFits)

theorem OscStreamCollector.push_of_lt {state : OscStreamState}
  (hFull : MAX_BODY_BYTES < (body ++ [byte]).length) :
  push { state, body } byte = { state := .discarding, body := [] } :=
  if_pos hFull

theorem Collects.push (hByte : byte ≠ ESC) (state : OscStreamState) (body : List UInt8) :
  Collects (.osc (body ++ [byte])) ((push { state, body } byte)) := by
  rcases le_or_gt (body ++ [byte]).length MAX_BODY_BYTES with hFits | hFull
  · rw [push_of_le hFits]
    exact Collects.body (by simpa using hByte) hFits
  have hLong : MAX_BODY_BYTES ≤ body.length := by
    rw [List.length_append, List.length_singleton] at hFull
    omega
  have hDiscards := Collects.discarding byte hLong
  rw [if_neg hByte] at hDiscards
  rw [push_of_lt hFull]
  exact hDiscards

theorem Collects.step {reading : Reading} {collector : OscStreamCollector}
  (hCollects : Collects reading collector) (byte : UInt8) (hShort : ShortEnd reading byte) :
  (reading.step byte).2 = (collector.step byte).2 ∧
    Collects (reading.step byte).1 (collector.step byte).1 := by
  cases hCollects with
  | ground =>
    by_cases hEscape : byte = ESC
    · simpa [OscStreamCollector.step, Reading.step, hEscape] using Collects.escape
    · simpa [OscStreamCollector.step, Reading.step, hEscape] using Collects.ground
  | escape =>
    unfold OscStreamCollector.step Reading.step
    by_cases hIntro : byte = OSC_INTRO
    · simpa [hIntro] using @Collects.body [] (by simp) (Nat.zero_le _)
    by_cases hEscape : byte = ESC
    · rw [hEscape]
      exact ⟨rfl, Collects.escape⟩
    by_cases hIgnored : isIgnoredStringIntro byte = true
    · simpa [hIntro, hEscape, hIgnored] using Collects.ignored false
    · simpa [hIntro, hEscape, hIgnored] using Collects.ground
  | ignored escaped =>
    unfold OscStreamCollector.step Reading.step
    have hIgnores := Collects.ignored (byte == ESC)
    cases escaped with
    | false =>
      by_cases hEscape : byte = ESC
      · simpa [hEscape] using hIgnores
      · simpa [hEscape] using hIgnores
    | true =>
      by_cases hEnd : byte = BACKSLASH
      · simpa [hEnd] using Collects.ground
      by_cases hEscape : byte = ESC
      · simpa [hEscape, show ESC ≠ BACKSLASH by decide] using hIgnores
      · simpa [hEscape, hEnd] using hIgnores
  | @body read hLast hLength =>
    unfold OscStreamCollector.step
    by_cases hBel : byte = BEL
    · rw [hBel, Reading.step_of_ends (Reading.ends_bel read)]
      exact ⟨rfl, Collects.ground⟩
    rw [Reading.step_of_not_ends (Reading.ends_eq_none hBel fun _ => hLast)]
    by_cases hEscape : byte = ESC
    · rw [hEscape]
      exact ⟨rfl, Collects.bodyEscape hLength⟩
    · simpa [hBel, hEscape] using Collects.push hEscape .body read
  | @bodyEscape read hLength =>
    unfold OscStreamCollector.step
    by_cases hEnd : byte = BACKSLASH
    · rw [hEnd, Reading.step_of_ends (Reading.ends_backslash read)]
      exact ⟨rfl, Collects.ground⟩
    by_cases hBel : byte = BEL
    · subst hBel
      have hEnds := Reading.ends_bel (read ++ [ESC])
      have hFits : (read ++ [ESC]).length ≤ MAX_BODY_BYTES :=
        (hShort _ hEnds).trans (by decide)
      rw [Reading.step_of_ends hEnds]
      simpa [hEnd, push_of_le hFits, finish] using
        Collects.ground
    · have hGoesOn := @Reading.ends_eq_none (read ++ [ESC]) _ hBel (fun h => absurd h hEnd)
      rw [Reading.step_of_not_ends hGoesOn]
      rcases le_or_gt (read ++ [ESC]).length MAX_BODY_BYTES with
        hFits | hFull
      · by_cases hEscape : byte = ESC
        · subst hEscape
          simpa [hEnd, hBel, push_of_le hFits] using
            Collects.bodyEscape hFits
        · simpa [hEnd, hBel, hEscape, push_of_le hFits] using
            Collects.push hEscape .body (read ++ [ESC])
      · have hDiscards := Collects.discarding byte hFull.le
        by_cases hEscape : byte = ESC
        · subst hEscape
          simpa [hEnd, hBel, push_of_lt hFull] using hDiscards
        · rw [if_neg hEscape] at hDiscards
          simpa [hEnd, hBel, hEscape, push_of_lt hFull] using hDiscards
  | @discarding read last hLength =>
    have hGoesOn : (Reading.osc (read ++ [last])).ends byte = none := by
      rw [Option.eq_none_iff_forall_ne_some]
      intro body hEnds
      have hShorter := (Reading.length_of_ends hEnds).trans
        (Nat.succ_le_succ (hShort body hEnds))
      rw [List.length_append, List.length_singleton] at hShorter
      exact absurd (hLength.trans (Nat.le_of_succ_le_succ hShorter)) (by decide)
    have hLonger : MAX_BODY_BYTES ≤ (read ++ [last]).length :=
      hLength.trans (List.sublist_append_left read [last]).length_le
    have hDiscards := Collects.discarding byte hLonger
    have hBel : byte ≠ BEL := by
      rintro rfl
      rw [Reading.ends_bel] at hGoesOn
      cases hGoesOn
    rw [Reading.step_of_not_ends hGoesOn]
    unfold OscStreamCollector.step
    by_cases hLast : last = ESC
    · have hEnd : byte ≠ BACKSLASH := by
        rintro rfl
        rw [hLast, Reading.ends_backslash] at hGoesOn
        cases hGoesOn
      by_cases hEscape : byte = ESC
      · simpa [hLast, hEnd, hEscape, show ESC ≠ BACKSLASH by decide] using hDiscards
      · simpa [hLast, hEnd, hEscape] using hDiscards
    · by_cases hEscape : byte = ESC
      · subst hEscape
        simpa [hLast, hBel] using hDiscards
      · simpa [hLast, hBel, hEscape] using hDiscards

theorem DefaultColorOsc.step_of_le {reached : DefaultColorOsc} {ended : Option (List UInt8)}
  (hTransition : osc.transition byte = (reached, ended))
  (hFits : reached.body.length ≤ DEFAULT_COLOR_BODY_BYTES) :
  osc.step byte = (reached, ended) := by
  rw [step, hTransition]
  exact if_neg (Nat.not_lt.2 hFits)

theorem DefaultColorOsc.step_of_lt {reached : DefaultColorOsc} {ended : Option (List UInt8)}
  (hTransition : osc.transition byte = (reached, ended))
  (hLong : DEFAULT_COLOR_BODY_BYTES < reached.body.length) :
  osc.step byte = ({ state := .oversizedOsc, body := [] }, ended) := by
  rw [step, hTransition]
  exact if_pos hLong

/-- A colour tracker that has read an OSC string up to some byte. -/
inductive Tracks : Reading → DefaultColorOsc → Prop where
  | ground : Tracks .ground { state := .ground, body := [] }
  | escape : Tracks .escape { state := .escape, body := [] }
  | ignored (escaped : Bool) :
      Tracks (.ignored escaped)
        { state := if escaped then .ignoreStringEscape else .ignoreString, body := [] }
  | body {read : List UInt8} (hPaired : Even (escapes read))
      (hLength : read.length ≤ DEFAULT_COLOR_BODY_BYTES) :
      Tracks (.osc read) { state := .oscBody, body := read }
  | bodyEscape {read : List UInt8} (hPaired : Even (escapes read))
      (hLength : read.length ≤ DEFAULT_COLOR_BODY_BYTES) :
      Tracks (.osc (read ++ [ESC])) { state := .oscEscape, body := read }
  | oversized {read : List UInt8} (hPaired : Even (escapes read))
      (hLong : DEFAULT_COLOR_BODY_BYTES < read.length) :
      Tracks (.osc read) { state := .oversizedOsc, body := [] }
  | oversizedMore {read : List UInt8} (last : UInt8)
      (hLong : DEFAULT_COLOR_BODY_BYTES < read.length) :
      Tracks (.osc (read ++ [last]))
        { state := if last = ESC then .oversizedOscEscape else .oversizedOsc, body := [] }

theorem Tracks.of_body (hPaired : Even (escapes read))
  (hTransition : osc.transition byte = ({ state := .oscBody, body := read }, none)) :
  (osc.step byte).2 = none ∧ Tracks (.osc read) (osc.step byte).1 := by
  rcases le_or_gt read.length DEFAULT_COLOR_BODY_BYTES with hFits | hLong
  · rw [DefaultColorOsc.step_of_le hTransition hFits]
    exact ⟨rfl, Tracks.body hPaired hFits⟩
  · rw [DefaultColorOsc.step_of_lt hTransition hLong]
    exact ⟨rfl, Tracks.oversized hPaired hLong⟩

/-- Only at the end of a string the escapes before it matter. -/
theorem pairedEnd_of_not_ends {reading : Reading} (hEnds : reading.ends byte = none) :
  PairedEnd reading byte := by
  cases reading with
  | osc read =>
    refine ⟨?_, ?_⟩
    · rintro rfl
      rw [Reading.ends_bel] at hEnds
      cases hEnds
    · rintro rfl
      refine Or.inl ((escapes_eq_zero_iff read).2 fun hLast => ?_)
      rw [Reading.ends, if_neg (by decide), if_pos ⟨rfl, hLast⟩] at hEnds
      cases hEnds
  | ground => trivial
  | escape => trivial
  | ignored escaped => trivial

theorem not_pairedEnd_of_even (hBel : byte ≠ BEL) (hEven : Even (escapes read))
  (hEnds : (Reading.osc read).ends byte = some body) :
  ¬ PairedEnd (.osc read) byte := by
  rw [Reading.ends, if_neg hBel] at hEnds
  obtain ⟨⟨rfl, hLast⟩, _⟩ := Option.ite_none_right_eq_some.1 hEnds
  intro hPaired
  rcases hPaired.2 rfl with hZero | hOdd
  · exact (escapes_eq_zero_iff read).1 hZero hLast
  · exact Nat.not_odd_iff_even.2 hEven hOdd

/-- A tracker follows the reading as long as the escapes are paired; at an end that they hide it
sees none. -/
def Follows (reading : Reading) (osc : DefaultColorOsc) (byte : UInt8) : Prop :=
  ((reading.step byte).2 = (osc.step byte).2 ↔ PairedEnd reading byte) ∧
    (PairedEnd reading byte → Tracks (reading.step byte).1 (osc.step byte).1)

theorem Follows.of_eq {reading : Reading} (hPaired : PairedEnd reading byte)
  (hEnded : (reading.step byte).2 = (osc.step byte).2)
  (hTracks : Tracks (reading.step byte).1 (osc.step byte).1) : Follows reading osc byte :=
  ⟨⟨fun _ => hPaired, fun _ => hEnded⟩, fun _ => hTracks⟩

theorem Follows.of_not_ends (hEnds : (Reading.osc read).ends byte = none)
  (hEnded : (osc.step byte).2 = none)
  (hTracks : Tracks (.osc (read ++ [byte])) (osc.step byte).1) :
  Follows (.osc read) osc byte := by
  have hStep := Reading.step_of_not_ends hEnds
  refine Follows.of_eq (pairedEnd_of_not_ends hEnds) ?_ ?_
  · rw [hStep, hEnded]
  · rw [hStep]
    exact hTracks

theorem Follows.of_missed (hEnds : (Reading.osc read).ends byte = some body)
  (hEnded : (osc.step byte).2 = none) (hPaired : ¬ PairedEnd (.osc read) byte) :
  Follows (.osc read) osc byte := by
  refine ⟨⟨fun hSame => ?_, fun hHolds => absurd hHolds hPaired⟩,
    fun hHolds => absurd hHolds hPaired⟩
  rw [Reading.step_of_ends hEnds, hEnded] at hSame
  cases hSame

theorem Follows.of_outside {reading : Reading} {osc reached : DefaultColorOsc} {byte : UInt8}
  (hEnds : reading.ends byte = none) (hTransition : osc.transition byte = (reached, none))
  (hEmpty : reached.body = []) (hTracks : Tracks (reading.step byte).1 reached) :
  Follows reading osc byte := by
  have hStep := DefaultColorOsc.step_of_le hTransition (by simp [hEmpty])
  refine Follows.of_eq (pairedEnd_of_not_ends hEnds) ?_ ?_
  · rw [Reading.step_snd, hEnds, hStep]
  · rw [hStep]
    exact hTracks

theorem Tracks.step {reading : Reading} {osc : DefaultColorOsc} (hTracks : Tracks reading osc)
  (byte : UInt8) (hShort : ShortEnd reading byte) : Follows reading osc byte := by
  cases hTracks with
  | ground =>
    by_cases hEscape : byte = ESC
    · subst hEscape
      exact Follows.of_outside rfl rfl rfl Tracks.escape
    refine @Follows.of_outside _ _ { state := .ground, body := [] } _ rfl ?_ rfl ?_
    · exact if_neg hEscape
    · simpa [Reading.step, hEscape] using Tracks.ground
  | escape =>
    by_cases hIntro : byte = OSC_INTRO
    · subst hIntro
      exact Follows.of_outside rfl rfl rfl (Tracks.body (by decide) (Nat.zero_le _))
    by_cases hIgnored : isIgnoredStringIntro byte = true
    · refine @Follows.of_outside _ _ { state := .ignoreString, body := [] } _ rfl ?_ rfl ?_
      · simp [DefaultColorOsc.transition, hIntro, hIgnored]
      · simpa [Reading.step, hIntro, hIgnored] using Tracks.ignored false
    · by_cases hEscape : byte = ESC
      · subst hEscape
        exact Follows.of_outside rfl rfl rfl Tracks.escape
      · refine @Follows.of_outside _ _ { state := .ground, body := [] } _ rfl ?_ rfl ?_
        · simp [DefaultColorOsc.transition, hIntro, hIgnored, hEscape]
        · simpa [Reading.step, hIntro, hIgnored, hEscape] using Tracks.ground
  | ignored escaped =>
    by_cases hEnd : byte = BACKSLASH ∧ escaped = true
    · obtain ⟨rfl, rfl⟩ := hEnd
      exact Follows.of_outside rfl rfl rfl Tracks.ground
    have hIgnores := Tracks.ignored (byte == ESC)
    refine @Follows.of_outside _ _ { state :=
      if byte == ESC then .ignoreStringEscape else .ignoreString, body := [] } _ rfl ?_ rfl ?_
    · cases escaped with
      | false => by_cases hEscape : byte = ESC <;> simp [DefaultColorOsc.transition, hEscape]
      | true =>
        have hOther : byte ≠ BACKSLASH := fun hByte => hEnd ⟨hByte, rfl⟩
        by_cases hEscape : byte = ESC
        · simp [DefaultColorOsc.transition, hEscape, show ESC ≠ BACKSLASH by decide]
        · simp [DefaultColorOsc.transition, hEscape, hOther]
    · rw [Reading.step, if_neg hEnd]
      exact hIgnores
  | @body read hPaired hLength =>
    by_cases hBel : byte = BEL
    · subst hBel
      have hStep : DefaultColorOsc.step { state := .oscBody, body := read } BEL =
          ({ state := .ground, body := [] }, some read) :=
        DefaultColorOsc.step_of_le rfl (Nat.zero_le _)
      refine Follows.of_eq ⟨fun _ => hPaired, fun hEq => absurd hEq (by decide)⟩ ?_ ?_
      · rw [Reading.step_of_ends (Reading.ends_bel read), hStep]
      · rw [Reading.step_of_ends (Reading.ends_bel read), hStep]
        exact Tracks.ground
    · by_cases hEscape : byte = ESC
      · subst hEscape
        have hStep : DefaultColorOsc.step { state := .oscBody, body := read } ESC =
            ({ state := .oscEscape, body := read }, none) :=
          DefaultColorOsc.step_of_le rfl hLength
        refine Follows.of_not_ends (Reading.ends_eq_none hBel fun hEq => absurd hEq (by decide))
          (by rw [hStep]) ?_
        rw [hStep]
        exact Tracks.bodyEscape hPaired hLength
      · have hTransition : DefaultColorOsc.transition { state := .oscBody, body := read } byte =
            ({ state := .oscBody, body := read ++ [byte] }, none) := by
          simp [DefaultColorOsc.transition, hBel, hEscape]
        obtain ⟨hEnded, hKept⟩ := Tracks.of_body
          (by rw [escapes_append read hEscape]; exact Even.zero) hTransition
        cases hEnds : (Reading.osc read).ends byte with
        | none => exact Follows.of_not_ends hEnds hEnded hKept
        | some body =>
          exact Follows.of_missed hEnds hEnded
            (not_pairedEnd_of_even hBel hPaired hEnds)
  | @bodyEscape read hPaired hLength =>
    have hOdd : Odd (escapes (read ++ [ESC])) := by
      rw [escapes_append_escape]
      exact hPaired.add_one
    by_cases hEnd : byte = BACKSLASH
    · subst hEnd
      have hStep : DefaultColorOsc.step { state := .oscEscape, body := read } BACKSLASH =
          ({ state := .ground, body := [] }, some read) :=
        DefaultColorOsc.step_of_le rfl (Nat.zero_le _)
      refine Follows.of_eq ⟨fun hEq => absurd hEq (by decide), fun _ => Or.inr hOdd⟩ ?_ ?_
      · rw [Reading.step_of_ends (Reading.ends_backslash read), hStep]
      · rw [Reading.step_of_ends (Reading.ends_backslash read), hStep]
        exact Tracks.ground
    · have hTransition : DefaultColorOsc.transition { state := .oscEscape, body := read } byte =
          ({ state := .oscBody, body := read ++ [ESC] ++ [byte] }, none) := by
        simp [DefaultColorOsc.transition, hEnd]
      have hEven : Even (escapes (read ++ [ESC] ++ [byte])) := by
        by_cases hEscape : byte = ESC
        · rw [hEscape, escapes_append_escape]
          exact hOdd.add_one
        · rw [escapes_append _ hEscape]
          exact Even.zero
      obtain ⟨hEnded, hKept⟩ := Tracks.of_body hEven hTransition
      by_cases hBel : byte = BEL
      · subst hBel
        refine Follows.of_missed (Reading.ends_bel _) hEnded fun hHolds => ?_
        exact Nat.not_odd_iff_even.2 (hHolds.1 rfl) hOdd
      · have hEnds := @Reading.ends_eq_none (read ++ [ESC]) _ hBel fun hEq => absurd hEq hEnd
        exact Follows.of_not_ends hEnds hEnded hKept
  | @oversized read hPaired hLong =>
    have hBel : byte ≠ BEL := by
      rintro rfl
      exact absurd (hShort read (Reading.ends_bel read)) (Nat.not_le.2 hLong)
    have hStep : DefaultColorOsc.step { state := .oversizedOsc, body := [] } byte =
        ({ state := if byte = ESC then .oversizedOscEscape else .oversizedOsc, body := [] },
          none) := by
      by_cases hEscape : byte = ESC
      · subst hEscape
        exact DefaultColorOsc.step_of_le rfl (Nat.zero_le _)
      · refine DefaultColorOsc.step_of_le ?_ (Nat.zero_le _)
        simp [DefaultColorOsc.transition, hBel, hEscape]
    cases hEnds : (Reading.osc read).ends byte with
    | none =>
      refine Follows.of_not_ends hEnds (by rw [hStep]) ?_
      rw [hStep]
      exact Tracks.oversizedMore byte hLong
    | some body =>
      exact Follows.of_missed hEnds (by rw [hStep])
        (not_pairedEnd_of_even hBel hPaired hEnds)
  | @oversizedMore read last hLong =>
    have hEnds : (Reading.osc (read ++ [last])).ends byte = none := by
      rw [Option.eq_none_iff_forall_ne_some]
      intro body hEnds
      have hShorter := (Reading.length_of_ends hEnds).trans
        (Nat.succ_le_succ (hShort body hEnds))
      rw [List.length_append, List.length_singleton] at hShorter
      exact absurd (Nat.le_of_succ_le_succ hShorter) (Nat.not_le.2 hLong)
    have hLonger : DEFAULT_COLOR_BODY_BYTES < (read ++ [last]).length :=
      hLong.trans_le (List.sublist_append_left read [last]).length_le
    have hStep : DefaultColorOsc.step { state :=
          if last = ESC then .oversizedOscEscape else .oversizedOsc, body := [] } byte =
        ({ state := if byte = ESC then .oversizedOscEscape else .oversizedOsc, body := [] },
          none) := by
      refine DefaultColorOsc.step_of_le ?_ (Nat.zero_le _)
      by_cases hLast : last = ESC
      · have hEnd : byte ≠ BACKSLASH := by
          rintro rfl
          rw [hLast, Reading.ends_backslash] at hEnds
          cases hEnds
        by_cases hEscape : byte = ESC
        · simp [DefaultColorOsc.transition, hLast, hEscape, show ESC ≠ BACKSLASH by decide]
        · simp [DefaultColorOsc.transition, hLast, hEscape, hEnd]
      · have hBel : byte ≠ BEL := by
          rintro rfl
          rw [Reading.ends_bel] at hEnds
          cases hEnds
        by_cases hEscape : byte = ESC
        · simp [DefaultColorOsc.transition, hLast, hEscape]
        · simp [DefaultColorOsc.transition, hLast, hEscape, hBel]
    refine Follows.of_not_ends hEnds (by rw [hStep]) ?_
    rw [hStep]
    exact Tracks.oversizedMore byte hLonger

/-- The ends of OSC strings in each of the reads and the bodies ended there. -/
def DefaultColorEventTracker.endsOfReads (tracker : DefaultColorEventTracker) :
  List (List UInt8) → List (List (Nat × List UInt8))
  | [] => []
  | read :: reads =>
    marks (outputs DefaultColorOsc.step tracker.osc read) ::
      endsOfReads (tracker.observe read) reads

def DefaultColorOscTracker.endsOfReads (tracker : DefaultColorOscTracker) :
  List (List UInt8) → List (List (Nat × List UInt8))
  | [] => []
  | read :: reads =>
    marks (outputs DefaultColorOsc.step tracker.osc read) ::
      endsOfReads (tracker.observe read).1 reads

def OscStreamCollector.endsOfReads (collector : OscStreamCollector) :
  List (List UInt8) → List (List (Nat × List UInt8))
  | [] => []
  | read :: reads =>
    marks (outputs step collector read) ::
      endsOfReads (collector.observe read).1 reads

theorem DefaultColorEventTracker.endsOfReads_eq (tracker : DefaultColorEventTracker)
  (reads : List (List UInt8)) :
  tracker.endsOfReads reads = marksByPiece DefaultColorOsc.step tracker.osc reads := by
  induction reads generalizing tracker with
  | nil => rfl
  | cons read reads ih => rw [endsOfReads, ih, marksByPiece, observe, observeFrom_eq]

theorem DefaultColorOscTracker.endsOfReads_eq (tracker : DefaultColorOscTracker)
  (reads : List (List UInt8)) :
  tracker.endsOfReads reads = marksByPiece DefaultColorOsc.step tracker.osc reads := by
  induction reads generalizing tracker with
  | nil => rfl
  | cons read reads ih => rw [endsOfReads, ih, marksByPiece, observe_eq]

theorem OscStreamCollector.endsOfReads_eq (collector : OscStreamCollector)
  (reads : List (List UInt8)) :
  collector.endsOfReads reads = marksByPiece step collector reads := by
  induction reads generalizing collector with
  | nil => rfl
  | cons read reads ih => rw [endsOfReads, ih, marksByPiece, observe_eq]

theorem collector_outputs {stream : List UInt8} (hShort : ShortBodies stream) :
  outputs Reading.step .ground stream = outputs step {} stream :=
  outputs_eq (fun _ _ byte hCollects hEnd => hCollects.step byte hEnd) Collects.ground hShort

theorem tracker_outputs_iff {stream : List UInt8} (hShort : ShortBodies stream) :
  outputs Reading.step .ground stream = outputs DefaultColorOsc.step {} stream ↔
    PairedEscapes stream :=
  outputs_eq_iff (fun _ _ byte hTracks hEnd => hTracks.step byte hEnd) Tracks.ground hShort

/-- Every recogniser ends the same strings at the same bytes, read by read. -/
structure RecognisersAgree (reads : List (List UInt8)) : Prop where
  events : DefaultColorEventTracker.endsOfReads {} reads = endsOfReads {} reads
  colors : DefaultColorOscTracker.endsOfReads {} reads = endsOfReads {} reads

/-- On short strings, however the stream is cut, the recognisers agree exactly if no terminator
is hidden by the escapes before it. -/
theorem recognisersAgree_iff (reads : List (List UInt8)) (hShort : ShortBodies reads.flatten) :
  RecognisersAgree reads ↔ PairedEscapes reads.flatten := by
  have hTrackers : marksByPiece DefaultColorOsc.step {} reads =
      marksByPiece step {} reads ↔ PairedEscapes reads.flatten := by
    rw [marksByPiece_eq_iff, ← collector_outputs hShort, ← tracker_outputs_iff hShort]
    exact eq_comm
  constructor
  · intro hAgree
    have hEvents := hAgree.events
    rw [DefaultColorEventTracker.endsOfReads_eq, endsOfReads_eq] at hEvents
    exact hTrackers.1 hEvents
  · intro hPaired
    constructor
    · rw [DefaultColorEventTracker.endsOfReads_eq, endsOfReads_eq]
      exact hTrackers.2 hPaired
    · rw [DefaultColorOscTracker.endsOfReads_eq, endsOfReads_eq]
      exact hTrackers.2 hPaired

/-- A title and a background colour, cut within the second terminator. -/
def titleAndColor : List (List UInt8) :=
  [[ESC, OSC_INTRO] ++ ascii "2;b" ++ [BEL] ++ [ESC, OSC_INTRO] ++ ascii "11;#fff" ++ [ESC],
    [BACKSLASH]]

theorem recognisersAgree_titleAndColor :
  ShortBodies titleAndColor.flatten ∧
    (RecognisersAgree titleAndColor ↔ PairedEscapes titleAndColor.flatten) :=
  ⟨by decide, recognisersAgree_iff titleAndColor (by decide)⟩

/-- The collector ends a title at a `BEL` after an escape, the colour trackers read on. -/
theorem not_recognisersAgree_escape :
  ¬ ∀ reads : List (List UInt8), ShortBodies reads.flatten → RecognisersAgree reads := by
  intro hAll
  have hAgree := hAll [[ESC, OSC_INTRO] ++ ascii "2;b" ++ [ESC, BEL]] (by decide)
  exact absurd hAgree.colors (by decide)

end Pane
