import Mathlib.Data.UInt
import VimeflowTerminal.Data.Deletion

/-! Droid clears the scrollback with `CSI 3 J` when it redraws. On the primary screen the two
forms of the sequence are taken out of what it writes, in one pass over the bytes of a read. -/

namespace Pane

/-- `ESC [ 3 J` -/
def clearSequence : List UInt8 := [0x1b, 0x5b, 0x33, 0x4a]

/-- `ESC [ ? 3 J` -/
def privateClearSequence : List UInt8 := [0x1b, 0x5b, 0x3f, 0x33, 0x4a]

/-- The windows of a slice: every run of `size` neighbouring elements. -/
def windows {α : Type*} (size : Nat) : List α → List (List α)
  | [] => []
  | first :: rest =>
    if size ≤ (first :: rest).length then (first :: rest).take size :: windows size rest else []

def containsScrollbackClearSequence (bytes : List UInt8) : Bool :=
  (windows 4 bytes).any (fun window => window == clearSequence) ||
    (windows 5 bytes).any (fun window => window == privateClearSequence)

/-- The loop of the filter, over the bytes from its index on. -/
def filterFrom (remaining : List UInt8) : List UInt8 :=
  match remaining with
  | [] => []
  | byte :: rest =>
    if clearSequence.isPrefixOf (byte :: rest) then filterFrom ((byte :: rest).drop 4)
    else if privateClearSequence.isPrefixOf (byte :: rest) then
      filterFrom ((byte :: rest).drop 5)
    else byte :: filterFrom rest
termination_by remaining.length

def stripScrollbackClearSequences (bytes : List UInt8) : List UInt8 :=
  if containsScrollbackClearSequence bytes then filterFrom bytes else bytes

def clearSequences : List (List UInt8) := [clearSequence, privateClearSequence]

theorem mem_windows {α : Type*} {window : List α} {symbols : List α} (hNonempty : window ≠ []) :
  window ∈ windows window.length symbols ↔ window <:+: symbols := by
  induction symbols with
  | nil => simp [windows, hNonempty]
  | cons first rest ih =>
    rw [List.infix_cons_iff, List.prefix_iff_eq_take, ← ih, windows]
    split
    · rw [List.mem_cons]
    rename_i hShort
    have hNot : ¬ window = (first :: rest).take window.length := by
      intro hEq
      have hLength := congrArg List.length hEq
      rw [List.length_take] at hLength
      omega
    have hNotRest : window ∉ windows window.length rest := by
      rw [ih]
      intro hInfix
      have hLength := hInfix.length_le
      rw [List.length_cons] at hShort
      omega
    simp [hNot, hNotRest]

theorem containsScrollbackClearSequence_iff (bytes : List UInt8) :
  containsScrollbackClearSequence bytes = true ↔
    ∃ sequence ∈ clearSequences, sequence <:+: bytes := by
  have hClear : clearSequence ∈ windows 4 bytes ↔ clearSequence <:+: bytes :=
    mem_windows (List.cons_ne_nil _ _)
  have hPrivate : privateClearSequence ∈ windows 5 bytes ↔ privateClearSequence <:+: bytes :=
    mem_windows (List.cons_ne_nil _ _)
  simp [containsScrollbackClearSequence, clearSequences, hClear, hPrivate]

theorem clearSequences_marked : Deletion.Marked 0x1b clearSequences := by
  constructor
  · intro sequence hMem
    refine ⟨sequence.tail, ?_⟩
    revert sequence
    decide
  · decide

/-- The loop takes out the occurrences of the two sequences. -/
theorem filterFrom_eq_delete (bytes : List UInt8) :
  filterFrom bytes = Deletion.delete clearSequences bytes := by
  induction bytes using filterFrom.induct with
  | case1 =>
    rw [filterFrom, Deletion.delete_nil]
  | case2 byte rest hClear ih =>
    rw [filterFrom, if_pos hClear, ih]
    obtain ⟨after, hEq⟩ := List.isPrefixOf_iff_prefix.1 hClear
    rw [← hEq, clearSequences_marked.delete_append (by decide)]
    rfl
  | case3 byte rest hClear hPrivate ih =>
    rw [filterFrom, if_neg hClear, if_pos hPrivate, ih]
    obtain ⟨after, hEq⟩ := List.isPrefixOf_iff_prefix.1 hPrivate
    rw [← hEq, clearSequences_marked.delete_append (by decide)]
    rfl
  | case4 byte rest hClear hPrivate ih =>
    rw [filterFrom, if_neg hClear, if_neg hPrivate, ih, Deletion.delete_cons_of_none]
    rw [Deletion.matching_eq_none]
    rw [List.isPrefixOf_iff_prefix] at hClear hPrivate
    simpa [clearSequences] using ⟨hClear, hPrivate⟩

theorem stripScrollbackClearSequences_eq_delete (bytes : List UInt8) :
  stripScrollbackClearSequences bytes = Deletion.delete clearSequences bytes := by
  unfold stripScrollbackClearSequences
  split
  · exact filterFrom_eq_delete bytes
  rename_i hNone
  rw [containsScrollbackClearSequence_iff] at hNone
  refine (Deletion.delete_of_none bytes fun sequence hMem hInfix => hNone ?_).symm
  exact ⟨sequence, hMem, hInfix⟩

theorem strip_clean_iff (bytes : List UInt8) :
  containsScrollbackClearSequence (stripScrollbackClearSequences bytes) = false ↔
    ∀ sequence ∈ clearSequences, ¬ Deletion.Torn clearSequences sequence bytes := by
  rw [← Bool.not_eq_true, containsScrollbackClearSequence_iff,
    stripScrollbackClearSequences_eq_delete]
  simp only [not_exists, not_and]
  refine forall₂_congr fun sequence hMem => not_congr ?_
  exact Deletion.infix_delete_iff clearSequences_marked hMem bytes

theorem strip_strip_iff (bytes : List UInt8) :
  stripScrollbackClearSequences (stripScrollbackClearSequences bytes) =
      stripScrollbackClearSequences bytes ↔
    containsScrollbackClearSequence (stripScrollbackClearSequences bytes) = false := by
  rw [← Bool.not_eq_true, containsScrollbackClearSequence_iff,
    stripScrollbackClearSequences_eq_delete (stripScrollbackClearSequences bytes),
    Deletion.delete_eq_self_iff clearSequences_marked]
  simp only [not_exists, not_and]

/-- What the filter hands on holds no clear sequence, and filtering it again changes nothing. -/
def StripsClears (bytes : List UInt8) : Prop :=
  containsScrollbackClearSequence (stripScrollbackClearSequences bytes) = false ∧
    stripScrollbackClearSequences (stripScrollbackClearSequences bytes) =
      stripScrollbackClearSequences bytes

/-- One pass strips all clear sequences exactly from bytes in which no clear sequence is torn
apart by others. -/
theorem stripsClears_iff (bytes : List UInt8) :
  StripsClears bytes ↔
    ∀ sequence ∈ clearSequences, ¬ Deletion.Torn clearSequences sequence bytes := by
  rw [StripsClears, strip_strip_iff, and_self, strip_clean_iff]

/-- `ESC [ ESC [ 3 J 3 J`: what stands around the sequence joins to another. -/
theorem not_stripsClears_nested :
  ¬ StripsClears [0x1b, 0x5b, 0x1b, 0x5b, 0x33, 0x4a, 0x33, 0x4a] := by
  intro hStrips
  have hFree := hStrips.1
  rw [stripScrollbackClearSequences_eq_delete] at hFree
  revert hFree
  decide

end Pane
