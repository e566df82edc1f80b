import VimeflowTerminal.Pane.KittyKeyboard
import Mathlib.Data.Nat.Bitwise

/-! The flags an application negotiates with push, set and pop, and how far the tracker agrees with
them. The tracker takes every `CSI = flags ; mode u` as a replacement. -/

namespace Pane

open Text

/-- The saved flags have their top at the front. -/
structure KeyboardState where
  flags : Nat := 0
  saved : List Nat := []
  deriving DecidableEq

/-- The third parameter of `CSI = flags ; mode u`. -/
inductive SetMode
  | replace
  | add
  | remove
  deriving DecidableEq

namespace KeyboardState

def push (state : KeyboardState) (flags : Nat) : KeyboardState :=
  { flags, saved := state.flags :: state.saved }

def pop (state : KeyboardState) : KeyboardState :=
  { flags := state.saved.head?.getD 0, saved := state.saved.tail }

def set (state : KeyboardState) (flags : Nat) : SetMode → KeyboardState
  | .replace => { state with flags }
  | .add => { state with flags := state.flags ||| flags }
  | .remove => { state with flags := Nat.ldiff state.flags flags }

theorem length_pops (state : KeyboardState) (count : Nat) :
  (pop^[count] state).saved.length = state.saved.length - count := by
  induction count generalizing state with
  | zero => rfl
  | succ count ih =>
    rw [Function.iterate_succ_apply, ih, pop, List.length_tail]
    omega

theorem pops_empty (count : Nat) : pop^[count] {} = {} := by
  induction count with
  | zero => rfl
  | succ count ih => exact ih

theorem pops_eq_self_iff (state : KeyboardState) {count : Nat} (hCount : 0 < count) :
  pop^[count] state = state ↔ state = {} := by
  constructor
  · intro hSame
    have hLength := length_pops state count
    rw [hSame] at hLength
    obtain ⟨flags, saved⟩ := state
    have hSaved : saved.length = saved.length - count := hLength
    obtain rfl : saved = [] := List.eq_nil_of_length_eq_zero (by omega)
    obtain ⟨count, rfl⟩ : ∃ before, count = before + 1 := ⟨count - 1, by omega⟩
    rw [Function.iterate_succ_apply] at hSame
    exact hSame.symm.trans (pops_empty count)
  · rintro rfl
    exact pops_empty count

end KeyboardState

/-- The number of 16 bits the tracker takes digits for. -/
def observedNumber (digits : Digits) : Nat := if digits.value < 2 ^ 16 then digits.value else 0

/-- What an application writes on one screen: the keyboard sequences, and everything else that
is complete, but for other sequences with `<`, `=` or `>` that end in `u`, such as `CSI > 1 SP u`
or a mode of 4: the protocol gives them no meaning. -/
inductive KeyboardItem
  | push (flags : Digits)
  | set (flags : Digits) (mode : Option SetMode)
  | pop (count : Digits)
  | byte (value : UInt8) (isText : value ≠ ESC)
  | escape (value : UInt8) (isEscape : value ≠ ESC ∧ value ≠ CSI_INTRO)
  | sequence (params : List UInt8) (final : UInt8)
      (isParams : ∀ byte ∈ params, 0x20 ≤ byte ∧ byte ≤ 0x3f) (isFinal : isCsiFinal final = true)
      (isOther : final = 0x75 → ∀ kind ∈ params.head?, kind ∉ [0x3c, 0x3d, 0x3e])

namespace KeyboardItem

def modeBytes : Option SetMode → List UInt8
  | none => []
  | some .replace => [0x3b, 0x31]
  | some .add => [0x3b, 0x32]
  | some .remove => [0x3b, 0x33]

def csi (params : List UInt8) (final : UInt8) : List UInt8 :=
  ESC :: CSI_INTRO :: (params ++ [final])

def bytes : KeyboardItem → List UInt8
  | .push flags => csi (0x3e :: flags.bytes) 0x75
  | .set flags mode => csi (0x3d :: (flags.bytes ++ modeBytes mode)) 0x75
  | .pop count => csi (0x3c :: count.bytes) 0x75
  | .byte value _ => [value]
  | .escape value _ => [ESC, value]
  | .sequence params final _ _ _ => csi params final

/-- A pop without a number pops once. -/
def popCount (count : Digits) : Nat := if count.chars = [] then 1 else count.value

/-- What the protocol makes of an item. -/
def negotiate (state : KeyboardState) : KeyboardItem → KeyboardState
  | .push flags => state.push flags.value
  | .set flags mode => state.set flags.value (mode.getD .replace)
  | .pop count => KeyboardState.pop^[popCount count] state
  | _ => state

/-- What the tracker makes of it. -/
def track (tracker : KittyKeyboardTracker) : KeyboardItem → KittyKeyboardTracker
  | .push flags => tracker.push (observedNumber flags)
  | .set flags _ => { tracker with flags := observedNumber flags }
  | .pop count => KittyKeyboardTracker.pop^[max (observedNumber count) 1] tracker
  | _ => tracker

/-- The modes that come to a replacement. -/
def Replaces (current flags : Nat) : SetMode → Prop
  | .replace => flags < 2 ^ 16
  | .add => flags < 2 ^ 16 ∧ current ||| flags = flags
  | .remove =>
    if flags < 2 ^ 16 then current = 0 ∧ flags = 0 else Nat.ldiff current flags = 0

/-- The items the tracker follows: numbers of 16 bits, and sets that come to a replacement. A
pop that it miscounts must come to the state without flags. -/
def Tracked (state : KeyboardState) : KeyboardItem → Prop
  | .push flags => flags.value < 2 ^ 16
  | .set flags mode => Replaces state.flags flags.value (mode.getD .replace)
  | .pop count =>
    if popCount count = 0 then state = {}
    else popCount count < 2 ^ 16 ∨ state.pop = {}
  | _ => True

end KeyboardItem

/-- The tracker has the flags and the saved flags of the protocol. -/
def KittyKeyboardTracker.Agrees (tracker : KittyKeyboardTracker) (state : KeyboardState) : Prop :=
  tracker.flags = state.flags ∧ tracker.stack = state.saved.reverse

namespace KeyboardItem

open KittyKeyboardTracker

theorem observed_eq (digits : Digits) (rest : List UInt8)
  (hRest : rest.head?.all (· = 0x3b) = true) :
  parseKittyKeyboardFlags (digits.bytes ++ rest) = observedNumber digits :=
  parseKittyKeyboardFlags_digits digits rest hRest

theorem scan_csi (tracker : KittyKeyboardTracker) {params : List UInt8} {final : UInt8}
  (hParams : ∀ byte ∈ params, isCsiFinal byte = false) (hFinal : isCsiFinal final = true)
  (rest : List UInt8) :
  tracker.scan (csi params final ++ rest) = (tracker.observeSequence params final).scan rest := by
  have hBytes : csi params final ++ rest = ESC :: CSI_INTRO :: (params ++ final :: rest) := by
    simp [csi]
  rw [hBytes, scan_sequence tracker (splitFinal_of_final hParams hFinal rest)]

theorem modeBytes_head (mode : Option SetMode) : (modeBytes mode).head?.all (· = 0x3b) = true := by
  rcases mode with _ | _ | _ | _ <;> rfl

theorem modeBytes_params (mode : Option SetMode) :
  ∀ byte ∈ modeBytes mode, isCsiFinal byte = false := by
  rcases mode with _ | _ | _ | _ <;> simp [modeBytes, isCsiFinal]

theorem observeSequence_other (tracker : KittyKeyboardTracker) {params : List UInt8}
  {final : UInt8} (hOther : final = 0x75 → ∀ kind ∈ params.head?, kind ∉ [0x3c, 0x3d, 0x3e]) :
  tracker.observeSequence params final = tracker := by
  unfold observeSequence
  split
  case isTrue hFinal =>
    cases params with
    | nil => rfl
    | cons kind rest =>
      have hKind := hOther hFinal kind rfl
      simp only [List.mem_cons, List.not_mem_nil, or_false, not_or] at hKind
      rw [observeCsiU, if_neg hKind.2.2, if_neg hKind.2.1, if_neg hKind.1]
  case isFalse => rfl

/-- The tracker reads a complete item at once. -/
theorem scan_item (tracker : KittyKeyboardTracker) (item : KeyboardItem) (rest : List UInt8) :
  tracker.scan (item.bytes ++ rest) = (track tracker item).scan rest := by
  cases item with
  | push flags =>
    have hParams : ∀ byte ∈ 0x3e :: flags.bytes, isCsiFinal byte = false :=
      List.forall_mem_cons.2 ⟨by decide, fun byte hMem => (digits_params flags byte hMem).2⟩
    have hParse := observed_eq flags [] rfl
    rw [List.append_nil] at hParse
    rw [bytes, scan_csi tracker hParams (by decide), observeSequence, if_pos rfl, observeCsiU,
      if_pos rfl, hParse]
    rfl
  | set flags mode =>
    have hParams : ∀ byte ∈ 0x3d :: (flags.bytes ++ modeBytes mode), isCsiFinal byte = false :=
      List.forall_mem_cons.2 ⟨by decide,
        List.forall_mem_append.2
          ⟨fun byte hMem => (digits_params flags byte hMem).2, modeBytes_params mode⟩⟩
    rw [bytes, scan_csi tracker hParams (by decide), observeSequence, if_pos rfl, observeCsiU,
      if_neg (by decide), if_pos rfl, observed_eq flags _ (modeBytes_head mode)]
    rfl
  | pop count =>
    have hParams : ∀ byte ∈ 0x3c :: count.bytes, isCsiFinal byte = false :=
      List.forall_mem_cons.2 ⟨by decide, fun byte hMem => (digits_params count byte hMem).2⟩
    have hParse := observed_eq count [] rfl
    rw [List.append_nil] at hParse
    rw [bytes, scan_csi tracker hParams (by decide), observeSequence, if_pos rfl, observeCsiU,
      if_neg (by decide), if_neg (by decide), if_pos rfl, hParse]
    rfl
  | byte value isText => exact scan_text tracker isText rest
  | escape value isEscape =>
    have hEscape := scan_escape tracker isEscape.2 rest
    rw [scan_text tracker isEscape.1] at hEscape
    exact hEscape
  | sequence params final isParams isFinal isOther =>
    have hParams : ∀ byte ∈ params, isCsiFinal byte = false := fun byte hMem =>
      isCsiFinal_of_param (isParams byte hMem).2
    rw [bytes, scan_csi tracker hParams isFinal, observeSequence_other tracker isOther]
    rfl

theorem scan_items (tracker : KittyKeyboardTracker) (items : List KeyboardItem) :
  tracker.scan (items.flatMap bytes) = (items.foldl track tracker, []) := by
  induction items generalizing tracker with
  | nil => simp [scan]
  | cons item items ih => rw [List.flatMap_cons, scan_item, ih, List.foldl_cons]

end KeyboardItem

namespace KittyKeyboardTracker.Agrees

variable {tracker : KittyKeyboardTracker} {state : KeyboardState}

section

variable (hAgrees : tracker.Agrees state)
include hAgrees

theorem iff_eq (other : KeyboardState) :
  tracker.Agrees other ↔ state = other := by
  constructor
  · intro hOther
    obtain ⟨flags, saved⟩ := state
    obtain ⟨flags', saved'⟩ := other
    rw [KeyboardState.mk.injEq, ← List.reverse_inj]
    exact ⟨hAgrees.1.symm.trans hOther.1, hAgrees.2.symm.trans hOther.2⟩
  · rintro rfl
    exact hAgrees

theorem pop : tracker.pop.Agrees state.pop := by
  obtain ⟨-, hStack⟩ := hAgrees
  constructor
  · show tracker.stack.getLast?.getD 0 = state.saved.head?.getD 0
    rw [hStack, List.getLast?_reverse]
  · show tracker.stack.dropLast = state.saved.tail.reverse
    rw [hStack, List.dropLast_reverse]

theorem pops (count : Nat) :
  (KittyKeyboardTracker.pop^[count] tracker).Agrees (KeyboardState.pop^[count] state) := by
  induction count generalizing tracker state with
  | zero => exact hAgrees
  | succ count ih => exact ih hAgrees.pop

theorem set_iff (flags flags' : Nat) :
  Agrees { tracker with flags } { state with flags := flags' } ↔ flags = flags' :=
  and_iff_left hAgrees.2

theorem push_iff (flags flags' : Nat) :
  (tracker.push flags).Agrees (state.push flags') ↔ flags = flags' := by
  refine and_iff_left ?_
  show tracker.stack ++ [tracker.flags] = (state.flags :: state.saved).reverse
  rw [List.reverse_cons, hAgrees.1, hAgrees.2]

end

end KittyKeyboardTracker.Agrees

namespace KeyboardItem

open KittyKeyboardTracker

theorem observed_eq_value_iff (digits : Digits) :
  observedNumber digits = digits.value ↔ digits.value < 2 ^ 16 := by
  unfold observedNumber
  split <;> omega

theorem add_iff (digits : Digits) (flags : Nat) :
  observedNumber digits = flags ||| digits.value ↔
    digits.value < 2 ^ 16 ∧ flags ||| digits.value = digits.value := by
  unfold observedNumber
  split
  case isTrue hBelow =>
    rw [and_iff_right hBelow]
    exact eq_comm
  case isFalse hAbove =>
    have hRight : digits.value ≤ flags ||| digits.value := Nat.right_le_or
    omega

theorem zero_ldiff (flags : Nat) : Nat.ldiff 0 flags = 0 :=
  Nat.eq_of_testBit_eq fun i => by rw [Nat.testBit_ldiff, Nat.zero_testBit, Bool.false_and]

theorem ldiff_zero (flags : Nat) : Nat.ldiff flags 0 = flags :=
  Nat.eq_of_testBit_eq fun i => by
    rw [Nat.testBit_ldiff, Nat.zero_testBit, Bool.not_false, Bool.and_true]

theorem ldiff_eq_iff (flags removed : Nat) :
  removed = Nat.ldiff flags removed ↔ flags = 0 ∧ removed = 0 := by
  constructor
  · intro hSame
    have hRemoved : removed = 0 := by
      refine Nat.eq_of_testBit_eq fun i => ?_
      have hBit : removed.testBit i = (flags.testBit i && !removed.testBit i) := by
        rw [← Nat.testBit_ldiff, ← hSame]
      rw [Nat.zero_testBit]
      cases hRemovedBit : removed.testBit i with
      | false => rfl
      | true =>
        rw [hRemovedBit, Bool.not_true, Bool.and_false] at hBit
        exact hBit
    rw [hRemoved, ldiff_zero] at hSame
    exact ⟨hSame.symm, hRemoved⟩
  · rintro ⟨rfl, rfl⟩
    exact (zero_ldiff 0).symm

theorem remove_iff (digits : Digits) (flags : Nat) :
  observedNumber digits = Nat.ldiff flags digits.value ↔
    if digits.value < 2 ^ 16 then flags = 0 ∧ digits.value = 0
    else Nat.ldiff flags digits.value = 0 := by
  unfold observedNumber
  split
  case isTrue => exact ldiff_eq_iff flags digits.value
  case isFalse => exact eq_comm

theorem trackedCount (count : Digits) :
  max (observedNumber count) 1 =
    if popCount count < 2 ^ 16 then max (popCount count) 1 else 1 := by
  unfold observedNumber popCount
  by_cases hNone : count.chars = []
  case pos =>
    have hValue : count.value = 0 := by rw [Digits.value, hNone]; rfl
    rw [if_pos hNone, hValue]
    decide
  case neg =>
    rw [if_neg hNone]
    split <;> rfl

/-- What one item does to the agreement. -/
theorem agrees_item_iff (tracker : KittyKeyboardTracker) (state : KeyboardState)
  (item : KeyboardItem) (hAgrees : tracker.Agrees state) :
  (track tracker item).Agrees (negotiate state item) ↔ Tracked state item := by
  cases item with
  | push flags => exact (hAgrees.push_iff _ _).trans (observed_eq_value_iff flags)
  | set flags mode =>
    show Agrees { tracker with flags := observedNumber flags }
        (state.set flags.value (mode.getD .replace)) ↔
      Replaces state.flags flags.value (mode.getD .replace)
    cases mode.getD .replace with
    | replace => exact (hAgrees.set_iff _ _).trans (observed_eq_value_iff flags)
    | add => exact (hAgrees.set_iff _ _).trans (add_iff flags state.flags)
    | remove => exact (hAgrees.set_iff _ _).trans (remove_iff flags state.flags)
  | pop count =>
    have hPops := (hAgrees.pops (max (observedNumber count) 1)).iff_eq
      (KeyboardState.pop^[popCount count] state)
    refine hPops.trans ?_
    show KeyboardState.pop^[max (observedNumber count) 1] state = _ ↔ if _ then _ else _
    rw [trackedCount]
    by_cases hZero : popCount count = 0
    case pos =>
      rw [hZero, if_pos rfl, if_pos (Nat.two_pow_pos 16)]
      exact state.pops_eq_self_iff Nat.one_pos
    case neg =>
      rw [if_neg hZero]
      by_cases hNarrow : popCount count < 2 ^ 16
      case pos =>
        rw [if_pos hNarrow, Nat.max_eq_left (by omega)]
        exact iff_of_true rfl (Or.inl hNarrow)
      case neg =>
        obtain ⟨more, hMore⟩ : ∃ more, popCount count = more + 1 :=
          ⟨popCount count - 1, by omega⟩
        rw [if_neg hNarrow, or_iff_right hNarrow, hMore, Function.iterate_succ_apply]
        refine eq_comm.trans (state.pop.pops_eq_self_iff ?_)
        omega
  | byte value isText => exact iff_of_true hAgrees trivial
  | escape value isEscape => exact iff_of_true hAgrees trivial
  | sequence params final isParams isFinal isOther => exact iff_of_true hAgrees trivial

theorem openTail_items (items : List KeyboardItem) : openTail (items.flatMap bytes) = [] := by
  rw [openTail, scan_items]

theorem observe_items (items : List KeyboardItem) :
  observe {} (items.flatMap bytes) = { items.foldl track {} with pending := [] } := by
  have hShort : (openTail (items.flatMap bytes)).length ≤ 64 := by
    rw [openTail_items]
    exact Nat.zero_le _
  rw [observe_fresh hShort, openTail_items, scan_items]

/-- After every beginning of the items, however it is cut into reads, the tracker has what the
protocol negotiated. -/
def TracksKeyboard (items : List KeyboardItem) : Prop :=
  ∀ front, front <+: items → ∀ reads, reads.flatten = front.flatMap bytes → KeepsTails reads →
    (observeAll {} reads).Agrees (front.foldl negotiate {})

theorem tracksKeyboard_iff_run (items : List KeyboardItem) :
  TracksKeyboard items ↔
    ∀ front, front <+: items → (front.foldl track {}).Agrees (front.foldl negotiate {}) := by
  refine forall_congr' fun front => forall_congr' fun _ => ?_
  constructor
  · intro hReads
    have hKept : KeepsTails [front.flatMap bytes] := by
      intro some hSome
      cases some with
      | nil => simp [openTail, scan]
      | cons read later =>
        obtain ⟨rfl, hLater⟩ := List.cons_prefix_cons.1 hSome
        obtain rfl := List.prefix_nil.1 hLater
        rw [List.flatten_singleton, openTail_items]
        exact Nat.zero_le _
    have hWhole := hReads [front.flatMap bytes] List.flatten_singleton hKept
    rw [observeAll, List.foldl_cons, List.foldl_nil, observe_items] at hWhole
    exact hWhole
  · intro hAgrees reads hReads hKept
    rw [observeAll_eq hKept, hReads, observe_items]
    exact hAgrees

/-- The tracker agrees with the protocol all along exactly if it can follow each item. -/
theorem tracksKeyboard_iff (items : List KeyboardItem) :
  TracksKeyboard items ↔ Transition.AllowedAlong negotiate Tracked {} items := by
  rw [tracksKeyboard_iff_run]
  exact Transition.related_along_iff (fun tracker state item => agrees_item_iff tracker state item)
    ⟨rfl, rfl⟩ items

def oneDigit (ch : Char) (hDigit : ch.isDigit = true) : Digits :=
  { chars := [ch], isDigit := fun _ hMem => (List.mem_singleton.1 hMem).symm ▸ hDigit }

/-- Flags are set and others added: the tracker forgets the first. -/
theorem not_tracksKeyboard :
  ¬ TracksKeyboard
    [.set (oneDigit '1' (by decide)) none, .set (oneDigit '2' (by decide)) (some .add)] := by
  intro hTracks
  have hAgrees := (tracksKeyboard_iff_run _).1 hTracks _ (List.prefix_refl _)
  exact absurd hAgrees.1 (by decide)

end KeyboardItem

end Pane
