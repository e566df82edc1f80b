import VimeflowTerminal.Data.Decimal
import VimeflowTerminal.Pane.CursorShape

/-! A tracker of the Kitty keyboard sequences in pane output, and the sequences that set up the
same state in the terminal that takes the pane over. -/

namespace Pane

open Text

/-- The first number of parameters, 0 if there is none of 16 bits. -/
def parseKittyKeyboardFlags (params : List UInt8) : Nat :=
  (parseUnsignedBytes (2 ^ 16) (params.takeWhile (· ≠ 0x3b))).getD 0

/-- The stack has its top at the end. -/
structure KittyKeyboardTracker where
  pending : List UInt8 := []
  stack : List Nat := []
  flags : Nat := 0
  deriving DecidableEq

namespace KittyKeyboardTracker

def storePending (tracker : KittyKeyboardTracker) (bytes : List UInt8) : KittyKeyboardTracker :=
  { tracker with pending := if bytes.length ≤ 64 then bytes else [] }

def push (tracker : KittyKeyboardTracker) (flags : Nat) : KittyKeyboardTracker :=
  { tracker with stack := tracker.stack ++ [tracker.flags], flags }

def pop (tracker : KittyKeyboardTracker) : KittyKeyboardTracker :=
  { tracker with stack := tracker.stack.dropLast, flags := tracker.stack.getLast?.getD 0 }

def observeCsiU (tracker : KittyKeyboardTracker) (params : List UInt8) : KittyKeyboardTracker :=
  match params with
  | [] => tracker
  | kind :: rest =>
    if kind = 0x3e then tracker.push (parseKittyKeyboardFlags rest)
    else if kind = 0x3d then { tracker with flags := parseKittyKeyboardFlags rest }
    else if kind = 0x3c then pop^[max (parseKittyKeyboardFlags rest) 1] tracker
    else tracker

def observeSequence (tracker : KittyKeyboardTracker) (params : List UInt8) (final : UInt8) :
  KittyKeyboardTracker :=
  if final = 0x75 then tracker.observeCsiU params else tracker

/-- The bytes up to the end of a control sequence, the byte that ends it and those behind. -/
def splitFinal : List UInt8 → Option (List UInt8 × UInt8 × List UInt8)
  | [] => none
  | byte :: rest =>
    if isCsiFinal byte then some ([], byte, rest)
    else (splitFinal rest).map fun (params, final, later) => (byte :: params, final, later)

variable {params bytes rest : List UInt8} {final : UInt8}

theorem splitFinal_of_final (hParams : ∀ byte ∈ params, isCsiFinal byte = false)
  (hFinal : isCsiFinal final = true) (rest : List UInt8) :
  splitFinal (params ++ final :: rest) = some (params, final, rest) := by
  induction params with
  | nil => rw [List.nil_append, splitFinal, if_pos hFinal]
  | cons byte params ih =>
    obtain ⟨hByte, hParams⟩ := List.forall_mem_cons.1 hParams
    rw [List.cons_append, splitFinal, hByte, if_neg Bool.false_ne_true, ih hParams]
    rfl

section

variable (hSplit : splitFinal bytes = some (params, final, rest))
include hSplit

theorem final_of_splitFinal :
  bytes = params ++ final :: rest ∧ (∀ byte ∈ params, isCsiFinal byte = false) ∧
    isCsiFinal final = true := by
  induction bytes generalizing params with
  | nil => cases hSplit
  | cons byte bytes ih =>
    rw [splitFinal] at hSplit
    split at hSplit
    case isTrue hFinal =>
      cases hSplit
      exact ⟨rfl, by simp, hFinal⟩
    case isFalse hOther =>
      obtain ⟨⟨params, final, rest⟩, hLater, hSame⟩ := Option.map_eq_some_iff.1 hSplit
      cases hSame
      obtain ⟨rfl, hParams, hFinal⟩ := ih hLater
      exact ⟨rfl, List.forall_mem_cons.2 ⟨Bool.eq_false_iff.2 hOther, hParams⟩, hFinal⟩

theorem splitFinal_append
  (more : List UInt8) :
  splitFinal (bytes ++ more) = some (params, final, rest ++ more) := by
  obtain ⟨rfl, hParams, hFinal⟩ := final_of_splitFinal hSplit
  rw [List.append_assoc, List.cons_append]
  exact splitFinal_of_final hParams hFinal (rest ++ more)

theorem length_splitFinal :
  rest.length < bytes.length := by
  obtain ⟨rfl, -, -⟩ := final_of_splitFinal hSplit
  rw [List.length_append, List.length_cons]
  omega

end

/-- The loop of `observe`: the tracker after the complete sequences, and the sequence that is
not complete. -/
def scan (tracker : KittyKeyboardTracker) : List UInt8 → KittyKeyboardTracker × List UInt8
  | [] => (tracker, [])
  | byte :: rest =>
    if byte ≠ ESC then scan tracker rest
    else
      match rest with
      | [] => (tracker, [byte])
      | next :: after =>
        if next ≠ CSI_INTRO then scan tracker (next :: after)
        else
          match hSplit : splitFinal after with
          | none => (tracker, byte :: next :: after)
          | some (params, final, later) =>
            have := length_splitFinal hSplit
            scan (tracker.observeSequence params final) later
  termination_by bytes => bytes.length

def observe (tracker : KittyKeyboardTracker) (bytes : List UInt8) : KittyKeyboardTracker :=
  let (tracker, tail) := scan { tracker with pending := [] } (tracker.pending ++ bytes)
  tracker.storePending tail

/-- Observe reads one after the other. -/
def observeAll (tracker : KittyKeyboardTracker) (reads : List (List UInt8)) :
  KittyKeyboardTracker :=
  reads.foldl observe tracker

end KittyKeyboardTracker

/-- `CSI kind number u`. -/
def keyboardSequence (kind : UInt8) (number : Nat) : List UInt8 :=
  ESC :: CSI_INTRO :: kind :: ((Digits.ofNat number).bytes ++ [0x75])

/-- The sequences that give a fresh terminal the state; none if there is nothing to do. -/
def KittyKeyboardTracker.replayAnsi (tracker : KittyKeyboardTracker) : Option (List UInt8) :=
  match tracker.stack with
  | [] => if tracker.flags ≠ 0 then some (keyboardSequence 0x3d tracker.flags) else none
  | baseline :: stack =>
    let ansi :=
      (if baseline ≠ 0 then keyboardSequence 0x3d baseline else []) ++
        (stack ++ [tracker.flags]).flatMap (keyboardSequence 0x3e)
    if ansi.isEmpty then none else some ansi

namespace KittyKeyboardTracker

section

variable (tracker : KittyKeyboardTracker)

theorem scan_text {byte : UInt8} (hByte : byte ≠ ESC)
  (rest : List UInt8) : tracker.scan (byte :: rest) = tracker.scan rest := by
  rw [scan.eq_def]
  exact if_pos hByte

theorem scan_escape {byte : UInt8} (hByte : byte ≠ CSI_INTRO)
  (rest : List UInt8) : tracker.scan (ESC :: byte :: rest) = tracker.scan (byte :: rest) := by
  rw [scan.eq_def]
  exact (if_neg (not_not_intro rfl)).trans (if_pos hByte)

theorem scan_sequence {bytes params rest : List UInt8}
  {final : UInt8} (hSplit : splitFinal bytes = some (params, final, rest)) :
  tracker.scan (ESC :: CSI_INTRO :: bytes) =
    (tracker.observeSequence params final).scan rest := by
  rw [scan.eq_def]
  dsimp only
  rw [if_neg (not_not_intro rfl), if_neg (not_not_intro rfl)]
  split
  next hNone =>
    rw [hSplit] at hNone
    cases hNone
  next hSome =>
    rw [hSplit] at hSome
    cases hSome
    rfl

/-- More input continues at the sequence that is not complete. -/
theorem scan_append (first second : List UInt8) :
  tracker.scan (first ++ second) =
    (tracker.scan first).1.scan ((tracker.scan first).2 ++ second) := by
  fun_induction scan tracker first with
  | case1 tracker => rfl
  | case2 tracker byte rest hByte ih => rw [List.cons_append, scan_text tracker hByte, ih]
  | case3 tracker byte hByte => rfl
  | case4 tracker byte hByte next after hNext ih =>
    obtain rfl : byte = ESC := not_not.1 hByte
    rw [List.cons_append, List.cons_append, scan_escape tracker hNext]
    exact ih
  | case5 tracker byte hByte next after hNext hNone => rfl
  | case6 tracker byte hByte next after hNext params final later hSplit hLength ih =>
    obtain rfl : byte = ESC := not_not.1 hByte
    obtain rfl : next = CSI_INTRO := not_not.1 hNext
    rw [List.cons_append, List.cons_append,
      scan_sequence tracker (splitFinal_append hSplit second)]
    exact ih

end

theorem pop_pending (count : Nat) (tracker : KittyKeyboardTracker) :
  (pop^[count] tracker).pending = tracker.pending := by
  induction count generalizing tracker with
  | zero => rfl
  | succ count ih => exact ih tracker.pop

theorem observeCsiU_pending (tracker : KittyKeyboardTracker) (params : List UInt8) :
  (tracker.observeCsiU params).pending = tracker.pending := by
  unfold observeCsiU
  split
  · rfl
  split
  · rfl
  split
  · rfl
  split
  · exact pop_pending _ tracker
  · rfl

theorem observeSequence_pending (tracker : KittyKeyboardTracker) (params : List UInt8)
  (final : UInt8) : (tracker.observeSequence params final).pending = tracker.pending := by
  unfold observeSequence
  split
  · exact observeCsiU_pending tracker params
  · rfl

theorem scan_pending (tracker : KittyKeyboardTracker) (bytes : List UInt8) :
  (tracker.scan bytes).1.pending = tracker.pending := by
  fun_induction scan tracker bytes with
  | case1 tracker => rfl
  | case2 tracker byte rest hByte ih => exact ih
  | case3 tracker byte hByte => rfl
  | case4 tracker byte hByte next after hNext ih => exact ih
  | case5 tracker byte hByte next after hNext hNone => rfl
  | case6 tracker byte hByte next after hNext params final later hSplit hLength ih =>
    exact ih.trans (observeSequence_pending tracker params final)

/-- The sequence at the end of a stream that is not complete. -/
def openTail (stream : List UInt8) : List UInt8 := (scan {} stream).2

/-- No beginning of a stream ends in more than 64 bytes of a sequence that is not complete. -/
def ShortTails (stream : List UInt8) : Prop :=
  ∀ front, front <+: stream → (openTail front).length ≤ 64

theorem length_scan (tracker : KittyKeyboardTracker) (bytes : List UInt8) :
  (tracker.scan bytes).2.length ≤ bytes.length := by
  fun_induction scan tracker bytes with
  | case1 tracker => exact Nat.le_refl _
  | case2 tracker byte rest hByte ih => exact Nat.le_succ_of_le ih
  | case3 tracker byte hByte => exact Nat.le_refl _
  | case4 tracker byte hByte next after hNext ih => exact Nat.le_succ_of_le ih
  | case5 tracker byte hByte next after hNext hNone => exact Nat.le_refl _
  | case6 tracker byte hByte next after hNext params final later hSplit hLength ih =>
    rw [List.length_cons, List.length_cons]
    omega

theorem shortTails_of_length {stream : List UInt8} (hLength : stream.length ≤ 64) :
  ShortTails stream :=
  fun front hFront => (length_scan {} front).trans (hFront.length_le.trans hLength)

theorem observe_fresh {stream : List UInt8} (hShort : (openTail stream).length ≤ 64) :
  observe {} stream = { (scan {} stream).1 with pending := openTail stream } := by
  have hObserve : observe {} stream = (scan {} stream).1.storePending (openTail stream) := rfl
  rw [hObserve, storePending, if_pos hShort]

theorem observe_append {first second : List UInt8} (hShort : (openTail first).length ≤ 64) :
  (observe {} first).observe second = observe {} (first ++ second) := by
  rw [observe_fresh hShort]
  have hClean : ({ (scan {} first).1 with pending := [] } : KittyKeyboardTracker) =
      (scan {} first).1 := by
    have hPending : (scan {} first).1.pending = [] := scan_pending {} first
    generalize (scan {} first).1 = reached at hPending
    cases reached
    cases hPending
    rfl
  have hWhole := scan_append {} first second
  unfold observe
  rw [hClean, List.nil_append, hWhole]
  rfl

theorem observeAll_concat (tracker : KittyKeyboardTracker) (reads : List (List UInt8))
  (read : List UInt8) :
  tracker.observeAll (reads ++ [read]) = (tracker.observeAll reads).observe read := by
  rw [observeAll, List.foldl_append]
  rfl

/-- No read ends in more than 64 bytes of a sequence that is not complete. -/
def KeepsTails (reads : List (List UInt8)) : Prop :=
  ∀ some, some <+: reads → (openTail some.flatten).length ≤ 64

theorem ShortTails.keepsTails {reads : List (List UInt8)} (hShort : ShortTails reads.flatten) :
  KeepsTails reads := by
  rintro some ⟨rest, rfl⟩
  rw [List.flatten_append] at hShort
  exact hShort some.flatten (List.prefix_append _ _)

theorem observeAll_eq {reads : List (List UInt8)} (hKept : KeepsTails reads) :
  observeAll {} reads = observe {} reads.flatten := by
  induction reads using List.reverseRecOn with
  | nil => simp [observeAll, observe, scan, storePending]
  | append_singleton reads read ih =>
    have hFront : KeepsTails reads := fun some hSome =>
      hKept some (hSome.trans (List.prefix_append _ _))
    rw [observeAll_concat, ih hFront, List.flatten_append, List.flatten_singleton]
    exact observe_append (hKept reads (List.prefix_append _ _))

/-- The flags and the saved ones are numbers of 16 bits. -/
def Narrow (tracker : KittyKeyboardTracker) : Prop :=
  tracker.flags < 2 ^ 16 ∧ ∀ flags ∈ tracker.stack, flags < 2 ^ 16

theorem parseKittyKeyboardFlags_lt (params : List UInt8) :
  parseKittyKeyboardFlags params < 2 ^ 16 := by
  unfold parseKittyKeyboardFlags
  cases hParse : parseUnsignedBytes (2 ^ 16) (params.takeWhile (· ≠ 0x3b)) with
  | none => exact Nat.two_pow_pos 16
  | some number => exact parseUnsigned_lt (Nat.two_pow_pos 16) hParse

variable {tracker : KittyKeyboardTracker}

section

variable (hNarrow : tracker.Narrow)
include hNarrow

theorem Narrow.pop : tracker.pop.Narrow := by
  refine ⟨?_, fun flags hMem => hNarrow.2 flags (List.mem_of_mem_dropLast hMem)⟩
  rw [KittyKeyboardTracker.pop]
  cases hLast : tracker.stack.getLast? with
  | none => exact Nat.two_pow_pos 16
  | some flags => exact hNarrow.2 flags (List.mem_of_getLast? hLast)

theorem Narrow.pops (count : Nat) :
  (KittyKeyboardTracker.pop^[count] tracker).Narrow := by
  induction count generalizing tracker with
  | zero => exact hNarrow
  | succ count ih => exact ih hNarrow.pop

theorem Narrow.observeCsiU (params : List UInt8) :
  (tracker.observeCsiU params).Narrow := by
  unfold KittyKeyboardTracker.observeCsiU
  split
  · exact hNarrow
  split
  · refine ⟨parseKittyKeyboardFlags_lt _, fun flags hMem => ?_⟩
    rcases List.mem_append.1 hMem with hMem | hMem
    · exact hNarrow.2 flags hMem
    · rw [List.mem_singleton.1 hMem]
      exact hNarrow.1
  · split
    · exact ⟨parseKittyKeyboardFlags_lt _, hNarrow.2⟩
    · split
      · exact hNarrow.pops _
      · exact hNarrow

theorem Narrow.observeSequence (params : List UInt8) (final : UInt8) :
  (tracker.observeSequence params final).Narrow := by
  unfold KittyKeyboardTracker.observeSequence
  split
  · exact hNarrow.observeCsiU params
  · exact hNarrow

theorem Narrow.scan (bytes : List UInt8) :
  (tracker.scan bytes).1.Narrow := by
  fun_induction KittyKeyboardTracker.scan tracker bytes with
  | case1 tracker => exact hNarrow
  | case2 tracker byte rest hByte ih => exact ih hNarrow
  | case3 tracker byte hByte => exact hNarrow
  | case4 tracker byte hByte next after hNext ih => exact ih hNarrow
  | case5 tracker byte hByte next after hNext hNone => exact hNarrow
  | case6 tracker byte hByte next after hNext params final later hSplit hLength ih =>
    exact ih (hNarrow.observeSequence params final)

end

theorem narrow_observeAll (reads : List (List UInt8)) : (observeAll {} reads).Narrow := by
  have hStart : Narrow {} := ⟨Nat.two_pow_pos 16, by simp⟩
  induction reads using List.reverseRecOn with
  | nil => exact hStart
  | append_singleton reads read ih =>
    have hClean : Narrow { observeAll {} reads with pending := [] } := ih
    rw [observeAll_concat]
    exact hClean.scan _

end KittyKeyboardTracker

theorem isCsiFinal_of_param {byte : UInt8} (hParam : byte ≤ 0x3f) : isCsiFinal byte = false := by
  have hNot : ¬ 0x40 ≤ byte := by
    rw [UInt8.le_iff_toNat_le] at hParam ⊢
    have hLow : (0x3f : UInt8).toNat = 63 := rfl
    have hHigh : (0x40 : UInt8).toNat = 64 := rfl
    omega
  rw [isCsiFinal, decide_eq_false hNot, Bool.false_and]

theorem digits_params (digits : Digits) :
  ∀ byte ∈ digits.bytes, byte ≠ 0x3b ∧ isCsiFinal byte = false := by
  intro byte hMem
  have hHigh : byte.toNat ≤ 57 := UInt8.le_iff_toNat_le.1 (digits.bounds byte hMem).2
  refine ⟨?_, isCsiFinal_of_param (UInt8.le_iff_toNat_le.2 (hHigh.trans (by decide)))⟩
  rintro rfl
  exact absurd hHigh (by decide)

/-- The number in front of other parameters. -/
theorem parseKittyKeyboardFlags_digits (digits : Digits) (rest : List UInt8)
  (hRest : rest.head?.all (· = 0x3b) = true) :
  parseKittyKeyboardFlags (digits.bytes ++ rest) =
    if digits.value < 2 ^ 16 then digits.value else 0 := by
  have hTake : (digits.bytes ++ rest).takeWhile (· ≠ 0x3b) = digits.bytes := by
    rw [List.takeWhile_append_of_pos fun byte hMem =>
      decide_eq_true (digits_params digits byte hMem).1]
    cases rest with
    | nil => rw [List.takeWhile_nil, List.append_nil]
    | cons byte rest =>
      have hSemicolon : byte = 0x3b := of_decide_eq_true hRest
      rw [List.takeWhile_cons_of_neg (by simp [hSemicolon]), List.append_nil]
  have hRead : ∀ number, parseUnsignedBytes (2 ^ 16) digits.bytes = some number ↔ _ :=
    fun number => parseUnsignedBytes_eq_some_iff (Nat.two_pow_pos 16) digits
  rw [parseKittyKeyboardFlags, hTake]
  cases hParse : parseUnsignedBytes (2 ^ 16) digits.bytes with
  | some number =>
    obtain ⟨-, hBelow, rfl⟩ := (hRead number).1 hParse
    exact (if_pos hBelow).symm
  | none =>
    by_cases hBelow : digits.value < 2 ^ 16
    case neg => exact (if_neg hBelow).symm
    case pos =>
      have hNone : digits.chars = [] := by
        by_contra hSome
        rw [(hRead digits.value).2 ⟨hSome, hBelow, rfl⟩] at hParse
        cases hParse
      rw [Digits.value, hNone]
      rfl

theorem parseKittyKeyboardFlags_ofNat {number : Nat} (hNumber : number < 2 ^ 16) :
  parseKittyKeyboardFlags (Digits.ofNat number).bytes = number := by
  have hParse := parseKittyKeyboardFlags_digits (Digits.ofNat number) [] rfl
  rw [Digits.value_ofNat, if_pos hNumber, List.append_nil] at hParse
  exact hParse

namespace KittyKeyboardTracker

theorem scan_keyboard (tracker : KittyKeyboardTracker) {kind : UInt8}
  (hKind : isCsiFinal kind = false) (number : Nat) (rest : List UInt8) :
  tracker.scan (keyboardSequence kind number ++ rest) =
    (tracker.observeCsiU (kind :: (Digits.ofNat number).bytes)).scan rest := by
  have hParams : ∀ byte ∈ kind :: (Digits.ofNat number).bytes, isCsiFinal byte = false :=
    List.forall_mem_cons.2 ⟨hKind, fun byte hMem =>
      (digits_params (Digits.ofNat number) byte hMem).2⟩
  have hSplit : splitFinal (kind :: (Digits.ofNat number).bytes ++ 0x75 :: rest) = _ :=
    splitFinal_of_final hParams (by decide) rest
  have hBytes : keyboardSequence kind number ++ rest =
      ESC :: CSI_INTRO :: (kind :: (Digits.ofNat number).bytes ++ 0x75 :: rest) := by
    simp [keyboardSequence]
  rw [hBytes, scan_sequence tracker hSplit]
  rfl

variable {flags : Nat}

section

variable (tracker : KittyKeyboardTracker)

theorem scan_push (hFlags : flags < 2 ^ 16) (rest : List UInt8) :
  tracker.scan (keyboardSequence 0x3e flags ++ rest) = (tracker.push flags).scan rest := by
  rw [scan_keyboard tracker (by decide), observeCsiU, if_pos rfl,
    parseKittyKeyboardFlags_ofNat hFlags]

theorem scan_set (hFlags : flags < 2 ^ 16) (rest : List UInt8) :
  tracker.scan (keyboardSequence 0x3d flags ++ rest) = scan { tracker with flags } rest := by
  rw [scan_keyboard tracker (by decide), observeCsiU, if_neg (by decide), if_pos rfl,
    parseKittyKeyboardFlags_ofNat hFlags]

theorem scan_pushes {pushed : List Nat}
  (hPushed : ∀ flags ∈ pushed, flags < 2 ^ 16) :
  tracker.scan (pushed.flatMap (keyboardSequence 0x3e)) = (pushed.foldl push tracker, []) := by
  induction pushed generalizing tracker with
  | nil => simp [scan]
  | cons flags pushed ih =>
    obtain ⟨hFlags, hPushed⟩ := List.forall_mem_cons.1 hPushed
    rw [List.flatMap_cons, scan_push tracker hFlags, ih _ hPushed]
    rfl

theorem foldl_push (saved : List Nat) (flags : Nat) :
  (saved ++ [flags]).foldl push tracker =
    { tracker with stack := tracker.stack ++ tracker.flags :: saved, flags } := by
  induction saved generalizing tracker with
  | nil => rfl
  | cons next saved ih =>
    rw [List.cons_append, List.foldl_cons, ih]
    simp [push]

end

/-- A fresh tracker comes to the same flags and the same stack from the replayed sequences, and
where none are replayed there are no flags. -/
def Restores (tracker : KittyKeyboardTracker) : Prop :=
  match tracker.replayAnsi with
  | some ansi =>
    (observe {} ansi).stack = tracker.stack ∧ (observe {} ansi).flags = tracker.flags
  | none => tracker.stack = [] ∧ tracker.flags = 0

theorem observe_of_scan {bytes : List UInt8} {stack : List Nat}
  (hScan : scan {} bytes = ({ stack, flags }, [])) :
  (observe {} bytes).stack = stack ∧ (observe {} bytes).flags = flags := by
  have hObserve : observe {} bytes = (scan {} bytes).1.storePending (scan {} bytes).2 := rfl
  rw [hObserve, hScan]
  exact ⟨rfl, rfl⟩

theorem restores_of_narrow {tracker : KittyKeyboardTracker} (hNarrow : tracker.Narrow) :
  tracker.Restores := by
  obtain ⟨pending, stack, flags⟩ := tracker
  obtain ⟨hFlags, hStack⟩ : flags < 2 ^ 16 ∧ ∀ saved ∈ stack, saved < 2 ^ 16 := hNarrow
  cases stack with
  | nil =>
    by_cases hZero : flags = 0
    case pos =>
      subst hZero
      exact ⟨rfl, rfl⟩
    case neg =>
      have hReplay : replayAnsi ⟨pending, [], flags⟩ = some (keyboardSequence 0x3d flags) :=
        if_pos hZero
      have hScan : scan {} (keyboardSequence 0x3d flags) = ({ flags }, []) := by
        have hSet := scan_set {} hFlags []
        rw [List.append_nil] at hSet
        rw [hSet, scan]
      rw [Restores, hReplay]
      exact observe_of_scan hScan
  | cons baseline saved =>
    obtain ⟨hBaseline, hSaved⟩ := List.forall_mem_cons.1 hStack
    have hPushed : ∀ pushed ∈ saved ++ [flags], pushed < 2 ^ 16 := by
      intro pushed hMem
      rcases List.mem_append.1 hMem with hMem | hMem
      · exact hSaved pushed hMem
      · rw [List.mem_singleton.1 hMem]
        exact hFlags
    let pushes := (saved ++ [flags]).flatMap (keyboardSequence 0x3e)
    have hPushes : scan { flags := baseline } pushes =
        ({ stack := baseline :: saved, flags }, []) := by
      rw [scan_pushes _ hPushed, foldl_push]
      rfl
    have hReplay : replayAnsi ⟨pending, baseline :: saved, flags⟩ =
        some ((if baseline ≠ 0 then keyboardSequence 0x3d baseline else []) ++ pushes) := by
      have hSome : ((if baseline ≠ 0 then keyboardSequence 0x3d baseline else []) ++
          pushes).isEmpty = false := by
        simp [pushes, keyboardSequence]
      rw [replayAnsi]
      exact if_neg (by rw [hSome]; exact Bool.false_ne_true)
    rw [Restores, hReplay]
    apply observe_of_scan
    by_cases hZero : baseline = 0
    case pos =>
      subst hZero
      exact hPushes
    case neg =>
      rw [if_pos hZero, scan_set {} hBaseline]
      exact hPushes

/-- The state of every tracker is handed over, and short open tails make it independent of the
reads. -/
theorem keyboard_handoff (reads : List (List UInt8)) :
  (observeAll {} reads).Restores ∧
    (ShortTails reads.flatten → observeAll {} reads = observe {} reads.flatten) :=
  ⟨restores_of_narrow (narrow_observeAll reads), fun hShort => observeAll_eq hShort.keepsTails⟩

/-- Two nested pushes over flags that were set, cut inside the first push. -/
theorem keyboard_handoff_nested :
  let reads := [keyboardSequence 0x3d 4 ++ [ESC, CSI_INTRO], [0x3e, 0x31, 0x75],
      keyboardSequence 0x3e 5]
  observeAll {} reads = { stack := [4, 1], flags := 5 } ∧ (observeAll {} reads).Restores ∧
    observeAll {} reads = observe {} reads.flatten := by
  intro reads
  have hHandoff := keyboard_handoff reads
  exact ⟨by decide +kernel, hHandoff.1, hHandoff.2 (shortTails_of_length (by decide +kernel))⟩

end KittyKeyboardTracker

end Pane
