import VimeflowTerminal.Data.BijectiveNumeral
import Mathlib.Data.List.Infix
import Mathlib.Data.List.TakeWhile

/-! Prefixes, the last occurrence of a separator and unsigned numbers, as the
standard string functions find them. -/

namespace Text

def stripPrefixList (start : List Char) : List Char → Option (List Char) := fun text =>
  if start <+: text then some (text.drop start.length) else none

/-- Split at the last occurrence of the separator. -/
def rsplitOnceList (separator : List Char) : List Char → Option (List Char × List Char)
  | [] => none
  | c :: text =>
    match rsplitOnceList separator text with
    | some (before, after) => some (c :: before, after)
    | none => (stripPrefixList separator (c :: text)).map fun after => ([], after)

def stripPrefix (start text : String) : Option String :=
  (stripPrefixList start.toList text.toList).map String.ofList

def rsplitOnce (separator text : String) : Option (String × String) :=
  (rsplitOnceList separator.toList text.toList).map fun (before, after) =>
    (String.ofList before, String.ofList after)

/-- Read one more decimal digit. -/
def pushDigit (limit number : Nat) (symbol : Char) : Option Nat :=
  if symbol.isDigit then do
    let shifted ← BijectiveNumeral.checkedMul limit number 10
    BijectiveNumeral.checkedAdd limit shifted (symbol.toNat - '0'.toNat)
  else none

/-- `text.parse::<T>().ok()` for an unsigned type of the given limit. A plus sign
may come first. -/
def parseUnsigned (limit : Nat) (text : String) : Option Nat :=
  let digits :=
    match text.toList with
    | '+' :: digits => digits
    | digits => digits
  if digits.isEmpty then none else digits.foldlM (pushDigit limit) 0

def stripSuffixList (stop text : List Char) : Option (List Char) :=
  if stop <:+ text then some (text.take (text.length - stop.length)) else none

/-- Split at the first occurrence of the separator. -/
def splitOnceList (separator : Char) (text : List Char) : Option (List Char × List Char) :=
  match text.span (· ≠ separator) with
  | (_, []) => none
  | (before, _ :: after) => some (before, after)

theorem stripPrefixList_append (start text : List Char) :
  stripPrefixList start (start ++ text) = some text := by
  rw [stripPrefixList, if_pos (List.prefix_append _ _), List.drop_left]

theorem stripSuffixList_append (text stop : List Char) :
  stripSuffixList stop (text ++ stop) = some text := by
  rw [stripSuffixList, if_pos (List.suffix_append _ _), List.length_append, Nat.add_sub_cancel,
    List.take_left]

variable {c : Char} {before text digits rest : List Char} {limit start number : Nat}

theorem stripSuffixList_none {d : Char} (text : List Char) (hNe : c ≠ d) :
  stripSuffixList [c] (text ++ [d]) = none := by
  refine if_neg fun hSuffix => hNe ?_
  obtain ⟨before, hEq⟩ := hSuffix
  exact (List.append_inj_right' hEq rfl |> List.singleton_inj.1)

theorem splitOnceList_append (after : List Char) (hNot : c ∉ before) :
  splitOnceList c (before ++ c :: after) = some (before, after) := by
  have hSpan : (before ++ c :: after).span (· ≠ c) = (before, c :: after) := by
    induction before with
    | nil => simp [List.span, List.span.loop]
    | cons d before ih =>
      rw [List.mem_cons, not_or] at hNot
      rw [List.span_eq_takeWhile_dropWhile] at ih ⊢
      have hHead : decide (d ≠ c) = true := decide_eq_true (Ne.symm hNot.1)
      have hRest := Prod.mk.inj (ih hNot.2)
      rw [List.cons_append, List.takeWhile_cons, List.dropWhile_cons, hHead]
      simp only [if_true, hRest.1, hRest.2]
  rw [splitOnceList, hSpan]

theorem splitOnceList_none (hNot : c ∉ text) : splitOnceList c text = none := by
  have hSpan : text.span (· ≠ c) = (text, []) := by
    have hAll : ∀ d ∈ text, decide (d ≠ c) = true := by
      intro d hMem
      refine decide_eq_true ?_
      rintro rfl
      exact hNot hMem
    rw [List.span_eq_takeWhile_dropWhile, List.takeWhile_eq_self_iff.2 hAll,
      List.dropWhile_eq_nil_iff.2 hAll]
  rw [splitOnceList, hSpan]

theorem eq_of_prefix_separator (hPrefix : before ++ [c] <+: digits ++ c :: rest)
  (hBefore : c ∉ before) (hDigits : c ∉ digits) : before = digits := by
  obtain ⟨after, hEq⟩ := hPrefix
  have hSplit : splitOnceList c (digits ++ c :: rest) = some (before, after) := by
    rw [← hEq, List.append_assoc]
    exact splitOnceList_append after hBefore
  rw [splitOnceList_append rest hDigits] at hSplit
  exact (Prod.mk.inj (Option.some.inj hSplit)).1.symm

theorem le_ofDigitChars (digits : List Char) (start : Nat) :
  start ≤ Nat.ofDigitChars 10 digits start := by
  induction digits generalizing start with
  | nil => exact Nat.le_refl _
  | cons d digits ih =>
    have hRest := ih (10 * start + (d.toNat - '0'.toNat))
    have hStep : start ≤ 10 * start + (d.toNat - '0'.toNat) := by omega
    exact Nat.le_trans hStep hRest

theorem pushDigits_eq (hDigits : ∀ d ∈ digits, d.isDigit = true)
  (hBelow : Nat.ofDigitChars 10 digits start < limit) :
  digits.foldlM (pushDigit limit) start = some (Nat.ofDigitChars 10 digits start) := by
  induction digits generalizing start with
  | nil => rfl
  | cons d digits ih =>
    have hRest : Nat.ofDigitChars 10 digits (10 * start + (d.toNat - '0'.toNat)) < limit := hBelow
    have hNext := Nat.lt_of_le_of_lt (le_ofDigitChars digits _) hRest
    have hMul : start * 10 < limit := by omega
    have hAdd : start * 10 + (d.toNat - '0'.toNat) < limit := by omega
    have hPush : pushDigit limit start d = some (10 * start + (d.toNat - '0'.toNat)) := by
      simp only [pushDigit, hDigits d List.mem_cons_self, if_true, BijectiveNumeral.checkedMul,
        hMul, BijectiveNumeral.checkedAdd, hAdd, Option.bind_eq_bind, Option.bind_some,
        Nat.mul_comm]
    rw [List.foldlM_cons, hPush]
    exact ih (fun e hMem => hDigits e (List.mem_cons_of_mem _ hMem)) hRest

theorem pushDigit_lt {next : Nat} {symbol : Char}
  (hPush : pushDigit limit number symbol = some next) : next < limit := by
  unfold pushDigit BijectiveNumeral.checkedAdd at hPush
  split at hPush
  case isTrue =>
    obtain ⟨shifted, -, hAdd⟩ := Option.bind_eq_some_iff.1 hPush
    split at hAdd
    case isTrue hBelow =>
      cases hAdd
      exact hBelow
    case isFalse => cases hAdd
  case isFalse => cases hPush

theorem pushDigits_lt (digits : List Char) (hStart : start < limit)
  (hPush : digits.foldlM (pushDigit limit) start = some number) :
  number < limit := by
  induction digits generalizing start with
  | nil =>
    cases hPush
    exact hStart
  | cons d digits ih =>
    rw [List.foldlM_cons] at hPush
    obtain ⟨next, hNext, hRest⟩ := Option.bind_eq_some_iff.1 hPush
    exact ih (pushDigit_lt hNext) hRest

theorem parseUnsigned_lt {text : String} (hLimit : 0 < limit)
  (hParse : parseUnsigned limit text = some number) : number < limit := by
  unfold parseUnsigned at hParse
  dsimp only at hParse
  split at hParse
  all_goals
    split at hParse
    case isTrue => cases hParse
    case isFalse => exact pushDigits_lt _ hLimit hParse

theorem pushDigit_eq {next : Nat} {symbol : Char}
  (hPush : pushDigit limit number symbol = some next) :
  next = 10 * number + (symbol.toNat - '0'.toNat) := by
  unfold pushDigit BijectiveNumeral.checkedAdd BijectiveNumeral.checkedMul at hPush
  split at hPush
  case isTrue =>
    obtain ⟨shifted, hMul, hAdd⟩ := Option.bind_eq_some_iff.1 hPush
    split at hMul <;> cases hMul
    split at hAdd <;> cases hAdd
    rw [Nat.mul_comm]
  case isFalse => cases hPush

/-- Digits that are read have their value. -/
theorem eq_of_pushDigits (hPush : digits.foldlM (pushDigit limit) start = some number) :
  number = Nat.ofDigitChars 10 digits start := by
  induction digits generalizing start with
  | nil =>
    cases hPush
    rfl
  | cons d digits ih =>
    rw [List.foldlM_cons] at hPush
    obtain ⟨next, hNext, hRest⟩ := Option.bind_eq_some_iff.1 hPush
    rw [ih hRest, pushDigit_eq hNext]
    rfl

/-- Digits are read as their value if it is below the limit. -/
theorem parseUnsigned_digits (hLimit : 0 < limit) (hDigits : ∀ d ∈ digits, d.isDigit = true)
  (hSome : digits ≠ []) :
  parseUnsigned limit (String.ofList digits) =
    if Nat.ofDigitChars 10 digits 0 < limit then some (Nat.ofDigitChars 10 digits 0)
    else none := by
  have hPush : digits.foldlM (pushDigit limit) 0 =
      if Nat.ofDigitChars 10 digits 0 < limit then some (Nat.ofDigitChars 10 digits 0)
      else none := by
    split
    case isTrue hBelow => exact pushDigits_eq hDigits hBelow
    case isFalse hAbove =>
      refine Option.eq_none_iff_forall_ne_some.2 fun number hNumber => hAbove ?_
      rw [← eq_of_pushDigits hNumber]
      exact pushDigits_lt digits hLimit hNumber
  rw [← hPush]
  unfold parseUnsigned
  rw [String.toList_ofList]
  cases digits with
  | nil => exact absurd rfl hSome
  | cons d digits =>
    have hPlus : d ≠ '+' := by
      rintro rfl
      exact absurd (hDigits '+' List.mem_cons_self) (by decide)
    split
    next hHead => exact absurd (List.cons.inj hHead).1 hPlus
    · rfl

theorem parseUnsigned_toDigits {n : Nat} (hBelow : n < limit) :
  parseUnsigned limit (String.ofList (Nat.toDigits 10 n)) = some n := by
  have hDigits : ∀ d ∈ Nat.toDigits 10 n, d.isDigit = true :=
    fun _ hMem => Nat.isDigit_of_mem_toDigits (by omega) (by omega) hMem
  have hValue : Nat.ofDigitChars 10 (Nat.toDigits 10 n) 0 = n := Nat.ofDigitChars_ten_toDigits
  rw [parseUnsigned_digits (by omega) hDigits Nat.toDigits_ne_nil, hValue, if_pos hBelow]

theorem eq_append_of_stripPrefixList {start : List Char}
  (hRest : stripPrefixList start text = some rest) : text = start ++ rest := by
  unfold stripPrefixList at hRest
  split at hRest
  case isTrue hPrefix =>
    obtain ⟨more, rfl⟩ := hPrefix
    cases hRest
    rw [List.drop_left]
  case isFalse => cases hRest

theorem eq_append_of_stripSuffixList {stop : List Char}
  (hRest : stripSuffixList stop text = some rest) : text = rest ++ stop := by
  unfold stripSuffixList at hRest
  split at hRest
  case isTrue hSuffix =>
    obtain ⟨more, rfl⟩ := hSuffix
    cases hRest
    rw [List.length_append, Nat.add_sub_cancel, List.take_left]
  case isFalse => cases hRest

theorem eq_append_of_splitOnceList {separator : Char} {after : List Char}
  (hSplit : splitOnceList separator text = some (before, after)) :
  text = before ++ separator :: after := by
  unfold splitOnceList at hSplit
  rw [List.span_eq_takeWhile_dropWhile] at hSplit
  split at hSplit
  case h_1 => cases hSplit
  case h_2 first last rest hSpan =>
    cases hSplit
    obtain ⟨hTake, hDrop⟩ := Prod.mk.inj hSpan
    have hWhole : text.takeWhile (· ≠ separator) ++ text.dropWhile (· ≠ separator) = text :=
      List.takeWhile_append_dropWhile
    have hFirst := List.head?_dropWhile_not (fun ch => decide (ch ≠ separator)) text
    rw [hDrop, List.head?_cons] at hFirst
    have hLast : last = separator := by simpa using hFirst
    rw [hTake, hDrop, hLast] at hWhole
    exact hWhole.symm

end Text
