import Mathlib.Data.List.Induction
import Mathlib.Data.List.Nodup

/-! Numerals without a digit zero: over an alphabet of `b` symbols the symbol at
position `d` stands for `d + 1`, so every positive number has exactly one
numeral. Decoding checks every intermediate value against a limit. -/

namespace BijectiveNumeral

variable {α : Type} [DecidableEq α]

/-- The digits of `value`, least significant first, each less by one. The first
argument bounds their number. -/
def digits (base : Nat) : Nat → Nat → List Nat
  | 0, _ => []
  | fuel + 1, value =>
    if value = 0 then []
    else (value - 1) % base :: digits base fuel ((value - 1) / base)

def encode (alphabet : List α) (value : Nat) : List α :=
  (digits alphabet.length value value).reverse.filterMap fun digit => alphabet[digit]?

def position (alphabet : List α) (symbol : α) : Option Nat :=
  if symbol ∈ alphabet then some (alphabet.idxOf symbol) else none

def checkedMul (limit a b : Nat) : Option Nat := if a * b < limit then some (a * b) else none

def checkedAdd (limit a b : Nat) : Option Nat := if a + b < limit then some (a + b) else none

/-- Read one more symbol. -/
def push (alphabet : List α) (limit decoded : Nat) (symbol : α) : Option Nat := do
  let digit ← position alphabet symbol
  let shifted ← checkedMul limit decoded alphabet.length
  checkedAdd limit shifted (digit + 1)

def decode (alphabet : List α) (limit : Nat) (symbols : List α) : Option Nat :=
  symbols.foldlM (push alphabet limit) 0

/-- The number with the given digits. -/
def value (base : Nat) : List Nat → Nat
  | [] => 0
  | digit :: rest => digit + 1 + base * value base rest

variable {fuel number limit : Nat} {alphabet : List α}

theorem value_digits (base : Nat) (hFuel : number ≤ fuel) :
  value base (digits base fuel number) = number := by
  induction fuel generalizing number with
  | zero => simp [digits, value, Nat.le_zero.1 hFuel]
  | succ fuel ih =>
    by_cases hZero : number = 0
    · simp [digits, value, hZero]
    have hLe : (number - 1) / base ≤ fuel := by
      have hDiv := Nat.div_le_self (number - 1) base
      omega
    have hSplit := Nat.mod_add_div (number - 1) base
    rw [digits, if_neg hZero, value, ih hLe]
    omega

theorem digits_lt {base : Nat} (hBase : 0 < base) {digit : Nat}
  (hMem : digit ∈ digits base fuel number) : digit < base := by
  induction fuel generalizing number with
  | zero => simp [digits] at hMem
  | succ fuel ih =>
    rw [digits] at hMem
    split at hMem
    · simp at hMem
    rcases List.mem_cons.1 hMem with rfl | hRest
    · exact Nat.mod_lt _ hBase
    · exact ih hRest

theorem push_getElem (hNodup : alphabet.Nodup) {decoded digit : Nat}
  (hDigit : digit < alphabet.length) (hLimit : digit + 1 + alphabet.length * decoded < limit) :
  push alphabet limit decoded alphabet[digit] =
    some (digit + 1 + alphabet.length * decoded) := by
  have hPosition : position alphabet alphabet[digit] = some digit := by
    rw [position, if_pos (List.getElem_mem hDigit), hNodup.idxOf_getElem digit hDigit]
  have hComm := Nat.mul_comm decoded alphabet.length
  have hMul : checkedMul limit decoded alphabet.length = some (decoded * alphabet.length) :=
    if_pos (by omega)
  have hAdd : checkedAdd limit (decoded * alphabet.length) (digit + 1) =
      some (decoded * alphabet.length + (digit + 1)) := if_pos (by omega)
  simp only [push, hPosition, hMul, Option.bind_eq_bind, Option.bind_some, hAdd]
  congr 1
  omega

/-- Decoding the symbols of digits, most significant first, gives their value. -/
theorem decode_symbols (hNodup : alphabet.Nodup) {ds : List Nat}
  (hDigits : ∀ d ∈ ds, d < alphabet.length) (hLimit : value alphabet.length ds < limit) :
  decode alphabet limit (ds.reverse.filterMap fun digit => alphabet[digit]?) =
    some (value alphabet.length ds) := by
  induction ds with
  | nil => rfl
  | cons digit ds ih =>
    have hDigit := hDigits digit List.mem_cons_self
    have hSmaller : value alphabet.length ds < limit := by
      have hGrows := Nat.le_mul_of_pos_left (value alphabet.length ds)
        (show 0 < alphabet.length by omega)
      rw [value] at hLimit
      omega
    have hRest := ih (fun d hMem => hDigits d (List.mem_cons_of_mem _ hMem)) hSmaller
    unfold decode at hRest ⊢
    rw [List.reverse_cons, List.filterMap_append, List.foldlM_append, hRest]
    simp only [List.filterMap_cons, List.getElem?_eq_getElem hDigit, List.filterMap_nil,
      Option.bind_eq_bind, Option.bind_some, List.foldlM_cons, List.foldlM_nil]
    rw [push_getElem hNodup hDigit (by simpa [value] using hLimit)]
    rfl

theorem decode_encode (hNodup : alphabet.Nodup) (hSome : 0 < alphabet.length)
  (hLimit : number < limit) :
  decode alphabet limit (encode alphabet number) = some number := by
  have hValue := value_digits alphabet.length (Nat.le_refl number)
  have hDigits : ∀ d ∈ digits alphabet.length number number, d < alphabet.length :=
    fun d hMem => digits_lt hSome hMem
  have hFits : value alphabet.length (digits alphabet.length number number) < limit := by
    rw [hValue]
    exact hLimit
  have hDecode := decode_symbols hNodup hDigits hFits
  rwa [hValue] at hDecode

theorem encode_injective (hNodup : alphabet.Nodup) (hSome : 0 < alphabet.length) :
  Function.Injective (encode alphabet) := by
  intro a b hEq
  have hLeft := decode_encode hNodup hSome (show a < a + b + 1 by omega)
  have hRight := decode_encode hNodup hSome (show b < a + b + 1 by omega)
  rw [hEq, hRight, Option.some.injEq] at hLeft
  exact hLeft.symm

/-- The number the symbols stand for, without a limit. -/
def numeral (alphabet symbols : List α) : Nat :=
  value alphabet.length (symbols.reverse.map alphabet.idxOf)

theorem push_eq_some_iff {decoded : Nat} {symbol : α} :
  push alphabet limit decoded symbol = some number ↔
    symbol ∈ alphabet ∧ alphabet.idxOf symbol + 1 + alphabet.length * decoded = number ∧
      number < limit := by
  have hComm := Nat.mul_comm decoded alphabet.length
  by_cases hMem : symbol ∈ alphabet
  · simp only [push, position, checkedMul, checkedAdd, if_pos hMem, Option.bind_eq_bind,
      Option.bind_some, Option.bind_eq_some_iff, Option.ite_none_right_eq_some, Option.some.injEq]
    constructor
    · rintro ⟨shifted, ⟨_, rfl⟩, hSum, rfl⟩
      exact ⟨hMem, by omega, hSum⟩
    · rintro ⟨_, rfl, hLimit⟩
      exact ⟨decoded * alphabet.length, ⟨by omega, rfl⟩, by omega, by omega⟩
  · simp [push, position, hMem]

/-- Symbols are read exactly when all are in the alphabet and their number is below the limit. -/
theorem decode_eq_some_iff (hLimit : 0 < limit) {symbols : List α} :
  decode alphabet limit symbols = some number ↔
    (∀ symbol ∈ symbols, symbol ∈ alphabet) ∧ numeral alphabet symbols = number ∧
      number < limit := by
  induction symbols using List.reverseRecOn generalizing number with
  | nil =>
    constructor
    · intro hDecode
      cases hDecode
      exact ⟨by simp, rfl, hLimit⟩
    · rintro ⟨_, rfl, _⟩
      rfl
  | append_singleton symbols symbol ih =>
    have hStep : decode alphabet limit (symbols ++ [symbol]) =
        (decode alphabet limit symbols).bind fun decoded =>
          push alphabet limit decoded symbol := by
      unfold decode
      rw [List.foldlM_append]
      simp
    have hNumeral : numeral alphabet (symbols ++ [symbol]) =
        alphabet.idxOf symbol + 1 + alphabet.length * numeral alphabet symbols := by
      simp [numeral, value]
    rw [hStep, hNumeral, Option.bind_eq_some_iff]
    simp only [ih, push_eq_some_iff, List.forall_mem_append, List.forall_mem_singleton]
    constructor
    · rintro ⟨decoded, ⟨hSymbols, rfl, _⟩, hMem, hNumber, hFits⟩
      exact ⟨⟨hSymbols, hMem⟩, hNumber, hFits⟩
    · rintro ⟨⟨hSymbols, hMem⟩, hNumber, hFits⟩
      refine ⟨_, ⟨hSymbols, rfl, ?_⟩, hMem, hNumber, hFits⟩
      have hGrows := Nat.le_mul_of_pos_left (numeral alphabet symbols)
        (List.length_pos_of_mem hMem)
      omega

theorem digits_value {base : Nat} {ds : List Nat} (hDigits : ∀ d ∈ ds, d < base)
  (hFuel : value base ds ≤ fuel) : digits base fuel (value base ds) = ds := by
  induction ds generalizing fuel with
  | nil => cases fuel <;> simp [digits, value]
  | cons digit ds ih =>
    have hDigit := hDigits digit List.mem_cons_self
    have hGrows := Nat.le_mul_of_pos_left (value base ds) (show 0 < base by omega)
    rw [value] at hFuel ⊢
    obtain ⟨fuel, rfl⟩ := Nat.exists_eq_succ_of_ne_zero (show fuel ≠ 0 by omega)
    have hLess : digit + 1 + base * value base ds - 1 = digit + base * value base ds := by omega
    rw [digits, if_neg (by omega), hLess, Nat.add_mul_mod_self_left, Nat.mod_eq_of_lt hDigit,
      Nat.add_mul_div_left _ _ (by omega), Nat.div_eq_of_lt hDigit, Nat.zero_add,
      ih (fun d hMem => hDigits d (List.mem_cons_of_mem _ hMem)) (by omega)]

/-- The numeral of the number some symbols stand for is these symbols. -/
theorem encode_numeral {symbols : List α} (hSymbols : ∀ symbol ∈ symbols, symbol ∈ alphabet) :
  encode alphabet (numeral alphabet symbols) = symbols := by
  have hDigits : ∀ d ∈ symbols.reverse.map alphabet.idxOf, d < alphabet.length := by
    intro d hMem
    obtain ⟨symbol, hSymbol, rfl⟩ := List.mem_map.1 hMem
    exact List.idxOf_lt_length_iff.2 (hSymbols symbol (List.mem_reverse.1 hSymbol))
  have hSymbol : ∀ symbol ∈ symbols, alphabet[alphabet.idxOf symbol]? = some symbol := by
    intro symbol hMem
    have hLt := List.idxOf_lt_length_iff.2 (hSymbols symbol hMem)
    rw [List.getElem?_eq_getElem hLt, List.getElem_idxOf hLt]
  rw [encode, numeral, digits_value hDigits (Nat.le_refl _), ← List.map_reverse,
    List.reverse_reverse, List.filterMap_map]
  calc symbols.filterMap ((fun digit => alphabet[digit]?) ∘ alphabet.idxOf)
      = symbols.filterMap some := List.filterMap_congr hSymbol
    _ = symbols := List.filterMap_some

end BijectiveNumeral
