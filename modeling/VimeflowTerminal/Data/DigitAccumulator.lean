import Mathlib.Algebra.Order.Ring.Nat
import Mathlib.Data.List.Induction

/-! A number of bounded width is read digit by digit: it is multiplied by ten up to the bound,
and the digit is added. Whether an addition leaves the bound depends on the number alone. -/

namespace DigitAccumulator

variable {limit : Nat}

/-- The number that digits write. -/
def value (digits : List Nat) : Nat := digits.foldl (fun number digit => number * 10 + digit) 0

/-- One digit more, if the addition stays in the bound. -/
def push (limit number digit : Nat) : Option Nat :=
  let sum := min limit (number * 10) + digit
  if sum ≤ limit then some sum else none

/-- Read digits after a number. -/
def collect (limit number : Nat) (digits : List Nat) : Option Nat :=
  digits.foldlM (push limit) number

/-- The numbers that are read without leaving the bound: those in it, and those that are a
number in it, the last with its number of digits, followed by zeros. -/
def Fits (limit number : Nat) : Prop :=
  number ≤ limit ∨ ∃ front zeros, front ≤ limit ∧ limit < front * 10 ∧
    number = front * 10 ^ (zeros + 1)

theorem value_concat (digits : List Nat) (digit : Nat) :
  value (digits ++ [digit]) = value digits * 10 + digit := by
  rw [value, value, List.foldl_append]
  rfl

theorem collect_concat (number : Nat) (digits : List Nat) (digit : Nat) :
  collect limit number (digits ++ [digit]) =
    (collect limit number digits).bind fun before => push limit before digit := by
  rw [collect, collect, List.foldlM_append]
  cases digits.foldlM (push limit) number with
  | none => rfl
  | some before =>
    cases hPush : push limit before digit with
    | none => simp [hPush]
    | some after => simp [hPush]

variable {number digit : Nat}

theorem push_of_le (hSum : number * 10 + digit ≤ limit) :
  push limit number digit = some (number * 10 + digit) := by
  rw [push, Nat.min_eq_right (Nat.le_of_add_right_le hSum), if_pos hSum]

theorem push_zero (hLarge : limit ≤ number * 10) : push limit number 0 = some limit := by
  rw [push, Nat.min_eq_left hLarge, Nat.add_zero, if_pos (Nat.le_refl _)]

theorem push_eq_none (hSum : limit < number * 10 + digit) (hDigit : 0 < digit) :
  push limit number digit = none := by
  rw [push]
  refine if_neg (Nat.not_le.2 ?_)
  omega

/-- A number that is not in the bound fits if the one before its last digit fits, and was
just in the bound or already left it, and the last digit is zero. -/
theorem fits_concat_iff (hDigit : digit ≤ 9) (hLarge : limit < number * 10 + digit) :
  Fits limit (number * 10 + digit) ↔ Fits limit number ∧ digit = 0 := by
  constructor
  · rintro (hIn | ⟨front, zeros, hFront, hNext, hNumber⟩)
    · exact absurd hLarge (Nat.not_lt.2 hIn)
    · have hPower : front * 10 ^ (zeros + 1) = front * 10 ^ zeros * 10 := by
        rw [Nat.pow_succ, Nat.mul_assoc]
      obtain ⟨hValue, hZero⟩ : number = front * 10 ^ zeros ∧ digit = 0 := by omega
      refine ⟨?_, hZero⟩
      cases zeros with
      | zero => exact .inl (by rw [hValue, Nat.pow_zero, Nat.mul_one]; exact hFront)
      | succ zeros => exact .inr ⟨front, zeros, hFront, hNext, hValue⟩
  · rintro ⟨hIn | ⟨front, zeros, hFront, hNext, rfl⟩, rfl⟩
    · exact .inr ⟨number, 0, hIn, hLarge, by rw [Nat.zero_add, Nat.pow_one, Nat.add_zero]⟩
    · exact .inr ⟨front, zeros + 1, hFront, hNext, by
        rw [Nat.add_zero, Nat.mul_assoc, ← Nat.pow_succ]⟩

/-- What reading a number gives, if it fits and if it does not. -/
theorem collect_value {digits : List Nat} (hDigits : ∀ digit ∈ digits, digit ≤ 9) :
  (Fits limit (value digits) → collect limit 0 digits = some (min limit (value digits))) ∧
    (¬ Fits limit (value digits) → collect limit 0 digits = none) := by
  induction digits using List.reverseRecOn with
  | nil => exact ⟨fun _ => by simp [collect, value], fun hOut => absurd (.inl (Nat.zero_le _)) hOut⟩
  | append_singleton digits digit ih =>
    obtain ⟨hFits, hOut⟩ := ih fun other hMem => hDigits other (List.mem_append_left _ hMem)
    have hDigit : digit ≤ 9 := hDigits digit (by simp)
    rw [value_concat, collect_concat]
    rcases Nat.lt_or_ge limit (value digits * 10 + digit) with hLarge | hSmall
    · rw [fits_concat_iff hDigit hLarge]
      constructor
      · rintro ⟨hBefore, rfl⟩
        rw [hFits hBefore, Option.bind_some, Nat.min_eq_left (Nat.le_of_lt hLarge)]
        exact push_zero (by omega)
      · intro hNot
        by_cases hBefore : Fits limit (value digits)
        · have hPos : 0 < digit := Nat.pos_of_ne_zero fun hZero => hNot ⟨hBefore, hZero⟩
          rw [hFits hBefore, Option.bind_some]
          exact push_eq_none (by omega) hPos
        · rw [hOut hBefore, Option.bind_none]
    · refine ⟨fun _ => ?_, fun hNot => absurd (.inl hSmall) hNot⟩
      rw [hFits (.inl (by omega)), Option.bind_some, Nat.min_eq_right (by omega),
        Nat.min_eq_right hSmall]
      exact push_of_le hSmall

end DigitAccumulator
