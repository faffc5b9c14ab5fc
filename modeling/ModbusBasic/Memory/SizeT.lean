import Mathlib.Logic.Relation

namespace SizeT

/-!
# Arithmetic of a 64-bit `size_t`

Sizes and indices are natural numbers.  Where a program can leave the range of
`size_t` the wrapping operation is written out with the functions below; every
other sum or product of sizes stays far below the modulus.
-/

/-- The number of values of `size_t`, `2 ^ 64`. -/
def modulus : Nat := 18446744073709551616

def add (first second : Nat) : Nat := (first + second) % modulus

/-- Subtraction, of values of `size_t`. -/
def sub (first second : Nat) : Nat :=
  if second ≤ first then first - second else modulus + first - second

def mul (first second : Nat) : Nat := (first * second) % modulus

/-- The last of `count` addresses from `first` on, `first + count - 1`. -/
def rangeEnd (first count : Nat) : Nat := sub (add first count) 1

theorem add_of_lt {first second : Nat} (fits : first + second < modulus) :
    add first second = first + second :=
  Nat.mod_eq_of_lt fits

theorem sub_of_le {first second : Nat} (ordered : second ≤ first) :
    sub first second = first - second :=
  if_pos ordered

theorem mul_of_lt {first second : Nat} (fits : first * second < modulus) :
    mul first second = first * second :=
  Nat.mod_eq_of_lt fits

theorem modulus_pos : 0 < modulus := by decide

/-! ## The ends of ranges -/

variable {first count : Nat}

theorem rangeEnd_lt (first count : Nat) : rangeEnd first count < modulus := by
  have sum : add first count < modulus := Nat.mod_lt _ modulus_pos
  rw [rangeEnd, sub]
  split <;> omega

/-- A nonempty range that fits ends at its last address. -/
theorem rangeEnd_of_le (nonempty : 0 < count) (fits : first + count ≤ modulus) :
    rangeEnd first count = first + count - 1 := by
  have modulus : modulus = 18446744073709551616 := rfl
  rcases Nat.lt_or_eq_of_le fits with below | full
  · rw [rangeEnd, add_of_lt below, sub_of_le (by omega)]
  · rw [rangeEnd, add, full, Nat.mod_self, sub, if_neg (by decide)]
    omega

/-- The four cases of the sum: it is zero, it is below the modulus, it is the
modulus, or it wraps. -/
theorem rangeEnd_cases (firstFits : first < modulus) (countFits : count < modulus) :
    (first + count = 0 ∧ rangeEnd first count + 1 = modulus) ∨
      (1 ≤ first + count ∧ first + count < modulus ∧
        rangeEnd first count + 1 = first + count) ∨
      (first + count = modulus ∧ rangeEnd first count + 1 = modulus) ∨
      (modulus < first + count ∧ rangeEnd first count + 1 + modulus = first + count) := by
  have modulus : modulus = 18446744073709551616 := rfl
  rw [modulus] at firstFits countFits
  unfold rangeEnd sub add
  rw [modulus]
  split
  · omega
  · omega

/-- The end of a range that wraps lies in front of its start. -/
theorem rangeEnd_wraps (firstFits : first < modulus) (countFits : count < modulus)
    (exceeds : modulus < first + count) : rangeEnd first count = first + count - 1 - modulus := by
  have ends := rangeEnd_cases firstFits countFits
  omega

/-- An empty range ends in front of its start, at 0 with the largest address. -/
theorem rangeEnd_zero (firstFits : first < modulus) :
    rangeEnd first 0 = if first = 0 then modulus - 1 else first - 1 := by
  have ends := rangeEnd_cases firstFits modulus_pos
  by_cases zero : first = 0
  · rw [if_pos zero]
    omega
  · rw [if_neg zero]
    omega

end SizeT
