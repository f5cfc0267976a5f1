/- Euclid's algorithm on words. A turn of its loop keeps the common divisors of the pair. The
   remainders fall at least as fast as the Fibonacci numbers, so the loop soon ends. -/

import Mathlib.Data.Nat.Fib.Basic
import Oscilloscope.Ratio

set_option autoImplicit false
set_option relaxedAutoImplicit false

namespace Oscilloscope

namespace Euclid

variable {n : Nat} {pair : UInt64 × UInt64} {d : UInt64}

def turn (pair : UInt64 × UInt64) : UInt64 × UInt64 :=
  (pair.2, pair.1 % pair.2)

/-- After so many turns the second word is zero, and the loop ends with the first as its answer. -/
inductive Run : Nat → UInt64 × UInt64 → UInt64 → Prop
  | rest (d : UInt64) : Run 0 (d, 0) d
  | again {n : Nat} {pair : UInt64 × UInt64} {d : UInt64} (going : pair.2 ≠ 0)
      (further : Run n (turn pair) d) : Run (n + 1) pair d

private theorem toNat_turn (pair : UInt64 × UInt64) :
    (turn pair).1.toNat = pair.2.toNat ∧ (turn pair).2.toNat = pair.1.toNat % pair.2.toNat :=
  ⟨rfl, UInt64.toNat_mod _ _⟩

private theorem gcd_turn (pair : UInt64 × UInt64) :
    Nat.gcd (turn pair).1.toNat (turn pair).2.toNat = Nat.gcd pair.1.toNat pair.2.toNat := by
  obtain ⟨first, second⟩ := toNat_turn pair
  calc Nat.gcd (turn pair).1.toNat (turn pair).2.toNat
      = Nat.gcd (pair.1.toNat % pair.2.toNat) pair.2.toNat := by
        rw [first, second, Nat.gcd_comm]
    _ = Nat.gcd pair.2.toNat pair.1.toNat := (Nat.gcd_rec _ _).symm
    _ = Nat.gcd pair.1.toNat pair.2.toNat := Nat.gcd_comm _ _

private theorem Run.toNat_eq_gcd (run : Run n pair d) :
    d.toNat = Nat.gcd pair.1.toNat pair.2.toNat := by
  induction run with
  | rest d => exact (Nat.gcd_zero_right d.toNat).symm
  | again _ _ ih => exact ih.trans (gcd_turn _)

theorem exists_run (a b : UInt64) : ∃ n, Run n (a, b) (gcdWord a b) := by
  fun_induction gcdWord a b with
  | case1 a => exact ⟨0, .rest a⟩
  | case2 a b going ih =>
    obtain ⟨n, further⟩ := ih
    exact ⟨n + 1, .again going further⟩

private theorem turn_falls (going : pair.2 ≠ 0) : (turn pair).2.toNat < (turn pair).1.toNat := by
  obtain ⟨first, second⟩ := toNat_turn pair
  rw [first, second]
  exact Nat.mod_lt _ (Nat.pos_of_ne_zero (mt toNat_eq_zero_iff.mp going))

private theorem add_remainder_le {a b : Nat} (falling : b < a) : b + max 1 (a % b) ≤ a := by
  have parts : b * (a / b) + a % b = a := Nat.div_add_mod a b
  rcases Nat.eq_zero_or_pos b with rfl | pos
  · simp only [Nat.mod_zero]
    omega
  · have once : b ≤ b * (a / b) := Nat.le_mul_of_pos_right b (Nat.div_pos falling.le pos)
    omega

private theorem Run.fib_le (run : Run n pair d) (falling : pair.2.toNat < pair.1.toNat) :
    Nat.fib (n + 1) ≤ max 1 pair.2.toNat ∧ Nat.fib (n + 2) ≤ pair.1.toNat := by
  -- A turn adds up as the Fibonacci numbers do, so both bounds go up by one index.
  induction run with
  | rest d => exact ⟨le_max_left _ _, falling⟩
  | @again n pair d going further ih =>
    obtain ⟨first, second⟩ := toNat_turn pair
    obtain ⟨below, above⟩ := ih (turn_falls going)
    rw [first] at above
    rw [second] at below
    have sum : Nat.fib (n + 3) = Nat.fib (n + 1) + Nat.fib (n + 2) := Nat.fib_add_two
    have room := add_remainder_le falling
    refine ⟨above.trans (le_max_right _ _), ?_⟩
    change Nat.fib (n + 3) ≤ _
    omega

theorem Run.turns_le (run : Run n pair d) : n ≤ 92 := by
  cases run with
  | rest => exact Nat.zero_le _
  | @again n _ _ going further =>
    -- The first turn puts the words in order, from there on the bound holds.
    have large : Nat.fib (n + 2) ≤ pair.2.toNat := (further.fib_le (turn_falls going)).2
    have word : pair.2.toNat < 2 ^ 64 := pair.2.toNat_lt
    have limit : 2 ^ 64 < Nat.fib 94 := by decide
    by_contra! long
    have monotone : Nat.fib 94 ≤ Nat.fib (n + 2) := Nat.fib_mono (by omega)
    omega

end Euclid

theorem toNat_gcdWord (a b : UInt64) : (gcdWord a b).toNat = Nat.gcd a.toNat b.toNat := by
  obtain ⟨n, run⟩ := Euclid.exists_run a b
  exact run.toNat_eq_gcd

theorem gcdWord_eq_zero_iff {a b : UInt64} : gcdWord a b = 0 ↔ a = 0 ∧ b = 0 := by
  rw [← toNat_eq_zero_iff, toNat_gcdWord, Nat.gcd_eq_zero_iff, toNat_eq_zero_iff,
    toNat_eq_zero_iff]

end Oscilloscope
