/- Fractions by value. Two fractions over something are the same number if and only if their cross
   products agree, and a product of two words fits in twice their width. -/

import Mathlib.Algebra.Order.Ring.Rat
import Oscilloscope.Ratio

set_option autoImplicit false
set_option relaxedAutoImplicit false

namespace Oscilloscope

namespace Ratio

variable {a b : Ratio}

theorem sameValue_iff :
    a.sameValue b = true ↔ a.num.toNat * b.den.toNat = b.num.toNat * a.den.toNat :=
  beq_iff_eq

theorem sameValue_refl (a : Ratio) : a.sameValue a = true :=
  beq_self_eq_true _

theorem sameValue_comm (a b : Ratio) : a.sameValue b = b.sameValue a :=
  BEq.comm

def rational (r : Ratio) : ℚ :=
  (r.num.toNat : ℚ) / (r.den.toNat : ℚ)

theorem rational_eq_iff (ha : a.den ≠ 0) (hb : b.den ≠ 0) :
    a.rational = b.rational ↔ a.sameValue b = true := by
  have nonzero {d : UInt64} (h : d ≠ 0) : ((d.toNat : Nat) : ℚ) ≠ 0 :=
    Nat.cast_ne_zero.mpr (mt toNat_eq_zero_iff.mp h)
  rw [rational, rational, div_eq_div_iff (nonzero ha) (nonzero hb), sameValue_iff]
  exact_mod_cast Iff.rfl

/-! ### Cross products of words -/

def wide (x : UInt64) : BitVec 128 :=
  x.toBitVec.setWidth 128

private theorem toNat_wide (x : UInt64) : (wide x).toNat = x.toNat :=
  BitVec.toNat_setWidth_of_le (by decide)

theorem wide_mul_fits (x y : UInt64) : (wide x).umulOverflow (wide y) = false := by
  rw [BitVec.umulOverflow, decide_eq_false_iff_not, toNat_wide, toNat_wide, not_le]
  calc x.toNat * y.toNat < 2 ^ 64 * 2 ^ 64 := Nat.mul_lt_mul'' x.toNat_lt y.toNat_lt
    _ = 2 ^ 128 := (Nat.pow_add 2 64 64).symm

private theorem toNat_wide_mul (x y : UInt64) : (wide x * wide y).toNat = x.toNat * y.toNat := by
  have fits : ¬ (wide x).umulOverflow (wide y) = true :=
    Bool.eq_false_iff.mp (wide_mul_fits x y)
  rw [BitVec.toNat_mul_of_not_umulOverflow fits, toNat_wide, toNat_wide]

theorem sameValue_eq_wide (a b : Ratio) :
    a.sameValue b = (wide a.num * wide b.den == wide b.num * wide a.den) := by
  rw [Bool.eq_iff_iff, sameValue_iff, beq_iff_eq, ← BitVec.toNat_inj, toNat_wide_mul,
    toNat_wide_mul]

end Ratio

end Oscilloscope
