/- Exact fractions of 64 bit words, compared by value and shown as they were written. -/

set_option autoImplicit false
set_option relaxedAutoImplicit false

namespace Oscilloscope

/-- A fraction in the form it was written, which need not be lowest terms. -/
structure Ratio where
  num : UInt64
  den : UInt64
  deriving DecidableEq

def gcdWord (a b : UInt64) : UInt64 :=
  if _ : b = 0 then a else gcdWord b (a % b)
termination_by b.toNat
decreasing_by
  rw [UInt64.toNat_mod]
  apply Nat.mod_lt
  rcases Nat.eq_zero_or_pos b.toNat with hb | hb
  · exact absurd (UInt64.toNat.inj hb) ‹_›
  · exact hb

theorem toNat_eq_zero_iff {x : UInt64} : x.toNat = 0 ↔ x = 0 :=
  UInt64.toNat_inj (b := 0)

namespace Ratio

/-- Equality of values, by cross products that no width bounds. -/
def sameValue (a b : Ratio) : Bool :=
  a.num.toNat * b.den.toNat == b.num.toNat * a.den.toNat

/-- Lowest terms; nothing over nothing stays as it is. -/
def reduced (r : Ratio) : Ratio :=
  let d := gcdWord r.num r.den
  if d = 0 then r else ⟨r.num / d, r.den / d⟩

/-- The words that a hash of the fraction is taken over. -/
def hashWords (r : Ratio) : List UInt64 :=
  [r.reduced.num, r.reduced.den]

def toFloat (r : Ratio) : Float :=
  r.num.toFloat / r.den.toFloat

def toFloat32 (r : Ratio) : Float32 :=
  r.num.toFloat32 / r.den.toFloat32

def text (r : Ratio) : String :=
  toString r.num.toNat ++ "/" ++ toString r.den.toNat

end Ratio

end Oscilloscope
