/- Lowest terms. Every fraction but nothing over nothing is a multiple of one fraction in lowest
   terms, so reducing is a canonical form: apart from that one fraction, equality by value is
   equality of the reduced fractions, and has its laws and its hash from there. -/

import Oscilloscope.Proofs.Ratio.Euclid
import Oscilloscope.Proofs.Ratio.Value

set_option autoImplicit false
set_option relaxedAutoImplicit false

namespace Oscilloscope

namespace Ratio

variable {a b r : Ratio}

/-- Nothing over nothing, which stands for no number. -/
def indeterminate : Ratio :=
  ⟨0, 0⟩

private theorem ext_toNat (num : a.num.toNat = b.num.toNat) (den : a.den.toNat = b.den.toNat) :
    a = b := by
  cases a
  cases b
  exact congrArg₂ Ratio.mk (UInt64.toNat_inj.mp num) (UInt64.toNat_inj.mp den)

private theorem ne_indeterminate_of_den (whole : r.den ≠ 0) : r ≠ indeterminate := by
  rintro rfl
  exact whole rfl

private theorem gcdWord_ne_zero (determined : r ≠ indeterminate) : gcdWord r.num r.den ≠ 0 := by
  intro zero
  obtain ⟨num, den⟩ := gcdWord_eq_zero_iff.mp zero
  exact determined (ext_toNat (congrArg _ num) (congrArg _ den))

private theorem gcd_pos (determined : r ≠ indeterminate) : 0 < Nat.gcd r.num.toNat r.den.toNat := by
  rw [← toNat_gcdWord]
  exact Nat.pos_of_ne_zero (mt toNat_eq_zero_iff.mp (gcdWord_ne_zero determined))

/-! ### Lowest terms -/

private theorem reduced_indeterminate : indeterminate.reduced = indeterminate :=
  if_pos (gcdWord_eq_zero_iff.mpr ⟨rfl, rfl⟩)

private theorem toNat_reduced (determined : r ≠ indeterminate) :
    r.reduced.num.toNat = r.num.toNat / Nat.gcd r.num.toNat r.den.toNat ∧
      r.reduced.den.toNat = r.den.toNat / Nat.gcd r.num.toNat r.den.toNat := by
  rw [reduced, if_neg (gcdWord_ne_zero determined), UInt64.toNat_div, UInt64.toNat_div,
    toNat_gcdWord]
  exact ⟨rfl, rfl⟩

private theorem coprime_reduced (determined : r ≠ indeterminate) :
    Nat.Coprime r.reduced.num.toNat r.reduced.den.toNat := by
  obtain ⟨num, den⟩ := toNat_reduced determined
  rw [num, den]
  exact Nat.coprime_div_gcd_div_gcd (gcd_pos determined)

private theorem reduced_of_lowest (lowest : Nat.Coprime r.num.toNat r.den.toNat) :
    r.reduced = r := by
  have determined : r ≠ indeterminate := by
    rintro rfl
    exact absurd lowest (by decide)
  obtain ⟨num, den⟩ := toNat_reduced determined
  rw [lowest.gcd_eq_one, Nat.div_one] at num den
  exact ext_toNat num den

private theorem reduced_reduced (r : Ratio) : r.reduced.reduced = r.reduced := by
  by_cases determined : r = indeterminate
  · rw [determined, reduced_indeterminate, reduced_indeterminate]
  · exact reduced_of_lowest (coprime_reduced determined)

private theorem exists_factor (r : Ratio) :
    ∃ k, 0 < k ∧ r.num.toNat = k * r.reduced.num.toNat ∧ r.den.toNat = k * r.reduced.den.toNat := by
  by_cases determined : r = indeterminate
  · rw [determined, reduced_indeterminate]
    exact ⟨1, Nat.one_pos, (Nat.one_mul _).symm, (Nat.one_mul _).symm⟩
  · obtain ⟨num, den⟩ := toNat_reduced determined
    refine ⟨Nat.gcd r.num.toNat r.den.toNat, gcd_pos determined, ?_, ?_⟩
    · rw [num, Nat.mul_div_cancel' (Nat.gcd_dvd_left _ _)]
    · rw [den, Nat.mul_div_cancel' (Nat.gcd_dvd_right _ _)]

private theorem den_reduced_ne_zero (whole : r.den ≠ 0) : r.reduced.den ≠ 0 := by
  intro zero
  obtain ⟨k, -, -, den⟩ := exists_factor r
  rw [zero] at den
  exact whole (toNat_eq_zero_iff.mp den)

/-! ### The canonical form -/

private theorem sameValue_reduced (a b : Ratio) :
    a.reduced.sameValue b.reduced = a.sameValue b := by
  obtain ⟨k, positiveA, numA, denA⟩ := exists_factor a
  obtain ⟨l, positiveB, numB, denB⟩ := exists_factor b
  have left : a.num.toNat * b.den.toNat =
      k * l * (a.reduced.num.toNat * b.reduced.den.toNat) := by
    rw [numA, denB, Nat.mul_mul_mul_comm]
  have right : b.num.toNat * a.den.toNat =
      k * l * (b.reduced.num.toNat * a.reduced.den.toNat) := by
    rw [numB, denA, Nat.mul_mul_mul_comm, Nat.mul_comm l k]
  rw [Bool.eq_iff_iff, sameValue_iff, sameValue_iff, left, right]
  exact (Nat.mul_right_inj (Nat.mul_pos positiveA positiveB).ne').symm

private theorem reduced_sameValue (r : Ratio) : r.reduced.sameValue r = true := by
  rw [← sameValue_reduced, reduced_reduced]
  exact sameValue_refl _

private theorem eq_of_lowest (lowestA : Nat.Coprime a.num.toNat a.den.toNat)
    (lowestB : Nat.Coprime b.num.toNat b.den.toNat) (same : a.sameValue b = true) : a = b := by
  have cross := sameValue_iff.mp same
  refine ext_toNat (Nat.dvd_antisymm ?_ ?_) (Nat.dvd_antisymm ?_ ?_)
  · exact lowestA.dvd_of_dvd_mul_right (Dvd.intro _ cross)
  · exact lowestB.dvd_of_dvd_mul_right (Dvd.intro _ cross.symm)
  · exact lowestA.symm.dvd_of_dvd_mul_left (Dvd.intro_left _ cross.symm)
  · exact lowestB.symm.dvd_of_dvd_mul_left (Dvd.intro_left _ cross)

private theorem sameValue_iff_reduced_eq (determinedA : a ≠ indeterminate)
    (determinedB : b ≠ indeterminate) : a.sameValue b = true ↔ a.reduced = b.reduced := by
  rw [← sameValue_reduced a b]
  constructor
  · exact eq_of_lowest (coprime_reduced determinedA) (coprime_reduced determinedB)
  · intro equal
    rw [equal]
    exact sameValue_refl _

/-- Euclid's loop ends on every two words, with their greatest common divisor. A fraction over
something is reduced to lowest terms of the same value, and two of them are of one value if and only
if they are reduced to the same fraction, which cross products of twice the width decide. -/
theorem reduced_canonical :
    (∀ x y : UInt64, (∃ n ≤ 92, Euclid.Run n (x, y) (gcdWord x y)) ∧
      (gcdWord x y).toNat = Nat.gcd x.toNat y.toNat) ∧
    (∀ r : Ratio, r.den ≠ 0 → r.reduced.den ≠ 0 ∧
      Nat.Coprime r.reduced.num.toNat r.reduced.den.toNat ∧ r.reduced.rational = r.rational ∧
      r.reduced.sameValue r = true ∧ r.reduced.reduced = r.reduced) ∧
    (∀ a b : Ratio, a.den ≠ 0 → b.den ≠ 0 →
      (a.sameValue b = true ↔ a.reduced = b.reduced)) ∧
    ∀ a b : Ratio, (wide a.num).umulOverflow (wide b.den) = false ∧
      (wide b.num).umulOverflow (wide a.den) = false ∧
      a.sameValue b = (wide a.num * wide b.den == wide b.num * wide a.den) := by
  refine ⟨fun x y => ?_, fun r whole => ?_, fun a b wholeA wholeB => ?_, fun a b => ?_⟩
  · obtain ⟨n, run⟩ := Euclid.exists_run x y
    exact ⟨⟨n, run.turns_le, run⟩, toNat_gcdWord x y⟩
  · have lowest := coprime_reduced (ne_indeterminate_of_den whole)
    have remains := den_reduced_ne_zero whole
    have same := reduced_sameValue r
    exact ⟨remains, lowest, (rational_eq_iff remains whole).mpr same, same, reduced_reduced r⟩
  · exact sameValue_iff_reduced_eq (ne_indeterminate_of_den wholeA) (ne_indeterminate_of_den wholeB)
  · exact ⟨wide_mul_fits _ _, wide_mul_fits _ _, sameValue_eq_wide a b⟩

theorem reduced_canonical_of_six_fourths :
    (⟨6, 4⟩ : Ratio).den ≠ 0 ∧ (⟨9, 6⟩ : Ratio).den ≠ 0 ∧
      (⟨6, 4⟩ : Ratio).reduced = (⟨9, 6⟩ : Ratio).reduced ∧
      (⟨6, 4⟩ : Ratio).reduced.rational = (⟨6, 4⟩ : Ratio).rational := by
  have sixFourths : (⟨6, 4⟩ : Ratio).den ≠ 0 := by decide
  have nineSixths : (⟨9, 6⟩ : Ratio).den ≠ 0 := by decide
  have same : (⟨6, 4⟩ : Ratio).sameValue ⟨9, 6⟩ = true := by decide
  obtain ⟨-, lowest, canonical, -⟩ := reduced_canonical
  obtain ⟨-, -, value, -⟩ := lowest _ sixFourths
  exact ⟨sixFourths, nineSixths, (canonical _ _ sixFourths nineSixths).mp same, value⟩

/-! ### Equality and hash -/

private theorem hashWords_eq_iff : a.hashWords = b.hashWords ↔ a.reduced = b.reduced := by
  constructor
  · intro equal
    obtain ⟨num, den⟩ := List.cons_eq_cons.mp equal
    exact ext_toNat (congrArg _ num) (congrArg _ (List.singleton_inj.mp den))
  · intro equal
    rw [hashWords, hashWords, equal]

private theorem reduced_eq_indeterminate_iff : r.reduced = indeterminate ↔ r = indeterminate := by
  constructor
  · intro empty
    obtain ⟨k, -, num, den⟩ := exists_factor r
    rw [empty] at num den
    exact ext_toNat num den
  · rintro rfl
    exact reduced_indeterminate

private theorem indeterminate_sameValue (r : Ratio) : indeterminate.sameValue r = true :=
  sameValue_iff.mpr ((Nat.zero_mul _).trans (Nat.mul_zero _).symm)

private theorem sameValue_indeterminate (r : Ratio) : r.sameValue indeterminate = true :=
  (sameValue_comm r indeterminate).trans (indeterminate_sameValue r)

private theorem sameValue_trans {c : Ratio} (determined : b ≠ indeterminate)
    (first : a.sameValue b = true)
    (second : b.sameValue c = true) : a.sameValue c = true := by
  by_cases determinedA : a = indeterminate
  · exact determinedA ▸ indeterminate_sameValue c
  by_cases determinedC : c = indeterminate
  · exact determinedC ▸ sameValue_indeterminate a
  have left := (sameValue_iff_reduced_eq determinedA determined).mp first
  have right := (sameValue_iff_reduced_eq determined determinedC).mp second
  exact (sameValue_iff_reduced_eq determinedA determinedC).mpr (left.trans right)

private theorem hashWords_eq_iff_of_sameValue (same : a.sameValue b = true) :
    a.hashWords = b.hashWords ↔ (a = indeterminate ↔ b = indeterminate) := by
  rw [hashWords_eq_iff]
  constructor
  · intro equal
    rw [← reduced_eq_indeterminate_iff, equal, reduced_eq_indeterminate_iff]
  · intro alike
    by_cases determined : a = indeterminate
    · rw [determined, alike.mp determined]
    · exact (sameValue_iff_reduced_eq determined (mt alike.mpr determined)).mp same

/-- Equality by value is reflexive and symmetric; it is transitive unless nothing over nothing
stands in the middle, which equals every fraction; and two equal fractions have one hash unless just
one of them is nothing over nothing. -/
theorem sameValue_lawful (a b c : Ratio) :
    a.sameValue a = true ∧ (a.sameValue b = true → b.sameValue a = true) ∧
      (b ≠ indeterminate → a.sameValue b = true → b.sameValue c = true → a.sameValue c = true) ∧
      indeterminate.sameValue a = true ∧
      (a.sameValue b = true →
        (a.hashWords = b.hashWords ↔ (a = indeterminate ↔ b = indeterminate))) := by
  refine ⟨sameValue_refl a, fun same => ?_, sameValue_trans, indeterminate_sameValue a,
    hashWords_eq_iff_of_sameValue⟩
  exact (sameValue_comm b a).trans same

theorem sameValue_lawful_of_halves :
    (⟨5, 10⟩ : Ratio) ≠ indeterminate ∧ (⟨1, 2⟩ : Ratio).sameValue ⟨5, 10⟩ = true ∧
      (⟨5, 10⟩ : Ratio).sameValue ⟨7, 14⟩ = true ∧ (⟨1, 2⟩ : Ratio).sameValue ⟨7, 14⟩ = true ∧
      (⟨1, 2⟩ : Ratio).hashWords = (⟨5, 10⟩ : Ratio).hashWords := by
  have determined : (⟨5, 10⟩ : Ratio) ≠ indeterminate := by decide
  have first : (⟨1, 2⟩ : Ratio).sameValue ⟨5, 10⟩ = true := by decide
  have second : (⟨5, 10⟩ : Ratio).sameValue ⟨7, 14⟩ = true := by decide
  obtain ⟨-, -, chain, -, hash⟩ := sameValue_lawful ⟨1, 2⟩ ⟨5, 10⟩ ⟨7, 14⟩
  exact ⟨determined, first, second, chain determined first second, (hash first).mpr (by decide)⟩

/-- A half equals nothing over nothing, and that equals a third. But a half equals no third, and its
hash is not that of nothing over nothing. -/
theorem sameValue_unlawful :
    (⟨1, 2⟩ : Ratio).sameValue ⟨0, 0⟩ = true ∧ (⟨0, 0⟩ : Ratio).sameValue ⟨1, 3⟩ = true ∧
      (⟨1, 2⟩ : Ratio).sameValue ⟨1, 3⟩ = false ∧
      (⟨1, 2⟩ : Ratio).hashWords ≠ (⟨0, 0⟩ : Ratio).hashWords := by
  have same : (⟨1, 2⟩ : Ratio).sameValue ⟨0, 0⟩ = true := by decide
  refine ⟨same, by decide, by decide, fun equal => ?_⟩
  have alike := (hashWords_eq_iff_of_sameValue same).mp equal
  exact absurd (alike.mpr rfl) (by decide)

end Ratio

end Oscilloscope
