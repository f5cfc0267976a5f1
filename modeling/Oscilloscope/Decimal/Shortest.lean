/- The shortest decimal that reads back as a given binary number, in positional notation. -/

import Oscilloscope.Decimal.Binary

set_option autoImplicit false
set_option relaxedAutoImplicit false

namespace Oscilloscope.Decimal

/-- A magnitude between the two halfway points to its neighbours, all three over one denominator. -/
structure Interval where
  low : Nat
  value : Nat
  high : Nat
  denominator : Nat
  /-- Both ends still round to the value, because its significand is even. -/
  closed : Bool

/-- Counts in quarters of the last binary place, where every halfway point is whole. -/
def Magnitude.interval (m : Magnitude) : Interval :=
  let scale := 1 <<< (m.exponent - 2).toNat
  { low := (4 * m.significand - if m.narrowBelow then 1 else 2) * scale
    value := 4 * m.significand * scale
    high := (4 * m.significand + 2) * scale
    denominator := 1 <<< (2 - m.exponent).toNat
    closed := m.significand % 2 == 0 }

/-- Multiples of `10 ^ grid`, as a whole number for which a unit counts `unit` of the interval. -/
structure Grid where
  unit : Nat
  scale : Nat

def Interval.grid (i : Interval) (exponent : Int) : Grid :=
  ⟨i.denominator * Nat.pow 10 exponent.toNat, Nat.pow 10 (-exponent).toNat⟩

def Interval.holds (i : Interval) (g : Grid) (n : Nat) : Bool :=
  let point := n * g.unit
  if i.closed then i.low * g.scale ≤ point && point ≤ i.high * g.scale
  else i.low * g.scale < point && point < i.high * g.scale

/-- The grid point in the interval that is nearest to the value; of two as near, the larger one. -/
def Interval.nearest? (i : Interval) (exponent : Int) : Option Nat :=
  let g := i.grid exponent
  let below := i.value * g.scale / g.unit
  let rest := i.value * g.scale % g.unit
  match i.holds g below, i.holds g (below + 1) with
  | true, false => some below
  | false, true => some (below + 1)
  | false, false => none
  | true, true => some (if 2 * rest < g.unit then below else below + 1)

/-- The first of the grids `exponent`, `exponent - 1`, … with a point in the interval. -/
def Interval.coarsest (i : Interval) : Nat → Int → Nat × Int
  | 0, exponent => (i.value * (i.grid exponent).scale / (i.grid exponent).unit, exponent)
  | steps + 1, exponent =>
    match i.nearest? exponent with
    | some n => (n, exponent)
    | none => i.coarsest steps (exponent - 1)

/-- A power of ten above the magnitude, from its binary length. -/
def Magnitude.decimalCeiling (m : Magnitude) : Int :=
  let length : Int := Nat.log2 m.significand + 1 + m.exponent
  length * 30103 / 100000 + 2

/-- Digits and power of ten of the shortest decimal; a double never needs more than 17 digits. -/
def Magnitude.shortest (m : Magnitude) : Nat × Int :=
  if m.significand = 0 then (0, 0) else m.interval.coarsest 24 m.decimalCeiling

/-- The shortest decimal without an exponent and without a trailing point. -/
def Magnitude.shortestText (m : Magnitude) : String :=
  let (n, exponent) := m.shortest
  pointed (n * Nat.pow 10 exponent.toNat) (-exponent).toNat

def doubleText (x : Float) : String :=
  (Binary.ofFloat x).text Magnitude.shortestText

def singleText (x : Float32) : String :=
  (Binary.ofFloat32 x).text Magnitude.shortestText

end Oscilloscope.Decimal
