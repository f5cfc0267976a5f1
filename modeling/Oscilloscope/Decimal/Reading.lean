/- Decimal text read as the nearest double. -/

import Oscilloscope.Decimal.Integer

set_option autoImplicit false
set_option relaxedAutoImplicit false

namespace Oscilloscope.Decimal

/-- An unsigned decimal `digits * 10 ^ exponent`. -/
structure Scientific where
  digits : Nat
  exponent : Int

/-- The nearest double. Far outside the double range only zero and infinity remain. -/
def Scientific.toFloat (s : Scientific) : Float :=
  let magnitude : Int := (Nat.toDigits 10 s.digits).length + s.exponent
  if s.digits = 0 ∨ magnitude < -400 then 0
  else if 400 < magnitude then 1.0 / 0.0
  else Float.ofScientific s.digits (s.exponent < 0) s.exponent.natAbs

def readExponent? : List Char → Option Int
  | '-' :: cs => (readDigits? cs).map fun n => -(n : Int)
  | '+' :: cs => (readDigits? cs).map fun n => (n : Int)
  | cs => (readDigits? cs).map fun n => (n : Int)

/-- Digits with at most one point among or beside them, then an exponent after `e` or `E`. -/
def readScientific? (cs : List Char) : Option Scientific := do
  let whole := cs.takeWhile Char.isDigit
  let afterWhole := cs.dropWhile Char.isDigit
  let (fraction, tail) := match afterWhole with
    | '.' :: rest => (rest.takeWhile Char.isDigit, rest.dropWhile Char.isDigit)
    | _ => ([], afterWhole)
  let digits ← readDigits? (whole ++ fraction)
  let exponent ← match tail with
    | [] => some 0
    | e :: rest => if e = 'e' ∨ e = 'E' then readExponent? rest else none
  return ⟨digits, exponent - fraction.length⟩

def readMagnitude? (cs : List Char) : Option Float :=
  let name := String.ofList (cs.map Char.toLower)
  if name = "inf" ∨ name = "infinity" then some (1.0 / 0.0)
  else if name = "nan" then some (0.0 / 0.0)
  else (readScientific? cs).map Scientific.toFloat

/-- A number after at most one sign. -/
def readFloat? : List Char → Option Float
  | '-' :: cs => (readMagnitude? cs).map fun x => -x
  | '+' :: cs => readMagnitude? cs
  | cs => readMagnitude? cs

end Oscilloscope.Decimal
