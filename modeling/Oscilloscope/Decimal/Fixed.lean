/- Decimals with a fixed number of places, rounded from the exact binary value. -/

import Oscilloscope.Decimal.Binary

set_option autoImplicit false
set_option relaxedAutoImplicit false

namespace Oscilloscope.Decimal

/-- The whole number nearest to `num / den`; a half goes to the even neighbour. -/
def roundDiv (num den : Nat) : Nat :=
  let below := num / den
  let rest := num % den
  if 2 * rest < den then below
  else if den < 2 * rest then below + 1
  else if below % 2 = 0 then below else below + 1

def Magnitude.fixedText (places : Nat) (m : Magnitude) : String :=
  let num := (m.significand <<< m.exponent.toNat) * Nat.pow 10 places
  pointed (roundDiv num (1 <<< (-m.exponent).toNat)) places

def singleFixed (places : Nat) (x : Float32) : String :=
  (Binary.ofFloat32 x).text (Magnitude.fixedText places)

end Oscilloscope.Decimal
