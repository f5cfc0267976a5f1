/- Binary floating point numbers taken apart into a sign, a whole significand and a power of two. -/

set_option autoImplicit false
set_option relaxedAutoImplicit false

namespace Oscilloscope.Decimal

/-- The magnitude `significand * 2 ^ exponent`. -/
structure Magnitude where
  significand : Nat
  exponent : Int
  /-- The next smaller number is only half as far away as the next larger one. -/
  narrowBelow : Bool
  deriving DecidableEq

inductive Binary
  | nan
  | infinite (negative : Bool)
  | finite (negative : Bool) (magnitude : Magnitude)
  deriving DecidableEq

structure BinaryFormat where
  fractionBits : Nat
  exponentBits : Nat

def BinaryFormat.single : BinaryFormat := ⟨23, 8⟩

def BinaryFormat.double : BinaryFormat := ⟨52, 11⟩

def BinaryFormat.unpack (format : BinaryFormat) (bits : Nat) : Binary :=
  let hidden := 1 <<< format.fractionBits
  let top := 1 <<< format.exponentBits - 1
  let fraction := bits % hidden
  let biased := bits / hidden % (top + 1)
  let negative := bits / hidden / (top + 1) % 2 == 1
  let bias : Int := top / 2 + format.fractionBits
  if biased = top then
    if fraction = 0 then .infinite negative else .nan
  else if biased = 0 then
    .finite negative ⟨fraction, 1 - bias, false⟩
  else
    .finite negative ⟨hidden + fraction, biased - bias, fraction == 0 && biased ≠ 1⟩

def Binary.ofFloat (x : Float) : Binary :=
  BinaryFormat.double.unpack x.toBits.toNat

def Binary.ofFloat32 (x : Float32) : Binary :=
  BinaryFormat.single.unpack x.toBits.toNat

/-- A number's text: the sign bit shows also on a zero, and only finite magnitudes have digits. -/
def Binary.text (digits : Magnitude → String) : Binary → String
  | .nan => "NaN"
  | .infinite negative => if negative then "-inf" else "inf"
  | .finite negative magnitude => (if negative then "-" else "") ++ digits magnitude

/-- `n * 10 ^ -places` written with exactly `places` digits after the point. -/
def pointed (n places : Nat) : String :=
  let digits := Nat.toDigits 10 n
  let padded := List.replicate (places + 1 - digits.length) '0' ++ digits
  let whole := padded.take (padded.length - places)
  let fraction := padded.drop (padded.length - places)
  String.ofList (if places = 0 then whole else whole ++ '.' :: fraction)

end Oscilloscope.Decimal
