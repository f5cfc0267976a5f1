/- Raw screen positions and volts. The screen shows 10.2 divisions of 25 raw steps. -/

import Oscilloscope.Bytes

set_option autoImplicit false
set_option relaxedAutoImplicit false

namespace Oscilloscope.Sample

def decode (raw : Int16) (voltsPerDivision : Float32) (offset : Int16) : Float32 :=
  .ofInt (raw.toInt - offset.toInt) * (voltsPerDivision / 25)

/-- The same number in double precision, where every one of single precision has a place. -/
def widen (x : Float32) : Float :=
  match x.toModel.unpack with
  | .finite sign mantissa exponent _ => .ofModel (.pack (.round .binary64 sign mantissa exponent))
  | special => .ofModel (.pack special)

/-- Values beyond the signed byte range end at its border; no number stays none. -/
def clampToByte (x : Float32) : Float32 :=
  if x < -128 then -128 else if 127 < x then 127 else x

/-- The sum, or the end of the 16 bit range that it passes. -/
def saturatingAdd (a b : Int16) : Int16 :=
  .ofInt (max (-32768) (min 32767 (a.toInt + b.toInt)))

/-- Raw position of `volts`, to the nearest step; halves go away from zero. -/
def encode (volts : Float32) (voltsPerDivision : Float32) (offset : Int16) : Int16 :=
  let steps := (volts / (voltsPerDivision / 25)).round
  saturatingAdd (clampToByte steps).toInt16 offset

/-- The decimal logarithm. That of nothing is minus infinity. -/
def decimalLog (x : Float32) : Float32 :=
  if x == 0 then -1.0 / 0.0 else x.log10

/-- The integer part, or the end of the 32 bit range that it lies beyond. -/
def truncate (x : Float32) : Int32 :=
  if x ≤ -2147483648 then .minValue else x.toInt32

/-- Decimal places that resolve one raw step of `voltsPerDivision * 10.2 / 255` volts. -/
def digits (voltsPerDivision : Float32) : Int32 :=
  let log := decimalLog (voltsPerDivision * 10.2 / 255)
  (if log < 0 then 1 else 0) - truncate log

/-- No places resolve steps of no volts. The least 32 bit integer, to which their logarithm is cut
off, is its own negation, and so the count wraps round. -/
theorem digits_zero : digits 0 = -2147483647 := by decide +kernel

def decodeChunk (bs : Bytes) (voltsPerDivision : Float32) (offset : Int16) : List Float32 :=
  bs.map fun b => decode b.toInt8.toInt16 voltsPerDivision offset

end Oscilloscope.Sample
