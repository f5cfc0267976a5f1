/- Hexadecimal text of bytes. -/

import Oscilloscope.Bytes

set_option autoImplicit false
set_option relaxedAutoImplicit false

namespace Oscilloscope.Text

def hexDigits (b : UInt8) : String :=
  String.ofList [Nat.digitChar (b.toNat / 16), Nat.digitChar (b.toNat % 16)]

/-- A byte as messages quote it: `0x0a`. -/
def hexByte (b : UInt8) : String :=
  "0x" ++ hexDigits b

def hexText (bs : Bytes) : String :=
  bs.foldl (fun text b => text ++ hexDigits b) ""

def hexValue? (c : Char) : Option Nat :=
  if '0' ≤ c ∧ c ≤ '9' then some (c.toNat - 48)
  else if 'a' ≤ c ∧ c ≤ 'f' then some (c.toNat - 87)
  else if 'A' ≤ c ∧ c ≤ 'F' then some (c.toNat - 55)
  else none

/-- Reads pairs of digits; an odd digit or any other character refuses the text. -/
def ofHex? : List Char → Option Bytes
  | [] => some []
  | [_] => none
  | hi :: lo :: rest => do
    let h ← hexValue? hi
    let l ← hexValue? lo
    let bs ← ofHex? rest
    return UInt8.ofNat (16 * h + l) :: bs

end Oscilloscope.Text
