/- Open codes: the model of the instrument and the status it answers with. Every byte is one. -/

import Oscilloscope.Text.Hex

set_option autoImplicit false
set_option relaxedAutoImplicit false

namespace Oscilloscope

/-- The model register; bytes outside the list of known models are kept as they are. -/
structure Model where
  code : UInt8
  deriving DecidableEq

namespace Model

/-- Designation of a known model, and the names other brands sell it under. -/
def known? (m : Model) : Option (String × List String) :=
  match m.code.toNat with
  | 0 => some ("DST1202B", ["Hantek DSO5202B/BM/BMV", "Protek 3210"])
  | 1 => some ("DST1100", [])
  | 2 => some ("DST4060", [])
  | 3 => some ("DST1150", [])
  | 4 => some ("DST4042", [])
  | 5 => some ("DST1102B", ["Hantek DSO5102B/BM/BMV", "Protek 3110"])
  | 6 => some ("DST4062B", ["Hantek DSO5062C"])
  | 7 => some ("DST1152", [])
  | 8 => some ("DST3022B", [])
  | 9 => some ("DST3042B", [])
  | 10 => some ("DST4062", [])
  | 11 => some ("DST4102B", ["Hantek DSO5102C"])
  | 12 => some ("DST1062B", ["Hantek DSO5062B/BM/BMV", "Voltcraft DSO-1062D/DSO-3062C"])
  | _ => none

def names (m : Model) : String :=
  match m.known? with
  | some (designation, brands) => ", ".intercalate (("Tekway " ++ designation) :: brands)
  | none => "unknown model"

def text (m : Model) : String :=
  match m.known? with
  | some _ => m.names
  | none => "unknown model " ++ Text.hexByte m.code

end Model

/-- The status byte with which the instrument refuses a request. -/
structure DeviceStatus where
  code : UInt8
  deriving DecidableEq

def DeviceStatus.text (s : DeviceStatus) : String :=
  match s.code.toNat with
  | 1 => "Communication timeout"
  | 3 => "Checksum error"
  | 4 => "Unknown command"
  | 5 => "Invalid access level"
  | 8 => "Hardware error"
  | 10 => "Device not ready"
  | n => "Unknown error (status " ++ toString n ++ ")"

end Oscilloscope
