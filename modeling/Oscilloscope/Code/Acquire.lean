/- Register codes of the acquisition mode and of the number of averaged waveforms. -/

import Oscilloscope.Code.Table

set_option autoImplicit false
set_option relaxedAutoImplicit false

namespace Oscilloscope

inductive AcquireMode
  | normal | peakDetect | average
  deriving DecidableEq

instance : CodeTable AcquireMode where
  all := [.normal, .peakDetect, .average]
  code
    | .normal => 0
    | .peakDetect => 1
    | .average => 2
  name
    | .normal => "Normal"
    | .peakDetect => "Peak Detect"
    | .average => "Average"
  mem_all := by intro a; cases a <;> decide
  code_inj := by intro a b; cases a <;> cases b <;> decide

inductive AverageCount
  | n4 | n16 | n32 | n64 | n128 | n256
  deriving DecidableEq

namespace AverageCount

def all : List AverageCount := [.n4, .n16, .n32, .n64, .n128, .n256]

def waveforms : AverageCount → UInt64
  | .n4 => 4
  | .n16 => 16
  | .n32 => 32
  | .n64 => 64
  | .n128 => 128
  | .n256 => 256

instance : CodeTable AverageCount where
  all := all
  code
    | .n4 => 0
    | .n16 => 1
    | .n32 => 2
    | .n64 => 3
    | .n128 => 4
    | .n256 => 5
  name n := toString n.waveforms.toNat
  mem_all := by intro a; cases a <;> decide
  code_inj := by intro a b; cases a <;> cases b <;> decide

def ofWaveforms? (n : UInt64) : Option AverageCount :=
  all.find? fun a => a.waveforms == n

end AverageCount

end Oscilloscope
