/- Phases of an acquisition. -/

set_option autoImplicit false
set_option relaxedAutoImplicit false

namespace Oscilloscope

inductive Phase
  | idle | capturing | stopping
  deriving DecidableEq

def Phase.name : Phase → String
  | .idle => "Idle"
  | .capturing => "Capturing"
  | .stopping => "Stopping"

end Oscilloscope
