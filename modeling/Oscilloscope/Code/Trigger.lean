/- Register codes of the trigger. -/

import Oscilloscope.Code.Vertical

set_option autoImplicit false
set_option relaxedAutoImplicit false

namespace Oscilloscope

inductive TriggerSource
  | ch1 | ch2 | external | externalFifth | mains
  deriving DecidableEq

namespace TriggerSource

instance : CodeTable TriggerSource where
  all := [.ch1, .ch2, .external, .externalFifth, .mains]
  code
    | .ch1 => 0
    | .ch2 => 1
    | .external => 2
    | .externalFifth => 3
    | .mains => 4
  name
    | .ch1 => "CH1"
    | .ch2 => "CH2"
    | .external => "Ext"
    | .externalFifth => "Ext/5"
    | .mains => "AC Line"
  mem_all := by intro a; cases a <;> decide
  code_inj := by intro a b; cases a <;> cases b <;> decide

/-- The analog channel that triggers, for the two sources that are channels. -/
def channel? : TriggerSource → Option ChannelId
  | .ch1 => some .ch1
  | .ch2 => some .ch2
  | _ => none

end TriggerSource

inductive TriggerSlope
  | rising | falling | both
  deriving DecidableEq

namespace TriggerSlope

instance : CodeTable TriggerSlope where
  all := [.rising, .falling, .both]
  code
    | .rising => 0
    | .falling => 1
    | .both => 2
  name
    | .rising => "r"
    | .falling => "f"
    | .both => "r+f"
  mem_all := by intro a; cases a <;> decide
  code_inj := by intro a b; cases a <;> cases b <;> decide

end TriggerSlope

end Oscilloscope
