/- What an acquisition tells the session that watches it. -/

import Oscilloscope.Setting.Value

set_option autoImplicit false
set_option relaxedAutoImplicit false

namespace Oscilloscope

/-- The samples of one chunk in volts, and the decimal places worth showing. -/
structure Packet where
  channel : ChannelId
  samples : List Float32
  digits : Int32
  deriving DecidableEq

inductive Event
  | header
  | frameBegin
  | data (packet : Packet)
  | frameEnd
  | changed (setting : Setting) (value : Value)
  | ended
  deriving DecidableEq

end Oscilloscope
