/- How the driver treats the instrument. The defaults suit the firmware it ships with. -/

import Oscilloscope.Duration
import Oscilloscope.Frame

set_option autoImplicit false
set_option relaxedAutoImplicit false

namespace Oscilloscope

structure Tuning where
  vendorId : UInt16 := 0x049f
  productId : UInt16 := 0x505a
  interface : UInt8 := 0
  endpointIn : UInt8 := 0x82
  endpointOut : UInt8 := 0x01
  /-- Restricts the search to the instrument at this bus and address. -/
  connection : Option String := none
  sendTimeout : Duration := ⟨500⟩
  receiveTimeout : Duration := ⟨5000⟩
  pollInterval : Duration := ⟨1000⟩
  /-- Error chunks that one frame may contain. -/
  chunkErrorLimit : UInt32 := 16
  marker : Marker := .normal

end Oscilloscope
