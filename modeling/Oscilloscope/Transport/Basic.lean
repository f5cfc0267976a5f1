/- What the host can do with the USB connection, for every way in which it may answer. -/

import Oscilloscope.Bytes
import Oscilloscope.Transport.Failure

set_option autoImplicit false
set_option relaxedAutoImplicit false

namespace Oscilloscope

/-- A connection with states `σ`. Each operation answers and moves on, also when it fails. Writes
may make any number of transfers ready to be read, but reading uses them up. -/
class Transport (σ : Type) where
  opening : σ → Except Failure Unit × σ
  claim : σ → Except Failure Unit × σ
  close : σ → Except Failure Unit × σ
  /-- How many of the bytes were sent. -/
  write : σ → Bytes → Except Failure Nat × σ
  /-- One transfer from the instrument, asked for with room for so many bytes. -/
  read : σ → Nat → Except Failure Bytes × σ
  /-- Bus and address of the instrument. -/
  connectionId : σ → Option String
  /-- Milliseconds on the host's clock. -/
  now : σ → Nat
  /-- A bound on the transfers that can be read before the next write. -/
  ready : σ → Nat
  ready_read : ∀ s n b s', read s n = (.ok b, s') → ready s' < ready s

end Oscilloscope
