/- What the registers of a snapshot mean. -/

import Oscilloscope.Channel
import Oscilloscope.Code.Acquire
import Oscilloscope.Code.Rate

set_option autoImplicit false
set_option relaxedAutoImplicit false

namespace Oscilloscope.Snapshot

def channel (s : Snapshot) (c : ChannelId) : Except Fault Channel :=
  Channel.ofRegisters c.index (s.vertical.get c)

def channelEnabled (s : Snapshot) (c : ChannelId) : Bool :=
  (s.vertical.get c).shown != 0

def bothEnabled (s : Snapshot) : Bool :=
  s.channelEnabled .ch1 && s.channelEnabled .ch2

def menuVisible (s : Snapshot) : Bool :=
  s.control.menuShown != 0

def triggerSource (s : Snapshot) : Except Fault TriggerSource :=
  decodeRegister .triggerSource s.trigger.source

def triggerSlope (s : Snapshot) : Except Fault TriggerSlope :=
  decodeRegister .triggerSlope s.trigger.detail.edgeSlope

def triggerPosition (s : Snapshot) : Float :=
  s.horizontal.triggerTime.toFloat / 1e12

def mainTimebase (s : Snapshot) : Except Fault Timebase :=
  decodeRegister .mainTimebase s.horizontal.mainTimebase

def windowTimebase (s : Snapshot) : Except Fault Timebase :=
  decodeRegister .windowTimebase s.horizontal.windowTimebase

def memoryDepth (s : Snapshot) : Except Fault MemoryDepth :=
  decodeRegister .memoryDepth s.acquire.memoryDepth

def acquireMode (s : Snapshot) : Except Fault AcquireMode :=
  decodeRegister .acquireMode s.acquire.mode

/-- Averaging is on in exactly one mode; unknown modes do not average. -/
def averaging (s : Snapshot) : Bool :=
  s.acquire.mode == CodeTable.code AcquireMode.average

def averageCount (s : Snapshot) : Except Fault AverageCount :=
  decodeRegister .averageCount s.acquire.averageCount

/-- Effective sample rate with the window timebase, the channels in use and the memory depth. -/
def sampleRate (s : Snapshot) : Except Fault Nat := do
  let timebase ← s.windowTimebase
  let depth ← s.memoryDepth
  return Oscilloscope.sampleRate timebase s.bothEnabled s.menuVisible depth

def model (s : Snapshot) : Model :=
  ⟨s.control.model⟩

end Oscilloscope.Snapshot
