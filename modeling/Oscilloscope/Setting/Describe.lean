/- The value of a setting in a snapshot. -/

import Oscilloscope.Snapshot.View

set_option autoImplicit false
set_option relaxedAutoImplicit false

namespace Oscilloscope.Snapshot

/-- Volts at which the trigger fires; only a channel as source gives the level a scale. -/
def triggerLevel (s : Snapshot) : Except Fault Float := do
  match (← s.triggerSource).channel? with
  | none => throw (.notApplicable (.device .triggerLevel))
  | some c =>
    let ch ← s.channel c
    return Sample.widen (Sample.decode s.trigger.level ch.voltsPerDivision ch.offset)

def describeDevice (s : Snapshot) (k : DeviceKey) : Except Fault Value :=
  match k with
  | .verticalDivisions => .ok (.integer 11)
  | .horizontalDivisions => .ok (.integer (if s.menuVisible then 16 else 20))
  | .timebase => return .ratio (← s.windowTimebase).windowDivision
  | .sampleRate => return .natural (.ofNat (← s.sampleRate))
  | .triggerSource => return .text (CodeTable.name (← s.triggerSource))
  | .triggerSlope => return .text (CodeTable.name (← s.triggerSlope))
  | .triggerLevel => return .real (← s.triggerLevel)
  | .triggerPosition => .ok (.real s.triggerPosition)
  | .memoryDepth => return .natural (← s.memoryDepth).samples
  | .averaging => .ok (.flag s.averaging)
  | .averageCount => return .natural (← s.averageCount).waveforms
  | .connection | .limit _ => .error (.notApplicable (.device k))

def describeChannel (s : Snapshot) (k : ChannelKey) (c : ChannelId) : Except Fault Value :=
  match k with
  | .enabled => .ok (.flag (s.channelEnabled c))
  | .filter => .ok (.flag ((s.vertical.get c).filter != 0))
  | .range => return .ratio (← s.channel c).nominalVoltsPerDivision
  | .coupling => return .text (CodeTable.name (← s.channel c).coupling)
  | .probe => return .natural (← s.channel c).probe.factor

def describe (s : Snapshot) : Setting → Except Fault Value
  | .device k => s.describeDevice k
  | .channel k c => s.describeChannel k c

end Oscilloscope.Snapshot
