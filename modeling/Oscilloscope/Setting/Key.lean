/- Names of the settings, what can be done with each, and the kind of value it takes. -/

import Oscilloscope.Code.Vertical

set_option autoImplicit false
set_option relaxedAutoImplicit false

namespace Oscilloscope

inductive LimitKind
  | samples | frames | time
  deriving DecidableEq

inductive DeviceKey
  | connection
  | limit (kind : LimitKind)
  | verticalDivisions
  | horizontalDivisions
  | timebase
  | sampleRate
  | triggerSource
  | triggerSlope
  | triggerLevel
  | triggerPosition
  | memoryDepth
  | averaging
  | averageCount
  deriving DecidableEq

inductive ChannelKey
  | enabled | range | coupling | filter | probe
  deriving DecidableEq

inductive Key
  | device (key : DeviceKey)
  | channel (key : ChannelKey)
  deriving DecidableEq

/-- A key together with the channel it needs. -/
inductive Setting
  | device (key : DeviceKey)
  | channel (key : ChannelKey) (id : ChannelId)
  deriving DecidableEq

namespace Setting

def key : Setting → Key
  | .device k => .device k
  | .channel k _ => .channel k

def channel? : Setting → Option ChannelId
  | .device _ => none
  | .channel _ c => some c

end Setting

def DeviceKey.name : DeviceKey → String
  | .connection => "conn"
  | .limit .samples => "limit_samples"
  | .limit .frames => "limit_frames"
  | .limit .time => "limit_msec"
  | .verticalDivisions => "num_vdiv"
  | .horizontalDivisions => "num_hdiv"
  | .timebase => "timebase"
  | .sampleRate => "samplerate"
  | .triggerSource => "trigger_source"
  | .triggerSlope => "trigger_slope"
  | .triggerLevel => "trigger_level"
  | .triggerPosition => "horiz_triggerpos"
  | .memoryDepth => "buffersize"
  | .averaging => "averaging"
  | .averageCount => "avg_samples"

def ChannelKey.name : ChannelKey → String
  | .enabled => "enabled"
  | .range => "vdiv"
  | .coupling => "coupling"
  | .filter => "filter"
  | .probe => "probe_factor"

structure Capabilities where
  get : Bool
  set : Bool
  list : Bool
  deriving DecidableEq

/-- The allowed verbs, joined by slashes. -/
def Capabilities.text (c : Capabilities) : String :=
  let verbs := [(c.get, "get"), (c.set, "set"), (c.list, "list")]
  "/".intercalate ((verbs.filter fun v => v.1).map fun v => v.2)

inductive ValueKind
  | flag | natural | integer | real | text | ratio
  deriving DecidableEq

namespace Key

def name : Key → String
  | .device k => k.name
  | .channel k => k.name

def deviceKeys : List Key :=
  [.connection, .limit .time, .limit .samples, .limit .frames, .verticalDivisions,
    .horizontalDivisions, .timebase, .sampleRate, .triggerSource, .triggerSlope, .triggerLevel,
    .triggerPosition, .memoryDepth, .averaging, .averageCount].map .device

def channelKeys : List Key :=
  [.enabled, .range, .coupling, .filter, .probe].map .channel

def all : List Key := deviceKeys ++ channelKeys

def ofName? (text : String) : Option Key :=
  all.find? fun k => k.name == text

def isChannelKey : Key → Bool
  | .device _ => false
  | .channel _ => true

/-- Every key can be read; what follows from the hardware alone cannot be set. -/
def capabilities : Key → Capabilities
  | .device .connection | .device .verticalDivisions | .device .horizontalDivisions
  | .device .sampleRate => ⟨true, false, false⟩
  | .device (.limit _) | .device .triggerLevel | .device .averaging
  | .channel .enabled | .channel .filter => ⟨true, true, false⟩
  | .device .timebase | .device .triggerSource | .device .triggerSlope | .device .triggerPosition
  | .device .memoryDepth | .device .averageCount
  | .channel .range | .channel .coupling | .channel .probe => ⟨true, true, true⟩

def valueKind : Key → ValueKind
  | .device .connection | .device .triggerSource | .device .triggerSlope
  | .channel .coupling => .text
  | .device (.limit _) | .device .sampleRate | .device .memoryDepth | .device .averageCount
  | .channel .probe => .natural
  | .device .verticalDivisions | .device .horizontalDivisions => .integer
  | .device .triggerLevel | .device .triggerPosition => .real
  | .device .averaging | .channel .enabled | .channel .filter => .flag
  | .device .timebase | .channel .range => .ratio

end Key

end Oscilloscope
