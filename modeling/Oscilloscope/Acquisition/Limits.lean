/- Limits that end an acquisition: samples, frames and time. -/

import Oscilloscope.Setting.Key

set_option autoImplicit false
set_option relaxedAutoImplicit false

namespace Oscilloscope

/-- The limits, zero for none, and what has been read since the start, in counters that wrap round
past 64 bits. -/
structure Limits where
  samples : UInt64 := 0
  frames : UInt64 := 0
  millis : UInt64 := 0
  samplesRead : UInt64 := 0
  framesRead : UInt64 := 0
  /-- When the acquisition started, in milliseconds of the host's clock. -/
  startedAt : Option Nat := none

namespace Limits

def limit (l : Limits) : LimitKind → UInt64
  | .samples => l.samples
  | .frames => l.frames
  | .time => l.millis

def setLimit (l : Limits) : LimitKind → UInt64 → Limits
  | .samples, n => { l with samples := n }
  | .frames, n => { l with frames := n }
  | .time, n => { l with millis := n }

/-- Counting begins again; the limits stay. -/
def start (l : Limits) (now : Nat) : Limits :=
  { l with samplesRead := 0, framesRead := 0, startedAt := some now }

def countSamples (l : Limits) (n : UInt64) : Limits :=
  { l with samplesRead := l.samplesRead + n }

def countFrames (l : Limits) (n : UInt64) : Limits :=
  { l with framesRead := l.framesRead + n }

/-- Whether any limit is reached. Time counts only from a start on. -/
def exceeded (l : Limits) (now : Nat) : Bool :=
  (l.samples != 0 && l.samples ≤ l.samplesRead) || (l.frames != 0 && l.frames ≤ l.framesRead) ||
    match l.startedAt with
    | some t => l.millis != 0 && l.millis.toNat ≤ now - t
    | none => false

end Limits

end Oscilloscope
