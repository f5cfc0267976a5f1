/- Changing one setting. What it is changed to goes by the registers that the instrument holds; the
   change itself is made in a copy of them that is to be written back. -/

import Oscilloscope.Snapshot.View

set_option autoImplicit false
set_option relaxedAutoImplicit false

namespace Oscilloscope

/-- Work on a pending copy of the registers. A fault leaves the copy as far as it was changed. -/
abbrev PendingWork := EStateM Fault Snapshot

/-- The result of work that does not touch the copy. -/
def PendingWork.ofExcept {α : Type} : Except Fault α → PendingWork α
  | .ok a => pure a
  | .error fault => throw fault

def PendingWork.outcome (work : PendingWork Unit) (pending : Snapshot) : Except Fault Snapshot :=
  match work pending with
  | .ok _ pending => .ok pending
  | .error fault _ => .error fault

namespace Snapshot

/-- What a value must be for `key`, or the complaint about it. -/
def expect {α : Type} (key : Key) (value : Value) : Option α → Except Fault α
  | some a => .ok a
  | none => .error (.argument (.badValue key value))

def setVertical (s : Snapshot) (c : ChannelId) (change : VerticalRegisters → VerticalRegisters) :
    Snapshot :=
  { s with vertical := s.vertical.set c (change (s.vertical.get c)) }

/-- Moves to a timebase, on to a smaller memory depth where the present one has no sample rate. -/
def amendTimebase (current : Snapshot) (tb : Timebase) : PendingWork Unit := do
  let depth ← PendingWork.ofExcept current.memoryDepth
  match fittingDepth? tb current.bothEnabled depth with
  | none => throw (.argument (.noMemoryDepth tb))
  | some fitting =>
    if CodeTable.code fitting ≠ current.acquire.memoryDepth then
      modify fun pending =>
        { pending with acquire := { pending.acquire with memoryDepth := CodeTable.code fitting } }
    modify fun pending =>
      { pending with horizontal := { pending.horizontal with windowTimebase := CodeTable.code tb } }

/-- Puts the trigger level at `volts` of the channel that triggers. -/
def amendTriggerLevel (current : Snapshot) (volts : Float) : PendingWork Unit := do
  let source ← PendingWork.ofExcept current.triggerSource
  match source.channel? with
  | none => throw (.argument (.noTriggerLevel source))
  | some c =>
    let ch ← PendingWork.ofExcept (current.channel c)
    let level := Sample.encode volts.toFloat32 ch.voltsPerDivision ch.offset
    modify fun pending => { pending with trigger := { pending.trigger with level := level } }

def amendDevice (current : Snapshot) (k : DeviceKey) (v : Value) : PendingWork Unit :=
  let want {α : Type} (a : Option α) : PendingWork α :=
    PendingWork.ofExcept (expect (.device k) v a)
  match k with
  | .timebase => do current.amendTimebase (← want (v.ratio?.bind Timebase.ofWindowDivision?))
  | .triggerSource => do
    let source : TriggerSource ← want (v.text?.bind CodeTable.ofName?)
    modify fun s => { s with trigger := { s.trigger with source := CodeTable.code source } }
  | .triggerSlope => do
    let slope : TriggerSlope ← want (v.text?.bind CodeTable.ofName?)
    modify fun s =>
      let detail := { s.trigger.detail with edgeSlope := CodeTable.code slope }
      { s with trigger := { s.trigger with detail := detail } }
  | .triggerLevel => do current.amendTriggerLevel (← want v.real?)
  | .triggerPosition => do
    let seconds ← want (v.real?.filter Float.isFinite)
    let time := (seconds * 1e12).round.toInt64
    modify fun s => { s with horizontal := { s.horizontal with triggerTime := time } }
  | .memoryDepth => do
    let depth ← want (v.natural?.bind MemoryDepth.ofSamples?)
    modify fun s => { s with acquire := { s.acquire with memoryDepth := CodeTable.code depth } }
  | .averaging => do
    let mode := if ← want v.flag? then AcquireMode.average else AcquireMode.normal
    modify fun s => { s with acquire := { s.acquire with mode := CodeTable.code mode } }
  | .averageCount => do
    let count ← want (v.natural?.bind AverageCount.ofWaveforms?)
    modify fun s => { s with acquire := { s.acquire with averageCount := CodeTable.code count } }
  | .connection | .verticalDivisions | .horizontalDivisions | .sampleRate | .limit _ =>
    throw (.notApplicable (.device k))

def amendChannel (current : Snapshot) (k : ChannelKey) (c : ChannelId) (v : Value) :
    PendingWork Unit :=
  let want {α : Type} (a : Option α) : PendingWork α :=
    PendingWork.ofExcept (expect (.channel k) v a)
  let put (change : VerticalRegisters → VerticalRegisters) : PendingWork Unit :=
    modify fun pending => pending.setVertical c change
  let flag (b : Bool) : UInt8 := if b then 1 else 0
  match k with
  | .enabled => do
    let on ← want v.flag?
    put fun r => { r with shown := flag on }
  | .filter => do
    let on ← want v.flag?
    put fun r => { r with filter := flag on }
  | .range => do
    let probe ← PendingWork.ofExcept (decodeRegister .probe (current.vertical.get c).probe)
    let range ← want (v.ratio?.bind (VerticalRange.ofVoltsPerDivision? probe))
    put fun r => { r with range := CodeTable.code range }
  | .coupling => do
    let coupling : Coupling ← want (v.text?.bind CodeTable.ofName?)
    put fun r => { r with coupling := CodeTable.code coupling }
  | .probe => do
    let probe ← want (v.natural?.bind Probe.ofFactor?)
    put fun r => { r with probe := CodeTable.code probe }

/-- Changes one setting in the pending copy, by what `current` holds. -/
def amend (current : Snapshot) (x : Setting) (v : Value) : PendingWork Unit :=
  match x with
  | .device k => current.amendDevice k v
  | .channel k c => current.amendChannel k c v

/-- The snapshot at another timebase. -/
def setTimebase (s : Snapshot) (tb : Timebase) : Except Fault Snapshot :=
  (s.amendTimebase tb).outcome s

/-- The snapshot with one setting changed in a copy of it. -/
def apply (s : Snapshot) (x : Setting) (v : Value) : Except Fault Snapshot :=
  (s.amend x v).outcome s

end Snapshot

end Oscilloscope
