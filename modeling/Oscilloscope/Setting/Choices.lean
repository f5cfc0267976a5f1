/- The values among which a setting can be chosen. -/

import Oscilloscope.Snapshot.View

set_option autoImplicit false
set_option relaxedAutoImplicit false

namespace Oscilloscope

def tableNames (α : Type) [CodeTable α] : Value :=
  .texts ((CodeTable.all : List α).map CodeTable.name)

/-- Choices that no register changes. The bounds of the trigger position are estimates. -/
def Setting.fixedChoices? : Setting → Option Value
  | .device .timebase => some (.ratios (Timebase.all.map Timebase.windowDivision))
  | .device .triggerSource => some (tableNames TriggerSource)
  | .device .triggerSlope => some (tableNames TriggerSlope)
  | .device .triggerPosition => some (.span (-1) 1 1e-9)
  | .device .memoryDepth => some (.naturals (MemoryDepth.all.map MemoryDepth.samples))
  | .device .averageCount => some (.naturals (AverageCount.all.map AverageCount.waveforms))
  | .channel .coupling _ => some (tableNames Coupling)
  | .channel .probe _ => some (.naturals (Probe.all.map Probe.factor))
  | _ => none

/-- The choices with the registers as they are: ranges follow the probe of their channel. -/
def Snapshot.choices (s : Snapshot) (x : Setting) : Except Fault Value :=
  match x with
  | .channel .range c => do
    let probe ← decodeRegister .probe (s.vertical.get c).probe
    return .ratios (voltsPerDivisionList probe)
  | _ =>
    match x.fixedChoices? with
    | some v => .ok v
    | none => .error (.notApplicable x.key)

end Oscilloscope
