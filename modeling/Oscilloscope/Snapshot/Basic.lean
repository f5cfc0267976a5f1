/- The register snapshot: everything the instrument is set to, as raw register contents. -/

import Oscilloscope.Code.Vertical

set_option autoImplicit false
set_option relaxedAutoImplicit false

namespace Oscilloscope

structure VerticalRegisters where
  shown : UInt8
  range : UInt8
  coupling : UInt8
  filter : UInt8
  fine : UInt8
  probe : UInt8
  inverted : UInt8
  fineCount : UInt8
  /-- Screen position in raw sample steps. -/
  position : Int16
  deriving DecidableEq

/-- Parameters of each trigger kind, shared by the main and the swap trigger. -/
structure TriggerDetail where
  edgeSlope : UInt8
  videoPolarity : UInt8
  videoStandard : UInt8
  videoSync : UInt8
  videoLine : UInt16
  pulsePolarity : UInt8
  pulseCondition : UInt8
  pulseTime : UInt64
  slopeSet : UInt8
  slopeWindow : UInt8
  slopeCondition : UInt8
  slopeFirst : UInt16
  slopeSecond : UInt16
  slopeTime : UInt64
  deriving DecidableEq

structure TriggerRegisters where
  state : UInt8
  kind : UInt8
  source : UInt8
  mode : UInt8
  coupling : UInt8
  /-- Level in raw sample steps. -/
  level : Int16
  frequency : UInt64
  holdMin : UInt64
  holdMax : UInt64
  hold : UInt64
  detail : TriggerDetail
  deriving DecidableEq

/-- A channel's own trigger, used when the channels trigger in turn. -/
structure SwapTrigger where
  kind : UInt8
  mode : UInt8
  coupling : UInt8
  detail : TriggerDetail
  deriving DecidableEq

structure OvertimeTrigger where
  polarity : UInt8
  time : UInt64
  deriving DecidableEq

/-- Parts of a channel's swap trigger that stand at the end of the snapshot. -/
structure SwapExtra where
  level : Int16
  overtime : OvertimeTrigger
  deriving DecidableEq

structure HorizontalRegisters where
  mainTimebase : UInt8
  windowTimebase : UInt8
  windowState : UInt8
  /-- Offset of the trigger in picoseconds. -/
  triggerTime : Int64
  deriving DecidableEq

structure MathRegisters where
  shown : UInt8
  mode : UInt8
  fftSource : UInt8
  fftWindow : UInt8
  fftFactor : UInt8
  fftDecibels : UInt8
  fftBase : UInt8
  fftVrms : UInt8
  deriving DecidableEq

structure DisplayRegisters where
  mode : UInt8
  persistence : UInt8
  format : UInt8
  contrast : UInt8
  maxContrast : UInt8
  gridKind : UInt8
  gridBrightness : UInt8
  maxGridBrightness : UInt8
  deriving DecidableEq

structure AcquireRegisters where
  mode : UInt8
  averageCount : UInt8
  kind : UInt8
  memoryDepth : UInt8
  deriving DecidableEq

structure Measurement where
  source : UInt8
  item : UInt8
  deriving DecidableEq

structure ControlRegisters where
  model : UInt8
  menu : UInt8
  menuShown : UInt8
  multiWindow : UInt8
  deriving DecidableEq

structure Snapshot where
  vertical : PerChannel VerticalRegisters
  trigger : TriggerRegisters
  swap : PerChannel SwapTrigger
  overtime : OvertimeTrigger
  horizontal : HorizontalRegisters
  math : MathRegisters
  display : DisplayRegisters
  acquire : AcquireRegisters
  measurements : Vector Measurement 8
  control : ControlRegisters
  swapExtra : PerChannel SwapExtra
  deriving DecidableEq

end Oscilloscope
