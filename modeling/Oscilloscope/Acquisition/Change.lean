/- Reporting what changed on the instrument, at most one change at a time. -/

import Oscilloscope.Setting.Describe

set_option autoImplicit false
set_option relaxedAutoImplicit false

namespace Oscilloscope

/-- Registers that are reported together. -/
inductive Group
  | enabled (c : ChannelId)
  | range (c : ChannelId)
  | coupling (c : ChannelId)
  | filter (c : ChannelId)
  | probe (c : ChannelId)
  | triggerSource
  | triggerSlope
  | triggerLevel
  | triggerPosition
  | timebase
  | menu
  | memoryDepth
  | acquireMode
  | averageCount
  deriving DecidableEq

namespace Group

/-- All groups, in the order in which changes are reported. -/
def all : List Group :=
  [.enabled .ch1, .range .ch1, .coupling .ch1, .filter .ch1, .probe .ch1,
    .enabled .ch2, .range .ch2, .coupling .ch2, .filter .ch2, .probe .ch2,
    .triggerSource, .triggerSlope, .triggerLevel, .triggerPosition, .timebase, .menu, .memoryDepth,
    .acquireMode, .averageCount]

def setting : Group → Setting
  | .enabled c => .channel .enabled c
  | .range c => .channel .range c
  | .coupling c => .channel .coupling c
  | .filter c => .channel .filter c
  | .probe c => .channel .probe c
  | .triggerSource => .device .triggerSource
  | .triggerSlope => .device .triggerSlope
  | .triggerLevel => .device .triggerLevel
  | .triggerPosition => .device .triggerPosition
  | .timebase => .device .timebase
  | .menu => .device .horizontalDivisions
  | .memoryDepth => .device .memoryDepth
  | .acquireMode => .device .averaging
  | .averageCount => .device .averageCount

def differs (g : Group) (a b : Snapshot) : Bool :=
  match g with
  | .enabled c => (a.vertical.get c).shown != (b.vertical.get c).shown
  | .range c => (a.vertical.get c).range != (b.vertical.get c).range
  | .coupling c => (a.vertical.get c).coupling != (b.vertical.get c).coupling
  | .filter c => (a.vertical.get c).filter != (b.vertical.get c).filter
  | .probe c => (a.vertical.get c).probe != (b.vertical.get c).probe
  | .triggerSource => a.trigger.source != b.trigger.source
  | .triggerSlope => a.trigger.detail.edgeSlope != b.trigger.detail.edgeSlope
  | .triggerLevel => a.trigger.level != b.trigger.level
  | .triggerPosition => a.horizontal.triggerTime != b.horizontal.triggerTime
  | .timebase =>
    a.horizontal.mainTimebase != b.horizontal.mainTimebase ||
      a.horizontal.windowTimebase != b.horizontal.windowTimebase
  | .menu => a.control.menuShown != b.control.menuShown
  | .memoryDepth => a.acquire.memoryDepth != b.acquire.memoryDepth
  | .acquireMode => a.acquire.mode != b.acquire.mode
  | .averageCount => a.acquire.averageCount != b.acquire.averageCount

def adoptVertical (c : ChannelId) (source target : Snapshot)
    (copy : VerticalRegisters → VerticalRegisters → VerticalRegisters) : Snapshot :=
  { target with
    vertical := target.vertical.set c (copy (source.vertical.get c) (target.vertical.get c)) }

/-- `target` with the registers of the group taken from `source`. -/
def adopt (g : Group) (source target : Snapshot) : Snapshot :=
  match g with
  | .enabled c => adoptVertical c source target fun s t => { t with shown := s.shown }
  | .range c => adoptVertical c source target fun s t => { t with range := s.range }
  | .coupling c => adoptVertical c source target fun s t => { t with coupling := s.coupling }
  | .filter c => adoptVertical c source target fun s t => { t with filter := s.filter }
  | .probe c => adoptVertical c source target fun s t => { t with probe := s.probe }
  | .triggerSource =>
    { target with trigger := { target.trigger with source := source.trigger.source } }
  | .triggerSlope =>
    let detail := { target.trigger.detail with edgeSlope := source.trigger.detail.edgeSlope }
    { target with trigger := { target.trigger with detail } }
  | .triggerLevel =>
    { target with trigger := { target.trigger with level := source.trigger.level } }
  | .triggerPosition =>
    { target with
      horizontal := { target.horizontal with triggerTime := source.horizontal.triggerTime } }
  | .timebase =>
    { target with
      horizontal := { target.horizontal with
        mainTimebase := source.horizontal.mainTimebase
        windowTimebase := source.horizontal.windowTimebase } }
  | .menu =>
    { target with control := { target.control with menuShown := source.control.menuShown } }
  | .memoryDepth =>
    { target with acquire := { target.acquire with memoryDepth := source.acquire.memoryDepth } }
  | .acquireMode =>
    { target with acquire := { target.acquire with mode := source.acquire.mode } }
  | .averageCount =>
    { target with acquire := { target.acquire with averageCount := source.acquire.averageCount } }

end Group

/-- What one report comes to: the snapshot as far as it is reported now, and the change told. -/
structure Report where
  baseline : Snapshot
  told : Except Fault (Option (Setting × Value))

/-- Tells the first of `groups` that differs and has a value. A group without a value is adopted
silently, and when nothing is left to tell the fresh snapshot is adopted whole. -/
def Report.among (fresh : Snapshot) : List Group → Snapshot → Report
  | [], _ => ⟨fresh, .ok none⟩
  | g :: rest, baseline =>
    if g.differs baseline fresh then
      match fresh.describe g.setting with
      | .ok value => ⟨g.adopt fresh baseline, .ok (some (g.setting, value))⟩
      | .error (.notApplicable _) => among fresh rest (g.adopt fresh baseline)
      | .error fault => ⟨baseline, .error fault⟩
    else among fresh rest baseline

/-- Reports the first change from `baseline` to `fresh`; later ones stay for later reports. -/
def Report.of (baseline fresh : Snapshot) : Report :=
  among fresh Group.all baseline

end Oscilloscope
