/- Settings as edits. What is put comes to an edit of the registers of that setting, found from the
   value and from few other registers. So edits of different settings commute, and what one setting
   comes to is the same beside another as long as it does not look at what the other one writes. -/

import Oscilloscope.Proofs.Acquisition.Described
import Oscilloscope.Proofs.Setting.UsableDepth

set_option autoImplicit false
set_option relaxedAutoImplicit false

namespace Oscilloscope

/-- What is written for a setting. A limit is not in the registers. -/
inductive Edit
  | vertical (key : ChannelKey) (id : ChannelId) (byte : UInt8)
  | timebase (window depth : UInt8)
  | triggerSource (code : UInt8)
  | triggerSlope (code : UInt8)
  | triggerLevel (level : Int16)
  | triggerPosition (time : Int64)
  | memoryDepth (code : UInt8)
  | averaging (mode : UInt8)
  | averageCount (code : UInt8)
  | limit (kind : LimitKind)

def Edit.setting : Edit → Setting
  | .vertical key id _ => .channel key id
  | .timebase _ _ => .device .timebase
  | .triggerSource _ => .device .triggerSource
  | .triggerSlope _ => .device .triggerSlope
  | .triggerLevel _ => .device .triggerLevel
  | .triggerPosition _ => .device .triggerPosition
  | .memoryDepth _ => .device .memoryDepth
  | .averaging _ => .device .averaging
  | .averageCount _ => .device .averageCount
  | .limit kind => .device (.limit kind)

/-- The registers of a channel with the one of a setting written. -/
def VerticalRegisters.write (r : VerticalRegisters) (byte : UInt8) : ChannelKey → VerticalRegisters
  | .enabled => { r with shown := byte }
  | .range => { r with range := byte }
  | .coupling => { r with coupling := byte }
  | .filter => { r with filter := byte }
  | .probe => { r with probe := byte }

/-- The settings that are put by what stands in registers of other settings. -/
inductive Setting.LeansOn : Setting → Setting → Prop
  | timebaseOnDepth : LeansOn (.device .timebase) (.device .memoryDepth)
  | timebaseOnShown (c : ChannelId) : LeansOn (.device .timebase) (.channel .enabled c)
  | rangeOnProbe (c : ChannelId) : LeansOn (.channel .range c) (.channel .probe c)
  | levelOnSource : LeansOn (.device .triggerLevel) (.device .triggerSource)
  | levelOnRange (c : ChannelId) : LeansOn (.device .triggerLevel) (.channel .range c)
  | levelOnCoupling (c : ChannelId) : LeansOn (.device .triggerLevel) (.channel .coupling c)
  | levelOnProbe (c : ChannelId) : LeansOn (.device .triggerLevel) (.channel .probe c)

namespace Snapshot

def edited (s : Snapshot) : Edit → Snapshot
  | .vertical key id byte => s.setVertical id fun r => r.write byte key
  | .timebase window depth =>
    { s with
      horizontal := { s.horizontal with windowTimebase := window }
      acquire := { s.acquire with memoryDepth := depth } }
  | .triggerSource code => { s with trigger := { s.trigger with source := code } }
  | .triggerSlope code =>
    { s with trigger := { s.trigger with detail := { s.trigger.detail with edgeSlope := code } } }
  | .triggerLevel level => { s with trigger := { s.trigger with level := level } }
  | .triggerPosition time => { s with horizontal := { s.horizontal with triggerTime := time } }
  | .memoryDepth code => { s with acquire := { s.acquire with memoryDepth := code } }
  | .averaging mode => { s with acquire := { s.acquire with mode := mode } }
  | .averageCount code => { s with acquire := { s.acquire with averageCount := code } }
  | .limit _ => s

def planTimebase (s : Snapshot) (tb : Timebase) : Except Fault Edit := do
  let depth ← s.memoryDepth
  match fittingDepth? tb s.bothEnabled depth with
  | none => throw (.argument (.noMemoryDepth tb))
  | some fitting => return .timebase (CodeTable.code tb) (CodeTable.code fitting)

def planTriggerLevel (s : Snapshot) (volts : Float) : Except Fault Edit := do
  let source ← s.triggerSource
  match source.channel? with
  | none => throw (.argument (.noTriggerLevel source))
  | some c =>
    let channel ← s.channel c
    return .triggerLevel
      (Sample.encode volts.toFloat32 channel.voltsPerDivision channel.offset)

def plan (s : Snapshot) (x : Setting) (v : Value) : Except Fault Edit :=
  let want {α : Type} (a : Option α) : Except Fault α := expect x.key v a
  match x with
  | .channel .enabled c => return .vertical .enabled c (flagByte (← want v.flag?))
  | .channel .filter c => return .vertical .filter c (flagByte (← want v.flag?))
  | .channel .range c => do
    let probe ← decodeRegister .probe (s.vertical.get c).probe
    let range ← want (v.ratio?.bind (VerticalRange.ofVoltsPerDivision? probe))
    return .vertical .range c (CodeTable.code range)
  | .channel .coupling c => do
    let coupling : Coupling ← want (v.text?.bind CodeTable.ofName?)
    return .vertical .coupling c (CodeTable.code coupling)
  | .channel .probe c => do
    let probe ← want (v.natural?.bind Probe.ofFactor?)
    return .vertical .probe c (CodeTable.code probe)
  | .device .timebase => do s.planTimebase (← want (v.ratio?.bind Timebase.ofWindowDivision?))
  | .device .triggerSource => do
    let source : TriggerSource ← want (v.text?.bind CodeTable.ofName?)
    return .triggerSource (CodeTable.code source)
  | .device .triggerSlope => do
    let slope : TriggerSlope ← want (v.text?.bind CodeTable.ofName?)
    return .triggerSlope (CodeTable.code slope)
  | .device .triggerLevel => do s.planTriggerLevel (← want v.real?)
  | .device .triggerPosition => do
    let seconds ← want (v.real?.filter Float.isFinite)
    return .triggerPosition (seconds * 1e12).round.toInt64
  | .device .memoryDepth => do
    let depth ← want (v.natural?.bind MemoryDepth.ofSamples?)
    return .memoryDepth (CodeTable.code depth)
  | .device .averaging => do
    let mode := if ← want v.flag? then AcquireMode.average else AcquireMode.normal
    return .averaging (CodeTable.code mode)
  | .device .averageCount => do
    let count ← want (v.natural?.bind AverageCount.ofWaveforms?)
    return .averageCount (CodeTable.code count)
  | .device .connection | .device .verticalDivisions | .device .horizontalDivisions
  | .device .sampleRate | .device (.limit _) => .error (.notApplicable x.key)

variable {s : Snapshot} {x : Setting} {v : Value} {e : Edit}

private theorem amendTimebase_eq_plan (s : Snapshot) (tb : Timebase) :
    (s.amendTimebase tb).outcome s = s.edited <$> s.planTimebase tb := by
  have moved := setTimebase_eq s tb
  rw [setTimebase] at moved
  rw [moved, planTimebase, map_bind]
  refine bind_congr fun depth => ?_
  cases fittingDepth? tb s.bothEnabled depth <;> rfl

private theorem amendTriggerLevel_eq_plan (s : Snapshot) (volts : Float) :
    (s.amendTriggerLevel volts).outcome s = s.edited <$> s.planTriggerLevel volts := by
  rw [amendTriggerLevel_eq, planTriggerLevel, map_bind]
  refine bind_congr fun source => ?_
  cases source.channel? with
  | none => rfl
  | some c =>
    dsimp only
    rw [map_bind]
    rfl

private theorem outcome_eq_plan {α : Type} {x : Except Fault α} {f : α → PendingWork Unit}
    {g : α → Except Fault Edit} (same : ∀ a, (f a).outcome s = s.edited <$> g a) :
    (PendingWork.ofExcept x >>= f).outcome s = s.edited <$> (x >>= g) := by
  rw [PendingWork.outcome_bind, map_bind]
  exact bind_congr same

theorem apply_eq_plan (s : Snapshot) (x : Setting) (v : Value) :
    s.apply x v = s.edited <$> s.plan x v := by
  cases x with
  | channel k c =>
    cases k with
    | range => exact outcome_eq_plan fun probe => outcome_eq_plan fun range => rfl
    | enabled | coupling | filter | probe => exact outcome_eq_plan fun _ => rfl
  | device k =>
    cases k with
    | timebase => exact outcome_eq_plan fun tb => amendTimebase_eq_plan s tb
    | triggerLevel => exact outcome_eq_plan fun volts => amendTriggerLevel_eq_plan s volts
    | triggerSource | triggerSlope | triggerPosition | memoryDepth | averaging | averageCount =>
      exact outcome_eq_plan fun _ => rfl
    | connection | verticalDivisions | horizontalDivisions | sampleRate | limit => rfl

theorem setting_of_plan (h : s.plan x v = .ok e) : e.setting = x := by
  cases x with
  | channel k c =>
    cases k with
    | enabled | coupling | filter | probe =>
      obtain ⟨_, -, h⟩ := bind_eq_ok_iff.mp h
      cases h
      rfl
    | range =>
      obtain ⟨probe, -, h⟩ := bind_eq_ok_iff.mp h
      obtain ⟨range, -, h⟩ := bind_eq_ok_iff.mp h
      cases h
      rfl
  | device k =>
    cases k with
    | triggerSource | triggerSlope | triggerPosition | memoryDepth | averaging | averageCount =>
      obtain ⟨_, -, h⟩ := bind_eq_ok_iff.mp h
      cases h
      rfl
    | timebase =>
      obtain ⟨tb, -, h⟩ := bind_eq_ok_iff.mp h
      obtain ⟨depth, -, h⟩ := bind_eq_ok_iff.mp h
      split at h
      · cases h
      · cases h
        rfl
    | triggerLevel =>
      obtain ⟨volts, -, h⟩ := bind_eq_ok_iff.mp h
      obtain ⟨source, -, h⟩ := bind_eq_ok_iff.mp h
      split at h
      · cases h
      · obtain ⟨channel, -, h⟩ := bind_eq_ok_iff.mp h
        cases h
        rfl
    | connection | verticalDivisions | horizontalDivisions | sampleRate | limit => cases h

end Snapshot

/-! ### What a setting looks at -/

def VerticalRegisters.unflagged (r : VerticalRegisters) : VerticalRegisters :=
  { r with shown := 0, filter := 0 }

/-- The registers that a setting looks at to be put are the same in both snapshots. -/
def Setting.SeesAlike (s t : Snapshot) : Setting → Prop
  | .device .timebase =>
    t.acquire.memoryDepth = s.acquire.memoryDepth ∧
      ∀ c, (t.vertical.get c).shown = (s.vertical.get c).shown
  | .channel .range c => (t.vertical.get c).probe = (s.vertical.get c).probe
  | .device .triggerLevel =>
    t.trigger.source = s.trigger.source ∧
      ∀ c, (t.vertical.get c).unflagged = (s.vertical.get c).unflagged
  | _ => True

namespace Snapshot

variable {s t : Snapshot} {x : Setting} {v : Value} {e f : Edit}

private theorem scaled_unflagged {β : Type} (index : Nat) (r : VerticalRegisters)
    (g : Float32 → Int16 → β) :
    (Channel.ofRegisters index r >>= fun ch => .ok (g ch.voltsPerDivision ch.offset)) =
      (Channel.ofRegisters index r.unflagged >>= fun ch =>
        .ok (g ch.voltsPerDivision ch.offset)) := by
  unfold Channel.ofRegisters VerticalRegisters.unflagged
  cases (decodeRegister .range r.range : Except Fault VerticalRange) with
  | error => rfl
  | ok range =>
    cases (decodeRegister .coupling r.coupling : Except Fault Coupling) with
    | error => rfl
    | ok coupling =>
      cases (decodeRegister .probe r.probe : Except Fault Probe) with
      | error => rfl
      | ok probe => rfl

private theorem plan_congr (alike : x.SeesAlike s t) : t.plan x v = s.plan x v := by
  cases x with
  | channel k c =>
    cases k with
    | enabled | coupling | filter | probe => rfl
    | range =>
      have probe : (t.vertical.get c).probe = (s.vertical.get c).probe := alike
      simp only [plan, probe]
  | device k =>
    cases k with
    | timebase =>
      obtain ⟨depth, shown⟩ := alike
      have known : t.memoryDepth = s.memoryDepth := by rw [memoryDepth, depth, memoryDepth]
      have both : t.bothEnabled = s.bothEnabled := by
        simp only [bothEnabled, channelEnabled, shown]
      simp only [plan, planTimebase, known, both]
    | triggerLevel =>
      obtain ⟨source, channels⟩ := alike
      have known : t.triggerSource = s.triggerSource := by
        rw [triggerSource, source, triggerSource]
      have level (volts : Float) : t.planTriggerLevel volts = s.planTriggerLevel volts := by
        rw [planTriggerLevel, planTriggerLevel, known]
        refine bind_congr fun source => ?_
        cases source.channel? with
        | none => rfl
        | some c =>
          let put (scale : Float32) (offset : Int16) : Edit :=
            .triggerLevel (Sample.encode volts.toFloat32 scale offset)
          have first := scaled_unflagged c.index (t.vertical.get c) put
          rw [channels c] at first
          exact first.trans (scaled_unflagged c.index (s.vertical.get c) put).symm
      simp only [plan, level]
    | triggerSource | triggerSlope | triggerPosition | memoryDepth | averaging | averageCount
    | connection | verticalDivisions | horizontalDivisions | sampleRate | limit => rfl

private theorem get_setVertical_kept {β : Type} (observe : VerticalRegisters → β) {id : ChannelId}
    {change : VerticalRegisters → VerticalRegisters} (c : ChannelId)
    (kept : id = c → ∀ r, observe (change r) = observe r) :
    observe ((s.setVertical id change).vertical.get c) = observe (s.vertical.get c) := by
  by_cases same : id = c
  · subst same
    rw [setVertical, PerChannel.get_set_self, kept rfl]
  · rw [setVertical, PerChannel.get_set_of_ne _ same]

private theorem timebase_seesAlike (other : Setting.device .timebase ≠ e.setting)
    (free : ¬ Setting.LeansOn (.device .timebase) e.setting) :
    Setting.SeesAlike s (s.edited e) (.device .timebase) := by
  cases e with
  | vertical k id byte =>
    refine ⟨rfl, fun c => get_setVertical_kept VerticalRegisters.shown c fun _ r => ?_⟩
    cases k with
    | enabled => exact absurd (.timebaseOnShown id) free
    | range | coupling | filter | probe => rfl
  | timebase => exact absurd rfl other
  | memoryDepth => exact absurd .timebaseOnDepth free
  | _ => exact ⟨rfl, fun _ => rfl⟩

private theorem range_seesAlike {c : ChannelId}
    (free : ¬ Setting.LeansOn (.channel .range c) e.setting) :
    Setting.SeesAlike s (s.edited e) (.channel .range c) := by
  cases e with
  | vertical k id byte =>
    refine get_setVertical_kept VerticalRegisters.probe c fun same r => ?_
    cases k with
    | probe =>
      subst same
      exact absurd (.rangeOnProbe id) free
    | enabled | range | coupling | filter => rfl
  | _ => rfl

private theorem triggerLevel_seesAlike
    (free : ¬ Setting.LeansOn (.device .triggerLevel) e.setting) :
    Setting.SeesAlike s (s.edited e) (.device .triggerLevel) := by
  cases e with
  | vertical k id byte =>
    refine ⟨rfl, fun c => get_setVertical_kept VerticalRegisters.unflagged c fun _ r => ?_⟩
    cases k with
    | range => exact absurd (.levelOnRange id) free
    | coupling => exact absurd (.levelOnCoupling id) free
    | probe => exact absurd (.levelOnProbe id) free
    | enabled | filter => rfl
  | triggerSource => exact absurd .levelOnSource free
  | _ => exact ⟨rfl, fun _ => rfl⟩

private theorem seesAlike_edited (other : x ≠ e.setting) (free : ¬ x.LeansOn e.setting) :
    x.SeesAlike s (s.edited e) := by
  cases x with
  | channel k c =>
    cases k with
    | range => exact range_seesAlike free
    | enabled | coupling | filter | probe => trivial
  | device k =>
    cases k with
    | timebase => exact timebase_seesAlike other free
    | triggerLevel => exact triggerLevel_seesAlike free
    | _ => trivial

theorem plan_edited (other : x ≠ e.setting) (free : ¬ x.LeansOn e.setting) :
    (s.edited e).plan x v = s.plan x v :=
  plan_congr (seesAlike_edited other free)

/-! ### Edits in either order -/

private theorem write_comm (r : VerticalRegisters) {k k' : ChannelKey} (other : k ≠ k')
    (byte byte' : UInt8) : (r.write byte k).write byte' k' = (r.write byte' k').write byte k := by
  cases k <;> cases k' <;> first | rfl | exact absurd rfl other

private theorem setVertical_comm {k k' : ChannelKey} {c c' : ChannelId} (byte byte' : UInt8)
    (other : Setting.channel k c ≠ .channel k' c') :
    (s.setVertical c fun r => r.write byte k).setVertical c' (fun r => r.write byte' k') =
      (s.setVertical c' fun r => r.write byte' k').setVertical c fun r => r.write byte k := by
  by_cases same : c = c'
  · subst same
    have keys : k ≠ k' := fun eq => other (by rw [eq])
    simp only [setVertical, PerChannel.get_set_self, write_comm _ keys]
    cases c <;> rfl
  · cases c <;> cases c' <;> first | rfl | exact absurd rfl same

theorem edited_comm (other : e.setting ≠ f.setting) (free : ¬ e.setting.LeansOn f.setting)
    (free' : ¬ f.setting.LeansOn e.setting) : (s.edited e).edited f = (s.edited f).edited e := by
  cases e with
  | vertical k c byte =>
    cases f with
    | vertical k' c' byte' => exact setVertical_comm byte byte' other
    | _ => rfl
  | timebase =>
    cases f with
    | timebase => exact absurd rfl other
    | memoryDepth => exact absurd .timebaseOnDepth free
    | _ => rfl
  | memoryDepth =>
    cases f with
    | timebase => exact absurd .timebaseOnDepth free'
    | memoryDepth => exact absurd rfl other
    | _ => rfl
  | triggerSource | triggerSlope | triggerLevel | triggerPosition | averaging | averageCount
  | limit => cases f <;> first | rfl | exact absurd rfl other

end Snapshot

end Oscilloscope
