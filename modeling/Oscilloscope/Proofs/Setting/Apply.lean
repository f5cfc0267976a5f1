/- What a setting has to be for it to be applied, and the snapshot that it leads to. -/

import Oscilloscope.Setting.Apply

set_option autoImplicit false
set_option relaxedAutoImplicit false

namespace Oscilloscope

theorem bind_eq_ok_iff {ε α β : Type} {x : Except ε α} {f : α → Except ε β} {b : β} :
    x >>= f = .ok b ↔ ∃ a, x = .ok a ∧ f a = .ok b := by
  cases x <;> simp [bind, Except.bind]

namespace PendingWork

variable {α : Type} {x : Except Fault α} {f : α → PendingWork Unit} {s t : Snapshot}

theorem outcome_bind (x : Except Fault α) (f : α → PendingWork Unit) (s : Snapshot) :
    (ofExcept x >>= f).outcome s = x >>= fun a => (f a).outcome s := by
  cases x <;> rfl

private theorem outcome_bind_eq_ok_iff :
    (ofExcept x >>= f).outcome s = .ok t ↔ ∃ a, x = .ok a ∧ (f a).outcome s = .ok t := by
  rw [outcome_bind, bind_eq_ok_iff]

/-- A fault leaves the pending copy as it was. -/
def Clean (work : PendingWork Unit) : Prop :=
  ∀ s fault t, work s = .error fault t → t = s

private theorem clean_pure {work : PendingWork Unit} {f : Snapshot → Snapshot}
    (h : ∀ s, work s = .ok () (f s)) : Clean work := by
  intro s fault t fails
  rw [h] at fails
  cases fails

private theorem clean_modify (f : Snapshot → Snapshot) : Clean (modify f) :=
  clean_pure fun _ => rfl

private theorem clean_throw (fault : Fault) : Clean (throw fault) := by
  intro s other t h
  exact (EStateM.Result.error.inj h).2.symm

private theorem clean_bind (h : ∀ a, Clean (f a)) : Clean (ofExcept x >>= f) := by
  cases x with
  | ok a => exact h a
  | error fault => exact clean_throw fault

end PendingWork

namespace Snapshot

private theorem expect_eq_ok_iff {α : Type} {key : Key} {value : Value} {a? : Option α} {a : α} :
    expect key value a? = .ok a ↔ a? = some a := by
  cases a? <;> simp [expect]

theorem code_of_decodeRegister {α : Type} [CodeTable α] {register : CodedRegister} {code : UInt8}
    {a : α} (known : decodeRegister register code = .ok a) : CodeTable.code a = code := by
  unfold decodeRegister at known
  split at known
  · rename_i found
    cases known
    exact CodeTable.code_of_ofCode? found
  · cases known

def flagByte (on : Bool) : UInt8 :=
  if on then 1 else 0

/-- The ways for a setting to be applied: what the value was taken for, which registers it depends
on, and what it changes. -/
inductive Applied (s : Snapshot) (v : Value) : Setting → Snapshot → Prop
  | enabled (c : ChannelId) {on : Bool} (taken : v.flag? = some on) :
      Applied s v (.channel .enabled c) (s.setVertical c fun r => { r with shown := flagByte on })
  | filter (c : ChannelId) {on : Bool} (taken : v.flag? = some on) :
      Applied s v (.channel .filter c) (s.setVertical c fun r => { r with filter := flagByte on })
  | range (c : ChannelId) {probe : Probe} {range : VerticalRange}
      (known : decodeRegister .probe (s.vertical.get c).probe = .ok probe)
      (taken : v.ratio?.bind (VerticalRange.ofVoltsPerDivision? probe) = some range) :
      Applied s v (.channel .range c)
        (s.setVertical c fun r => { r with range := CodeTable.code range })
  | coupling (c : ChannelId) {coupling : Coupling}
      (taken : v.text?.bind CodeTable.ofName? = some coupling) :
      Applied s v (.channel .coupling c)
        (s.setVertical c fun r => { r with coupling := CodeTable.code coupling })
  | probe (c : ChannelId) {probe : Probe} (taken : v.natural?.bind Probe.ofFactor? = some probe) :
      Applied s v (.channel .probe c)
        (s.setVertical c fun r => { r with probe := CodeTable.code probe })
  | timebase {tb : Timebase} {depth fitting : MemoryDepth}
      (taken : v.ratio?.bind Timebase.ofWindowDivision? = some tb)
      (known : s.memoryDepth = .ok depth)
      (fits : fittingDepth? tb s.bothEnabled depth = some fitting) :
      Applied s v (.device .timebase)
        { s with
          horizontal := { s.horizontal with windowTimebase := CodeTable.code tb }
          acquire := { s.acquire with memoryDepth := CodeTable.code fitting } }
  | triggerSource {source : TriggerSource}
      (taken : v.text?.bind CodeTable.ofName? = some source) :
      Applied s v (.device .triggerSource)
        { s with trigger := { s.trigger with source := CodeTable.code source } }
  | triggerSlope {slope : TriggerSlope} (taken : v.text?.bind CodeTable.ofName? = some slope) :
      Applied s v (.device .triggerSlope)
        { s with
          trigger := { s.trigger with
            detail := { s.trigger.detail with edgeSlope := CodeTable.code slope } } }
  | triggerLevel {volts : Float} {source : TriggerSource} {c : ChannelId} {channel : Channel}
      (taken : v.real? = some volts) (known : s.triggerSource = .ok source)
      (sourced : source.channel? = some c) (decoded : s.channel c = .ok channel) :
      Applied s v (.device .triggerLevel)
        { s with
          trigger := { s.trigger with
            level := Sample.encode volts.toFloat32 channel.voltsPerDivision channel.offset } }
  | triggerPosition {seconds : Float} (taken : v.real?.filter Float.isFinite = some seconds) :
      Applied s v (.device .triggerPosition)
        { s with
          horizontal := { s.horizontal with triggerTime := (seconds * 1e12).round.toInt64 } }
  | memoryDepth {depth : MemoryDepth}
      (taken : v.natural?.bind MemoryDepth.ofSamples? = some depth) :
      Applied s v (.device .memoryDepth)
        { s with acquire := { s.acquire with memoryDepth := CodeTable.code depth } }
  | averaging {on : Bool} (taken : v.flag? = some on) :
      Applied s v (.device .averaging)
        { s with
          acquire := { s.acquire with
            mode := CodeTable.code (if on then AcquireMode.average else .normal) } }
  | averageCount {count : AverageCount}
      (taken : v.natural?.bind AverageCount.ofWaveforms? = some count) :
      Applied s v (.device .averageCount)
        { s with acquire := { s.acquire with averageCount := CodeTable.code count } }

theorem setTimebase_eq (s : Snapshot) (tb : Timebase) : s.setTimebase tb =
    s.memoryDepth >>= fun depth => match fittingDepth? tb s.bothEnabled depth with
      | none => .error (.argument (.noMemoryDepth tb))
      | some fitting => .ok { s with
          horizontal := { s.horizontal with windowTimebase := CodeTable.code tb }
          acquire := { s.acquire with memoryDepth := CodeTable.code fitting } } := by
  rw [setTimebase, amendTimebase, PendingWork.outcome_bind]
  refine bind_congr fun depth => ?_
  cases fittingDepth? tb s.bothEnabled depth with
  | none => rfl
  | some fitting =>
    dsimp only
    split
    · rfl
    · rename_i same
      rw [Decidable.not_not.mp same]
      rfl

theorem setTimebase_eq_ok_iff {s t : Snapshot} {tb : Timebase} :
    s.setTimebase tb = .ok t ↔ ∃ depth fitting, s.memoryDepth = .ok depth ∧
      fittingDepth? tb s.bothEnabled depth = some fitting ∧
      t = { s with
        horizontal := { s.horizontal with windowTimebase := CodeTable.code tb }
        acquire := { s.acquire with memoryDepth := CodeTable.code fitting } } := by
  rw [setTimebase_eq, bind_eq_ok_iff]
  constructor
  · rintro ⟨depth, known, h⟩
    cases fits : fittingDepth? tb s.bothEnabled depth with
    | none => rw [fits] at h; cases h
    | some fitting =>
      rw [fits] at h
      cases h
      exact ⟨depth, fitting, known, fits, rfl⟩
  · rintro ⟨depth, fitting, known, fits, rfl⟩
    refine ⟨depth, known, ?_⟩
    rw [fits]

theorem amendTriggerLevel_eq (s : Snapshot) (volts : Float) :
    (s.amendTriggerLevel volts).outcome s =
      s.triggerSource >>= fun source => match source.channel? with
      | none => .error (.argument (.noTriggerLevel source))
      | some c => s.channel c >>= fun channel => .ok { s with
          trigger := { s.trigger with
            level := Sample.encode volts.toFloat32 channel.voltsPerDivision channel.offset } } := by
  rw [amendTriggerLevel, PendingWork.outcome_bind]
  refine bind_congr fun source => ?_
  cases source.channel? with
  | none => rfl
  | some c => exact PendingWork.outcome_bind _ _ _

theorem amendTriggerLevel_eq_ok_iff {s t : Snapshot} {volts : Float} :
    (s.amendTriggerLevel volts).outcome s = .ok t ↔
      ∃ source c channel, s.triggerSource = .ok source ∧
        source.channel? = some c ∧ s.channel c = .ok channel ∧
        t = { s with
          trigger := { s.trigger with
            level := Sample.encode volts.toFloat32 channel.voltsPerDivision channel.offset } } := by
  rw [amendTriggerLevel_eq, bind_eq_ok_iff]
  constructor
  · rintro ⟨source, known, h⟩
    cases sourced : source.channel? with
    | none => rw [sourced] at h; cases h
    | some c =>
      rw [sourced] at h
      obtain ⟨channel, decoded, h⟩ := bind_eq_ok_iff.mp h
      cases h
      exact ⟨source, c, channel, known, sourced, decoded, rfl⟩
  · rintro ⟨source, c, channel, known, sourced, decoded, rfl⟩
    refine ⟨source, known, ?_⟩
    rw [sourced]
    exact bind_eq_ok_iff.mpr ⟨channel, decoded, rfl⟩

theorem applied_of_channel {s t : Snapshot} {k : ChannelKey} {c : ChannelId} {v : Value}
    (h : s.apply (.channel k c) v = .ok t) : Applied s v (.channel k c) t := by
  cases k with
  | enabled =>
    obtain ⟨on, taken, h⟩ := PendingWork.outcome_bind_eq_ok_iff.mp h
    cases h
    exact .enabled c (expect_eq_ok_iff.mp taken)
  | filter =>
    obtain ⟨on, taken, h⟩ := PendingWork.outcome_bind_eq_ok_iff.mp h
    cases h
    exact .filter c (expect_eq_ok_iff.mp taken)
  | range =>
    obtain ⟨probe, known, h⟩ := PendingWork.outcome_bind_eq_ok_iff.mp h
    obtain ⟨range, taken, h⟩ := PendingWork.outcome_bind_eq_ok_iff.mp h
    cases h
    exact .range c known (expect_eq_ok_iff.mp taken)
  | coupling =>
    obtain ⟨coupling, taken, h⟩ := PendingWork.outcome_bind_eq_ok_iff.mp h
    cases h
    exact .coupling c (expect_eq_ok_iff.mp taken)
  | probe =>
    obtain ⟨probe, taken, h⟩ := PendingWork.outcome_bind_eq_ok_iff.mp h
    cases h
    exact .probe c (expect_eq_ok_iff.mp taken)

theorem applied_of_device {s t : Snapshot} {k : DeviceKey} {v : Value}
    (h : s.apply (.device k) v = .ok t) : Applied s v (.device k) t := by
  cases k with
  | timebase =>
    obtain ⟨tb, taken, h⟩ := PendingWork.outcome_bind_eq_ok_iff.mp h
    obtain ⟨depth, fitting, known, fits, rfl⟩ := setTimebase_eq_ok_iff.mp h
    exact .timebase (expect_eq_ok_iff.mp taken) known fits
  | triggerSource =>
    obtain ⟨source, taken, h⟩ := PendingWork.outcome_bind_eq_ok_iff.mp h
    cases h
    exact .triggerSource (expect_eq_ok_iff.mp taken)
  | triggerSlope =>
    obtain ⟨slope, taken, h⟩ := PendingWork.outcome_bind_eq_ok_iff.mp h
    cases h
    exact .triggerSlope (expect_eq_ok_iff.mp taken)
  | triggerLevel =>
    obtain ⟨volts, taken, h⟩ := PendingWork.outcome_bind_eq_ok_iff.mp h
    obtain ⟨source, c, channel, known, sourced, decoded, rfl⟩ := amendTriggerLevel_eq_ok_iff.mp h
    exact .triggerLevel (expect_eq_ok_iff.mp taken) known sourced decoded
  | triggerPosition =>
    obtain ⟨seconds, taken, h⟩ := PendingWork.outcome_bind_eq_ok_iff.mp h
    cases h
    exact .triggerPosition (expect_eq_ok_iff.mp taken)
  | memoryDepth =>
    obtain ⟨depth, taken, h⟩ := PendingWork.outcome_bind_eq_ok_iff.mp h
    cases h
    exact .memoryDepth (expect_eq_ok_iff.mp taken)
  | averaging =>
    obtain ⟨on, taken, h⟩ := PendingWork.outcome_bind_eq_ok_iff.mp h
    cases h
    exact .averaging (expect_eq_ok_iff.mp taken)
  | averageCount =>
    obtain ⟨count, taken, h⟩ := PendingWork.outcome_bind_eq_ok_iff.mp h
    cases h
    exact .averageCount (expect_eq_ok_iff.mp taken)
  | connection | verticalDivisions | horizontalDivisions | sampleRate | limit => cases h

theorem apply_of_applied {s t : Snapshot} {x : Setting} {v : Value} (h : Applied s v x t) :
    s.apply x v = .ok t := by
  cases h with
  | enabled c taken | filter c taken | coupling c taken | probe c taken | triggerSource taken
  | triggerSlope taken | triggerPosition taken | memoryDepth taken | averaging taken
  | averageCount taken =>
    exact PendingWork.outcome_bind_eq_ok_iff.mpr ⟨_, expect_eq_ok_iff.mpr taken, rfl⟩
  | range c known taken =>
    exact PendingWork.outcome_bind_eq_ok_iff.mpr
      ⟨_, known, PendingWork.outcome_bind_eq_ok_iff.mpr ⟨_, expect_eq_ok_iff.mpr taken, rfl⟩⟩
  | timebase taken known fits =>
    exact PendingWork.outcome_bind_eq_ok_iff.mpr
      ⟨_, expect_eq_ok_iff.mpr taken, setTimebase_eq_ok_iff.mpr ⟨_, _, known, fits, rfl⟩⟩
  | triggerLevel taken known sourced decoded =>
    exact PendingWork.outcome_bind_eq_ok_iff.mpr ⟨_, expect_eq_ok_iff.mpr taken,
      amendTriggerLevel_eq_ok_iff.mpr ⟨_, _, _, known, sourced, decoded, rfl⟩⟩

theorem apply_eq_ok_iff {s t : Snapshot} {x : Setting} {v : Value} :
    s.apply x v = .ok t ↔ Applied s v x t := by
  refine ⟨fun h => ?_, apply_of_applied⟩
  cases x with
  | device k => exact applied_of_device h
  | channel k c => exact applied_of_channel h

theorem amend_clean (current : Snapshot) (x : Setting) (v : Value) :
    PendingWork.Clean (current.amend x v) := by
  cases x with
  | device k =>
    cases k with
    | timebase =>
      refine PendingWork.clean_bind fun tb => PendingWork.clean_bind fun depth => ?_
      cases fittingDepth? tb current.bothEnabled depth with
      | none => exact PendingWork.clean_throw _
      | some fitting =>
        dsimp only
        split
        · exact PendingWork.clean_pure fun _ => rfl
        · exact PendingWork.clean_modify _
    | triggerLevel =>
      refine PendingWork.clean_bind fun volts => PendingWork.clean_bind fun source => ?_
      cases source.channel? with
      | none => exact PendingWork.clean_throw _
      | some c => exact PendingWork.clean_bind fun channel => PendingWork.clean_modify _
    | triggerSource | triggerSlope | triggerPosition | memoryDepth | averaging | averageCount =>
      exact PendingWork.clean_bind fun _ => PendingWork.clean_modify _
    | connection | verticalDivisions | horizontalDivisions | sampleRate | limit =>
      exact PendingWork.clean_throw _
  | channel k c =>
    cases k with
    | range =>
      exact PendingWork.clean_bind fun _ =>
        PendingWork.clean_bind fun _ => PendingWork.clean_modify _
    | enabled | filter | coupling | probe =>
      exact PendingWork.clean_bind fun _ => PendingWork.clean_modify _

theorem amend_eq_error_iff {s t : Snapshot} {x : Setting} {v : Value} {fault : Fault} :
    s.amend x v s = .error fault t ↔ s.apply x v = .error fault ∧ t = s := by
  rw [apply, PendingWork.outcome]
  cases h : s.amend x v s with
  | ok => simp
  | error other after =>
    have kept := amend_clean s x v s other after h
    subst kept
    simp [eq_comm]

end Snapshot

end Oscilloscope
