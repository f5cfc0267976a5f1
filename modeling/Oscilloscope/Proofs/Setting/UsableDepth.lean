/- Whether the memory depth in use has a sample rate. Four registers decide it, of three settings,
   and only the setting of the timebase looks at the others. -/

import Oscilloscope.Proofs.Setting.Apply

set_option autoImplicit false
set_option relaxedAutoImplicit false

namespace Oscilloscope

theorem maxSampleRate_eq_zero_iff {tb : Timebase} {both : Bool} {depth : MemoryDepth} :
    maxSampleRate tb both depth = 0 ↔ depth = .m1 ∧ (both = true ∨ tb = ⟨15⟩) := by
  have table : ∀ i : Fin 32, ∀ both : Bool, ∀ depth ∈ MemoryDepth.all,
      (maxSampleRate ⟨i⟩ both depth = 0 ↔
        depth = .m1 ∧ (both = true ∨ (⟨i⟩ : Timebase) = ⟨15⟩)) := by
    decide +kernel
  exact table tb.index both depth (CodeTable.mem_all depth)

theorem decodeRegister_code {α : Type} [CodeTable α] (register : CodedRegister) (a : α) :
    decodeRegister register (CodeTable.code a) = .ok a := by
  rw [decodeRegister, CodeTable.ofCode?_code]

def ChannelId.other : ChannelId → ChannelId
  | .ch1 => .ch2
  | .ch2 => .ch1

namespace Snapshot

/-- Window timebase and memory depth are known and have a sample rate with the channels in use. -/
def Usable (s : Snapshot) : Prop :=
  ∃ tb depth, s.windowTimebase = .ok tb ∧ s.memoryDepth = .ok depth ∧
    maxSampleRate tb s.bothEnabled depth ≠ 0

/-- The changes that leave the largest memory depth in use where it has no sample rate: a channel is
shown beside the other one, or the depth is chosen for both channels or at 200 us a division. -/
inductive Overfills (s : Snapshot) (v : Value) : Setting → Prop
  | shown {c : ChannelId} (taken : v.flag? = some true)
      (beside : s.channelEnabled c.other = true) (full : s.memoryDepth = .ok .m1) :
      Overfills s v (.channel .enabled c)
  | chosen (taken : v.natural?.bind MemoryDepth.ofSamples? = some .m1)
      (unfit : s.bothEnabled = true ∨ s.windowTimebase = .ok ⟨15⟩) :
      Overfills s v (.device .memoryDepth)

variable {s t : Snapshot} {v : Value} {x : Setting} {tb : Timebase} {depth : MemoryDepth}

theorem usable_iff {both : Bool} (window : s.windowTimebase = .ok tb)
    (known : s.memoryDepth = .ok depth) (channels : s.bothEnabled = both) :
    s.Usable ↔ ¬ (depth = .m1 ∧ (both = true ∨ tb = ⟨15⟩)) := by
  rw [← maxSampleRate_eq_zero_iff, ← channels]
  constructor
  · rintro ⟨tb', depth', window', known', rate⟩
    cases window.symm.trans window'
    cases known.symm.trans known'
    exact rate
  · intro rate
    exact ⟨tb, depth, window, known, rate⟩

private theorem usable_congr (window : t.windowTimebase = s.windowTimebase)
    (depth : t.memoryDepth = s.memoryDepth) (both : t.bothEnabled = s.bothEnabled) :
    t.Usable ↔ s.Usable := by
  rw [Usable, Usable, window, depth, both]

section Shown

variable (s) (c : ChannelId) (change : VerticalRegisters → VerticalRegisters)

theorem channelEnabled_setVertical_self : (s.setVertical c change).channelEnabled c =
    ((change (s.vertical.get c)).shown != 0) := by
  rw [channelEnabled, setVertical, PerChannel.get_set_self]

private theorem channelEnabled_setVertical_other :
    (s.setVertical c change).channelEnabled c.other = s.channelEnabled c.other := by
  cases c <;> rfl

private theorem bothEnabled_eq :
    s.bothEnabled = (s.channelEnabled c && s.channelEnabled c.other) := by
  cases c with
  | ch1 => rfl
  | ch2 => exact Bool.and_comm _ _

private theorem bothEnabled_setVertical : (s.setVertical c change).bothEnabled =
    ((change (s.vertical.get c)).shown != 0 && s.channelEnabled c.other) := by
  rw [bothEnabled_eq _ c, channelEnabled_setVertical_self, channelEnabled_setVertical_other]

end Shown

private theorem usable_setVertical {c : ChannelId} {change : VerticalRegisters → VerticalRegisters}
    (kept : (change (s.vertical.get c)).shown = (s.vertical.get c).shown) :
    (s.setVertical c change).Usable ↔ s.Usable := by
  refine usable_congr rfl rfl ?_
  rw [bothEnabled_setVertical, kept, bothEnabled_eq s c]
  rfl

private theorem usable_setShown (usable : s.Usable) (c : ChannelId) {on : Bool}
    (taken : v.flag? = some on) :
    (s.setVertical c fun r => { r with shown := flagByte on }).Usable ↔
      ¬ s.Overfills v (.channel .enabled c) := by
  obtain ⟨tb, depth, window, known, rate⟩ := usable
  rw [ne_eq, maxSampleRate_eq_zero_iff] at rate
  have flag : (flagByte on != 0) = on := by cases on <;> rfl
  have both := bothEnabled_setVertical s c fun r => { r with shown := flagByte on }
  rw [flag] at both
  refine Iff.trans (usable_iff window known both) (not_congr ?_)
  rw [Bool.and_eq_true]
  constructor
  · rintro ⟨rfl, ⟨rfl, beside⟩ | coarse⟩
    · exact .shown taken beside known
    · exact absurd ⟨rfl, .inr coarse⟩ rate
  · intro overfills
    cases overfills with
    | shown asked beside full =>
      cases taken.symm.trans asked
      cases known.symm.trans full
      exact ⟨rfl, .inl ⟨rfl, beside⟩⟩

private theorem usable_setDepth (usable : s.Usable) {depth : MemoryDepth}
    (taken : v.natural?.bind MemoryDepth.ofSamples? = some depth) :
    ({ s with acquire := { s.acquire with memoryDepth := CodeTable.code depth } } :
        Snapshot).Usable ↔ ¬ s.Overfills v (.device .memoryDepth) := by
  obtain ⟨tb, _, window, -, -⟩ := usable
  have known := decodeRegister_code .memoryDepth depth
  refine Iff.trans (usable_iff window known rfl) (not_congr ?_)
  constructor
  · rintro ⟨rfl, both | rfl⟩
    · exact .chosen taken (.inl both)
    · exact .chosen taken (.inr window)
  · intro overfills
    cases overfills with
    | chosen asked unfit =>
      cases taken.symm.trans asked
      exact ⟨rfl, unfit.imp id fun coarse => Except.ok.inj (window.symm.trans coarse)⟩

private theorem usable_setTimebase {depth fitting : MemoryDepth}
    (fits : fittingDepth? tb s.bothEnabled depth = some fitting) :
    ({ s with
      horizontal := { s.horizontal with windowTimebase := CodeTable.code tb }
      acquire := { s.acquire with memoryDepth := CodeTable.code fitting } } : Snapshot).Usable :=
  ⟨tb, fitting, decodeRegister_code _ tb, decodeRegister_code _ fitting,
    rate_of_fittingDepth? fits⟩

theorem Applied.usable_iff (h : Applied s v x t) (usable : s.Usable) :
    t.Usable ↔ ¬ s.Overfills v x := by
  cases h with
  | filter c | range c | coupling c | probe c =>
    exact iff_of_true ((usable_setVertical rfl).mpr usable) (by rintro ⟨⟩)
  | triggerSource | triggerSlope | triggerLevel | triggerPosition | averaging | averageCount =>
    exact iff_of_true ((usable_congr rfl rfl rfl).mpr usable) (by rintro ⟨⟩)
  | enabled c taken => exact usable_setShown usable c taken
  | memoryDepth taken => exact usable_setDepth usable taken
  | timebase _ _ fits => exact iff_of_true (usable_setTimebase fits) (by rintro ⟨⟩)

end Snapshot

end Oscilloscope
