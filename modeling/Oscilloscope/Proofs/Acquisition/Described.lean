/- What the values that are reported depend on. Most depend on the registers of their own group
   alone; volts a division depend on the probe too, and the trigger level on all that scales its
   source. -/

import Oscilloscope.Proofs.Acquisition.Report
import Oscilloscope.Proofs.Setting.Apply

set_option autoImplicit false
set_option relaxedAutoImplicit false

namespace Oscilloscope

/-- Work that fails only for a code outside of its table. -/
def Decodes {α : Type} (x : Except Fault α) : Prop :=
  ∀ fault, x = .error fault → ∃ register code, fault = .unknownCode register code

namespace Decodes

variable {α β : Type}

private theorem ok (a : α) : Decodes (.ok a) := nofun

theorem register [CodeTable α] (register : CodedRegister) (code : UInt8) :
    Decodes (decodeRegister register code : Except Fault α) := by
  intro fault h
  rw [decodeRegister] at h
  split at h
  · cases h
  · cases h
    exact ⟨register, code, rfl⟩

private theorem bind {x : Except Fault α} {f : α → Except Fault β} (hx : Decodes x)
    (hf : ∀ a, Decodes (f a)) : Decodes (x >>= f) := by
  intro fault h
  cases x with
  | error =>
    cases h
    exact hx fault rfl
  | ok a => exact hf a fault h

end Decodes

namespace Snapshot

variable {s t : Snapshot} {c : ChannelId} {channel channel' : Channel}

theorem channel_decodes (s : Snapshot) (c : ChannelId) : Decodes (s.channel c) := by
  refine (Decodes.register _ _).bind fun _ => ?_
  refine (Decodes.register _ _).bind fun _ => ?_
  exact (Decodes.register _ _).bind fun _ => .ok _

theorem channel_eq_ok (h : s.channel c = .ok channel) :
    let r := s.vertical.get c
    decodeRegister .range r.range = .ok channel.range ∧
      decodeRegister .coupling r.coupling = .ok channel.coupling ∧
      decodeRegister .probe r.probe = .ok channel.probe ∧
      channel.fine = (r.fine != 0) ∧ channel.fineCount = r.fineCount ∧
      channel.offset = r.position := by
  obtain ⟨range, hrange, h⟩ := bind_eq_ok_iff.mp h
  obtain ⟨coupling, hcoupling, h⟩ := bind_eq_ok_iff.mp h
  obtain ⟨probe, hprobe, h⟩ := bind_eq_ok_iff.mp h
  cases h
  exact ⟨hrange, hcoupling, hprobe, rfl, rfl, rfl⟩

private theorem nominal_eq (hs : s.channel c = .ok channel) (ht : t.channel c = .ok channel')
    (range : (s.vertical.get c).range = (t.vertical.get c).range)
    (probe : (s.vertical.get c).probe = (t.vertical.get c).probe) :
    channel.range = channel'.range ∧ channel.probe = channel'.probe := by
  obtain ⟨hrange, -, hprobe, -⟩ := channel_eq_ok hs
  obtain ⟨hrange', -, hprobe', -⟩ := channel_eq_ok ht
  rw [range] at hrange
  rw [probe] at hprobe
  exact ⟨Except.ok.inj (hrange.symm.trans hrange'), Except.ok.inj (hprobe.symm.trans hprobe')⟩

theorem triggerLevel_of_channel {source : TriggerSource} {c : ChannelId}
    (known : s.triggerSource = .ok source) (sourced : source.channel? = some c) :
    s.triggerLevel = s.channel c >>= fun ch =>
      return Sample.widen (Sample.decode s.trigger.level ch.voltsPerDivision ch.offset) := by
  simp only [triggerLevel, known, bind, Except.bind, sourced]

theorem triggerLevel_of_no_channel {source : TriggerSource} (known : s.triggerSource = .ok source)
    (sourced : source.channel? = none) :
    s.triggerLevel = throw (.notApplicable (.device .triggerLevel)) := by
  simp only [triggerLevel, known, bind, Except.bind, sourced]

/-- The channel that triggers, if one does and its codes are known. -/
def triggering? (s : Snapshot) : Option Channel := do
  let source ← s.triggerSource.toOption
  (s.channel (← source.channel?)).toOption

private theorem describe_triggerLevel_eq_ok {v : Value}
    (h : s.describe (.device .triggerLevel) = .ok v) : ∃ channel, s.triggering? = some channel ∧
      v = .real
        (Sample.widen (Sample.decode s.trigger.level channel.voltsPerDivision channel.offset)) := by
  obtain ⟨level, hlevel, h⟩ := bind_eq_ok_iff.mp h
  cases h
  obtain ⟨source, known, h⟩ := bind_eq_ok_iff.mp hlevel
  cases sourced : source.channel? with
  | none =>
    rw [sourced] at h
    cases h
  | some c =>
    rw [sourced] at h
    obtain ⟨channel, decoded, h⟩ := bind_eq_ok_iff.mp h
    cases h
    refine ⟨channel, ?_, rfl⟩
    rw [triggering?, known]
    show (source.channel? >>= fun c => (s.channel c).toOption) = some channel
    rw [sourced]
    show (s.channel c).toOption = some channel
    rw [decoded]
    rfl

private theorem describe_triggerLevel_decodes
    (sourced : ∀ source, s.triggerSource = .ok source → source.channel? ≠ none) :
    Decodes (s.describe (.device .triggerLevel)) := by
  have level : Decodes s.triggerLevel := by
    cases known : s.triggerSource with
    | error fault =>
      intro _ h
      rw [triggerLevel, known] at h
      cases h
      exact Decodes.register _ _ fault known
    | ok source =>
      obtain ⟨c, hc⟩ := Option.ne_none_iff_exists'.mp (sourced source known)
      rw [triggerLevel_of_channel known hc]
      exact (s.channel_decodes c).bind fun _ => .ok _
  exact level.bind fun _ => .ok _

end Snapshot

namespace Group

variable {g : Group} {s t : Snapshot} {v w : Value}

/-- What the value takes from registers of other groups is the same. For volts a division that is the
probe, for a trigger level the volts a division of the channel that triggers and its offset. -/
def LeansAlike (g : Group) (s t : Snapshot) : Prop :=
  match g with
  | .range c => (s.vertical.get c).probe = (t.vertical.get c).probe
  | .triggerLevel => ∀ here ∈ s.triggering?, ∀ there ∈ t.triggering?,
      here.voltsPerDivision = there.voltsPerDivision ∧ here.offset = there.offset
  | _ => True

theorem eq_triggerLevel_of_notApplicable {key : Key}
    (h : s.describe g.setting = .error (.notApplicable key)) :
    g = .triggerLevel ∧ ∃ source, s.triggerSource = .ok source ∧ source.channel? = none := by
  have never {x : Except Fault Value} (decodes : Decodes x) : x ≠ .error (.notApplicable key) := by
    intro fails
    obtain ⟨register, code, h⟩ := decodes _ fails
    cases h
  cases g with
  | enabled | filter | triggerPosition | menu | acquireMode => cases h
  | range c | coupling c | probe c =>
    exact absurd h (never ((s.channel_decodes c).bind fun _ => .ok _))
  | triggerSource | triggerSlope | timebase | memoryDepth | averageCount =>
    exact absurd h (never ((Decodes.register _ _).bind fun _ => .ok _))
  | triggerLevel =>
    refine ⟨rfl, ?_⟩
    by_contra sourced
    refine never (Snapshot.describe_triggerLevel_decodes fun source known none => ?_) h
    exact sourced ⟨source, known, none⟩

theorem value_eq (same : g.differs s t = false) (alike : g.LeansAlike s t)
    (hs : s.describe g.setting = .ok v) (ht : t.describe g.setting = .ok w) : v = w := by
  -- Most values are those of one register or of the window timebase.
  have congr (h : s.describe g.setting = t.describe g.setting) : v = w :=
    Except.ok.inj (hs.symm.trans (h.trans ht))
  cases g with
  | range c =>
    have range : (s.vertical.get c).range = (t.vertical.get c).range := bne_eq_false_iff_eq.mp same
    obtain ⟨channel, decoded, h⟩ := bind_eq_ok_iff.mp hs
    obtain ⟨channel', decoded', h'⟩ := bind_eq_ok_iff.mp ht
    obtain ⟨hrange, hprobe⟩ := Snapshot.nominal_eq decoded decoded' range alike
    cases h
    cases h'
    rw [Channel.nominalVoltsPerDivision, hrange, hprobe]
    rfl
  | coupling c =>
    have coupling : (s.vertical.get c).coupling = (t.vertical.get c).coupling :=
      bne_eq_false_iff_eq.mp same
    obtain ⟨channel, decoded, h⟩ := bind_eq_ok_iff.mp hs
    obtain ⟨channel', decoded', h'⟩ := bind_eq_ok_iff.mp ht
    have known := (Snapshot.channel_eq_ok decoded).2.1
    rw [coupling, (Snapshot.channel_eq_ok decoded').2.1] at known
    cases h
    cases h'
    rw [Except.ok.inj known]
  | probe c =>
    have probe : (s.vertical.get c).probe = (t.vertical.get c).probe := bne_eq_false_iff_eq.mp same
    obtain ⟨channel, decoded, h⟩ := bind_eq_ok_iff.mp hs
    obtain ⟨channel', decoded', h'⟩ := bind_eq_ok_iff.mp ht
    have known := (Snapshot.channel_eq_ok decoded).2.2.1
    rw [probe, (Snapshot.channel_eq_ok decoded').2.2.1] at known
    cases h
    cases h'
    rw [Except.ok.inj known]
  | triggerLevel =>
    have level : s.trigger.level = t.trigger.level := bne_eq_false_iff_eq.mp same
    obtain ⟨here, triggers, rfl⟩ := Snapshot.describe_triggerLevel_eq_ok hs
    obtain ⟨there, triggers', rfl⟩ := Snapshot.describe_triggerLevel_eq_ok ht
    obtain ⟨scale, offset⟩ := alike here triggers there triggers'
    rw [level, scale, offset]
  | menu =>
    have visible : s.menuVisible = t.menuVisible :=
      congrArg (fun shown => shown != 0) (bne_eq_false_iff_eq.mp same)
    have value (u : Snapshot) : u.describe menu.setting =
        .ok (.integer (if u.menuVisible then 16 else 20)) := rfl
    exact congr (by rw [value, value, visible])
  | _ =>
    simp only [differs, Bool.or_eq_false_iff, bne_eq_false_iff_eq] at same
    refine congr ?_
    simp only [setting, Snapshot.describe, Snapshot.describeDevice, Snapshot.describeChannel,
      Snapshot.channelEnabled, Snapshot.triggerSource, Snapshot.triggerSlope,
      Snapshot.triggerPosition, Snapshot.windowTimebase, Snapshot.memoryDepth, Snapshot.averaging,
      Snapshot.averageCount, same]

end Group

end Oscilloscope
