/- Putting a setting and getting it back. What is described after a setting was applied is the value
   that was put, and applying it once more changes nothing. -/

import Oscilloscope.Proofs.Acquisition.Described
import Oscilloscope.Proofs.Ratio.Value
import Oscilloscope.Proofs.Setting.OwnBytes
import Oscilloscope.Proofs.Setting.UsableDepth

set_option autoImplicit false
set_option relaxedAutoImplicit false

namespace Oscilloscope

/-- Values that mean the same: two fractions of one number, or twice the same value. -/
inductive Value.Agrees : Value → Value → Prop
  | same (v : Value) : Agrees v v
  | rational {a b : Ratio} (left : a.den ≠ 0) (right : b.den ≠ 0)
      (equal : a.rational = b.rational) : Agrees (.ratio a) (.ratio b)

/-- The coded registers of a channel that hold a code outside of their table, with that code. -/
inductive VerticalRegisters.Lacks (r : VerticalRegisters) : CodedRegister → UInt8 → Prop
  | range (unknown : (CodeTable.ofCode? r.range : Option VerticalRange) = none) :
      Lacks r .range r.range
  | coupling (unknown : (CodeTable.ofCode? r.coupling : Option Coupling) = none) :
      Lacks r .coupling r.coupling
  | probe (unknown : (CodeTable.ofCode? r.probe : Option Probe) = none) : Lacks r .probe r.probe

/-- The coded register behind a setting of a channel. -/
def ChannelKey.coded? : ChannelKey → Option CodedRegister
  | .range => some .range
  | .coupling => some .coupling
  | .probe => some .probe
  | .enabled | .filter => none

namespace Snapshot

/-- A setting with a coded register cannot be described as long as another coded register of its
channel holds an unknown code. -/
inductive Obscures (s : Snapshot) (register : CodedRegister) (code : UInt8) : Setting → Prop
  | intro {k : ChannelKey} {c : ChannelId} {own : CodedRegister} (coded : k.coded? = some own)
      (another : register ≠ own) (lacks : (s.vertical.get c).Lacks register code) :
      Obscures s register code (.channel k c)

variable {s t : Snapshot} {v : Value} {x : Setting} {k : ChannelKey} {c : ChannelId}
  {own register : CodedRegister} {code : UInt8}

section Decoding

variable {α : Type} [CodeTable α]

theorem decodeRegister_of_unknown (unknown : (CodeTable.ofCode? code : Option α) = none) :
    (decodeRegister register code : Except Fault α) = .error (.unknownCode register code) := by
  rw [decodeRegister, unknown]

theorem decodeRegister_eq_ok_or (register : CodedRegister) (code : UInt8) :
    (∃ a : α, decodeRegister register code = .ok a) ∨
      (CodeTable.ofCode? code : Option α) = none := by
  cases found : (CodeTable.ofCode? code : Option α) with
  | none => exact .inr rfl
  | some a =>
    refine .inl ⟨a, ?_⟩
    rw [decodeRegister, found]

private theorem known_of_decodeRegister {a : α} (h : decodeRegister register code = .ok a) :
    (CodeTable.ofCode? code : Option α) ≠ none := by
  intro unknown
  rw [decodeRegister_of_unknown unknown] at h
  cases h

end Decoding

private theorem channel_eq_ok_or (s : Snapshot) (c : ChannelId) :
    (∃ channel, s.channel c = .ok channel) ∨
      ∃ register code, (s.vertical.get c).Lacks register code ∧
        s.channel c = .error (.unknownCode register code) := by
  unfold channel Channel.ofRegisters
  obtain ⟨range, hrange⟩ | unknown :=
    decodeRegister_eq_ok_or (α := VerticalRange) .range (s.vertical.get c).range
  · rw [hrange]
    obtain ⟨coupling, hcoupling⟩ | unknown :=
      decodeRegister_eq_ok_or (α := Coupling) .coupling (s.vertical.get c).coupling
    · rw [hcoupling]
      obtain ⟨probe, hprobe⟩ | unknown :=
        decodeRegister_eq_ok_or (α := Probe) .probe (s.vertical.get c).probe
      · rw [hprobe]
        exact .inl ⟨_, rfl⟩
      · exact .inr ⟨_, _, .probe unknown, by rw [decodeRegister_of_unknown unknown]; rfl⟩
    · exact .inr ⟨_, _, .coupling unknown, by rw [decodeRegister_of_unknown unknown]; rfl⟩
  · exact .inr ⟨_, _, .range unknown, by rw [decodeRegister_of_unknown unknown]; rfl⟩

private theorem not_lacks_of_channel {channel : Channel} (h : s.channel c = .ok channel) :
    ¬ (s.vertical.get c).Lacks register code := by
  obtain ⟨range, coupling, probe, -⟩ := channel_eq_ok h
  rintro (unknown | unknown | unknown)
  · exact known_of_decodeRegister range unknown
  · exact known_of_decodeRegister coupling unknown
  · exact known_of_decodeRegister probe unknown

private theorem describe_of_channel_error {fault : Fault} (coded : k.coded? = some own)
    (fails : s.channel c = .error fault) : s.describe (.channel k c) = .error fault := by
  cases k with
  | range | coupling | probe =>
    change s.channel c >>= _ = _
    rw [fails]
    rfl
  | enabled | filter => cases coded

private theorem Applied.lacks_iff (h : Applied s v (.channel k c) t) (coded : k.coded? = some own) :
    (t.vertical.get c).Lacks register code ↔
      register ≠ own ∧ (s.vertical.get c).Lacks register code := by
  have known {α : Type} [CodeTable α] (a : α) :
      (CodeTable.ofCode? (CodeTable.code a) : Option α) ≠ none := by
    rw [CodeTable.ofCode?_code]
    exact Option.some_ne_none a
  cases h with
  | enabled | filter => cases coded
  | @range _ _ range =>
    cases coded
    rw [setVertical, PerChannel.get_set_self]
    constructor
    · rintro (unknown | unknown | unknown)
      · exact absurd unknown (known range)
      · exact ⟨by decide, .coupling unknown⟩
      · exact ⟨by decide, .probe unknown⟩
    · rintro ⟨another, unknown | unknown | unknown⟩
      · exact absurd rfl another
      · exact .coupling unknown
      · exact .probe unknown
  | @coupling _ coupling =>
    cases coded
    rw [setVertical, PerChannel.get_set_self]
    constructor
    · rintro (unknown | unknown | unknown)
      · exact ⟨by decide, .range unknown⟩
      · exact absurd unknown (known coupling)
      · exact ⟨by decide, .probe unknown⟩
    · rintro ⟨another, unknown | unknown | unknown⟩
      · exact .range unknown
      · exact absurd rfl another
      · exact .probe unknown
  | @probe _ probe =>
    cases coded
    rw [setVertical, PerChannel.get_set_self]
    constructor
    · rintro (unknown | unknown | unknown)
      · exact ⟨by decide, .range unknown⟩
      · exact ⟨by decide, .coupling unknown⟩
      · exact absurd unknown (known probe)
    · rintro ⟨another, unknown | unknown | unknown⟩
      · exact .range unknown
      · exact .coupling unknown
      · exact absurd rfl another

private theorem setVertical_again {change : VerticalRegisters → VerticalRegisters}
    (same : ∀ r, change (change r) = change r) :
    (s.setVertical c change).setVertical c change = s.setVertical c change := by
  rw [setVertical, setVertical, PerChannel.get_set_self, same]
  cases c <;> rfl

private theorem fittingDepth?_again {tb : Timebase} {both : Bool} {depth fitting : MemoryDepth}
    (fits : fittingDepth? tb both depth = some fitting) :
    fittingDepth? tb both fitting = some fitting :=
  fittingDepth?_of_rate (rate_of_fittingDepth? fits)

private theorem Applied.again (h : Applied s v x t) : Applied t v x t := by
  have channel {k : ChannelKey} {c : ChannelId} {change : VerticalRegisters → VerticalRegisters}
      (same : ∀ r, change (change r) = change r)
      (h : Applied (s.setVertical c change) v (.channel k c)
        ((s.setVertical c change).setVertical c change)) :
      Applied (s.setVertical c change) v (.channel k c) (s.setVertical c change) := by
    rwa [setVertical_again same] at h
  cases h with
  | enabled c taken => exact channel (fun _ => rfl) (.enabled c taken)
  | filter c taken => exact channel (fun _ => rfl) (.filter c taken)
  | range c known taken =>
    refine channel (fun _ => rfl) (.range c ?_ taken)
    rw [setVertical, PerChannel.get_set_self]
    exact known
  | coupling c taken => exact channel (fun _ => rfl) (.coupling c taken)
  | probe c taken => exact channel (fun _ => rfl) (.probe c taken)
  | timebase taken known fits =>
    exact .timebase taken (decodeRegister_code .memoryDepth _) (fittingDepth?_again fits)
  | triggerSource taken => exact .triggerSource taken
  | triggerSlope taken => exact .triggerSlope taken
  | triggerLevel taken known sourced decoded => exact .triggerLevel taken known sourced decoded
  | triggerPosition taken => exact .triggerPosition taken
  | memoryDepth taken => exact .memoryDepth taken
  | averaging taken => exact .averaging taken
  | averageCount taken => exact .averageCount taken

section Looked

variable {α : Type}

theorem flag_of_taken {on : Bool} (taken : v.flag? = some on) : v = .flag on := by
  cases v with
  | flag => cases taken; rfl
  | _ => cases taken

theorem natural_of_taken {find : UInt64 → Option α} {a : α}
    (taken : v.natural?.bind find = some a) : ∃ n, v = .natural n ∧ find n = some a := by
  cases v with
  | natural n => exact ⟨n, rfl, taken⟩
  | _ => cases taken

theorem text_of_taken {find : String → Option α} {a : α}
    (taken : v.text?.bind find = some a) : ∃ text, v = .text text ∧ find text = some a := by
  cases v with
  | text text => exact ⟨text, rfl, taken⟩
  | _ => cases taken

theorem ratio_of_taken {find : Ratio → Option α} {a : α}
    (taken : v.ratio?.bind find = some a) : ∃ r, v = .ratio r ∧ find r = some a := by
  cases v with
  | ratio r => exact ⟨r, rfl, taken⟩
  | _ => cases taken

theorem name_of_taken [CodeTable α] {a : α} (taken : v.text?.bind CodeTable.ofName? = some a) :
    v = .text (CodeTable.name a) := by
  obtain ⟨text, rfl, found⟩ := text_of_taken taken
  rw [CodeTable.name_of_ofName? found]

theorem number_of_taken {rows : List α} {number : α → UInt64} {a : α}
    (taken : (v.natural?.bind fun n => rows.find? fun b => number b == n) = some a) :
    v = .natural (number a) := by
  obtain ⟨n, rfl, found⟩ := natural_of_taken taken
  have same := List.find?_some found
  rw [beq_iff_eq.mp same]

theorem agrees_of_taken {rows : List α} (fraction : α → Ratio) {a : α}
    (proper : ∀ r, v = .ratio r → r.den ≠ 0) (whole : (fraction a).den ≠ 0)
    (taken : (v.ratio?.bind fun r => rows.find? fun b => (fraction b).sameValue r) = some a) :
    Value.Agrees (.ratio (fraction a)) v := by
  obtain ⟨r, rfl, found⟩ := ratio_of_taken taken
  have same := List.find?_some found
  have divisor := proper r rfl
  exact .rational whole divisor ((Ratio.rational_eq_iff whole divisor).mpr same)

end Looked

theorem den_windowDivision (tb : Timebase) : tb.windowDivision.den ≠ 0 := by
  have all : ∀ i : Fin 32, (Timebase.windowDivision ⟨i⟩).den ≠ 0 := by decide
  exact all tb.index

theorem den_voltsPerDivision (probe : Probe) (range : VerticalRange) :
    (voltsPerDivision probe range).den ≠ 0 := by
  cases probe <;> cases range <;> decide

private theorem flagByte_bne_zero (on : Bool) : (flagByte on != 0) = on := by
  cases on <;> rfl

private theorem Applied.channel_eq_ok (h : Applied s v (.channel k c) t)
    (coded : k.coded? = some own)
    (clear : ∀ register code, ¬ s.Obscures register code (.channel k c)) :
    ∃ channel, t.channel c = .ok channel := by
  obtain decoded | ⟨register, code, lacks, -⟩ := t.channel_eq_ok_or c
  · exact decoded
  · obtain ⟨another, lacks⟩ := (h.lacks_iff coded).mp lacks
    exact absurd (.intro coded another lacks) (clear register code)

private theorem Applied.obscured (h : Applied s v x t) (obscures : s.Obscures register code x) :
    ∃ register code, s.Obscures register code x ∧
      t.describe x = .error (.unknownCode register code) := by
  cases obscures with
  | @intro k c own coded another lacks =>
    obtain ⟨channel, decoded⟩ | ⟨register', code', lacks', fails⟩ := t.channel_eq_ok_or c
    · exact absurd ((h.lacks_iff coded).mpr ⟨another, lacks⟩) (not_lacks_of_channel decoded)
    · obtain ⟨another', lacks'⟩ := (h.lacks_iff coded).mp lacks'
      exact ⟨register', code', .intro coded another' lacks', describe_of_channel_error coded fails⟩

private theorem Applied.gets (h : Applied s v x t) (level : x ≠ .device .triggerLevel)
    (position : x ≠ .device .triggerPosition) (proper : ∀ r, v = .ratio r → r.den ≠ 0)
    (clear : ∀ register code, ¬ s.Obscures register code x) :
    ∃ w, t.describe x = .ok w ∧ w.Agrees v := by
  have described {w : Value} (describes : t.describe x = .ok w) (same : v = w) :
      ∃ w, t.describe x = .ok w ∧ w.Agrees v := ⟨w, describes, same ▸ .same w⟩
  have applied := h
  cases h with
  | @enabled c on taken =>
    have shown := channelEnabled_setVertical_self s c fun r => { r with shown := flagByte on }
    rw [flagByte_bne_zero] at shown
    refine described (w := .flag on) ?_ (flag_of_taken taken)
    rw [describe, describeChannel, shown]
  | @filter c on taken =>
    have filter : (((s.setVertical c fun r => { r with filter := flagByte on }).vertical.get
        c).filter != 0) = on := by
      rw [setVertical, PerChannel.get_set_self, flagByte_bne_zero]
    refine described (w := .flag on) ?_ (flag_of_taken taken)
    rw [describe, describeChannel, filter]
  | @range c probe range known taken =>
    obtain ⟨channel, decoded⟩ := applied.channel_eq_ok rfl clear
    obtain ⟨hrange, -, hprobe, -⟩ := Snapshot.channel_eq_ok decoded
    rw [setVertical, PerChannel.get_set_self] at hrange hprobe
    cases (decodeRegister_code .range range).symm.trans hrange
    cases known.symm.trans hprobe
    exact ⟨_, bind_eq_ok_iff.mpr ⟨channel, decoded, rfl⟩,
      agrees_of_taken (voltsPerDivision channel.probe) proper (den_voltsPerDivision _ _) taken⟩
  | @coupling c coupling taken =>
    obtain ⟨channel, decoded⟩ := applied.channel_eq_ok rfl clear
    obtain ⟨-, hcoupling, -⟩ := Snapshot.channel_eq_ok decoded
    rw [setVertical, PerChannel.get_set_self] at hcoupling
    cases (decodeRegister_code .coupling coupling).symm.trans hcoupling
    exact described (bind_eq_ok_iff.mpr ⟨channel, decoded, rfl⟩) (name_of_taken taken)
  | @probe c probe taken =>
    obtain ⟨channel, decoded⟩ := applied.channel_eq_ok rfl clear
    obtain ⟨-, -, hprobe, -⟩ := Snapshot.channel_eq_ok decoded
    rw [setVertical, PerChannel.get_set_self] at hprobe
    cases (decodeRegister_code .probe probe).symm.trans hprobe
    exact described (bind_eq_ok_iff.mpr ⟨channel, decoded, rfl⟩) (number_of_taken taken)
  | @timebase tb depth fitting taken =>
    exact ⟨_, bind_eq_ok_iff.mpr ⟨tb, decodeRegister_code _ tb, rfl⟩,
      agrees_of_taken Timebase.windowDivision proper (den_windowDivision tb) taken⟩
  | @triggerSource source taken =>
    exact described (bind_eq_ok_iff.mpr ⟨source, decodeRegister_code _ source, rfl⟩)
      (name_of_taken taken)
  | @triggerSlope slope taken =>
    exact described (bind_eq_ok_iff.mpr ⟨slope, decodeRegister_code _ slope, rfl⟩)
      (name_of_taken taken)
  | triggerLevel => exact absurd rfl level
  | triggerPosition => exact absurd rfl position
  | @memoryDepth depth taken =>
    exact described (bind_eq_ok_iff.mpr ⟨depth, decodeRegister_code _ depth, rfl⟩)
      (number_of_taken taken)
  | @averaging on taken =>
    refine described (w := .flag on) ?_ (flag_of_taken taken)
    cases on <;> rfl
  | @averageCount count taken =>
    exact described (bind_eq_ok_iff.mpr ⟨count, decodeRegister_code _ count, rfl⟩)
      (number_of_taken taken)

/-- A setting that registers hold is described as it was put, unless an unknown code of the same
channel obscures it, which is then what is complained about; putting it again changes nothing.
Trigger level and position are left out, as they are rounded to what a register can hold. -/
theorem describe_apply (level : x ≠ .device .triggerLevel)
    (position : x ≠ .device .triggerPosition) (proper : ∀ r, v = .ratio r → r.den ≠ 0)
    (put : s.apply x v = .ok t) :
    ((∀ register code, ¬ s.Obscures register code x) →
        ∃ w, t.describe x = .ok w ∧ w.Agrees v) ∧
      ((∃ register code, s.Obscures register code x) →
        ∃ register code, s.Obscures register code x ∧
          t.describe x = .error (.unknownCode register code)) ∧
      t.apply x v = .ok t := by
  have applied := apply_eq_ok_iff.mp put
  refine ⟨applied.gets level position proper, ?_, apply_of_applied applied.again⟩
  rintro ⟨register, code, obscures⟩
  exact applied.obscured obscures

theorem describe_apply_four_halves :
    let halves : Value := .ratio ⟨4, 2⟩
    let put := zero.setVertical .ch1 fun r => { r with range := 9 }
    zero.apply (.channel .range .ch1) halves = .ok put ∧
      (∃ w, put.describe (.channel .range .ch1) = .ok w ∧ w.Agrees halves) ∧
      put.describe (.channel .range .ch1) = .ok (.ratio ⟨2, 1⟩) ∧
      put.apply (.channel .range .ch1) halves = .ok put := by
  intro halves put
  have applied : zero.apply (.channel .range .ch1) halves = .ok put := rfl
  have proper : ∀ r, halves = .ratio r → r.den ≠ 0 := by
    intro r h
    rw [← Value.ratio.inj h]
    decide
  obtain ⟨gets, -, again⟩ := describe_apply (by decide) (by decide) proper applied
  have describes : put.describe (.channel .range .ch1) =
      .ok (.ratio (voltsPerDivision .x1 .v2)) := rfl
  have two : voltsPerDivision .x1 .v2 = ⟨2, 1⟩ := by decide
  rw [two] at describes
  refine ⟨applied, gets fun register code obscures => ?_, describes, again⟩
  obtain ⟨_, _, lacks⟩ := obscures
  exact not_lacks_of_channel rfl lacks

end Snapshot

end Oscilloscope
