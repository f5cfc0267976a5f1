/- When a setting can be described. Its value is made from registers that are looked at in order,
   and there is none if one of them holds a code outside of its table: the first of these is named.
   -/

import Oscilloscope.Proofs.Acquisition.Described

set_option autoImplicit false
set_option relaxedAutoImplicit false

namespace Oscilloscope

/-- Whether the registers decide the value of a key. -/
def Key.inRegisters : Key → Bool
  | .device .connection | .device .verticalDivisions | .device (.limit _) => false
  | _ => true

def CodedRegister.codes : CodedRegister → List UInt8
  | .range => [0, 1, 2, 3, 4, 5, 6, 7, 8, 9, 10]
  | .coupling => [0, 1, 2]
  | .probe => [0, 1, 2, 3]
  | .triggerSource => [0, 1, 2, 3, 4]
  | .triggerSlope => [0, 1, 2]
  | .mainTimebase | .windowTimebase => (List.range 32).map UInt8.ofNat
  | .memoryDepth => [0, 4, 6, 7]
  | .acquireMode => [0, 1, 2]
  | .averageCount => [0, 1, 2, 3, 4, 5]

structure HeldCode where
  register : CodedRegister
  code : UInt8
  deriving DecidableEq

def HeldCode.known (h : HeldCode) : Bool :=
  h.register.codes.contains h.code

/-- The coded registers of a channel, in the order in which they are decoded. -/
def VerticalRegisters.coded (r : VerticalRegisters) : List HeldCode :=
  [⟨.range, r.range⟩, ⟨.coupling, r.coupling⟩, ⟨.probe, r.probe⟩]

/-- The coded registers of the channel that the trigger source names, if it names one. -/
def Snapshot.sourceCoded (s : Snapshot) : List HeldCode :=
  if s.trigger.source = 0 then s.vertical.ch1.coded
  else if s.trigger.source = 1 then s.vertical.ch2.coded
  else []

/-- The coded registers that the value of a setting depends on, in the order in which they are
looked at. -/
def Snapshot.looksAt (s : Snapshot) : Setting → List HeldCode
  | .device .timebase => [⟨.windowTimebase, s.horizontal.windowTimebase⟩]
  | .device .sampleRate =>
    [⟨.windowTimebase, s.horizontal.windowTimebase⟩, ⟨.memoryDepth, s.acquire.memoryDepth⟩]
  | .device .triggerSource => [⟨.triggerSource, s.trigger.source⟩]
  | .device .triggerSlope => [⟨.triggerSlope, s.trigger.detail.edgeSlope⟩]
  | .device .triggerLevel => ⟨.triggerSource, s.trigger.source⟩ :: s.sourceCoded
  | .device .memoryDepth => [⟨.memoryDepth, s.acquire.memoryDepth⟩]
  | .device .averageCount => [⟨.averageCount, s.acquire.averageCount⟩]
  | .channel .range c | .channel .coupling c | .channel .probe c => (s.vertical.get c).coded
  | _ => []

def Snapshot.triggersBeside (s : Snapshot) : Prop :=
  s.trigger.source ∈ [2, 3, 4]

/-- Work that looks at the registers `looked`: it fails at the first unknown code, and for nothing
else. -/
def Inspects {α : Type} (x : Except Fault α) (looked : List HeldCode) : Prop :=
  match looked.find? fun h => !h.known with
  | some h => x = .error (.unknownCode h.register h.code)
  | none => ∃ a, x = .ok a

section Inspects

variable {α β : Type} {x : Except Fault α} {f : α → Except Fault β} {looked later : List HeldCode}
  {register : CodedRegister} {code : UInt8}

private theorem inspects_ok (a : α) : Inspects (.ok a) [] :=
  ⟨a, rfl⟩

theorem inspects_register [CodeTable α]
    (table : register.codes = (CodeTable.all : List α).map CodeTable.code) (code : UInt8) :
    Inspects (decodeRegister register code : Except Fault α) [⟨register, code⟩] := by
  have known : HeldCode.known ⟨register, code⟩ = true ↔
      ∃ a : α, CodeTable.ofCode? code = some a := by
    rw [HeldCode.known, List.contains_iff_mem, table, List.mem_map]
    constructor
    · rintro ⟨a, -, rfl⟩
      exact ⟨a, CodeTable.ofCode?_code a⟩
    · rintro ⟨a, found⟩
      exact ⟨a, CodeTable.mem_all a, CodeTable.code_of_ofCode? found⟩
  rw [Inspects, decodeRegister]
  cases found : (CodeTable.ofCode? code : Option α) with
  | some a =>
    rw [List.find?_cons_of_neg (by simp [known.mpr ⟨a, found⟩])]
    exact ⟨a, rfl⟩
  | none =>
    have unknown : HeldCode.known ⟨register, code⟩ = false := by
      rw [← Bool.not_eq_true, known, found]
      simp
    rw [List.find?_cons_of_pos (by simp [unknown])]

private theorem Inspects.bind (hx : Inspects x looked)
    (hf : ∀ a, x = .ok a → Inspects (f a) later) :
    Inspects (x >>= f) (looked ++ later) := by
  rw [Inspects, List.find?_append]
  rw [Inspects] at hx
  cases first : looked.find? fun h => !h.known with
  | some h =>
    rw [first] at hx
    rw [hx]
    rfl
  | none =>
    rw [first] at hx
    obtain ⟨a, rfl⟩ := hx
    exact hf a rfl

private theorem Inspects.map (hx : Inspects x looked) (g : α → β) :
    Inspects (x >>= fun a => .ok (g a)) looked := by
  have mapped := hx.bind (f := fun a => .ok (g a)) fun a _ => inspects_ok (g a)
  rwa [List.append_nil] at mapped

private theorem Inspects.unknownCode_iff (hx : Inspects x looked) :
    x = .error (.unknownCode register code) ↔
      looked.find? (fun h => !h.known) = some ⟨register, code⟩ := by
  rw [Inspects] at hx
  cases first : looked.find? fun h => !h.known with
  | some h =>
    rw [first] at hx
    obtain ⟨heldIn, held⟩ := h
    rw [hx]
    simp
  | none =>
    rw [first] at hx
    obtain ⟨a, rfl⟩ := hx
    simp

private theorem Inspects.exists_unknownCode_iff (hx : Inspects x looked) :
    (∃ register code, x = .error (.unknownCode register code)) ↔
      ∃ h ∈ looked, h.known = false := by
  constructor
  · rintro ⟨register, code, fails⟩
    have first := hx.unknownCode_iff.mp fails
    have unknown := List.find?_some first
    exact ⟨_, List.mem_of_find?_eq_some first, (Bool.not_eq_true' _).mp unknown⟩
  · rintro ⟨h, hmem, unknown⟩
    have some : (looked.find? fun h => !h.known).isSome :=
      List.find?_isSome.mpr ⟨h, hmem, (Bool.not_eq_true' _).mpr unknown⟩
    obtain ⟨first, found⟩ := Option.isSome_iff_exists.mp some
    exact ⟨first.register, first.code, hx.unknownCode_iff.mpr found⟩

private theorem Inspects.ne_notApplicable (hx : Inspects x looked) (key : Key) :
    x ≠ .error (.notApplicable key) := by
  rw [Inspects] at hx
  split at hx
  · rw [hx]
    simp
  · obtain ⟨a, rfl⟩ := hx
    simp

theorem Inspects.ok_iff (hx : Inspects x looked) :
    (∃ a, x = .ok a) ↔ ∀ h ∈ looked, h.known = true := by
  have all : (∀ h ∈ looked, h.known = true) ↔ looked.find? (fun h => !h.known) = none := by
    simp [List.find?_eq_none]
  rw [all]
  rw [Inspects] at hx
  cases first : looked.find? fun h => !h.known with
  | some h =>
    rw [first] at hx
    rw [hx]
    simp
  | none =>
    rw [first] at hx
    simp [hx]

end Inspects

namespace Snapshot

variable {s : Snapshot} {x : Setting}

theorem channel_inspects (s : Snapshot) (c : ChannelId) :
    Inspects (s.channel c) (s.vertical.get c).coded := by
  have range :
      CodedRegister.codes .range = (CodeTable.all : List VerticalRange).map CodeTable.code := rfl
  have coupling :
      CodedRegister.codes .coupling = (CodeTable.all : List Coupling).map CodeTable.code := rfl
  have probe : CodedRegister.codes .probe = (CodeTable.all : List Probe).map CodeTable.code := rfl
  refine (inspects_register range _).bind fun _ _ => ?_
  refine (inspects_register coupling _).bind fun _ _ => ?_
  exact (inspects_register probe _).map _

private theorem windowTimebase_inspects (s : Snapshot) :
    Inspects s.windowTimebase [⟨.windowTimebase, s.horizontal.windowTimebase⟩] := by
  refine inspects_register ?_ _
  decide

theorem memoryDepth_inspects (s : Snapshot) :
    Inspects s.memoryDepth [⟨.memoryDepth, s.acquire.memoryDepth⟩] :=
  inspects_register rfl _

private theorem triggerSource_inspects (s : Snapshot) :
    Inspects s.triggerSource [⟨.triggerSource, s.trigger.source⟩] :=
  inspects_register rfl _

private theorem sourced_or_beside {source : TriggerSource} (known : s.triggerSource = .ok source) :
    (s.trigger.source = 0 ∧ source.channel? = some .ch1) ∨
      (s.trigger.source = 1 ∧ source.channel? = some .ch2) ∨
      (s.triggersBeside ∧ source.channel? = none) := by
  have code : s.trigger.source = CodeTable.code source := (code_of_decodeRegister known).symm
  rw [triggersBeside, code]
  cases source with
  | ch1 => exact .inl ⟨rfl, rfl⟩
  | ch2 => exact .inr (.inl ⟨rfl, rfl⟩)
  | external | externalFifth | mains => exact .inr (.inr ⟨by decide, rfl⟩)

private theorem triggerLevel_inspects (scaled : ¬ s.triggersBeside) :
    Inspects s.triggerLevel (s.looksAt (.device .triggerLevel)) := by
  show Inspects s.triggerLevel ([⟨.triggerSource, s.trigger.source⟩] ++ s.sourceCoded)
  refine s.triggerSource_inspects.bind fun source known => ?_
  obtain ⟨code, sourced⟩ | ⟨code, sourced⟩ | ⟨beside, -⟩ := sourced_or_beside known
  · rw [sourced, sourceCoded, if_pos code]
    exact (s.channel_inspects .ch1).map _
  · have second : ¬ s.trigger.source = 0 := by rw [code]; decide
    rw [sourced, sourceCoded, if_neg second, if_pos code]
    exact (s.channel_inspects .ch2).map _
  · exact absurd beside scaled

private theorem describe_inspects (held : x.key.inRegisters = true)
    (scaled : ¬ (x = .device .triggerLevel ∧ s.triggersBeside)) :
    Inspects (s.describe x) (s.looksAt x) := by
  cases x with
  | channel k c =>
    cases k with
    | enabled | filter => exact inspects_ok _
    | range | coupling | probe => exact (s.channel_inspects c).map _
  | device k =>
    cases k with
    | connection | limit | verticalDivisions => cases held
    | horizontalDivisions | triggerPosition | averaging => exact inspects_ok _
    | timebase => exact s.windowTimebase_inspects.map _
    | sampleRate =>
      refine Inspects.map (s.windowTimebase_inspects.bind fun _ _ => ?_) _
      exact s.memoryDepth_inspects.map _
    | triggerSource => exact s.triggerSource_inspects.map _
    | triggerSlope =>
      have table : CodedRegister.codes .triggerSlope =
          (CodeTable.all : List TriggerSlope).map CodeTable.code := rfl
      exact (inspects_register table _).map _
    | triggerLevel => exact (triggerLevel_inspects fun beside => scaled ⟨rfl, beside⟩).map _
    | memoryDepth => exact s.memoryDepth_inspects.map _
    | averageCount =>
      have table : CodedRegister.codes .averageCount =
          (CodeTable.all : List AverageCount).map CodeTable.code := rfl
      exact (inspects_register table _).map _

private theorem describe_triggerLevel_beside (beside : s.triggersBeside) :
    s.describe (.device .triggerLevel) = .error (.notApplicable (.device .triggerLevel)) ∧
      s.looksAt (.device .triggerLevel) = [⟨.triggerSource, s.trigger.source⟩] ∧
      HeldCode.known ⟨.triggerSource, s.trigger.source⟩ = true := by
  have code : s.trigger.source = 2 ∨ s.trigger.source = 3 ∨ s.trigger.source = 4 := by
    simpa [triggersBeside] using beside
  obtain ⟨first, second, known⟩ : s.trigger.source ≠ 0 ∧ s.trigger.source ≠ 1 ∧
      HeldCode.known ⟨.triggerSource, s.trigger.source⟩ = true := by
    rcases code with code | code | code
    · rw [code]
      decide
    · rw [code]
      decide
    · rw [code]
      decide
  have single : s.sourceCoded = [] := by rw [sourceCoded, if_neg first, if_neg second]
  refine ⟨?_, by rw [looksAt, single], known⟩
  obtain ⟨source, decoded⟩ := s.triggerSource_inspects.ok_iff.mpr (by simpa using known)
  obtain ⟨code, -⟩ | ⟨code, -⟩ | ⟨-, sourced⟩ := sourced_or_beside decoded
  · exact absurd code first
  · exact absurd code second
  · rw [describe, describeDevice, triggerLevel_of_no_channel decoded sourced]
    rfl

/-- When a setting that registers hold can be described: unless one of the registers it looks at
holds a code outside of its table, the first of which is then named, or it is the trigger level of a
source that is no channel. -/
theorem describe_outcomes (s : Snapshot) (x : Setting) (held : x.key.inRegisters = true) :
    (∀ register code, s.describe x = .error (.unknownCode register code) ↔
        (s.looksAt x).find? (fun h => !h.known) = some ⟨register, code⟩) ∧
      ((∃ register code, s.describe x = .error (.unknownCode register code)) ↔
        ∃ h ∈ s.looksAt x, h.known = false) ∧
      (∀ key, s.describe x = .error (.notApplicable key) ↔
        x = .device .triggerLevel ∧ s.triggersBeside ∧ key = x.key) ∧
      ((∃ v, s.describe x = .ok v) ↔
        (∀ h ∈ s.looksAt x, h.known = true) ∧
          ¬ (x = .device .triggerLevel ∧ s.triggersBeside)) := by
  by_cases unscaled : x = .device .triggerLevel ∧ s.triggersBeside
  · obtain ⟨rfl, beside⟩ := unscaled
    obtain ⟨fails, looked, known⟩ := describe_triggerLevel_beside beside
    rw [fails, looked]
    refine ⟨?_, ?_, fun key => ?_, ?_⟩
    · simp [known]
    · simp [known]
    · simp [beside, Setting.key, eq_comm]
    · simp [beside]
  · have inspects := describe_inspects held unscaled
    refine ⟨fun _ _ => inspects.unknownCode_iff, inspects.exists_unknownCode_iff, fun key => ?_, ?_⟩
    · refine iff_of_false (inspects.ne_notApplicable key) ?_
      rintro ⟨level, beside, -⟩
      exact unscaled ⟨level, beside⟩
    · rw [inspects.ok_iff]
      exact (and_iff_left unscaled).symm

theorem describe_outcomes_of_coupling :
    let s : Snapshot :=
      { zero.setVertical .ch2 fun r => { r with coupling := 9, probe := 200 } with
        trigger := { zero.trigger with source := 1 } }
    (Setting.device .triggerLevel).key.inRegisters = true ∧
      s.describe (.device .triggerLevel) = .error (.unknownCode .coupling 9) := by
  intro s
  obtain ⟨unknownCode, -⟩ := describe_outcomes s (.device .triggerLevel) rfl
  exact ⟨rfl, (unknownCode .coupling 9).mpr rfl⟩

end Snapshot

end Oscilloscope
