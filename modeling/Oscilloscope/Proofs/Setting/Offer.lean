/- Settings that are chosen from a menu. What is listed for such a setting, what is taken for it,
   what is put in its register and what is described of it all go by the rows of one table. -/

import Oscilloscope.Proofs.Setting.Describe
import Oscilloscope.Proofs.Setting.Menu
import Oscilloscope.Setting.Choices

set_option autoImplicit false
set_option relaxedAutoImplicit false

namespace Oscilloscope

def Value.items : Value → List Value
  | .texts items => items.map .text
  | .naturals items => items.map .natural
  | .ratios items => items.map .ratio
  | _ => []

namespace Snapshot

/-- The register in which the code of a choice stands. -/
def chosen? (s : Snapshot) : Setting → Option HeldCode
  | .device .timebase => some ⟨.windowTimebase, s.horizontal.windowTimebase⟩
  | .device .triggerSource => some ⟨.triggerSource, s.trigger.source⟩
  | .device .triggerSlope => some ⟨.triggerSlope, s.trigger.detail.edgeSlope⟩
  | .device .memoryDepth => some ⟨.memoryDepth, s.acquire.memoryDepth⟩
  | .device .averageCount => some ⟨.averageCount, s.acquire.averageCount⟩
  | .channel .range c => some ⟨.range, (s.vertical.get c).range⟩
  | .channel .coupling c => some ⟨.coupling, (s.vertical.get c).coupling⟩
  | .channel .probe c => some ⟨.probe, (s.vertical.get c).probe⟩
  | _ => none

/-- The registers that a choice depends on beside its own hold known codes: a range is chosen by the
probe of its channel, and a timebase moves on from the memory depth. -/
def Informed (s : Snapshot) : Setting → Prop
  | .channel .range c => HeldCode.known ⟨.probe, (s.vertical.get c).probe⟩ = true
  | .device .timebase => HeldCode.known ⟨.memoryDepth, s.acquire.memoryDepth⟩ = true
  | _ => True

/-- What a setting asks of the registers for its description to stand for them: flags that are zero
or one, a mode that is either of the two that can be chosen, and a depth with a sample rate. -/
def Restorable (s : Snapshot) : Setting → Prop
  | .channel .enabled c => (s.vertical.get c).shown = 0 ∨ (s.vertical.get c).shown = 1
  | .channel .filter c => (s.vertical.get c).filter = 0 ∨ (s.vertical.get c).filter = 1
  | .device .averaging =>
    s.acquire.mode = CodeTable.code AcquireMode.normal ∨
      s.acquire.mode = CodeTable.code AcquireMode.average
  | .device .timebase =>
    ∃ depth, s.memoryDepth = .ok depth ∧
      ∀ tb, s.windowTimebase = .ok tb → maxSampleRate tb s.bothEnabled depth ≠ 0
  | _ => True

/-- A setting that is chosen among the rows of `α` with the registers at `s`. -/
structure Offer (s : Snapshot) (x : Setting) (α : Type) [CodeTable α] where
  menu : Menu α x.key.valueKind
  register : CodedRegister
  codes : register.codes = (CodeTable.all : List α).map CodeTable.code
  put : α → Snapshot
  apply_eq (v : Value) : s.apply x v = put <$> expect x.key v (menu.taken v)
  chosen_put (a : α) : (put a).chosen? x = some ⟨register, CodeTable.code a⟩
  put_self {a : α} (restorable : s.Restorable x)
    (held : s.chosen? x = some ⟨register, CodeTable.code a⟩) : put a = s
  listed : ∃ list, s.choices x = .ok list ∧ list.items = (CodeTable.all : List α).map menu.shown
  described {v : Value} (h : s.describe x = .ok v) :
    ∃ a, v = menu.shown a ∧ s.chosen? x = some ⟨register, CodeTable.code a⟩

/-- A choice that is put by writing its code in a register and nothing else. -/
structure RegisterOffer (s : Snapshot) (x : Setting) (α : Type) [CodeTable α] where
  menu : Menu α x.key.valueKind
  register : CodedRegister
  codes : register.codes = (CodeTable.all : List α).map CodeTable.code
  code : UInt8
  chosen : s.chosen? x = some ⟨register, code⟩
  write : UInt8 → Snapshot
  write_self : write code = s
  chosen_write (code : UInt8) : (write code).chosen? x = some ⟨register, code⟩
  apply_eq (v : Value) : s.apply x v =
    expect x.key v (menu.taken v) >>= fun a => pure (write (CodeTable.code a))
  listed : ∃ list, s.choices x = .ok list ∧ list.items = (CodeTable.all : List α).map menu.shown
  described {v : Value} (h : s.describe x = .ok v) :
    ∃ a, v = menu.shown a ∧ decodeRegister register code = .ok a

variable {s : Snapshot} {x : Setting} {α : Type}

def RegisterOffer.offer [CodeTable α] (o : s.RegisterOffer x α) : s.Offer x α where
  menu := o.menu
  register := o.register
  codes := o.codes
  put a := o.write (CodeTable.code a)
  apply_eq v := (o.apply_eq v).trans (bind_pure_comp _ _)
  chosen_put a := o.chosen_write _
  put_self {a} _ held := by
    have same := Option.some.inj (o.chosen.symm.trans held)
    have code : o.code = CodeTable.code a := congrArg HeldCode.code same
    rw [← code]
    exact o.write_self
  listed := o.listed
  described h := by
    obtain ⟨a, shown, decoded⟩ := o.described h
    refine ⟨a, shown, ?_⟩
    rw [o.chosen, code_of_decodeRegister decoded]

/-! ### Offers of the instrument -/

private theorem described_of_decoded [CodeTable α] {register : CodedRegister} {code : UInt8}
    {shown : α → Value} {v : Value}
    (h : (decodeRegister register code >>= fun a => .ok (shown a)) = .ok v) :
    ∃ a, v = shown a ∧ decodeRegister register code = .ok a := by
  obtain ⟨a, decoded, described⟩ := bind_eq_ok_iff.mp h
  cases described
  exact ⟨a, rfl, decoded⟩

def offerTriggerSource (s : Snapshot) : s.Offer (.device .triggerSource) TriggerSource :=
  RegisterOffer.offer {
    menu := TriggerSource.menu
    register := .triggerSource
    codes := rfl
    code := s.trigger.source
    chosen := rfl
    write code := { s with trigger := { s.trigger with source := code } }
    write_self := rfl
    chosen_write _ := rfl
    apply_eq _ := PendingWork.outcome_bind _ _ _
    listed := ⟨_, rfl, rfl⟩
    described := described_of_decoded }

def offerTriggerSlope (s : Snapshot) : s.Offer (.device .triggerSlope) TriggerSlope :=
  RegisterOffer.offer {
    menu := TriggerSlope.menu
    register := .triggerSlope
    codes := rfl
    code := s.trigger.detail.edgeSlope
    chosen := rfl
    write code :=
      { s with trigger := { s.trigger with detail := { s.trigger.detail with edgeSlope := code } } }
    write_self := rfl
    chosen_write _ := rfl
    apply_eq _ := PendingWork.outcome_bind _ _ _
    listed := ⟨_, rfl, rfl⟩
    described := described_of_decoded }

def offerMemoryDepth (s : Snapshot) : s.Offer (.device .memoryDepth) MemoryDepth :=
  RegisterOffer.offer {
    menu := MemoryDepth.menu
    register := .memoryDepth
    codes := rfl
    code := s.acquire.memoryDepth
    chosen := rfl
    write code := { s with acquire := { s.acquire with memoryDepth := code } }
    write_self := rfl
    chosen_write _ := rfl
    apply_eq _ := PendingWork.outcome_bind _ _ _
    listed := ⟨_, rfl, rfl⟩
    described := described_of_decoded }

def offerAverageCount (s : Snapshot) : s.Offer (.device .averageCount) AverageCount :=
  RegisterOffer.offer {
    menu := AverageCount.menu
    register := .averageCount
    codes := rfl
    code := s.acquire.averageCount
    chosen := rfl
    write code := { s with acquire := { s.acquire with averageCount := code } }
    write_self := rfl
    chosen_write _ := rfl
    apply_eq _ := PendingWork.outcome_bind _ _ _
    listed := ⟨_, rfl, rfl⟩
    described := described_of_decoded }

theorem setVertical_eq_self {c : ChannelId} {change : VerticalRegisters → VerticalRegisters}
    (same : change (s.vertical.get c) = s.vertical.get c) : s.setVertical c change = s := by
  rw [setVertical, same]
  cases c <;> rfl

def offerCoupling (s : Snapshot) (c : ChannelId) : s.Offer (.channel .coupling c) Coupling :=
  RegisterOffer.offer {
    menu := Coupling.menu
    register := .coupling
    codes := rfl
    code := (s.vertical.get c).coupling
    chosen := rfl
    write code := s.setVertical c fun r => { r with coupling := code }
    write_self := setVertical_eq_self rfl
    chosen_write code := by rw [chosen?, setVertical, PerChannel.get_set_self]
    apply_eq _ := PendingWork.outcome_bind _ _ _
    listed := ⟨_, rfl, rfl⟩
    described := by
      intro v h
      obtain ⟨channel, decoded, shown⟩ := bind_eq_ok_iff.mp h
      obtain ⟨-, coupling, -⟩ := channel_eq_ok decoded
      cases shown
      exact ⟨channel.coupling, rfl, coupling⟩ }

def offerProbe (s : Snapshot) (c : ChannelId) : s.Offer (.channel .probe c) Probe :=
  RegisterOffer.offer {
    menu := Probe.menu
    register := .probe
    codes := rfl
    code := (s.vertical.get c).probe
    chosen := rfl
    write code := s.setVertical c fun r => { r with probe := code }
    write_self := setVertical_eq_self rfl
    chosen_write code := by rw [chosen?, setVertical, PerChannel.get_set_self]
    apply_eq _ := PendingWork.outcome_bind _ _ _
    listed := ⟨_, rfl, rfl⟩
    described := by
      intro v h
      obtain ⟨channel, decoded, shown⟩ := bind_eq_ok_iff.mp h
      obtain ⟨-, -, probe, -⟩ := channel_eq_ok decoded
      cases shown
      exact ⟨channel.probe, rfl, probe⟩ }

/-- The ranges are those of the probe of the channel. -/
def offerRange (s : Snapshot) (c : ChannelId) (probe : Probe)
    (known : decodeRegister .probe (s.vertical.get c).probe = .ok probe) :
    s.Offer (.channel .range c) VerticalRange :=
  RegisterOffer.offer {
    menu := VerticalRange.menu probe
    register := .range
    codes := rfl
    code := (s.vertical.get c).range
    chosen := rfl
    write code := s.setVertical c fun r => { r with range := code }
    write_self := setVertical_eq_self rfl
    chosen_write code := by rw [chosen?, setVertical, PerChannel.get_set_self]
    apply_eq v := by
      refine (PendingWork.outcome_bind (decodeRegister .probe _ : Except Fault Probe) _ s).trans ?_
      rw [known]
      exact PendingWork.outcome_bind _ _ _
    listed := by
      refine ⟨.ratios (voltsPerDivisionList probe), ?_, List.map_map⟩
      rw [choices, known]
      rfl
    described := by
      intro v h
      obtain ⟨channel, decoded, shown⟩ := bind_eq_ok_iff.mp h
      obtain ⟨range, -, probed, -⟩ := channel_eq_ok decoded
      cases shown
      cases known.symm.trans probed
      exact ⟨channel.range, rfl, range⟩ }

theorem exists_fittingDepth (tb : Timebase) (both : Bool) (depth : MemoryDepth) :
    ∃ fitting, fittingDepth? tb both depth = some fitting := by
  fun_induction fittingDepth? tb both depth with
  | case1 _ _ _ _ ih => exact ih
  | case2 depth lacks last =>
    obtain ⟨rfl, -⟩ := maxSampleRate_eq_zero_iff.mp lacks
    cases last
  | case3 depth => exact ⟨depth, rfl⟩

/-- The memory depth moves along with the timebase where it has to. -/
def offerTimebase (s : Snapshot) (depth : MemoryDepth) (known : s.memoryDepth = .ok depth) :
    s.Offer (.device .timebase) Timebase where
  menu := Timebase.menu
  register := .windowTimebase
  codes := by decide
  put tb :=
    { s with
      horizontal := { s.horizontal with windowTimebase := CodeTable.code tb }
      acquire := { s.acquire with
        memoryDepth := CodeTable.code ((fittingDepth? tb s.bothEnabled depth).getD depth) } }
  apply_eq v := by
    rw [← bind_pure_comp]
    refine (PendingWork.outcome_bind _ _ _).trans ?_
    refine bind_congr fun tb => ?_
    obtain ⟨fitting, fits⟩ := exists_fittingDepth tb s.bothEnabled depth
    refine setTimebase_eq_ok_iff.mpr ⟨depth, fitting, known, fits, ?_⟩
    rw [fits]
    rfl
  chosen_put _ := rfl
  put_self {tb} restorable held := by
    have same := Option.some.inj held
    have window : s.horizontal.windowTimebase = CodeTable.code tb := congrArg HeldCode.code same
    obtain ⟨used, memory, rate⟩ := restorable
    cases known.symm.trans memory
    have decoded : s.windowTimebase = .ok tb := by
      rw [windowTimebase, window]
      exact decodeRegister_code _ tb
    rw [fittingDepth?_of_rate (rate tb decoded), Option.getD_some, code_of_decodeRegister known,
      ← window]
  listed := ⟨_, rfl, List.map_map⟩
  described h := by
    obtain ⟨tb, shown, decoded⟩ := described_of_decoded h
    refine ⟨tb, shown, ?_⟩
    rw [chosen?, code_of_decodeRegister decoded]

theorem exists_offer (listed : x.key.capabilities.list = true)
    (position : x ≠ .device .triggerPosition) (informed : s.Informed x) :
    ∃ (α : Type) (_ : CodeTable α), Nonempty (s.Offer x α) := by
  cases x with
  | device k =>
    cases k with
    | timebase =>
      obtain ⟨depth, known⟩ :=
        s.memoryDepth_inspects.ok_iff.mpr (List.forall_mem_singleton.mpr informed)
      exact ⟨Timebase, inferInstance, ⟨s.offerTimebase depth known⟩⟩
    | triggerSource => exact ⟨TriggerSource, inferInstance, ⟨s.offerTriggerSource⟩⟩
    | triggerSlope => exact ⟨TriggerSlope, inferInstance, ⟨s.offerTriggerSlope⟩⟩
    | memoryDepth => exact ⟨MemoryDepth, inferInstance, ⟨s.offerMemoryDepth⟩⟩
    | averageCount => exact ⟨AverageCount, inferInstance, ⟨s.offerAverageCount⟩⟩
    | triggerPosition => exact absurd rfl position
    | connection | verticalDivisions | horizontalDivisions | sampleRate | limit | triggerLevel
    | averaging => cases listed
  | channel k c =>
    cases k with
    | range =>
      have inspects : Inspects (decodeRegister .probe (s.vertical.get c).probe : Except Fault Probe)
          [⟨.probe, (s.vertical.get c).probe⟩] := inspects_register rfl _
      obtain ⟨probe, known⟩ := inspects.ok_iff.mpr (List.forall_mem_singleton.mpr informed)
      exact ⟨VerticalRange, inferInstance, ⟨s.offerRange c probe known⟩⟩
    | coupling => exact ⟨Coupling, inferInstance, ⟨s.offerCoupling c⟩⟩
    | probe => exact ⟨Probe, inferInstance, ⟨s.offerProbe c⟩⟩
    | enabled | filter => cases listed

end Snapshot

end Oscilloscope
