/- Changing two settings in either order. Each change reads the registers, edits its own and writes
   them back, so two of them can be swapped unless one is put by registers that the other writes. -/

import Oscilloscope.Proofs.Scope.HeldRegisters
import Oscilloscope.Proofs.Setting.Edit

set_option autoImplicit false
set_option relaxedAutoImplicit false

namespace Oscilloscope

structure Change where
  key : Key
  index : Option Nat
  value : Value

namespace Change

def call (a : Change) : Call :=
  .setValue a.key a.index a.value

/-- One of the two changes is put by registers that the other one writes. -/
def Entangled (a b : Change) : Prop :=
  ∃ x y, a.key.address a.index = .ok x ∧ b.key.address b.index = .ok y ∧
    (x.LeansOn y ∨ y.LeansOn x)

def plan (a : Change) (s : Snapshot) : Except Fault Edit := do
  let x ← a.key.address a.index
  if !a.key.capabilities.set then throw (.notApplicable a.key)
  match x with
  | .device (.limit kind) =>
    match a.value.natural? with
    | some _ => return .limit kind
    | none => throw (.argument (.naturalExpected a.key))
  | _ => s.plan x a.value

/-- The registers after a change, whether it succeeded or not. -/
def advance (a : Change) (s : Snapshot) : Snapshot :=
  match a.plan s with
  | .ok e => s.edited e
  | .error _ => s

/-- Whatever the registers hold, a change comes to the same, or it is that of a register setting. -/
inductive Course (a : Change) : Prop
  | settled {r : Except Fault Edit} (same : ∀ s, a.plan s = r)
      (addressed : ∀ e, r = .ok e → a.key.address a.index = .ok e.setting)
  | register {x : Setting} (address : a.key.address a.index = .ok x)
      (same : ∀ s, a.plan s = s.plan x a.value)

variable {a b : Change} {s : Snapshot} {x : Setting} {e : Edit}

private theorem plan_of_register (address : a.key.address a.index = .ok x)
    (can : a.key.capabilities.set = true) (register : ∀ kind, x ≠ .device (.limit kind))
    (s : Snapshot) : a.plan s = s.plan x a.value := by
  rw [plan, address, can]
  show (match x with | .device (.limit kind) => _ | _ => _) = _
  split
  · exact absurd rfl (register _)
  · rfl

private theorem course (a : Change) : a.Course := by
  cases address : a.key.address a.index with
  | error fault =>
    have same (s : Snapshot) : a.plan s = .error fault := by
      rw [plan, address]
      rfl
    exact .settled same nofun
  | ok x =>
    cases can : a.key.capabilities.set with
    | false =>
      have same (s : Snapshot) : a.plan s = .error (.notApplicable a.key) := by
        rw [plan, address, can]
        rfl
      exact .settled same nofun
    | true =>
      by_cases limit : ∃ kind, x = .device (.limit kind)
      · obtain ⟨kind, rfl⟩ := limit
        cases taken : a.value.natural? with
        | some n =>
          have same (s : Snapshot) : a.plan s = .ok (.limit kind) := by
            rw [plan, address, can, taken]
            rfl
          refine .settled same ?_
          rintro _ ⟨⟩
          exact address
        | none =>
          have same (s : Snapshot) : a.plan s = .error (.argument (.naturalExpected a.key)) := by
            rw [plan, address, can, taken]
            rfl
          exact .settled same nofun
      · have register (kind : LimitKind) : x ≠ .device (.limit kind) := fun eq => limit ⟨kind, eq⟩
        exact .register address (plan_of_register address can register)

private theorem address_of_plan (h : a.plan s = .ok e) : a.key.address a.index = .ok e.setting := by
  cases a.course with
  | settled same addressed => exact addressed e ((same s).symm.trans h)
  | register address same =>
    rw [same] at h
    rw [address, Snapshot.setting_of_plan h]

private theorem setting_ne {y : Setting} (apart : a.key ≠ b.key ∨ a.index ≠ b.index)
    (first : a.key.address a.index = .ok x) (second : b.key.address b.index = .ok y) : x ≠ y := by
  rintro rfl
  obtain ⟨key, index⟩ := Key.eq_of_address first
  obtain ⟨key', index'⟩ := Key.eq_of_address second
  rcases apart with different | different
  · exact different (key.symm.trans key')
  · exact different (index.symm.trans index')

private theorem plan_edited (apart : a.key ≠ b.key ∨ a.index ≠ b.index) (free : ¬ a.Entangled b)
    (planned : b.plan s = .ok e) : a.plan (s.edited e) = a.plan s := by
  have addressed := address_of_plan planned
  cases a.course with
  | settled same => rw [same, same]
  | @register x address same =>
    have other : x ≠ e.setting := setting_ne apart address addressed
    have unbound : ¬ x.LeansOn e.setting := by
      intro leans
      exact free ⟨x, e.setting, address, addressed, .inl leans⟩
    rw [same, same, Snapshot.plan_edited other unbound]

theorem Entangled.symm (h : a.Entangled b) : b.Entangled a := by
  obtain ⟨x, y, first, second, leans⟩ := h
  exact ⟨y, x, second, first, leans.symm⟩

private theorem advance_of_ok (planned : a.plan s = .ok e) : a.advance s = s.edited e := by
  rw [advance, planned]

private theorem advance_of_error {fault : Fault} (fails : a.plan s = .error fault) :
    a.advance s = s := by
  rw [advance, fails]

private theorem plan_advance (apart : a.key ≠ b.key ∨ a.index ≠ b.index) (free : ¬ a.Entangled b)
    (s : Snapshot) : a.plan (b.advance s) = a.plan s := by
  cases planned : b.plan s with
  | error fault => rw [advance_of_error planned]
  | ok e => rw [advance_of_ok planned, plan_edited apart free planned]

private theorem advance_comm (apart : a.key ≠ b.key ∨ a.index ≠ b.index) (free : ¬ a.Entangled b)
    (s : Snapshot) : b.advance (a.advance s) = a.advance (b.advance s) := by
  have first : a.plan (b.advance s) = a.plan s := plan_advance apart free s
  have second : b.plan (a.advance s) = b.plan s :=
    plan_advance (apart.imp Ne.symm Ne.symm) (fun h => free h.symm) s
  cases planA : a.plan s with
  | error fault => rw [advance_of_error planA, advance_of_error (first.trans planA)]
  | ok e =>
    rw [advance_of_ok (first.trans planA)]
    cases planB : b.plan s with
    | error fault =>
      rw [advance_of_error (second.trans planB), advance_of_error planB, advance_of_ok planA]
    | ok f =>
      rw [advance_of_ok (second.trans planB), advance_of_ok planA, advance_of_ok planB]
      have addressA := address_of_plan planA
      have addressB := address_of_plan planB
      refine Snapshot.edited_comm ?_ ?_ ?_
      · exact setting_ne apart addressA addressB
      · intro leans
        exact free ⟨_, _, addressA, addressB, .inl leans⟩
      · intro leans
        exact free ⟨_, _, addressA, addressB, .inr leans⟩

variable {σ : Type} [Transport σ] [Faithful σ] {scope : Scope σ}

private theorem performs (handle : Handle) (a : Change) (holds : scope.bank.line.Holds s) :
    result (Scope.setValue handle a.key a.index a.value) scope = (a.plan s).map (fun _ => ()) ∧
      (a.call.after handle scope).bank.line.Holds (a.advance s) := by
  have course := Scope.setValue_sets handle a.key a.index a.value scope
  rw [call, Call.after_setValue]
  generalize result (Scope.setValue handle a.key a.index a.value) scope = r at course ⊢
  generalize final (Scope.setValue handle a.key a.index a.value) scope = after at course ⊢
  have registers {x : Setting} {bank : Bank σ} {r : Except Fault Snapshot}
      (address : a.key.address a.index = .ok x) (can : a.key.capabilities.set = true)
      (register : ∀ kind, x ≠ .device (.limit kind))
      (revised : Bank.Revised handle.tuning (fun s => s.apply x a.value) scope.bank r bank) :
      r.map (fun _ => ()) = (a.plan s).map (fun _ => ()) ∧ bank.line.Holds (a.advance s) := by
    obtain ⟨rfl, hafter⟩ := revised.of_holds holds
    have plan := plan_of_register address can register s
    rw [Snapshot.apply_eq_plan] at hafter ⊢
    rw [advance, plan]
    cases planned : s.plan x a.value with
    | ok e =>
      rw [planned] at hafter
      exact ⟨rfl, hafter⟩
    | error fault =>
      rw [planned] at hafter
      exact ⟨rfl, hafter⟩
  cases course with
  | misaddressed address =>
    rw [advance, plan, address]
    exact ⟨rfl, holds⟩
  | unsettable address cannot =>
    rw [advance, plan, address, cannot]
    exact ⟨rfl, holds⟩
  | limited address can taken =>
    rw [advance, plan, address, can, taken]
    exact ⟨rfl, holds⟩
  | unlimited address can refused =>
    rw [advance, plan, address, can, refused]
    exact ⟨rfl, holds⟩
  | unrevised address can register revised => exact registers address can register revised
  | revised address can register revised => exact registers address can register revised

/-- Two changes at different keys or channels can be swapped unless one is put by registers that
the other one writes: each of them succeeds or fails as it does without the other in front of it,
and the instrument ends up with the same registers. -/
theorem run_swapped (handle : Handle) (a b : Change) (apart : a.key ≠ b.key ∨ a.index ≠ b.index)
    (free : ¬ a.Entangled b) (holds : scope.bank.line.Holds s) :
    let outcome (c : Change) (scope : Scope σ) :=
      result (Scope.setValue handle c.key c.index c.value) scope
    outcome a (b.call.after handle scope) = outcome a scope ∧
      outcome b (a.call.after handle scope) = outcome b scope ∧
      ∃ t, (Call.run handle [a.call, b.call] scope).bank.line.Holds t ∧
        (Call.run handle [b.call, a.call] scope).bank.line.Holds t := by
  intro outcome
  obtain ⟨resultA, afterA⟩ := performs handle a holds
  obtain ⟨resultB, afterB⟩ := performs handle b holds
  obtain ⟨resultA', endA⟩ := performs handle a afterB
  obtain ⟨resultB', endB⟩ := performs handle b afterA
  have apart' : b.key ≠ a.key ∨ b.index ≠ a.index := apart.imp Ne.symm Ne.symm
  have free' : ¬ b.Entangled a := fun h => free h.symm
  rw [plan_advance apart free] at resultA'
  rw [plan_advance apart' free'] at resultB'
  rw [← advance_comm apart free] at endA
  exact ⟨resultA'.trans resultA.symm, resultB'.trans resultB.symm, _, endB, endA⟩

theorem run_swapped_range_and_probe :
    let range : Change := ⟨.channel .range, some 0, .ratio ⟨4, 2⟩⟩
    let probe : Change := ⟨.channel .probe, some 1, .natural 50⟩
    let held := Snapshot.zero
    let scope := Scope.ofLine ⟨(⟨held.encode, held.length_encode, none⟩ : Instrument), []⟩
    (range.key ≠ probe.key ∨ range.index ≠ probe.index) ∧ ¬ range.Entangled probe ∧
      ∃ t, (Call.run ⟨{}, none⟩ [range.call, probe.call] scope).bank.line.Holds t ∧
        (Call.run ⟨{}, none⟩ [probe.call, range.call] scope).bank.line.Holds t := by
  intro range probe held scope
  have apart : range.key ≠ probe.key ∨ range.index ≠ probe.index := .inl nofun
  have free : ¬ range.Entangled probe := by
    rintro ⟨x, y, first, second, leans⟩
    cases first
    cases second
    rcases leans with leans | leans
    · cases leans
    · cases leans
  have holds : scope.bank.line.Holds held := ⟨rfl, rfl⟩
  obtain ⟨-, -, same⟩ := run_swapped ⟨{}, none⟩ range probe apart free holds
  exact ⟨apart, free, same⟩

end Change

end Oscilloscope
