/- When the registers of the instrument are written: in the change of a setting, as the last thing
   it does, and only after a reading under the panel lock that was answered in all its parts. -/

import Oscilloscope.Proofs.Scope.Acquisitions
import Oscilloscope.Proofs.Scope.Composition
import Oscilloscope.Proofs.Scope.Setting
import Oscilloscope.Proofs.Wire.Submission

set_option autoImplicit false
set_option relaxedAutoImplicit false

namespace Oscilloscope

namespace Scope

variable {σ : Type}

/-- From a scope to a later state of it no registers were written. -/
def Spares (scope after : Scope σ) : Prop :=
  scope.bank.line.Spares after.bank.line

private theorem Spares.of_bank {scope after : Scope σ} (same : after.bank = scope.bank) :
    scope.Spares after := by
  rw [Spares, same]
  exact Line.Spares.refl scope.bank.line

theorem Spares.trans {scope middle after : Scope σ} (first : scope.Spares middle)
    (second : middle.Spares after) : scope.Spares after :=
  Line.Spares.trans first second

private theorem composes_spares :
    Composes fun ⦃α : Type⦄ (x : Work σ α) =>
      ∀ scope : Scope σ, scope.Spares (final x scope) where
  pure _ _ := .of_bank rfl
  throw _ _ := .of_bank rfl
  get _ := .of_bank rfl
  bind := by
    intro α β x f first rest scope
    refine bind_cases (P := fun _ after => scope.Spares after) ?_ ?_
    · intro _ _
      exact first scope
    · intro a _
      exact (first scope).trans (rest a _)

variable [Transport σ] {handle : Handle} {scope after : Scope σ}

theorem fetched_spares (handle : Handle) (scope : Scope σ) :
    scope.Spares (scope.fetched handle) := by
  rw [Spares, fetched, Bank.fetch, Bank.final_onLine]
  exact Bank.readSnapshot_spares handle.tuning scope.bank.line

private theorem refresh_spares (handle : Handle) (scope : Scope σ) :
    scope.Spares (final (refresh handle) scope) := by
  have spared := fetched_spares handle scope
  rw [refresh, final_onBank]
  cases fetch : result (Bank.fetch handle.tuning) scope.bank with
  | error fault =>
    rw [(Bank.refresh_of_unfetched fetch).2]
    exact spared
  | ok s =>
    rw [(Bank.refresh_of_fetch fetch).2]
    exact spared

theorem FrameRead.avoids {fresh : Snapshot} {c : ChannelId} {r : Except Fault Unit}
    {command : Command} (h : FrameRead handle fresh c scope r after)
    (ne : .readSamples ≠ command) : scope.bank.line.Avoids command after.bank.line := by
  have asked : scope.bank.line.Avoids command (scope.asked handle c) :=
    askSamples_avoids handle.tuning ne c scope.bank.line
  cases h with
  | hidden | undecoded => exact .refl command _
  | unasked | waiting => exact asked
  | broken _ _ _ received | whole _ _ _ received =>
    have streamed := Stream.receive_avoids handle.tuning command c 0 (scope.asked handle c)
    rw [received] at streamed
    exact asked.trans streamed

private theorem FrameRead.spares {fresh : Snapshot} {c : ChannelId} {r : Except Fault Unit}
    (h : FrameRead handle fresh c scope r after) : scope.Spares after :=
  h.avoids (by decide)

theorem Captured.spares {r : Except Fault Unit} (h : Captured handle scope r after) :
    scope.Spares after := by
  have fetched := fetched_spares handle scope
  have told {fresh : Snapshot} {r : Except Fault Unit} {told : Scope σ}
      (change : ChangeTold fresh (scope.fetched handle) r told) : scope.Spares told :=
    fetched.trans (.of_bank change.bank)
  cases h with
  | unfetched => exact fetched
  | untold _ change => exact told change
  | firstFailed _ change ch1 => exact (told change).trans ch1.spares
  | secondFailed _ change ch1 ch2 => exact ((told change).trans ch1.spares).trans ch2.spares
  | complete _ change ch1 ch2 =>
    have round := ((told change).trans ch1.spares).trans ch2.spares
    split
    · exact round.trans (.of_bank (stopRequested_bank _))
    · exact round

private theorem Ticked.spares {r : Except Fault Phase} (h : Ticked handle scope r after) :
    scope.Spares after := by
  cases h with
  | idle | ended => exact .of_bank rfl
  | failed _ round | continued _ round => exact round.spares

/-- Courses of the change of a register setting by what decides them. Only in the last are the
registers written. -/
inductive RegisterChange (handle : Handle) (key : Key) (index : Option Nat) (value : Value)
    (scope : Scope σ) : List Transfer → Except Fault Unit → Prop
  | misaddressed {fault : Fault} (address : key.address index = .error fault) :
      RegisterChange handle key index value scope [] (.error fault)
  | unsettable {x : Setting} (address : key.address index = .ok x)
      (cannot : key.capabilities.set = false) :
      RegisterChange handle key index value scope [] (.error (.notApplicable key))
  | unfetched {x : Setting} {fault : Fault} {t : List Transfer}
      (address : key.address index = .ok x) (can : key.capabilities.set = true)
      (fetch : result (Bank.fetch handle.tuning) scope.bank = .error fault)
      (spared : submits .writeRegisters t = false) :
      RegisterChange handle key index value scope t (.error fault)
  | refused {x : Setting} {current : Snapshot} {fault : Fault} {t : List Transfer}
      (address : key.address index = .ok x) (can : key.capabilities.set = true)
      (fetch : result (Bank.fetch handle.tuning) scope.bank = .ok current)
      (impossible : current.apply x value = .error fault)
      (spared : submits .writeRegisters t = false) :
      RegisterChange handle key index value scope t (.error fault)
  | written {x : Setting} {current pending : Snapshot} {t : List Transfer} {r : Except Fault Unit}
      (address : key.address index = .ok x) (can : key.capabilities.set = true)
      (fetch : result (Bank.fetch handle.tuning) scope.bank = .ok current)
      (possible : current.apply x value = .ok pending)
      (overwritten : Bank.Overwritten handle.tuning current pending t)
      (answer : r = .ok () ↔ Bank.Confirmed handle.tuning t) :
      RegisterChange handle key index value scope t r

variable {key : Key} {index : Option Nat} {value : Value}

private theorem setValue_changes (handle : Handle) (index : Option Nat) (value : Value)
    (scope : Scope σ)
    (register : ∀ kind, key ≠ .device (.limit kind)) :
    ∃ t, (final (setValue handle key index value) scope).bank.line.record =
        scope.bank.line.record ++ t ∧
      RegisterChange handle key index value scope t
        (result (setValue handle key index value) scope) := by
  have course := setValue_sets handle key index value scope
  generalize result (setValue handle key index value) scope = r at course ⊢
  generalize final (setValue handle key index value) scope = after at course ⊢
  obtain ⟨sofar, fetched, spared⟩ := fetched_spares handle scope
  cases course with
  | misaddressed address => exact ⟨[], (List.append_nil _).symm, .misaddressed address⟩
  | unsettable address cannot =>
    exact ⟨[], (List.append_nil _).symm, .unsettable address cannot⟩
  | limited address | unlimited address =>
    exact absurd (Key.key_of_address address).symm (register _)
  | unrevised address can _ revised =>
    cases revised with
    | unfetched fetch => exact ⟨sofar, fetched, .unfetched address can fetch spared⟩
    | unchanged fetch impossible =>
      exact ⟨sofar, fetched, .refused address can fetch impossible spared⟩
    | @uncommitted current pending _ fetch possible failed =>
      obtain ⟨t, hrecord, overwritten, answer⟩ := Bank.overwritten_of_commit fetch pending
      rw [failed] at answer
      dsimp only
      refine ⟨t, hrecord, .written address can fetch possible overwritten ?_⟩
      simpa using answer
  | @revised _ pending _ address can _ revised =>
    cases revised with
    | committed fetch possible done =>
      obtain ⟨t, hrecord, overwritten, answer⟩ := Bank.overwritten_of_commit fetch pending
      rw [done] at answer
      dsimp only
      exact ⟨t, hrecord, .written address can fetch possible overwritten answer⟩

private theorem RegisterChange.ok_iff_confirmed {t : List Transfer} {r : Except Fault Unit}
    (h : RegisterChange handle key index value scope t r) :
    r = .ok () ↔ Bank.Confirmed handle.tuning t := by
  have unsent {fault : Fault} (spared : submits .writeRegisters t = false) :
      (Except.error fault : Except Fault Unit) = .ok () ↔ Bank.Confirmed handle.tuning t := by
    constructor
    · intro h
      cases h
    · intro confirmed
      rw [confirmed.submits] at spared
      cases spared
  cases h with
  | misaddressed | unsettable => exact unsent rfl
  | unfetched _ _ _ spared | refused _ _ _ _ spared => exact unsent spared
  | written _ _ _ _ _ answer => exact answer

private theorem RegisterChange.overwritten {t : List Transfer} {r : Except Fault Unit}
    (h : RegisterChange handle key index value scope t r)
    (submitted : submits .writeRegisters t = true) :
    ∃ x current pending, key.address index = .ok x ∧ current.apply x value = .ok pending ∧
      Bank.Overwritten handle.tuning current pending t := by
  cases h with
  | misaddressed | unsettable => cases submitted
  | unfetched _ _ _ spared | refused _ _ _ _ spared =>
    rw [spared] at submitted
    cases submitted
  | written address _ _ possible overwritten =>
    exact ⟨_, _, _, address, possible, overwritten⟩

theorem setLimit_bank (handle : Handle) (kind : LimitKind) (index : Option Nat) (value : Value)
    (scope : Scope σ) :
    (final (setValue handle (.device (.limit kind)) index value) scope).bank = scope.bank := by
  have course := setValue_sets handle (.device (.limit kind)) index value scope
  generalize result (setValue handle (.device (.limit kind)) index value) scope = r at course
  generalize final (setValue handle (.device (.limit kind)) index value) scope = after at course ⊢
  cases course with
  | misaddressed | unsettable | limited | unlimited => rfl
  | unrevised address _ register | revised address _ register =>
    cases index with
    | none =>
      cases address
      exact absurd rfl (register kind)
    | some i => cases address

end Scope

namespace Call

variable {σ : Type} [Transport σ] {call : Call}

theorem changes_or_not (call : Call) :
    (∃ key index value, call = .setValue key index value ∧
      ∀ kind, key ≠ .device (.limit kind)) ∨
    ∀ key index value, call = .setValue key index value → ∃ kind, key = .device (.limit kind) := by
  by_cases change : ∃ key index value, call = .setValue key index value ∧
      ∀ kind, key ≠ .device (.limit kind)
  · exact Or.inl change
  · refine Or.inr fun key index value hcall => ?_
    by_contra none
    exact change ⟨key, index, value, hcall, fun kind h => none ⟨kind, h⟩⟩

private theorem spares_after
    (other : ∀ key index value, call = .setValue key index value →
      ∃ kind, key = .device (.limit kind)) (handle : Handle) (scope : Scope σ) :
    scope.Spares (call.after handle scope) := by
  rw [after_eq_final]
  cases call with
  | start =>
    rw [perform, final_bind_pure]
    exact .of_bank (Scope.start_starts handle scope).bank
  | requestStop => exact .of_bank (Scope.stopRequested_bank scope)
  | tick =>
    rw [perform, final_bind_pure]
    exact (Scope.tick_ticks handle scope).spares
  | setValue key index value =>
    obtain ⟨kind, rfl⟩ := other key index value rfl
    rw [perform, final_bind_pure]
    exact .of_bank (Scope.setLimit_bank handle kind index value scope)
  | refresh | shadow | model | channel | echo | getValue | listValues =>
    refine Scope.composes_spares.perform (Scope.refresh_spares handle) ?_ rfl scope
    intro bytes scope
    rw [Scope.Spares, Scope.final_onLine]
    exact Link.request_avoids handle.tuning (by decide) bytes 512 scope.bank.line

/-- Whatever has been called and however the instrument has answered, registers are written in the
change of a register setting alone: once, as the last thing submitted, and straight after the panel
was locked, the registers read and the panel unlocked, all three answered as they should be. Such
a change succeeds exactly where that last frame went out in full and was confirmed, and where it
fails before, nothing was written; a wrong address and a setting that cannot be changed leave the
line alone. -/
theorem run_writes_registers_after_reading (handle : Handle) (line : Line σ) (calls : List Call)
    (call : Call) :
    let scope := run handle calls (Scope.ofLine line)
    ∃ t, (call.after handle scope).bank.line.record = scope.bank.line.record ++ t ∧
      (submits .writeRegisters t = true →
        ∃ key index value x current pending, call = .setValue key index value ∧
          (∀ kind, key ≠ .device (.limit kind)) ∧ key.address index = .ok x ∧
          current.apply x value = .ok pending ∧
          Bank.Overwritten handle.tuning current pending t) ∧
      ∀ key index value, call = .setValue key index value →
        (∀ kind, key ≠ .device (.limit kind)) →
          let r := result (Scope.setValue handle key index value) scope
          (r = .ok () ↔ Bank.Confirmed handle.tuning t) ∧
            Scope.RegisterChange handle key index value scope t r := by
  intro scope
  rcases call.changes_or_not with ⟨key, index, value, rfl, register⟩ | limit
  · obtain ⟨t, hrecord, course⟩ := Scope.setValue_changes handle index value scope register
    refine ⟨t, ?_, ?_, ?_⟩
    · rw [after_eq_final, perform, final_bind_pure]
      exact hrecord
    · intro submitted
      obtain ⟨x, current, pending, h⟩ := course.overwritten submitted
      exact ⟨key, index, value, x, current, pending, rfl, register, h⟩
    · rintro _ _ _ ⟨⟩ _
      exact ⟨course.ok_iff_confirmed, course⟩
  · obtain ⟨t, hrecord, spared⟩ := spares_after limit handle scope
    refine ⟨t, hrecord, ?_, ?_⟩
    · intro submitted
      rw [spared] at submitted
      cases submitted
    · intro key index value hcall register
      obtain ⟨kind, hkey⟩ := limit key index value hcall
      exact absurd hkey (register kind)

end Call

end Oscilloscope
