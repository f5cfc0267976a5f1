/- Changing a setting of an opened oscilloscope: every way for it to go, and which bytes of the
   registers go back to the instrument other than they came. -/

import Oscilloscope.Proofs.Setting.OwnBytes
import Oscilloscope.Proofs.Wire.Revision
import Oscilloscope.Transport.Script

set_option autoImplicit false
set_option relaxedAutoImplicit false

namespace Oscilloscope

private theorem ChannelId.index_of_ofIndex? {i : Nat} {c : ChannelId} (h : ofIndex? i = some c) :
    c.index = i := by
  match i with
  | 0 | 1 =>
    cases h
    rfl

theorem Key.eq_of_address {key : Key} {index : Option Nat} {x : Setting}
    (h : key.address index = .ok x) :
    x.key = key ∧ x.channel?.map ChannelId.index = index := by
  cases key with
  | device k =>
    cases index with
    | none =>
      cases h
      exact ⟨rfl, rfl⟩
    | some i => cases h
  | channel k =>
    cases index with
    | none => cases h
    | some i =>
      rw [address] at h
      cases hi : ChannelId.ofIndex? i with
      | none =>
        rw [hi] at h
        cases h
      | some c =>
        rw [hi] at h
        cases h
        exact ⟨rfl, congrArg some (ChannelId.index_of_ofIndex? hi)⟩

theorem Key.key_of_address {key : Key} {index : Option Nat} {x : Setting}
    (h : key.address index = .ok x) : x.key = key :=
  (eq_of_address h).1

namespace Scope

variable {σ : Type} [Transport σ] {handle : Handle} {key : Key} {index : Option Nat} {value : Value}
  {scope : Scope σ}

/-- Ways to change a setting. Limits stay in the host; everything else is a register. -/
inductive ValueSet (handle : Handle) (key : Key) (index : Option Nat) (value : Value)
    (scope : Scope σ) : Except Fault Unit → Scope σ → Prop
  | misaddressed {fault : Fault} (address : key.address index = .error fault) :
      ValueSet handle key index value scope (.error fault) scope
  | unsettable {x : Setting} (address : key.address index = .ok x)
      (cannot : key.capabilities.set = false) :
      ValueSet handle key index value scope (.error (.notApplicable key)) scope
  | limited {kind : LimitKind} {n : UInt64}
      (address : key.address index = .ok (.device (.limit kind)))
      (can : key.capabilities.set = true) (taken : value.natural? = some n) :
      ValueSet handle key index value scope (.ok ())
        { scope with limits := scope.limits.setLimit kind n }
  | unlimited {kind : LimitKind} (address : key.address index = .ok (.device (.limit kind)))
      (can : key.capabilities.set = true) (refused : value.natural? = none) :
      ValueSet handle key index value scope (.error (.argument (.naturalExpected key))) scope
  | unrevised {x : Setting} {fault : Fault} {bank : Bank σ} (address : key.address index = .ok x)
      (can : key.capabilities.set = true) (register : ∀ kind, x ≠ .device (.limit kind))
      (revised : Bank.Revised handle.tuning (fun s => s.apply x value) scope.bank (.error fault)
        bank) :
      ValueSet handle key index value scope (.error fault) { scope with bank }
  | revised {x : Setting} {pending : Snapshot} {bank : Bank σ} (address : key.address index = .ok x)
      (can : key.capabilities.set = true) (register : ∀ kind, x ≠ .device (.limit kind))
      (revised : Bank.Revised handle.tuning (fun s => s.apply x value) scope.bank (.ok pending)
        bank) :
      ValueSet handle key index value scope (.ok ()) { scope with bank }

theorem setValue_sets (handle : Handle) (key : Key) (index : Option Nat) (value : Value)
    (scope : Scope σ) :
    ValueSet handle key index value scope (result (setValue handle key index value) scope)
      (final (setValue handle key index value) scope) := by
  unfold setValue
  refine bind_cases (P := ValueSet handle key index value scope) ?_ ?_
  · intro fault address
    rw [result_ofExcept] at address
    rw [final_ofExcept]
    exact .misaddressed address
  · intro x address
    rw [result_ofExcept] at address
    rw [final_ofExcept]
    cases can : key.capabilities.set with
    | false =>
      split
      · exact .unsettable address can
      · exact .unsettable address can
    | true =>
      split
      · rename_i kind
        cases taken : value.natural? with
        | none => exact .unlimited address can taken
        | some n => exact .limited address can taken
      · rename_i register
        have hrevised := Bank.revise_revises handle.tuning (fun s => s.apply x value) scope.bank
        refine bind_cases (P := ValueSet handle key index value scope) ?_ ?_
        · intro fault failed
          rw [result_onBank] at failed
          rw [failed] at hrevised
          rw [final_onBank]
          exact .unrevised address can register hrevised
        · intro pending done
          rw [result_onBank] at done
          rw [done] at hrevised
          rw [final_onBank]
          exact .revised address can register hrevised

/-- A setting that is changed on the instrument touches its own bytes only: what is written back is
what was received, but for bytes that the setting owns. -/
theorem setValue_touches_own_bytes (handle : Handle) (key : Key) (index : Option Nat)
    (value : Value) (scope : Scope σ) (register : ∀ kind, key ≠ .device (.limit kind))
    (done : result (setValue handle key index value) scope = .ok ()) :
    ∃ x s received sent t, key.address index = .ok x ∧
      Bank.Rewritten handle.tuning received sent t ∧
      (final (setValue handle key index value) scope).bank.line.record =
        scope.bank.line.record ++ t ∧
      240 ≤ received.length ∧ Snapshot.decode received = .ok s ∧ sent.length = 240 ∧
      ∀ i < 240, ¬ x.Owns s value i → sent[i]? = received[i]? := by
  have course := setValue_sets handle key index value scope
  rw [done] at course
  generalize final (setValue handle key index value) scope = after at course
  cases course with
  | @limited kind n address =>
    exact absurd (Key.key_of_address address).symm (register kind)
  | revised address _ _ revised =>
    obtain ⟨s, received, t, rewritten, hrecord, long, decoded, changed⟩ :=
      Bank.rewritten_of_revised revised
    have applied := Snapshot.apply_eq_ok_iff.mp changed
    refine ⟨_, s, received, _, t, address, rewritten, hrecord, long, decoded,
      Snapshot.length_encode _, fun i hi outside => ?_⟩
    rw [applied.getElem?_encode outside, Snapshot.encode_of_decode decoded,
      List.getElem?_take_of_lt hi]

theorem setValue_touches_one_byte :
    let answer (command : Command) (payload : Bytes) : Except Failure Bytes :=
      let f : Frame := ⟨.normal, command.response, payload⟩
      .ok (f.body ++ [checksum f.body])
    let device : Script :=
      { reads := [answer .lock [1, 1], answer .readRegisters (List.replicate 240 0),
          answer .lock [1, 0], answer .writeRegisters [0]] }
    ∃ received sent t, Bank.Rewritten {} received sent t ∧
      (final (setValue ⟨{}, none⟩ (.channel .enabled) (some 0) (.flag true))
        (Scope.ofLine { device })).bank.line.record = t ∧
      sent.length = 240 ∧ ∀ i < 240, i ≠ 0 → sent[i]? = received[i]? := by
  intro answer device
  have succeeds : (result (setValue ⟨{}, none⟩ (.channel .enabled) (some 0) (.flag true))
      (Scope.ofLine { device })).isOk = true := by
    decide +kernel
  have done : result (setValue ⟨{}, none⟩ (.channel .enabled) (some 0) (.flag true))
      (Scope.ofLine { device }) = .ok () := by
    cases hresult : result (setValue ⟨{}, none⟩ (.channel .enabled) (some 0) (.flag true))
      (Scope.ofLine { device }) with
    | ok => rfl
    | error => rw [hresult] at succeeds; cases succeeds
  obtain ⟨x, s, received, sent, t, address, rewritten, hrecord, -, -, hlength, same⟩ :=
    setValue_touches_own_bytes ⟨{}, none⟩ (.channel .enabled) (some 0) (.flag true)
      (Scope.ofLine { device }) (fun kind h => by cases h) done
  refine ⟨received, sent, t, rewritten, hrecord.trans (List.nil_append t), hlength,
    fun i hi hne => same i hi fun owns => ?_⟩
  cases address
  cases owns
  exact hne rfl

end Scope

end Oscilloscope
