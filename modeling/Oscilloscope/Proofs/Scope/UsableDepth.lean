/- What becomes of the memory depth in use when settings are changed on the instrument. -/

import Oscilloscope.Proofs.Scope.HeldRegisters
import Oscilloscope.Proofs.Setting.UsableDepth

set_option autoImplicit false
set_option relaxedAutoImplicit false

namespace Oscilloscope

private theorem Snapshot.applied_of_revised {s t : Snapshot} {key : Key} {index : Option Nat}
    {value : Value} (h : s.revised key index value = .ok t) :
    ∃ x, key.address index = .ok x ∧ s.Applied value x t := by
  obtain ⟨x, address, h⟩ := bind_eq_ok_iff.mp h
  cases can : key.capabilities.set with
  | false =>
    rw [can] at h
    cases h
  | true =>
    rw [can] at h
    exact ⟨x, address, apply_eq_ok_iff.mp h⟩

namespace Call

variable {σ : Type} [Transport σ] {handle : Handle} {scope : Scope σ} {key : Key}
  {index : Option Nat} {value : Value}

private theorem setValue_writes_usable (register : ∀ kind, key ≠ .device (.limit kind))
    (done : result (Scope.setValue handle key index value) scope = .ok ()) :
    ∃ (x : Setting) (s pending : Snapshot) (received : Bytes) (t : List Transfer),
      key.address index = .ok x ∧ Snapshot.decode received = .ok s ∧
      Bank.Rewritten handle.tuning received pending.encode t ∧
      (after handle (.setValue key index value) scope).bank.line.record =
        scope.bank.line.record ++ t ∧
      (s.Usable → (pending.Usable ↔ ¬ s.Overfills value x)) := by
  have course := Scope.setValue_sets handle key index value scope
  rw [after_setValue]
  rw [done] at course
  generalize final (Scope.setValue handle key index value) scope = after at course ⊢
  cases course with
  | @limited kind n address =>
    exact absurd (Key.key_of_address address).symm (register kind)
  | revised address _ _ revised =>
    obtain ⟨s, received, t, rewritten, record, -, decoded, changed⟩ :=
      Bank.rewritten_of_revised revised
    have applied := Snapshot.apply_eq_ok_iff.mp changed
    exact ⟨_, s, _, received, t, address, decoded, rewritten, record, applied.usable_iff⟩

variable [Faithful σ]

private theorem usable_after {call : Call} {s : Snapshot} (handle : Handle)
    (holds : scope.bank.line.Holds s) (usable : s.Usable)
    (spared : ∀ key index value x, call = .setValue key index value → key.address index = .ok x →
      ¬ s.Overfills value x) :
    ∃ s, (call.after handle scope).bank.line.Holds s ∧ s.Usable := by
  rcases call.changes_or_not with ⟨key, index, value, rfl, register⟩ | other
  · have hafter := (setValue_after handle index value holds register).2
    refine ⟨_, hafter, ?_⟩
    cases hrevised : s.revised key index value with
    | error fault => exact usable
    | ok pending =>
      obtain ⟨x, address, applied⟩ := Snapshot.applied_of_revised hrevised
      exact (applied.usable_iff usable).mpr (spared key index value x rfl address)
  · exact ⟨s, holds_after handle holds other, usable⟩

/-- No change of a setting in the run overfills the registers that it finds. -/
def Spares (handle : Handle) (calls : List Call) (scope : Scope σ) : Prop :=
  ∀ sofar key index value, sofar ++ [.setValue key index value] <+: calls →
    ∀ s, (run handle sofar scope).bank.line.Holds s →
      ∀ x, key.address index = .ok x → ¬ s.Overfills value x

private theorem Spares.of_cons {call : Call} {rest : List Call}
    (spares : Spares handle (call :: rest) scope) :
    Spares handle rest (call.after handle scope) :=
  fun sofar key index value front =>
    spares (call :: sofar) key index value (List.cons_prefix_cons.mpr ⟨rfl, front⟩)

theorem usable_run {calls : List Call} {s : Snapshot} (holds : scope.bank.line.Holds s)
    (usable : s.Usable) (spares : Spares handle calls scope) :
    ∃ s, (run handle calls scope).bank.line.Holds s ∧ s.Usable := by
  -- The registers held now are usable, whatever they were when the run began.
  induction calls generalizing scope s with
  | nil => exact ⟨s, holds, usable⟩
  | cons call rest ih =>
    have spared (key : Key) (index : Option Nat) (value : Value) (x : Setting)
        (eq : call = .setValue key index value) : key.address index = .ok x →
          ¬ s.Overfills value x :=
      spares [] key index value (eq ▸ List.cons_prefix_cons.mpr ⟨rfl, List.nil_prefix⟩) s holds x
    obtain ⟨s', holds', usable'⟩ := usable_after handle holds usable spared
    exact ih holds' usable' spares.of_cons

omit [Faithful σ] in
/-- Whatever register setting succeeds, and however the instrument answers: if what was read is
usable, then what is written is usable exactly if the setting does not overfill it. So on an
instrument that holds its registers faithfully they stay usable whatever is called, as long as no
setting overfills them. -/
theorem run_keeps_usable_depth (handle : Handle) :
    (∀ (scope : Scope σ) (key : Key) (index : Option Nat) (value : Value),
      (∀ kind, key ≠ .device (.limit kind)) →
        result (Scope.setValue handle key index value) scope = .ok () →
          ∃ (x : Setting) (s pending : Snapshot) (received : Bytes) (t : List Transfer),
            key.address index = .ok x ∧ Snapshot.decode received = .ok s ∧
            Bank.Rewritten handle.tuning received pending.encode t ∧
            (after handle (.setValue key index value) scope).bank.line.record =
              scope.bank.line.record ++ t ∧
            (s.Usable → (pending.Usable ↔ ¬ s.Overfills value x))) ∧
      ∀ [Faithful σ] (line : Line σ) (held : Snapshot) (calls : List Call), line.Holds held →
        held.Usable → Spares handle calls (Scope.ofLine line) →
          ∃ kept, (run handle calls (Scope.ofLine line)).bank.line.Holds kept ∧ kept.Usable := by
  refine ⟨fun scope key index value register done => setValue_writes_usable register done, ?_⟩
  intro _ line held calls holds usable spares
  exact usable_run holds usable spares

theorem run_keeps_usable_depth_of_timebase :
    let held : Snapshot := { Snapshot.zero with
      acquire := { Snapshot.zero.acquire with memoryDepth := 7 } }
    let line : Line Instrument := ⟨⟨held.encode, held.length_encode, none⟩, []⟩
    let slower : Call := .setValue (.device .timebase) none (.ratio ⟨200, 1000000⟩)
    let after := run ⟨{}, none⟩ [slower] (Scope.ofLine line)
    after.image[195]? = some 6 ∧ ∃ kept, after.bank.line.Holds kept ∧ kept.Usable := by
  intro held line slower after
  have usable : held.Usable := ⟨⟨0⟩, .m1, rfl, rfl, by decide⟩
  have spares : Spares ⟨{}, none⟩ [slower] (Scope.ofLine line) := by
    intro sofar key index value front s _ x address overfills
    have single : sofar ++ [.setValue key index value] = [slower] :=
      front.eq_of_length_le (by simp)
    have last := (List.append_inj' (single.trans (List.nil_append _).symm) rfl).2
    have eq : .setValue key index value =
        Call.setValue (.device .timebase) none (.ratio ⟨200, 1000000⟩) := List.singleton_inj.mp last
    cases eq
    cases address
    cases overfills
  refine ⟨by decide +kernel, ?_⟩
  exact (run_keeps_usable_depth ⟨{}, none⟩).2 line held [slower] ⟨rfl, rfl⟩ usable spares

/-- The slip: with the largest depth in use by one channel the other one can be shown, and then no
sample rate is left. -/
theorem setValue_overfills :
    let held : Snapshot := { Snapshot.zero with
      vertical := Snapshot.zero.vertical.set .ch1 { Snapshot.zero.vertical.ch1 with shown := 1 }
      acquire := { Snapshot.zero.acquire with memoryDepth := 7 } }
    let scope := Scope.ofLine ⟨(⟨held.encode, held.length_encode, none⟩ : Instrument), []⟩
    let show2 : Call := .setValue (.channel .enabled) (some 1) (.flag true)
    held.Usable ∧
      result (Scope.setValue ⟨{}, none⟩ (.channel .enabled) (some 1) (.flag true)) scope = .ok () ∧
      ∃ pending, (after ⟨{}, none⟩ show2 scope).bank.line.Holds pending ∧ ¬ pending.Usable := by
  intro held scope show2
  have holds : scope.bank.line.Holds held := ⟨rfl, rfl⟩
  have register (kind : LimitKind) : Key.channel .enabled ≠ .device (.limit kind) := nofun
  obtain ⟨done, hafter⟩ := setValue_after ⟨{}, none⟩ (some 1) (.flag true) holds register
  let pending := held.setVertical .ch2 fun r => { r with shown := 1 }
  have revised : held.revised (.channel .enabled) (some 1) (.flag true) = .ok pending := rfl
  rw [revised] at done hafter
  have window : pending.windowTimebase = .ok ⟨0⟩ := rfl
  have known : pending.memoryDepth = .ok .m1 := rfl
  have both : pending.bothEnabled = true := rfl
  refine ⟨⟨⟨0⟩, .m1, rfl, rfl, by decide⟩, done, pending, hafter, fun usable => ?_⟩
  exact (Snapshot.usable_iff window known both).mp usable ⟨rfl, .inl rfl⟩

end Call

end Oscilloscope
