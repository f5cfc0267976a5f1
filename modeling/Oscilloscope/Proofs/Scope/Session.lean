/- The acquisitions that a session is told of, whatever is called and however the instrument
   answers. Phase, ticker and events change only in start, stop and tick, and together. -/

import Oscilloscope.Proofs.Acquisition.History
import Oscilloscope.Proofs.Scope.Composition
import Oscilloscope.Proofs.Scope.Step

set_option autoImplicit false
set_option relaxedAutoImplicit false

namespace Oscilloscope

namespace Scope

variable {σ α : Type}

/-- What the session of an acquisition goes by. -/
structure Session where
  phase : Phase
  baseline : Option Snapshot
  events : List Event
  ticker : Option Duration

def session (scope : Scope σ) : Session :=
  ⟨scope.phase, scope.baseline, scope.events, scope.ticker⟩

/-- Work that no session notices, also where it fails. -/
def Unnoticed (x : Work σ α) : Prop :=
  ∀ scope, (final x scope).session = scope.session

private theorem composes_unnoticed : Composes fun ⦃α : Type⦄ (x : Work σ α) => Unnoticed x :=
  composes_keeps session

private theorem unnoticed_onBank (x : BankWork σ α) : Unnoticed (onBank x) := by
  intro scope
  rw [final_onBank]
  rfl

private theorem unnoticed_setValue [Transport σ] (handle : Handle) (key : Key) (index : Option Nat)
    (value : Value) : Unnoticed (setValue (σ := σ) handle key index value) := by
  unfold setValue
  refine composes_unnoticed.bind (composes_unnoticed.ofExcept _) fun x => ?_
  split
  · refine composes_unnoticed.checked ?_
    split
    · exact fun _ => rfl
    · exact composes_unnoticed.throw _
  · exact composes_unnoticed.checked
      (composes_unnoticed.bind (unnoticed_onBank _) fun _ => composes_unnoticed.pure _)

end Scope

/-- The calls that run an acquisition; all others are made beside it. -/
def Call.acquires : Call → Bool
  | .start | .requestStop | .tick => true
  | _ => false

section

variable {σ : Type} [Transport σ]

theorem Call.after_eq_final (handle : Handle) (call : Call) (scope : Scope σ) :
    call.after handle scope = final (call.perform handle) scope := by
  unfold after final
  cases call.perform handle scope <;> rfl

theorem Call.after_of_packed {α : Type} {handle : Handle} {call : Call} {x : Work σ α}
    {f : α → Answer} (packed : call.perform handle = x >>= fun a => pure (f a))
    (scope : Scope σ) : call.after handle scope = final x scope := by
  rw [after_eq_final, packed, final_bind_pure]

theorem Call.after_start (handle : Handle) (scope : Scope σ) :
    after handle .start scope = final (Scope.start handle) scope :=
  after_of_packed (f := fun _ => .done) rfl scope

theorem Call.after_requestStop (handle : Handle) (scope : Scope σ) :
    after handle .requestStop scope = scope.stopRequested := rfl

theorem Call.after_tick (handle : Handle) (scope : Scope σ) :
    after handle .tick scope = final (Scope.tick handle) scope :=
  after_of_packed rfl scope

theorem Call.after_setValue (handle : Handle) (key : Key) (index : Option Nat) (value : Value)
    (scope : Scope σ) : after handle (.setValue key index value) scope =
      final (Scope.setValue handle key index value) scope :=
  after_of_packed (f := fun _ => .done) rfl scope

def Call.transfers (handle : Handle) (call : Call) (scope : Scope σ) : List Transfer :=
  (call.after handle scope).bank.line.record.drop scope.bank.line.record.length

theorem Call.transfers_eq {handle : Handle} {call : Call} {scope : Scope σ} {t : List Transfer}
    (h : (call.after handle scope).bank.line.record = scope.bank.line.record ++ t) :
    call.transfers handle scope = t := by
  rw [transfers, h, List.drop_left]

def Call.told (handle : Handle) (call : Call) (scope : Scope σ) : List Event :=
  (call.after handle scope).events.drop scope.events.length

theorem Call.told_eq {handle : Handle} {call : Call} {scope : Scope σ} {events : List Event}
    (h : (call.after handle scope).events = scope.events ++ events) :
    call.told handle scope = events := by
  rw [told, h, List.drop_left]

theorem Call.session_after {call : Call} (beside : call.acquires = false) (handle : Handle)
    (scope : Scope σ) : (call.after handle scope).session = scope.session := by
  rw [after_eq_final]
  have unnoticed : Scope.Unnoticed (call.perform (σ := σ) handle) := by
    cases call with
    | start | requestStop | tick => cases beside
    | setValue key index value =>
      exact Scope.composes_unnoticed.bind (Scope.unnoticed_setValue handle key index value)
        fun _ => Scope.composes_unnoticed.pure _
    | _ =>
      exact Scope.composes_unnoticed.perform (Scope.unnoticed_onBank _)
        (fun _ => Scope.unnoticed_onBank _) rfl
  exact unnoticed scope

end

end Oscilloscope
