/- Calls as sequences of parts. What a sequence has once its parts have it, every call that only
   looks at the instrument has once reading the registers and echoing have it. -/

import Oscilloscope.Proofs.Outcome

set_option autoImplicit false
set_option relaxedAutoImplicit false

namespace Oscilloscope

/-- The calls that neither run an acquisition nor change a setting. -/
def Call.looks : Call → Bool
  | .start | .requestStop | .tick | .setValue .. => false
  | _ => true

namespace Scope

variable {σ : Type}

/-- Properties that a sequence has once its parts have them. -/
structure Composes (P : ∀ ⦃α : Type⦄, Work σ α → Prop) : Prop where
  pure {α : Type} (a : α) : P (pure a : Work σ α)
  throw {α : Type} (fault : Fault) : P (throw fault : Work σ α)
  get : P (get : Work σ (Scope σ))
  bind {α β : Type} {x : Work σ α} {f : α → Work σ β} (first : P x) (rest : ∀ a, P (f a)) :
    P (x >>= f)

theorem composes_keeps {β : Type} (observe : Scope σ → β) :
    Composes fun ⦃α : Type⦄ (x : Work σ α) => ∀ scope, observe (final x scope) = observe scope where
  pure _ _ := rfl
  throw _ _ := rfl
  get _ := rfl
  bind := by
    intro α β x f first rest scope
    refine bind_cases (P := fun _ (after : Scope σ) => observe after = observe scope) ?_ ?_
    · intro _ _
      exact first scope
    · intro a _
      rw [rest a, first scope]

namespace Composes

variable {P : ∀ ⦃α : Type⦄, Work σ α → Prop} (h : Composes P) {α : Type}

include h

theorem ofExcept (r : Except Fault α) : P (Scope.ofExcept r : Work σ α) := by
  cases r with
  | ok a => exact h.pure a
  | error fault => exact h.throw fault

theorem checked {refused : Prop} [Decidable refused] {fault : Fault} {x : Work σ α} (hx : P x) :
    P (if refused then MonadExcept.throw fault >>= fun _ : PUnit => x else x) := by
  split
  · exact h.bind (h.throw fault) fun _ => hx
  · exact hx

variable [Transport σ] {handle : Handle} (refresh : P (Scope.refresh (σ := σ) handle))

include refresh

private theorem snapshot : P (Scope.snapshot (σ := σ) handle) := by
  unfold Scope.snapshot
  refine h.bind h.get fun scope => ?_
  split
  · exact h.pure _
  · exact refresh

private theorem channel (index : Nat) : P (Scope.channel (σ := σ) handle index) := by
  unfold Scope.channel
  refine h.bind (h.snapshot refresh) fun s => ?_
  split
  · exact h.ofExcept _
  · exact h.throw _

theorem getValue (key : Key) (index : Option Nat) :
    P (Scope.getValue (σ := σ) handle key index) := by
  unfold Scope.getValue
  refine h.bind (h.ofExcept _) fun x => ?_
  split
  · split
    · exact h.pure _
    · exact h.throw _
  · exact h.bind h.get fun _ => h.pure _
  · exact h.pure _
  · exact h.bind (h.snapshot refresh) fun _ => h.ofExcept _

theorem listValues (key : Key) (index : Option Nat) :
    P (Scope.listValues (σ := σ) handle key index) := by
  unfold Scope.listValues
  refine h.bind (h.ofExcept _) fun x => ?_
  split
  · exact h.checked (h.pure _)
  · exact h.checked (h.bind (h.snapshot refresh) fun _ => h.ofExcept _)

theorem perform
    (echo : ∀ bytes, P (onLine (Link.request (σ := σ) handle.tuning .echo bytes 512)))
    {call : Call} (looks : call.looks = true) : P (call.perform (σ := σ) handle) := by
  cases call with
  | start | requestStop | tick | setValue => cases looks
  | refresh => exact h.bind refresh fun _ => h.pure _
  | shadow => exact h.bind h.get fun _ => h.pure _
  | model => exact h.bind (h.bind (h.snapshot refresh) fun _ => h.pure _) fun _ => h.pure _
  | channel index => exact h.bind (h.channel refresh index) fun _ => h.pure _
  | echo bytes => exact h.bind (h.bind (echo bytes) fun _ => h.pure _) fun _ => h.pure _
  | getValue key index => exact h.bind (h.getValue refresh key index) fun _ => h.pure _
  | listValues key index => exact h.bind (h.listValues refresh key index) fun _ => h.pure _

end Composes

end Scope

end Oscilloscope
