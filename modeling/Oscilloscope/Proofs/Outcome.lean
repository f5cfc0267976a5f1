/- What work comes to, and what it leaves behind. A fault is an outcome like any other, and work
   that fails leaves a state too, so both are total functions of the work and where it starts. -/

import Oscilloscope.Scope.Call

set_option autoImplicit false
set_option relaxedAutoImplicit false

namespace Oscilloscope

section

variable {ε σ α β : Type}

/-- The value of `x` from `s`, or its fault. -/
def result (x : EStateM ε σ α) (s : σ) : Except ε α :=
  match x s with
  | .ok a _ => .ok a
  | .error e _ => .error e

/-- The state that `x` leaves from `s`, with or without a fault. -/
def final (x : EStateM ε σ α) (s : σ) : σ :=
  match x s with
  | .ok _ t => t
  | .error _ t => t

@[simp] theorem result_pure (a : α) (s : σ) : result (pure a : EStateM ε σ α) s = .ok a := rfl

@[simp] theorem final_pure (a : α) (s : σ) : final (pure a : EStateM ε σ α) s = s := rfl

@[simp] theorem result_throw (e : ε) (s : σ) : result (throw e : EStateM ε σ α) s = .error e := rfl

@[simp] theorem final_throw (e : ε) (s : σ) : final (throw e : EStateM ε σ α) s = s := rfl

@[simp] theorem result_get (s : σ) : result (get : EStateM ε σ σ) s = .ok s := rfl

@[simp] theorem final_get (s : σ) : final (get : EStateM ε σ σ) s = s := rfl

@[simp] theorem result_modify (f : σ → σ) (s : σ) :
    result (modify f : EStateM ε σ PUnit) s = .ok ⟨⟩ := rfl

theorem result_bind (x : EStateM ε σ α) (f : α → EStateM ε σ β) (s : σ) :
    result (x >>= f) s = (result x s).bind fun a => result (f a) (final x s) := by
  unfold result final
  show (match EStateM.bind x f s with | .ok a _ => Except.ok a | .error e _ => .error e) = _
  unfold EStateM.bind
  cases x s <;> rfl

theorem final_bind (x : EStateM ε σ α) (f : α → EStateM ε σ β) (s : σ) :
    final (x >>= f) s =
      match result x s with
      | .ok a => final (f a) (final x s)
      | .error _ => final x s := by
  unfold result final
  show (match EStateM.bind x f s with | .ok _ t => t | .error _ t => t) = _
  unfold EStateM.bind
  cases x s <;> rfl

theorem bind_cases {x : EStateM ε σ α} {f : α → EStateM ε σ β} {s : σ}
    {P : Except ε β → σ → Prop} (stopped : ∀ e, result x s = .error e → P (.error e) (final x s))
    (followed : ∀ a, result x s = .ok a →
      P (result (f a) (final x s)) (final (f a) (final x s))) :
    P (result (x >>= f) s) (final (x >>= f) s) := by
  rw [result_bind, final_bind]
  cases h : result x s with
  | error e => exact stopped e h
  | ok a => exact followed a h

theorem final_bind_idle (x : EStateM ε σ α) {f : α → EStateM ε σ β}
    (idle : ∀ a t, final (f a) t = t) (s : σ) : final (x >>= f) s = final x s := by
  rw [final_bind]
  cases result x s with
  | ok a => exact idle a _
  | error e => rfl

theorem final_bind_pure (x : EStateM ε σ α) (f : α → β) (s : σ) :
    final (x >>= fun a => pure (f a)) s = final x s :=
  final_bind_idle x (fun _ _ => rfl) s

theorem result_bind_pure (x : EStateM ε σ α) (f : α → β) (s : σ) :
    result (x >>= fun a => pure (f a)) s = (result x s).map f := by
  rw [result_bind]
  cases result x s <;> rfl

theorem result_bind_ok {x : EStateM ε σ α} {s : σ} {a : α} (h : result x s = .ok a)
    (f : α → EStateM ε σ β) : result (x >>= f) s = result (f a) (final x s) := by
  rw [result_bind, h]
  rfl

theorem final_bind_ok {x : EStateM ε σ α} {s : σ} {a : α} (h : result x s = .ok a)
    (f : α → EStateM ε σ β) : final (x >>= f) s = final (f a) (final x s) := by
  rw [final_bind, h]

theorem result_bind_error {x : EStateM ε σ α} {s : σ} {e : ε} (h : result x s = .error e)
    (f : α → EStateM ε σ β) : result (x >>= f) s = .error e := by
  rw [result_bind, h]
  rfl

theorem final_bind_error {x : EStateM ε σ α} {s : σ} {e : ε} (h : result x s = .error e)
    (f : α → EStateM ε σ β) : final (x >>= f) s = final x s := by
  rw [final_bind, h]

theorem eq_ok_of_result {x : EStateM ε σ α} {s t : σ} {a : α} (h : result x s = .ok a)
    (left : final x s = t) : x s = .ok a t := by
  unfold result at h
  unfold final at left
  cases run : x s with
  | ok b u =>
    rw [run] at h left
    cases h
    cases left
    rfl
  | error e u =>
    rw [run] at h
    cases h

end

namespace Bank

variable {σ α : Type}

@[simp] theorem result_onLine (x : Exchange σ α) (bank : Bank σ) :
    result (onLine x) bank = result x bank.line := by
  unfold result onLine
  cases x bank.line <;> rfl

@[simp] theorem final_onLine (x : Exchange σ α) (bank : Bank σ) :
    final (onLine x) bank = { bank with line := final x bank.line } := by
  unfold final onLine
  cases x bank.line <;> rfl

theorem line_final_onLine (x : Exchange σ α) (bank : Bank σ) :
    (final (onLine x) bank).line = final x bank.line := by
  rw [final_onLine]

@[simp] theorem final_publish (s : Snapshot) (bank : Bank σ) :
    final (publish s) bank = { bank with published := some s } := rfl

end Bank

namespace Scope

variable {σ α : Type}

def withLine (scope : Scope σ) (line : Line σ) : Scope σ :=
  { scope with bank := { scope.bank with line } }

@[simp] theorem result_onBank (x : BankWork σ α) (scope : Scope σ) :
    result (onBank x) scope = result x scope.bank := by
  unfold result onBank
  cases x scope.bank <;> rfl

@[simp] theorem final_onBank (x : BankWork σ α) (scope : Scope σ) :
    final (onBank x) scope = { scope with bank := final x scope.bank } := by
  unfold final onBank
  cases x scope.bank <;> rfl

@[simp] theorem result_onLine (x : Exchange σ α) (scope : Scope σ) :
    result (onLine x) scope = result x scope.bank.line := by
  rw [onLine, result_onBank, Bank.result_onLine]

@[simp] theorem final_onLine (x : Exchange σ α) (scope : Scope σ) :
    final (onLine x) scope = scope.withLine (final x scope.bank.line) := by
  rw [onLine, final_onBank, Bank.final_onLine]
  rfl

@[simp] theorem result_ofExcept (r : Except Fault α) (scope : Scope σ) :
    result (ofExcept r) scope = r := by
  cases r <;> rfl

@[simp] theorem final_ofExcept (r : Except Fault α) (scope : Scope σ) :
    final (ofExcept r) scope = scope := by
  cases r <;> rfl

end Scope

end Oscilloscope
