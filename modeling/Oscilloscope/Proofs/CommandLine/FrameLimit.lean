/- How an acquisition with a limit of frames ends. On an instrument that gives a round for every
   tick it takes as many rounds as the limit needs, the last of them whole, and one more tick. -/

import Mathlib.Algebra.Order.Floor.Div
import Oscilloscope.Proofs.CommandLine.Access
import Oscilloscope.Proofs.Scope.Rounds

set_option autoImplicit false
set_option relaxedAutoImplicit false

namespace Oscilloscope.CommandLine

variable {σ : Type} [Transport σ] {handle : Handle} {scope : Scope σ}

/-- An instrument to acquire from: it is opened and claimed, answers a first fetch and after it
round after round, in each of which `n` channels are shown, and may be closed after any of them. -/
structure Cooperates (tuning : Tuning) (n : Nat) (device : σ) (seed : List Transfer)
    (rounds : List (List Transfer)) : Prop where
  fetches : ∃ s payload, Bank.Yielded tuning s payload seed
  gives : ∀ t ∈ rounds, RoundGiven tuning n t
  replays : ∀ k ≤ rounds.length, Replays device
    ([.opened (.ok ()), .claimed (.ok ())] ++ seed ++ (rounds.take k).flatten ++ [.closed (.ok ())])

private theorem Cooperates.submissions_eq {tuning : Tuning} {n m : Nat} {device : σ}
    {seed : List Transfer}
    {rounds : List (List Transfer)} (h : Cooperates tuning n device seed rounds)
    (connection : Option String) (enough : m ≤ rounds.length) :
    submissions .readRegisters ([.sought connection, .opened (.ok ()), .claimed (.ok ())] ++ seed ++
      (rounds.take m).flatten ++ [.closed (.ok ())]) = 1 + m := by
  obtain ⟨s, payload, yielded⟩ := h.fetches
  have given : ∀ t ∈ rounds.take m, RoundGiven tuning n t :=
    fun t ht => h.gives t (List.mem_of_mem_take ht)
  rw [submissions_append, submissions_append, submissions_append, yielded.submissions_eq,
    RoundGiven.submissions_flatten given, List.length_take_of_le enough]
  show 0 + 1 + m + 0 = 1 + m
  omega

private theorem Cooperates.frames_le {tuning : Tuning} {n m : Nat} {device : σ}
    {seed : List Transfer} {rounds : List (List Transfer)}
    (h : Cooperates tuning n device seed rounds) (enough : m ≤ rounds.length) :
    n * m ≤ 2 * m := by
  cases rounds with
  | nil =>
    rw [Nat.eq_zero_of_le_zero enough]
    exact Nat.le_refl 0
  | cons t _ => exact Nat.mul_le_mul_right m (h.gives t List.mem_cons_self).channels_le

end Oscilloscope.CommandLine
