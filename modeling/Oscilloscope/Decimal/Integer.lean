/- Decimal integers with an optional sign, bounded by the width they are read into. -/

set_option autoImplicit false
set_option relaxedAutoImplicit false

namespace Oscilloscope.Decimal

/-- The value of one or more ASCII digits. -/
def readDigits? (cs : List Char) : Option Nat :=
  if cs ≠ [] ∧ cs.all Char.isDigit then some (Nat.ofDigitChars 10 cs 0) else none

/-- Digits after at most one plus sign, with a value below `bound`. -/
def readNatural? (bound : Nat) (cs : List Char) : Option Nat :=
  let digits := match cs with
    | '+' :: rest => rest
    | _ => cs
  (readDigits? digits).filter (· < bound)

/-- Digits after at most one sign, with a value from `low` to `high`. -/
def readInteger? (low high : Int) (cs : List Char) : Option Int :=
  let value := match cs with
    | '-' :: rest => (readDigits? rest).map fun n => -(n : Int)
    | '+' :: rest => (readDigits? rest).map fun n => (n : Int)
    | _ => (readDigits? cs).map fun n => (n : Int)
  value.filter fun n => low ≤ n ∧ n ≤ high

theorem readDigits?_toDigits (n : Nat) : readDigits? (Nat.toDigits 10 n) = some n := by
  have hall : (Nat.toDigits 10 n).all Char.isDigit = true := by
    rw [List.all_eq_true]
    intro c hc
    exact Nat.isDigit_of_mem_toDigits (by decide) (by decide) hc
  simp [readDigits?, hall, Nat.toDigits_ne_nil, Nat.ofDigitChars_ten_toDigits]

end Oscilloscope.Decimal
