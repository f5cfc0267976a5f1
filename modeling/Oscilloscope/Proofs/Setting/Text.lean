/- Values read back from the text they are shown as. Numbers are shown as plain digits, so neither
   blanks nor signs nor slashes are in the way; a text stands for itself unless blanks surround it.
   -/

import Mathlib.Data.List.TakeWhile
import Oscilloscope.Setting.Value

set_option autoImplicit false
set_option relaxedAutoImplicit false

namespace Oscilloscope

namespace Text

private theorem trim_eq_self {cs : List Char} (solid : ∀ c ∈ cs, isBlank c = false) :
    trim cs = cs := by
  have kept {cs : List Char} (solid : ∀ c ∈ cs, isBlank c = false) : cs.dropWhile isBlank = cs := by
    refine List.dropWhile_eq_self_iff.mpr fun nonempty => ?_
    rw [solid _ (List.getElem_mem nonempty)]
    exact Bool.false_ne_true
  have backwards : ∀ c ∈ cs.reverse, isBlank c = false := fun c hc =>
    solid c (List.mem_reverse.mp hc)
  rw [trim, kept solid, kept backwards, List.reverse_reverse]

theorem splitAtFirst_append {sep : Char} {front back : List Char} (absent : sep ∉ front) :
    splitAtFirst sep (front ++ sep :: back) = some (front, back) := by
  induction front with
  | nil => exact if_pos rfl
  | cons c front ih =>
    obtain ⟨head, tail⟩ := List.ne_and_not_mem_of_not_mem_cons absent
    rw [List.cons_append, splitAtFirst, if_neg (Ne.symm head), ih tail]
    rfl

private theorem isBlank_of_isDigit {c : Char} (digit : c.isDigit = true) : isBlank c = false := by
  have range : 48 ≤ c.toNat ∧ c.toNat ≤ 57 := by
    simpa [Char.isDigit, UInt32.le_iff_toNat_le] using digit
  simp only [isBlank, Bool.or_eq_false_iff, Bool.and_eq_false_iff, decide_eq_false_iff_not,
    beq_eq_false_iff_ne]
  omega

end Text

namespace Decimal

abbrev digits (n : Nat) : List Char :=
  Nat.toDigits 10 n

private theorem isDigit_of_mem {n : Nat} {c : Char} (hc : c ∈ digits n) : c.isDigit = true :=
  Nat.isDigit_of_mem_toDigits (by decide) (by decide) hc

private theorem not_mem_digits {c : Char} (other : c.isDigit = false) (n : Nat) : c ∉ digits n := by
  intro hc
  rw [isDigit_of_mem hc] at other
  cases other

private theorem trim_digits (n : Nat) : Text.trim (digits n) = digits n :=
  Text.trim_eq_self fun _ hc => Text.isBlank_of_isDigit (isDigit_of_mem hc)

private theorem readNatural?_digits {n bound : Nat} (small : n < bound) :
    readNatural? bound (digits n) = some n := by
  have unsigned : ∀ rest, digits n ≠ '+' :: rest := by
    intro rest h
    exact not_mem_digits (c := '+') rfl n (h ▸ List.mem_cons_self)
  unfold readNatural?
  split
  · rename_i rest h
    exact absurd h (unsigned rest)
  · simp only [digits, readDigits?_toDigits]
    simpa using small

private theorem toList_toString_ofNat (n : Nat) : (toString (n : Int)).toList = digits n :=
  Nat.toList_repr

private theorem toList_toString_negSucc (n : Nat) :
    (toString (Int.negSucc n)).toList = '-' :: digits (n + 1) := by
  show ("-" ++ (n + 1).repr).toList = _
  rw [String.toList_append, Nat.toList_repr]
  rfl

private theorem trim_integer (n : Int) : Text.trim (toString n).toList = (toString n).toList := by
  refine Text.trim_eq_self fun c hc => ?_
  cases n with
  | ofNat n =>
    rw [Int.ofNat_eq_natCast, toList_toString_ofNat] at hc
    exact Text.isBlank_of_isDigit (isDigit_of_mem hc)
  | negSucc n =>
    rw [toList_toString_negSucc] at hc
    obtain rfl | hc := List.mem_cons.mp hc
    · rfl
    · exact Text.isBlank_of_isDigit (isDigit_of_mem hc)

private theorem readInteger?_toString {low high n : Int} (above : low ≤ n) (below : n ≤ high) :
    readInteger? low high (toString n).toList = some n := by
  have within : (decide (low ≤ n ∧ n ≤ high)) = true := decide_eq_true ⟨above, below⟩
  cases n with
  | ofNat n =>
    have unsigned {sign : Char} (other : sign.isDigit = false) (rest : List Char) :
        digits n ≠ sign :: rest := by
      intro h
      exact not_mem_digits other n (h ▸ List.mem_cons_self)
    rw [Int.ofNat_eq_natCast] at within ⊢
    rw [toList_toString_ofNat]
    unfold readInteger?
    split
    · rename_i rest h
      exact absurd h (unsigned rfl rest)
    · rename_i rest h
      exact absurd h (unsigned rfl rest)
    · rw [readDigits?_toDigits]
      exact if_pos within
  | negSucc n =>
    rw [toList_toString_negSucc, readInteger?, readDigits?_toDigits]
    exact if_pos within

end Decimal

namespace Value

private theorem readWord?_digits (n : UInt64) : readWord? (Decimal.digits n.toNat) = some n := by
  rw [readWord?, Decimal.readNatural?_digits n.toNat_lt, Option.map_some, UInt64.ofNat_toNat]

private theorem toList_text (r : Ratio) :
    r.text.toList = Decimal.digits r.num.toNat ++ '/' :: Decimal.digits r.den.toNat := by
  rw [Ratio.text, String.toList_append, String.toList_append, List.append_assoc]
  exact congrArg₂ (fun a b => a ++ '/' :: b) Nat.toList_repr Nat.toList_repr

private theorem trim_text (r : Ratio) : Text.trim r.text.toList = r.text.toList := by
  refine Text.trim_eq_self fun c hc => ?_
  rw [toList_text, List.mem_append, List.mem_cons] at hc
  obtain hc | rfl | hc := hc
  · exact Text.isBlank_of_isDigit (Decimal.isDigit_of_mem hc)
  · rfl
  · exact Text.isBlank_of_isDigit (Decimal.isDigit_of_mem hc)

private theorem readRatio?_text {r : Ratio} (proper : r.den ≠ 0) :
    readRatio? r.text.toList = some r := by
  have split : Text.splitAtFirst '/' r.text.toList =
      some (Decimal.digits r.num.toNat, Decimal.digits r.den.toNat) := by
    rw [toList_text]
    exact Text.splitAtFirst_append (Decimal.not_mem_digits rfl _)
  simp only [readRatio?, split, Option.getD_some, Decimal.trim_digits, readWord?_digits]
  exact if_neg proper

/-- The values that are read back from their text, each with the kind it is read as. -/
inductive ReadsAs : Value → ValueKind → Prop
  | flag (b : Bool) : ReadsAs (.flag b) .flag
  | natural (n : UInt64) : ReadsAs (.natural n) .natural
  | integer (n : Int32) : ReadsAs (.integer n) .integer
  | text {s : String} (bare : Text.trim s.toList = s.toList) : ReadsAs (.text s) .text
  | ratio {r : Ratio} (proper : r.den ≠ 0) : ReadsAs (.ratio r) .ratio

theorem parse?_display {v : Value} {kind : ValueKind} (h : v.ReadsAs kind) :
    parse? kind v.display = some v := by
  cases h with
  | flag b => cases b <;> decide
  | natural n =>
    have text : (toString n.toNat).toList = Decimal.digits n.toNat := Nat.toList_repr
    simp only [parse?, display, text, Decimal.trim_digits, readWord?_digits, Option.map_some]
  | integer n =>
    have low : Int32.minValue.toInt ≤ n.toInt := n.le_toInt
    have high : n.toInt ≤ Int32.maxValue.toInt := Int.le_of_lt_add_one n.toInt_lt
    simp only [parse?, display, Decimal.trim_integer, Decimal.readInteger?_toString low high,
      Option.map_some, Int32.ofInt_toInt]
  | text bare => simp only [parse?, display, bare, String.ofList_toList]
  | ratio proper =>
    simp only [parse?, display, trim_text, readRatio?_text proper, Option.map_some]

end Value

end Oscilloscope
