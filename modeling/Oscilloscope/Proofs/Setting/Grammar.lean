/- The grammar of the values that are read from text. What is accepted is said by rules alone, over
   the text without the blanks around it, and the reader is shown to accept that and no more. -/

import Mathlib.Data.List.DropRight
import Oscilloscope.Proofs.Setting.Text

set_option autoImplicit false
set_option relaxedAutoImplicit false

namespace Oscilloscope

namespace Text

variable {cs bare front back rest : List Char} {sep : Char}

/-- The text is `bare` with blanks around it, and `bare` has none at its own ends. -/
structure Trimmed (cs bare : List Char) : Prop where
  around : ∃ front back, cs = front ++ (bare ++ back) ∧
    (∀ c ∈ front, isBlank c = true) ∧ ∀ c ∈ back, isBlank c = true
  first : ∀ c ∈ bare.head?, isBlank c = false
  last : ∀ c ∈ bare.getLast?, isBlank c = false

private theorem dropWhile_eq_self (first : ∀ c ∈ rest.head?, isBlank c = false) :
    rest.dropWhile isBlank = rest := by
  cases rest with
  | nil => rfl
  | cons c rest =>
    have solid : isBlank c = false := first c rfl
    exact List.dropWhile_cons_of_neg (ne_true_of_eq_false solid)

private theorem Trimmed.trim_eq (h : Trimmed cs bare) : trim cs = bare := by
  obtain ⟨front, back, rfl, blank, trailing⟩ := h.around
  rw [trim, List.dropWhile_append_of_pos blank]
  cases bare with
  | nil =>
    rw [List.nil_append, List.dropWhile_eq_nil_iff.mpr trailing]
    rfl
  | cons c bare =>
    have kept : (c :: bare ++ back).dropWhile isBlank = c :: bare ++ back :=
      dropWhile_eq_self h.first
    have last : ∀ c' ∈ (c :: bare).reverse.head?, isBlank c' = false := by
      rw [List.head?_reverse]
      exact h.last
    have backwards : ∀ c' ∈ back.reverse, isBlank c' = true := fun c' hc =>
      trailing c' (List.mem_reverse.mp hc)
    rw [kept, List.reverse_append, List.dropWhile_append_of_pos backwards, dropWhile_eq_self last,
      List.reverse_reverse]

private theorem trimmed_trim (cs : List Char) : Trimmed cs (trim cs) := by
  have whole : cs.dropWhile isBlank = trim cs ++ (cs.dropWhile isBlank).rtakeWhile isBlank :=
    List.rdropWhile_append_rtakeWhile.symm
  refine ⟨⟨cs.takeWhile isBlank, (cs.dropWhile isBlank).rtakeWhile isBlank, ?_, ?_, ?_⟩, ?_, ?_⟩
  · rw [← whole, List.takeWhile_append_dropWhile]
  · exact fun c hc => List.mem_takeWhile_imp hc
  · exact fun c hc => List.mem_rtakeWhile_imp hc
  · intro c hc
    -- The blanks at the front went first, so what the text starts with now is what was left.
    have head : (cs.dropWhile isBlank).head? = some c := by
      rw [whole, List.head?_append, Option.mem_def.mp hc]
      rfl
    have solid := List.head?_dropWhile_not isBlank cs
    rw [head] at solid
    exact solid
  · intro c hc
    obtain ⟨nonempty, rfl⟩ := List.mem_getLast?_eq_getLast hc
    exact eq_false_of_ne_true (List.rdropWhile_last_not isBlank _ nonempty)

private theorem splitAtFirst_eq_none_iff : splitAtFirst sep cs = none ↔ sep ∉ cs := by
  induction cs with
  | nil => simp [splitAtFirst]
  | cons c cs ih =>
    rw [splitAtFirst, List.mem_cons, not_or]
    split
    · rename_i here
      simp [here]
    · rename_i further
      rw [Option.map_eq_none_iff, ih]
      exact ⟨fun absent => ⟨Ne.symm further, absent⟩, And.right⟩

private theorem splitAtFirst_eq_some_iff :
    splitAtFirst sep cs = some (front, back) ↔ cs = front ++ sep :: back ∧ sep ∉ front := by
  constructor
  · intro split
    induction cs generalizing front with
    | nil => cases split
    | cons c cs ih =>
      rw [splitAtFirst] at split
      split at split
      · rename_i here
        cases split
        exact ⟨congrArg (· :: back) here, List.not_mem_nil⟩
      · rename_i further
        obtain ⟨⟨tail, rest⟩, found, parts⟩ := Option.map_eq_some_iff.mp split
        cases parts
        obtain ⟨rfl, absent⟩ := ih found
        exact ⟨rfl, List.not_mem_cons_of_ne_of_not_mem (Ne.symm further) absent⟩
  · rintro ⟨rfl, absent⟩
    exact splitAtFirst_append absent

end Text

namespace Decimal

variable {cs : List Char} {n bound : Nat} {z low high : Int}

/-- One or more digits and their value: each further digit counts for ten times less. -/
inductive Numeral : List Char → Nat → Prop
  | digit {d : Nat} (small : d < 10) : Numeral [d.digitChar] d
  | more {cs : List Char} {n d : Nat} (front : Numeral cs n) (small : d < 10) :
      Numeral (cs ++ [d.digitChar]) (10 * n + d)

inductive Unsigned : List Char → Nat → Prop
  | bare {cs : List Char} {n : Nat} (digits : Numeral cs n) : Unsigned cs n
  | plus {cs : List Char} {n : Nat} (digits : Numeral cs n) : Unsigned ('+' :: cs) n

inductive Signed : List Char → Int → Prop
  | bare {cs : List Char} {n : Nat} (digits : Numeral cs n) : Signed cs n
  | plus {cs : List Char} {n : Nat} (digits : Numeral cs n) : Signed ('+' :: cs) n
  | minus {cs : List Char} {n : Nat} (digits : Numeral cs n) : Signed ('-' :: cs) (-n)

private theorem exists_digitChar {c : Char} (digit : c.isDigit = true) :
    ∃ d, d < 10 ∧ d.digitChar = c ∧ c.toNat - '0'.toNat = d := by
  have range : 48 ≤ c.toNat ∧ c.toNat ≤ 57 := Char.isDigit_iff_toNat.mp digit
  have small : c.toNat - 48 < 10 := by omega
  refine ⟨c.toNat - 48, small, Char.toNat_inj.mp ?_, rfl⟩
  rw [Nat.toNat_digitChar_of_lt_ten small]
  omega

private theorem ofDigitChars_append_digit (cs : List Char) (c : Char) :
    Nat.ofDigitChars 10 (cs ++ [c]) 0 = 10 * Nat.ofDigitChars 10 cs 0 + (c.toNat - '0'.toNat) := by
  rw [Nat.ofDigitChars_append, Nat.ofDigitChars_cons, Nat.ofDigitChars_nil]

private theorem numeral_of_digits (nonempty : cs ≠ []) (digits : ∀ c ∈ cs, c.isDigit = true) :
    Numeral cs (Nat.ofDigitChars 10 cs 0) := by
  -- A numeral grows at its end, as its value does.
  induction cs using List.reverseRecOn with
  | nil => exact absurd rfl nonempty
  | append_singleton cs c ih =>
    obtain ⟨d, small, rfl, value⟩ := exists_digitChar (digits c (by simp))
    rw [ofDigitChars_append_digit, value]
    by_cases first : cs = []
    · subst first
      simpa using Numeral.digit small
    · exact .more (ih first fun c hc => digits c (List.mem_append_left _ hc)) small

private theorem Numeral.isDigit (h : Numeral cs n) : ∀ c ∈ cs, c.isDigit = true := by
  induction h with
  | digit small =>
    intro c hc
    rw [List.mem_singleton.mp hc, Nat.isDigit_digitChar]
    exact decide_eq_true small
  | more front small ih =>
    intro c hc
    obtain hc | hc := List.mem_append.mp hc
    · exact ih c hc
    · rw [List.mem_singleton.mp hc, Nat.isDigit_digitChar]
      exact decide_eq_true small

private theorem Numeral.value (h : Numeral cs n) : cs ≠ [] ∧ Nat.ofDigitChars 10 cs 0 = n := by
  induction h with
  | @digit d small =>
    have value := Nat.toNat_digitChar_of_lt_ten small
    refine ⟨List.cons_ne_nil _ _, ?_⟩
    rw [← List.nil_append [d.digitChar], ofDigitChars_append_digit, value]
    simp
  | @more front n d _ small ih =>
    have value := Nat.toNat_digitChar_of_lt_ten small
    refine ⟨List.append_ne_nil_of_right_ne_nil _ (List.cons_ne_nil _ _), ?_⟩
    rw [ofDigitChars_append_digit, value, ih.2]
    simp

private theorem Numeral.readDigits? (h : Numeral cs n) : readDigits? cs = some n := by
  obtain ⟨nonempty, rfl⟩ := h.value
  exact if_pos ⟨nonempty, List.all_eq_true.mpr h.isDigit⟩

private theorem readDigits?_eq_some_iff : readDigits? cs = some n ↔ Numeral cs n := by
  constructor
  · intro read
    rw [Decimal.readDigits?] at read
    split at read
    · rename_i digits
      cases read
      exact numeral_of_digits digits.1 (List.all_eq_true.mp digits.2)
    · cases read
  · exact Numeral.readDigits?

private theorem Numeral.ne_cons {sign : Char} (h : Numeral cs n) (other : sign.isDigit = false)
    (rest : List Char) : cs ≠ sign :: rest := by
  rintro rfl
  have digit := h.isDigit sign List.mem_cons_self
  rw [other] at digit
  cases digit

private theorem readNatural?_eq_some_iff :
    readNatural? bound cs = some n ↔ Unsigned cs n ∧ n < bound := by
  unfold readNatural?
  rw [Option.filter_eq_some_iff, decide_eq_true_iff]
  refine and_congr_left fun _ => ?_
  split
  · rename_i rest
    rw [readDigits?_eq_some_iff]
    refine ⟨.plus, fun h => ?_⟩
    cases h with
    | bare digits => exact absurd rfl (digits.ne_cons rfl rest)
    | plus digits => exact digits
  · rename_i unsigned
    rw [readDigits?_eq_some_iff]
    refine ⟨.bare, fun h => ?_⟩
    cases h with
    | bare digits => exact digits
    | plus digits => exact absurd rfl (unsigned _)

private theorem readDigits?_lift_eq_some_iff :
    (do let n ← readDigits? cs; pure (n : Int)) = some z ↔ ∃ n : Nat, Numeral cs n ∧ z = n := by
  constructor
  · intro read
    obtain ⟨n, digits, whole⟩ := Option.bind_eq_some_iff.mp read
    cases whole
    exact ⟨n, readDigits?_eq_some_iff.mp digits, rfl⟩
  · rintro ⟨n, digits, rfl⟩
    rw [digits.readDigits?]
    rfl

private theorem readInteger?_eq_some_iff :
    readInteger? low high cs = some z ↔ Signed cs z ∧ low ≤ z ∧ z ≤ high := by
  unfold readInteger?
  rw [Option.filter_eq_some_iff, decide_eq_true_iff]
  refine and_congr_left fun _ => ?_
  split
  · rename_i rest
    simp only [Option.map_eq_some_iff, readDigits?_lift_eq_some_iff]
    refine ⟨?_, fun h => ?_⟩
    · rintro ⟨_, ⟨n, digits, rfl⟩, rfl⟩
      exact .minus digits
    · cases h with
      | bare digits => exact absurd rfl (digits.ne_cons rfl rest)
      | minus digits => exact ⟨_, ⟨_, digits, rfl⟩, rfl⟩
  · rename_i rest
    simp only [Option.map_id', readDigits?_lift_eq_some_iff]
    refine ⟨?_, fun h => ?_⟩
    · rintro ⟨n, digits, rfl⟩
      exact .plus digits
    · cases h with
      | bare digits => exact absurd rfl (digits.ne_cons rfl rest)
      | plus digits => exact ⟨_, digits, rfl⟩
  · rename_i negative positive
    simp only [Option.map_id', readDigits?_lift_eq_some_iff]
    refine ⟨?_, fun h => ?_⟩
    · rintro ⟨n, digits, rfl⟩
      exact .bare digits
    · cases h with
      | bare digits => exact ⟨_, digits, rfl⟩
      | plus digits => exact absurd rfl (positive _)
      | minus digits => exact absurd rfl (negative _)

end Decimal

namespace Value

variable {cs : List Char} {text : String} {v : Value}

/-- A fraction as it is written: a number over one, or a number on either side of the first slash,
with blanks around them, and not over zero. -/
inductive Fraction : List Char → Ratio → Prop
  | whole {cs : List Char} {num : UInt64} (undivided : '/' ∉ cs)
      (number : Decimal.Unsigned cs num.toNat) : Fraction cs ⟨num, 1⟩
  | divided {front back above below : List Char} {r : Ratio} (first : '/' ∉ front)
      (upper : Text.Trimmed front above) (number : Decimal.Unsigned above r.num.toNat)
      (lower : Text.Trimmed back below) (divisor : Decimal.Unsigned below r.den.toNat)
      (proper : r.den ≠ 0) : Fraction (front ++ '/' :: back) r

def spellings : Bool → List String
  | true => ["true", "on", "1"]
  | false => ["false", "off", "0"]

private theorem readWord?_eq_some_iff {n : UInt64} :
    readWord? cs = some n ↔ Decimal.Unsigned cs n.toNat := by
  simp only [readWord?, Option.map_eq_some_iff, Decimal.readNatural?_eq_some_iff]
  constructor
  · rintro ⟨m, ⟨number, small⟩, rfl⟩
    rwa [UInt64.toNat_ofNat_of_lt' small]
  · intro number
    exact ⟨n.toNat, ⟨number, n.toNat_lt⟩, UInt64.ofNat_toNat⟩

private theorem readFlag?_eq_some_iff {b : Bool} :
    readFlag? text = some b ↔ text ∈ spellings b := by
  rw [readFlag?]
  split
  · rename_i yes
    have other : text ∉ spellings false := by
      obtain rfl | rfl | rfl := yes <;> decide
    cases b with
    | true => simpa [spellings] using yes
    | false => simpa using other
  · rename_i unyes
    have other : text ∉ spellings true := by
      simpa [spellings] using unyes
    split
    · rename_i no
      cases b with
      | true => simpa using other
      | false => simpa [spellings] using no
    · rename_i unno
      cases b with
      | true => simpa using other
      | false => simpa [spellings] using unno

private theorem readWord?_one : readWord? (Text.trim ['1']) = some 1 := by
  decide

private theorem fraction_of_readRatio? {r : Ratio} (solid : Text.Trimmed cs cs)
    (read : readRatio? cs = some r) : Fraction cs r := by
  cases parts : Text.splitAtFirst '/' cs with
  | none =>
    simp only [readRatio?, parts, Option.getD_none, solid.trim_eq, readWord?_one] at read
    obtain ⟨num, number, read⟩ := Option.bind_eq_some_iff.mp read
    cases read
    exact .whole (Text.splitAtFirst_eq_none_iff.mp parts) (readWord?_eq_some_iff.mp number)
  | some halves =>
    obtain ⟨front, back⟩ := halves
    simp only [readRatio?, parts, Option.getD_some] at read
    obtain ⟨num, number, read⟩ := Option.bind_eq_some_iff.mp read
    obtain ⟨den, divisor, read⟩ := Option.bind_eq_some_iff.mp read
    split at read
    · cases read
    · rename_i proper
      cases read
      obtain ⟨rfl, first⟩ := Text.splitAtFirst_eq_some_iff.mp parts
      exact .divided first (Text.trimmed_trim front) (readWord?_eq_some_iff.mp number)
        (Text.trimmed_trim back) (readWord?_eq_some_iff.mp divisor) proper

private theorem Fraction.readRatio? {r : Ratio} (solid : Text.Trimmed cs cs) (h : Fraction cs r) :
    readRatio? cs = some r := by
  cases h with
  | whole undivided number =>
    have parts := Text.splitAtFirst_eq_none_iff.mpr undivided
    have upper := readWord?_eq_some_iff.mpr number
    simp only [Value.readRatio?, parts, Option.getD_none, solid.trim_eq, readWord?_one, upper]
    rfl
  | @divided front back above below _ first upper number lower divisor proper =>
    have parts : Text.splitAtFirst '/' (front ++ '/' :: back) = some (front, back) :=
      Text.splitAtFirst_append first
    have num := readWord?_eq_some_iff.mpr number
    have den := readWord?_eq_some_iff.mpr divisor
    simp only [Value.readRatio?, parts, Option.getD_some, upper.trim_eq, lower.trim_eq, num, den]
    exact if_neg proper

/-- What a text stands for as a value of some kind, once the blanks around it are gone. Real
numbers are left to the floating point format. -/
inductive Denotes (cs : List Char) : ValueKind → Value → Prop
  | flag {b : Bool} (spelled : String.ofList cs ∈ spellings b) : Denotes cs .flag (.flag b)
  | natural {n : UInt64} (number : Decimal.Unsigned cs n.toNat) : Denotes cs .natural (.natural n)
  | integer {n : Int32} (number : Decimal.Signed cs n.toInt) : Denotes cs .integer (.integer n)
  | ratio {r : Ratio} (fraction : Fraction cs r) : Denotes cs .ratio (.ratio r)
  | text : Denotes cs .text (.text (String.ofList cs))

private theorem readInt32?_eq_some_iff {n : Int32} :
    (∃ z, Decimal.readInteger? Int32.minValue.toInt Int32.maxValue.toInt cs = some z ∧
      Int32.ofInt z = n) ↔ Decimal.Signed cs n.toInt := by
  simp only [Decimal.readInteger?_eq_some_iff]
  constructor
  · rintro ⟨z, ⟨number, low, high⟩, rfl⟩
    rwa [Int32.toInt_ofInt_of_le low (Int.lt_add_one_of_le high)]
  · intro number
    exact ⟨n.toInt, ⟨number, n.le_toInt, Int.le_of_lt_add_one n.toInt_lt⟩, Int32.ofInt_toInt n⟩

private theorem parse?_eq_some_iff {kind : ValueKind} (whole : kind ≠ .real)
    (bare : Text.Trimmed text.toList cs) : parse? kind text = some v ↔ Denotes cs kind v := by
  have solid : Text.Trimmed cs cs := ⟨⟨[], [], by simp⟩, bare.first, bare.last⟩
  cases kind with
  | real => exact absurd rfl whole
  | flag =>
    simp only [parse?, bare.trim_eq, Option.map_eq_some_iff, readFlag?_eq_some_iff]
    constructor
    · rintro ⟨b, spelled, rfl⟩
      exact .flag spelled
    · intro h
      cases h with
      | flag spelled => exact ⟨_, spelled, rfl⟩
  | natural =>
    simp only [parse?, bare.trim_eq, Option.map_eq_some_iff, readWord?_eq_some_iff]
    constructor
    · rintro ⟨n, number, rfl⟩
      exact .natural number
    · intro h
      cases h with
      | natural number => exact ⟨_, number, rfl⟩
  | integer =>
    simp only [parse?, bare.trim_eq, Option.map_eq_some_iff]
    constructor
    · rintro ⟨z, read, rfl⟩
      exact .integer (readInt32?_eq_some_iff.mp ⟨z, read, rfl⟩)
    · intro h
      cases h with
      | integer number =>
        obtain ⟨z, read, rfl⟩ := readInt32?_eq_some_iff.mpr number
        exact ⟨z, read, rfl⟩
  | ratio =>
    simp only [parse?, bare.trim_eq, Option.map_eq_some_iff]
    constructor
    · rintro ⟨r, read, rfl⟩
      exact .ratio (fraction_of_readRatio? solid read)
    · intro h
      cases h with
      | ratio fraction => exact ⟨_, fraction.readRatio? solid, rfl⟩
  | text =>
    simp only [parse?, bare.trim_eq, Option.some.injEq]
    constructor
    · rintro rfl
      exact .text
    · intro h
      cases h
      rfl

/-- Every text has one middle part that blanks surround, and what it stands for is read, nothing
else; numbers out of the range of their kind, an empty half of a fraction and a second slash are
refused with it. Read as its own kind, what is shown of a flag, of either kind of number, of a
fraction that is not over zero and of a text without blanks at its ends gives the value back. -/
theorem parse?_reads_grammar :
    (∀ text : String, ∃ cs, Text.Trimmed text.toList cs ∧
      (∀ other, Text.Trimmed text.toList other → other = cs) ∧
      ∀ kind, kind ≠ .real → ∀ v, parse? kind text = some v ↔ Denotes cs kind v) ∧
    (∀ b, parse? .flag (flag b).display = some (.flag b)) ∧
    (∀ n, parse? .natural (natural n).display = some (.natural n)) ∧
    (∀ n, parse? .integer (integer n).display = some (.integer n)) ∧
    (∀ r : Ratio, r.den ≠ 0 → parse? .ratio (ratio r).display = some (.ratio r)) ∧
    ∀ s : String, Text.Trimmed s.toList s.toList →
      parse? .text (Value.text s).display = some (.text s) := by
  refine ⟨fun text => ?_, fun b => parse?_display (.flag b), fun n => parse?_display (.natural n),
    fun n => parse?_display (.integer n), fun r proper => parse?_display (.ratio proper),
    fun s solid => parse?_display (.text solid.trim_eq)⟩
  have bare := Text.trimmed_trim text.toList
  refine ⟨Text.trim text.toList, bare, fun other h => h.trim_eq.symm, fun kind whole v => ?_⟩
  exact parse?_eq_some_iff whole bare

theorem parse?_reads_grammar_of_six_fourths :
    parse? .ratio "\u00a0+6/ 004\t" = some (.ratio ⟨6, 4⟩) ∧
      parse? .ratio (ratio ⟨2, 1000⟩).display = some (.ratio ⟨2, 1000⟩) ∧
      parse? .text (Value.text "Peak Detect").display = some (.text "Peak Detect") := by
  obtain ⟨reads, -, -, -, ratios, texts⟩ := parse?_reads_grammar
  refine ⟨?_, ratios ⟨2, 1000⟩ (by decide),
    texts "Peak Detect" ⟨⟨[], [], rfl, nofun, nofun⟩, ?_, ?_⟩⟩
  · obtain ⟨cs, -, unique, reads⟩ := reads "\u00a0+6/ 004\t"
    have bare : "+6/ 004".toList = cs := by
      refine unique _ ⟨⟨['\u00a0'], ['\t'], rfl, List.forall_mem_singleton.mpr rfl,
        List.forall_mem_singleton.mpr rfl⟩, ?_, ?_⟩
      · rintro c ⟨⟩
        rfl
      · rintro c ⟨⟩
        rfl
    subst bare
    have six : Decimal.Numeral ['6'] 6 := .digit (by decide : 6 < 10)
    have zero : Decimal.Numeral ['0'] 0 := .digit (by decide : 0 < 10)
    have zeros : Decimal.Numeral ['0', '0'] 0 := zero.more (by decide : 0 < 10)
    have four : Decimal.Numeral ['0', '0', '4'] 4 := zeros.more (by decide : 4 < 10)
    have fraction : Fraction (['+', '6'] ++ '/' :: [' ', '0', '0', '4']) ⟨6, 4⟩ :=
      .divided (by decide) (Text.trimmed_trim _) (.plus six) (Text.trimmed_trim _) (.bare four)
        (by decide)
    exact (reads .ratio (by decide) _).mpr (.ratio fraction)
  · rintro c ⟨⟩
    rfl
  · rintro c ⟨⟩
    rfl

end Value

end Oscilloscope
