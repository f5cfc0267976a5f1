/- Menus. A setting with a closed table is shown as one of a few values, and is put by naming one of
   them: a value is taken for the row whose value it agrees with, and for no other. -/

import Oscilloscope.Proofs.Setting.PutGet
import Oscilloscope.Proofs.Setting.Text

set_option autoImplicit false
set_option relaxedAutoImplicit false

namespace Oscilloscope

/-- A fraction is over something. -/
def Value.Proper (v : Value) : Prop :=
  ∀ r, v = .ratio r → r.den ≠ 0

private theorem Value.ReadsAs.proper {v : Value} {kind : ValueKind} (h : v.ReadsAs kind) :
    v.Proper := by
  cases h with
  | ratio proper =>
    intro r same
    cases same
    exact proper
  | flag | natural | integer | text => nofun

/-- The values that the rows of a table are shown as, and the row that a value is taken for. -/
structure Menu (α : Type) (kind : ValueKind) where
  shown : α → Value
  taken : Value → Option α
  readsAs (a : α) : (shown a).ReadsAs kind
  taken_iff {v : Value} {a : α} (proper : v.Proper) : taken v = some a ↔ (shown a).Agrees v

namespace Menu

variable {α : Type} {kind : ValueKind} {v : Value} {a b : α}

theorem taken_shown (menu : Menu α kind) (a : α) : menu.taken (menu.shown a) = some a :=
  (menu.taken_iff (menu.readsAs a).proper).mpr (.same _)

theorem eq_of_agrees (menu : Menu α kind) (proper : v.Proper) (first : (menu.shown a).Agrees v)
    (second : (menu.shown b).Agrees v) : a = b := by
  have taken := (menu.taken_iff proper).mpr first
  rw [(menu.taken_iff proper).mpr second] at taken
  exact (Option.some.inj taken).symm

section Making

variable {rows : List α}

private theorem find?_eq_some_iff {accepts : α → Bool} (complete : ∀ a, a ∈ rows)
    (unique : ∀ a b, accepts a = true → accepts b = true → a = b) :
    rows.find? accepts = some a ↔ accepts a = true := by
  refine ⟨List.find?_some, fun accepted => ?_⟩
  cases found : rows.find? accepts with
  | none => exact absurd accepted (List.find?_eq_none.mp found a (complete a))
  | some b => rw [unique b a (List.find?_some found) accepted]

private theorem find?_key_eq_some_iff {κ : Type} [BEq κ] [LawfulBEq κ] {key : α → κ} {k : κ}
    (complete : ∀ a, a ∈ rows) (distinct : ∀ a b, key a = key b → a = b) :
    (rows.find? fun a => key a == k) = some a ↔ key a = k := by
  rw [find?_eq_some_iff complete, beq_iff_eq]
  intro b c hb hc
  have first := beq_iff_eq.mp hb
  have second := beq_iff_eq.mp hc
  exact distinct b c (first.trans second.symm)

private theorem agrees_iff_eq {w : Value} (plain : ∀ r, w ≠ .ratio r) : w.Agrees v ↔ v = w := by
  refine ⟨fun agrees => ?_, fun same => same ▸ .same _⟩
  cases agrees with
  | same => rfl
  | rational => exact absurd rfl (plain _)

private theorem agrees_ratio_iff {r : Ratio} (whole : r.den ≠ 0) (proper : v.Proper) :
    Value.Agrees (.ratio r) v ↔ ∃ q, v = .ratio q ∧ r.sameValue q = true := by
  constructor
  · rintro (_ | ⟨left, right, equal⟩)
    · exact ⟨r, rfl, beq_self_eq_true _⟩
    · exact ⟨_, rfl, (Ratio.rational_eq_iff left right).mp equal⟩
  · rintro ⟨q, rfl, same⟩
    have divisor := proper q rfl
    exact .rational whole divisor ((Ratio.rational_eq_iff whole divisor).mpr same)

def ofNames (α : Type) [CodeTable α]
    (distinct : ∀ a b : α, CodeTable.name a = CodeTable.name b → a = b)
    (bare : ∀ a : α, Text.trim (CodeTable.name a).toList = (CodeTable.name a).toList) :
    Menu α .text where
  shown a := .text (CodeTable.name a)
  taken v := v.text?.bind CodeTable.ofName?
  readsAs a := .text (bare a)
  taken_iff {v a} _ := by
    have plain (r : Ratio) : Value.text (CodeTable.name a) ≠ .ratio r := nofun
    rw [agrees_iff_eq plain]
    refine ⟨Snapshot.name_of_taken, ?_⟩
    rintro rfl
    exact (find?_key_eq_some_iff CodeTable.mem_all distinct).mpr rfl

def ofNumbers (rows : List α) (number : α → UInt64) (complete : ∀ a, a ∈ rows)
    (distinct : ∀ a b, number a = number b → a = b) : Menu α .natural where
  shown a := .natural (number a)
  taken v := v.natural?.bind fun n => rows.find? fun a => number a == n
  readsAs a := .natural (number a)
  taken_iff {v a} _ := by
    have plain (r : Ratio) : Value.natural (number a) ≠ .ratio r := nofun
    rw [agrees_iff_eq plain]
    refine ⟨Snapshot.number_of_taken, ?_⟩
    rintro rfl
    exact (find?_key_eq_some_iff complete distinct).mpr rfl

/-- A menu of fractions, on which they are found by value. -/
def ofFractions (rows : List α) (fraction : α → Ratio) (complete : ∀ a, a ∈ rows)
    (whole : ∀ a, (fraction a).den ≠ 0)
    (distinct : ∀ a b, (fraction a).sameValue (fraction b) = true → a = b) : Menu α .ratio where
  shown a := .ratio (fraction a)
  taken v := v.ratio?.bind fun r => rows.find? fun a => (fraction a).sameValue r
  readsAs a := .ratio (whole a)
  taken_iff {v a} proper := by
    refine ⟨Snapshot.agrees_of_taken fraction proper (whole a), fun agrees => ?_⟩
    obtain ⟨r, rfl, same⟩ := (agrees_ratio_iff (whole a) proper).mp agrees
    have divisor := proper r rfl
    refine (find?_eq_some_iff complete fun b c hb hc => distinct b c ?_).mpr same
    rw [← Ratio.rational_eq_iff (whole b) (whole c)]
    rw [← Ratio.rational_eq_iff (whole b) divisor] at hb
    rw [← Ratio.rational_eq_iff (whole c) divisor] at hc
    exact hb.trans hc.symm

end Making

end Menu

/-! ### The menus of the instrument -/

def Coupling.menu : Menu Coupling .text :=
  .ofNames Coupling (by intro a b; cases a <;> cases b <;> decide)
    (by intro a; cases a <;> decide)

def TriggerSource.menu : Menu TriggerSource .text :=
  .ofNames TriggerSource (by intro a b; cases a <;> cases b <;> decide)
    (by intro a; cases a <;> decide)

def TriggerSlope.menu : Menu TriggerSlope .text :=
  .ofNames TriggerSlope (by intro a b; cases a <;> cases b <;> decide)
    (by intro a; cases a <;> decide)

def MemoryDepth.menu : Menu MemoryDepth .natural :=
  .ofNumbers MemoryDepth.all MemoryDepth.samples CodeTable.mem_all
    (by intro a b; cases a <;> cases b <;> decide)

def AverageCount.menu : Menu AverageCount .natural :=
  .ofNumbers AverageCount.all AverageCount.waveforms CodeTable.mem_all
    (by intro a b; cases a <;> cases b <;> decide)

def Probe.menu : Menu Probe .natural :=
  .ofNumbers Probe.all Probe.factor CodeTable.mem_all
    (by intro a b; cases a <;> cases b <;> decide)

private theorem Timebase.eq_of_sameValue {a b : Timebase}
    (same : a.windowDivision.sameValue b.windowDivision = true) : a = b := by
  have table : ∀ i j : Fin 32,
      (windowDivision ⟨i⟩).sameValue (windowDivision ⟨j⟩) = true → i = j := by
    decide +kernel
  exact congrArg Timebase.mk (table a.index b.index same)

def Timebase.menu : Menu Timebase .ratio :=
  .ofFractions Timebase.all Timebase.windowDivision CodeTable.mem_all
    Snapshot.den_windowDivision fun _ _ => Timebase.eq_of_sameValue

private theorem VerticalRange.eq_of_sameValue (probe : Probe) {a b : VerticalRange}
    (same : (voltsPerDivision probe a).sameValue (voltsPerDivision probe b) = true) : a = b := by
  have table : ∀ probe ∈ Probe.all, ∀ a ∈ all, ∀ b ∈ all,
      (voltsPerDivision probe a).sameValue (voltsPerDivision probe b) = true → a = b := by
    decide +kernel
  exact table probe (CodeTable.mem_all probe) a (CodeTable.mem_all a) b (CodeTable.mem_all b) same

/-- The ranges as volts a division with a probe. -/
def VerticalRange.menu (probe : Probe) : Menu VerticalRange .ratio :=
  .ofFractions VerticalRange.all (voltsPerDivision probe) CodeTable.mem_all
    (Snapshot.den_voltsPerDivision probe) fun _ _ => VerticalRange.eq_of_sameValue probe

end Oscilloscope
