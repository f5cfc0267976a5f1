/- Lists and what can be set. A value that is listed for a setting can be put, any other value is
   refused, and a value that is refused leaves the registers of the instrument as they were. -/

import Mathlib.Data.List.Nodup
import Oscilloscope.Proofs.Scope.HeldRegisters
import Oscilloscope.Proofs.Setting.Offer

set_option autoImplicit false
set_option relaxedAutoImplicit false

namespace Oscilloscope

private theorem CodedRegister.nodup_codes (register : CodedRegister) : register.codes.Nodup := by
  cases register <;> decide

private theorem Key.set_of_list {key : Key} (listed : key.capabilities.list = true) :
    key.capabilities.set = true := by
  cases key with
  | device k => cases k <;> first | rfl | cases listed
  | channel k => cases k <;> rfl

namespace Snapshot

/-- The setting takes `v` as far as `list` has a value of the same meaning, which it has once at
most, and then puts the code that stands at the same place in the table of the register. -/
structure ChosenFrom (s : Snapshot) (x : Setting) (list v : Value) : Prop where
  accepted : (∃ t, s.apply x v = .ok t) ↔ ∃ item ∈ list.items, item.Agrees v
  coded {t : Snapshot} {i : Nat} {item : Value} (applied : s.apply x v = .ok t)
    (listed : list.items[i]? = some item) (agrees : item.Agrees v) :
    ∃ held, t.chosen? x = some held ∧ held.register.codes[i]? = some held.code
  single {i j : Nat} {item other : Value} (listed : list.items[i]? = some item)
    (again : list.items[j]? = some other) (agrees : item.Agrees v) (agreesToo : other.Agrees v) :
    i = j
  refused {fault : Fault} (fails : s.apply x v = .error fault) :
    fault = .argument (.badValue x.key v)

namespace Offer

variable {s t : Snapshot} {x : Setting} {v : Value} {α : Type} [CodeTable α]

private theorem apply_eq_ok_iff (offer : s.Offer x α) :
    s.apply x v = .ok t ↔ ∃ a, offer.menu.taken v = some a ∧ offer.put a = t := by
  rw [offer.apply_eq]
  cases offer.menu.taken v with
  | none => simp [expect]
  | some a => simp [expect]

private theorem fault_of_apply (offer : s.Offer x α) {fault : Fault}
    (fails : s.apply x v = .error fault) :
    fault = .argument (.badValue x.key v) := by
  rw [offer.apply_eq] at fails
  cases taken : offer.menu.taken v with
  | none =>
    rw [taken] at fails
    cases fails
    rfl
  | some a =>
    rw [taken] at fails
    cases fails

private theorem nodup_rows (offer : s.Offer x α) : (CodeTable.all : List α).Nodup := by
  have codes := offer.register.nodup_codes
  rw [offer.codes] at codes
  exact List.Nodup.of_map CodeTable.code codes

private theorem row_of_listed (offer : s.Offer x α) {list : Value}
    (items : list.items = (CodeTable.all : List α).map offer.menu.shown) {i : Nat} {item : Value}
    (listed : list.items[i]? = some item) :
    ∃ a : α, CodeTable.all[i]? = some a ∧ item = offer.menu.shown a := by
  rw [items, List.getElem?_map] at listed
  obtain ⟨a, row, shown⟩ := Option.map_eq_some_iff.mp listed
  exact ⟨a, row, shown.symm⟩

private theorem chosenFrom (offer : s.Offer x α) (proper : v.Proper) {list : Value}
    (items : list.items = (CodeTable.all : List α).map offer.menu.shown) :
    s.ChosenFrom x list v where
  accepted := by
    constructor
    · rintro ⟨t, applied⟩
      obtain ⟨a, taken, -⟩ := offer.apply_eq_ok_iff.mp applied
      have listed : offer.menu.shown a ∈ list.items := by
        rw [items]
        exact List.mem_map_of_mem (CodeTable.mem_all a)
      exact ⟨_, listed, (offer.menu.taken_iff proper).mp taken⟩
    · rintro ⟨item, listed, agrees⟩
      rw [items] at listed
      obtain ⟨a, -, rfl⟩ := List.mem_map.mp listed
      have taken := (offer.menu.taken_iff proper).mpr agrees
      exact ⟨offer.put a, offer.apply_eq_ok_iff.mpr ⟨a, taken, rfl⟩⟩
  coded := by
    intro t i item applied listed agrees
    obtain ⟨a, row, rfl⟩ := offer.row_of_listed items listed
    have taken := (offer.menu.taken_iff proper).mpr agrees
    obtain ⟨b, found, rfl⟩ := offer.apply_eq_ok_iff.mp applied
    cases taken.symm.trans found
    refine ⟨_, offer.chosen_put a, ?_⟩
    rw [offer.codes, List.getElem?_map, row]
    rfl
  single := by
    intro i j item other listed again agrees agreesToo
    obtain ⟨a, first, rfl⟩ := offer.row_of_listed items listed
    obtain ⟨b, second, rfl⟩ := offer.row_of_listed items again
    have same := offer.menu.eq_of_agrees proper agrees agreesToo
    rw [← same, ← first] at second
    have within : i < (CodeTable.all : List α).length := (List.getElem?_eq_some_iff.mp first).1
    exact (List.getElem?_inj within offer.nodup_rows).mp second.symm
  refused fails := offer.fault_of_apply fails

end Offer

private theorem choices_of_fixed (s : Snapshot) {x : Setting} {list : Value}
    (fixed : x.fixedChoices? = some list) : s.choices x = .ok list := by
  unfold choices
  split
  · cases fixed
  · rw [fixed]

end Snapshot

namespace Scope

variable {σ : Type} [Transport σ] [Faithful σ] {scope : Scope σ} {s : Snapshot} {x : Setting}
  {key : Key} {index : Option Nat} {value : Value}

private theorem listValues_of_holds (handle : Handle) (holds : scope.bank.line.Holds s)
    (address : key.address index = .ok x) (can : key.capabilities.list = true) :
    result (listValues handle key index) scope =
      (if scope.phase = .capturing then scope.shadow else s).choices x := by
  have addressed : result (ofExcept (key.address index)) scope = .ok x := by
    rw [result_ofExcept, address]
  unfold listValues
  rw [result_bind_ok addressed, final_ofExcept, can]
  cases fixed : x.fixedChoices? with
  | some list =>
    rw [Snapshot.choices_of_fixed _ fixed]
    rfl
  | none =>
    have taken := result_snapshot handle holds
    simp only [Bool.not_true, Bool.false_eq_true, if_false]
    rw [result_bind_ok taken, result_ofExcept]

private theorem setValue_refused (handle : Handle) {fault : Fault} (holds : scope.bank.line.Holds s)
    (address : key.address index = .ok x) (can : key.capabilities.set = true)
    (register : ∀ kind, key ≠ .device (.limit kind)) (refused : s.apply x value = .error fault) :
    let after := final (setValue handle key index value) scope
    result (setValue handle key index value) scope = .error fault ∧ after.bank.line.Holds s ∧
      after.bank.published = some s ∧ scope.Spares after := by
  obtain ⟨fetch, fetched⟩ := fetched_of_holds handle holds
  have spared := fetched_spares handle scope
  have course := setValue_sets handle key index value scope
  generalize result (setValue handle key index value) scope = r at course ⊢
  generalize final (setValue handle key index value) scope = after at course ⊢
  cases course with
  | misaddressed other => cases address.symm.trans other
  | unsettable _ cannot => cases can.symm.trans cannot
  | limited other | unlimited other => exact absurd (Key.key_of_address other).symm (register _)
  | unrevised other _ _ revised =>
    cases address.symm.trans other
    obtain ⟨fails, -⟩ := revised.of_holds holds
    cases revised with
    | unfetched failed => cases fetch.symm.trans failed
    | unchanged read impossible =>
      cases fetch.symm.trans read
      cases refused.symm.trans impossible
      exact ⟨rfl, fetched, rfl, spared⟩
    | uncommitted read possible =>
      cases fetch.symm.trans read
      cases refused.symm.trans possible
  | revised other _ _ revised =>
    cases address.symm.trans other
    obtain ⟨done, -⟩ := revised.of_holds holds
    cases done.trans refused

end Scope

/-- A list and a setting agree: the values that can be put are those that mean the same as a listed
one, and the code that is written is the one that stands where the value is listed. A value that is
refused leaves the pending copy. So it is on an instrument that holds the registers, where it leaves
these as well. Of the trigger position only bounds are listed. -/
theorem Snapshot.apply_iff_listed (s : Snapshot) (x : Setting) (v : Value)
    (listed : x.key.capabilities.list = true) (position : x ≠ .device .triggerPosition)
    (informed : s.Informed x) (proper : v.Proper) :
    ∃ list, s.choices x = .ok list ∧ s.ChosenFrom x list v ∧
      (∀ fault, s.apply x v = .error fault → s.amend x v s = .error fault s) ∧
      ∀ (σ : Type) [Transport σ] [Faithful σ] (handle : Handle) (scope : Scope σ),
        scope.bank.line.Holds s → (scope.phase = .capturing → scope.shadow = s) →
          let index := x.channel?.map ChannelId.index
          let outcome := result (Scope.setValue handle x.key index v) scope
          let after := final (Scope.setValue handle x.key index v) scope
          result (Scope.listValues handle x.key index) scope = .ok list ∧
            (∀ t, s.apply x v = .ok t → outcome = .ok () ∧ after.bank.line.Holds t) ∧
            (∀ fault, s.apply x v = .error fault →
              outcome = .error fault ∧ after.bank.line.Holds s ∧
                after.bank.published = some s ∧ scope.Spares after) := by
  obtain ⟨α, table, ⟨offer⟩⟩ := exists_offer listed position informed
  obtain ⟨list, choices, items⟩ := offer.listed
  refine ⟨list, choices, offer.chosenFrom proper items,
    fun fault refused => amend_eq_error_iff.mpr ⟨refused, rfl⟩, ?_⟩
  intro σ _ _ handle scope holds current index outcome after
  have address := Key.address_key x
  have can := Key.set_of_list listed
  have register : ∀ kind, x.key ≠ .device (.limit kind) := by
    intro kind limit
    rw [limit] at listed
    cases listed
  have seen : (if scope.phase = .capturing then scope.shadow else s) = s := by
    split
    · rename_i capturing
      exact current capturing
    · rfl
  refine ⟨?_, ?_, ?_⟩
  · rw [Scope.listValues_of_holds handle holds address listed, seen, choices]
  · intro t applied
    obtain ⟨done, hafter⟩ := Call.setValue_after handle index v holds register
    rw [Snapshot.revised_of_address address can, applied] at done hafter
    rw [Call.after_eq_final, Call.perform, final_bind_pure] at hafter
    exact ⟨done, hafter⟩
  · intro fault refused
    exact Scope.setValue_refused handle holds address can register refused

theorem Snapshot.apply_iff_listed_of_four_halves :
    let halves : Value := .ratio ⟨4, 2⟩
    let put := zero.setVertical .ch1 fun r => { r with range := 9 }
    let scope := Scope.ofLine ⟨(⟨zero.encode, zero.length_encode, none⟩ : Instrument), []⟩
    (∃ list, result (Scope.listValues ⟨{}, none⟩ (.channel .range) (some 0)) scope = .ok list ∧
        ∃ item ∈ list.items, item.Agrees halves) ∧
      result (Scope.setValue ⟨{}, none⟩ (.channel .range) (some 0) halves) scope = .ok () ∧
      (final (Scope.setValue ⟨{}, none⟩ (.channel .range) (some 0) halves)
        scope).bank.line.Holds put := by
  intro halves put scope
  have applied : zero.apply (.channel .range .ch1) halves = .ok put := rfl
  have proper : halves.Proper := by
    intro r h
    rw [← Value.ratio.inj h]
    decide
  have informed : zero.Informed (.channel .range .ch1) := by
    have known : HeldCode.known ⟨.probe, 0⟩ = true := by decide
    exact known
  have holds : scope.bank.line.Holds zero := ⟨rfl, rfl⟩
  have current : scope.phase = .capturing → scope.shadow = zero := by
    intro capturing
    cases capturing
  obtain ⟨list, -, chosen, -, lifted⟩ :=
    apply_iff_listed zero (.channel .range .ch1) halves rfl (by decide) informed proper
  obtain ⟨lists, done, -⟩ := lifted Instrument ⟨{}, none⟩ scope holds current
  simp only [Setting.key, Setting.channel?, Option.map_some, ChannelId.index] at lists done
  obtain ⟨outcome, hafter⟩ := done put applied
  exact ⟨⟨list, lists, chosen.accepted.mp ⟨put, applied⟩⟩, outcome, hafter⟩

end Oscilloscope
