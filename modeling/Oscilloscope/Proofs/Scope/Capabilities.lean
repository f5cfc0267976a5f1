/- Capabilities are kept to. A key is refused as not applicable exactly where its channel argument
   or its capabilities say so, before anything is sent, and nothing that comes later is a refusal
   of that kind, whatever the instrument answers. -/

import Oscilloscope.Proofs.Scope.Setting
import Oscilloscope.Proofs.Setting.PutGet
import Oscilloscope.Proofs.Wire.Faithful

set_option autoImplicit false
set_option relaxedAutoImplicit false

namespace Oscilloscope

/-- An outcome other than that some key does not apply. -/
def Applies {α : Type} (r : Except Fault α) : Prop :=
  ∀ key, r ≠ .error (.notApplicable key)

namespace Applies

variable {α β : Type}

private theorem ok (a : α) : Applies (.ok a) := nofun

private theorem stopped {fault : Fault} (h : Applies (.error fault : Except Fault α)) :
    Applies (.error fault : Except Fault β) := by
  intro key fails
  cases fails
  exact h key rfl

private theorem of_decodes {x : Except Fault α} (h : Decodes x) : Applies x := by
  intro key fails
  obtain ⟨register, code, unknown⟩ := h _ fails
  cases unknown

private theorem expect {key : Key} {value : Value} (a? : Option α) :
    Applies (Snapshot.expect key value a?) := by
  cases a? with
  | some a => exact ok a
  | none => nofun

private theorem bind {x : Except Fault α} {f : α → Except Fault β} (hx : Applies x)
    (hf : ∀ a, Applies (f a)) : Applies (x >>= f) := by
  cases x with
  | ok a => exact hf a
  | error fault => exact hx.stopped

end Applies

section wire

variable {tuning : Tuning} {t : List Transfer}

private theorem Link.Asked.applies {command : Command} {arguments : Bytes} {room : Nat}
    {r : Except Fault Frame} (h : Asked tuning command arguments room t r) : Applies r := by
  cases h with
  | oversized | unsent | cutShort => nofun
  | sent small reply => cases reply <;> nofun

private theorem Panel.Handshake.applies {held : Bool} {r : Except Fault Unit}
    (h : Handshake tuning held t r) : Applies r := by
  cases h with
  | failed asked => exact asked.applies.stopped
  | empty | otherSubCommand | missingState | otherState | acknowledged => nofun

private theorem Bank.Reading.applies {payload : Bytes} {r : Except Fault Snapshot}
    (h : Reading payload r) : Applies r := by
  cases h <;> nofun

private theorem Bank.Settled.applies {read : Except Fault Frame} {unlock : Except Fault Unit}
    {r : Except Fault Snapshot} (h : Settled read unlock r) (reading : Applies read)
    (unlocking : Applies unlock) : Applies r := by
  cases h with
  | unread fault => exact reading.stopped
  | locked f fault => exact unlocking.stopped
  | read payload => exact payload.applies

private theorem Bank.Committed.applies {s : Snapshot} {r : Except Fault Unit}
    (h : Committed tuning s t r) : Applies r := by
  cases h with
  | failed asked => exact asked.applies.stopped
  | empty | refused | acknowledged => nofun

end wire

namespace Bank

variable {σ : Type} [Transport σ] (tuning : Tuning) (bank : Bank σ)

private theorem fetch_applies : Applies (result (fetch tuning) bank) := by
  obtain ⟨t, -, course⟩ := fetch_bracketed tuning bank
  rcases course with ⟨refused, -⟩ | ⟨held, -⟩
  · obtain ⟨fault, lock, failed⟩ := refused.handshake
    rw [failed]
    exact lock.applies.stopped
  · obtain ⟨_, _, _, _, _, -, -, asked, unlock, settled⟩ := held.course
    exact settled.applies asked.applies unlock.applies

private theorem refresh_applies : Applies (result (refresh tuning) bank) := by
  cases fetched : result (fetch tuning) bank with
  | ok s =>
    rw [(refresh_of_fetch fetched).1]
    exact .ok s
  | error fault =>
    rw [(refresh_of_unfetched fetched).1, ← fetched]
    exact fetch_applies tuning bank

private theorem commit_applies (s : Snapshot) : Applies (result (commit tuning s) bank) := by
  obtain ⟨t, -, course⟩ := writeSnapshot_meets tuning s bank.line
  rw [commit, result_onLine]
  exact course.applies

private theorem Revised.applies {tuning : Tuning} {bank after : Bank σ}
    {change : Snapshot → Except Fault Snapshot} {r : Except Fault Snapshot}
    (h : Revised tuning change bank r after) (changes : ∀ s, Applies (change s)) : Applies r := by
  cases h with
  | unfetched failed =>
    rw [← failed]
    exact fetch_applies tuning bank
  | @unchanged current _ _ refused =>
    rw [← refused]
    exact changes current
  | @uncommitted current pending _ _ _ failed =>
    have written := commit_applies tuning (bank.refreshed tuning current) pending
    rw [failed] at written
    exact written.stopped
  | committed => exact .ok _

end Bank

namespace Snapshot

variable {s t : Snapshot} {x : Setting} {v : Value}

private theorem outcome_applies {α : Type} {x : Except Fault α} {f : α → PendingWork Unit}
    (first : Applies x) (rest : ∀ a, Applies ((f a).outcome s)) :
    Applies ((PendingWork.ofExcept x >>= f).outcome s) := by
  rw [PendingWork.outcome_bind]
  exact first.bind rest

private theorem amendTimebase_applies (s : Snapshot) (tb : Timebase) :
    Applies ((s.amendTimebase tb).outcome s) := by
  have moved := setTimebase_eq s tb
  rw [setTimebase] at moved
  rw [moved]
  refine (Applies.of_decodes (.register .memoryDepth _)).bind fun depth => ?_
  cases fittingDepth? tb s.bothEnabled depth with
  | none =>
    intro key same
    cases same
  | some fitting => exact .ok _

private theorem amendTriggerLevel_applies (s : Snapshot) (volts : Float) :
    Applies ((s.amendTriggerLevel volts).outcome s) := by
  rw [amendTriggerLevel_eq]
  refine (Applies.of_decodes (.register .triggerSource _)).bind fun source => ?_
  split
  · nofun
  · exact (Applies.of_decodes (channel_decodes s _)).bind fun _ => .ok _

private theorem apply_applies (s : Snapshot) (v : Value) (can : x.key.capabilities.set = true)
    (register : ∀ kind, x ≠ .device (.limit kind)) : Applies (s.apply x v) := by
  cases x with
  | device k =>
    cases k with
    | connection | verticalDivisions | horizontalDivisions | sampleRate => cases can
    | limit kind => exact absurd rfl (register kind)
    | timebase => exact outcome_applies (.expect _) fun tb => amendTimebase_applies s tb
    | triggerLevel =>
      exact outcome_applies (.expect _) fun volts => amendTriggerLevel_applies s volts
    | triggerSource | triggerSlope | triggerPosition | memoryDepth | averaging | averageCount =>
      exact outcome_applies (.expect _) fun _ => .ok _
  | channel k c =>
    cases k with
    | range =>
      exact outcome_applies (.of_decodes (.register .probe _)) fun _ =>
        outcome_applies (.expect _) fun _ => .ok _
    | enabled | filter | coupling | probe => exact outcome_applies (.expect _) fun _ => .ok _

private theorem choices_applies (s : Snapshot) (can : x.key.capabilities.list = true) :
    Applies (s.choices x) := by
  cases x with
  | device k => cases k <;> first | exact .ok _ | cases can
  | channel k c =>
    cases k with
    | range => exact (Applies.of_decodes (.register _ _)).bind fun _ => .ok _
    | coupling | probe => exact .ok _
    | enabled | filter => cases can

private theorem real_of_taken {x : Float} (taken : v.real? = some x) : v = .real x := by
  cases v with
  | real => cases taken; rfl
  | _ => cases taken

private theorem Applied.kind_eq (h : Applied s v x t) : v.kind? = some x.key.valueKind := by
  cases h with
  | enabled c taken | filter c taken | averaging taken =>
    rw [flag_of_taken taken]
    rfl
  | range c known taken | timebase taken =>
    obtain ⟨r, rfl, -⟩ := ratio_of_taken taken
    rfl
  | coupling c taken | triggerSource taken | triggerSlope taken =>
    obtain ⟨text, rfl, -⟩ := text_of_taken taken
    rfl
  | probe c taken | memoryDepth taken | averageCount taken =>
    obtain ⟨n, rfl, -⟩ := natural_of_taken taken
    rfl
  | triggerLevel taken =>
    rw [real_of_taken taken]
    rfl
  | triggerPosition taken =>
    rw [real_of_taken (Option.filter_eq_some_iff.mp taken).1]
    rfl

end Snapshot

namespace Key

variable {key : Key} {index : Option Nat}

/-- The channel argument is one that the key asks for: none for a key of the instrument, one of
the two channels for a key of a channel. -/
def Fits (key : Key) (index : Option Nat) : Prop :=
  if key.isChannelKey then index = some 0 ∨ index = some 1 else index = none

/-- The ways for a channel argument not to fit, with the fault for each. -/
inductive Misfit : Key → Option Nat → Fault → Prop
  | surplus (k : DeviceKey) (i : Nat) : Misfit (.device k) (some i) (.notApplicable (.device k))
  | missing (k : ChannelKey) : Misfit (.channel k) none (.argument (.channelNeeded (.channel k)))
  | beyond (k : ChannelKey) {i : Nat} (large : 2 ≤ i) :
      Misfit (.channel k) (some i) (.argument (.noChannel i))

private theorem Misfit.not_fits {fault : Fault} (h : Misfit key index fault) :
    ¬ key.Fits index := by
  cases h with
  | surplus | missing => simp [Fits, isChannelKey]
  | beyond k large =>
    simp only [Fits, isChannelKey, if_true, Option.some.injEq]
    omega

private theorem address_of_misfit {fault : Fault} (h : Misfit key index fault) :
    key.address index = .error fault := by
  cases h with
  | surplus | missing => rfl
  | @beyond k i large =>
    match i, large with
    | i + 2, _ => rfl

private theorem address_cases (key : Key) (index : Option Nat) :
    (key.Fits index ∧ ∃ x, key.address index = .ok x) ∨ ∃ fault, Misfit key index fault := by
  cases key with
  | device k =>
    cases index with
    | none => exact .inl ⟨rfl, _, rfl⟩
    | some i => exact .inr ⟨_, .surplus k i⟩
  | channel k =>
    match index with
    | none => exact .inr ⟨_, .missing k⟩
    | some 0 => exact .inl ⟨.inl rfl, _, rfl⟩
    | some 1 => exact .inl ⟨.inr rfl, _, rfl⟩
    | some (i + 2) => exact .inr ⟨_, .beyond k (Nat.le_add_left 2 i)⟩

end Key

namespace Scope

variable {σ α : Type} {key : Key} {index : Option Nat} {can : Bool} {scope after : Scope σ}
  {r : Except Fault α}

/-- A call for a key that goes on only where the channel argument fits and the capability is there,
and from then on applies. -/
inductive Gated (key : Key) (index : Option Nat) (can : Bool) (scope : Scope σ) :
    Except Fault α → Scope σ → Prop
  | misaddressed {fault : Fault} (address : key.address index = .error fault) :
      Gated key index can scope (.error fault) scope
  | barred {x : Setting} (address : key.address index = .ok x) (cannot : can = false) :
      Gated key index can scope (.error (.notApplicable key)) scope
  | passed {x : Setting} {r : Except Fault α} {after : Scope σ}
      (address : key.address index = .ok x) (allowed : can = true) (applies : Applies r) :
      Gated key index can scope r after

/-- What a call for a key has to come to, by the channel argument and by whether the key has the
capability for the call. A call that is not to go on leaves the scope, with its line, as it is. -/
structure KeepsTo (key : Key) (index : Option Nat) (can : Bool) (scope : Scope σ)
    (r : Except Fault α) (after : Scope σ) : Prop where
  notApplicable (k : Key) : r = .error (.notApplicable k) ↔
    k = key ∧ (key.isChannelKey = false ∧ index ≠ none ∨ key.Fits index ∧ can = false)
  channelNeeded : key.isChannelKey = true → index = none →
    r = .error (.argument (.channelNeeded key))
  noChannel (i : Nat) : key.isChannelKey = true → index = some i → 2 ≤ i →
    r = .error (.argument (.noChannel i))
  untouched : ¬ key.Fits index ∨ can = false → after = scope

private theorem Gated.keepsTo_of_misfit {fault : Fault} (h : Gated key index can scope r after)
    (misfit : key.Misfit index fault) : KeepsTo key index can scope r after := by
  have address := Key.address_of_misfit misfit
  have unfit := misfit.not_fits
  cases h with
  | barred addressed | passed addressed => cases address.symm.trans addressed
  | misaddressed addressed =>
    cases address.symm.trans addressed
    refine ⟨fun k => ?_, ?_, ?_, fun _ => rfl⟩
    · cases misfit with
      | surplus k' i =>
        constructor
        · intro same
          cases same
          exact ⟨rfl, .inl ⟨rfl, Option.some_ne_none i⟩⟩
        · rintro ⟨rfl, -⟩
          rfl
      | missing | beyond => simp [Key.isChannelKey, unfit]
    · intro channelKey none
      cases misfit with
      | missing => rfl
      | surplus | beyond => cases none
    · intro i channelKey found large
      cases misfit with
      | beyond => cases found; rfl
      | missing => cases found
      | surplus => cases channelKey

private theorem Gated.keepsTo_of_fits {x : Setting} (h : Gated key index can scope r after)
    (fits : key.Fits index) (address : key.address index = .ok x) :
    KeepsTo key index can scope r after := by
  have unfit : ¬ (key.isChannelKey = false ∧ index ≠ none) := by
    rintro ⟨deviceKey, some⟩
    rw [Key.Fits, deviceKey] at fits
    exact some fits
  have channelNeeded : key.isChannelKey = true → index ≠ none := by
    rintro channelKey rfl
    simp [Key.Fits, channelKey] at fits
  have noChannel (i : Nat) : key.isChannelKey = true → index = some i → ¬ 2 ≤ i := by
    rintro channelKey rfl
    simp only [Key.Fits, channelKey, if_true, Option.some.injEq] at fits
    omega
  refine ⟨fun k => ?_, fun channelKey none => absurd none (channelNeeded channelKey),
    fun i channelKey found large => absurd large (noChannel i channelKey found), ?_⟩
  · cases h with
    | misaddressed addressed => cases address.symm.trans addressed
    | barred addressed cannot =>
      constructor
      · intro same
        cases same
        exact ⟨rfl, .inr ⟨fits, cannot⟩⟩
      · rintro ⟨rfl, -⟩
        rfl
    | passed addressed allowed applies => simp [applies k, unfit, allowed]
  · rintro (misfit | cannot)
    · exact absurd fits misfit
    · cases h with
      | misaddressed | barred => rfl
      | passed addressed allowed => cases cannot.symm.trans allowed

private theorem Gated.keepsTo (h : Gated key index can scope r after) :
    KeepsTo key index can scope r after := by
  rcases key.address_cases index with ⟨fits, x, address⟩ | ⟨fault, misfit⟩
  · exact h.keepsTo_of_fits fits address
  · exact h.keepsTo_of_misfit misfit

variable [Transport σ] (handle : Handle) (key : Key) (index : Option Nat) (value : Value)
  (scope : Scope σ)

private theorem setValue_gated : Gated key index key.capabilities.set scope
    (result (setValue handle key index value) scope)
    (final (setValue handle key index value) scope) := by
  have course := setValue_sets handle key index value scope
  generalize result (setValue handle key index value) scope = r at course ⊢
  generalize final (setValue handle key index value) scope = after at course ⊢
  have applies {x : Setting} (address : key.address index = .ok x)
      (can : key.capabilities.set = true) (register : ∀ kind, x ≠ .device (.limit kind))
      (s : Snapshot) : Applies (s.apply x value) := by
    rw [← Key.key_of_address address] at can
    exact Snapshot.apply_applies s value can register
  cases course with
  | misaddressed address => exact .misaddressed address
  | unsettable address cannot => exact .barred address cannot
  | limited address can => exact .passed address can (.ok _)
  | unlimited address can => exact .passed address can nofun
  | unrevised address can register revised =>
    exact .passed address can (revised.applies (applies address can register)).stopped
  | revised address can => exact .passed address can (.ok _)

private theorem snapshot_applies : Applies (result (snapshot handle) scope) := by
  unfold snapshot
  rw [result_bind_ok (result_get _), final_get]
  split
  · exact .ok _
  · rw [refresh, result_onBank]
    exact Bank.refresh_applies handle.tuning scope.bank

private theorem listValues_gated : Gated key index key.capabilities.list scope
    (result (listValues handle key index) scope) (final (listValues handle key index) scope) := by
  unfold listValues
  refine bind_cases (P := Gated key index key.capabilities.list scope) ?_ ?_
  · intro fault address
    rw [result_ofExcept] at address
    rw [final_ofExcept]
    exact .misaddressed address
  · intro x address
    rw [result_ofExcept] at address
    rw [final_ofExcept]
    cases can : key.capabilities.list with
    | false =>
      split
      · exact .barred address rfl
      · exact .barred address rfl
    | true =>
      split
      · exact .passed address rfl (.ok _)
      · refine .passed address rfl ?_
        have listable : x.key.capabilities.list = true := by
          rw [Key.key_of_address address, can]
        simp only [Bool.not_true, Bool.false_eq_true, if_false]
        rw [result_bind]
        refine (snapshot_applies handle scope).bind fun s => ?_
        rw [result_ofExcept]
        exact Snapshot.choices_applies s listable

private theorem kind_of_setValue {key : Key} {index : Option Nat} {value : Value}
    (done : result (setValue handle key index value) scope = .ok ()) :
    value.kind? = some key.valueKind := by
  have course := setValue_sets handle key index value scope
  rw [done] at course
  generalize final (setValue handle key index value) scope = after at course
  cases course with
  | limited address _ taken =>
    rw [← Key.key_of_address address]
    cases value with
    | natural => rfl
    | _ => cases taken
  | revised address _ _ revised =>
    rw [← Key.key_of_address address]
    cases revised with
    | committed _ changed => exact (Snapshot.apply_eq_ok_iff.mp changed).kind_eq

/-- Capabilities and kinds of value hold what they say. Setting and listing are refused as not
applicable where the key takes no channel and is given one, or where the capability is missing, and
nowhere else; a channel that is missing or that there is not is told as such; all this without
using the line. What can be set is of the kind that the key names. -/
theorem capabilities_kept :
    KeepsTo key index key.capabilities.set scope (result (setValue handle key index value) scope)
        (final (setValue handle key index value) scope) ∧
      KeepsTo key index key.capabilities.list scope (result (listValues handle key index) scope)
        (final (listValues handle key index) scope) ∧
      (result (setValue handle key index value) scope = .ok () →
        value.kind? = some key.valueKind) :=
  ⟨(setValue_gated handle key index value scope).keepsTo,
    (listValues_gated handle key index scope).keepsTo, kind_of_setValue handle scope⟩

theorem capabilities_kept_of_zero :
    let handle : Handle := ⟨{}, none⟩
    let scope := Scope.ofLine ⟨(⟨List.replicate 240 0, rfl, none⟩ : Instrument), []⟩
    result (setValue handle (.device .averaging) none (.flag true)) scope = .ok () ∧
      (Value.flag true).kind? = some (Key.device .averaging).valueKind ∧
      result (setValue handle (.device .sampleRate) none (.natural 1)) scope =
        .error (.notApplicable (.device .sampleRate)) ∧
      final (setValue handle (.device .sampleRate) none (.natural 1)) scope = scope ∧
      result (listValues handle (.channel .range) (some 2)) scope =
        .error (.argument (.noChannel 2)) := by
  intro handle scope
  have succeeds : (result (setValue handle (.device .averaging) none (.flag true)) scope).isOk =
      true := by
    decide +kernel
  have done : result (setValue handle (.device .averaging) none (.flag true)) scope = .ok () := by
    cases outcome : result (setValue handle (.device .averaging) none (.flag true)) scope with
    | ok => rfl
    | error fault =>
      rw [outcome] at succeeds
      cases succeeds
  obtain ⟨-, -, kind⟩ :=
    capabilities_kept handle (.device .averaging) none (.flag true) scope
  obtain ⟨kept, -, -⟩ :=
    capabilities_kept handle (.device .sampleRate) none (.natural 1) scope
  obtain ⟨-, keptList, -⟩ := capabilities_kept handle (.channel .range) (some 2) (.natural 1) scope
  exact ⟨done, kind done, (kept.notApplicable _).mpr ⟨rfl, .inr ⟨rfl, rfl⟩⟩,
    kept.untouched (.inr rfl), keptList.noChannel 2 rfl rfl (Nat.le_refl 2)⟩

end Scope

end Oscilloscope
