/- Where the answers to questions about the registers come from. They come from a snapshot that was
   read in the run, except while an acquisition runs that was started before anything was read.
   Until something is, they come from a snapshot of zeros that nobody read. -/

import Oscilloscope.Proofs.Scope.Publication
import Oscilloscope.Proofs.Setting.Describe
import Oscilloscope.Proofs.Wire.Faithful

set_option autoImplicit false
set_option relaxedAutoImplicit false

namespace Oscilloscope

def Snapshot.channelAt (s : Snapshot) (index : Nat) : Except Fault Channel :=
  match ChannelId.ofIndex? index with
  | some c => s.channel c
  | none => .error (.argument (.noChannel index))

/-- What a snapshot answers to a call, if it is one that the registers answer. -/
def Call.answers? : Call → Option (Snapshot → Except Fault Answer)
  | .model => some fun s => .ok (.model s.model)
  | .channel index => some fun s => (s.channelAt index).map .channel
  | .getValue key index =>
    if key.inRegisters then some fun s => ((key.address index).bind s.describe).map .value
    else none
  | .listValues (.channel .range) index =>
    some fun s => ((Key.address (.channel .range) index).bind s.choices).map .value
  | _ => none

namespace Scope

variable {σ α : Type} {handle : Handle} {scope : Scope σ}

/-- Nothing was told to the session before something was published. -/
def Grounded (scope : Scope σ) : Prop :=
  scope.bank.published = none → scope.baseline = none

private theorem Reads.not_completed {call : Call} {t : List Transfer} {published : Option Snapshot}
    (h : Reads handle call scope t published) (unpublished : published = none)
    (grounded : scope.Grounded) : scope.bank.published = none ∧
      ∀ payload s, ¬ Bank.Completed handle.tuning payload s t := by
  cases h with
  | unread unasked =>
    exact ⟨unpublished, fun _ _ => Bank.not_completed_of_unsubmitted unasked⟩
  | failed course => exact ⟨unpublished, fun _ _ => Bank.not_completed_of_failed course⟩
  | withheld _ _ untold =>
    rw [tellable, grounded unpublished] at untold
    cases untold
  | published => cases unpublished

variable [Transport σ]

/-- What work answers and leaves that looks at a snapshot and does nothing else. -/
def Consults (handle : Handle) (scope : Scope σ) (x : Work σ α)
    (look : Snapshot → Except Fault α) : Prop :=
  result x scope = (result (snapshot handle) scope).bind look ∧
    final x scope = final (snapshot handle) scope

private theorem consults_snapshot (handle : Handle) (scope : Scope σ)
    (look : Snapshot → Except Fault α) :
    Consults handle scope (snapshot handle >>= fun s => ofExcept (look s)) look := by
  constructor
  · rw [result_bind]
    cases result (snapshot handle) scope with
    | error => rfl
    | ok s => exact result_ofExcept _ _
  · exact final_bind_idle _ (fun s t => final_ofExcept _ _) scope

private theorem model_consults (handle : Handle) (scope : Scope σ) :
    Consults handle scope (model handle) fun s => .ok s.model :=
  consults_snapshot handle scope fun s => .ok s.model

private theorem channel_consults (handle : Handle) (index : Nat) (scope : Scope σ) :
    Consults handle scope (channel handle index) fun s => s.channelAt index := by
  have same : channel (σ := σ) handle index =
      snapshot handle >>= fun s => ofExcept (s.channelAt index) := by
    unfold channel Snapshot.channelAt
    cases ChannelId.ofIndex? index <;> rfl
  rw [same]
  exact consults_snapshot handle scope _

theorem getValue_consults {key : Key} {index : Option Nat} {x : Setting} (handle : Handle)
    (scope : Scope σ) (register : key.inRegisters = true) (address : key.address index = .ok x) :
    Consults handle scope (getValue handle key index) fun s => s.describe x := by
  have hkey := Key.key_of_address address
  have same : getValue (σ := σ) handle key index =
      snapshot handle >>= fun s => ofExcept (s.describe x) := by
    unfold getValue
    rw [address, ofExcept, pure_bind]
    rw [← hkey] at register
    split
    · cases register
    · cases register
    · cases register
    · rfl
  rw [same]
  exact consults_snapshot handle scope _

private theorem listValues_consults {index : Option Nat} {c : ChannelId} (handle : Handle)
    (scope : Scope σ) (address : (Key.channel .range).address index = .ok (.channel .range c)) :
    Consults handle scope (listValues handle (.channel .range) index)
      fun s => s.choices (.channel .range c) := by
  have same : listValues (σ := σ) handle (.channel .range) index =
      snapshot handle >>= fun s => ofExcept (s.choices (.channel .range c)) := by
    unfold listValues
    rw [address]
    rfl
  rw [same]
  exact consults_snapshot handle scope _

private theorem Consults.packed {β : Type} {x : Work σ α} {look : Snapshot → Except Fault α}
    (h : Consults handle scope x look) (f : α → β) :
    Consults handle scope (x >>= fun a => pure (f a)) fun s => (look s).map f := by
  constructor
  · rw [result_bind_pure, h.1]
    cases result (snapshot handle) scope <;> rfl
  · rw [final_bind_pure, h.2]

theorem snapshot_of_capturing (handle : Handle) (capturing : scope.phase = .capturing) :
    result (snapshot handle) scope = .ok scope.shadow ∧
      final (snapshot handle) scope = scope := by
  unfold snapshot
  rw [result_bind_ok (result_get _), final_bind_ok (result_get _), final_get, if_pos capturing]
  exact ⟨rfl, rfl⟩

private theorem snapshot_reads {s : Snapshot} (resting : scope.phase ≠ .capturing)
    (h : result (snapshot handle) scope = .ok s) :
    ∃ payload t, Bank.Yielded handle.tuning s payload t ∧
      (final (snapshot handle) scope).bank.line.record = scope.bank.line.record ++ t := by
  unfold snapshot at h ⊢
  rw [result_bind_ok (result_get _), final_get, if_neg resting, refresh, result_onBank] at h
  rw [final_bind_ok (result_get _), final_get, if_neg resting, refresh, final_onBank]
  cases fetch : result (Bank.fetch handle.tuning) scope.bank with
  | error fault =>
    rw [(Bank.refresh_of_unfetched fetch).1] at h
    cases h
  | ok current =>
    obtain ⟨hresult, hfinal⟩ := Bank.refresh_of_fetch fetch
    obtain ⟨payload, t, read, hrecord⟩ := Bank.yielded_of_fetch fetch
    rw [hresult] at h
    cases h
    rw [hfinal]
    exact ⟨payload, t, read, hrecord⟩

private theorem published_fetched (handle : Handle) (scope : Scope σ) :
    (scope.fetched handle).bank.published = scope.bank.published := by
  rw [fetched, Bank.fetch, Bank.final_onLine]

variable {after : Scope σ}

private theorem Captured.grounded {r : Except Fault Unit} (h : Captured handle scope r after)
    (grounded : scope.Grounded) : after.Grounded := by
  intro unpublished
  cases h with
  | unfetched =>
    rw [published_fetched] at unpublished
    exact grounded unpublished
  | @untold fresh _ _ fetch change =>
    rw [change.bank, published_fetched] at unpublished
    have untold : scope.tellable fresh = false := change.tellable
    rw [tellable, grounded unpublished] at untold
    cases untold
  | firstFailed _ _ ch1 =>
    rw [ch1.published] at unpublished
    cases unpublished
  | secondFailed _ _ ch1 ch2 =>
    rw [ch2.published, ch1.published] at unpublished
    cases unpublished
  | complete _ _ ch1 ch2 =>
    have published := ch2.published.trans ch1.published
    split at unpublished
    · rw [stopRequested_bank, published] at unpublished
      cases unpublished
    · rw [published] at unpublished
      cases unpublished

private theorem Ticked.grounded {r : Except Fault Phase} (h : Ticked handle scope r after)
    (grounded : scope.Grounded) : after.Grounded := by
  cases h with
  | idle | ended => exact grounded
  | failed _ round | continued _ round => exact round.grounded grounded

end Scope

namespace Call

variable {σ : Type} [Transport σ] {handle : Handle} {scope : Scope σ}

private theorem consults_of_ok {call : Call} {look : Snapshot → Except Fault Answer}
    {answer : Answer}
    (asks : call.answers? = some look) (done : result (call.perform handle) scope = .ok answer) :
    Scope.Consults handle scope (call.perform handle) look := by
  cases call with
  | model =>
    cases asks
    exact (Scope.model_consults handle scope).packed Answer.model
  | channel index =>
    cases asks
    exact (Scope.channel_consults handle index scope).packed Answer.channel
  | getValue key index =>
    rw [answers?] at asks
    split at asks
    · rename_i register
      cases asks
      cases address : key.address index with
      | error fault =>
        rw [perform, Scope.getValue, address] at done
        cases done
      | ok x => exact (Scope.getValue_consults handle scope register address).packed Answer.value
    · cases asks
  | listValues key index =>
    cases key with
    | device k => cases asks
    | channel k =>
      cases k with
      | range =>
        cases asks
        cases address : (Key.channel .range).address index with
        | error fault =>
          rw [perform, Scope.listValues, address] at done
          cases done
        | ok x =>
          obtain ⟨c, rfl⟩ : ∃ c, x = .channel .range c := by
            have hkey := Key.key_of_address address
            cases x with
            | device k => cases hkey
            | channel k c =>
              cases hkey
              exact ⟨c, rfl⟩
          exact (Scope.listValues_consults handle scope address).packed Answer.value
      | _ => cases asks
  | _ => cases asks

private theorem grounded_after (handle : Handle) (call : Call) (grounded : scope.Grounded) :
    (call.after handle scope).Grounded := by
  cases beside : call.acquires with
  | false =>
    intro unpublished
    obtain ⟨-, baseline, -, -⟩ := Scope.Session.mk.inj (session_after beside handle scope)
    have reads := reads_after handle call scope
    rw [baseline]
    exact grounded (reads.not_completed unpublished grounded).1
  | true =>
    cases call with
    | start =>
      rw [after_start]
      have started := Scope.start_starts handle scope
      generalize result (Scope.start handle) scope = r at started
      generalize final (Scope.start handle) scope = after at started ⊢
      cases started with
      | begun => exact id
      | busy => exact grounded
    | requestStop =>
      rw [after_requestStop, Scope.stopRequested]
      split
      · exact grounded
      · exact grounded
    | tick =>
      rw [after_tick]
      exact (Scope.tick_ticks handle scope).grounded grounded
    | _ => cases beside

/-- Whether a run of calls reads `s` somewhere, with every step of the reading acknowledged. -/
def RunReads (handle : Handle) (s : Snapshot) : List Call → Scope σ → Prop
  | [], _ => False
  | call :: rest, scope =>
    (∃ payload, Bank.Completed handle.tuning payload s (call.transfers handle scope)) ∨
      RunReads handle s rest (call.after handle scope)

private theorem runReads_append {s : Snapshot} (calls later : List Call) :
    RunReads handle s (calls ++ later) scope ↔
      RunReads handle s calls scope ∨ RunReads handle s later (run handle calls scope) := by
  induction calls generalizing scope with
  | nil => exact (false_or _).symm.to_iff
  | cons call rest ih =>
    show _ ∨ RunReads handle s (rest ++ later) _ ↔ _
    rw [ih, ← or_assoc]
    rfl

theorem published_of_run {s : Snapshot} {calls : List Call}
    (h : (run handle calls scope).bank.published = some s) :
    scope.bank.published = some s ∨ RunReads handle s calls scope := by
  induction calls generalizing scope with
  | nil => exact .inl h
  | cons call rest ih =>
    rcases ih h with published | later
    · by_cases shows : ∃ payload s, call.Shows handle scope payload s
      · obtain ⟨payload, current, shown⟩ := shows
        rw [published_of_shows shown] at published
        cases published
        exact .inr (.inl ⟨payload, shown.1⟩)
      · rw [published_of_not_shows fun payload s shown => shows ⟨payload, s, shown⟩] at published
        exact .inl published
    · exact .inr (.inr later)

private theorem not_runReads_of_unpublished {calls : List Call} (grounded : scope.Grounded)
    (h : (run handle calls scope).bank.published = none) :
    scope.bank.published = none ∧ ∀ s, ¬ RunReads handle s calls scope := by
  induction calls generalizing scope with
  | nil => exact ⟨h, fun _ => id⟩
  | cons call rest ih =>
    obtain ⟨unpublished, unread⟩ := ih (grounded_after handle call grounded) h
    have reads := reads_after handle call scope
    obtain ⟨before, incomplete⟩ := reads.not_completed unpublished grounded
    refine ⟨before, fun s => ?_⟩
    rintro (⟨payload, completed⟩ | later)
    · exact incomplete payload s completed
    · exact unread s later

private theorem answers_of_capturing {call : Call} {look : Snapshot → Except Fault Answer}
    {answer : Answer}
    (asks : call.answers? = some look) (done : result (call.perform handle) scope = .ok answer)
    (capturing : scope.phase = .capturing) :
    look (scope.bank.published.getD .zero) = .ok answer ∧ call.after handle scope = scope := by
  obtain ⟨hresult, hfinal⟩ := consults_of_ok asks done
  obtain ⟨published, same⟩ := Scope.snapshot_of_capturing handle capturing
  rw [published, done] at hresult
  rw [same] at hfinal
  exact ⟨hresult.symm, (after_eq_final handle call scope).trans hfinal⟩

private theorem answers_of_resting {call : Call} {look : Snapshot → Except Fault Answer}
    {answer : Answer}
    (asks : call.answers? = some look) (done : result (call.perform handle) scope = .ok answer)
    (resting : scope.phase ≠ .capturing) :
    ∃ s payload, look s = .ok answer ∧
      Bank.Completed handle.tuning payload s (call.transfers handle scope) := by
  obtain ⟨hresult, hfinal⟩ := consults_of_ok asks done
  rw [done] at hresult
  cases fetched : result (Scope.snapshot handle) scope with
  | error fault =>
    rw [fetched] at hresult
    cases hresult
  | ok s =>
    rw [fetched] at hresult
    obtain ⟨payload, t, read, hrecord⟩ := Scope.snapshot_reads resting fetched
    rw [← hfinal, ← after_eq_final] at hrecord
    refine ⟨s, payload, hresult.symm, ?_⟩
    rw [transfers_eq hrecord, ← List.append_nil t]
    exact read.completed []

/-- The registers answer with a snapshot that was read in the run or in the call itself, but for one
slip: from the start of an acquisition on, as long as nothing was read in the run, they answer with
zeros. -/
theorem run_answers_from_readings (handle : Handle) (line : Line σ) (calls : List Call)
    {call : Call} {look : Snapshot → Except Fault Answer} {answer : Answer}
    (asks : call.answers? = some look)
    (done : result (call.perform handle) (run handle calls (Scope.ofLine line)) = .ok answer) :
    let start := Scope.ofLine line
    let scope := run handle calls start
    (scope.phase ≠ .capturing ∨ (∃ s, RunReads handle s calls start) →
      ∃ s, look s = .ok answer ∧ RunReads handle s (calls ++ [call]) start) ∧
    (scope.phase = .capturing → (∀ s, ¬ RunReads handle s calls start) →
      look .zero = .ok answer ∧ ∀ s, ¬ RunReads handle s (calls ++ [call]) start) := by
  intro start scope
  have grounded : start.Grounded := fun _ => rfl
  refine ⟨fun source => ?_, fun capturing unread => ?_⟩
  · by_cases capturing : scope.phase = .capturing
    · obtain ⟨answered, -⟩ := answers_of_capturing asks done capturing
      obtain ⟨first, read⟩ := source.resolve_left (not_not_intro capturing)
      cases published : scope.bank.published with
      | none => exact absurd read ((not_runReads_of_unpublished grounded published).2 first)
      | some s =>
        rw [published] at answered
        have before := (published_of_run published).resolve_left nofun
        exact ⟨s, answered, (runReads_append calls [call]).mpr (.inl before)⟩
    · obtain ⟨s, payload, answered, completed⟩ := answers_of_resting asks done capturing
      have now : RunReads handle s [call] scope := .inl ⟨payload, completed⟩
      exact ⟨s, answered, (runReads_append calls [call]).mpr (.inr now)⟩
  · obtain ⟨answered, same⟩ := answers_of_capturing asks done capturing
    have unpublished : scope.bank.published = none := by
      refine Option.eq_none_iff_forall_ne_some.mpr fun s published => ?_
      exact unread s ((published_of_run published).resolve_left nofun)
    have still : (run handle (calls ++ [call]) start).bank.published = none := by
      rw [run_concat, same]
      exact unpublished
    rw [unpublished] at answered
    exact ⟨answered, (not_runReads_of_unpublished grounded still).2⟩

theorem run_answers_from_refresh :
    let handle : Handle := ⟨{}, none⟩
    let start := Scope.ofLine ⟨(⟨1 :: List.replicate 239 0, rfl, none⟩ : Instrument), []⟩
    let asked : Call := .getValue (.channel .enabled) (some 0)
    ∃ s, s.channelEnabled .ch1 = true ∧
      RunReads handle s ([.refresh, .start] ++ [asked]) start := by
  intro handle start asked
  let scope := run handle [.refresh, .start] start
  have done : result (asked.perform handle) scope = .ok (.value (.flag true)) := by
    have value : (result (Scope.getValue handle (.channel .enabled) (some 0)) scope).toOption =
        some (.flag true) := by decide +kernel
    rw [perform, result_bind_pure]
    cases hresult : result (Scope.getValue handle (.channel .enabled) (some 0)) scope with
    | ok v =>
      rw [hresult] at value
      cases value
      rfl
    | error fault =>
      rw [hresult] at value
      cases value
  have source : ∃ s, RunReads handle s [.refresh, .start] start := by
    have published : scope.bank.published.isSome = true := by decide +kernel
    obtain ⟨s, hs⟩ := Option.isSome_iff_exists.mp published
    rcases published_of_run hs with before | read
    · cases before
    · exact ⟨s, read⟩
  obtain ⟨s, told, read⟩ :=
    (run_answers_from_readings handle _ [.refresh, .start] rfl done).1 (.inr source)
  exact ⟨s, Value.flag.inj (Answer.value.inj (Except.ok.inj told)), read⟩

/-- The slip on the same instrument: asked after a start with nothing read, it seems to show no
channel. -/
theorem run_answers_from_nothing :
    let handle : Handle := ⟨{}, none⟩
    let start := Scope.ofLine ⟨(⟨1 :: List.replicate 239 0, rfl, none⟩ : Instrument), []⟩
    let asked : Call := .getValue (.channel .enabled) (some 0)
    result (asked.perform handle) (run handle [.start] start) = .ok (.value (.flag false)) ∧
      ∀ s, ¬ RunReads handle s ([.start] ++ [asked]) start := by
  intro handle start asked
  refine ⟨rfl, ?_⟩
  have unpublished : (run handle ([.start] ++ [asked]) start).bank.published = none := rfl
  exact (not_runReads_of_unpublished (fun _ => rfl) unpublished).2

end Call

end Oscilloscope
