/- Calls to an instrument that holds its registers faithfully. They change only where the change of
   a setting succeeds, to what the change makes of them, and what a caller is told of them was read
   from the instrument. -/

import Oscilloscope.Proofs.Scope.RegisterWrites
import Oscilloscope.Proofs.Wire.Faithful

set_option autoImplicit false
set_option relaxedAutoImplicit false

namespace Oscilloscope

def Snapshot.revised (s : Snapshot) (key : Key) (index : Option Nat) (value : Value) :
    Except Fault Snapshot := do
  let x ← key.address index
  if !key.capabilities.set then throw (.notApplicable key)
  s.apply x value

theorem Snapshot.revised_of_address {s : Snapshot} {key : Key} {index : Option Nat} {value : Value}
    {x : Setting} (address : key.address index = .ok x) (can : key.capabilities.set = true) :
    s.revised key index value = s.apply x value := by
  rw [revised, address, can]
  rfl

namespace Scope

section

variable {σ : Type}

/-- From a scope to a later one `s` was published if the registers were read. -/
def Sees (s : Snapshot) (scope after : Scope σ) : Prop :=
  ∃ t, after.bank.line.record = scope.bank.line.record ++ t ∧
    after.bank.published = if submits .readRegisters t then some s else scope.bank.published

variable {s : Snapshot} {scope middle after : Scope σ}

private theorem Sees.of_bank (same : after.bank = scope.bank) : Sees s scope after :=
  ⟨[], by rw [same, List.append_nil], by rw [same]; rfl⟩

private theorem Sees.of_read {t : List Transfer}
    (record : after.bank.line.record = scope.bank.line.record ++ t)
    (read : submits .readRegisters t = true) (published : after.bank.published = some s) :
    Sees s scope after :=
  ⟨t, record, by rw [published, read]; rfl⟩

theorem Sees.trans (first : Sees s scope middle) (second : Sees s middle after) :
    Sees s scope after := by
  obtain ⟨t, hmiddle, hfirst⟩ := first
  obtain ⟨u, hafter, hsecond⟩ := second
  refine ⟨t ++ u, ?_, ?_⟩
  · rw [hafter, hmiddle, List.append_assoc]
  · rw [hsecond, hfirst, submits_append]
    cases submits .readRegisters t <;> cases submits .readRegisters u <;> rfl

end

variable {σ : Type} [Transport σ] {handle : Handle} {s : Snapshot} {scope middle after : Scope σ}

private theorem sees_of_fetch (fetch : result (Bank.fetch handle.tuning) scope.bank = .ok s)
    (line : after.bank.line = (scope.fetched handle).bank.line)
    (published : after.bank.published = some s) : Sees s scope after := by
  obtain ⟨payload, t, read, record⟩ := Bank.yielded_of_fetch fetch
  refine .of_read ?_ read.submits_readRegisters published
  rw [line]
  exact record

variable [Faithful σ]

def image (scope : Scope σ) : Bytes :=
  Faithful.image scope.bank.line.device

/-- From a scope to a later one the registers stayed at `s`, and were seen if they were read. -/
structure Observes (s : Snapshot) (scope after : Scope σ) : Prop where
  holds : after.bank.line.Holds s
  sees : Sees s scope after

private theorem Observes.of_bank (holds : scope.bank.line.Holds s)
    (same : after.bank = scope.bank) :
    Observes s scope after :=
  ⟨by rw [same]; exact holds, .of_bank same⟩

theorem Observes.trans (first : Observes s scope middle) (second : Observes s middle after) :
    Observes s scope after :=
  ⟨second.holds, first.sees.trans second.sees⟩

private theorem composes_observes (s : Snapshot) :
    Composes fun ⦃α : Type⦄ (x : Work σ α) =>
      ∀ scope : Scope σ, scope.bank.line.Holds s → Observes s scope (final x scope) where
  pure _ _ holds := .of_bank holds rfl
  throw _ _ holds := .of_bank holds rfl
  get _ holds := .of_bank holds rfl
  bind := by
    intro α β x f first rest scope holds
    refine bind_cases (P := fun _ after => Observes s scope after) ?_ ?_
    · intro _ _
      exact first scope holds
    · intro a _
      exact (first scope holds).trans (rest a _ (first scope holds).holds)

theorem fetched_of_holds (handle : Handle) (holds : scope.bank.line.Holds s) :
    result (Bank.fetch handle.tuning) scope.bank = .ok s ∧
      (scope.fetched handle).bank.line.Holds s :=
  Bank.fetch_of_holds handle.tuning holds

private theorem refresh_of_holds (handle : Handle) (holds : scope.bank.line.Holds s) :
    result (refresh handle) scope = .ok s ∧ Observes s scope (final (refresh handle) scope) := by
  obtain ⟨fetch, hfetched⟩ := fetched_of_holds handle holds
  obtain ⟨hresult, hfinal⟩ := Bank.refresh_of_fetch fetch
  rw [refresh, result_onBank, final_onBank, hfinal]
  exact ⟨hresult, hfetched, sees_of_fetch fetch rfl rfl⟩

private theorem FrameRead.observes {fresh : Snapshot} {c : ChannelId} {r : Except Fault Unit}
    (h : FrameRead handle fresh c scope r after) (holds : scope.bank.line.Holds s) :
    Observes s scope after := by
  -- The answer is always that there are no samples, so no stream is read.
  obtain ⟨ready, hready, rfl, hasked⟩ :=
    askSamples_succeeds handle.tuning c scope.bank.line holds
  cases h with
  | hidden | undecoded => exact .of_bank holds rfl
  | unasked _ _ answer | broken _ _ answer | whole _ _ answer =>
    rw [hready] at answer
    cases answer
  | waiting =>
    obtain ⟨t, record, asked⟩ := Link.request_meets handle.tuning .readSamples
      [1, .ofNat c.index] 128 scope.bank.line
    rw [← final_askSamples] at record
    refine ⟨hasked, t, record, ?_⟩
    rw [asked.submits_eq_false (by decide)]
    rfl

private theorem Captured.observes {r : Except Fault Unit} (h : Captured handle scope r after)
    (holds : scope.bank.line.Holds s) :
    if scope.tellable s then Observes s scope after
    else after.bank.line.Holds s ∧ after.bank.published = scope.bank.published := by
  obtain ⟨hfetch, hfetched⟩ := fetched_of_holds handle holds
  have published {told : Scope σ} (change : ChangeTold s (scope.fetched handle) (.ok ()) told) :
      scope.tellable s = true ∧ Observes s scope (told.publishing s) := by
    have line : told.bank.line = (scope.fetched handle).bank.line := congrArg Bank.line change.bank
    refine ⟨change.tellable, ?_, sees_of_fetch hfetch line rfl⟩
    show told.bank.line.Holds s
    rw [line]
    exact hfetched
  cases h with
  | unfetched failed =>
    rw [hfetch] at failed
    cases failed
  | untold fetch change =>
    cases hfetch.symm.trans fetch
    have untellable : scope.tellable s = false := change.tellable
    rw [if_neg (by simp [untellable]), change.bank]
    refine ⟨hfetched, ?_⟩
    rw [fetched, Bank.fetch, Bank.final_onLine]
  | firstFailed fetch change ch1 =>
    cases hfetch.symm.trans fetch
    obtain ⟨tellable, told⟩ := published change
    rw [if_pos tellable]
    exact told.trans (ch1.observes told.holds)
  | secondFailed fetch change ch1 ch2 =>
    cases hfetch.symm.trans fetch
    obtain ⟨tellable, told⟩ := published change
    have first := told.trans (ch1.observes told.holds)
    rw [if_pos tellable]
    exact first.trans (ch2.observes first.holds)
  | complete fetch change ch1 ch2 =>
    cases hfetch.symm.trans fetch
    obtain ⟨tellable, told⟩ := published change
    have first := told.trans (ch1.observes told.holds)
    have second := first.trans (ch2.observes first.holds)
    rw [if_pos tellable]
    split
    · exact second.trans (.of_bank second.holds (stopRequested_bank _))
    · exact second

/-- From a scope to a later one the registers stayed at `s`, and were published if they were read
and the change could be told. -/
structure Follows (s : Snapshot) (scope after : Scope σ) : Prop where
  holds : after.bank.line.Holds s
  published : ∃ t, after.bank.line.record = scope.bank.line.record ++ t ∧
    after.bank.published =
      if submits .readRegisters t && scope.tellable s then some s else scope.bank.published

private theorem Captured.follows {r : Except Fault Unit} (h : Captured handle scope r after)
    (holds : scope.bank.line.Holds s) : Follows s scope after := by
  have observed := h.observes holds
  split at observed
  · rename_i tellable
    obtain ⟨hafter, t, record, published⟩ := observed
    refine ⟨hafter, t, record, ?_⟩
    rw [tellable, Bool.and_true]
    exact published
  · rename_i untellable
    obtain ⟨hafter, published⟩ := observed
    obtain ⟨t, record, -⟩ := h.spares
    refine ⟨hafter, t, record, ?_⟩
    rw [Bool.not_eq_true] at untellable
    rw [untellable, Bool.and_false]
    exact published

private theorem Ticked.follows {r : Except Fault Phase} (h : Ticked handle scope r after)
    (holds : scope.bank.line.Holds s) : Follows s scope after := by
  cases h with
  | idle | ended => exact ⟨holds, [], (List.append_nil _).symm, rfl⟩
  | failed _ round | continued _ round =>
    obtain ⟨hafter, published⟩ := round.follows holds
    exact ⟨hafter, published⟩

variable {key : Key} {index : Option Nat} {value : Value}

private theorem ValueSet.of_holds {r : Except Fault Unit}
    (h : ValueSet handle key index value scope r after)
    (register : ∀ kind, key ≠ .device (.limit kind)) (holds : scope.bank.line.Holds s) :
    r = (s.revised key index value).map (fun _ => ()) ∧
      after.bank.line.Holds ((s.revised key index value).toOption.getD s) := by
  cases h with
  | misaddressed address =>
    rw [Snapshot.revised, address]
    exact ⟨rfl, holds⟩
  | unsettable address cannot =>
    rw [Snapshot.revised, address, cannot]
    exact ⟨rfl, holds⟩
  | limited address | unlimited address =>
    exact absurd (Key.key_of_address address).symm (register _)
  | unrevised address can _ revised | revised address can _ revised =>
    obtain ⟨hresult, hafter⟩ := revised.of_holds holds
    rw [Snapshot.revised_of_address address can]
    rw [← hresult] at hafter ⊢
    exact ⟨rfl, hafter⟩

private theorem sees_of_revised {change : Snapshot → Except Fault Snapshot}
    {r : Except Fault Snapshot}
    (h : Bank.Revised handle.tuning change scope.bank r after.bank)
    (holds : scope.bank.line.Holds s) : Sees s scope after := by
  have hfetch := (fetched_of_holds handle holds).1
  generalize hbank : after.bank = bank at h
  cases h with
  | unfetched failed =>
    rw [hfetch] at failed
    cases failed
  | unchanged fetch =>
    cases hfetch.symm.trans fetch
    exact sees_of_fetch hfetch (by rw [hbank]; rfl) (by rw [hbank]; rfl)
  | @uncommitted _ pending _ fetch | @committed _ pending fetch =>
    cases hfetch.symm.trans fetch
    obtain ⟨t, record, overwritten, -⟩ := Bank.overwritten_of_commit hfetch pending
    refine .of_read (by rw [hbank]; exact record) overwritten.submits_readRegisters ?_
    rw [hbank, Bank.commit, Bank.final_onLine]
    rfl

private theorem ValueSet.sees {r : Except Fault Unit}
    (h : ValueSet handle key index value scope r after)
    (holds : scope.bank.line.Holds s) : Sees s scope after := by
  cases h with
  | misaddressed | unsettable | limited | unlimited => exact .of_bank rfl
  | unrevised _ _ _ revised | revised _ _ _ revised => exact sees_of_revised revised holds

theorem result_snapshot (handle : Handle) (holds : scope.bank.line.Holds s) :
    result (snapshot handle) scope =
      .ok (if scope.phase = .capturing then scope.shadow else s) := by
  rw [snapshot, result_bind_ok (result_get _), final_get]
  split
  · rfl
  · exact (refresh_of_holds handle holds).1

private theorem getValue_of_holds (handle : Handle) (index : Option Nat)
    (holds : scope.bank.line.Holds s)
    (remote : key ≠ .device .connection) (register : ∀ kind, key ≠ .device (.limit kind)) :
    result (getValue handle key index) scope =
      (key.address index).bind (if scope.phase = .capturing then scope.shadow else s).describe := by
  unfold getValue
  rw [result_bind, result_ofExcept, final_ofExcept]
  cases address : key.address index with
  | error fault => rfl
  | ok x =>
    have hkey := Key.key_of_address address
    show result _ scope = Snapshot.describe _ x
    split
    · exact absurd hkey.symm remote
    · exact absurd hkey.symm (register _)
    · rfl
    · rw [result_bind_ok (result_snapshot handle holds), result_ofExcept]

end Scope

/-! ### Runs -/

namespace Call

variable {σ : Type} [Transport σ] [Faithful σ]

/-- Whether a call reads the registers and publishes them. Only a tick can keep what it has read to
itself, where the change cannot be told. -/
def publishes (handle : Handle) : Call → Scope σ → Bool
  | .tick, scope =>
    submits .readRegisters (transfers handle .tick scope) &&
      (Snapshot.decode scope.image).toOption.any scope.tellable
  | call, scope => submits .readRegisters (call.transfers handle scope)

/-- The registers as the last call to publish them has read them, `seen` before the first. -/
def lastSeen (handle : Handle) : List Call → Scope σ → Option Bytes → Option Bytes
  | [], _, seen => seen
  | call :: rest, scope, seen =>
    lastSeen handle rest (call.after handle scope)
      (if call.publishes handle scope then some scope.image else seen)

variable {scope : Scope σ} {s : Snapshot}

private theorem observes_after {call : Call} (handle : Handle) (holds : scope.bank.line.Holds s)
    (other : ∀ key index value, call = .setValue key index value →
      ∃ kind, key = .device (.limit kind)) (untimed : call ≠ .tick) :
    Scope.Observes s scope (call.after handle scope) := by
  rw [after_eq_final]
  cases call with
  | start =>
    have started := Scope.start_starts handle scope
    rw [perform, final_bind_pure]
    exact .of_bank holds started.bank
  | requestStop => exact .of_bank holds (Scope.stopRequested_bank scope)
  | tick => exact absurd rfl untimed
  | setValue key index value =>
    obtain ⟨kind, rfl⟩ := other key index value rfl
    rw [perform, final_bind_pure]
    exact .of_bank holds (Scope.setLimit_bank handle kind index value scope)
  | refresh | shadow | model | channel | echo | getValue | listValues =>
    refine (Scope.composes_observes s).perform
      (fun scope holds => (Scope.refresh_of_holds handle holds).2) ?_ rfl scope holds
    intro bytes scope holds
    obtain ⟨t, record, asked⟩ :=
      Link.request_meets handle.tuning .echo bytes 512 scope.bank.line
    rw [Scope.final_onLine]
    refine ⟨Link.echo_holds handle.tuning bytes 512 holds, t, record, ?_⟩
    rw [asked.submits_eq_false (by decide)]
    rfl

theorem holds_after {call : Call} (handle : Handle) (holds : scope.bank.line.Holds s)
    (other : ∀ key index value, call = .setValue key index value →
      ∃ kind, key = .device (.limit kind)) :
    (call.after handle scope).bank.line.Holds s := by
  by_cases timed : call = .tick
  · subst timed
    rw [after_eq_final, perform, final_bind_pure]
    exact ((Scope.tick_ticks handle scope).follows holds).holds
  · exact (observes_after handle holds other timed).holds

private theorem sees_after {call : Call} (handle : Handle) (holds : scope.bank.line.Holds s)
    (untimed : call ≠ .tick) : Scope.Sees s scope (call.after handle scope) := by
  cases call with
  | setValue key index value =>
    rw [after_eq_final, perform, final_bind_pure]
    exact (Scope.setValue_sets handle key index value scope).sees holds
  | _ => exact (observes_after handle holds (fun _ _ _ h => by cases h) untimed).sees

private theorem published_after (handle : Handle) (call : Call) (holds : scope.bank.line.Holds s) :
    (call.after handle scope).bank.published =
      if call.publishes handle scope then some s else scope.bank.published := by
  have decoded : Snapshot.decode scope.image = .ok s := holds.decode
  by_cases timed : call = .tick
  · subst timed
    have course := ((Scope.tick_ticks handle scope).follows holds).published
    rw [← final_bind_pure (Scope.tick handle) Answer.phase] at course
    obtain ⟨t, record, published⟩ := course
    have hafter : after handle .tick scope = final (perform handle .tick) scope :=
      after_eq_final handle .tick scope
    have htransfers : transfers handle .tick scope = t := by
      refine transfers_eq ?_
      rw [hafter]
      exact record
    rw [publishes, htransfers, decoded, hafter]
    exact published
  · obtain ⟨t, record, published⟩ := sees_after handle holds timed
    have hpublishes : call.publishes handle scope = submits .readRegisters t := by
      rw [← transfers_eq record]
      cases call with
      | tick => exact absurd rfl timed
      | _ => rfl
    rw [hpublishes]
    exact published

theorem setValue_after {key : Key} (handle : Handle) (index : Option Nat) (value : Value)
    (holds : scope.bank.line.Holds s) (register : ∀ kind, key ≠ .device (.limit kind)) :
    result (Scope.setValue handle key index value) scope =
        (s.revised key index value).map (fun _ => ()) ∧
      (after handle (.setValue key index value) scope).bank.line.Holds
        ((s.revised key index value).toOption.getD s) := by
  rw [after_eq_final, perform, final_bind_pure]
  exact (Scope.setValue_sets handle key index value scope).of_holds register holds

private theorem exists_holds_after (handle : Handle) (call : Call)
    (holds : scope.bank.line.Holds s) :
    ∃ s, (call.after handle scope).bank.line.Holds s := by
  rcases call.changes_or_not with ⟨key, index, value, rfl, register⟩ | other
  · exact ⟨_, (setValue_after handle index value holds register).2⟩
  · exact ⟨s, holds_after handle holds other⟩

theorem run_sees (handle : Handle) (calls : List Call) (scope : Scope σ) (seen : Option Bytes)
    (holds : ∃ s, scope.bank.line.Holds s)
    (published : seen = scope.bank.published.map Snapshot.encode) :
    (∃ s, (run handle calls scope).bank.line.Holds s) ∧
      lastSeen handle calls scope seen =
        (run handle calls scope).bank.published.map Snapshot.encode := by
  -- `seen` is what was published before, along with the registers that are held now.
  induction calls generalizing scope seen with
  | nil => exact ⟨holds, published⟩
  | cons call rest ih =>
    obtain ⟨s, holds⟩ := holds
    refine ih _ _ (exists_holds_after handle call holds) ?_
    have himage : scope.image = s.encode := holds.image
    rw [published_after handle call holds, himage, published]
    split <;> rfl

/-- No update is lost with an instrument that answers faithfully, whatever is called in whichever
order. Its registers change only where the change of a register setting succeeds, to what the
change makes of them; a change that fails leaves them, and so does every other call. A refresh
yields what they hold, and so does reading a setting, except during an acquisition: then it yields
what they held when they were last read and published. -/
theorem run_keeps_registers (handle : Handle) (line : Line σ)
    (settled : Faithful.settled line.device) (calls : List Call) (call : Call) :
    let scope := run handle calls (Scope.ofLine line)
    let after := call.after handle scope
    ∃ held, Snapshot.decode scope.image = .ok held ∧
      (∀ key index value, call = .setValue key index value →
        (∀ kind, key ≠ .device (.limit kind)) →
          let r := result (Scope.setValue handle key index value) scope
          (∀ pending, held.revised key index value = .ok pending →
            r = .ok () ∧ after.image = pending.encode) ∧
          ∀ fault, held.revised key index value = .error fault →
            r = .error fault ∧ after.image = scope.image) ∧
      ((∀ key index value, call = .setValue key index value →
        ∃ kind, key = .device (.limit kind)) → after.image = scope.image) ∧
      result (Scope.refresh handle) scope = .ok held ∧
      ∀ key index, key ≠ .device .connection → (∀ kind, key ≠ .device (.limit kind)) →
        let r := result (Scope.getValue handle key index) scope
        (scope.phase ≠ .capturing → r = (key.address index).bind held.describe) ∧
          (scope.phase = .capturing →
            ∀ bytes, lastSeen handle calls (Scope.ofLine line) none = some bytes →
              ∃ seen, Snapshot.decode bytes = .ok seen ∧
                r = (key.address index).bind seen.describe) := by
  intro scope after
  obtain ⟨⟨held, holds⟩, hseen⟩ :=
    run_sees handle calls (Scope.ofLine line) none (Line.exists_holds settled) rfl
  have himage : scope.image = held.encode := holds.image
  refine ⟨held, holds.decode, ?_, ?_, (Scope.refresh_of_holds handle holds).1, ?_⟩
  · rintro key index value rfl register
    obtain ⟨hresult, hafter⟩ := setValue_after handle index value holds register
    refine ⟨fun pending possible => ?_, fun fault impossible => ?_⟩
    · rw [possible] at hresult hafter
      exact ⟨hresult, hafter.image⟩
    · rw [impossible] at hresult hafter
      exact ⟨hresult, hafter.image.trans himage.symm⟩
  · intro other
    exact (holds_after handle holds other).image.trans himage.symm
  · intro key index remote register
    have hvalue := Scope.getValue_of_holds handle index holds remote register
    refine ⟨fun phase => ?_, fun phase bytes hbytes => ?_⟩
    · rw [if_neg phase] at hvalue
      exact hvalue
    · rw [if_pos phase] at hvalue
      obtain ⟨seen, hpublished, rfl⟩ := Option.map_eq_some_iff.mp (hseen.symm.trans hbytes)
      have hshadow : Scope.shadow scope = seen := by
        rw [Scope.shadow, Bank.shadow, hpublished]
        rfl
      rw [hshadow] at hvalue
      exact ⟨seen, seen.decode_encode, hvalue⟩

theorem run_keeps_registers_of_zero :
    let instrument : Instrument := ⟨List.replicate 240 0, rfl, none⟩
    let scope := run ⟨{}, none⟩ [.start, .tick] (Scope.ofLine ⟨instrument, []⟩)
    Faithful.settled instrument ∧
      (after ⟨{}, none⟩ (.setValue (.channel .enabled) (some 0) (.flag true)) scope).image =
        1 :: List.replicate 239 0 := by
  intro instrument scope
  obtain ⟨held, decoded, change, -⟩ := run_keeps_registers ⟨{}, none⟩ ⟨instrument, []⟩ rfl
    [.start, .tick] (.setValue (.channel .enabled) (some 0) (.flag true))
  have hzero : scope.image = List.replicate 240 0 := by decide +kernel
  have hheld : held = .zero := by
    have hdecode : Snapshot.decode (List.replicate 240 0) = .ok .zero :=
      if_neg (by rw [List.length_replicate]; decide)
    rw [hzero, hdecode] at decoded
    exact (Except.ok.inj decoded).symm
  have shown : (Snapshot.zero.revised (.channel .enabled) (some 0) (.flag true)).toOption.map
      Snapshot.encode = some (1 :: List.replicate 239 0) := by decide +kernel
  obtain ⟨possible, -⟩ := change (.channel .enabled) (some 0) (.flag true) rfl (by rintro _ ⟨⟩)
  rw [hheld] at possible
  obtain ⟨pending, hrevised, hpending⟩ := Option.map_eq_some_iff.mp shown
  refine ⟨rfl, (possible pending ?_).2.trans hpending⟩
  cases h : Snapshot.zero.revised (.channel .enabled) (some 0) (.flag true) with
  | ok => rw [h] at hrevised; exact congrArg Except.ok (Option.some.inj hrevised)
  | error => rw [h] at hrevised; cases hrevised

end Call

end Oscilloscope
