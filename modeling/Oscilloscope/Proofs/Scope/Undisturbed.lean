/- An acquisition beside other calls. Two runs that steer it alike, over an instrument that answers
   the steering alike, have it go alike, whatever else is called in one of them and not in the
   other. -/

import Mathlib.Data.List.Forall2
import Oscilloscope.Proofs.Scope.Counters
import Oscilloscope.Proofs.Scope.Determinacy
import Oscilloscope.Proofs.Wire.Faithful
import Oscilloscope.Proofs.Wire.Rehearsed

set_option autoImplicit false
set_option relaxedAutoImplicit false

namespace Oscilloscope

namespace Call

variable {σ : Type} [Transport σ] {handle : Handle} {scope other : Scope σ}

/-- The calls that steer an acquisition: they run it, or set a limit of it. -/
def steers : Call → Bool
  | .start | .requestStop | .tick | .setValue (.device (.limit _)) _ _ => true
  | _ => false

/-- On `other` a call gets the same answers to the same transfers as on `scope` and, if it is a
start, finds the same snapshot published. -/
structure AnsweredSame (handle : Handle) (call : Call) (scope other : Scope σ) : Prop where
  answers : Replays other.bank.line.device (call.transfers handle scope)
  published : call = .start → other.bank.published = scope.bank.published

/-- What is more, a tick that captures finds the limit of time reached on both scopes or on
neither. -/
structure MeetsSame (handle : Handle) (call : Call) (scope other : Scope σ) : Prop
    extends AnsweredSame handle call scope other where
  clock : call = .tick → scope.phase = .capturing → scope.TimedAlike handle other

/-- On both scopes a call comes to the same, tells the same, does the same on the wire, and leaves
the acquisition the same. -/
structure GoesSame (handle : Handle) (call : Call) (scope other : Scope σ) : Prop where
  result_eq : result (call.perform handle) other = result (call.perform handle) scope
  told_eq : call.told handle other = call.told handle scope
  transfers_eq : call.transfers handle other = call.transfers handle scope
  agrees : (call.after handle scope).Agrees (call.after handle other)

private theorem goesSame_of_work {α : Type} {call : Call} {x : Work σ α} {f : α → Answer}
    (t : List Transfer) (packed : call.perform handle = x >>= fun a => pure (f a))
    (alike : scope.Agrees other) (same : result x other = result x scope)
    (left : (final x scope).Agrees (final x other))
    (here : (final x scope).bank.line.record = scope.bank.line.record ++ t)
    (there : (final x other).bank.line.record = other.bank.line.record ++ t) :
    call.GoesSame handle scope other := by
  have hafter (s : Scope σ) : call.after handle s = final x s := after_of_packed packed s
  rw [← hafter] at here there
  rw [← hafter, ← hafter] at left
  refine ⟨?_, ?_, ?_, left⟩
  · rw [packed, result_bind_pure, result_bind_pure, same]
  · rw [told, told, left.events, alike.events]
  · rw [Call.transfers_eq here, Call.transfers_eq there]

private theorem does_transfers {α : Type} {call : Call} {x : Work σ α}
    (determined : Scope.view.Determined x)
    (alone : (call.after handle scope).bank.line = (final x scope).bank.line) :
    Scope.view.Does x scope (call.transfers handle scope) := by
  obtain ⟨t, does⟩ := determined scope
  have htransfers : call.transfers handle scope = t := by
    refine Call.transfers_eq ?_
    rw [alone]
    exact does.record_eq
  rw [htransfers]
  exact does

private theorem tick_does (handle : Handle) (capturing : scope.phase = .capturing) :
    Scope.view.Does (Scope.sweep handle) scope (Call.tick.transfers handle scope) := by
  refine does_transfers (Scope.sweep_determined handle) ?_
  rw [after_tick, Scope.bank_tick capturing]

private theorem goesSame_of_determined {α : Type} {call : Call} {x : Work σ α} {f : α → Answer}
    (packed : call.perform handle = x >>= fun a => pure (f a)) (alike : scope.Agrees other)
    (determined : Scope.view.Determined x)
    (answers : Replays other.bank.line.device (call.transfers handle scope)) :
    call.GoesSame handle scope other := by
  have does : Scope.view.Does x scope (call.transfers handle scope) := by
    refine does_transfers determined ?_
    rw [after_of_packed packed]
  rw [← List.append_nil (call.transfers handle scope)] at answers
  have follows := does.follows other [] alike answers
  exact goesSame_of_work _ packed alike follows.result_eq follows.alike does.record_eq
    follows.record_eq

private theorem tick_goesSame (alike : scope.Agrees other)
    (same : MeetsSame handle .tick scope other) :
    GoesSame handle .tick scope other := by
  by_cases capturing : scope.phase = .capturing
  · have does := tick_does handle capturing
    have answers := same.answers
    have clock := same.clock rfl capturing
    rw [← List.append_nil (transfers handle .tick scope)] at answers
    have follows := does.follows other [] alike answers
    obtain ⟨hresult, hfinal⟩ := Scope.tick_follows capturing alike follows clock
    refine goesSame_of_work (transfers handle .tick scope) rfl alike hresult hfinal ?_ ?_
    · rw [Scope.bank_tick capturing]
      exact does.record_eq
    · rw [Scope.bank_tick (alike.phase.trans capturing)]
      exact follows.record_eq
  · have resting : other.phase ≠ .capturing := by
      rw [alike.phase]
      exact capturing
    obtain ⟨here, left⟩ := Scope.tick_of_resting handle capturing
    obtain ⟨there, left'⟩ := Scope.tick_of_resting handle resting
    refine goesSame_of_work [] rfl alike (there.trans here.symm) ?_ ?_ ?_
    · rw [left, left']
      exact alike.settled
    · rw [left, Scope.settled_bank, List.append_nil]
    · rw [left', Scope.settled_bank, List.append_nil]

private theorem start_goesSame (handle : Handle) (alike : scope.Agrees other)
    (published : other.bank.published = scope.bank.published) :
    GoesSame handle .start scope other := by
  have unused (s : Scope σ) : (final (Scope.start handle) s).bank.line.record =
      s.bank.line.record ++ [] := by
    rw [(Scope.start_starts handle s).bank, List.append_nil]
  have same : result (Scope.start handle) other = result (Scope.start handle) scope ∧
      (final (Scope.start handle) scope).Agrees (final (Scope.start handle) other) := by
    by_cases idle : scope.phase = .idle
    · obtain ⟨here, begun⟩ := Scope.start_of_idle handle idle
      obtain ⟨there, begun'⟩ := Scope.start_of_idle handle (alike.phase.trans idle)
      rw [here, there, begun, begun']
      exact ⟨rfl, alike.begun handle published⟩
    · have running : other.phase ≠ .idle := by
        rw [alike.phase]
        exact idle
      obtain ⟨here, left⟩ := Scope.start_of_busy handle idle
      obtain ⟨there, left'⟩ := Scope.start_of_busy handle running
      rw [here, there, left, left', alike.phase]
      exact ⟨rfl, alike⟩
  exact goesSame_of_work [] rfl alike same.1 same.2 (unused scope) (unused other)

private theorem requestStop_determined : Scope.view.Determined (Scope.requestStop (σ := σ)) :=
  View.determined_modify Scope.line_stopRequested fun _ _ alike => alike.stopRequested

private theorem goesSame_of_meetsSame {call : Call} (steers : call.steers = true)
    (alike : scope.Agrees other) (same : call.MeetsSame handle scope other) :
    call.GoesSame handle scope other := by
  unfold Call.steers at steers
  split at steers
  · exact start_goesSame handle alike (same.published rfl)
  · exact goesSame_of_determined (f := fun _ => .done) rfl alike requestStop_determined
      same.answers
  · exact tick_goesSame alike same
  · exact goesSame_of_determined (f := fun _ => .done) rfl alike
      (Scope.setLimit_determined handle _ _ _) same.answers
  · cases steers

private theorem replays_transfers {call : Call} (steers : call.steers = true) (handle : Handle)
    (scope : Scope σ) : Replays scope.bank.line.device (call.transfers handle scope) := by
  have unused (same : (call.after handle scope).bank = scope.bank) :
      Replays scope.bank.line.device (call.transfers handle scope) := by
    rw [Call.transfers_eq (t := []) (by rw [same, List.append_nil])]
    trivial
  have used {x : Work σ Unit} (does : Scope.view.Does x scope (call.transfers handle scope)) :
      Replays scope.bank.line.device (call.transfers handle scope) := by
    have replayed := does.replays [] trivial
    rw [List.append_nil] at replayed
    exact replayed
  unfold Call.steers at steers
  split at steers
  · refine unused ?_
    rw [after_start]
    exact (Scope.start_starts handle scope).bank
  · exact used (does_transfers requestStop_determined rfl)
  · by_cases capturing : scope.phase = .capturing
    · exact used (tick_does handle capturing)
    · refine unused ?_
      rw [after_tick]
      exact (Scope.tick_of_not_capturing handle capturing).2
  · rename_i kind index value
    refine used (does_transfers (Scope.setLimit_determined handle kind index value) ?_)
    rw [after_setValue]
  · cases steers

private theorem answeredSame_of_device {call : Call} (steers : call.steers = true)
    (device : other.bank.line.device = scope.bank.line.device)
    (published : call = .start → other.bank.published = scope.bank.published) :
    call.AnsweredSame handle scope other := by
  refine ⟨?_, published⟩
  rw [device]
  exact replays_transfers steers handle scope

private theorem acquires_of_not_steers {call : Call} (beside : call.steers = false) :
    call.acquires = false := by
  cases call with
  | start | requestStop | tick => cases beside
  | _ => rfl

private theorem limits_after {call : Call} (beside : call.steers = false) (handle : Handle)
    (scope : Scope σ) : (call.after handle scope).limits = scope.limits := by
  rcases limits_beside (acquires_of_not_steers beside) handle scope with same | ⟨_, _, _, _, rfl, -⟩
  · exact same
  · cases beside

private theorem agrees_after {call : Call} (beside : call.steers = false) (handle : Handle)
    (scope : Scope σ) : scope.Agrees (call.after handle scope) := by
  have acquires := acquires_of_not_steers beside
  obtain ⟨phase, baseline, events, ticker⟩ :=
    Scope.Session.mk.inj (session_after acquires handle scope)
  exact ⟨phase, baseline, events, ticker,
    congrArg Limits.untimed (limits_after beside handle scope)⟩

/-- The calls of a run that steer its acquisition, with the scopes that they are made on. -/
def steered (handle : Handle) : List Call → Scope σ → List (Call × Scope σ)
  | [], _ => []
  | call :: rest, scope =>
    let later := steered handle rest (call.after handle scope)
    if call.steers then (call, scope) :: later else later

private theorem steered_cons_of_steers {call : Call} (steers : call.steers = true) (handle : Handle)
    (rest : List Call) (scope : Scope σ) : steered handle (call :: rest) scope =
      (call, scope) :: steered handle rest (call.after handle scope) := by
  rw [steered, if_pos steers]

private theorem steered_cons_of_beside {call : Call} (beside : call.steers = false)
    (handle : Handle)
    (rest : List Call) (scope : Scope σ) :
    steered handle (call :: rest) scope = steered handle rest (call.after handle scope) := by
  rw [steered, beside]
  rfl

theorem agrees_run {calls : List Call} (unsteered : steered handle calls scope = []) :
    scope.Agrees (run handle calls scope) := by
  induction calls generalizing scope with
  | nil => exact .refl scope
  | cons call rest ih =>
    cases steers : call.steers with
    | true =>
      rw [steered_cons_of_steers steers] at unsteered
      cases unsteered
    | false =>
      rw [steered_cons_of_beside steers] at unsteered
      exact (agrees_after steers handle scope).trans (ih unsteered)

private theorem exists_run_of_steered {calls : List Call} {call : Call} {s : Scope σ}
    {later : List (Call × Scope σ)} (first : steered handle calls scope = (call, s) :: later) :
    call.steers = true ∧ scope.Agrees s ∧ ∃ rest,
      later = steered handle rest (call.after handle s) ∧
        run handle calls scope = run handle rest (call.after handle s) := by
  induction calls generalizing scope with
  | nil => cases first
  | cons head rest ih =>
    cases steers : head.steers with
    | true =>
      rw [steered_cons_of_steers steers] at first
      cases first
      exact ⟨steers, .refl _, rest, rfl, rfl⟩
    | false =>
      rw [steered_cons_of_beside steers] at first
      obtain ⟨hcall, alike, later⟩ := ih first
      exact ⟨hcall, (agrees_after steers handle scope).trans alike, later⟩

private theorem steered_go_same {here there : List (Call × Scope σ)}
    (same : List.Forall₂ (fun x y => y.1 = x.1 ∧ x.1.MeetsSame handle x.2 y.2) here there)
    {calls others : List Call} {scope other : Scope σ} (hhere : steered handle calls scope = here)
    (hthere : steered handle others other = there) (alike : scope.Agrees other) :
    List.Forall₂ (fun x y => y.1 = x.1 ∧ x.1.GoesSame handle x.2 y.2) here there ∧
      (run handle calls scope).Agrees (run handle others other) := by
  -- On the steps that steer: between two of them each run stays where its acquisition stands.
  induction same generalizing calls others scope other with
  | nil =>
    have before := (agrees_run hhere).symm.trans alike
    exact ⟨.nil, before.trans (agrees_run hthere)⟩
  | @cons x y here there first rest ih =>
    obtain ⟨call, s⟩ := x
    obtain ⟨call', s'⟩ := y
    obtain ⟨rfl, meets⟩ := first
    obtain ⟨steers, before, later, hlater, hrun⟩ := exists_run_of_steered hhere
    obtain ⟨-, before', later', hlater', hrun'⟩ := exists_run_of_steered hthere
    have standing : s.Agrees s' := (before.symm.trans alike).trans before'
    have goes := goesSame_of_meetsSame steers standing meets
    obtain ⟨others, ends⟩ := ih hlater.symm hlater'.symm goes.agrees
    refine ⟨.cons ⟨rfl, goes⟩ others, ?_⟩
    rw [hrun, hrun']
    exact ends

/-- Two runs from the same scope that make the same calls to steer the acquisition, in the same
order and each meeting with the same, have each of these calls come to the same, tell the same, do
the same on the wire, and leave the acquisition the same: phase, baseline, ticker, limits and
counters. All other calls, whichever and wherever they are made in either run, however they end
and whatever they read, leave the acquisition as it is. -/
theorem run_undisturbed (handle : Handle) (scope : Scope σ) (calls others : List Call)
    (same : List.Forall₂ (fun here there => there.1 = here.1 ∧
      here.1.MeetsSame handle here.2 there.2)
      (steered handle calls scope) (steered handle others scope)) :
    List.Forall₂ (fun here there => there.1 = here.1 ∧ here.1.GoesSame handle here.2 there.2)
        (steered handle calls scope) (steered handle others scope) ∧
      (run handle calls scope).Agrees (run handle others scope) ∧
      ∀ call : Call, call.steers = false → ∀ s : Scope σ, s.Agrees (call.after handle s) := by
  obtain ⟨each, ends⟩ := steered_go_same same rfl rfl (.refl scope)
  exact ⟨each, ends, fun call beside s => agrees_after beside handle s⟩

theorem run_undisturbed_by_refresh :
    let handle : Handle := ⟨{}, none⟩
    let scope := Scope.ofLine ⟨(⟨List.replicate 240 0, rfl, none⟩ : Instrument), []⟩
    let change : Call := .setValue (.channel .enabled) (some 0) (.flag true)
    (run handle [.refresh, .start, change, .refresh, .tick] scope).events =
      [.header, .changed (.channel .enabled .ch1) (.flag true)] := by
  intro handle scope change
  have begun : MeetsSame handle .start (run handle [.refresh] scope)
      (run handle [.refresh] scope) :=
    ⟨answeredSame_of_device rfl rfl fun _ => rfl, nofun⟩
  have ticked : MeetsSame handle .tick (run handle [.refresh, .start, change] scope)
      (run handle [.refresh, .start, change, .refresh] scope) := by
    have ext (d d' : Instrument) (image : d.image = d'.image) (answer : d.answer = d'.answer) :
        d = d' := by
      cases d
      cases d'
      cases image
      cases answer
      rfl
    refine ⟨answeredSame_of_device rfl (ext _ _ ?_ ?_) nofun, fun _ _ _ => ?_⟩
    · decide +kernel
    · decide +kernel
    · exact (Scope.overdue_of_untimed (by decide +kernel)).trans
        (Scope.overdue_of_untimed (by decide +kernel)).symm
  have alike := (run_undisturbed handle scope [.refresh, .start, change, .tick]
    [.refresh, .start, change, .refresh, .tick]
    (.cons ⟨rfl, begun⟩ (.cons ⟨rfl, ticked⟩ .nil))).2.1
  have told : (run handle [.refresh, .start, change, .tick] scope).events =
      [.header, .changed (.channel .enabled .ch1) (.flag true)] := by
    decide +kernel
  exact alike.events.trans told

/-- A limit of time minds the calls beside the acquisition, whatever the instrument answers. Where
each transfer takes a millisecond, the tick alone is done before 10 milliseconds are over, and after
another reading of the registers it is not. -/
theorem run_disturbed_by_refresh :
    let handle : Handle := ⟨{}, none⟩
    let fetch := Bank.sending {} .zero
    let scope : Scope Script :=
      .ofLine { device := { reads := (fetch ++ fetch).filterMap Transfer.received?, pace := 1 } }
    let limit : Call := .setValue (.device (.limit .time)) none (.natural 10)
    let calls := [limit, .start, .tick]
    let others := [limit, .start, .refresh, .tick]
    List.Forall₂ (fun here there => there.1 = here.1 ∧
        here.1.AnsweredSame handle here.2 there.2)
        (steered handle calls scope) (steered handle others scope) ∧
      (run handle calls scope).phase = .capturing ∧
      (run handle others scope).phase = .stopping := by
  intro handle fetch scope limit calls others
  let limited := limit.after handle scope
  let begun := after handle .start limited
  have limits : AnsweredSame handle limit scope scope := answeredSame_of_device rfl rfl nofun
  have begins : AnsweredSame handle .start limited limited :=
    answeredSame_of_device rfl rfl fun _ => rfl
  have ticks : AnsweredSame handle .tick begun (after handle .refresh begun) :=
    ⟨by decide +kernel, nofun⟩
  have here : steered handle calls scope = [(limit, scope), (.start, limited), (.tick, begun)] :=
    rfl
  have there : steered handle others scope =
      [(limit, scope), (.start, limited), (.tick, after handle .refresh begun)] := rfl
  refine ⟨?_, ?_, ?_⟩
  · rw [here, there]
    clear_value limited begun
    exact .cons ⟨rfl, limits⟩ (.cons ⟨rfl, begins⟩ (.cons ⟨rfl, ticks⟩ .nil))
  · decide +kernel
  · decide +kernel

end Call

end Oscilloscope
