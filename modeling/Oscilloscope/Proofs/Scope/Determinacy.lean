/- What an acquisition goes by: where it stands, and the answers that it gets. What is published,
   and what was done on the line before, makes no difference to a tick. Neither does the clock,
   unless a time limit is set. -/

import Oscilloscope.Proofs.Scope.Transitions
import Oscilloscope.Proofs.Wire.Replay

set_option autoImplicit false
set_option relaxedAutoImplicit false

namespace Oscilloscope

/-- The limits and what was counted, without the time of the start. -/
def Limits.untimed (l : Limits) : Limits :=
  { l with startedAt := none }

namespace Scope

variable {σ α : Type}

/-- An acquisition stands the same on both scopes. Their lines, what is published and when it was
started may differ. -/
structure Agrees (scope other : Scope σ) : Prop where
  phase : other.phase = scope.phase
  baseline : other.baseline = scope.baseline
  events : other.events = scope.events
  ticker : other.ticker = scope.ticker
  limits : other.limits.untimed = scope.limits.untimed

theorem Agrees.refl (scope : Scope σ) : scope.Agrees scope := ⟨rfl, rfl, rfl, rfl, rfl⟩

theorem Agrees.symm {scope other : Scope σ} (h : scope.Agrees other) : other.Agrees scope :=
  ⟨h.phase.symm, h.baseline.symm, h.events.symm, h.ticker.symm, h.limits.symm⟩

theorem Agrees.trans {scope middle other : Scope σ} (h : scope.Agrees middle)
    (h' : middle.Agrees other) : scope.Agrees other :=
  ⟨h'.phase.trans h.phase, h'.baseline.trans h.baseline, h'.events.trans h.events,
    h'.ticker.trans h.ticker, h'.limits.trans h.limits⟩

private theorem Agrees.finished {scope other : Scope σ} (h : scope.Agrees other) :
    scope.finished.Agrees other.finished :=
  { h with
    phase := rfl
    events := congrArg (· ++ [Event.ended]) h.events
    ticker := rfl }

theorem Agrees.begun {scope other : Scope σ} [Transport σ] (h : scope.Agrees other)
    (handle : Handle) (published : other.bank.published = scope.bank.published) :
    (scope.begun handle).Agrees (other.begun handle) where
  phase := rfl
  baseline := published
  events := congrArg (· ++ [Event.header]) h.events
  ticker := rfl
  limits := congrArg (fun l : Limits => { l with samplesRead := 0, framesRead := 0 }) h.limits

theorem Agrees.stopRequested {scope other : Scope σ} (h : scope.Agrees other) :
    scope.stopRequested.Agrees other.stopRequested := by
  rw [Scope.stopRequested, Scope.stopRequested, h.phase]
  split
  · exact { h with phase := rfl }
  · exact h

theorem line_stopRequested (scope : Scope σ) :
    scope.stopRequested.bank.line = scope.bank.line := by
  rw [stopRequested_bank]

/-- The scope after a tick that does not capture: an acquisition that was to stop has ended. -/
def settled (scope : Scope σ) : Scope σ :=
  if scope.phase = .stopping then scope.finished else scope

theorem settled_bank (scope : Scope σ) : scope.settled.bank = scope.bank := by
  rw [settled]
  split <;> rfl

theorem Agrees.settled {scope other : Scope σ} (h : scope.Agrees other) :
    scope.settled.Agrees other.settled := by
  rw [Scope.settled, Scope.settled, h.phase]
  split
  · exact h.finished
  · exact h

def view : View σ (Scope σ) := ⟨fun scope => scope.bank.line, Agrees⟩

/-- Scopes under another notion of looking the same. -/
def viewBy (Alike : Scope σ → Scope σ → Prop) : View σ (Scope σ) :=
  ⟨fun scope => scope.bank.line, Alike⟩

/-- Scopes that look the same still do so when their lines have moved on, and when the same events
are told and the same frame is counted on both. -/
structure KeptByFrame (Alike : Scope σ → Scope σ → Prop) : Prop where
  withLine : ∀ {scope other}, Alike scope other →
    ∀ line line', Alike (scope.withLine line) (other.withLine line')
  told : ∀ {scope other}, Alike scope other → ∀ events,
    Alike { scope with events := scope.events ++ events }
      { other with events := other.events ++ events }
  counted : ∀ {scope other}, Alike scope other → ∀ samples,
    Alike { scope with limits := (scope.limits.countSamples samples).countFrames 1 }
      { other with limits := (other.limits.countSamples samples).countFrames 1 }

private theorem keptByFrame_agrees : KeptByFrame (Agrees (σ := σ)) where
  withLine alike _ _ := { alike with }
  told alike events := { alike with events := congrArg (· ++ events) alike.events }
  counted alike samples := { alike with
    limits := congrArg (fun l : Limits => (l.countSamples samples).countFrames 1) alike.limits }

variable [Transport σ] {Alike : Scope σ → Scope σ → Prop}

private theorem onLine_determined (kept : KeptByFrame Alike) {x : Exchange σ α}
    (hx : Line.view.Determined x) : (viewBy Alike).Determined (onLine x) := by
  intro scope
  obtain ⟨t, hrecord, hreplays, hfollows⟩ := hx scope.bank.line
  refine ⟨t, ?_, ?_, ?_⟩
  · rw [final_onLine]
    exact hrecord
  · rw [final_onLine]
    exact hreplays
  · intro other later alike replayed
    obtain ⟨hresult, -, record, rest⟩ :=
      hfollows other.bank.line later trivial replayed
    refine ⟨?_, ?_, ?_, ?_⟩
    · rw [result_onLine, result_onLine, hresult]
    · rw [final_onLine, final_onLine]
      exact kept.withLine alike _ _
    · rw [final_onLine]
      exact record
    · rw [final_onLine]
      exact rest

private theorem ofExcept_determined (r : Except Fault α) :
    (viewBy Alike).Determined (ofExcept r : Work σ α) := by
  cases r with
  | ok a => exact View.determined_pure a
  | error fault => exact View.determined_throw fault

private theorem emit_determined (kept : KeptByFrame Alike) (events : List Event) :
    (viewBy Alike).Determined (emit events : Work σ Unit) :=
  View.determined_modify (fun _ => rfl) fun _ _ alike => kept.told alike events

private theorem publish_determined (fresh : Snapshot) :
    view.Determined (onBank (Bank.publish fresh) : Work σ Unit) := by
  intro scope
  refine ⟨[], View.does_nothing (fun scope => ?_) fun other alike => ⟨?_, ?_⟩⟩
  · rw [final_onBank]
    rfl
  · rw [result_onBank, result_onBank]
    rfl
  · rw [final_onBank, final_onBank]
    exact { alike with }

private theorem tellChange_determined (fresh : Snapshot) :
    view.Determined (tellChange fresh : Work σ Unit) := by
  unfold tellChange
  refine View.determined_get (fun scope => ?_) fun scope other alike => ?_
  · split
    · exact View.determined_modify (fun _ => rfl) fun _ _ alike => { alike with baseline := rfl }
    · refine View.Determined.bind
        (View.determined_modify (fun _ => rfl) fun _ _ alike => { alike with baseline := rfl })
        fun _ => ?_
      refine (ofExcept_determined _).bind fun told => ?_
      split
      · exact emit_determined keptByFrame_agrees _
      · exact View.determined_pure _
  · rw [alike.baseline]

theorem readFrame_determined (kept : KeptByFrame Alike) (handle : Handle) (fresh : Snapshot)
    (c : ChannelId) : (viewBy Alike).Determined (readFrame (σ := σ) handle fresh c) := by
  unfold readFrame
  split
  · refine (ofExcept_determined _).bind fun channel => ?_
    refine (onLine_determined kept (askSamples_determined handle.tuning c)).bind fun ready => ?_
    split
    · refine (onLine_determined kept (Stream.receiving_determined handle.tuning c 0)).bind
        fun stream => ?_
      refine (emit_determined kept _).bind fun _ => (ofExcept_determined _).bind fun _ => ?_
      exact View.determined_modify (fun _ => rfl) fun _ _ alike =>
        kept.counted alike stream.sampleCount
    · exact View.determined_pure _
  · exact View.determined_pure _

def sweep (handle : Handle) : Work σ Unit := do
  let fresh ← onBank (Bank.fetch handle.tuning)
  tellChange fresh
  onBank (Bank.publish fresh)
  readFrame handle fresh .ch1
  readFrame handle fresh .ch2

def checkLimits : Work σ Unit := do
  let scope ← get
  if scope.limits.exceeded scope.now then requestStop

private theorem capture_eq (handle : Handle) :
    capture (σ := σ) handle = sweep handle >>= fun _ => checkLimits := by
  simp only [capture, sweep, checkLimits, bind_assoc]

theorem sweep_determined (handle : Handle) : view.Determined (sweep (σ := σ) handle) := by
  unfold sweep
  refine (onLine_determined keptByFrame_agrees
    (Bank.readSnapshot_determined handle.tuning)).bind fun fresh => ?_
  refine (tellChange_determined fresh).bind fun _ => ?_
  refine (publish_determined fresh).bind fun _ => ?_
  exact (readFrame_determined keptByFrame_agrees handle fresh .ch1).bind fun _ =>
    readFrame_determined keptByFrame_agrees handle fresh .ch2

def overdue (scope : Scope σ) : Bool :=
  scope.limits.millis != 0 &&
    scope.limits.startedAt.any fun start => scope.limits.millis.toNat ≤ scope.now - start

private theorem spent_eq (scope : Scope σ) :
    scope.spent = (scope.limits.untimed.exceeded 0 || scope.overdue) := by
  unfold spent overdue Limits.exceeded Limits.untimed
  cases scope.limits.startedAt with
  | none => simp
  | some start => simp

theorem overdue_of_untimed {scope : Scope σ} (untimed : scope.limits.millis = 0) :
    scope.overdue = false := by
  rw [overdue, bne_eq_false_iff_eq.mpr untimed, Bool.false_and]

theorem spent_congr {scope other : Scope σ} (same : other.limits.untimed = scope.limits.untimed)
    (clock : other.overdue = scope.overdue) : other.spent = scope.spent := by
  rw [spent_eq, spent_eq, same, clock]

def checked (scope : Scope σ) : Scope σ :=
  if scope.spent then scope.stopRequested else scope

private theorem checkLimits_checks (scope : Scope σ) :
    result checkLimits scope = .ok () ∧ final checkLimits scope = scope.checked := by
  unfold checkLimits
  rw [result_bind_ok (result_get _), final_bind_ok (result_get _), final_get]
  show _ ∧ _ = if scope.limits.exceeded scope.now = true then _ else _
  split
  · exact ⟨rfl, rfl⟩
  · exact ⟨rfl, rfl⟩

theorem checked_eq (scope : Scope σ) :
    scope.checked = { scope with phase := scope.checked.phase } := by
  rw [checked, stopRequested]
  split
  · split
    · rfl
    · rfl
  · rfl

private theorem Agrees.checked {scope other : Scope σ} (h : scope.Agrees other)
    (clock : other.checked.overdue = scope.checked.overdue) :
    scope.checked.Agrees other.checked := by
  have same : other.spent = scope.spent := by
    refine spent_congr h.limits ?_
    rw [checked_eq scope, checked_eq other] at clock
    exact clock
  rw [Scope.checked, Scope.checked, same]
  split
  · exact h.stopRequested
  · exact h

theorem tick_of_failed {handle : Handle} {scope : Scope σ} {fault : Fault}
    (capturing : scope.phase = .capturing) (failed : result (sweep handle) scope = .error fault) :
    result (tick handle) scope = .error fault ∧
      final (tick handle) scope = (final (sweep handle) scope).finished := by
  have hresult : result (capture handle) scope = .error fault := by
    rw [capture_eq, result_bind_error failed]
  have hfinal : final (capture handle) scope = final (sweep handle) scope := by
    rw [capture_eq, final_bind_error failed]
  have ending : result (endingOnFault (capture handle)) scope = .error fault := by
    rw [result_endingOnFault, hresult]
  unfold tick
  rw [result_bind_ok (result_get _), final_bind_ok (result_get _), final_get, capturing]
  constructor
  · exact result_bind_error ending _
  · rw [← hfinal, ← final_endingOnFault_of_error hresult]
    exact final_bind_error ending _

theorem tick_of_swept {handle : Handle} {scope : Scope σ} (capturing : scope.phase = .capturing)
    (swept : result (sweep handle) scope = .ok ()) :
    let after := (final (sweep handle) scope).checked
    result (tick handle) scope = .ok after.phase ∧ final (tick handle) scope = after := by
  intro after
  obtain ⟨hchecked, hafter⟩ := checkLimits_checks (final (sweep handle) scope)
  have hresult : result (capture handle) scope = .ok () := by
    rw [capture_eq, result_bind_ok swept]
    exact hchecked
  have hfinal : final (capture handle) scope = after := by
    rw [capture_eq, final_bind_ok swept]
    exact hafter
  have ending : result (endingOnFault (capture handle)) scope = .ok () := by
    rw [result_endingOnFault, hresult]
  have left : final (endingOnFault (capture handle)) scope = after := by
    rw [final_endingOnFault_of_ok hresult, hfinal]
  unfold tick
  rw [result_bind_ok (result_get _), final_bind_ok (result_get _), final_get, capturing]
  dsimp only
  rw [result_bind_ok ending, final_bind_ok ending, left]
  exact ⟨rfl, rfl⟩

theorem tick_of_resting (handle : Handle) {scope : Scope σ} (resting : scope.phase ≠ .capturing) :
    result (tick handle) scope = .ok .idle ∧ final (tick handle) scope = scope.settled := by
  unfold tick
  rw [result_bind_ok (result_get _), final_bind_ok (result_get _), final_get, settled]
  cases phase : scope.phase with
  | idle => exact ⟨rfl, rfl⟩
  | stopping => exact ⟨rfl, rfl⟩
  | capturing => exact absurd phase resting

theorem bank_tick {handle : Handle} {scope : Scope σ} (capturing : scope.phase = .capturing) :
    (final (tick handle) scope).bank = (final (sweep handle) scope).bank := by
  cases swept : result (sweep handle) scope with
  | error fault =>
    rw [(tick_of_failed capturing swept).2]
    rfl
  | ok _ =>
    rw [(tick_of_swept capturing swept).2, checked_eq]

/-- Ticks that get to the limits find that of time reached on both scopes or on neither. -/
def TimedAlike (handle : Handle) (scope other : Scope σ) : Prop :=
  (result (tick handle) scope).isOk = true →
    (final (tick handle) other).overdue = (final (tick handle) scope).overdue

theorem tick_follows {handle : Handle} {scope other : Scope σ} {t : List Transfer}
    (capturing : scope.phase = .capturing) (alike : scope.Agrees other)
    (follows : view.Follows (sweep handle) t [] scope other)
    (clock : scope.TimedAlike handle other) :
    result (tick handle) other = result (tick handle) scope ∧
      (final (tick handle) scope).Agrees (final (tick handle) other) := by
  have capturing' : other.phase = .capturing := alike.phase.trans capturing
  obtain ⟨hresult, hfinal, -, -⟩ := follows
  cases swept : result (sweep handle) scope with
  | error fault =>
    obtain ⟨here, left⟩ := tick_of_failed capturing swept
    obtain ⟨there, left'⟩ := tick_of_failed capturing' (hresult.trans swept)
    rw [here, there, left, left']
    exact ⟨rfl, hfinal.finished⟩
  | ok _ =>
    obtain ⟨here, left⟩ := tick_of_swept capturing swept
    obtain ⟨there, left'⟩ := tick_of_swept capturing' (hresult.trans swept)
    rw [TimedAlike, here, left, left'] at clock
    have after := Agrees.checked hfinal (clock rfl)
    rw [here, there, left, left', after.phase]
    exact ⟨rfl, after⟩

theorem setLimit_determined (handle : Handle) (kind : LimitKind) (index : Option Nat)
    (value : Value) :
    view.Determined (setValue (σ := σ) handle (.device (.limit kind)) index value) := by
  unfold setValue
  cases index with
  | some i => exact View.determined_throw_bind _ _
  | none =>
    have address : (Key.device (.limit kind)).address none = .ok (.device (.limit kind)) := rfl
    rw [address, ofExcept, pure_bind]
    refine View.Determined.checked ?_
    cases value.natural? with
    | none => exact View.determined_throw _
    | some n =>
      refine View.determined_modify (fun _ => rfl) fun scope other alike => ?_
      have untimed (l : Limits) : (l.setLimit kind n).untimed = l.untimed.setLimit kind n := by
        cases kind <;> rfl
      have same : (other.limits.setLimit kind n).untimed =
          (scope.limits.setLimit kind n).untimed := by
        rw [untimed, untimed, alike.limits]
      exact { alike with limits := same }

end Scope

end Oscilloscope
