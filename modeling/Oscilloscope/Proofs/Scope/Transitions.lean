/- Which calls begin an acquisition, stop it and end it, and what they tell of it. Only a start
   leaves idle, only a stop or a limit leaves capturing for stopping, and only a tick comes back to
   idle. -/

import Oscilloscope.Proofs.Scope.Acquisitions

set_option autoImplicit false
set_option relaxedAutoImplicit false

namespace Oscilloscope

/-- Whether an event begins or ends an acquisition. -/
def Event.bounds : Event → Bool
  | .header | .ended => true
  | _ => false

private theorem Block.filter_bounds_events (b : Block) : b.events.filter Event.bounds = [] := by
  cases b with
  | change x value => rfl
  | frame c sweep =>
    have chunks : (sweep.map fun chunk => Event.data ⟨c, chunk.1, chunk.2⟩).filter
        Event.bounds = [] := by
      rw [List.filter_map]
      exact List.map_eq_nil_iff.mpr (List.filter_eq_nil_iff.mpr fun _ _ => Bool.false_ne_true)
    rw [Block.events, List.filter_append, List.filter_cons_of_neg Bool.false_ne_true, chunks]
    rfl

private theorem Round.filter_bounds_events (round : Round) :
    round.events.filter Event.bounds = [] := by
  rw [Round.events, List.filter_flatMap]
  exact List.flatMap_eq_nil_iff.mpr fun b _ => b.filter_bounds_events

namespace Scope

variable {σ : Type}

/-- From a scope to a later one these beginnings and ends of acquisitions were told. -/
def Marks (marks : List Event) (scope after : Scope σ) : Prop :=
  ∃ told, after.events = scope.events ++ told ∧ told.filter Event.bounds = marks

private theorem Marks.none {scope after : Scope σ} (same : after.events = scope.events) :
    Marks [] scope after :=
  ⟨[], by rw [same, List.append_nil], rfl⟩

private theorem ChangeTold.phase {fresh : Snapshot} {scope after : Scope σ} {r : Except Fault Unit}
    (h : ChangeTold fresh scope r after) : after.phase = scope.phase := by
  cases h <;> rfl

theorem stopRequested_resting (scope : Scope σ) : scope.stopRequested.phase ≠ .capturing := by
  rw [stopRequested]
  split
  · exact Phase.noConfusion
  · assumption

variable [Transport σ] {handle : Handle} {scope after : Scope σ}

def spent (scope : Scope σ) : Bool :=
  scope.limits.exceeded scope.now

private theorem spent_stopRequested (scope : Scope σ) :
    scope.stopRequested.spent = scope.spent := by
  rw [stopRequested]
  split <;> rfl

private theorem FrameRead.phase {fresh : Snapshot} {c : ChannelId} {r : Except Fault Unit}
    (h : FrameRead handle fresh c scope r after) : after.phase = scope.phase := by
  cases h <;> rfl

theorem Captured.phase_of_ok (h : Captured handle scope (.ok ()) after)
    (capturing : scope.phase = .capturing) :
    after.phase = if after.spent then .stopping else .capturing := by
  cases h with
  | @complete fresh told first second _ change ch1 ch2 =>
    have still : second.phase = .capturing := by
      rw [ch2.phase, ch1.phase]
      exact change.phase.trans capturing
    change (if second.spent then second.stopRequested else second).phase =
      if (if second.spent then second.stopRequested else second).spent then .stopping
        else .capturing
    cases reached : second.spent with
    | true =>
      rw [if_pos rfl, spent_stopRequested, reached, if_pos rfl, stopRequested, if_pos still]
    | false =>
      rw [if_neg Bool.false_ne_true, reached, if_neg Bool.false_ne_true, still]

private theorem Ticked.marks {r : Except Fault Phase} (ticked : Ticked handle scope r after) :
    Marks (if scope.phase ≠ .idle ∧ after.phase = .idle then [.ended] else []) scope after := by
  obtain ⟨round, events⟩ := ticked.tells
  rw [List.append_assoc] at events
  refine ⟨_, events, ?_⟩
  rw [List.filter_append, round.filter_bounds_events, List.nil_append]
  split <;> rfl

/-- Ways for a call to move the phase: the phases before and after it, and the bounds of
acquisitions that it tells. Where both phases are the same it tells none. -/
inductive Moves (handle : Handle) (scope : Scope σ) : Call → Phase → Phase → List Event → Prop
  | beside {call : Call} (beside : call.acquires = false) (phase : Phase) :
      Moves handle scope call phase phase []
  | started (done : result (start handle) scope = .ok ()) :
      Moves handle scope .start .idle .capturing [.header]
  | busy {phase : Phase} (running : phase ≠ .idle)
      (refused : result (start handle) scope = .error (.busy phase)) :
      Moves handle scope .start phase phase []
  | stopped : Moves handle scope .requestStop .capturing .stopping []
  | unstopped {phase : Phase} (resting : phase ≠ .capturing) :
      Moves handle scope .requestStop phase phase []
  | rested (done : result (tick handle) scope = .ok .idle) :
      Moves handle scope .tick .idle .idle []
  | ended (done : result (tick handle) scope = .ok .idle) :
      Moves handle scope .tick .stopping .idle [.ended]
  | continued (done : result (tick handle) scope = .ok .capturing)
      (within : (final (tick handle) scope).spent = false) :
      Moves handle scope .tick .capturing .capturing []
  | limited (done : result (tick handle) scope = .ok .stopping)
      (reached : (final (tick handle) scope).spent = true) :
      Moves handle scope .tick .capturing .stopping []
  | failed {fault : Fault} (failed : result (tick handle) scope = .error fault) :
      Moves handle scope .tick .capturing .idle [.ended]

private theorem start_moves (handle : Handle) (scope : Scope σ) :
    ∃ marks, Marks marks scope (final (start handle) scope) ∧
      Moves handle scope .start scope.phase (final (start handle) scope).phase marks := by
  have started := start_starts handle scope
  generalize hr : result (start handle) scope = r at started
  generalize final (start handle) scope = after at started ⊢
  cases started with
  | begun idle =>
    refine ⟨[.header], ⟨[.header], rfl, rfl⟩, ?_⟩
    rw [idle]
    exact .started hr
  | busy running => exact ⟨[], .none rfl, .busy running hr⟩

private theorem requestStop_moves (handle : Handle) (scope : Scope σ) :
    Marks [] scope scope.stopRequested ∧
      Moves handle scope .requestStop scope.phase scope.stopRequested.phase [] := by
  by_cases capturing : scope.phase = .capturing
  · rw [stopRequested, if_pos capturing, capturing]
    exact ⟨.none rfl, .stopped⟩
  · rw [stopRequested, if_neg capturing]
    exact ⟨.none rfl, .unstopped capturing⟩

private theorem tick_moves (handle : Handle) (scope : Scope σ) :
    ∃ marks, Marks marks scope (final (tick handle) scope) ∧
      Moves handle scope .tick scope.phase (final (tick handle) scope).phase marks := by
  have ticked := tick_ticks handle scope
  refine ⟨_, ticked.marks, ?_⟩
  generalize hr : result (tick handle) scope = r at ticked
  generalize hafter : final (tick handle) scope = after at ticked ⊢
  cases ticked with
  | idle phase =>
    rw [phase, if_neg fun h => h.1 rfl]
    exact .rested hr
  | ended phase =>
    rw [phase, if_pos ⟨by decide, rfl⟩]
    exact .ended hr
  | failed phase =>
    rw [phase, if_pos ⟨by decide, rfl⟩]
    exact .failed hr
  | continued phase round =>
    have turned := round.phase_of_ok phase
    rw [turned] at hr
    rw [turned, phase]
    cases reached : after.spent with
    | true =>
      rw [reached, if_pos rfl] at hr
      exact .limited hr (by rw [hafter, reached])
    | false =>
      rw [reached, if_neg Bool.false_ne_true] at hr
      exact .continued hr (by rw [hafter, reached])

theorem tick_of_not_capturing (handle : Handle) (resting : scope.phase ≠ .capturing) :
    result (tick handle) scope = .ok .idle ∧ (final (tick handle) scope).bank = scope.bank := by
  have ticked := tick_ticks handle scope
  generalize result (tick handle) scope = r at ticked ⊢
  generalize final (tick handle) scope = after at ticked ⊢
  cases ticked with
  | idle | ended => exact ⟨rfl, rfl⟩
  | failed capturing | continued capturing => exact absurd capturing resting

theorem start_of_busy (handle : Handle) (running : scope.phase ≠ .idle) :
    result (start handle) scope = .error (.busy scope.phase) ∧
      final (start handle) scope = scope := by
  have started := start_starts handle scope
  generalize result (start handle) scope = r at started ⊢
  generalize final (start handle) scope = after at started ⊢
  cases started with
  | begun idle => exact absurd idle running
  | busy => exact ⟨rfl, rfl⟩

theorem start_of_idle (handle : Handle) (idle : scope.phase = .idle) :
    result (start handle) scope = .ok () ∧ final (start handle) scope = scope.begun handle := by
  have started := start_starts handle scope
  generalize result (start handle) scope = r at started ⊢
  generalize final (start handle) scope = after at started ⊢
  cases started with
  | begun => exact ⟨rfl, rfl⟩
  | busy running => exact absurd idle running

theorem idle_of_tick_failed {fault : Fault} (h : result (tick handle) scope = .error fault) :
    (final (tick handle) scope).phase = .idle := by
  have ticked := tick_ticks handle scope
  rw [h] at ticked
  generalize final (tick handle) scope = after at ticked ⊢
  cases ticked with
  | failed => rfl

end Scope

namespace Call

variable {σ : Type} [Transport σ] {handle : Handle} {scope : Scope σ}

theorem after_start_of_idle (handle : Handle) (idle : scope.phase = .idle) :
    after handle .start scope = scope.begun handle :=
  (after_start handle scope).trans (Scope.start_of_idle handle idle).2

theorem moves_after (handle : Handle) (call : Call) (scope : Scope σ) :
    ∃ marks, Scope.Marks marks scope (call.after handle scope) ∧
      Scope.Moves handle scope call scope.phase (call.after handle scope).phase marks := by
  cases beside : call.acquires with
  | false =>
    obtain ⟨phase, -, events, -⟩ := Scope.Session.mk.inj (session_after beside handle scope)
    rw [phase]
    exact ⟨[], .none events, .beside beside scope.phase⟩
  | true =>
    cases call with
    | start =>
      rw [after_start]
      exact Scope.start_moves handle scope
    | requestStop => exact ⟨[], Scope.requestStop_moves handle scope⟩
    | tick =>
      rw [after_tick]
      exact Scope.tick_moves handle scope
    | _ => cases beside

private theorem resting_after {call : Call} (handle : Handle) (h : call ≠ .start)
    (resting : scope.phase ≠ .capturing) :
    (call.after handle scope).phase ≠ .capturing ∧
      (scope.phase = .idle → (call.after handle scope).phase = .idle) := by
  obtain ⟨marks, -, moves⟩ := moves_after handle call scope
  generalize (call.after handle scope).phase = after at moves ⊢
  generalize hphase : scope.phase = phase at moves resting ⊢
  cases moves with
  | started | busy => exact absurd rfl h
  | stopped | continued | limited | failed => exact absurd rfl resting
  | beside | unstopped => exact ⟨resting, id⟩
  | rested | ended => exact ⟨by decide, fun _ => rfl⟩

theorem resting_run {calls : List Call} (handle : Handle) (h : .start ∉ calls)
    (resting : scope.phase ≠ .capturing) :
    (run handle calls scope).phase ≠ .capturing ∧
      (scope.phase = .idle → (run handle calls scope).phase = .idle) := by
  induction calls generalizing scope with
  | nil => exact ⟨resting, id⟩
  | cons call rest ih =>
    obtain ⟨still, idle⟩ :=
      resting_after handle (fun eq => h (eq ▸ List.mem_cons_self)) resting
    obtain ⟨after, later⟩ := ih (fun mem => h (List.mem_cons_of_mem call mem)) still
    exact ⟨after, fun phase => later (idle phase)⟩

/-- Every call moves the phase in one of the ways that `Moves` lists, and the beginnings and ends of
acquisitions that it tells are those of that way. A tick that does not capture leaves the line alone
and succeeds, and so do all ticks between a stop and the next start. A start while an acquisition
runs is refused and changes nothing. After a tick that failed the next start succeeds, and counts
from zero. -/
theorem acquisition_moves (handle : Handle) (scope : Scope σ) :
    (∀ call : Call, ∃ marks, Scope.Marks marks scope (call.after handle scope) ∧
      Scope.Moves handle scope call scope.phase (call.after handle scope).phase marks) ∧
    (scope.phase ≠ .capturing → result (Scope.tick handle) scope = .ok .idle ∧
      (after handle .tick scope).bank = scope.bank) ∧
    (∀ later : List Call, .start ∉ later →
      let stopped := run handle (.requestStop :: later) scope
      (after handle .tick stopped).bank = stopped.bank) ∧
    (scope.phase ≠ .idle → result (Scope.start handle) scope = .error (.busy scope.phase) ∧
      after handle .start scope = scope) ∧
    ∀ fault, result (Scope.tick handle) scope = .error fault →
      ∀ later : List Call, .start ∉ later →
        let failed := run handle (.tick :: later) scope
        let started := after handle .start failed
        result (Scope.start handle) failed = .ok () ∧ started.phase = .capturing ∧
          started.limits.samplesRead = 0 ∧ started.limits.framesRead = 0 := by
  refine ⟨fun call => moves_after handle call scope, fun resting => ?_, fun later h => ?_,
    fun running => ?_, fun fault fails later h => ?_⟩
  · rw [after_tick]
    exact Scope.tick_of_not_capturing handle resting
  · intro stopped
    have resting := (resting_run handle h (Scope.stopRequested_resting scope)).1
    rw [after_tick]
    exact (Scope.tick_of_not_capturing handle resting).2
  · rw [after_start]
    exact Scope.start_of_busy handle running
  · intro failed started
    have ended : (after handle .tick scope).phase = .idle := by
      rw [after_tick]
      exact Scope.idle_of_tick_failed fails
    have idle : failed.phase = .idle :=
      (resting_run handle h (by rw [ended]; decide)).2 ended
    obtain ⟨done, begun⟩ := Scope.start_of_idle handle idle
    have hbegun : started = failed.begun handle := (after_start handle failed).trans begun
    rw [hbegun]
    exact ⟨done, rfl, rfl, rfl⟩

end Call

end Oscilloscope
