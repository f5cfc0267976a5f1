/- Phase, ticker and events along every run of calls. The three change together: an acquisition is
   open in the events exactly while the scope is not idle, and exactly then there is a ticker. -/

import Oscilloscope.Proofs.Acquisition.History
import Oscilloscope.Proofs.Scope.Session

set_option autoImplicit false
set_option relaxedAutoImplicit false

namespace Oscilloscope

namespace Scope

variable {σ : Type}

/-- What a step within an acquisition does: it adds blocks, and neither begins nor ends it. -/
structure Adds (blocks : List Block) (scope after : Scope σ) : Prop where
  events : after.events = scope.events ++ blocks.flatMap Block.events
  phase : after.phase = .idle ↔ scope.phase = .idle
  ticker : after.ticker = scope.ticker

private theorem Adds.none {scope after : Scope σ} (events : after.events = scope.events)
    (phase : after.phase = .idle ↔ scope.phase = .idle) (ticker : after.ticker = scope.ticker) :
    Adds [] scope after :=
  ⟨events.trans (List.append_nil scope.events).symm, phase, ticker⟩

theorem Adds.trans {blocks later : List Block} {scope middle after : Scope σ}
    (first : Adds blocks scope middle) (second : Adds later middle after) :
    Adds (blocks ++ later) scope after where
  events := by
    rw [second.events, first.events, List.flatMap_append, List.append_assoc]
  phase := second.phase.trans first.phase
  ticker := second.ticker.trans first.ticker

private theorem adds_stopRequested (scope : Scope σ) : Adds [] scope scope.stopRequested := by
  unfold stopRequested
  split
  · rename_i capturing
    exact .none rfl (by simp [capturing]) rfl
  · exact .none rfl Iff.rfl rfl

private theorem ChangeTold.adds {fresh : Snapshot} {scope after : Scope σ} {r : Except Fault Unit}
    (h : ChangeTold fresh scope r after) :
    ∃ change : Option (Setting × Value),
      Adds (change.toList.map fun x => .change x.1 x.2) scope after := by
  cases h with
  | begun => exact ⟨none, .none rfl Iff.rfl rfl⟩
  | @reported baseline =>
    cases htold : (Report.of baseline fresh).told with
    | error fault =>
      refine ⟨none, .none ?_ Iff.rfl rfl⟩
      rw [Report.events_of_fault htold]
      exact List.append_nil scope.events
    | ok change? =>
      refine ⟨change?, ?_, Iff.rfl, rfl⟩
      rw [Report.events_of_told htold]
      cases change? <;> rfl

/-- What the events, the phase and the ticker have to do with one another. -/
structure Coherent (handle : Handle) (scope : Scope σ) : Prop where
  told : ∃ h : History, h.events = scope.events ∧ (h.running.isSome = true ↔ scope.phase ≠ .idle)
  ticker : scope.ticker = if scope.phase = .idle then none else some handle.tuning.pollInterval

namespace Coherent

variable {handle : Handle} {scope after : Scope σ}

theorem ofLine (handle : Handle) (line : Line σ) : Coherent handle (Scope.ofLine line) :=
  ⟨⟨{}, rfl, by simp [Scope.ofLine]⟩, rfl⟩

private theorem running (h : Coherent handle scope) (phase : scope.phase ≠ .idle) :
    ∃ (history : History) (blocks : List Block),
      history.events = scope.events ∧ history.running = some blocks := by
  obtain ⟨history, events, running⟩ := h.told
  obtain ⟨blocks, hblocks⟩ := Option.isSome_iff_exists.mp (running.mpr phase)
  exact ⟨history, blocks, events, hblocks⟩

private theorem of_session (h : Coherent handle scope) (same : after.session = scope.session) :
    Coherent handle after := by
  obtain ⟨phase, -, events, ticker⟩ := Session.mk.inj same
  exact ⟨by rw [events, phase]; exact h.told, by rw [ticker, phase]; exact h.ticker⟩

private theorem adds {blocks : List Block} (h : Coherent handle scope) (phase : scope.phase ≠ .idle)
    (added : Adds blocks scope after) : Coherent handle after := by
  obtain ⟨history, sofar, events, running⟩ := h.running phase
  have still : after.phase ≠ .idle := fun idle => phase (added.phase.mp idle)
  refine ⟨⟨history.add blocks, ?_, ?_⟩, ?_⟩
  · rw [History.events_add running, events, added.events]
  · rw [History.add, running]
    simp [still]
  · rw [added.ticker, h.ticker, if_neg phase, if_neg still]

private theorem finished (h : Coherent handle scope) (phase : scope.phase ≠ .idle) :
    Coherent handle scope.finished := by
  obtain ⟨history, sofar, events, running⟩ := h.running phase
  refine ⟨⟨history.finish, ?_, ?_⟩, rfl⟩
  · rw [History.events_finish running, events]
    rfl
  · simp [Scope.finished, History.finish]

private theorem stopRequested (h : Coherent handle scope) :
    Coherent handle scope.stopRequested := by
  by_cases phase : scope.phase = .idle
  · rw [Scope.stopRequested, if_neg (by rw [phase]; decide)]
    exact h
  · exact h.adds phase (adds_stopRequested scope)

end Coherent

variable [Transport σ]

private theorem FrameRead.adds {handle : Handle} {fresh : Snapshot} {c : ChannelId}
    {scope after : Scope σ}
    {r : Except Fault Unit} (h : FrameRead handle fresh c scope r after) :
    ∃ sweep : Option Sweep, Adds (sweep.toList.map (.frame c)) scope after := by
  have frame (channel : Channel) (chunks : List Bytes) : frameEvents channel c chunks =
      (Block.frame c
        (chunks.map fun bytes => (channel.decodeChunk bytes, channel.digits))).events := by
    rw [frameEvents, Block.events, List.map_map]
    rfl
  cases h with
  | hidden | undecoded | unasked | waiting => exact ⟨none, .none rfl Iff.rfl rfl⟩
  | @broken channel stream | @whole channel stream =>
    refine ⟨some (stream.chunks.map fun bytes => (channel.decodeChunk bytes, channel.digits)),
      ?_, Iff.rfl, rfl⟩
    rw [frame, Option.toList_some, List.map_singleton, List.flatMap_singleton]

private theorem ChangeTold.adds_around {handle : Handle} {fresh : Snapshot} {scope told : Scope σ}
    {r : Except Fault Unit} (h : ChangeTold fresh (scope.fetched handle) r told) :
    ∃ change : Option (Setting × Value),
      Adds (change.toList.map fun x => .change x.1 x.2) scope told ∧
        Adds (change.toList.map fun x => .change x.1 x.2) scope (told.publishing fresh) := by
  obtain ⟨change, events, phase, ticker⟩ := h.adds
  exact ⟨change, ⟨events, phase, ticker⟩, ⟨events, phase, ticker⟩⟩

theorem Captured.adds {handle : Handle} {scope after : Scope σ} {r : Except Fault Unit}
    (h : Captured handle scope r after) : ∃ round : Round, Adds round.blocks scope after := by
  cases h with
  | unfetched => exact ⟨{}, .none rfl Iff.rfl rfl⟩
  | untold _ change =>
    obtain ⟨x, added, -⟩ := change.adds_around
    refine ⟨{ change := x }, ?_⟩
    simpa [Round.blocks] using added
  | firstFailed _ change ch1 =>
    obtain ⟨x, -, published⟩ := change.adds_around
    obtain ⟨first, added1⟩ := ch1.adds
    refine ⟨{ change := x, first }, ?_⟩
    simpa [Round.blocks] using published.trans added1
  | secondFailed _ change ch1 ch2 =>
    obtain ⟨x, -, published⟩ := change.adds_around
    obtain ⟨first, added1⟩ := ch1.adds
    obtain ⟨second, added2⟩ := ch2.adds
    exact ⟨⟨x, first, second⟩, published.trans (added1.trans added2)⟩
  | complete _ change ch1 ch2 =>
    obtain ⟨x, -, published⟩ := change.adds_around
    obtain ⟨first, added1⟩ := ch1.adds
    obtain ⟨second, added2⟩ := ch2.adds
    have added := published.trans (added1.trans added2)
    refine ⟨⟨x, first, second⟩, ?_⟩
    split
    · simpa [Round.blocks] using added.trans (adds_stopRequested _)
    · exact added

variable {handle : Handle} {scope after : Scope σ}

private theorem Coherent.begun (h : Coherent handle scope) (phase : scope.phase = .idle) :
    Coherent handle (scope.begun handle) := by
  obtain ⟨history, events, running⟩ := h.told
  have idle : history.running = none := by
    rw [phase] at running
    simpa using running
  refine ⟨⟨history.start, ?_, ?_⟩, rfl⟩
  · rw [History.events_start idle, events]
    rfl
  · simp [Scope.begun, History.start]

private theorem Started.coherent {r : Except Fault Unit} (started : Started handle scope r after)
    (h : Coherent handle scope) : Coherent handle after := by
  cases started with
  | begun phase => exact h.begun phase
  | busy => exact h

theorem Ticked.tells {r : Except Fault Phase} (ticked : Ticked handle scope r after) :
    ∃ round : Round, after.events = scope.events ++ round.events ++
      if scope.phase ≠ .idle ∧ after.phase = .idle then [.ended] else [] := by
  cases ticked with
  | idle phase => exact ⟨{}, by simp [phase, Round.events, Round.blocks]⟩
  | ended phase => exact ⟨{}, by simp [phase, Round.events, Round.blocks, Scope.finished]⟩
  | failed phase captured =>
    obtain ⟨round, added⟩ := captured.adds
    refine ⟨round, ?_⟩
    rw [if_pos ⟨by rw [phase]; decide, rfl⟩, Scope.finished, added.events]
    rfl
  | continued phase captured =>
    obtain ⟨round, added⟩ := captured.adds
    have still : after.phase ≠ .idle := by
      rw [ne_eq, added.phase, phase]
      decide
    refine ⟨round, ?_⟩
    rw [if_neg fun h => still h.2, List.append_nil]
    exact added.events

private theorem Ticked.coherent {r : Except Fault Phase} (ticked : Ticked handle scope r after)
    (h : Coherent handle scope) : Coherent handle after := by
  have running {phase : Phase} (hphase : scope.phase = phase) (hne : phase ≠ .idle) :
      scope.phase ≠ .idle := by rwa [hphase]
  cases ticked with
  | idle => exact h
  | ended phase => exact h.finished (running phase (by decide))
  | failed phase captured =>
    obtain ⟨round, added⟩ := captured.adds
    have active := running phase (by decide)
    exact (h.adds active added).finished fun idle => active (added.phase.mp idle)
  | continued phase captured =>
    obtain ⟨round, added⟩ := captured.adds
    exact h.adds (running phase (by decide)) added

end Scope

namespace Call

variable {σ : Type} [Transport σ] {handle : Handle} {scope : Scope σ}

theorem run_preserves {P : Scope σ → Prop}
    (step : ∀ (call : Call) (scope : Scope σ), P scope → P (call.after handle scope))
    (calls : List Call) (start : P scope) : P (run handle calls scope) := by
  induction calls generalizing scope with
  | nil => exact start
  | cons call rest ih => exact ih (step call scope start)

theorem run_append (handle : Handle) (calls later : List Call) (scope : Scope σ) :
    run handle (calls ++ later) scope = run handle later (run handle calls scope) :=
  List.foldl_append

theorem run_concat (handle : Handle) (calls : List Call) (call : Call) (scope : Scope σ) :
    run handle (calls ++ [call]) scope = call.after handle (run handle calls scope) :=
  run_append handle calls [call] scope

theorem coherent_after (call : Call) (h : scope.Coherent handle) :
    (call.after handle scope).Coherent handle := by
  cases beside : call.acquires with
  | false => exact h.of_session (session_after beside handle scope)
  | true =>
    rw [after_eq_final]
    cases call with
    | start =>
      have started := Scope.start_starts handle scope
      rw [perform, final_bind_pure]
      exact started.coherent h
    | requestStop => exact h.stopRequested
    | tick =>
      have ticked := Scope.tick_ticks handle scope
      rw [perform, final_bind_pure]
      exact ticked.coherent h
    | _ => cases beside

/-- Whatever is called and however the instrument answers, the events are acquisitions one after
the other, and only the last may be open. It is open exactly while the scope is not idle, and
exactly then there is a ticker, with the poll interval. A tick adds one round, a change before the
frames and at most one frame a channel, and ends the acquisition if it leaves the scope idle. -/
theorem run_tells_acquisitions (handle : Handle) (line : Line σ) (calls : List Call) :
    let scope := run handle calls (Scope.ofLine line)
    let ticked := Call.after handle .tick scope
    (∃ history : History, history.events = scope.events) ∧
      (∀ history : History, history.events = scope.events →
        (history.running.isSome = true ↔ scope.phase ≠ .idle)) ∧
      scope.ticker = (if scope.phase = .idle then none else some handle.tuning.pollInterval) ∧
      ∃ round : Round, ticked.events = scope.events ++ round.events ++
        if scope.phase ≠ .idle ∧ ticked.phase = .idle then [.ended] else [] := by
  intro scope ticked
  have coherent : scope.Coherent handle :=
    run_preserves (fun call _ => coherent_after call) calls (.ofLine handle line)
  obtain ⟨history, events, running⟩ := coherent.told
  refine ⟨⟨history, events⟩, fun other hother => ?_, coherent.ticker, ?_⟩
  · -- The events alone decide whether their last acquisition is open.
    rw [← other.foldl_runsAfter_events, hother, ← events, history.foldl_runsAfter_events]
    exact running
  · have course := Scope.tick_ticks handle scope
    have hticked : ticked = final (Scope.tick handle) scope := by
      rw [← final_bind_pure (Scope.tick handle) Answer.phase]
      exact after_eq_final handle .tick scope
    rw [hticked]
    exact course.tells

end Call

end Oscilloscope
