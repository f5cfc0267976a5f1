/- How the limits of frames and samples stop an acquisition. They are looked at once a tick, after
   both channels, so a tick may go past a limit by the frame of the second channel, and no more. -/

import Oscilloscope.Proofs.Scope.Counters
import Oscilloscope.Proofs.Scope.Transitions
import Oscilloscope.Transport.Script

set_option autoImplicit false
set_option relaxedAutoImplicit false

namespace Oscilloscope

/-- What was read is below both limits; a limit of zero is none. -/
def Tally.Below (frames samples : UInt64) (read : Tally) : Prop :=
  (frames = 0 ∨ read.frames < frames) ∧ (samples = 0 ∨ read.samples < samples)

theorem Tally.below_zero (frames samples : UInt64) : Tally.Below frames samples {} := by
  have some_or_none (limit : UInt64) : limit = 0 ∨ 0 < limit := by
    rw [← UInt64.toNat_inj, UInt64.lt_iff_toNat_lt]
    exact Nat.eq_zero_or_pos limit.toNat
  exact ⟨some_or_none frames, some_or_none samples⟩

private theorem Limits.exceeded_eq_false_iff {limits : Limits} (untimed : limits.millis = 0)
    (now : Nat) :
    limits.exceeded now = false ↔ limits.read.Below limits.frames limits.samples := by
  have unreached (limit read : UInt64) :
      (limit != 0 && decide (limit ≤ read)) = false ↔ limit = 0 ∨ read < limit := by
    rw [Bool.and_eq_false_iff, bne_eq_false_iff_eq, decide_eq_false_iff_not, UInt64.not_le]
  have counted : limits.exceeded now =
      (limits.samples != 0 && decide (limits.samples ≤ limits.samplesRead) ||
        limits.frames != 0 && decide (limits.frames ≤ limits.framesRead)) := by
    rw [Limits.exceeded, untimed]
    cases limits.startedAt with
    | none => exact Bool.or_false _
    | some t => simp
  rw [counted, Bool.or_eq_false_iff, unreached, unreached, and_comm]
  rfl

private theorem FrameTaken.frames_ofEvents (frames : List FrameTaken) :
    (Tally.ofEvents (frames.flatMap FrameTaken.events)).frames = .ofNat frames.length := by
  induction frames with
  | nil => rfl
  | cons f rest ih =>
    rw [List.flatMap_cons, Tally.ofEvents_append, Tally.add_frames, f.ofEvents_events, ih,
      List.length_cons, UInt64.ofNat_add, UInt64.add_comm]
    rfl

namespace Scope

variable {σ : Type}

private theorem ChangeTold.limit {fresh : Snapshot} {scope after : Scope σ} {r : Except Fault Unit}
    (h : ChangeTold fresh scope r after) : after.limits.limit = scope.limits.limit := by
  cases h <;> rfl

variable [Transport σ] {handle : Handle} {scope after : Scope σ}

private theorem FrameRead.limit {fresh : Snapshot} {c : ChannelId} {r : Except Fault Unit}
    (h : FrameRead handle fresh c scope r after) : after.limits.limit = scope.limits.limit := by
  cases h <;> rfl

theorem Captured.limit {r : Except Fault Unit} (h : Captured handle scope r after) :
    after.limits.limit = scope.limits.limit := by
  cases h with
  | unfetched => rfl
  | untold _ change => exact change.limit
  | firstFailed _ change ch1 => exact ch1.limit.trans change.limit
  | secondFailed _ change ch1 ch2 => exact ch2.limit.trans (ch1.limit.trans change.limit)
  | complete _ change ch1 ch2 =>
    have kept := ch2.limit.trans (ch1.limit.trans change.limit)
    split
    · rw [stopRequested_limits]
      exact kept
    · exact kept

private theorem Captured.frames_le {r : Except Fault Unit} (h : Captured handle scope r after) :
    after.limits.read.frames.toNat ≤ scope.limits.read.frames.toNat + 2 := by
  obtain ⟨change, frames, taken, framesOf⟩ := h.takes
  have atMost : frames.length ≤ 2 := by
    have sublist := framesOf.order.length_le
    rw [List.length_map] at sublist
    exact sublist
  have counted : (frames.filter FrameTaken.whole).length ≤ frames.length :=
    List.length_filter_le _ _
  rw [taken.read, Tally.add_frames, FrameTaken.frames_ofEvents, UInt64.toNat_add]
  have wrapped := Nat.mod_le (scope.limits.read.frames.toNat +
    (UInt64.ofNat (frames.filter FrameTaken.whole).length).toNat) (2 ^ 64)
  rw [UInt64.toNat_ofNat'] at wrapped ⊢
  omega

def LimitedTo (frames samples : UInt64) (scope : Scope σ) : Prop :=
  scope.limits.limit = Limits.limit { frames, samples }

variable {frames samples : UInt64}

theorem LimitedTo.spent_eq_false_iff (limited : scope.LimitedTo frames samples) :
    scope.spent = false ↔ scope.limits.read.Below frames samples := by
  have hframes : scope.limits.frames = frames := congrFun limited .frames
  have hsamples : scope.limits.samples = samples := congrFun limited .samples
  have untimed : scope.limits.millis = 0 := congrFun limited .time
  rw [spent, Limits.exceeded_eq_false_iff untimed, hframes, hsamples]

/-- While an acquisition captures, what was read is below its limits. In every phase there is at
most one frame beyond the limit. -/
structure Bounded (frames samples : UInt64) (scope : Scope σ) : Prop where
  below : scope.phase = .capturing → scope.limits.read.Below frames samples
  frames_le : frames ≠ 0 → scope.limits.read.frames.toNat ≤ frames.toNat + 1

private theorem Captured.frames_le_limit {r : Except Fault Unit} (h : Captured handle scope r after)
    (below : scope.limits.read.Below frames samples) (limited : frames ≠ 0) :
    after.limits.read.frames.toNat ≤ frames.toNat + 1 := by
  have before : scope.limits.read.frames.toNat < frames.toNat :=
    UInt64.lt_iff_toNat_lt.mp (below.1.resolve_left limited)
  have round := h.frames_le
  omega

private theorem Started.bounded {r : Except Fault Unit} (started : Started handle scope r after)
    (bounded : scope.Bounded frames samples) : after.Bounded frames samples := by
  cases started with
  | begun => exact ⟨fun _ => Tally.below_zero frames samples, fun _ => Nat.zero_le _⟩
  | busy => exact bounded

private theorem Ticked.bounded {r : Except Fault Phase} (ticked : Ticked handle scope r after)
    (limited : after.LimitedTo frames samples) (bounded : scope.Bounded frames samples) :
    after.Bounded frames samples := by
  cases ticked with
  | idle => exact bounded
  | ended => exact ⟨Phase.noConfusion, bounded.frames_le⟩
  | failed capturing round =>
    exact ⟨Phase.noConfusion, round.frames_le_limit (bounded.below capturing)⟩
  | continued capturing round =>
    refine ⟨fun still => ?_, round.frames_le_limit (bounded.below capturing)⟩
    rw [← limited.spent_eq_false_iff]
    have turned := round.phase_of_ok capturing
    by_contra reached
    rw [still, if_pos (eq_true_of_ne_false reached)] at turned
    cases turned

private theorem Ticked.stops {phase : Phase} (ticked : Ticked handle scope (.ok phase) after)
    (capturing : scope.phase = .capturing) (limited : scope.LimitedTo frames samples) :
    after.phase = phase ∧ (after.limits.read.Below frames samples → phase = .capturing) ∧
      (¬ after.limits.read.Below frames samples → phase = .stopping) := by
  cases ticked with
  | idle resting | ended resting =>
    rw [capturing] at resting
    cases resting
  | continued _ round =>
    have still : after.LimitedTo frames samples := round.limit.trans limited
    have turned := round.phase_of_ok capturing
    refine ⟨rfl, fun below => ?_, fun reached => ?_⟩
    · rw [turned, still.spent_eq_false_iff.mpr below]
      rfl
    · rw [← still.spent_eq_false_iff] at reached
      rw [turned, if_pos (eq_true_of_ne_false reached)]

theorem tick_of_stopping (handle : Handle) (stopping : scope.phase = .stopping) :
    result (tick handle) scope = .ok .idle ∧ final (tick handle) scope = scope.finished := by
  have ticked := tick_ticks handle scope
  generalize result (tick handle) scope = r at ticked ⊢
  generalize final (tick handle) scope = after at ticked ⊢
  cases ticked with
  | ended => exact ⟨rfl, rfl⟩
  | idle other | failed other | continued other =>
    rw [stopping] at other
    cases other

end Scope

namespace Call

variable {σ : Type} [Transport σ] {handle : Handle} {scope : Scope σ} {frames samples : UInt64}

private theorem bounded_after (call : Call)
    (limited : (call.after handle scope).LimitedTo frames samples)
    (bounded : scope.Bounded frames samples) :
    (call.after handle scope).Bounded frames samples := by
  cases beside : call.acquires with
  | false =>
    have phase := congrArg Scope.Session.phase (session_after beside handle scope)
    have read := read_beside beside handle scope
    refine ⟨fun capturing => ?_, fun some => ?_⟩
    · rw [read]
      exact bounded.below (phase.symm.trans capturing)
    · rw [read]
      exact bounded.frames_le some
  | true =>
    cases call with
    | start =>
      rw [after_start]
      exact (Scope.start_starts handle scope).bounded bounded
    | requestStop =>
      rw [after_requestStop]
      refine ⟨fun capturing => absurd capturing scope.stopRequested_resting, fun some => ?_⟩
      rw [scope.stopRequested_limits]
      exact bounded.frames_le some
    | tick =>
      rw [after_tick] at limited ⊢
      exact (Scope.tick_ticks handle scope).bounded limited bounded
    | _ => cases beside

theorem bounded_run {calls : List Call}
    (limited : ∀ sofar, sofar <+: calls → (run handle sofar scope).LimitedTo frames samples)
    (bounded : scope.Bounded frames samples) :
    (run handle calls scope).Bounded frames samples := by
  -- On the calls after the start: the limits are as expected after each of them.
  induction calls generalizing scope with
  | nil => exact bounded
  | cons call rest ih =>
    have first := limited [call] (List.cons_prefix_cons.mpr ⟨rfl, List.nil_prefix⟩)
    refine ih (fun sofar front => ?_) (bounded_after call first bounded)
    exact limited (call :: sofar) (List.cons_prefix_cons.mpr ⟨rfl, front⟩)

private theorem stopping_after {call : Call} (handle : Handle) (h : call ≠ .tick)
    (stopping : scope.phase = .stopping) : (call.after handle scope).phase = .stopping := by
  obtain ⟨marks, -, moves⟩ := moves_after handle call scope
  rw [stopping] at moves
  generalize (call.after handle scope).phase = after at moves ⊢
  cases moves with
  | beside | busy | unstopped => rfl
  | ended => exact absurd rfl h

theorem stopping_run {calls : List Call} (handle : Handle) (h : .tick ∉ calls)
    (stopping : scope.phase = .stopping) : (run handle calls scope).phase = .stopping := by
  induction calls generalizing scope with
  | nil => exact stopping
  | cons call rest ih =>
    have other : call ≠ .tick := fun eq => h (eq ▸ List.mem_cons_self)
    exact ih (fun mem => h (List.mem_cons_of_mem call mem)) (stopping_after handle other stopping)

/-- An acquisition without a time limit, with limits of frames and samples that stay what they were
at its start, whatever is called and however the instrument answers. While it captures, what was
read is below both limits, and in no phase is there more than one frame beyond the limit of frames.
A tick of it that succeeds goes on below the limits and otherwise stops: the ticker stays until the
next tick, whatever is called before that, and this tick succeeds and only ends the acquisition. -/
theorem run_stops_at_limits (handle : Handle) (line : Line σ) (before later : List Call)
    (frames samples : UInt64)
    (idle : (run handle before (Scope.ofLine line)).phase = .idle)
    (kept : ∀ sofar, sofar <+: later →
      (run handle (before ++ .start :: sofar) (Scope.ofLine line)).LimitedTo frames samples) :
    let scope := run handle (before ++ .start :: later) (Scope.ofLine line)
    (scope.phase = .capturing → scope.limits.read.Below frames samples) ∧
      (frames ≠ 0 → scope.limits.framesRead.toNat ≤ frames.toNat + 1) ∧
      (scope.phase = .capturing → ∀ phase, result (Scope.tick handle) scope = .ok phase →
        let ticked := after handle .tick scope
        ticked.phase = phase ∧
          (ticked.limits.read.Below frames samples → phase = .capturing) ∧
          (¬ ticked.limits.read.Below frames samples → phase = .stopping ∧
            ∀ others : List Call, .tick ∉ others →
              let waiting := run handle others ticked
              waiting.ticker = some handle.tuning.pollInterval ∧
                result (Scope.tick handle) waiting = .ok .idle ∧
                after handle .tick waiting = waiting.finished)) := by
  intro scope
  let started := after handle .start (run handle before (Scope.ofLine line))
  have run_started (calls : List Call) :
      run handle (before ++ .start :: calls) (Scope.ofLine line) = run handle calls started :=
    run_append handle before (.start :: calls) (Scope.ofLine line)
  have coherent : scope.Coherent handle :=
    run_preserves (fun call _ => coherent_after call) _ (.ofLine handle line)
  have bounded : scope.Bounded frames samples := by
    have fresh : started.Bounded frames samples := by
      have begun : started = (run handle before (Scope.ofLine line)).begun handle :=
        after_start_of_idle handle idle
      rw [begun]
      exact ⟨fun _ => Tally.below_zero frames samples, fun _ => Nat.zero_le _⟩
    have hscope : scope = run handle later started := run_started later
    rw [hscope]
    exact bounded_run (fun sofar front => run_started sofar ▸ kept sofar front) fresh
  refine ⟨bounded.below, bounded.frames_le, fun capturing phase done => ?_⟩
  intro ticked
  have course := Scope.tick_ticks handle scope
  rw [done, ← after_tick] at course
  obtain ⟨hphase, continues, stops⟩ := course.stops capturing (kept later List.prefix_rfl)
  refine ⟨hphase, continues, fun reached => ⟨stops reached, fun others h => ?_⟩⟩
  intro waiting
  have stopping : waiting.phase = .stopping :=
    stopping_run handle h (hphase.trans (stops reached))
  have still : waiting.Coherent handle :=
    run_preserves (fun call _ => coherent_after call) others (coherent_after .tick coherent)
  have ticker : waiting.ticker = some handle.tuning.pollInterval := by
    rw [still.ticker, stopping]
    rfl
  obtain ⟨ended, finished⟩ := Scope.tick_of_stopping handle stopping
  exact ⟨ticker, ended, (after_tick handle waiting).trans finished⟩

theorem run_stops_at_limits_of_one_frame :
    let handle : Handle := ⟨{}, none⟩
    let answer (command : Command) (payload : Bytes) : Except Failure Bytes :=
      (Frame.encode ⟨.normal, command.response, payload⟩).mapError fun _ => .timeout
    let script : Script :=
      { reads := [answer .lock [1, 1], answer .readRegisters (1 :: List.replicate 239 0),
          answer .lock [1, 0], answer .readSamples [0, 2, 0, 0], answer .readSamples [1, 0, 7, 9],
          answer .readSamples [2]] }
    let limit : Call := .setValue (.device (.limit .frames)) none (.natural 1)
    let scope := run handle ([limit] ++ [.start]) (Scope.ofLine ⟨script, []⟩)
    let ticked := after handle .tick scope
    ticked.limits.read = ⟨1, 2⟩ ∧ result (Scope.tick handle) scope = .ok .stopping ∧
      ∀ others : List Call, .tick ∉ others →
        after handle .tick (run handle others ticked) = (run handle others ticked).finished := by
  intro handle answer script limit scope ticked
  have kept : ∀ sofar, sofar <+: [] →
      (run handle ([limit] ++ .start :: sofar) (Scope.ofLine ⟨script, []⟩)).LimitedTo 1 0 := by
    intro sofar front
    rw [List.prefix_nil.mp front]
    funext kind
    cases kind <;> rfl
  have read : ticked.limits.read = ⟨1, 2⟩ := by decide +kernel
  have capturing : scope.phase = .capturing := by decide +kernel
  have succeeds : (result (Scope.tick handle) scope).isOk = true := by decide +kernel
  cases done : result (Scope.tick handle) scope with
  | error fault =>
    rw [done] at succeeds
    cases succeeds
  | ok phase =>
    have reached : ¬ ticked.limits.read.Below 1 0 := by
      rw [read]
      rintro ⟨none | less, -⟩
      · cases none
      · exact Nat.lt_irrefl 1 less
    obtain ⟨stopping, ends⟩ :=
      ((run_stops_at_limits handle ⟨script, []⟩ [limit] [] 1 0 rfl kept).2.2
        capturing phase done).2.2 reached
    rw [stopping]
    exact ⟨read, rfl, fun others h => (ends others h).2.2⟩

end Call

end Oscilloscope
