/- What the calls of an acquisition can do, said once and in full: each way for a start or a tick to
   go, with what it comes to and the scope it leaves. -/

import Oscilloscope.Proofs.Acquisition.Report

set_option autoImplicit false
set_option relaxedAutoImplicit false

namespace Oscilloscope

def frameEvents (channel : Channel) (c : ChannelId) (chunks : List Bytes) : List Event :=
  .frameBegin ::
    chunks.map (fun bytes => .data ⟨c, channel.decodeChunk bytes, channel.digits⟩) ++ [.frameEnd]

/-- The decimal places in packets are those of their channels in `s`. For a channel at no volts a
division they wrap round. -/
def PlacedBy (s : Snapshot) (events : List Event) : Prop :=
  ∀ p, .data p ∈ events → ∃ channel, s.channel p.channel = .ok channel ∧
    p.digits = channel.digits ∧ (channel.voltsPerDivision = 0 → p.digits = -2147483647)

section

variable {s : Snapshot} {events later : List Event}

theorem placedBy_nil (s : Snapshot) : PlacedBy s [] :=
  fun _ told => (List.not_mem_nil told).elim

theorem PlacedBy.append (first : PlacedBy s events) (second : PlacedBy s later) :
    PlacedBy s (events ++ later) :=
  fun p told => (List.mem_append.mp told).elim (first p) (second p)

theorem placedBy_frameEvents {c : ChannelId} {channel : Channel}
    (decoded : s.channel c = .ok channel) (chunks : List Bytes) :
    PlacedBy s (frameEvents channel c chunks) := by
  intro p told
  rw [frameEvents, List.cons_append, List.mem_cons, List.mem_append, List.mem_map] at told
  obtain told | ⟨bytes, -, same⟩ | told := told
  · cases told
  · cases same
    exact ⟨channel, decoded, rfl, Channel.digits_of_flat⟩
  · cases List.mem_singleton.mp told

end

namespace Scope

variable {σ : Type}

def publishing (fresh : Snapshot) (scope : Scope σ) : Scope σ :=
  { scope with bank := { scope.bank with published := some fresh } }

def finished (scope : Scope σ) : Scope σ :=
  { scope with phase := .idle, events := scope.events ++ [.ended], ticker := none }

/-- Only a running acquisition can be asked to stop. -/
def stopRequested (scope : Scope σ) : Scope σ :=
  if scope.phase = .capturing then { scope with phase := .stopping } else scope

private theorem stopRequested_eq (scope : Scope σ) :
    scope.stopRequested = { scope with phase := scope.stopRequested.phase } := by
  rw [stopRequested]
  split <;> rfl

theorem stopRequested_bank (scope : Scope σ) : scope.stopRequested.bank = scope.bank := by
  rw [stopRequested_eq]

theorem stopRequested_baseline (scope : Scope σ) :
    scope.stopRequested.baseline = scope.baseline := by
  rw [stopRequested_eq]

theorem stopRequested_events (scope : Scope σ) : scope.stopRequested.events = scope.events := by
  rw [stopRequested_eq]

theorem stopRequested_limits (scope : Scope σ) : scope.stopRequested.limits = scope.limits := by
  rw [stopRequested_eq]

inductive ChangeTold (fresh : Snapshot) (scope : Scope σ) : Except Fault Unit → Scope σ → Prop
  | begun (empty : scope.baseline = none) :
      ChangeTold fresh scope (.ok ()) { scope with baseline := some fresh }
  | reported {baseline : Snapshot} (kept : scope.baseline = some baseline) :
      ChangeTold fresh scope ((Report.of baseline fresh).told.map fun _ => ())
        { scope with
          baseline := some (Report.of baseline fresh).baseline
          events := scope.events ++ (Report.of baseline fresh).events }

theorem ChangeTold.bank {fresh : Snapshot} {scope after : Scope σ} {r : Except Fault Unit}
    (h : ChangeTold fresh scope r after) : after.bank = scope.bank := by
  cases h <;> rfl

/-- Whether the change from what was told so far can be told. A tick that cannot tell it does not
publish what it has read. -/
def tellable (scope : Scope σ) (fresh : Snapshot) : Bool :=
  match scope.baseline with
  | none => true
  | some baseline => (Report.of baseline fresh).told.isOk

theorem ChangeTold.tellable {fresh : Snapshot} {scope after : Scope σ} {r : Except Fault Unit}
    (h : ChangeTold fresh scope r after) : scope.tellable fresh = r.isOk := by
  cases h with
  | begun empty =>
    rw [Scope.tellable, empty]
    rfl
  | @reported baseline kept =>
    rw [Scope.tellable, kept]
    show (Report.of baseline fresh).told.isOk = _
    cases (Report.of baseline fresh).told <;> rfl

theorem tellChange_tells (fresh : Snapshot) (scope : Scope σ) :
    ChangeTold fresh scope (result (tellChange fresh) scope) (final (tellChange fresh) scope) := by
  cases hbaseline : scope.baseline with
  | none =>
    have hresult : result (tellChange fresh) scope = .ok () := by
      unfold tellChange
      rw [result_bind_ok (result_get _), hbaseline]
      rfl
    have hfinal : final (tellChange fresh) scope = { scope with baseline := some fresh } := by
      unfold tellChange
      rw [final_bind_ok (result_get _), hbaseline]
      rfl
    rw [hresult, hfinal]
    exact .begun hbaseline
  | some baseline =>
    obtain ⟨hresult, hfinal⟩ := tellChange_of_baseline fresh hbaseline
    rw [hresult, hfinal]
    exact .reported hbaseline

theorem result_endingOnFault {α : Type} (x : Work σ α) (scope : Scope σ) :
    result (endingOnFault x) scope = result x scope := by
  unfold result endingOnFault
  cases x scope <;> rfl

theorem final_endingOnFault_of_ok {α : Type} {x : Work σ α} {scope : Scope σ} {a : α}
    (h : result x scope = .ok a) : final (endingOnFault x) scope = final x scope := by
  unfold result at h
  unfold final endingOnFault
  cases hrun : x scope with
  | ok => rfl
  | error => rw [hrun] at h; cases h

theorem final_endingOnFault_of_error {α : Type} {x : Work σ α} {scope : Scope σ} {fault : Fault}
    (h : result x scope = .error fault) :
    final (endingOnFault x) scope = (final x scope).finished := by
  unfold result at h
  unfold final endingOnFault
  cases hrun : x scope with
  | ok => rw [hrun] at h; cases h
  | error => rfl

variable [Transport σ]

def asked (handle : Handle) (c : ChannelId) (scope : Scope σ) : Line σ :=
  final (askSamples handle.tuning c) scope.bank.line

/-- Ways to read a frame. Its events are complete also when its stream breaks off, and only a whole
stream is counted. -/
inductive FrameRead (handle : Handle) (fresh : Snapshot) (c : ChannelId) (scope : Scope σ) :
    Except Fault Unit → Scope σ → Prop
  | hidden (hidden : fresh.channelEnabled c = false) : FrameRead handle fresh c scope (.ok ()) scope
  | undecoded {fault : Fault} (shown : fresh.channelEnabled c = true)
      (unknown : fresh.channel c = .error fault) :
      FrameRead handle fresh c scope (.error fault) scope
  | unasked {channel : Channel} {fault : Fault} (shown : fresh.channelEnabled c = true)
      (decoded : fresh.channel c = .ok channel)
      (answer : result (askSamples handle.tuning c) scope.bank.line = .error fault) :
      FrameRead handle fresh c scope (.error fault) (scope.withLine (scope.asked handle c))
  | waiting {channel : Channel} (shown : fresh.channelEnabled c = true)
      (decoded : fresh.channel c = .ok channel)
      (answer : result (askSamples handle.tuning c) scope.bank.line = .ok false) :
      FrameRead handle fresh c scope (.ok ()) (scope.withLine (scope.asked handle c))
  | broken {channel : Channel} {stream : Stream} {line : Line σ} {fault : Fault}
      (shown : fresh.channelEnabled c = true) (decoded : fresh.channel c = .ok channel)
      (answer : result (askSamples handle.tuning c) scope.bank.line = .ok true)
      (received : Stream.receive handle.tuning c 0 (scope.asked handle c) = (stream, line))
      (ending : stream.ending = .error fault) :
      FrameRead handle fresh c scope (.error fault)
        { scope.withLine line with
          events := scope.events ++ frameEvents channel c stream.chunks }
  | whole {channel : Channel} {stream : Stream} {line : Line σ}
      (shown : fresh.channelEnabled c = true) (decoded : fresh.channel c = .ok channel)
      (answer : result (askSamples handle.tuning c) scope.bank.line = .ok true)
      (received : Stream.receive handle.tuning c 0 (scope.asked handle c) = (stream, line))
      (ending : stream.ending = .ok ()) :
      FrameRead handle fresh c scope (.ok ())
        { scope.withLine line with
          events := scope.events ++ frameEvents channel c stream.chunks
          limits := (scope.limits.countSamples stream.sampleCount).countFrames 1 }

theorem readFrame_reads (handle : Handle) (fresh : Snapshot) (c : ChannelId) (scope : Scope σ) :
    FrameRead handle fresh c scope (result (readFrame handle fresh c) scope)
      (final (readFrame handle fresh c) scope) := by
  unfold readFrame
  cases shown : fresh.channelEnabled c with
  | false => exact .hidden shown
  | true =>
    rw [if_pos rfl]
    refine bind_cases (P := FrameRead handle fresh c scope) ?_ ?_
    · intro fault unknown
      rw [result_ofExcept] at unknown
      rw [final_ofExcept]
      exact .undecoded shown unknown
    · intro channel decoded
      rw [result_ofExcept] at decoded
      rw [final_ofExcept]
      refine bind_cases (P := FrameRead handle fresh c scope) ?_ ?_
      · intro fault answer
        rw [result_onLine] at answer
        rw [final_onLine]
        exact .unasked shown decoded answer
      · intro ready answer
        rw [result_onLine] at answer
        rw [final_onLine]
        cases ready with
        | false => exact .waiting shown decoded answer
        | true =>
          refine bind_cases (P := FrameRead handle fresh c scope) ?_ ?_
          · -- A stream that breaks off is a value too, so receiving one cannot fail.
            intro fault received
            cases received
          · intro stream received
            have same : (Stream.receive handle.tuning c 0 (scope.asked handle c)).1 = stream :=
              Except.ok.inj received
            subst same
            cases ending : (Stream.receive handle.tuning c 0 (scope.asked handle c)).1.ending with
            | error fault => exact .broken shown decoded answer rfl ending
            | ok _ => exact .whole shown decoded answer rfl ending

def begun (handle : Handle) (scope : Scope σ) : Scope σ :=
  { scope with
    phase := .capturing
    baseline := scope.bank.published
    limits := scope.limits.start scope.now
    events := scope.events ++ [.header]
    ticker := some handle.tuning.pollInterval }

inductive Started (handle : Handle) (scope : Scope σ) : Except Fault Unit → Scope σ → Prop
  | begun (phase : scope.phase = .idle) : Started handle scope (.ok ()) (scope.begun handle)
  | busy (phase : scope.phase ≠ .idle) : Started handle scope (.error (.busy scope.phase)) scope

theorem Started.bank {handle : Handle} {scope after : Scope σ} {r : Except Fault Unit}
    (h : Started handle scope r after) : after.bank = scope.bank := by
  cases h <;> rfl

theorem start_starts (handle : Handle) (scope : Scope σ) :
    Started handle scope (result (start handle) scope) (final (start handle) scope) := by
  unfold start
  rw [result_bind_ok (result_get _), final_bind_ok (result_get _), final_get]
  by_cases phase : scope.phase = .idle
  · rw [if_neg (not_not_intro phase)]
    exact .begun phase
  · rw [if_pos phase]
    exact .busy phase

def fetched (handle : Handle) (scope : Scope σ) : Scope σ :=
  { scope with bank := final (Bank.fetch handle.tuning) scope.bank }

/-- Ways for a round: it stops at its first fault, and only after a told change does the fresh
snapshot become the published one. -/
inductive Captured (handle : Handle) (scope : Scope σ) : Except Fault Unit → Scope σ → Prop
  | unfetched {fault : Fault}
      (fetch : result (Bank.fetch handle.tuning) scope.bank = .error fault) :
      Captured handle scope (.error fault) (scope.fetched handle)
  | untold {fresh : Snapshot} {fault : Fault} {told : Scope σ}
      (fetch : result (Bank.fetch handle.tuning) scope.bank = .ok fresh)
      (change : ChangeTold fresh (scope.fetched handle) (.error fault) told) :
      Captured handle scope (.error fault) told
  | firstFailed {fresh : Snapshot} {fault : Fault} {told first : Scope σ}
      (fetch : result (Bank.fetch handle.tuning) scope.bank = .ok fresh)
      (change : ChangeTold fresh (scope.fetched handle) (.ok ()) told)
      (ch1 : FrameRead handle fresh .ch1 (told.publishing fresh) (.error fault) first) :
      Captured handle scope (.error fault) first
  | secondFailed {fresh : Snapshot} {fault : Fault} {told first second : Scope σ}
      (fetch : result (Bank.fetch handle.tuning) scope.bank = .ok fresh)
      (change : ChangeTold fresh (scope.fetched handle) (.ok ()) told)
      (ch1 : FrameRead handle fresh .ch1 (told.publishing fresh) (.ok ()) first)
      (ch2 : FrameRead handle fresh .ch2 first (.error fault) second) :
      Captured handle scope (.error fault) second
  | complete {fresh : Snapshot} {told first second : Scope σ}
      (fetch : result (Bank.fetch handle.tuning) scope.bank = .ok fresh)
      (change : ChangeTold fresh (scope.fetched handle) (.ok ()) told)
      (ch1 : FrameRead handle fresh .ch1 (told.publishing fresh) (.ok ()) first)
      (ch2 : FrameRead handle fresh .ch2 first (.ok ()) second) :
      Captured handle scope (.ok ())
        (if second.limits.exceeded second.now then second.stopRequested else second)

private theorem capture_captures (handle : Handle) (scope : Scope σ) :
    Captured handle scope (result (capture handle) scope) (final (capture handle) scope) := by
  unfold capture
  refine bind_cases (P := Captured handle scope) ?_ ?_
  · intro fault fetch
    rw [result_onBank] at fetch
    rw [final_onBank]
    exact .unfetched fetch
  · intro fresh fetch
    rw [result_onBank] at fetch
    rw [final_onBank]
    have change := tellChange_tells fresh (scope.fetched handle)
    refine bind_cases (P := Captured handle scope) ?_ ?_
    · intro fault told
      rw [fetched, told] at change
      exact .untold fetch change
    · intro _ told
      rw [fetched, told] at change
      refine bind_cases (P := Captured handle scope) ?_ ?_
      · intro fault published
        cases published
      · intro _ _
        rw [final_onBank, Bank.final_publish]
        have ch1 := readFrame_reads handle fresh .ch1
          ((final (tellChange fresh) (scope.fetched handle)).publishing fresh)
        refine bind_cases (P := Captured handle scope) ?_ ?_
        · intro fault first
          rw [publishing, fetched, first] at ch1
          exact .firstFailed fetch change ch1
        · intro _ first
          rw [publishing, fetched, first] at ch1
          have ch2 := readFrame_reads handle fresh .ch2 (final (readFrame handle fresh .ch1)
            ((final (tellChange fresh) (scope.fetched handle)).publishing fresh))
          refine bind_cases (P := Captured handle scope) ?_ ?_
          · intro fault second
            rw [publishing, fetched, second] at ch2
            exact .secondFailed fetch change ch1 ch2
          · intro _ second
            rw [publishing, fetched, second] at ch2
            have course := Captured.complete fetch change ch1 ch2
            rw [result_bind_ok (result_get _), final_bind_ok (result_get _)]
            split at course
            · rename_i reached
              rw [if_pos reached]
              exact course
            · rename_i within
              rw [if_neg within]
              exact course

/-- Ways for a tick. Only a running acquisition does anything, and a fault ends it. -/
inductive Ticked (handle : Handle) (scope : Scope σ) : Except Fault Phase → Scope σ → Prop
  | idle (phase : scope.phase = .idle) : Ticked handle scope (.ok .idle) scope
  | ended (phase : scope.phase = .stopping) : Ticked handle scope (.ok .idle) scope.finished
  | failed {fault : Fault} {after : Scope σ} (phase : scope.phase = .capturing)
      (round : Captured handle scope (.error fault) after) :
      Ticked handle scope (.error fault) after.finished
  | continued {after : Scope σ} (phase : scope.phase = .capturing)
      (round : Captured handle scope (.ok ()) after) :
      Ticked handle scope (.ok after.phase) after

theorem tick_ticks (handle : Handle) (scope : Scope σ) :
    Ticked handle scope (result (tick handle) scope) (final (tick handle) scope) := by
  unfold tick
  rw [result_bind_ok (result_get _), final_bind_ok (result_get _), final_get]
  cases phase : scope.phase with
  | idle => exact .idle phase
  | stopping => exact .ended phase
  | capturing =>
    have round := capture_captures handle scope
    refine bind_cases (P := Ticked handle scope) ?_ ?_
    · intro fault failed
      rw [result_endingOnFault] at failed
      rw [final_endingOnFault_of_error failed]
      rw [failed] at round
      exact .failed phase round
    · intro _ continued
      rw [result_endingOnFault] at continued
      rw [final_endingOnFault_of_ok continued]
      rw [continued] at round
      exact .continued phase round

end Scope

end Oscilloscope
