/- The stream of a frame against what the instrument sends. Each read of it comes to one of five
   things, the first that ends the stream is found from these alone, and all that is told, counted
   and read is what stands before it. -/

import Oscilloscope.Proofs.Acquisition.Tally
import Oscilloscope.Proofs.Wire.Replay
import Oscilloscope.Transport.Script

set_option autoImplicit false
set_option relaxedAutoImplicit false

namespace Oscilloscope

/-- What one read of a stream comes to. -/
inductive Arrival
  | data (payload : Bytes)
  | last
  | failed
  | odd (code : UInt8)
  | bad (fault : Fault)

namespace Arrival

def ofPayload : Bytes → Arrival
  | [] => .bad (.frame (.tooShort 5))
  | code :: rest =>
    if code = 1 then .data (code :: rest)
    else if code = 2 then .last
    else if code = 3 then .failed
    else .odd code

def ofAnswer (tuning : Tuning) : Except Failure Bytes → Arrival
  | .error f => .bad (.link (f.during .read tuning.receiveTimeout))
  | .ok bytes =>
    match Frame.decode bytes with
    | .error fault => .bad (.frame fault)
    | .ok f =>
      if f.command = Command.readSamples.response then ofPayload f.payload
      else .bad (.frame (.commandEcho Command.readSamples.response f.command))

def isFailed : Arrival → Bool
  | .failed => true
  | _ => false

def samples? : Arrival → Option Bytes
  | .data payload => some (payload.drop 2)
  | _ => none

def ending (c : ChannelId) (limit : UInt32) : Arrival → Except Fault Unit
  | .bad fault => .error fault
  | .failed => .error (.chunkErrors c (limit + 1))
  | .data _ | .last | .odd _ => .ok ()

end Arrival

section Sequence

variable (arrivals : Nat → Arrival)

def failuresBefore (n : Nat) : Nat :=
  (List.range n).countP fun i => (arrivals i).isFailed

def samplesBefore (n : Nat) : List Bytes :=
  (List.range n).filterMap fun i => (arrivals i).samples?

/-- Whether a stream ends with the arrival at `n`, if it puts up with so many failed chunks or, with
`none`, with any number of them. -/
def endsAt (patience : Option Nat) (n : Nat) : Bool :=
  match arrivals n with
  | .data _ => false
  | .failed => patience == some (failuresBefore arrivals n)
  | .last | .odd _ | .bad _ => true

/-- The arrival at `n` is the first to end the stream. -/
structure EndsFirst (patience : Option Nat) (n : Nat) : Prop where
  ends : endsAt arrivals patience n = true
  sooner : ∀ m < n, endsAt arrivals patience m = false

end Sequence

/-- The failed chunks that a stream puts up with. They are counted in 32 bits, so at the end of
their range the count wraps round before it passes the limit. -/
def Tuning.patience (tuning : Tuning) : Option Nat :=
  if tuning.chunkErrorLimit = 4294967295 then none else some tuning.chunkErrorLimit.toNat

section

variable {arrivals : Nat → Arrival} {patience : Option Nat} {n m : Nat}

private theorem EndsFirst.unique (h : EndsFirst arrivals patience n)
    (h' : EndsFirst arrivals patience m) :
    n = m := by
  rcases Nat.lt_trichotomy n m with less | same | more
  · exact absurd h.ends (Bool.eq_false_iff.mp (h'.sooner n less))
  · exact same
  · exact absurd h'.ends (Bool.eq_false_iff.mp (h.sooner m more))

private theorem failuresBefore_succ (arrivals : Nat → Arrival) (n : Nat) :
    failuresBefore arrivals (n + 1) =
      failuresBefore (fun i => arrivals (i + 1)) n + (arrivals 0).isFailed.toNat := by
  rw [failuresBefore, List.range_succ_eq_map, List.countP_cons, List.countP_map]
  cases (arrivals 0).isFailed <;> rfl

private theorem samplesBefore_succ (arrivals : Nat → Arrival) (n : Nat) :
    samplesBefore arrivals (n + 1) =
      (arrivals 0).samples?.toList ++ samplesBefore (fun i => arrivals (i + 1)) n := by
  rw [samplesBefore, List.range_succ_eq_map, List.filterMap_cons, List.filterMap_map]
  cases (arrivals 0).samples? <;> rfl

private theorem EndsFirst.succ (arrivals : Nat → Arrival) (patience : Option Nat)
    (going : endsAt arrivals (patience.map (· + (arrivals 0).isFailed.toNat)) 0 = false)
    (later : EndsFirst (fun i => arrivals (i + 1)) patience n) :
    EndsFirst arrivals (patience.map (· + (arrivals 0).isFailed.toNat)) (n + 1) := by
  have shift (m : Nat) :
      endsAt arrivals (patience.map (· + (arrivals 0).isFailed.toNat)) (m + 1) =
        endsAt (fun i => arrivals (i + 1)) patience m := by
    rw [endsAt, endsAt, failuresBefore_succ]
    cases arrivals (m + 1) with
    | failed => cases patience <;> simp
    | _ => rfl
  refine ⟨(shift n).trans later.ends, fun m hm => ?_⟩
  cases m with
  | zero => exact going
  | succ m => exact (shift m).trans (later.sooner m (Nat.lt_of_succ_lt_succ hm))

end

section

variable {σ : Type} [Transport σ]

def afterReads : Nat → σ → σ
  | 0, device => device
  | n + 1, device => afterReads n (Transport.read device 10007).2

def answerAt (device : σ) (n : Nat) : Except Failure Bytes :=
  (Transport.read (afterReads n device) 10007).1.map fun bytes => bytes.take 10007

def arrivalAt (tuning : Tuning) (device : σ) (n : Nat) : Arrival :=
  .ofAnswer tuning (answerAt device n)

namespace Line

def afterReads (line : Line σ) (n : Nat) : Line σ :=
  ⟨Oscilloscope.afterReads n line.device,
    line.record ++ (List.range n).map fun i => .read 10007 (answerAt line.device i)⟩

private theorem afterReads_succ (line : Line σ) (n : Nat) :
    line.afterReads (n + 1) = (line.afterReads 1).afterReads n := by
  show Line.mk _ _ = Line.mk _ _
  rw [List.range_succ_eq_map, List.map_cons, List.map_map, afterReads, List.append_assoc]
  rfl

end Line

private theorem Line.read_eq (tuning : Tuning) (line : Line σ) :
    Line.read tuning.receiveTimeout 10007 line =
      Line.conclude .read tuning.receiveTimeout (line.afterReads 1) (answerAt line.device 0) :=
  rfl

private theorem Link.final_receive (tuning : Tuning) (line : Line σ) :
    final (Link.receive tuning .readSamples 10007) line = line.afterReads 1 := by
  have left := Line.final_of_conclude (Line.read_eq tuning line)
  unfold Link.receive
  rw [final_bind_idle _ (fun _ _ => Exchange.final_ofExcept _ _ _), left]

private theorem Link.result_receive (tuning : Tuning) (line : Line σ) :
    result (Link.receive tuning .readSamples 10007) line =
      ((answerAt line.device 0).mapError fun f =>
        .link (f.during .read tuning.receiveTimeout)).bind fun bytes =>
          (Frame.decode bytes >>= fun f => f.answering .readSamples).mapError .frame := by
  unfold Link.receive
  rw [result_bind, Line.result_of_conclude (Line.read_eq tuning line)]
  simp only [Exchange.result_ofExcept]

omit [Transport σ] in
private theorem Exchange.attempt_bind {α β : Type} (x : Exchange σ α)
    (f : Except Fault α → Exchange σ β)
    (line : Line σ) : (x.attempt >>= f) line = f (result x line) (final x line) := by
  show EStateM.bind x.attempt f line = _
  unfold EStateM.bind attempt result final
  cases x line <;> rfl

namespace Stream

/-- What becomes of a stream after its first arrival. -/
def goOn (tuning : Tuning) (c : ChannelId) (failures : UInt32) (rest : Line σ) :
    Arrival → Stream × Line σ
  | .data payload =>
    let (later, line) := receive tuning c failures rest
    (⟨payload.drop 2 :: later.chunks, later.ending⟩, line)
  | .failed =>
    if tuning.chunkErrorLimit < failures + 1 then
      (⟨[], .error (.chunkErrors c (failures + 1))⟩, rest)
    else receive tuning c (failures + 1) rest
  | .last | .odd _ => (⟨[], .ok ()⟩, rest)
  | .bad fault => (⟨[], .error fault⟩, rest)

private theorem proceed_eq (tuning : Tuning) (c : ChannelId) (failures : UInt32) (f : Frame)
    (rest : Line σ) :
    proceed tuning c failures (.ok f) rest =
      .ok (goOn tuning c failures rest (.ofPayload f.payload)).1
        (goOn tuning c failures rest (.ofPayload f.payload)).2 := by
  obtain ⟨marker, command, payload⟩ := f
  cases payload with
  | nil => rfl
  | cons code samples =>
    have chunk : Chunk.ofFrame ⟨marker, command, code :: samples⟩ =
        if code = 1 then .ok (.data ((code :: samples).drop 2))
        else if code = 2 then .ok .last
        else if code = 3 then .ok .failed
        else .ok (.odd code) := rfl
    rw [proceed, chunk, Arrival.ofPayload]
    split
    · rfl
    · split
      · rfl
      · split
        · dsimp only [goOn]
          split <;> rfl
        · rfl

theorem receive_eq (tuning : Tuning) (c : ChannelId) (failures : UInt32) (line : Line σ) :
    receive tuning c failures line =
      goOn tuning c failures (line.afterReads 1) (arrivalAt tuning line.device 0) := by
  have run : receiving tuning c failures line =
      proceed tuning c failures (result (Link.receive tuning .readSamples 10007) line)
        (line.afterReads 1) := by
    rw [receiving_eq, ← Link.final_receive tuning line]
    exact Exchange.attempt_bind _ _ line
  have onward : proceed tuning c failures
      (result (Link.receive tuning .readSamples 10007) line) (line.afterReads 1) =
        .ok (goOn tuning c failures (line.afterReads 1) (arrivalAt tuning line.device 0)).1
          (goOn tuning c failures (line.afterReads 1) (arrivalAt tuning line.device 0)).2 := by
    rw [Link.result_receive, arrivalAt]
    cases answerAt line.device 0 with
    | error f => rfl
    | ok bytes =>
      rw [Arrival.ofAnswer, Except.mapError, Except.bind]
      cases Frame.decode bytes with
      | error fault => rfl
      | ok f =>
        by_cases same : f.command = Command.readSamples.response
        · have answer : ((Except.ok f : Except FrameFault Frame) >>= fun f =>
              f.answering .readSamples) = .ok f := if_pos same
          dsimp only
          rw [answer, if_pos same]
          exact proceed_eq tuning c failures f (line.afterReads 1)
        · have answer : ((Except.ok f : Except FrameFault Frame) >>= fun f =>
              f.answering .readSamples) =
                .error (.commandEcho Command.readSamples.response f.command) := if_neg same
          dsimp only
          rw [answer, if_neg same]
          rfl
  injection run.trans onward with stream rest
  exact Prod.ext stream rest

private theorem ready_of_arrival (tuning : Tuning) {line : Line σ}
    (good : ∀ fault, arrivalAt tuning line.device 0 ≠ .bad fault) :
    Transport.ready (line.afterReads 1).device < Transport.ready line.device := by
  show Transport.ready (Transport.read line.device 10007).2 < _
  cases hread : Transport.read line.device 10007 with
  | mk answer device =>
    cases answer with
    | ok bytes => exact Transport.ready_read _ _ _ _ hread
    | error f =>
      refine absurd ?_ (good (.link (f.during .read tuning.receiveTimeout)))
      rw [arrivalAt, answerAt, Oscilloscope.afterReads, hread]
      rfl

private theorem tooMany_iff {tuning : Tuning} {failures : UInt32}
    (within : failures ≤ tuning.chunkErrorLimit) :
    tuning.chunkErrorLimit < failures + 1 ↔
      tuning.patience.map (· - failures.toNat) = some 0 := by
  have most := tuning.chunkErrorLimit.toNat_lt
  rw [UInt32.le_iff_toNat_le] at within
  rw [UInt32.lt_iff_toNat_lt, UInt32.toNat_add, UInt32.toNat_one]
  by_cases top : tuning.chunkErrorLimit = 4294967295
  · have limit : tuning.chunkErrorLimit.toNat = 4294967295 := congrArg UInt32.toNat top
    simp only [Tuning.patience, if_pos top, Option.map_none, reduceCtorEq, iff_false]
    omega
  · have limit : tuning.chunkErrorLimit.toNat ≠ 4294967295 := fun h =>
      top (UInt32.toNat_inj.mp h)
    simp only [Tuning.patience, if_neg top, Option.map_some, Option.some.injEq]
    omega

private theorem patience_step {tuning : Tuning} {failures : UInt32}
    (within : failures ≤ tuning.chunkErrorLimit)
    (bearable : ¬tuning.chunkErrorLimit < failures + 1) :
    (tuning.patience.map (· - (failures + 1).toNat)).map (· + 1) =
      tuning.patience.map (· - failures.toNat) := by
  by_cases top : tuning.chunkErrorLimit = 4294967295
  · simp only [Tuning.patience, if_pos top, Option.map_none]
  · have most := tuning.chunkErrorLimit.toNat_lt
    rw [UInt32.le_iff_toNat_le] at within
    rw [UInt32.lt_iff_toNat_lt, UInt32.toNat_add, UInt32.toNat_one] at bearable
    have limit : tuning.chunkErrorLimit.toNat ≠ 4294967295 := fun h =>
      top (UInt32.toNat_inj.mp h)
    simp only [Tuning.patience, if_neg top, Option.map_some, UInt32.toNat_add, UInt32.toNat_one]
    congr 1
    omega

private theorem receive_streams_after (tuning : Tuning) (c : ChannelId) (failures : UInt32)
    (within : failures ≤ tuning.chunkErrorLimit) (line : Line σ) :
    ∃ n, EndsFirst (arrivalAt tuning line.device) (tuning.patience.map (· - failures.toNat)) n ∧
      n ≤ Transport.ready line.device ∧
      receive tuning c failures line =
        (⟨samplesBefore (arrivalAt tuning line.device) n,
          (arrivalAt tuning line.device n).ending c tuning.chunkErrorLimit⟩,
          line.afterReads (n + 1)) := by
  -- On what the device has ready, of which every arrival takes some.
  induction hready : Transport.ready line.device using Nat.strongRecOn
    generalizing failures line with
  | _ ready ih =>
    rw [receive_eq]
    cases first : arrivalAt tuning line.device 0 with
    | last | odd code | bad fault =>
      refine ⟨0, ⟨?_, fun _ h => absurd h (Nat.not_lt_zero _)⟩, Nat.zero_le _, ?_⟩
      · rw [endsAt, first]
      · rw [first]
        rfl
    | data payload =>
      have less := ready_of_arrival tuning (by rw [first]; nofun)
      obtain ⟨n, ends, bounded, later⟩ := ih _ (hready ▸ less) failures within _ rfl
      refine ⟨n + 1, ?_, by omega, ?_⟩
      · have going := EndsFirst.succ (arrivalAt tuning line.device) _
          (by rw [endsAt, first]) ends
        rw [first] at going
        simpa only [Arrival.isFailed, Bool.toNat_false, Nat.add_zero, Option.map_map,
          Function.comp_def] using going
      · rw [goOn, later, samplesBefore_succ, first, line.afterReads_succ (n + 1)]
        rfl
    | failed =>
      by_cases tooMany : tuning.chunkErrorLimit < failures + 1
      · have worn := (tooMany_iff within).mp tooMany
        refine ⟨0, ⟨?_, fun _ h => absurd h (Nat.not_lt_zero _)⟩, Nat.zero_le _, ?_⟩
        · rw [endsAt, first, worn]
          rfl
        · have all : failures = tuning.chunkErrorLimit := by
            have := tuning.chunkErrorLimit.toNat_lt
            rw [UInt32.le_iff_toNat_le] at within
            rw [UInt32.lt_iff_toNat_lt, UInt32.toNat_add, UInt32.toNat_one] at tooMany
            exact UInt32.toNat_inj.mp (by omega)
          rw [first, goOn, if_pos tooMany, all]
          rfl
      · have less := ready_of_arrival tuning (by rw [first]; nofun)
        obtain ⟨n, ends, bounded, later⟩ :=
          ih _ (hready ▸ less) (failures + 1) (UInt32.not_lt.mp tooMany) _ rfl
        refine ⟨n + 1, ?_, by omega, ?_⟩
        · have step := patience_step within tooMany
          have going := EndsFirst.succ (arrivalAt tuning line.device)
            (tuning.patience.map (· - (failures + 1).toNat)) (n := n)
          rw [first] at going
          rw [← step]
          refine going ?_ ends
          rw [endsAt, first]
          cases tuning.patience <;> rfl
        · rw [goOn, if_neg tooMany, later, samplesBefore_succ, first,
            line.afterReads_succ (n + 1)]
          rfl

theorem receive_streams (tuning : Tuning) (c : ChannelId) (line : Line σ) :
    ∃ n, EndsFirst (arrivalAt tuning line.device) tuning.patience n ∧
      n ≤ Transport.ready line.device ∧
      receive tuning c 0 line =
        (⟨samplesBefore (arrivalAt tuning line.device) n,
          (arrivalAt tuning line.device n).ending c tuning.chunkErrorLimit⟩,
          line.afterReads (n + 1)) := by
  have whole : tuning.patience.map (· - (0 : UInt32).toNat) = tuning.patience := Option.map_id'
  rw [← whole]
  exact receive_streams_after tuning c 0 (UInt32.le_iff_toNat_le.mpr (Nat.zero_le _)) line

end Stream

namespace Scope

theorem FrameRead.of_ready {handle : Handle} {fresh : Snapshot} {c : ChannelId}
    {scope after : Scope σ} {r : Except Fault Unit} {channel : Channel} {stream : Stream}
    {line : Line σ} (course : FrameRead handle fresh c scope r after)
    (shown : fresh.channelEnabled c = true) (decoded : fresh.channel c = .ok channel)
    (ready : result (askSamples handle.tuning c) scope.bank.line = .ok true)
    (received : Stream.receive handle.tuning c 0 (scope.asked handle c) = (stream, line)) :
    r = stream.ending ∧ after = { scope.withLine line with
      events := scope.events ++ frameEvents channel c stream.chunks
      limits := if stream.ending.isOk then
          (scope.limits.countSamples stream.sampleCount).countFrames 1
        else scope.limits } := by
  cases course with
  | hidden hidden => cases hidden.symm.trans shown
  | undecoded _ unknown => cases unknown.symm.trans decoded
  | unasked _ _ answer => cases answer.symm.trans ready
  | waiting _ _ answer => cases answer.symm.trans ready
  | broken _ decoded' _ received' ending =>
    cases decoded.symm.trans decoded'
    cases received.symm.trans received'
    rw [ending]
    exact ⟨rfl, rfl⟩
  | whole _ decoded' _ received' ending =>
    cases decoded.symm.trans decoded'
    cases received.symm.trans received'
    rw [ending]
    exact ⟨rfl, rfl⟩

/-- A frame whose samples are ready is read up to the first arrival that ends its stream, by one
read for each arrival and no write. Its events are complete however it ends, with one packet for
each data chunk before the end; frame and samples count only where the instrument ended it. A
channel at no volts a division is read like any other, and its decimal places wrap round. -/
theorem readFrame_streams (handle : Handle) (scope : Scope σ) {fresh : Snapshot} {c : ChannelId}
    {channel : Channel} (shown : fresh.channelEnabled c = true)
    (decoded : fresh.channel c = .ok channel)
    (ready : result (askSamples handle.tuning c) scope.bank.line = .ok true) :
    let asked := scope.asked handle c
    let arrivals := arrivalAt handle.tuning asked.device
    let limit := handle.tuning.chunkErrorLimit
    let after := final (readFrame handle fresh c) scope
    ∃ n, EndsFirst arrivals handle.tuning.patience n ∧ n ≤ Transport.ready asked.device ∧
      let frame := frameEvents channel c (samplesBefore arrivals n)
      let counted := (scope.limits.countSamples (Tally.ofEvents frame).samples).countFrames 1
      after.bank.line.record = asked.record ++
        (List.range (n + 1)).map (fun i => .read 10007 (answerAt asked.device i)) ∧
      after.events = scope.events ++ frame ∧
      PlacedBy fresh frame ∧
      match arrivals n with
      | .last | .odd _ => result (readFrame handle fresh c) scope = .ok () ∧
        after.limits = counted
      | .bad fault => result (readFrame handle fresh c) scope = .error fault ∧
        after.limits = scope.limits
      | .failed => result (readFrame handle fresh c) scope = .error (.chunkErrors c (limit + 1)) ∧
        after.limits = scope.limits
      | .data _ => False := by
  intro asked arrivals limit after
  obtain ⟨n, ends, within, received⟩ := Stream.receive_streams handle.tuning c asked
  refine ⟨n, ends, within, ?_⟩
  intro frame counted
  obtain ⟨hresult, hafter⟩ :=
    (readFrame_reads handle fresh c scope).of_ready shown decoded ready received
  have samples :
      (Tally.ofEvents frame).samples = .ofNat (samplesBefore arrivals n).flatten.length :=
    congrArg Tally.samples
      (FrameTaken.ofEvents_events ⟨c, channel, ⟨samplesBefore arrivals n, .ok ()⟩⟩)
  have limits : after.limits =
      if ((arrivals n).ending c limit).isOk then counted else scope.limits := by
    rw [show after = _ from hafter]
    exact congrArg (fun total => if ((arrivals n).ending c limit).isOk then
      (scope.limits.countSamples total).countFrames 1 else scope.limits) samples.symm
  have stops := ends.ends
  rw [endsAt] at stops
  refine ⟨congrArg (fun s => s.bank.line.record) hafter, congrArg Scope.events hafter,
    placedBy_frameEvents decoded _, ?_⟩
  rw [limits, hresult]
  cases last : arrivals n with
  | data => rw [show arrivalAt _ _ n = _ from last] at stops; cases stops
  | last | odd | failed | bad =>
    rw [show arrivalAt _ _ n = _ from last]
    exact ⟨rfl, rfl⟩

theorem readFrame_streams_past_a_failed_chunk :
    let answer (payload : Bytes) : Except Failure Bytes :=
      let f : Frame := ⟨.normal, Command.readSamples.response, payload⟩
      .ok (f.body ++ [checksum f.body])
    let device : Script := { reads := [answer [0, 2, 0, 0], answer [1, 0, 5, 6], answer [3],
      answer [1], answer [2], answer [1, 0, 7]] }
    let handle : Handle := ⟨{ chunkErrorLimit := 1 }, none⟩
    let fresh := Snapshot.zero.setVertical .ch1 fun r => { r with shown := 1 }
    let after := final (readFrame handle fresh .ch1) (Scope.ofLine { device })
    result (readFrame handle fresh .ch1) (Scope.ofLine { device }) = .ok () ∧
      (∃ channel, after.events = frameEvents channel .ch1 [[5, 6], []]) ∧
      after.limits.read = ⟨1, 2⟩ ∧ after.bank.line.record.length = 6 := by
  intro answer device handle fresh after
  have ready : result (askSamples handle.tuning .ch1) ({ device } : Line Script) = .ok true := by
    rfl
  let arrivals := arrivalAt handle.tuning ((Scope.ofLine { device }).asked handle .ch1).device
  have fourth : EndsFirst arrivals (some 1) 3 := ⟨by decide +kernel, by decide +kernel⟩
  have chunks : samplesBefore arrivals 3 = [[5, 6], []] := by decide +kernel
  have shown : fresh.channelEnabled .ch1 = true := rfl
  obtain ⟨n, ends, -, record, events, -, outcome⟩ :=
    readFrame_streams handle (Scope.ofLine { device }) shown rfl ready
  cases ends.unique fourth
  obtain ⟨done, limits⟩ := outcome
  exact ⟨done, ⟨_, chunks ▸ events⟩, congrArg Limits.read limits, congrArg List.length record⟩

end Scope

end

end Oscilloscope
