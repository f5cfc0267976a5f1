/- The turns of the channels in a round. Which of them are asked for samples is up to the snapshot
   that the round has fetched, and to how the ones before have answered. Registers of a channel that
   is not shown make no difference. -/

import Oscilloscope.Proofs.Scope.Determinacy
import Oscilloscope.Proofs.Scope.Streaming
import Oscilloscope.Proofs.Setting.Describe
import Oscilloscope.Proofs.Wire.Rehearsed
import Oscilloscope.Proofs.Wire.Submission
import Oscilloscope.Scope.Call

set_option autoImplicit false
set_option relaxedAutoImplicit false

namespace Oscilloscope

/-- What an answer to a request for samples says: whether there are any, or what is wrong. -/
inductive Availability : Except Fault Frame → Except Fault Bool → Prop
  | unanswered {fault : Fault} : Availability (.error fault) (.error fault)
  | empty {f : Frame} (payload : f.payload = []) :
      Availability (.ok f) (.error (.frame (.tooShort 5)))
  | refused {f : Frame} {status : UInt8} {rest : Bytes} (payload : f.payload = status :: rest)
      (unready : status ≠ 0) (other : status ≠ 3) :
      Availability (.ok f) (.error (.frame (.subCommand 0 status)))
  | cut {f : Frame} {rest : Bytes} (payload : f.payload = 0 :: rest) (short : rest.length < 3) :
      Availability (.ok f) (.error (.frame (.tooShort (rest.length + 1))))
  | waiting {f : Frame} {rest : Bytes} (payload : f.payload = 3 :: rest) :
      Availability (.ok f) (.ok false)
  | ready {f : Frame} {x y z : UInt8} {rest : Bytes}
      (payload : f.payload = 0 :: x :: y :: z :: rest) : Availability (.ok f) (.ok true)

/-- What follows such an answer: the transfers, what is told and counted, and how it ends. Without
samples nothing is told or counted. -/
inductive Taken (tuning : Tuning) (c : ChannelId) (channel : Channel) :
    Except Fault Bool → List Transfer → List Event → Tally → Except Fault Unit → Prop
  | failed {fault : Fault} : Taken tuning c channel (.error fault) [] [] {} (.error fault)
  | waiting : Taken tuning c channel (.ok false) [] [] {} (.ok ())
  | streamed {answers : List (Except Failure Bytes)} {last : Except Failure Bytes}
      {stream : Stream}
      (chunks : stream.chunks =
        answers.filterMap fun answer => (Arrival.ofAnswer tuning answer).samples?)
      (ending : stream.ending = (Arrival.ofAnswer tuning last).ending c tuning.chunkErrorLimit) :
      Taken tuning c channel (.ok true) ((answers ++ [last]).map (.read 10007))
        (frameEvents channel c stream.chunks)
        (if stream.ending.isOk then ⟨1, stream.sampleCount⟩ else {}) stream.ending

/-- A channel's turn in a round that has fetched `fresh`. One that is not shown is passed over, and
one whose codes are not all known is not asked. -/
inductive Turn (tuning : Tuning) (fresh : Snapshot) (c : ChannelId) :
    List Transfer → List Event → Tally → Except Fault Unit → Prop
  | hidden (hidden : fresh.channelEnabled c = false) : Turn tuning fresh c [] [] {} (.ok ())
  | undecoded {h : HeldCode} (shown : fresh.channelEnabled c = true)
      (unknown : (fresh.vertical.get c).coded.find? (fun h => !h.known) = some h) :
      Turn tuning fresh c [] [] {} (.error (.unknownCode h.register h.code))
  | asked {channel : Channel} {t u : List Transfer} {answer : Except Fault Frame}
      {availability : Except Fault Bool} {events : List Event} {read : Tally}
      {r : Except Fault Unit} (shown : fresh.channelEnabled c = true)
      (decoded : fresh.channel c = .ok channel)
      (asked : Link.Asked tuning .readSamples [1, .ofNat c.index] 128 t answer)
      (answered : Availability answer availability)
      (taken : Taken tuning c channel availability u events read r) :
      Turn tuning fresh c (t ++ u) events read r

/-- The turns of channels one after the other, up to the first fault. -/
inductive Turns (tuning : Tuning) (fresh : Snapshot) :
    List ChannelId → List Transfer → List Event → Tally → Except Fault Unit → Prop
  | done : Turns tuning fresh [] [] [] {} (.ok ())
  | stopped {c : ChannelId} {rest : List ChannelId} {t : List Transfer} {events : List Event}
      {read : Tally} {fault : Fault} (turn : Turn tuning fresh c t events read (.error fault)) :
      Turns tuning fresh (c :: rest) t events read (.error fault)
  | next {c : ChannelId} {rest : List ChannelId} {t u : List Transfer}
      {events later : List Event} {read more : Tally} {r : Except Fault Unit}
      (turn : Turn tuning fresh c t events read (.ok ()))
      (turns : Turns tuning fresh rest u later more r) :
      Turns tuning fresh (c :: rest) (t ++ u) (events ++ later) (read + more) r

/-- Which of the channels in `shown` are asked in a round that comes to `r`: all of them, or those
in front of one with an unknown code, or those up to one whose exchange fails. -/
inductive AskedOf (tuning : Tuning) (fresh : Snapshot) :
    List ChannelId → List ChannelId → Except Fault Unit → Prop
  | all {shown : List ChannelId} : AskedOf tuning fresh shown shown (.ok ())
  | undecoded {asked later : List ChannelId} {c : ChannelId} {h : HeldCode}
      (unknown : (fresh.vertical.get c).coded.find? (fun h => !h.known) = some h) :
      AskedOf tuning fresh (asked ++ c :: later) asked
        (.error (.unknownCode h.register h.code))
  | failed {earlier later : List ChannelId} {c : ChannelId} {t : List Transfer}
      {events : List Event} {read : Tally} {fault : Fault}
      (known : ∀ h ∈ (fresh.vertical.get c).coded, h.known = true)
      (exchange : Turn tuning fresh c t events read (.error fault)) :
      AskedOf tuning fresh (earlier ++ c :: later) (earlier ++ [c]) (.error fault)

section

variable {tuning : Tuning} {fresh fresh' : Snapshot} {c : ChannelId} {channels : List ChannelId}
  {channel : Channel} {t u : List Transfer} {events : List Event} {read : Tally}
  {r : Except Fault Unit} {availability : Except Fault Bool}

def samplesForm (tuning : Tuning) (c : ChannelId) : Bytes :=
  Link.form tuning .readSamples [1, .ofNat c.index]

private theorem Taken.writes_eq (taken : Taken tuning c channel availability t events read r) :
    writes t = [] := by
  cases taken with
  | failed | waiting => rfl
  | streamed =>
    refine List.filterMap_eq_nil_iff.mpr fun x hx => ?_
    obtain ⟨answer, -, rfl⟩ := List.mem_map.mp hx
    rfl

private theorem Turn.writes_eq (turn : Turn tuning fresh c t events read (.ok ())) :
    writes t = ([c].filter fresh.channelEnabled).map (samplesForm tuning) := by
  cases turn with
  | hidden hidden =>
    rw [List.filter_cons_of_neg (ne_true_of_eq_false hidden)]
    rfl
  | asked shown _ asked _ taken =>
    rw [List.filter_cons_of_pos shown, writes_append, taken.writes_eq, asked.writes_eq (by simp)]
    rfl

private theorem Turn.writes_of_error {fault : Fault}
    (turn : Turn tuning fresh c t events read (.error fault)) :
    fresh.channelEnabled c = true ∧
      ((∃ h, (fresh.vertical.get c).coded.find? (fun h => !h.known) = some h ∧
          fault = .unknownCode h.register h.code ∧ writes t = []) ∨
        (∀ h ∈ (fresh.vertical.get c).coded, h.known = true) ∧
          writes t = [samplesForm tuning c]) := by
  cases turn with
  | undecoded shown unknown => exact ⟨shown, .inl ⟨_, unknown, rfl, rfl⟩⟩
  | asked shown decoded asked _ taken =>
    have known := (fresh.channel_inspects c).ok_iff.mp ⟨_, decoded⟩
    refine ⟨shown, .inr ⟨known, ?_⟩⟩
    rw [writes_append, taken.writes_eq, asked.writes_eq (by simp)]
    rfl

private theorem Turn.placed (turn : Turn tuning fresh c t events read r) :
    PlacedBy fresh events := by
  cases turn with
  | hidden | undecoded => exact placedBy_nil fresh
  | asked shown decoded asked answered taken =>
    cases taken with
    | failed | waiting => exact placedBy_nil fresh
    | streamed => exact placedBy_frameEvents decoded _

private theorem Turns.placed (turns : Turns tuning fresh channels t events read r) :
    PlacedBy fresh events := by
  induction turns with
  | done => exact placedBy_nil fresh
  | stopped turn => exact turn.placed
  | next turn _ ih => exact turn.placed.append ih

private theorem AskedOf.cons {shown asked : List ChannelId} (h : AskedOf tuning fresh shown asked r)
    (front : List ChannelId) : AskedOf tuning fresh (front ++ shown) (front ++ asked) r := by
  cases h with
  | all => exact .all
  | undecoded unknown =>
    rw [← List.append_assoc]
    exact .undecoded unknown
  | failed known exchange =>
    rw [← List.append_assoc, ← List.append_assoc]
    exact .failed known exchange

private theorem AskedOf.eq_of_ok {shown asked : List ChannelId}
    (h : AskedOf tuning fresh shown asked (.ok ())) : asked = shown := by
  cases h
  rfl

private theorem Turns.asked (turns : Turns tuning fresh channels t events read r) :
    ∃ asked, writes t = asked.map (samplesForm tuning) ∧
      AskedOf tuning fresh (channels.filter fresh.channelEnabled) asked r := by
  induction turns with
  | done => exact ⟨[], rfl, .all⟩
  | @stopped c rest t events read fault turn =>
    obtain ⟨shown, ⟨h, unknown, rfl, silent⟩ | ⟨known, written⟩⟩ := turn.writes_of_error
    · rw [List.filter_cons_of_pos shown]
      exact ⟨[], silent, @AskedOf.undecoded _ _ [] _ _ _ unknown⟩
    · rw [List.filter_cons_of_pos shown]
      exact ⟨[c], written, @AskedOf.failed _ _ [] _ _ _ _ _ _ known turn⟩
  | @next c rest t u events later read more r turn turns ih =>
    obtain ⟨asked, written, rest⟩ := ih
    refine ⟨[c].filter fresh.channelEnabled ++ asked, ?_, ?_⟩
    · rw [writes_append, turn.writes_eq, written, List.map_append]
    · rw [← List.singleton_append, List.filter_append]
      exact rest.cons _

end

section

variable {σ : Type} [Transport σ] {tuning : Tuning} {c : ChannelId}

private theorem askSamples_meets (tuning : Tuning) (c : ChannelId) :
    (askSamples (σ := σ) tuning c).Meets fun t r => ∃ answer,
      Link.Asked tuning .readSamples [1, .ofNat c.index] 128 t answer ∧ Availability answer r := by
  unfold askSamples
  refine Link.request_then_meets (fun t fault asked => ⟨_, asked, .unanswered⟩) ?_
  rintro ⟨marker, command, payload⟩
  cases payload with
  | nil => exact Exchange.meets_throw ⟨rfl, fun t asked => ⟨_, asked, .empty rfl⟩⟩
  | cons status rest =>
    change Exchange.Meets (if status = 3 then pure false else if status ≠ 0 then
      throw (.frame (.subCommand 0 status)) else if rest.length + 1 < 4 then
      throw (.frame (.tooShort (rest.length + 1))) else pure true) _
    by_cases waiting : status = 3
    · rw [if_pos waiting]
      subst waiting
      exact Exchange.meets_pure ⟨rfl, fun t asked => ⟨_, asked, .waiting rfl⟩⟩
    · rw [if_neg waiting]
      by_cases unready : status ≠ 0
      · rw [if_pos unready]
        exact Exchange.meets_throw ⟨rfl, fun t asked => ⟨_, asked, .refused rfl unready waiting⟩⟩
      · rw [if_neg unready]
        obtain rfl := not_not.mp unready
        match rest with
        | [] | [x] | [x, y] =>
          exact Exchange.meets_throw ⟨rfl, fun t asked => ⟨_, asked, .cut rfl (by simp)⟩⟩
        | x :: y :: z :: rest =>
          rw [if_neg (by simp)]
          exact Exchange.meets_pure ⟨rfl, fun t asked => ⟨_, asked, .ready rfl⟩⟩

private theorem Stream.receive_takes (tuning : Tuning) (c : ChannelId) (channel : Channel)
    (line : Line σ) :
    let received := receive tuning c 0 line
    ∃ t, received.2.record = line.record ++ t ∧
      Taken tuning c channel (.ok true) t (frameEvents channel c received.1.chunks)
        (if received.1.ending.isOk then ⟨1, received.1.sampleCount⟩ else {})
        received.1.ending := by
  intro received
  obtain ⟨n, -, -, hreceived⟩ := receive_streams tuning c line
  have parts : (List.range (n + 1)).map (answerAt line.device) =
      (List.range n).map (answerAt line.device) ++ [answerAt line.device n] := by
    rw [List.range_succ, List.map_append]
    rfl
  refine ⟨((List.range (n + 1)).map (answerAt line.device)).map (.read 10007), ?_, ?_⟩
  · rw [show received = _ from hreceived, List.map_map]
    rfl
  · rw [parts, show received = _ from hreceived]
    refine .streamed ?_ rfl
    rw [List.filterMap_map]
    rfl

end

namespace Scope

variable {σ : Type}

/-- The scope with its line in another state, more events and higher counts. -/
def grown (scope : Scope σ) (line : Line σ) (events : List Event) (read : Tally) : Scope σ :=
  { scope.withLine line with
    events := scope.events ++ events
    limits := (scope.limits.countSamples read.samples).countFrames read.frames }

private theorem grown_uncounted (scope : Scope σ) (line : Line σ) (events : List Event) :
    scope.grown line events {} =
      { scope.withLine line with events := scope.events ++ events } := by
  rw [grown, Limits.count_nothing]
  rfl

theorem grown_line (scope : Scope σ) (line : Line σ) :
    scope.grown line [] {} = scope.withLine line := by
  rw [grown_uncounted, List.append_nil]
  rfl

theorem grown_self (scope : Scope σ) : scope.grown scope.bank.line [] {} = scope :=
  scope.grown_line _

theorem grown_grown (scope : Scope σ) (line line' : Line σ) (events later : List Event)
    (read more : Tally) : (scope.grown line events read).grown line' later more =
      scope.grown line' (events ++ later) (read + more) := by
  have told : scope.events ++ events ++ later = scope.events ++ (events ++ later) :=
    List.append_assoc _ _ _
  have samples : scope.limits.samplesRead + read.samples + more.samples =
      scope.limits.samplesRead + (read.samples + more.samples) := UInt64.add_assoc _ _ _
  have frames : scope.limits.framesRead + read.frames + more.frames =
      scope.limits.framesRead + (read.frames + more.frames) := UInt64.add_assoc _ _ _
  simp only [grown, withLine, Limits.countSamples, Limits.countFrames, told, samples, frames]
  rfl

private theorem grown_inj {scope : Scope σ} {line line' : Line σ} {events events' : List Event}
    {read read' : Tally} (same : scope.grown line events read = scope.grown line' events' read') :
    line = line' ∧ events = events' ∧ read = read' := by
  have told : scope.events ++ events = scope.events ++ events' := congrArg Scope.events same
  have samples : scope.limits.samplesRead + read.samples =
      scope.limits.samplesRead + read'.samples :=
    congrArg (fun s => s.limits.samplesRead) same
  have frames : scope.limits.framesRead + read.frames = scope.limits.framesRead + read'.frames :=
    congrArg (fun s => s.limits.framesRead) same
  exact ⟨congrArg (fun s => s.bank.line) same, List.append_cancel_left told,
    Tally.ext (UInt64.add_right_inj _ |>.mp frames) (UInt64.add_right_inj _ |>.mp samples)⟩

variable [Transport σ] {handle : Handle} {fresh fresh' : Snapshot} {c : ChannelId}
  {scope other : Scope σ}

private theorem readFrame_turns (handle : Handle) (fresh : Snapshot) (c : ChannelId)
    (scope : Scope σ) :
    ∃ t line events read, line.record = scope.bank.line.record ++ t ∧
      final (readFrame handle fresh c) scope = scope.grown line events read ∧
      Turn handle.tuning fresh c t events read (result (readFrame handle fresh c) scope) := by
  have course := readFrame_reads handle fresh c scope
  obtain ⟨t, record, answer, request, answered⟩ :=
    askSamples_meets handle.tuning c scope.bank.line
  generalize result (readFrame handle fresh c) scope = r at course ⊢
  generalize final (readFrame handle fresh c) scope = after at course ⊢
  cases course with
  | hidden hidden =>
    exact ⟨[], _, [], {}, (List.append_nil _).symm, scope.grown_self.symm, .hidden hidden⟩
  | undecoded shown unknown =>
    have inspects := fresh.channel_inspects c
    rw [Inspects, unknown] at inspects
    cases first : (fresh.vertical.get c).coded.find? fun h => !h.known with
    | none =>
      rw [first] at inspects
      cases inspects.choose_spec
    | some h =>
      rw [first] at inspects
      cases inspects
      exact ⟨[], _, [], {}, (List.append_nil _).symm, scope.grown_self.symm,
        .undecoded shown first⟩
  | unasked shown decoded failed =>
    rw [failed] at answered
    refine ⟨t ++ [], _, [], {}, ?_, (scope.grown_line _).symm,
      .asked shown decoded request answered .failed⟩
    rw [List.append_nil]
    exact record
  | waiting shown decoded waiting =>
    rw [waiting] at answered
    refine ⟨t ++ [], _, [], {}, ?_, (scope.grown_line _).symm,
      .asked shown decoded request answered .waiting⟩
    rw [List.append_nil]
    exact record
  | @broken channel stream line _ shown decoded ready received ending =>
    obtain ⟨u, reads, taken⟩ := Stream.receive_takes handle.tuning c channel (scope.asked handle c)
    rw [received] at reads taken
    rw [ready] at answered
    rw [ending] at taken
    refine ⟨t ++ u, line, _, {}, ?_, (scope.grown_uncounted _ _).symm,
      .asked shown decoded request answered taken⟩
    rw [reads, asked, record, List.append_assoc]
  | @whole channel stream line shown decoded ready received ending =>
    obtain ⟨u, reads, taken⟩ := Stream.receive_takes handle.tuning c channel (scope.asked handle c)
    rw [received] at reads taken
    rw [ready] at answered
    rw [ending] at taken
    refine ⟨t ++ u, line, _, _, ?_, rfl, .asked shown decoded request answered taken⟩
    rw [reads, asked, record, List.append_assoc]

def readFrames (handle : Handle) (fresh : Snapshot) : List ChannelId → Work σ Unit
  | [] => pure ()
  | c :: rest => readFrame handle fresh c >>= fun _ => readFrames handle fresh rest

private theorem readFrames_turns (handle : Handle) (fresh : Snapshot) (channels : List ChannelId)
    (scope : Scope σ) :
    ∃ t line events read, line.record = scope.bank.line.record ++ t ∧
      final (readFrames handle fresh channels) scope = scope.grown line events read ∧
      Turns handle.tuning fresh channels t events read
        (result (readFrames handle fresh channels) scope) := by
  -- Each turn starts from the scope that the turns before it have grown.
  induction channels generalizing scope with
  | nil => exact ⟨[], _, [], {}, (List.append_nil _).symm, scope.grown_self.symm, .done⟩
  | cons c rest ih =>
    obtain ⟨t, line, events, read, record, left, turn⟩ := readFrame_turns handle fresh c scope
    rw [readFrames]
    cases outcome : result (readFrame handle fresh c) scope with
    | error fault =>
      rw [outcome] at turn
      rw [result_bind_error outcome, final_bind_error outcome]
      exact ⟨t, line, events, read, record, left, .stopped turn⟩
    | ok _ =>
      rw [outcome] at turn
      rw [result_bind_ok outcome, final_bind_ok outcome, left]
      obtain ⟨u, line', later, more, record', left', turns⟩ := ih (scope.grown line events read)
      refine ⟨t ++ u, line', events ++ later, read + more, ?_, ?_, .next turn turns⟩
      · rw [record', ← List.append_assoc, ← record]
        rfl
      · rw [left', grown_grown]

private theorem readFrames_determined {Alike : Scope σ → Scope σ → Prop} (kept : KeptByFrame Alike)
    (handle : Handle) (fresh : Snapshot) (channels : List ChannelId) :
    (viewBy Alike).Determined (readFrames (σ := σ) handle fresh channels) := by
  induction channels with
  | nil => exact View.determined_pure ()
  | cons c rest ih => exact (readFrame_determined kept handle fresh c).bind fun _ => ih

/-- The scopes are `start` and `start'` with the same told and counted since then. Their lines may
differ, and so may what was told before. -/
def GrownAlike (start start' scope other : Scope σ) : Prop :=
  ∃ line line' events read, scope = start.grown line events read ∧
    other = start'.grown line' events read

omit [Transport σ] in
private theorem keptByFrame_grownAlike (start start' : Scope σ) :
    KeptByFrame (GrownAlike start start') where
  withLine := by
    rintro _ _ ⟨_, _, events, read, rfl, rfl⟩ line line'
    exact ⟨line, line', events, read, rfl, rfl⟩
  told := by
    rintro _ _ ⟨line, line', events, read, rfl, rfl⟩ later
    refine ⟨line, line', events ++ later, read, ?_, ?_⟩
    · rw [grown, grown, ← List.append_assoc]
    · rw [grown, grown, ← List.append_assoc]
  counted := by
    rintro _ _ ⟨line, line', events, read, rfl, rfl⟩ samples
    refine ⟨line, line', events, read + ⟨1, samples⟩, ?_, ?_⟩
    · simp only [grown, Limits.countSamples, Limits.countFrames, UInt64.add_assoc]
      rfl
    · simp only [grown, Limits.countSamples, Limits.countFrames, UInt64.add_assoc]
      rfl

section

variable {channels : List ChannelId} {line : Line σ} {t : List Transfer} {events : List Event}
  {read : Tally}

private theorem does_readFrames (other : Scope σ)
    (record : line.record = scope.bank.line.record ++ t)
    (left : final (readFrames handle fresh channels) scope = scope.grown line events read) :
    (viewBy (GrownAlike scope other)).Does (readFrames handle fresh channels) scope t := by
  obtain ⟨u, does⟩ :=
    readFrames_determined (keptByFrame_grownAlike scope other) handle fresh channels scope
  have done : line.record = scope.bank.line.record ++ u := by
    have record := does.record_eq
    rw [left] at record
    exact record
  obtain rfl : u = t := List.append_cancel_left (done.symm.trans record)
  exact does

private theorem replays_of_readFrames (record : line.record = scope.bank.line.record ++ t)
    (left : final (readFrames handle fresh channels) scope = scope.grown line events read) :
    Replays scope.bank.line.device t := by
  have replays := (does_readFrames scope record left).replays [] trivial
  rw [List.append_nil] at replays
  exact replays

private theorem readFrames_replayed (record : line.record = scope.bank.line.record ++ t)
    (left : final (readFrames handle fresh channels) scope = scope.grown line events read)
    (replayed : Replays other.bank.line.device t) :
    ∃ line', final (readFrames handle fresh channels) other = other.grown line' events read ∧
      line'.record = other.bank.line.record ++ t ∧
      result (readFrames handle fresh channels) other =
        result (readFrames handle fresh channels) scope := by
  have alike : GrownAlike scope other scope other :=
    ⟨_, _, [], {}, scope.grown_self.symm, other.grown_self.symm⟩
  have again : Replays other.bank.line.device (t ++ []) := by
    rw [List.append_nil]
    exact replayed
  obtain ⟨ends, ⟨_, line', _, _, here, there⟩, record', -⟩ :=
    (does_readFrames other record left).follows other [] alike again
  obtain ⟨-, rfl, rfl⟩ := grown_inj (left.symm.trans here)
  refine ⟨line', there, ?_, ends⟩
  have record' : (final (readFrames handle fresh channels) other).bank.line.record =
    other.bank.line.record ++ t := record'
  rw [there] at record'
  exact record'

end

end Scope

/-- Snapshots that samples are taken from alike: each channel has the same registers, or is shown in
neither. -/
def Snapshot.SampledAs (fresh fresh' : Snapshot) : Prop :=
  ∀ c, fresh'.vertical.get c = fresh.vertical.get c ∨
    (fresh.channelEnabled c = false ∧ fresh'.channelEnabled c = false)

namespace Scope

variable {σ : Type} [Transport σ] {handle : Handle} {fresh fresh' : Snapshot}
  {scope other : Scope σ}

private theorem readFrame_congr (handle : Handle) (same : fresh.SampledAs fresh') (c : ChannelId) :
    readFrame (σ := σ) handle fresh' c = readFrame handle fresh c := by
  obtain registers | ⟨hidden, hidden'⟩ := same c
  · have shown : fresh'.channelEnabled c = fresh.channelEnabled c := by
      rw [Snapshot.channelEnabled, registers]
      rfl
    have channel : fresh'.channel c = fresh.channel c := by
      rw [Snapshot.channel, registers]
      rfl
    rw [readFrame, readFrame, shown, channel]
  · rw [readFrame, readFrame, hidden, hidden']
    rfl

private theorem readFrames_congr (handle : Handle) (same : fresh.SampledAs fresh')
    (channels : List ChannelId) :
    readFrames (σ := σ) handle fresh' channels = readFrames handle fresh channels := by
  induction channels with
  | nil => rfl
  | cons c rest ih => rw [readFrames, readFrames, readFrame_congr handle same, ih]

def changeEvents (scope : Scope σ) (fresh : Snapshot) : List Event :=
  match scope.baseline with
  | none => []
  | some baseline => (Report.of baseline fresh).events

/-- The scope of a round that comes to its frames: what it has fetched is told and published. -/
def prepared (handle : Handle) (fresh : Snapshot) (scope : Scope σ) : Scope σ :=
  (final (tellChange fresh) (scope.fetched handle)).publishing fresh

private theorem tellChange_of_tellable (handle : Handle) (told : scope.tellable fresh = true) :
    result (tellChange fresh) (scope.fetched handle) = .ok () ∧
      (scope.prepared handle fresh).bank.line = (scope.fetched handle).bank.line ∧
      (scope.prepared handle fresh).events = scope.events ++ scope.changeEvents fresh ∧
      (scope.prepared handle fresh).limits = scope.limits := by
  have change := tellChange_tells fresh (scope.fetched handle)
  have succeeds : (result (tellChange fresh) (scope.fetched handle)).isOk = true :=
    change.tellable.symm.trans told
  rw [prepared, changeEvents]
  generalize result (tellChange fresh) (scope.fetched handle) = r at change succeeds ⊢
  generalize final (tellChange fresh) (scope.fetched handle) = after at change ⊢
  cases change with
  | begun empty =>
    have empty : scope.baseline = none := empty
    rw [empty]
    exact ⟨rfl, rfl, (List.append_nil _).symm, rfl⟩
  | @reported baseline kept =>
    have kept : scope.baseline = some baseline := kept
    rw [kept]
    refine ⟨?_, rfl, rfl, rfl⟩
    cases outcome : (Report.of baseline fresh).told with
    | ok => rfl
    | error fault =>
      rw [outcome] at succeeds
      cases succeeds

private theorem sweep_of_fetch (fetch : result (Bank.fetch handle.tuning) scope.bank = .ok fresh) :
    let frames : Work σ Unit := do
      tellChange fresh
      onBank (Bank.publish fresh)
      readFrames handle fresh ChannelId.all
    result (sweep handle) scope = result frames (scope.fetched handle) ∧
      final (sweep handle) scope = final frames (scope.fetched handle) := by
  intro frames
  have fetches : result (onBank (Bank.fetch handle.tuning)) scope = .ok fresh := by
    rw [result_onBank, fetch]
  have left : final (onBank (Bank.fetch handle.tuning)) scope = scope.fetched handle :=
    final_onBank _ _
  have both : readFrames (σ := σ) handle fresh ChannelId.all =
      readFrame handle fresh .ch1 >>= fun _ => readFrame handle fresh .ch2 := by
    show (readFrame handle fresh .ch1 >>= fun _ =>
      readFrame handle fresh .ch2 >>= fun _ => pure ()) = _
    simp only [bind_pure_unit]
  show _ = result (tellChange fresh >>= fun _ => _ >>= fun _ => _) _ ∧
    _ = final (tellChange fresh >>= fun _ => _ >>= fun _ => _) _
  unfold sweep
  rw [result_bind_ok fetches, final_bind_ok fetches, left, both]
  exact ⟨rfl, rfl⟩

theorem sweep_of_untold {fault : Fault}
    (fetch : result (Bank.fetch handle.tuning) scope.bank = .ok fresh)
    (untold : result (tellChange fresh) (scope.fetched handle) = .error fault) :
    result (sweep handle) scope = .error fault ∧
      final (sweep handle) scope = final (tellChange fresh) (scope.fetched handle) := by
  obtain ⟨hresult, hfinal⟩ := sweep_of_fetch fetch
  exact ⟨hresult.trans (result_bind_error untold _), hfinal.trans (final_bind_error untold _)⟩

theorem sweep_of_told (fetch : result (Bank.fetch handle.tuning) scope.bank = .ok fresh)
    (told : result (tellChange fresh) (scope.fetched handle) = .ok ()) :
    let frames := readFrames (σ := σ) handle fresh ChannelId.all
    result (sweep handle) scope = result frames (scope.prepared handle fresh) ∧
      final (sweep handle) scope = final frames (scope.prepared handle fresh) := by
  intro frames
  obtain ⟨hresult, hfinal⟩ := sweep_of_fetch fetch
  have publishes : result (onBank (Bank.publish fresh))
      (final (tellChange fresh) (scope.fetched handle)) = .ok () := by
    rw [result_onBank]
    rfl
  have published : final (onBank (Bank.publish fresh))
      (final (tellChange fresh) (scope.fetched handle)) = scope.prepared handle fresh := by
    rw [final_onBank]
    rfl
  rw [result_bind_ok told, result_bind_ok publishes, published] at hresult
  rw [final_bind_ok told, final_bind_ok publishes, published] at hfinal
  exact ⟨hresult, hfinal⟩

/-- What a tick does and comes to, once it has told the change to the snapshot it has fetched: `t`
is done on the line, `events` and `read` are told and counted, and `r` is how the frames end. -/
structure Sampled (handle : Handle) (scope : Scope σ) (fresh : Snapshot) (t : List Transfer)
    (events : List Event) (read : Tally) (r : Except Fault Unit) : Prop where
  record_eq : (final (tick handle) scope).bank.line.record =
    (scope.fetched handle).bank.line.record ++ t
  result_eq : result (tick handle) scope = r.map fun _ => (final (tick handle) scope).phase
  events_eq : (final (tick handle) scope).events =
    scope.events ++ scope.changeEvents fresh ++ events ++ (if r.isOk then [] else [.ended])
  limits_eq : (final (tick handle) scope).limits =
    (scope.limits.countSamples read.samples).countFrames read.frames

private theorem sampled_of_frames (capturing : scope.phase = .capturing)
    (fetch : result (Bank.fetch handle.tuning) scope.bank = .ok fresh)
    (told : scope.tellable fresh = true) {line : Line σ} {t : List Transfer}
    {events : List Event} {read : Tally}
    (record : line.record = (scope.prepared handle fresh).bank.line.record ++ t)
    (left : final (readFrames handle fresh ChannelId.all) (scope.prepared handle fresh) =
      (scope.prepared handle fresh).grown line events read) :
    Sampled handle scope fresh t events read
      (result (readFrames handle fresh ChannelId.all) (scope.prepared handle fresh)) := by
  obtain ⟨tells, lines, events_eq, limits⟩ := tellChange_of_tellable handle told
  obtain ⟨hresult, hfinal⟩ := sweep_of_told fetch tells
  rw [lines] at record
  rw [left] at hfinal
  cases outcome : result (readFrames handle fresh ChannelId.all) (scope.prepared handle fresh) with
  | error fault =>
    obtain ⟨fails, ends⟩ := tick_of_failed capturing (hresult.trans outcome)
    rw [hfinal] at ends
    refine ⟨?_, fails, ?_, ?_⟩
    · rw [ends]
      exact record
    · rw [ends, ← events_eq]
      rfl
    · rw [ends, ← limits]
      rfl
  | ok _ =>
    obtain ⟨succeeds, ends⟩ := tick_of_swept capturing (hresult.trans outcome)
    rw [← ends] at succeeds
    rw [hfinal, checked_eq] at ends
    refine ⟨?_, succeeds, ?_, ?_⟩
    · rw [ends]
      exact record
    · rw [ends, ← events_eq]
      exact (List.append_nil _).symm
    · rw [ends, ← limits]
      rfl

private theorem phase_of_tick (capturing : scope.phase = .capturing)
    (done : (result (tick handle) scope).isOk = true) : (final (tick handle) scope).phase =
      if (final (tick handle) scope).spent then .stopping else .capturing := by
  have course := tick_ticks handle scope
  generalize result (tick handle) scope = r at course done
  generalize final (tick handle) scope = after at course ⊢
  cases course with
  | idle phase | ended phase => cases capturing.symm.trans phase
  | failed => cases done
  | continued _ round => exact round.phase_of_ok capturing

theorem tick_congr {r : Except Fault Unit} (capturing : scope.phase = .capturing)
    (capturing' : other.phase = .capturing)
    (here : result (tick handle) scope = r.map fun _ => (final (tick handle) scope).phase)
    (there : result (tick handle) other = r.map fun _ => (final (tick handle) other).phase)
    (limits : (final (tick handle) other).limits.untimed =
      (final (tick handle) scope).limits.untimed)
    (clock : scope.TimedAlike handle other) :
    result (tick handle) other = result (tick handle) scope ∧
      (final (tick handle) other).phase = (final (tick handle) scope).phase := by
  cases r with
  | error fault =>
    refine ⟨there.trans here.symm, ?_⟩
    rw [idle_of_tick_failed here, idle_of_tick_failed there]
  | ok _ =>
    have done : (result (tick handle) scope).isOk = true := by
      rw [here]
      rfl
    have done' : (result (tick handle) other).isOk = true := by
      rw [there]
      rfl
    have phase : (final (tick handle) other).phase = (final (tick handle) scope).phase := by
      rw [phase_of_tick capturing done, phase_of_tick capturing' done',
        spent_congr limits (clock done)]
    refine ⟨?_, phase⟩
    rw [here, there, phase]

private theorem Sampled.result_congr {t : List Transfer} {events : List Event} {read : Tally}
    {r : Except Fault Unit} (here : Sampled handle scope fresh t events read r)
    (there : Sampled handle other fresh' t events read r) (alike : scope.Agrees other)
    (capturing : scope.phase = .capturing) (clock : scope.TimedAlike handle other) :
    result (tick handle) other = result (tick handle) scope := by
  have limits := congrArg (fun l : Limits =>
    (l.countSamples read.samples).countFrames read.frames) alike.limits
  refine (tick_congr capturing (alike.phase.trans capturing) here.result_eq there.result_eq ?_
    clock).1
  rw [here.limits_eq, there.limits_eq]
  exact limits

/-- In a tick whose fetch and change report succeed each channel has its turn. Those that are shown
in the snapshot just fetched are asked for samples, in their order, up to one that has an unknown
code, which is not asked, or whose exchange fails. Nothing else is submitted after the fetch.
Another instrument may yield a snapshot that differs from this one, but for the channels that are
shown. If it answers the rest of the tick alike, then the same is done, told and counted after the
change report, and it ends alike unless a limit of time is reached on one clock only. Channels at no
volts a division are asked like any other. -/
theorem tick_asks_shown_channels (handle : Handle) (capturing : scope.phase = .capturing)
    (fetch : result (Bank.fetch handle.tuning) scope.bank = .ok fresh)
    (told : scope.tellable fresh = true) :
    ∃ t events read r asked, Turns handle.tuning fresh ChannelId.all t events read r ∧
      Sampled handle scope fresh t events read r ∧ PlacedBy fresh events ∧
      Replays (scope.fetched handle).bank.line.device t ∧
      writes t = asked.map (samplesForm handle.tuning) ∧
      AskedOf handle.tuning fresh (ChannelId.all.filter fresh.channelEnabled) asked r ∧
      ∀ (other : Scope σ) (fresh' : Snapshot), scope.Agrees other →
        result (Bank.fetch handle.tuning) other.bank = .ok fresh' →
        other.tellable fresh' = true → fresh.SampledAs fresh' →
        Replays (other.fetched handle).bank.line.device t →
        Sampled handle other fresh' t events read r ∧
          (scope.TimedAlike handle other →
            result (tick handle) other = result (tick handle) scope) := by
  obtain ⟨t, line, events, read, record, left, turns⟩ :=
    readFrames_turns handle fresh ChannelId.all (scope.prepared handle fresh)
  obtain ⟨asked, submitted, askedOf⟩ := turns.asked
  have here := sampled_of_frames capturing fetch told record left
  have answered := replays_of_readFrames record left
  rw [(tellChange_of_tellable handle told).2.1] at answered
  refine ⟨t, events, read, _, asked, turns, here, turns.placed, answered, submitted, askedOf, ?_⟩
  intro other fresh' alike fetch' told' same replayed
  have ready : Replays (other.prepared handle fresh').bank.line.device t := by
    rw [(tellChange_of_tellable handle told').2.1]
    exact replayed
  obtain ⟨line', left', record', ends⟩ := readFrames_replayed record left ready
  have frames := readFrames_congr (σ := σ) handle same ChannelId.all
  rw [← frames] at left'
  have there := sampled_of_frames (alike.phase.trans capturing) fetch' told' record' left'
  rw [frames, ends] at there
  exact ⟨there, here.result_congr there alike capturing⟩

/- The first channel is shown alone, and has no samples. The second one has a coupling that is known
   or, if it is 9, is not. -/

namespace FirstShown

def host : Handle :=
  ⟨{}, none⟩

def shown (coupling : UInt8) : Snapshot :=
  (Snapshot.zero.setVertical .ch1 fun r => { r with shown := 1 }).setVertical .ch2
    fun r => { r with coupling }

def asking : List Transfer :=
  Link.answering host.tuning .readSamples [1, 0] 128 [3]

def answers (coupling : UInt8) : List Transfer :=
  Bank.sending host.tuning (shown coupling) ++ asking

def opened (millis : UInt64) (pace : Nat) (coupling : UInt8) : Scope Script :=
  Call.run host [.setValue (.device (.limit .time)) none (.natural millis), .start]
    (Scope.ofLine { device := { reads := (answers coupling).filterMap Transfer.received?, pace } })

variable (millis : UInt64) (pace : Nat) (coupling : UInt8)

private theorem replays_opened :
    Replays (opened millis pace coupling).bank.line.device (answers coupling) := by
  refine Script.replays_received fun x hx => ?_
  obtain fetched | asked := List.mem_append.mp hx
  · exact Bank.scripted_of_mem_sending host.tuning _ x fetched
  · have scripted : ∀ x ∈ asking, x.scripted = true := by decide +kernel
    exact scripted x asked

private theorem fetch_opened : result (Bank.fetch host.tuning) (opened millis pace coupling).bank =
    .ok (shown coupling) :=
  (Bank.fetch_of_yielded (Bank.yielded_sending host.tuning _)
    (replays_append.mp (replays_opened millis pace coupling)).1).1

private theorem device_fetched : ((opened millis pace coupling).fetched host).bank.line.device =
    { reads := asking.filterMap Transfer.received?, clock := 6 * pace, pace } := by
  obtain ⟨first, -⟩ := replays_append.mp (replays_opened millis pace coupling)
  rw [fetched, (Bank.fetch_of_yielded (Bank.yielded_sending host.tuning _) first).2]
  have clock : 0 + pace + pace + pace + pace + pace + pace = 6 * pace := by omega
  exact congrArg (fun clock =>
    ({ reads := asking.filterMap Transfer.received?, clock, pace } : Script)) clock

private theorem opened_state : (opened millis pace coupling).phase = .capturing ∧
    (opened millis pace coupling).baseline = none ∧
    (opened millis pace coupling).events = [.header] ∧
    (opened millis pace coupling).ticker = some host.tuning.pollInterval ∧
    (opened millis pace coupling).limits = { millis, startedAt := some 0 } :=
  ⟨rfl, rfl, rfl, rfl, rfl⟩

private theorem opened_agrees (pace' : Nat) (coupling' : UInt8) :
    (opened millis pace coupling).Agrees (opened millis pace' coupling') := by
  obtain ⟨phase, baseline, events, ticker, limits⟩ := opened_state millis pace coupling
  obtain ⟨phase', baseline', events', ticker', limits'⟩ := opened_state millis pace' coupling'
  exact ⟨phase'.trans phase.symm, baseline'.trans baseline.symm, events'.trans events.symm,
    ticker'.trans ticker.symm, congrArg Limits.untimed (limits'.trans limits.symm)⟩

private theorem sampledAs_shown (coupling' : UInt8) :
    (shown coupling).SampledAs (shown coupling') := by
  intro c
  cases c with
  | ch1 => exact .inl rfl
  | ch2 => exact .inr ⟨rfl, rfl⟩

end FirstShown

open FirstShown in
theorem tick_asks_shown_channels_of_first :
    ∃ t, writes t = [samplesForm host.tuning .ch1] ∧ ∀ coupling ∈ [0, 9],
      let scope := opened 0 0 coupling
      (final (tick host) scope).bank.line.record = (scope.fetched host).bank.line.record ++ t ∧
        result (tick host) scope = .ok .capturing := by
  have asked : ChannelId.all.filter (shown 0).channelEnabled = [.ch1] := by decide +kernel
  have done : (result (tick host) (opened 0 0 0)).toOption = some .capturing := by
    decide +kernel
  obtain ⟨t, events, read, r, _, -, here, -, answered, submitted, askedOf, others⟩ :=
    tick_asks_shown_channels host (rfl : (opened 0 0 0).phase = .capturing)
      (fetch_opened 0 0 0) rfl
  have rest : ((opened 0 0 9).fetched host).bank.line.device =
      ((opened 0 0 0).fetched host).bank.line.device :=
    (device_fetched 0 0 9).trans (device_fetched 0 0 0).symm
  rw [← rest] at answered
  obtain ⟨there, ends⟩ := others (opened 0 0 9) (shown 9) (opened_agrees 0 0 0 0 9)
    (fetch_opened 0 0 9) rfl (sampledAs_shown 0 9) answered
  have ends := ends fun _ => (overdue_of_untimed (by decide +kernel)).trans
    (overdue_of_untimed (by decide +kernel)).symm
  rw [asked] at askedOf
  cases r with
  | error fault =>
    rw [here.result_eq] at done
    cases done
  | ok _ =>
    obtain rfl := askedOf.eq_of_ok
    have done : result (tick host) (opened 0 0 0) = .ok .capturing := by
      rw [here.result_eq] at done ⊢
      exact congrArg Except.ok (Option.some.inj done)
    refine ⟨t, submitted, fun coupling hc => ?_⟩
    obtain rfl | rfl : coupling = 0 ∨ coupling = 9 := by simpa using hc
    · exact ⟨here.record_eq, done⟩
    · exact ⟨there.record_eq, ends.trans done⟩

open FirstShown in
/-- A limit of time minds how long answers take. The tick with eight transfers of a millisecond each
is done before 10 milliseconds are over, and the one with transfers of two is not. -/
theorem tick_of_slower_answers_overdue :
    let here := opened 10 1 0
    let there := opened 10 2 9
    here.phase = .capturing ∧ here.Agrees there ∧
      result (Bank.fetch host.tuning) here.bank = .ok (shown 0) ∧
      here.tellable (shown 0) = true ∧
      result (Bank.fetch host.tuning) there.bank = .ok (shown 9) ∧
      there.tellable (shown 9) = true ∧ (shown 0).SampledAs (shown 9) ∧
      (final (tick host) here).bank.line.record =
        (here.fetched host).bank.line.record ++ asking ∧
      Replays (there.fetched host).bank.line.device asking ∧
      (result (tick host) here).toOption = some .capturing ∧
      (result (tick host) there).toOption = some .stopping := by
  intro here there
  refine ⟨rfl, opened_agrees 10 1 0 2 9, fetch_opened 10 1 0, rfl, fetch_opened 10 2 9, rfl,
    sampledAs_shown 0 9, ?_, ?_, ?_, ?_⟩
  · decide +kernel
  · rw [device_fetched 10 2 9]
    decide +kernel
  · decide +kernel
  · decide +kernel

end Scope

end Oscilloscope
