/- Frames that are cut differently. Into how many chunks an instrument cuts the samples of a
   frame, how it numbers them, how many come damaged and what length it declares make no
   difference: a tick comes to the same, and the samples that it tells are the same, one for each
   byte. -/

import Oscilloscope.Proofs.Scope.Polling
import Oscilloscope.Proofs.Scope.Rounds

set_option autoImplicit false
set_option relaxedAutoImplicit false

namespace Oscilloscope

def Transfer.samples? (tuning : Tuning) : Transfer → Option Bytes
  | .read room answer =>
    if room = 10007 then (Arrival.ofAnswer tuning answer).samples? else none
  | _ => none

def sentSamples (tuning : Tuning) (t : List Transfer) : Bytes :=
  (t.filterMap (Transfer.samples? tuning)).flatten

/-- Transfers in which each of some channels gives its frame, with the samples `samples` in it. -/
inductive FramesSent (tuning : Tuning) (s : Snapshot) (samples : ChannelId → Bytes) :
    List ChannelId → List Transfer → Prop
  | nil : FramesSent tuning s samples [] []
  | cons {c : ChannelId} {rest : List ChannelId} {t u : List Transfer}
      (given : FrameGiven tuning s c t) (sent : sentSamples tuning t = samples c)
      (frames : FramesSent tuning s samples rest u) :
      FramesSent tuning s samples (c :: rest) (t ++ u)

/-- Transfers of a tick: a snapshot, whatever is in it, and the frames of the channels it shows. -/
inductive TickSent (tuning : Tuning) (s : Snapshot) (samples : ChannelId → Bytes) :
    List Transfer → Prop
  | whole {payload : Bytes} {fetch frames : List Transfer}
      (yielded : Bank.Yielded tuning s payload fetch)
      (sent : FramesSent tuning s samples ChannelId.all frames) :
      TickSent tuning s samples (fetch ++ frames)

def Event.volts (c : ChannelId) : Event → List Float32
  | .data packet => if packet.channel = c then packet.samples else []
  | _ => []

/-- All samples of a channel in some events, one packet after the other. -/
def voltsOf (c : ChannelId) (events : List Event) : List Float32 :=
  events.flatMap (Event.volts c)

def Event.isData : Event → Bool
  | .data _ => true
  | _ => false

/-- Events that differ at most in how samples are cut into packets. -/
structure SameTold (events events' : List Event) : Prop where
  volts : ∀ c, voltsOf c events' = voltsOf c events
  others : events'.filter (fun e => !e.isData) = events.filter fun e => !e.isData

/-- What is told and counted when some channels give the frames with the samples `samples`, however
they are cut. It ends at the first channel that is shown with an unknown code. -/
inductive FramesTold (s : Snapshot) (samples : ChannelId → Bytes) :
    List ChannelId → List Event → Tally → Except Fault Unit → Prop
  | done : FramesTold s samples [] [] {} (.ok ())
  | hidden {c : ChannelId} {rest : List ChannelId} {events : List Event} {read : Tally}
      {r : Except Fault Unit} (hidden : s.channelEnabled c = false) (none : samples c = [])
      (later : FramesTold s samples rest events read r) :
      FramesTold s samples (c :: rest) events read r
  | undecoded {c : ChannelId} {rest : List ChannelId} {fault : Fault}
      (shown : s.channelEnabled c = true) (unknown : s.channel c = .error fault) :
      FramesTold s samples (c :: rest) [] {} (.error fault)
  | frame {c : ChannelId} {rest : List ChannelId} {channel : Channel} {chunks : List Bytes}
      {events : List Event} {read : Tally} {r : Except Fault Unit}
      (shown : s.channelEnabled c = true) (decoded : s.channel c = .ok channel)
      (cut : chunks.flatten = samples c) (later : FramesTold s samples rest events read r) :
      FramesTold s samples (c :: rest) (frameEvents channel c chunks ++ events)
        (⟨1, .ofNat (samples c).length⟩ + read) r

section

variable {tuning : Tuning} {s : Snapshot} {samples : ChannelId → Bytes} {c : ChannelId}
  {channels : List ChannelId} {events events' later later' : List Event} {read read' : Tally}
  {r r' : Except Fault Unit}

private theorem voltsOf_append (c : ChannelId) (events later : List Event) :
    voltsOf c (events ++ later) = voltsOf c events ++ voltsOf c later :=
  List.flatMap_append

private theorem Channel.decodeChunk_flatten (channel : Channel) (chunks : List Bytes) :
    channel.decodeChunk chunks.flatten = chunks.flatMap channel.decodeChunk := by
  show List.map _ _ = List.flatMap _ _
  rw [List.map_flatten, List.flatMap_def]
  rfl

private theorem Channel.length_decodeChunk (channel : Channel) (bytes : Bytes) :
    (channel.decodeChunk bytes).length = bytes.length :=
  List.length_map _

private theorem voltsOf_frameEvents (channel : Channel) (c other : ChannelId)
    (chunks : List Bytes) :
    voltsOf other (frameEvents channel c chunks) =
      if c = other then channel.decodeChunk chunks.flatten else [] := by
  have packets : voltsOf other (chunks.map fun bytes =>
      .data ⟨c, channel.decodeChunk bytes, channel.digits⟩) =
        chunks.flatMap fun bytes => if c = other then channel.decodeChunk bytes else [] := by
    rw [voltsOf, List.flatMap_map]
    rfl
  have frame : voltsOf other (frameEvents channel c chunks) =
      chunks.flatMap fun bytes => if c = other then channel.decodeChunk bytes else [] := by
    rw [frameEvents, List.cons_append]
    show [] ++ voltsOf other (_ ++ _) = _
    rw [voltsOf_append, packets, List.nil_append]
    exact List.append_nil _
  rw [frame]
  split
  · exact (channel.decodeChunk_flatten chunks).symm
  · exact List.flatMap_eq_nil_iff.mpr fun _ _ => rfl

private theorem filter_frameEvents (channel : Channel) (c : ChannelId) (chunks : List Bytes) :
    (frameEvents channel c chunks).filter (fun e => !e.isData) = [.frameBegin, .frameEnd] := by
  have packets : (chunks.map fun bytes =>
      Event.data ⟨c, channel.decodeChunk bytes, channel.digits⟩).filter
        (fun e => !e.isData) = [] := by
    simp [Event.isData]
  rw [frameEvents, List.cons_append, List.filter_cons_of_pos rfl, List.filter_append, packets]
  rfl

theorem SameTold.refl (events : List Event) : SameTold events events :=
  ⟨fun _ => rfl, rfl⟩

private theorem SameTold.append (first : SameTold events events') (second : SameTold later later') :
    SameTold (events ++ later) (events' ++ later') where
  volts c := by rw [voltsOf_append, voltsOf_append, first.volts, second.volts]
  others := by rw [List.filter_append, List.filter_append, first.others, second.others]

private theorem sameTold_frameEvents (channel : Channel) (c : ChannelId)
    {chunks chunks' : List Bytes}
    (same : chunks'.flatten = chunks.flatten) :
    SameTold (frameEvents channel c chunks) (frameEvents channel c chunks') where
  volts other := by rw [voltsOf_frameEvents, voltsOf_frameEvents, same]
  others := by rw [filter_frameEvents, filter_frameEvents]

private theorem FramesTold.same (here : FramesTold s samples channels events read r)
    (there : FramesTold s samples channels events' read' r') :
    r' = r ∧ read' = read ∧ SameTold events events' := by
  -- Channel by channel; only the way the chunks are cut may be different.
  induction here generalizing events' read' r' with
  | done =>
    cases there
    exact ⟨rfl, rfl, .refl _⟩
  | hidden hidden none later ih =>
    cases there with
    | hidden _ _ later' => exact ih later'
    | undecoded shown | frame shown => cases hidden.symm.trans shown
  | undecoded shown unknown =>
    cases there with
    | hidden hidden => cases hidden.symm.trans shown
    | undecoded _ unknown' =>
      cases unknown.symm.trans unknown'
      exact ⟨rfl, rfl, .refl _⟩
    | frame _ decoded => cases unknown.symm.trans decoded
  | @frame c rest channel chunks events read r shown decoded cut later ih =>
    cases there with
    | hidden hidden => cases hidden.symm.trans shown
    | undecoded _ unknown => cases unknown.symm.trans decoded
    | @frame _ _ _ chunks' events' read' _ _ decoded' cut' later' =>
      cases decoded.symm.trans decoded'
      obtain ⟨rfl, rfl, same⟩ := ih later'
      have frames := sameTold_frameEvents channel c (cut'.trans cut.symm)
      exact ⟨rfl, rfl, frames.append same⟩

private theorem FramesTold.volts_of_not_mem (told : FramesTold s samples channels events read r)
    (absent : c ∉ channels) : voltsOf c events = [] := by
  induction told with
  | done | undecoded => rfl
  | hidden _ _ _ ih => exact ih fun hc => absent (List.mem_cons_of_mem _ hc)
  | @frame d rest channel chunks events read r _ _ _ _ ih =>
    obtain ⟨other, absent⟩ := List.ne_and_not_mem_of_not_mem_cons absent
    rw [voltsOf_append, voltsOf_frameEvents, if_neg (Ne.symm other), ih absent]
    rfl

private theorem FramesTold.placed (told : FramesTold s samples channels events read r) :
    PlacedBy s events := by
  induction told with
  | done | undecoded => exact placedBy_nil s
  | hidden _ _ _ ih => exact ih
  | frame _ decoded _ _ ih => exact (placedBy_frameEvents decoded _).append ih

private theorem FramesTold.volts (told : FramesTold s samples channels events read r)
    (distinct : channels.Nodup) (hc : c ∈ channels) :
    (voltsOf c events = [] ∧ (r = .ok () → samples c = [])) ∨
      ∃ channel, s.channel c = .ok channel ∧
        voltsOf c events = channel.decodeChunk (samples c) := by
  induction told with
  | done => cases hc
  | @hidden d rest events read r hidden none later ih =>
    obtain ⟨absent, distinct⟩ := List.nodup_cons.mp distinct
    obtain rfl | hc := List.mem_cons.mp hc
    · exact .inl ⟨later.volts_of_not_mem absent, fun _ => none⟩
    · exact ih distinct hc
  | undecoded => exact .inl ⟨rfl, nofun⟩
  | @frame d rest channel chunks events read r shown decoded cut later ih =>
    obtain ⟨absent, distinct⟩ := List.nodup_cons.mp distinct
    rw [voltsOf_append, voltsOf_frameEvents]
    obtain rfl | hc := List.mem_cons.mp hc
    · rw [if_pos rfl, later.volts_of_not_mem absent, List.append_nil, cut]
      exact .inr ⟨channel, decoded, rfl⟩
    · have other : d ≠ c := by
        rintro rfl
        exact absent hc
      rw [if_neg other]
      exact ih distinct hc

private theorem sentSamples_append (tuning : Tuning) (t u : List Transfer) :
    sentSamples tuning (t ++ u) = sentSamples tuning t ++ sentSamples tuning u := by
  rw [sentSamples, List.filterMap_append, List.flatten_append]
  rfl

private theorem Link.Asked.sentSamples_eq {arguments : Bytes} {t : List Transfer}
    {answer : Except Fault Frame}
    (asked : Link.Asked tuning .readSamples arguments 128 t answer) :
    sentSamples tuning t = [] := by
  cases asked with
  | oversized | unsent | cutShort => rfl
  | sent _ reply => cases reply <;> rfl

private theorem sentSamples_stream {chunks : List (Except Failure Bytes)}
    {last : Except Failure Bytes}
    (ends : Arrival.ofAnswer tuning last = .last) :
    sentSamples tuning ((chunks ++ [last]).map (.read 10007)) =
      (chunks.filterMap fun chunk => (Arrival.ofAnswer tuning chunk).samples?).flatten := by
  have each (answer : Except Failure Bytes) : Transfer.samples? tuning (.read 10007 answer) =
      (Arrival.ofAnswer tuning answer).samples? := by
    rw [Transfer.samples?, if_pos rfl]
  have none : (Arrival.ofAnswer tuning last).samples? = Option.none := by
    rw [ends]
    rfl
  rw [sentSamples, List.filterMap_map, List.filterMap_append]
  simp [each, none]

end

namespace Scope

variable {σ : Type} [Transport σ] {handle : Handle} {s : Snapshot} {samples : ChannelId → Bytes}
  {scope : Scope σ} {c : ChannelId} {t : List Transfer}

private theorem readFrame_of_hidden (handle : Handle) (hidden : s.channelEnabled c = false)
    (scope : Scope σ) : result (readFrame handle s c) scope = .ok () ∧
      final (readFrame handle s c) scope = scope := by
  rw [readFrame, hidden]
  exact ⟨rfl, rfl⟩

private theorem readFrame_of_undecoded {fault : Fault} (handle : Handle)
    (shown : s.channelEnabled c = true) (unknown : s.channel c = .error fault) (scope : Scope σ) :
    result (readFrame handle s c) scope = .error fault ∧
      final (readFrame handle s c) scope = scope := by
  rw [readFrame, shown, unknown]
  exact ⟨rfl, rfl⟩

private theorem readFrame_of_given {channel : Channel} (shown : s.channelEnabled c = true)
    (decoded : s.channel c = .ok channel) (given : FrameGiven handle.tuning s c t)
    (replayed : Replays scope.bank.line.device t) :
    ∃ chunks : List Bytes, chunks.flatten = sentSamples handle.tuning t ∧
      result (readFrame handle s c) scope = .ok () ∧
      final (readFrame handle s c) scope = scope.grown (scope.bank.line.did t)
        (frameEvents channel c chunks) ⟨1, .ofNat (sentSamples handle.tuning t).length⟩ := by
  cases given with
  | hidden hidden => cases hidden.symm.trans shown
  | @whole asking f x y z rest chunks last _ request ready goesOn few ends =>
    obtain ⟨hready, received⟩ := received_of_given request ready goesOn few ends replayed
    obtain ⟨ending, left⟩ :=
      (readFrame_reads handle s c scope).of_ready shown decoded hready received
    have sent : sentSamples handle.tuning (asking ++ (chunks ++ [last]).map (.read 10007)) =
        (chunks.filterMap fun chunk =>
          (Arrival.ofAnswer handle.tuning chunk).samples?).flatten := by
      rw [sentSamples_append, request.sentSamples_eq, sentSamples_stream ends]
      rfl
    refine ⟨_, sent.symm, ending, ?_⟩
    rw [left, sent]
    rfl

private theorem readFrames_of_sent {channels : List ChannelId}
    (sent : FramesSent handle.tuning s samples channels t)
    (replayed : Replays scope.bank.line.device t) :
    ∃ line events read,
      final (readFrames handle s channels) scope = scope.grown line events read ∧
      FramesTold s samples channels events read (result (readFrames handle s channels) scope) := by
  induction sent generalizing scope with
  | nil => exact ⟨_, [], {}, scope.grown_self.symm, .done⟩
  | @cons c rest t u given sent frames ih =>
    obtain ⟨first, later⟩ := replays_append.mp replayed
    rw [readFrames]
    cases shown : s.channelEnabled c with
    | false =>
      obtain ⟨done, left⟩ := readFrame_of_hidden handle shown scope
      rw [result_bind_ok done, final_bind_ok done, left]
      cases given with
      | whole shown' => cases shown.symm.trans shown'
      | hidden =>
        obtain ⟨line, events, read, left, told⟩ := ih later
        exact ⟨line, events, read, left, .hidden shown sent.symm told⟩
    | true =>
      cases decoded : s.channel c with
      | error fault =>
        obtain ⟨fails, left⟩ := readFrame_of_undecoded handle shown decoded scope
        rw [result_bind_error fails, final_bind_error fails, left]
        exact ⟨_, [], {}, scope.grown_self.symm, .undecoded shown decoded⟩
      | ok channel =>
        obtain ⟨chunks, cut, done, left⟩ := readFrame_of_given shown decoded given first
        have onward : Replays (scope.grown (scope.bank.line.did t) (frameEvents channel c chunks)
          ⟨1, .ofNat (sentSamples handle.tuning t).length⟩).bank.line.device u := later
        obtain ⟨line, events, read, left', told⟩ := ih onward
        rw [result_bind_ok done, final_bind_ok done, left]
        refine ⟨line, frameEvents channel c chunks ++ events, ⟨1, .ofNat (samples c).length⟩ + read,
          ?_, .frame shown decoded (cut.trans sent) told⟩
        rw [left', grown_grown, sent]

/-- The scope after telling a change: what was told is published, what could not be told is not. -/
def informed (fresh : Snapshot) (scope : Scope σ) : Scope σ :=
  match result (tellChange fresh) scope with
  | .ok _ => (final (tellChange fresh) scope).publishing fresh
  | .error _ => final (tellChange fresh) scope

omit [Transport σ] in
private theorem tellChange_withLine (fresh : Snapshot) (scope : Scope σ) (line : Line σ) :
    result (tellChange fresh) (scope.withLine line) = result (tellChange fresh) scope ∧
      final (tellChange fresh) (scope.withLine line) =
        (final (tellChange fresh) scope).withLine line := by
  cases kept : scope.baseline with
  | none =>
    have kept' : (scope.withLine line).baseline = none := kept
    unfold tellChange
    rw [result_bind_ok (result_get _), final_bind_ok (result_get _), result_bind_ok (result_get _),
      final_bind_ok (result_get _), final_get, final_get, kept, kept']
    exact ⟨rfl, rfl⟩
  | some baseline =>
    have kept' : (scope.withLine line).baseline = some baseline := kept
    obtain ⟨told, left⟩ := tellChange_of_baseline fresh kept
    obtain ⟨told', left'⟩ := tellChange_of_baseline fresh kept'
    rw [told, told', left, left']
    exact ⟨rfl, rfl⟩

/-- What is told and counted in a round whose change report comes to `change`. -/
inductive RoundTold (s : Snapshot) (samples : ChannelId → Bytes) (change : Except Fault Unit) :
    List Event → Tally → Except Fault Unit → Prop
  | untold {fault : Fault} (untold : change = .error fault) :
      RoundTold s samples change [] {} (.error fault)
  | told {events : List Event} {read : Tally} {r : Except Fault Unit} (told : change = .ok ())
      (frames : FramesTold s samples ChannelId.all events read r) :
      RoundTold s samples change events read r

private theorem sweep_of_sent (scope : Scope σ) (sent : TickSent handle.tuning s samples t)
    {line : Line σ}
    (replayed : Replays line.device t) :
    ∃ line' events read,
      final (sweep handle) (scope.withLine line) = (scope.informed s).grown line' events read ∧
      RoundTold s samples (result (tellChange s) scope) events read
        (result (sweep handle) (scope.withLine line)) := by
  cases sent with
  | @whole payload fetch frames yielded sent =>
    obtain ⟨first, later⟩ := replays_append.mp replayed
    have first : Replays (scope.withLine line).bank.line.device fetch := first
    obtain ⟨fetches, left⟩ := Bank.fetch_of_yielded yielded first
    have fetched : (scope.withLine line).fetched handle = scope.withLine (line.did fetch) :=
      congrArg (fun bank => { scope with bank }) left
    obtain ⟨tells, told⟩ := tellChange_withLine s scope (line.did fetch)
    rw [← fetched] at tells told
    rw [informed]
    cases change : result (tellChange s) scope with
    | error fault =>
      rw [change] at tells
      obtain ⟨fails, ends⟩ := sweep_of_untold fetches tells
      rw [fails, ends, told]
      exact ⟨line.did fetch, [], {}, (grown_line _ _).symm, .untold rfl⟩
    | ok _ =>
      rw [change] at tells
      obtain ⟨hresult, hfinal⟩ := sweep_of_told fetches tells
      have ready : (scope.withLine line).prepared handle s =
          ((final (tellChange s) scope).publishing s).withLine (line.did fetch) :=
        congrArg (publishing s) told
      rw [ready] at hresult hfinal
      have later : Replays (((final (tellChange s) scope).publishing s).withLine
        (line.did fetch)).bank.line.device frames := later
      obtain ⟨line', events, read, left, frames⟩ := readFrames_of_sent sent later
      rw [hresult, hfinal]
      exact ⟨line', events, read, left, .told rfl frames⟩

omit [Transport σ] in
theorem informed_spec (s : Snapshot) (scope : Scope σ) :
    (scope.informed s).limits = scope.limits ∧
      ∃ report, (scope.informed s).events = scope.events ++ report ∧
        (∀ c, voltsOf c report = []) ∧ PlacedBy s report := by
  have published (told : Scope σ) : (told.publishing s).limits = told.limits ∧
      (told.publishing s).events = told.events := ⟨rfl, rfl⟩
  have informed : (scope.informed s).limits = (final (tellChange s) scope).limits ∧
      (scope.informed s).events = (final (tellChange s) scope).events := by
    rw [Scope.informed]
    split
    · exact published _
    · exact ⟨rfl, rfl⟩
  have change := tellChange_tells s scope
  rw [informed.1, informed.2]
  generalize result (tellChange s) scope = r at change
  generalize final (tellChange s) scope = after at change ⊢
  cases change with
  | begun => exact ⟨rfl, [], (List.append_nil _).symm, fun _ => rfl, placedBy_nil s⟩
  | @reported baseline =>
    refine ⟨rfl, _, rfl, ?_⟩
    rw [Report.events]
    split
    · rename_i change? _
      cases change? <;> simp [voltsOf, PlacedBy, Event.volts, Event.ofChange]
    · exact ⟨fun _ => rfl, placedBy_nil s⟩

variable {change : Except Fault Unit} {events events' : List Event} {read read' : Tally}
  {r r' : Except Fault Unit}

omit [Transport σ] in
private theorem RoundTold.same (here : RoundTold s samples change events read r)
    (there : RoundTold s samples change events' read' r') :
    r' = r ∧ read' = read ∧ SameTold events events' := by
  cases here with
  | untold untold =>
    cases there with
    | untold untold' =>
      cases untold.symm.trans untold'
      exact ⟨rfl, rfl, .refl _⟩
    | told told => cases untold.symm.trans told
  | told told frames =>
    cases there with
    | untold untold => cases untold.symm.trans told
    | told _ frames' => exact frames.same frames'

private theorem RoundTold.volts (told : RoundTold s samples change events read r) (c : ChannelId) :
    (voltsOf c events = [] ∧ (r = .ok () → samples c = [])) ∨
      ∃ channel, s.channel c = .ok channel ∧
        voltsOf c events = channel.decodeChunk (samples c) := by
  cases told with
  | untold => exact .inl ⟨rfl, nofun⟩
  | told _ frames =>
    refine frames.volts (by decide) ?_
    cases c <;> decide

private theorem RoundTold.placed (told : RoundTold s samples change events read r) :
    PlacedBy s events := by
  cases told with
  | untold => exact placedBy_nil s
  | told _ frames => exact frames.placed

private theorem tick_of_grown {line line' : Line σ} (capturing : scope.phase = .capturing)
    (swept : final (sweep handle) (scope.withLine line) =
      (scope.informed s).grown line' events read)
    (outcome : result (sweep handle) (scope.withLine line) = r) :
    let after := final (tick handle) (scope.withLine line)
    result (tick handle) (scope.withLine line) = r.map (fun _ => after.phase) ∧
      after = { (scope.informed s).grown line' (events ++ if r.isOk then [] else [.ended]) read with
        phase := after.phase
        ticker := if r.isOk then (scope.informed s).ticker else none } := by
  intro after
  have capturing' : (scope.withLine line).phase = .capturing := capturing
  cases r with
  | error fault =>
    obtain ⟨fails, ends⟩ := tick_of_failed capturing' outcome
    have told : (scope.informed s).events ++ events ++ [.ended] =
        (scope.informed s).events ++ (events ++ [.ended]) := List.append_assoc _ _ _
    refine ⟨fails, ?_⟩
    rw [show after = _ from ends, swept, finished]
    exact congrArg (fun told => { (scope.informed s).grown line' events read with
      phase := .idle, events := told, ticker := none }) told
  | ok _ =>
    obtain ⟨succeeds, ends⟩ := tick_of_swept capturing' outcome
    refine ⟨?_, ?_⟩
    · rw [succeeds, ← ends]
      rfl
    · have ends : after = _ := ends
      rw [swept, checked_eq] at ends
      have phase : after.phase = _ := congrArg Scope.phase ends
      show after = { (scope.informed s).grown line' (events ++ []) read with phase := after.phase }
      rw [List.append_nil, phase]
      exact ends

private theorem tick_of_sent (capturing : scope.phase = .capturing)
    (sent : TickSent handle.tuning s samples t) {line : Line σ}
    (replayed : Replays line.device t) :
    let after := final (tick handle) (scope.withLine line)
    ∃ line' events read r,
      RoundTold s samples (result (tellChange s) scope) events read r ∧
      result (tick handle) (scope.withLine line) = r.map (fun _ => after.phase) ∧
      after = { (scope.informed s).grown line' (events ++ if r.isOk then [] else [.ended]) read with
        phase := after.phase
        ticker := if r.isOk then (scope.informed s).ticker else none } := by
  obtain ⟨line', events, read, swept, round⟩ := sweep_of_sent scope sent replayed
  exact ⟨line', events, read, _, round, tick_of_grown capturing swept rfl⟩

/-- How the samples of a frame are cut into chunks makes no difference. On two lines on which the
instrument sends the same snapshot, and for each channel shown in it the same samples, a tick
leaves the same state and the same counts and tells the same but for the cut. What is told of a
channel is what was sent, one sample for each byte, and all of it unless the tick fails. A channel
at no volts a division is no exception. The tick also comes to the same, unless a limit of time is
reached on one clock only. -/
theorem tick_ignores_segmentation (handle : Handle) (capturing : scope.phase = .capturing)
    {here there : Line σ} {t u : List Transfer} (sent : TickSent handle.tuning s samples t)
    (replayed : Replays here.device t) (sent' : TickSent handle.tuning s samples u)
    (replayed' : Replays there.device u) :
    let after := final (tick handle) (scope.withLine here)
    let after' := final (tick handle) (scope.withLine there)
    let outcome := result (tick handle) (scope.withLine here)
    after'.bank.published = after.bank.published ∧ after'.baseline = after.baseline ∧
      after'.limits = after.limits ∧ after'.ticker = after.ticker ∧
      ∃ told told', after.events = scope.events ++ told ∧ after'.events = scope.events ++ told' ∧
        SameTold told told' ∧
        (∀ c, voltsOf c told = [] ∨ ∃ channel, s.channel c = .ok channel ∧
          voltsOf c told = channel.decodeChunk (samples c)) ∧
        (outcome.isOk = true → ∀ c, (voltsOf c told).length = (samples c).length) ∧
        PlacedBy s (told ++ told') ∧
        ((scope.withLine here).TimedAlike handle (scope.withLine there) →
          after'.phase = after.phase ∧
            result (tick handle) (scope.withLine there) = outcome) := by
  intro after after' outcome
  obtain ⟨_, events, _, _, round, ends, left⟩ := tick_of_sent capturing sent replayed
  obtain ⟨_, events', _, r, round', ends', left'⟩ := tick_of_sent capturing sent' replayed'
  obtain ⟨rfl, rfl, alike⟩ := round.same round'
  obtain ⟨limits, report, reported, silent, placed⟩ := informed_spec s scope
  let closing : List Event := if r.isOk then [] else [.ended]
  have ending : PlacedBy s closing := by
    cases r <;> simp [PlacedBy, closing]
  have closed (c : ChannelId) : voltsOf c closing = [] := by
    cases r <;> rfl
  have volts (c : ChannelId) : voltsOf c (report ++ (events ++ closing)) = voltsOf c events := by
    rw [voltsOf_append, voltsOf_append, silent, closed, List.nil_append, List.append_nil]
  have running (line : Line σ) : (scope.withLine line).phase = .capturing := capturing
  have told : after.events = scope.events ++ (report ++ (events ++ closing)) := by
    rw [← List.append_assoc, ← reported, ← List.append_assoc, List.append_assoc]
    exact congrArg Scope.events left
  have told' : after'.events = scope.events ++ (report ++ (events' ++ closing)) := by
    rw [← List.append_assoc, ← reported, ← List.append_assoc, List.append_assoc]
    exact congrArg Scope.events left'
  have counted : after'.limits = after.limits :=
    (congrArg Scope.limits left').trans (congrArg Scope.limits left).symm
  have published : after'.bank.published = after.bank.published :=
    (congrArg (fun left : Scope σ => left.bank.published) left').trans
      (congrArg (fun left : Scope σ => left.bank.published) left).symm
  have baseline : after'.baseline = after.baseline :=
    (congrArg Scope.baseline left').trans (congrArg Scope.baseline left).symm
  have ticker : after'.ticker = after.ticker :=
    (congrArg Scope.ticker left').trans (congrArg Scope.ticker left).symm
  refine ⟨published, baseline, counted, ticker, _, _, told, told',
    (SameTold.refl report).append (alike.append (.refl closing)), ?_, ?_, ?_, ?_⟩
  · intro c
    rw [volts]
    exact (round.volts c).imp_left And.left
  · intro ok c
    rw [volts]
    obtain ⟨silent, none⟩ | ⟨channel, -, whole⟩ := round.volts c
    · have done : r = .ok () := by
        cases r with
        | ok => rfl
        | error fault =>
          have ok : (result (tick handle) (scope.withLine here)).isOk = true := ok
          rw [ends] at ok
          cases ok
      rw [silent, none done]
      rfl
    · rw [whole, channel.length_decodeChunk]
  · exact (placed.append (round.placed.append ending)).append
      (placed.append (round'.placed.append ending))
  · intro clock
    obtain ⟨outcome, phase⟩ := tick_congr (running here) (running there) ends ends'
      (congrArg Limits.untimed counted) clock
    exact ⟨phase, outcome⟩

/- Three samples of the first channel. They come in two chunks, or in three under other numbers and
   another declared length, with an empty chunk and a failed one between them. -/

namespace ThreeSamples

def shown : Snapshot :=
  Snapshot.zero.setVertical .ch1 fun r => { r with shown := 1 }

def bytes : ChannelId → Bytes :=
  PerChannel.get ⟨[5, 6, 7], []⟩

def chunk (payload : Bytes) : Except Failure Bytes :=
  .ok (Link.answerForm .readSamples payload)

def sends (declared : UInt8) (chunks : List Bytes) : List Transfer :=
  Link.answering {} .readSamples [1, 0] 128 [0, declared, 0, 0] ++
    (chunks.map chunk ++ [chunk [2]]).map (.read 10007)

def inTwo : List Transfer :=
  Bank.sending {} shown ++ sends 3 [[1, 0, 5, 6], [1, 1, 7]]

def inThree : List Transfer :=
  Bank.sending {} shown ++ sends 9 [[1, 4, 5], [1, 4], [3], [1, 0, 6], [1, 9, 7]]

def line (pace : Nat) (t : List Transfer) : Line Script :=
  { device := { reads := t.filterMap Transfer.received?, pace } }

private theorem replays_line (pace : Nat) {t : List Transfer}
    (scripted : ∀ x ∈ t, x.scripted = true) :
    Replays (line pace t).device t :=
  Script.replays_received scripted

private theorem ready (declared : UInt8) : Link.Asked {} .readSamples [1, 0] 128
    (Link.answering {} .readSamples [1, 0] 128 [0, declared, 0, 0])
    (.ok ⟨.normal, Command.readSamples.response, [0, declared, 0, 0]⟩) :=
  Link.asked_answering {} .readSamples (by decide) (by simp) (by simp)

private theorem tickSent {t : List Transfer} (given : FrameGiven {} shown .ch1 t)
    (same : sentSamples {} t = [5, 6, 7]) :
    TickSent {} shown bytes (Bank.sending {} shown ++ t) := by
  have rest : FramesSent {} shown bytes [.ch2] ([] ++ []) := .cons (.hidden rfl) rfl .nil
  have frames := FramesSent.cons given same rest
  rw [List.append_nil, List.append_nil] at frames
  exact .whole (Bank.yielded_sending {} shown) frames

private theorem inTwo_sent : TickSent {} shown bytes inTwo :=
  tickSent (.whole rfl (ready 3) rfl (by decide +kernel) (by decide +kernel) (by rfl))
    (by decide +kernel)

private theorem inThree_sent : TickSent {} shown bytes inThree :=
  tickSent (.whole rfl (ready 9) rfl (by decide +kernel) (by decide +kernel) (by rfl))
    (by decide +kernel)

end ThreeSamples

open ThreeSamples in
theorem tick_ignores_segmentation_of_three :
    let scope : Scope Script := { Scope.ofLine (line 0 []) with phase := .capturing }
    let ticked (t : List Transfer) := final (tick ⟨{}, none⟩) (scope.withLine (line 0 t))
    (voltsOf .ch1 (ticked inTwo).events).length = 3 ∧
      voltsOf .ch1 (ticked inThree).events = voltsOf .ch1 (ticked inTwo).events ∧
      (ticked inThree).phase = (ticked inTwo).phase := by
  intro scope ticked
  have capturing : scope.phase = .capturing := rfl
  obtain ⟨-, -, -, -, told, told', events, events', same, -, all, -, ends⟩ :=
    tick_ignores_segmentation ⟨{}, none⟩ capturing inTwo_sent
      (replays_line 0 (by decide +kernel)) inThree_sent (replays_line 0 (by decide +kernel))
  have done : (result (tick ⟨{}, none⟩) (scope.withLine (line 0 inTwo))).isOk = true := by
    decide +kernel
  have events : (ticked inTwo).events = told := events
  have events' : (ticked inThree).events = told' := events'
  rw [events, events']
  have untimed : (scope.withLine (line 0 inTwo)).TimedAlike ⟨{}, none⟩
      (scope.withLine (line 0 inThree)) := fun _ =>
    (overdue_of_untimed (by decide +kernel)).trans (overdue_of_untimed (by decide +kernel)).symm
  exact ⟨all done .ch1, same.volts .ch1, (ends untimed).1⟩

open ThreeSamples in
/-- A limit of time minds how many transfers a frame comes in: where each takes a millisecond, the
tick with two chunks is done before 12 milliseconds are over, and the one with more is not. -/
theorem tick_of_more_chunks_overdue :
    let begun (t : List Transfer) : Scope Script := Call.run ⟨{}, none⟩
      [.setValue (.device (.limit .time)) none (.natural 12), .start] (Scope.ofLine (line 1 t))
    let ticked (t : List Transfer) := final (tick ⟨{}, none⟩) (begun t)
    (begun inTwo).phase = .capturing ∧
      begun inThree = (begun inTwo).withLine (line 1 inThree) ∧
      TickSent {} shown bytes inTwo ∧ Replays (begun inTwo).bank.line.device inTwo ∧
      TickSent {} shown bytes inThree ∧ Replays (begun inThree).bank.line.device inThree ∧
      (ticked inTwo).phase = .capturing ∧ (ticked inThree).phase = .stopping := by
  intro begun ticked
  refine ⟨by decide +kernel, rfl, inTwo_sent, replays_line 1 (by decide +kernel), inThree_sent,
    replays_line 1 (by decide +kernel), ?_, ?_⟩
  · decide +kernel
  · decide +kernel

end Scope

end Oscilloscope
