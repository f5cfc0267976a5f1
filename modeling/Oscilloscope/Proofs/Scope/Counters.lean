/- The counters of an acquisition against its events. Events are told chunk by chunk, counters move
   only when a frame is whole; yet between two calls they agree, because a frame that breaks off
   ends the acquisition. -/

import Oscilloscope.Proofs.Acquisition.Tally
import Oscilloscope.Proofs.Scope.Acquisitions
import Oscilloscope.Proofs.Scope.Setting

set_option autoImplicit false
set_option relaxedAutoImplicit false

namespace Oscilloscope

/-- The frames of a round that came to `r`. They are of different channels in their order, and only
the last one can be broken, by the fault of the round itself. -/
structure FramesOf (σ : Type) [Transport σ] (handle : Handle) (r : Except Fault Unit)
    (frames : List FrameTaken) : Prop where
  order : (frames.map FrameTaken.id).Sublist ChannelId.all
  received : ∀ f ∈ frames, ∃ line : Line σ,
    (Stream.receive handle.tuning f.id 0 line).1 = f.stream
  ending : ∀ f ∈ frames,
    f.stream.ending = .ok () ∨ frames.getLast? = some f ∧ f.stream.ending = r

structure FrameTaken.Received (σ : Type) [Transport σ] (handle : Handle) (c : ChannelId)
    (r : Except Fault Unit) (f : FrameTaken) : Prop where
  id : f.id = c
  ending : f.stream.ending = r
  received : ∃ line : Line σ, (Stream.receive handle.tuning f.id 0 line).1 = f.stream

private theorem FrameTaken.sublist_ids {frame : Option FrameTaken} {c : ChannelId}
    (h : ∀ f ∈ frame, f.id = c) : (frame.toList.map FrameTaken.id).Sublist [c] := by
  cases frame with
  | none => exact List.nil_sublist [c]
  | some f =>
    rw [Option.toList_some, List.map_singleton, h f rfl]

private theorem FramesOf.nil {σ : Type} [Transport σ] (handle : Handle) (r : Except Fault Unit) :
    FramesOf σ handle r [] where
  order := List.nil_sublist _
  received _ hf := (List.not_mem_nil hf).elim
  ending _ hf := (List.not_mem_nil hf).elim

private theorem FramesOf.of_options {σ : Type} [Transport σ] {handle : Handle}
    {r first second : Except Fault Unit} {frame1 frame2 : Option FrameTaken}
    (ch1 : ∀ f ∈ frame1, f.Received σ handle .ch1 first)
    (ch2 : ∀ f ∈ frame2, f.Received σ handle .ch2 second)
    (ends : first = .ok () ∧ second = r ∨ first = r ∧ frame2 = none) :
    FramesOf σ handle r (frame1.toList ++ frame2.toList) where
  order := by
    rw [List.map_append]
    exact (FrameTaken.sublist_ids fun f hf => (ch1 f hf).id).append
      (FrameTaken.sublist_ids fun f hf => (ch2 f hf).id)
  received := by
    intro f hf
    rcases List.mem_append.mp hf with mem | mem
    · exact (ch1 f (Option.mem_toList.mp mem)).received
    · exact (ch2 f (Option.mem_toList.mp mem)).received
  ending := by
    intro f hf
    rcases List.mem_append.mp hf with mem | mem
    · have taken := Option.mem_toList.mp mem
      rcases ends with ⟨whole, -⟩ | ⟨last, alone⟩
      · exact .inl ((ch1 f taken).ending.trans whole)
      · rw [alone, Option.mem_def.mp taken]
        exact .inr ⟨rfl, (ch1 f taken).ending.trans last⟩
    · have taken := Option.mem_toList.mp mem
      rcases ends with ⟨-, last⟩ | ⟨-, alone⟩
      · rw [Option.mem_def.mp taken, Option.toList_some, List.getLast?_concat]
        exact .inr ⟨rfl, (ch2 f taken).ending.trans last⟩
      · rw [alone] at taken
        exact (Option.not_mem_none f taken).elim

namespace Scope

variable {σ : Type}

/-- The counters agree with what was told since the last header. -/
def Counted (scope : Scope σ) : Prop :=
  scope.limits.read = Tally.ofEvents (sinceHeader scope.events)

/-- What a step within an acquisition takes: a change that is told, and frames. All that was begun
is told, but only what is whole is counted. -/
structure Takes (change : Option (Setting × Value)) (frames : List FrameTaken)
    (scope after : Scope σ) : Prop where
  events : after.events = scope.events ++
    (change.toList.map Event.ofChange ++ frames.flatMap FrameTaken.events)
  read : after.limits.read = scope.limits.read +
    Tally.ofEvents ((frames.filter FrameTaken.whole).flatMap FrameTaken.events)

namespace Takes

variable {change : Option (Setting × Value)} {frames later : List FrameTaken}
  {scope middle after : Scope σ}

private theorem none (events : after.events = scope.events) (limits : after.limits = scope.limits) :
    Takes .none [] scope after :=
  ⟨events.trans (List.append_nil _).symm,
    (congrArg Limits.read limits).trans (Tally.add_zero _).symm⟩

theorem trans (first : Takes change frames scope middle) (second : Takes .none later middle after) :
    Takes change (frames ++ later) scope after where
  events := by
    rw [second.events, first.events, Option.toList_none, List.map_nil, List.nil_append,
      List.flatMap_append, List.append_assoc, List.append_assoc]
  read := by
    rw [second.read, first.read, List.filter_append, List.flatMap_append, Tally.ofEvents_append,
      Tally.add_assoc]

theorem header_not_mem : .header ∉
    change.toList.map Event.ofChange ++ frames.flatMap FrameTaken.events := by
  intro h
  rcases List.mem_append.mp h with told | taken
  · obtain ⟨x, -, hx⟩ := List.mem_map.mp told
    cases hx
  · obtain ⟨f, -, hf⟩ := List.mem_flatMap.mp taken
    exact f.header_not_mem_events hf

private theorem told_eq (taken : Takes change frames scope after) (counted : scope.Counted) :
    Tally.ofEvents (sinceHeader after.events) = after.limits.read +
      Tally.ofEvents ((frames.filter FrameTaken.broken).flatMap FrameTaken.events) := by
  have untallied : Tally.ofEvents (change.toList.map Event.ofChange) = {} := by
    cases change <;> rfl
  rw [taken.events, sinceHeader_append header_not_mem, Tally.ofEvents_append,
    Tally.ofEvents_append, untallied, FrameTaken.ofEvents_partition, taken.read, counted,
    Tally.add_assoc, Tally.zero_add]

end Takes

theorem ChangeTold.takes {fresh : Snapshot} {scope after : Scope σ} {r : Except Fault Unit}
    (h : ChangeTold fresh scope r after) : ∃ change, Takes change [] scope after := by
  cases h with
  | begun => exact ⟨none, .none rfl rfl⟩
  | @reported baseline =>
    cases htold : (Report.of baseline fresh).told with
    | error fault =>
      refine ⟨none, .none ?_ rfl⟩
      rw [Report.events_of_fault htold]
      exact List.append_nil scope.events
    | ok change? =>
      refine ⟨change?, ?_, (Tally.add_zero _).symm⟩
      rw [Report.events_of_told htold, List.flatMap_nil, List.append_nil]

variable [Transport σ] {handle : Handle} {scope after : Scope σ}

theorem FrameRead.takes {fresh : Snapshot} {c : ChannelId} {r : Except Fault Unit}
    (h : FrameRead handle fresh c scope r after) :
    ∃ frame : Option FrameTaken, Takes none frame.toList scope after ∧
      ∀ f ∈ frame, f.Received σ handle c r := by
  cases h with
  | hidden | undecoded | unasked | waiting =>
    exact ⟨none, .none rfl rfl, fun _ h => (Option.not_mem_none _ h).elim⟩
  | @broken channel stream line fault _ _ _ received ending =>
    refine ⟨some ⟨c, channel, stream⟩, ⟨?_, ?_⟩, ?_⟩
    · rw [Option.toList_some, List.flatMap_singleton]
      rfl
    · have lost : FrameTaken.whole ⟨c, channel, stream⟩ = false := by
        rw [FrameTaken.whole, ending]
        rfl
      rw [Option.toList_some, List.filter_singleton, lost]
      exact (Tally.add_zero _).symm
    · intro f hf
      cases Option.mem_some_iff.mp hf
      exact ⟨rfl, ending, _, congrArg Prod.fst received⟩
  | @whole channel stream line _ _ _ received ending =>
    refine ⟨some ⟨c, channel, stream⟩, ⟨?_, ?_⟩, ?_⟩
    · rw [Option.toList_some, List.flatMap_singleton]
      rfl
    · have counts : FrameTaken.whole ⟨c, channel, stream⟩ = true := by
        rw [FrameTaken.whole, ending]
        rfl
      rw [Option.toList_some, List.filter_singleton, counts, cond_true, List.flatMap_singleton,
        FrameTaken.ofEvents_events]
      rfl
    · intro f hf
      cases Option.mem_some_iff.mp hf
      exact ⟨rfl, ending, _, congrArg Prod.fst received⟩

private theorem ChangeTold.takes_around {fresh : Snapshot} {told : Scope σ} {r : Except Fault Unit}
    (h : ChangeTold fresh (scope.fetched handle) r told) :
    ∃ change, Takes change [] scope told ∧ Takes change [] scope (told.publishing fresh) := by
  obtain ⟨change, events, read⟩ := h.takes
  exact ⟨change, ⟨events, read⟩, ⟨events, read⟩⟩

theorem Captured.takes {r : Except Fault Unit} (h : Captured handle scope r after) :
    ∃ change frames, Takes change frames scope after ∧ FramesOf σ handle r frames := by
  cases h with
  | unfetched => exact ⟨none, [], .none rfl rfl, .nil handle _⟩
  | untold _ change =>
    obtain ⟨x, told, -⟩ := change.takes_around
    exact ⟨x, [], told, .nil handle _⟩
  | firstFailed _ change ch1 =>
    obtain ⟨x, -, published⟩ := change.takes_around
    obtain ⟨frame1, taken1, received1⟩ := ch1.takes
    have alone : ∀ f ∈ (none : Option FrameTaken), f.Received σ handle .ch2 (.ok ()) :=
      fun f hf => (Option.not_mem_none f hf).elim
    exact ⟨x, frame1.toList ++ [], published.trans (taken1.trans (.none rfl rfl)),
      .of_options received1 alone (.inr ⟨rfl, rfl⟩)⟩
  | secondFailed _ change ch1 ch2 =>
    obtain ⟨x, -, published⟩ := change.takes_around
    obtain ⟨frame1, taken1, received1⟩ := ch1.takes
    obtain ⟨frame2, taken2, received2⟩ := ch2.takes
    exact ⟨x, frame1.toList ++ frame2.toList, published.trans (taken1.trans taken2),
      .of_options received1 received2 (.inl ⟨rfl, rfl⟩)⟩
  | @complete _ _ _ second _ change ch1 ch2 =>
    obtain ⟨x, -, published⟩ := change.takes_around
    obtain ⟨frame1, taken1, received1⟩ := ch1.takes
    obtain ⟨frame2, taken2, received2⟩ := ch2.takes
    obtain ⟨events, read⟩ := published.trans (taken1.trans taken2)
    refine ⟨x, frame1.toList ++ frame2.toList, ?_,
      .of_options received1 received2 (.inl ⟨rfl, rfl⟩)⟩
    split
    · exact ⟨second.stopRequested_events.trans events,
        (congrArg Limits.read second.stopRequested_limits).trans read⟩
    · exact ⟨events, read⟩

private theorem Captured.counted (h : Captured handle scope (.ok ()) after)
    (counted : scope.Counted) :
    after.Counted := by
  obtain ⟨change, frames, taken, framesOf⟩ := h.takes
  have unbroken : frames.filter FrameTaken.broken = [] := by
    refine List.filter_eq_nil_iff.mpr fun f hf => ?_
    have ending : f.stream.ending = .ok () := (framesOf.ending f hf).elim id And.right
    rw [FrameTaken.broken, FrameTaken.whole, ending]
    exact Bool.false_ne_true
  have told := taken.told_eq counted
  rw [unbroken] at told
  exact (told.trans (Tally.add_zero _)).symm

private theorem Ticked.broken {fault : Fault} (h : Ticked handle scope (.error fault) after)
    (counted : scope.phase ≠ .idle → scope.Counted) :
    ∃ (change : Option (Setting × Value)) (frames : List FrameTaken),
      FramesOf σ handle (.error fault) frames ∧
      after.events = scope.events ++ change.toList.map Event.ofChange ++
        frames.flatMap FrameTaken.events ++ [.ended] ∧
      Tally.ofEvents (sinceHeader after.events) = after.limits.read +
        Tally.ofEvents ((frames.filter FrameTaken.broken).flatMap FrameTaken.events) := by
  cases h with
  | @failed _ last capturing round =>
    obtain ⟨change, frames, taken, framesOf⟩ := round.takes
    have running : scope.phase ≠ .idle := by
      rw [capturing]
      decide
    refine ⟨change, frames, framesOf, ?_, ?_⟩
    · rw [List.append_assoc scope.events, ← taken.events]
      rfl
    · have ended : Tally.ofEvents (sinceHeader last.finished.events) =
          Tally.ofEvents (sinceHeader last.events) := by
        rw [finished, sinceHeader_append (by decide), Tally.ofEvents_append]
        exact Tally.add_zero _
      rw [ended]
      exact taken.told_eq (counted running)

end Scope

namespace Call

variable {σ : Type} [Transport σ] {handle : Handle} {scope : Scope σ}

theorem limits_beside {call : Call} (beside : call.acquires = false) (handle : Handle)
    (scope : Scope σ) : (call.after handle scope).limits = scope.limits ∨
      ∃ kind index value n, call = .setValue (.device (.limit kind)) index value ∧
        (call.after handle scope).limits = scope.limits.setLimit kind n := by
  cases call with
  | start | requestStop | tick => cases beside
  | setValue key index value =>
    rw [after_setValue]
    have course := Scope.setValue_sets handle key index value scope
    generalize result (Scope.setValue handle key index value) scope = r at course
    generalize final (Scope.setValue handle key index value) scope = after at course ⊢
    cases course with
    | misaddressed | unsettable | unlimited | unrevised | revised => exact .inl rfl
    | @limited kind n address =>
      cases Key.key_of_address address
      exact .inr ⟨kind, index, value, n, rfl, rfl⟩
  | _ =>
    refine .inl ?_
    rw [after_eq_final]
    refine (Scope.composes_keeps Scope.limits).perform ?_ ?_ rfl scope
    · intro scope
      rw [Scope.refresh, Scope.final_onBank]
    · intro bytes scope
      rw [Scope.final_onLine]
      rfl

theorem read_beside {call : Call} (beside : call.acquires = false) (handle : Handle)
    (scope : Scope σ) : (call.after handle scope).limits.read = scope.limits.read := by
  rcases limits_beside beside handle scope with same | ⟨kind, index, value, n, -, set⟩
  · rw [same]
  · rw [set]
    cases kind <;> rfl

private theorem counted_after (call : Call) (counted : scope.phase ≠ .idle → scope.Counted)
    (running : (call.after handle scope).phase ≠ .idle) : (call.after handle scope).Counted := by
  cases beside : call.acquires with
  | false =>
    obtain ⟨phase, -, events, -⟩ := Scope.Session.mk.inj (session_after beside handle scope)
    rw [phase] at running
    rw [Scope.Counted, read_beside beside, events]
    exact counted running
  | true =>
    cases call with
    | start =>
      rw [after_start] at running ⊢
      have started := Scope.start_starts handle scope
      generalize result (Scope.start handle) scope = r at started
      generalize final (Scope.start handle) scope = after at started running ⊢
      cases started with
      | begun =>
        rw [Scope.Counted, Scope.begun, sinceHeader_header]
        rfl
      | busy => exact counted running
    | requestStop =>
      rw [after_requestStop, Scope.stopRequested] at running ⊢
      split
      · rename_i capturing
        exact counted (by rw [capturing]; decide)
      · rename_i resting
        rw [if_neg resting] at running
        exact counted running
    | tick =>
      rw [after_tick] at running ⊢
      have ticked := Scope.tick_ticks handle scope
      generalize result (Scope.tick handle) scope = r at ticked
      generalize final (Scope.tick handle) scope = after at ticked running ⊢
      cases ticked with
      | idle => exact counted running
      | ended | failed => exact absurd rfl running
      | continued capturing round => exact round.counted (counted (by rw [capturing]; decide))
    | _ => cases beside

/-- Whatever is called and however the instrument answers, while an acquisition runs its counters
say how many frames were begun since its header and how many samples were told in them. A tick that
fails ends it with at most one frame broken, the last one, whose stream ended with the fault of the
tick; that frame and its samples are all that the counters miss then. -/
theorem run_counts_events (handle : Handle) (line : Line σ) (calls : List Call) :
    let scope := run handle calls (Scope.ofLine line)
    (scope.phase ≠ .idle → scope.limits.read = Tally.ofEvents (sinceHeader scope.events)) ∧
      ∀ fault, result (Scope.tick handle) scope = .error fault →
        let failed := after handle .tick scope
        ∃ (change : Option (Setting × Value)) (frames : List FrameTaken),
          FramesOf σ handle (.error fault) frames ∧
          failed.events = scope.events ++ change.toList.map Event.ofChange ++
            frames.flatMap FrameTaken.events ++ [.ended] ∧
          Tally.ofEvents (sinceHeader failed.events) = failed.limits.read +
            Tally.ofEvents ((frames.filter FrameTaken.broken).flatMap FrameTaken.events) := by
  intro scope
  have counted : scope.phase ≠ .idle → scope.Counted :=
    run_preserves (P := fun scope => scope.phase ≠ .idle → scope.Counted)
      (fun call _ => counted_after call) calls (absurd rfl)
  refine ⟨counted, fun fault fails => ?_⟩
  have ticked := Scope.tick_ticks handle scope
  rw [fails] at ticked
  rw [after_tick]
  exact ticked.broken counted

end Call

end Oscilloscope
