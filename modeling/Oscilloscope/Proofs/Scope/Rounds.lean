/- Acquisitions on an instrument that gives a whole round for every tick: the fetch yields a
   snapshot with known codes, and each channel in it that is shown has samples ready and sends its
   stream to the end. Such a tick succeeds and takes one frame a channel. -/

import Mathlib.Logic.Function.Iterate
import Oscilloscope.Proofs.Acquisition.Described
import Oscilloscope.Proofs.Scope.LimitStops
import Oscilloscope.Proofs.Scope.Talk
import Oscilloscope.Proofs.Wire.Rehearsed

set_option autoImplicit false
set_option relaxedAutoImplicit false

namespace Oscilloscope

namespace Snapshot

variable {s : Snapshot}

structure Known (s : Snapshot) : Prop where
  channel : ∀ c, ∃ channel, s.channel c = .ok channel
  triggerSource : ∃ source, s.triggerSource = .ok source
  triggerSlope : ∃ slope, s.triggerSlope = .ok slope
  timebase : ∃ timebase, s.windowTimebase = .ok timebase
  memoryDepth : ∃ depth, s.memoryDepth = .ok depth
  averageCount : ∃ count, s.averageCount = .ok count

instance {ε α : Type} : (x : Except ε α) → Decidable (∃ a, x = .ok a)
  | .ok a => isTrue ⟨a, rfl⟩
  | .error _ => isFalse nofun

instance (s : Snapshot) : Decidable s.Known :=
  decidable_of_iff ((∀ c ∈ ChannelId.all, ∃ channel, s.channel c = .ok channel) ∧
      (∃ source, s.triggerSource = .ok source) ∧ (∃ slope, s.triggerSlope = .ok slope) ∧
      (∃ timebase, s.windowTimebase = .ok timebase) ∧ (∃ depth, s.memoryDepth = .ok depth) ∧
      ∃ count, s.averageCount = .ok count)
    ⟨fun ⟨channel, source, slope, timebase, depth, count⟩ =>
      ⟨fun c => channel c (by cases c <;> decide), source, slope, timebase, depth, count⟩,
    fun known => ⟨fun c _ => known.channel c, known.triggerSource, known.triggerSlope,
      known.timebase, known.memoryDepth, known.averageCount⟩⟩

private theorem Known.describable (known : s.Known) (g : Group) : g.Describable s := by
  have valued {α : Type} {x : Except Fault α} (f : α → Value) (hx : ∃ a, x = .ok a)
      (h : s.describe g.setting = x >>= fun a => pure (f a)) : g.Describable s := by
    obtain ⟨a, ha⟩ := hx
    exact .inl ⟨f a, h.trans (bind_eq_ok_iff.mpr ⟨a, ha, rfl⟩)⟩
  cases g with
  | enabled | filter | triggerPosition | menu | acquireMode => exact .inl ⟨_, rfl⟩
  | range c | coupling c | probe c => exact valued _ (known.channel c) rfl
  | triggerSource => exact valued _ known.triggerSource rfl
  | triggerSlope => exact valued _ known.triggerSlope rfl
  | timebase => exact valued _ known.timebase rfl
  | memoryDepth => exact valued _ known.memoryDepth rfl
  | averageCount => exact valued _ known.averageCount rfl
  | triggerLevel =>
    obtain ⟨source, hsource⟩ := known.triggerSource
    cases sourced : source.channel? with
    | none =>
      refine .inr ⟨.device .triggerLevel, ?_⟩
      show (s.triggerLevel >>= fun level => pure (Value.real level)) = _
      rw [triggerLevel_of_no_channel hsource sourced]
      rfl
    | some c =>
      have level := triggerLevel_of_channel hsource sourced
      obtain ⟨channel, hchannel⟩ := known.channel c
      exact valued _ ⟨_, level.trans (bind_eq_ok_iff.mpr ⟨channel, hchannel, rfl⟩)⟩ rfl

end Snapshot

/-- Whether a stream may go on after the arrival. -/
def Arrival.goesOn : Arrival → Bool
  | .data _ | .failed => true
  | .last | .odd _ | .bad _ => false

/-- Transfers in which a channel gives its frame, if it is shown: it has samples ready and sends
data chunks, as many failed ones as are put up with, and the last one. -/
inductive FrameGiven (tuning : Tuning) (s : Snapshot) (c : ChannelId) : List Transfer → Prop
  | hidden (hidden : s.channelEnabled c = false) : FrameGiven tuning s c []
  | whole {asking : List Transfer} {f : Frame} {x y z : UInt8} {rest : Bytes}
      {chunks : List (Except Failure Bytes)} {last : Except Failure Bytes}
      (shown : s.channelEnabled c = true)
      (asked : Link.Asked tuning .readSamples [1, .ofNat c.index] 128 asking (.ok f))
      (ready : f.payload = 0 :: x :: y :: z :: rest)
      (goesOn : ∀ chunk ∈ chunks, (Arrival.ofAnswer tuning chunk).goesOn = true)
      (few : chunks.countP (fun chunk => (Arrival.ofAnswer tuning chunk).isFailed) ≤
        tuning.chunkErrorLimit.toNat)
      (ends : Arrival.ofAnswer tuning last = .last) :
      FrameGiven tuning s c (asking ++ (chunks ++ [last]).map (.read 10007))

/-- Transfers of a round: a snapshot with known codes that shows `n` channels, and their frames. -/
inductive RoundGiven (tuning : Tuning) (n : Nat) : List Transfer → Prop
  | whole {s : Snapshot} {payload : Bytes} {fetch first second : List Transfer}
      (yielded : Bank.Yielded tuning s payload fetch) (known : s.Known)
      (shows : ChannelId.all.countP s.channelEnabled = n)
      (ch1 : FrameGiven tuning s .ch1 first) (ch2 : FrameGiven tuning s .ch2 second) :
      RoundGiven tuning n (fetch ++ first ++ second)

section

variable {tuning : Tuning} {t : List Transfer} {n : Nat}

theorem RoundGiven.channels_le (round : RoundGiven tuning n t) : n ≤ 2 := by
  cases round with
  | whole _ _ shows =>
    rw [← shows]
    exact List.countP_le_length

theorem Bank.Yielded.submissions_eq {s : Snapshot} {payload : Bytes}
    (yielded : Bank.Yielded tuning s payload t) : submissions .readRegisters t = 1 := by
  have hwrites : writes t = [(Command.lock, [1, 1]), (.readRegisters, []),
      (.lock, [1, 0])].map fun request => Link.form tuning request.1 request.2 :=
    yielded.writes_eq
  rw [submissions_of_writes_eq hwrites]
  rfl

private theorem FrameGiven.submissions_eq {s : Snapshot} {c : ChannelId}
    (given : FrameGiven tuning s c t) :
    submissions .readRegisters t = 0 := by
  cases given with
  | hidden => rfl
  | @whole asking f x y z rest chunks last _ asked =>
    have reads : writes ((chunks ++ [last]).map (.read 10007)) = [] :=
      List.filterMap_eq_nil_iff.mpr fun x hx => by
        obtain ⟨answer, -, rfl⟩ := List.mem_map.mp hx
        rfl
    have hwrites : writes (asking ++ (chunks ++ [last]).map (.read 10007)) =
        [(Command.readSamples, [1, .ofNat c.index])].map fun request =>
          Link.form tuning request.1 request.2 := by
      rw [writes_append, reads, asked.writes_eq (by simp)]
      rfl
    rw [submissions_of_writes_eq hwrites]
    rfl

private theorem RoundGiven.submissions_eq (round : RoundGiven tuning n t) :
    submissions .readRegisters t = 1 := by
  cases round with
  | whole yielded _ _ ch1 ch2 =>
    rw [submissions_append, submissions_append, yielded.submissions_eq, ch1.submissions_eq,
      ch2.submissions_eq]

theorem RoundGiven.submissions_flatten {rounds : List (List Transfer)}
    (given : ∀ t ∈ rounds, RoundGiven tuning n t) :
    submissions .readRegisters rounds.flatten = rounds.length := by
  induction rounds with
  | nil => rfl
  | cons t rounds ih =>
    rw [List.flatten_cons, submissions_append, (given t List.mem_cons_self).submissions_eq,
      ih fun t ht => given t (List.mem_cons_of_mem _ ht), List.length_cons, Nat.add_comm]

end

variable {σ : Type} [Transport σ]

namespace Stream

private theorem read_of_replays (tuning : Tuning) {line : Line σ} {answer : Except Failure Bytes}
    {t : List Transfer} (replayed : Replays line.device (.read 10007 answer :: t)) :
    arrivalAt tuning line.device 0 = .ofAnswer tuning answer ∧
      line.afterReads 1 = line.did [.read 10007 answer] := by
  rw [← replayed.1]
  exact ⟨rfl, rfl⟩

private theorem receive_of_given {tuning : Tuning} (c : ChannelId)
    {chunks : List (Except Failure Bytes)} {last : Except Failure Bytes} {failures : UInt32}
    (goesOn : ∀ chunk ∈ chunks, (Arrival.ofAnswer tuning chunk).goesOn = true)
    (few : failures.toNat +
      chunks.countP (fun chunk => (Arrival.ofAnswer tuning chunk).isFailed) ≤
        tuning.chunkErrorLimit.toNat)
    (ends : Arrival.ofAnswer tuning last = .last) {line : Line σ}
    (replayed : Replays line.device ((chunks ++ [last]).map (.read 10007))) :
    receive tuning c failures line =
      (⟨chunks.filterMap fun chunk => (Arrival.ofAnswer tuning chunk).samples?, .ok ()⟩,
        line.did ((chunks ++ [last]).map (.read 10007))) := by
  -- What has failed so far and what is still to fail stay within the limit together.
  induction chunks generalizing failures line with
  | nil =>
    obtain ⟨first, read⟩ := read_of_replays tuning replayed
    rw [receive_eq, first, ends, read]
    rfl
  | cons chunk chunks ih =>
    obtain ⟨first, read⟩ := read_of_replays tuning replayed
    have rest : Replays (line.did [.read 10007 chunk]).device
        ((chunks ++ [last]).map (.read 10007)) := replayed.2
    have later : ∀ chunk ∈ chunks, (Arrival.ofAnswer tuning chunk).goesOn = true :=
      fun c hc => goesOn c (List.mem_cons_of_mem chunk hc)
    have onward : line.did (((chunk :: chunks) ++ [last]).map (.read 10007)) =
        (line.did [.read 10007 chunk]).did ((chunks ++ [last]).map (.read 10007)) :=
      line.did_append [.read 10007 chunk] _
    have goes := goesOn chunk List.mem_cons_self
    rw [List.countP_cons] at few
    rw [receive_eq, first, read, onward, List.filterMap_cons]
    cases arrival : Arrival.ofAnswer tuning chunk with
    | data payload =>
      rw [goOn, ih later (by omega) rest]
      rfl
    | failed =>
      have counted : (Arrival.ofAnswer tuning chunk).isFailed = true := by
        rw [arrival]
        rfl
      rw [if_pos counted] at few
      have next : (failures + 1).toNat = failures.toNat + 1 := by
        have most := tuning.chunkErrorLimit.toNat_lt
        rw [UInt32.toNat_add, UInt32.toNat_one]
        omega
      have bearable : ¬tuning.chunkErrorLimit < failures + 1 := by
        rw [UInt32.lt_iff_toNat_lt, next]
        omega
      rw [goOn, if_neg bearable, ih later (by omega) rest]
      rfl
    | last | odd | bad =>
      rw [arrival] at goes
      cases goes

end Stream

namespace Scope

variable {handle : Handle} {scope middle after : Scope σ} {t u : List Transfer} {n m : Nat}

/-- On the way from `scope` to `after` the instrument was used as in `t`, and `n` frames were begun
and counted. -/
structure Gives (t : List Transfer) (n : Nat) (scope after : Scope σ) : Prop where
  line : after.bank.line = scope.bank.line.did t
  begun : after.events.count .frameBegin = scope.events.count .frameBegin + n
  counted : after.limits.read.frames = scope.limits.read.frames + .ofNat n

theorem Gives.refl (scope : Scope σ) : Gives [] 0 scope scope :=
  ⟨scope.bank.line.did_nil.symm, rfl, (UInt64.add_zero _).symm⟩

theorem Gives.trans (first : Gives t n scope middle) (second : Gives u m middle after) :
    Gives (t ++ u) (n + m) scope after where
  line := by rw [second.line, first.line, Line.did_append]
  begun := by rw [second.begun, first.begun, Nat.add_assoc]
  counted := by rw [second.counted, first.counted, UInt64.ofNat_add, UInt64.add_assoc]

theorem Gives.replays (given : Gives t n scope after)
    (replayed : Replays scope.bank.line.device (t ++ u)) : Replays after.bank.line.device u := by
  rw [given.line]
  exact (replays_append.mp replayed).2

private theorem Gives.stopRequested (given : Gives t n scope after) :
    Gives t n scope after.stopRequested := by
  refine ⟨?_, ?_, ?_⟩
  · rw [stopRequested_bank]
    exact given.line
  · rw [stopRequested_events]
    exact given.begun
  · rw [stopRequested_limits]
    exact given.counted

private theorem ChangeTold.gives {fresh : Snapshot} {r : Except Fault Unit}
    (h : ChangeTold fresh scope r after) (known : fresh.Known) :
    r = .ok () ∧ Gives [] 0 scope after := by
  obtain ⟨change, events, read⟩ := h.takes
  refine ⟨?_, ?_, ?_, ?_⟩
  · cases h with
    | begun => rfl
    | @reported baseline =>
      have describable : Describable baseline fresh := fun g _ _ => known.describable g
      rw [(Report.of_spec describable).1]
      rfl
  · rw [h.bank, Line.did_nil]
  · rw [events, List.count_append]
    cases change <;> rfl
  · rw [read]
    rfl

theorem received_of_given {c : ChannelId} {asking : List Transfer} {f : Frame} {x y z : UInt8}
    {rest : Bytes} {chunks : List (Except Failure Bytes)} {last : Except Failure Bytes}
    (request : Link.Asked handle.tuning .readSamples [1, .ofNat c.index] 128 asking (.ok f))
    (ready : f.payload = 0 :: x :: y :: z :: rest)
    (goesOn : ∀ chunk ∈ chunks, (Arrival.ofAnswer handle.tuning chunk).goesOn = true)
    (few : chunks.countP (fun chunk => (Arrival.ofAnswer handle.tuning chunk).isFailed) ≤
      handle.tuning.chunkErrorLimit.toNat)
    (ends : Arrival.ofAnswer handle.tuning last = .last)
    (replayed : Replays scope.bank.line.device
      (asking ++ (chunks ++ [last]).map (.read 10007))) :
    result (askSamples handle.tuning c) scope.bank.line = .ok true ∧
      Stream.receive handle.tuning c 0 (scope.asked handle c) =
        (⟨chunks.filterMap fun chunk => (Arrival.ofAnswer handle.tuning chunk).samples?, .ok ()⟩,
          scope.bank.line.did (asking ++ (chunks ++ [last]).map (.read 10007))) := by
  obtain ⟨front, reads⟩ := replays_append.mp replayed
  obtain ⟨hready, hasked⟩ := askSamples_goes request ready scope.bank.line front
  have within : (0 : UInt32).toNat +
      chunks.countP (fun chunk => (Arrival.ofAnswer handle.tuning chunk).isFailed) ≤
        handle.tuning.chunkErrorLimit.toNat := (Nat.zero_add _).symm ▸ few
  have line : scope.asked handle c = scope.bank.line.did asking := hasked
  have answers : Replays (scope.asked handle c).device ((chunks ++ [last]).map (.read 10007)) := by
    rw [line]
    exact reads
  have received := Stream.receive_of_given c goesOn within ends answers
  rw [line] at received
  rw [line, Line.did_append]
  exact ⟨hready, received⟩

private theorem FrameRead.gives {fresh : Snapshot} {c : ChannelId} {r : Except Fault Unit}
    (course : FrameRead handle fresh c scope r after) (known : fresh.Known)
    (given : FrameGiven handle.tuning fresh c t) (replayed : Replays scope.bank.line.device t) :
    r = .ok () ∧ Gives t (fresh.channelEnabled c).toNat scope after := by
  cases given with
  | hidden hidden =>
    rw [hidden]
    cases course with
    | hidden => exact ⟨rfl, .refl scope⟩
    | undecoded shown | unasked shown | waiting shown | broken shown | whole shown =>
      exact absurd (hidden.symm.trans shown) Bool.false_ne_true
  | @whole asking f x y z rest chunks last shown request ready goesOn few ends =>
    obtain ⟨channel, decoded⟩ := known.channel c
    obtain ⟨hready, received⟩ := received_of_given request ready goesOn few ends replayed
    obtain ⟨rfl, rfl⟩ := course.of_ready shown decoded hready received
    rw [shown]
    refine ⟨rfl, rfl, ?_, rfl⟩
    · rw [List.count_append]
      exact congrArg _ (FrameTaken.count_begun ⟨c, channel, ⟨chunks.filterMap fun chunk =>
        (Arrival.ofAnswer handle.tuning chunk).samples?, .ok ()⟩⟩)

private theorem Gives.frame {fresh : Snapshot} {c : ChannelId} {r : Except Fault Unit}
    (before : Gives t n scope middle) (course : FrameRead handle fresh c middle r after)
    (known : fresh.Known) (given : FrameGiven handle.tuning fresh c u)
    (replayed : Replays scope.bank.line.device (t ++ u)) :
    r = .ok () ∧ Gives (t ++ u) (n + (fresh.channelEnabled c).toNat) scope after := by
  obtain ⟨done, later⟩ := course.gives known given (before.replays replayed)
  exact ⟨done, before.trans later⟩

private theorem ChangeTold.gives_fetch {fresh : Snapshot} {payload : Bytes} {r : Except Fault Unit}
    {told : Scope σ} (change : ChangeTold fresh (scope.fetched handle) r told)
    (known : fresh.Known) (yielded : Bank.Yielded handle.tuning fresh payload t)
    (replayed : Replays scope.bank.line.device t) :
    r = .ok () ∧ Gives t 0 scope (told.publishing fresh) := by
  obtain ⟨done, line, begun, counted⟩ := change.gives known
  have fetched := (Bank.fetch_of_yielded yielded replayed).2
  refine ⟨done, ?_, begun, counted⟩
  rw [Line.did_nil] at line
  exact line.trans (congrArg Bank.line fetched)

theorem Captured.gives {r : Except Fault Unit} (course : Captured handle scope r after)
    (round : RoundGiven handle.tuning n t) (replayed : Replays scope.bank.line.device t) :
    r = .ok () ∧ Gives t n scope after := by
  cases round with
  | @whole s payload fetch first second yielded known shows ch1 ch2 =>
    have fetchFirst := (replays_append.mp replayed).1
    have fetchAlone := (replays_append.mp fetchFirst).1
    have fetches := (Bank.fetch_of_yielded yielded fetchAlone).1
    have count : 0 + (s.channelEnabled .ch1).toNat + (s.channelEnabled .ch2).toNat = n := by
      rw [← shows, ChannelId.all, List.countP_cons, List.countP_singleton]
      cases s.channelEnabled .ch1 <;> cases s.channelEnabled .ch2 <;> rfl
    -- Wherever the round stops, what it did up to there has succeeded.
    cases course with
    | unfetched failed => cases fetches.symm.trans failed
    | untold fetched change =>
      cases fetches.symm.trans fetched
      cases (change.gives_fetch known yielded fetchAlone).1
    | firstFailed fetched change read1 =>
      cases fetches.symm.trans fetched
      have told := (change.gives_fetch known yielded fetchAlone).2
      cases (told.frame read1 known ch1 fetchFirst).1
    | secondFailed fetched change read1 read2 =>
      cases fetches.symm.trans fetched
      have told := (change.gives_fetch known yielded fetchAlone).2
      have one := (told.frame read1 known ch1 fetchFirst).2
      cases (one.frame read2 known ch2 replayed).1
    | complete fetched change read1 read2 =>
      cases fetches.symm.trans fetched
      have told := (change.gives_fetch known yielded fetchAlone).2
      have one := (told.frame read1 known ch1 fetchFirst).2
      have both := (one.frame read2 known ch2 replayed).2
      rw [count] at both
      refine ⟨rfl, ?_⟩
      split
      · exact both.stopRequested
      · exact both

def ticked (handle : Handle) (k : Nat) (scope : Scope σ) : Scope σ :=
  (final (tick handle))^[k] scope

/-- An acquisition with a limit of frames and no other: it captures until it has enough of them, and
then waits for the tick that ends it. -/
structure Underway (frames : UInt64) (scope : Scope σ) : Prop where
  limit : frames ≠ 0
  limited : scope.LimitedTo frames 0
  phase : scope.phase = if scope.limits.read.frames < frames then .capturing else .stopping
  ticking : scope.ticker.isSome = true

variable {frames : UInt64}

private theorem Underway.of_round (h : scope.Underway frames)
    (fewer : scope.limits.read.frames < frames)
    (round : Captured handle scope (.ok ()) after) : after.Underway frames := by
  have limited : after.LimitedTo frames 0 := round.limit.trans h.limited
  have capturing : scope.phase = .capturing := by rw [h.phase, if_pos fewer]
  obtain ⟨blocks, adds⟩ := round.adds
  refine ⟨h.limit, limited, ?_, adds.ticker ▸ h.ticking⟩
  have below : after.spent = false ↔ after.limits.read.frames < frames := by
    rw [limited.spent_eq_false_iff, Tally.Below]
    simp [h.limit]
  rw [round.phase_of_ok capturing]
  cases spent : after.spent with
  | false => rw [if_neg Bool.false_ne_true, if_pos (below.mp spent)]
  | true =>
    have enough : ¬ after.limits.read.frames < frames := by
      rw [← below, spent]
      exact Bool.noConfusion
    rw [if_pos rfl, if_neg enough]

private theorem Underway.tick (h : scope.Underway frames)
    (fewer : scope.limits.read.frames < frames) (round : RoundGiven handle.tuning n t)
    (replayed : Replays scope.bank.line.device t) :
    let after := final (Scope.tick handle) scope
    after.Underway frames ∧ Gives t n scope after := by
  have capturing : scope.phase = .capturing := by rw [h.phase, if_pos fewer]
  have course := tick_ticks handle scope
  generalize result (Scope.tick handle) scope = r at course
  generalize final (Scope.tick handle) scope = after at course ⊢
  cases course with
  | idle phase | ended phase => cases capturing.symm.trans phase
  | failed _ failed => cases (failed.gives round replayed).1
  | continued _ whole => exact ⟨.of_round h fewer whole, (whole.gives round replayed).2⟩

theorem Underway.ticked {rounds : List (List Transfer)}
    (given : ∀ t ∈ rounds, RoundGiven handle.tuning n t) (h : scope.Underway frames)
    (fewer : ∀ k < rounds.length, scope.limits.read.frames.toNat + n * k < frames.toNat)
    (replayed : Replays scope.bank.line.device rounds.flatten) :
    let after := scope.ticked handle rounds.length
    after.Underway frames ∧ Gives rounds.flatten (n * rounds.length) scope after := by
  -- A round adds `n` frames, so the bound on round `k + 1` is the one on round `k` after it.
  induction rounds generalizing scope with
  | nil => exact ⟨h, .refl scope⟩
  | cons t rounds ih =>
    rw [List.flatten_cons] at replayed ⊢
    have first := UInt64.lt_iff_toNat_lt.mpr (fewer 0 (Nat.zero_lt_succ _))
    obtain ⟨underway, gives⟩ := h.tick first (given t List.mem_cons_self)
      (replays_append.mp replayed).1
    have still : ∀ k < rounds.length,
        (final (Scope.tick handle) scope).limits.read.frames.toNat + n * k < frames.toNat := by
      intro k hk
      have next := fewer (k + 1) (Nat.succ_lt_succ hk)
      rw [gives.counted, UInt64.toNat_add, UInt64.toNat_ofNat']
      rw [Nat.mul_succ] at next
      omega
    obtain ⟨underway, later⟩ := ih (fun t ht => given t (List.mem_cons_of_mem _ ht)) underway still
      (gives.replays replayed)
    refine ⟨underway, ?_⟩
    rw [List.length_cons, Nat.mul_succ, Nat.add_comm]
    exact gives.trans later

end Scope

end Oscilloscope
