/- A session that follows the changes of an acquisition against the registers of the instrument.
   Only a tick that reads them tells anything, and it tells what a report of its reading tells. -/

import Oscilloscope.Proofs.Acquisition.Following
import Oscilloscope.Proofs.Scope.Answers
import Oscilloscope.Proofs.Scope.HeldRegisters
import Oscilloscope.Proofs.Scope.LimitStops
import Oscilloscope.Proofs.Scope.Rounds

set_option autoImplicit false
set_option relaxedAutoImplicit false

namespace Oscilloscope

def Event.change? : Event → Option (Setting × Value)
  | .changed x v => some (x, v)
  | _ => none

private theorem FrameTaken.filterMap_change?_events (frames : List FrameTaken) :
    (frames.flatMap FrameTaken.events).filterMap Event.change? = [] := by
  refine List.filterMap_eq_nil_iff.mpr fun e he => ?_
  obtain ⟨f, -, he⟩ := List.mem_flatMap.mp he
  rw [FrameTaken.events, frameEvents] at he
  rcases List.mem_append.mp he with begun | ended
  · rcases List.mem_cons.mp begun with rfl | chunk
    · rfl
    · obtain ⟨bytes, -, rfl⟩ := List.mem_map.mp chunk
      rfl
  · cases List.mem_singleton.mp ended
    rfl

theorem Group.inRegisters (g : Group) : g.setting.key.inRegisters = true := by
  cases g <;> rfl

namespace Scope

variable {σ : Type}

/-- From a scope to a later one of the same acquisition these changes were told. -/
def Tells (changes : List (Setting × Value)) (scope after : Scope σ) : Prop :=
  ∃ told, after.events = scope.events ++ told ∧ .header ∉ told ∧
    told.filterMap Event.change? = changes

namespace Tells

variable {changes later : List (Setting × Value)} {scope middle after : Scope σ}

theorem none (same : after.events = scope.events) : Tells [] scope after :=
  ⟨[], by rw [same, List.append_nil], List.not_mem_nil, rfl⟩

theorem trans (first : Tells changes scope middle) (second : Tells later middle after) :
    Tells (changes ++ later) scope after := by
  obtain ⟨told, hmiddle, within, rfl⟩ := first
  obtain ⟨told', hafter, within', rfl⟩ := second
  refine ⟨told ++ told', by rw [hafter, hmiddle, List.append_assoc], fun h => ?_,
    List.filterMap_append⟩
  exact (List.mem_append.mp h).elim within within'

private theorem of_takes {change : Option (Setting × Value)} {frames : List FrameTaken}
    (taken : Takes change frames scope after) : Tells change.toList scope after := by
  refine ⟨_, taken.events, Takes.header_not_mem, ?_⟩
  rw [List.filterMap_append, FrameTaken.filterMap_change?_events, List.append_nil]
  cases change <;> rfl

private theorem sinceHeader (tells : Tells changes scope after)
    (fresh : Oscilloscope.sinceHeader scope.events = []) :
    (Oscilloscope.sinceHeader after.events).filterMap Event.change? = changes := by
  obtain ⟨told, hafter, within, rfl⟩ := tells
  rw [hafter, sinceHeader_append within, fresh, List.nil_append]

end Tells

/-- The session told so far is the one that a report of `fresh` leaves. Without one before, `fresh`
is what was told so far. -/
structure Reported (fresh : Snapshot) (change? : Option (Setting × Value))
    (scope after : Scope σ) : Prop where
  told : (Report.of (scope.baseline.getD fresh) fresh).told = .ok change?
  baseline : after.baseline = some (Report.of (scope.baseline.getD fresh) fresh).baseline
  tells : Tells change?.toList scope after

theorem Reported.congr {fresh : Snapshot} {change? : Option (Setting × Value)}
    {scope middle after : Scope σ} (h : Reported fresh change? scope middle)
    (baseline : after.baseline = middle.baseline) (events : after.events = middle.events) :
    Reported fresh change? scope after where
  told := h.told
  baseline := baseline.trans h.baseline
  tells := by
    obtain ⟨told, hmiddle, within, changes⟩ := h.tells
    exact ⟨told, events.trans hmiddle, within, changes⟩

private theorem ChangeTold.reports {fresh : Snapshot} {scope told : Scope σ}
    (h : ChangeTold fresh scope (.ok ()) told) : ∃ change?, Reported fresh change? scope told := by
  generalize hr : (Except.ok () : Except Fault Unit) = r at h
  cases h with
  | begun empty =>
    refine ⟨none, ?_, ?_, .none rfl⟩
    · rw [empty, Option.getD_none, Report.of, Report.among_self]
    · rw [empty, Option.getD_none, Report.of, Report.among_self]
  | @reported baseline kept =>
    cases htold : (Report.of baseline fresh).told with
    | error fault =>
      rw [htold] at hr
      cases hr
    | ok change? =>
      have taken : Takes change? [] scope
          { scope with
            baseline := some (Report.of baseline fresh).baseline
            events := scope.events ++ (Report.of baseline fresh).events } := by
        refine ⟨?_, (Tally.add_zero _).symm⟩
        rw [Report.events_of_told htold, List.flatMap_nil, List.append_nil]
      exact ⟨change?, by rw [kept]; exact htold, by rw [kept]; rfl, .of_takes taken⟩

variable [Transport σ] {handle : Handle} {scope after : Scope σ}

theorem FrameRead.baseline {fresh : Snapshot} {c : ChannelId} {r : Except Fault Unit}
    (h : FrameRead handle fresh c scope r after) : after.baseline = scope.baseline := by
  cases h <;> rfl

theorem FrameRead.tells {fresh : Snapshot} {c : ChannelId} {r : Except Fault Unit}
    (h : FrameRead handle fresh c scope r after) : Tells [] scope after := by
  obtain ⟨frame, taken, -⟩ := h.takes
  exact .of_takes taken

theorem Captured.reports (h : Captured handle scope (.ok ()) after) :
    ∃ fresh change?, result (Bank.fetch handle.tuning) scope.bank = .ok fresh ∧
      after.bank.published = some fresh ∧ Reported fresh change? scope after := by
  cases h with
  | @complete fresh told first second fetch change ch1 ch2 =>
    obtain ⟨change?, htold, baseline, tells⟩ := change.reports
    have frames : Tells change?.toList scope second := by
      have told' : Tells change?.toList scope (told.publishing fresh) := tells
      have both := (told'.trans ch1.tells).trans ch2.tells
      rwa [List.append_nil, List.append_nil] at both
    have reported : Reported fresh change? scope second :=
      ⟨htold, (ch2.baseline.trans ch1.baseline).trans baseline, frames⟩
    have published : second.bank.published = some fresh := ch2.published.trans ch1.published
    refine ⟨fresh, change?, fetch, ?_⟩
    split
    · exact ⟨by rw [stopRequested_bank, published],
        reported.congr second.stopRequested_baseline second.stopRequested_events⟩
    · exact ⟨published, reported⟩

end Scope

namespace Call

variable {σ : Type} [Transport σ] {handle : Handle} {scope : Scope σ}

/-- The snapshot that a call reads for the acquisition. -/
def reading (handle : Handle) (call : Call) (scope : Scope σ) : Option Snapshot :=
  match call with
  | .tick =>
    if scope.phase = .capturing then (result (Bank.fetch handle.tuning) scope.bank).toOption
    else none
  | _ => none

def readings (handle : Handle) : List Call → Scope σ → List Snapshot
  | [], _ => []
  | call :: rest, scope =>
    (call.reading handle scope).toList ++ readings handle rest (call.after handle scope)

/-- Whether a call is anything but a tick that fails. -/
def ticksWell (handle : Handle) (call : Call) (scope : Scope σ) : Bool :=
  match call with
  | .tick => (result (Scope.tick handle) scope).isOk
  | _ => true

def runsWell (handle : Handle) : List Call → Scope σ → Bool
  | [], _ => true
  | call :: rest, scope =>
    call.ticksWell handle scope && runsWell handle rest (call.after handle scope)

/-- What a call does for a session that follows the changes. -/
inductive Conveys (scope after : Scope σ) : Option Snapshot → Prop
  | unread (baseline : after.baseline = scope.baseline) (tells : Scope.Tells [] scope after) :
      Conveys scope after none
  | read {fresh : Snapshot} {change? : Option (Setting × Value)}
      (reported : Scope.Reported fresh change? scope after) : Conveys scope after (some fresh)

private theorem reading_of_resting (call : Call) (resting : scope.phase ≠ .capturing) :
    call.reading handle scope = none := by
  cases call with
  | tick => exact if_neg resting
  | _ => rfl

private theorem reading_of_fetch {fresh : Snapshot} (capturing : scope.phase = .capturing)
    (fetch : result (Bank.fetch handle.tuning) scope.bank = .ok fresh) :
    reading handle .tick scope = some fresh := by
  rw [reading, if_pos capturing, fetch]
  rfl

private theorem conveys_tick (well : (result (Scope.tick handle) scope).isOk = true) :
    Conveys scope (after handle .tick scope) (reading handle .tick scope) := by
  rw [after_tick]
  have ticked := Scope.tick_ticks handle scope
  generalize result (Scope.tick handle) scope = r at ticked well
  generalize final (Scope.tick handle) scope = after at ticked ⊢
  cases ticked with
  | idle idle =>
    rw [reading_of_resting .tick (by rw [idle]; decide)]
    exact .unread rfl (.none rfl)
  | ended stopping =>
    rw [reading_of_resting .tick (by rw [stopping]; decide)]
    exact .unread rfl ⟨[.ended], rfl, by decide, rfl⟩
  | failed => cases well
  | continued capturing round =>
    obtain ⟨fresh, change?, fetch, -, reported⟩ := round.reports
    rw [reading_of_fetch capturing fetch]
    exact .read reported

private theorem conveys_after {call : Call} (other : call ≠ .start)
    (well : call.ticksWell handle scope = true) :
    Conveys scope (call.after handle scope) (call.reading handle scope) := by
  cases beside : call.acquires with
  | false =>
    obtain ⟨-, baseline, events, -⟩ :=
      Scope.Session.mk.inj (session_after beside handle scope)
    have unread : call.reading handle scope = none := by
      cases call with
      | tick => cases beside
      | _ => rfl
    rw [unread]
    exact .unread baseline (.none events)
  | true =>
    cases call with
    | start => exact absurd rfl other
    | requestStop =>
      exact .unread scope.stopRequested_baseline (.none scope.stopRequested_events)
    | tick => exact conveys_tick well
    | _ => cases beside

theorem run_reports {calls : List Call} {start : Snapshot} (unstarted : .start ∉ calls)
    (well : runsWell handle calls scope = true)
    (source : scope.baseline.or (readings handle calls scope).head? = some start) :
    ∃ last changes, Reports start (readings handle calls scope) last changes ∧
      Scope.Tells changes scope (run handle calls scope) := by
  -- The first call either reads nothing and keeps the baseline, or its reading is reported.
  induction calls generalizing scope start with
  | nil => exact ⟨start, [], .none start, .none rfl⟩
  | cons call rest ih =>
    have other : call ≠ .start := fun eq => unstarted (eq ▸ List.mem_cons_self)
    have later : .start ∉ rest := fun mem => unstarted (List.mem_cons_of_mem call mem)
    obtain ⟨now, wellLater⟩ := Bool.and_eq_true_iff.mp well
    have conveys := conveys_after other now
    rw [readings] at source ⊢
    generalize call.reading handle scope = reading at conveys source ⊢
    cases conveys with
    | unread baseline tells =>
      rw [Option.toList_none, List.nil_append] at source ⊢
      rw [← baseline] at source
      obtain ⟨last, changes, reports, tellsLater⟩ := ih later wellLater source
      exact ⟨last, changes, reports, tells.trans tellsLater⟩
    | @read fresh change? reported =>
      rw [Option.toList_some, List.singleton_append] at source ⊢
      have before : scope.baseline.getD fresh = start := by
        cases hbaseline : scope.baseline with
        | none =>
          rw [hbaseline] at source
          exact Option.some.inj source
        | some baseline =>
          rw [hbaseline] at source
          exact Option.some.inj source
      obtain ⟨told, baseline, tells⟩ := reported
      rw [before] at told baseline
      obtain ⟨last, changes, reports, tellsLater⟩ :=
        ih later wellLater (by rw [baseline]; rfl)
      exact ⟨last, _, .report told reports, tells.trans tellsLater⟩

private theorem readings_append (handle : Handle) (calls later : List Call) (scope : Scope σ) :
    readings handle (calls ++ later) scope =
      readings handle calls scope ++ readings handle later (run handle calls scope) := by
  induction calls generalizing scope with
  | nil => rfl
  | cons call rest ih =>
    rw [List.cons_append, readings, readings, ih, List.append_assoc]
    rfl

private theorem runsWell_append (handle : Handle) (calls later : List Call) (scope : Scope σ) :
    runsWell handle (calls ++ later) scope =
      (runsWell handle calls scope && runsWell handle later (run handle calls scope)) := by
  induction calls generalizing scope with
  | nil => rfl
  | cons call rest ih =>
    rw [List.cons_append, runsWell, runsWell, ih, Bool.and_assoc]
    rfl

private theorem published_of_tick (well : ticksWell handle .tick scope = true)
    (capturing : (after handle .tick scope).phase = .capturing) :
    ∃ fresh, reading handle .tick scope = some fresh ∧
      (after handle .tick scope).bank.published = some fresh := by
  rw [after_tick] at capturing ⊢
  have ticked := Scope.tick_ticks handle scope
  rw [ticksWell] at well
  generalize result (Scope.tick handle) scope = r at ticked well
  generalize final (Scope.tick handle) scope = after at ticked capturing ⊢
  cases ticked with
  | idle idle =>
    rw [idle] at capturing
    cases capturing
  | ended => cases capturing
  | failed => cases well
  | continued running round =>
    obtain ⟨fresh, change?, fetch, published, -⟩ := round.reports
    exact ⟨fresh, reading_of_fetch running fetch, published⟩

end Call

namespace Scope

variable {σ : Type} [Transport σ] {scope : Scope σ} {s : Snapshot}

theorem getValue_of_current {key : Key} {index : Option Nat} {x : Setting} {w : Value}
    (handle : Handle) (register : key.inRegisters = true) (address : key.address index = .ok x)
    (current : scope.phase = .capturing ∧ scope.bank.published = some s ∨
      scope.phase ≠ .capturing ∧ result (Bank.fetch handle.tuning) scope.bank = .ok s)
    (value : s.describe x = .ok w) : result (getValue handle key index) scope = .ok w := by
  have seen : result (snapshot handle) scope = .ok s := by
    rcases current with ⟨capturing, published⟩ | ⟨resting, fetch⟩
    · rw [(snapshot_of_capturing handle capturing).1, shadow, Bank.shadow, published]
      rfl
    · rw [snapshot, result_bind_ok (result_get _), final_get, if_neg resting, refresh,
        result_onBank, (Bank.refresh_of_fetch fetch).1]
  rw [(getValue_consults handle scope register address).1, seen]
  exact value

/-- An acquisition without limits on a line where the instrument goes on to send these snapshots, in
which all codes are known and no channel is shown. -/
structure Dark (handle : Handle) (snapshots : List Snapshot) (scope : Scope σ) : Prop where
  capturing : scope.phase = .capturing
  unlimited : scope.LimitedTo 0 0
  sent : Replays scope.bank.line.device (snapshots.flatMap (Bank.sending handle.tuning))
  known : ∀ s ∈ snapshots, s.Known
  hidden : ∀ s ∈ snapshots, ∀ c, s.channelEnabled c = false

private theorem Dark.tick {handle : Handle} {rest : List Snapshot}
    (dark : scope.Dark handle (s :: rest)) :
    Call.ticksWell handle .tick scope = true ∧ Call.reading handle .tick scope = some s ∧
      (Call.after handle .tick scope).Dark handle rest := by
  obtain ⟨capturing, unlimited, sent, known, hidden⟩ := dark
  rw [List.flatMap_cons] at sent
  have first := (replays_append.mp sent).1
  have yielded := Bank.yielded_sending handle.tuning s
  have shows : ChannelId.all.countP s.channelEnabled = 0 := by
    refine List.countP_eq_zero.mpr fun c _ => ?_
    rw [hidden s List.mem_cons_self c]
    exact Bool.false_ne_true
  have round : RoundGiven handle.tuning 0 (Bank.sending handle.tuning s ++ [] ++ []) :=
    .whole yielded (known s List.mem_cons_self) shows
      (.hidden (hidden s List.mem_cons_self .ch1)) (.hidden (hidden s List.mem_cons_self .ch2))
  rw [List.append_nil, List.append_nil] at round
  have fetched := (Bank.fetch_of_yielded yielded first).1
  have ticked := tick_ticks handle scope
  rw [Call.after_tick, Call.ticksWell, Call.reading_of_fetch capturing fetched]
  generalize result (Scope.tick handle) scope = r at ticked ⊢
  generalize final (Scope.tick handle) scope = after at ticked ⊢
  cases ticked with
  | idle resting | ended resting => cases capturing.symm.trans resting
  | failed _ failed => cases (failed.gives round first).1
  | continued _ whole =>
    have still : after.LimitedTo 0 0 := whole.limit.trans unlimited
    have turned := whole.phase_of_ok capturing
    rw [still.spent_eq_false_iff.mpr ⟨.inl rfl, .inl rfl⟩] at turned
    exact ⟨rfl, rfl, turned, still, (whole.gives round first).2.replays sent,
      fun s hs => known s (List.mem_cons_of_mem _ hs),
      fun s hs => hidden s (List.mem_cons_of_mem _ hs)⟩

private theorem Dark.ticks {handle : Handle} {snapshots : List Snapshot}
    (dark : scope.Dark handle snapshots) :
    Call.runsWell handle (List.replicate snapshots.length .tick) scope = true ∧
      Call.readings handle (List.replicate snapshots.length .tick) scope = snapshots := by
  induction snapshots generalizing scope with
  | nil => exact ⟨rfl, rfl⟩
  | cons s rest ih =>
    obtain ⟨well, reading, later⟩ := dark.tick
    obtain ⟨wellLater, readings⟩ := ih later
    rw [List.length_cons, List.replicate_succ, Call.runsWell, Call.readings, well, wellLater,
      reading, readings]
    exact ⟨rfl, rfl⟩

end Scope

namespace Call

variable {σ : Type} [Transport σ]

private theorem acquisition_reports (handle : Handle) (scope : Scope σ) {later : List Call}
    {start : Snapshot} (idle : scope.phase = .idle) (unstarted : .start ∉ later)
    (well : runsWell handle (.start :: later) scope = true)
    (source :
      scope.bank.published.or (readings handle (.start :: later) scope).head? = some start) :
    ∃ last, Reports start (readings handle (.start :: later) scope) last
      ((sinceHeader (run handle (.start :: later) scope).events).filterMap Event.change?) := by
  let begun := scope.begun handle
  have started : after handle .start scope = begun := after_start_of_idle handle idle
  have read : readings handle (.start :: later) scope = readings handle later begun := by
    rw [← started]
    rfl
  have ran : run handle (.start :: later) scope = run handle later begun := by
    rw [← started]
    rfl
  have wellLater : runsWell handle later begun = true := by
    rw [← started]
    exact (Bool.and_eq_true_iff.mp well).2
  rw [read] at source ⊢
  obtain ⟨last, changes, reports, tells⟩ := run_reports unstarted wellLater source
  rw [ran, tells.sinceHeader (sinceHeader_header scope.events)]
  exact ⟨last, reports⟩

private theorem published_of_readings {handle : Handle} {scope : Scope σ} (calls : List Call)
    (well : runsWell handle (calls ++ [.tick]) scope = true)
    (capturing : (run handle (calls ++ [.tick]) scope).phase = .capturing) :
    (run handle (calls ++ [.tick]) scope).bank.published =
      (readings handle (calls ++ [.tick]) scope).getLast? := by
  rw [run_concat] at capturing ⊢
  rw [runsWell_append] at well
  have tickWell := (Bool.and_eq_true_iff.mp (Bool.and_eq_true_iff.mp well).2).1
  obtain ⟨s, hs, published⟩ := published_of_tick tickWell capturing
  rw [published, readings_append, readings, hs]
  exact List.getLast?_concat.symm

/-- A session that keeps, from the start of an acquisition on, the values of the settings that are
reported, and replaces each by the values that it is told: after ticks that all succeed, of which
the last twenty have read the same snapshot, it holds the value in that snapshot, which asking for
the setting then gives as well. What the value takes from registers of other groups needs to be in
the snapshot as it was when the value was told last, as moving that is not told under the setting.
And no snapshot since then may have another trigger level register while its source is not a
channel, as without a value to tell the level moves silently. -/
theorem run_follows_values (handle : Handle) (scope : Scope σ) (later : List Call)
    (start fresh : Snapshot) (earlier : List Snapshot) (g : Group) (v w : Value)
    (idle : scope.phase = .idle) (unstarted : .start ∉ later)
    (well : runsWell handle (.start :: (later ++ [.tick])) scope = true)
    (source : scope.bank.published.or
      (readings handle (.start :: (later ++ [.tick])) scope).head? = some start)
    (settled : readings handle (.start :: (later ++ [.tick])) scope =
      earlier ++ List.replicate 20 fresh)
    (value : start.describe g.setting = .ok v) (now : fresh.describe g.setting = .ok w) :
    let last := run handle (.start :: (later ++ [.tick])) scope
    let told := Report.lastTold g.setting { source := start } start
      (earlier ++ List.replicate 20 fresh)
    g.LeansAlike told.source fresh →
      (g = .triggerLevel → ∀ s ∈ told.since, ∀ source, s.triggerSource = .ok source →
        source.channel? = none → s.trigger.level = told.source.trigger.level) →
      held g.setting v ((sinceHeader last.events).filterMap Event.change?) = w ∧
        ∀ key index, key.address index = .ok g.setting →
          (last.phase = .capturing ∨ result (Bank.fetch handle.tuning) last.bank = .ok fresh) →
            result (Scope.getValue handle key index) last = .ok w := by
  intro last told alike kept
  have others : .start ∉ later ++ [.tick] := by
    intro mem
    rcases List.mem_append.mp mem with mem | mem
    · exact unstarted mem
    · cases List.mem_singleton.mp mem
  constructor
  · obtain ⟨_, reports⟩ := acquisition_reports handle scope idle others well source
    rw [settled] at reports
    refine reports.held_eq (by decide) value now alike fun s hs => ?_
    exact Group.open_of_level fun level => kept level s hs
  · intro key index address current
    have register : key.inRegisters = true := by
      rw [← Key.key_of_address address]
      exact g.inRegisters
    refine Scope.getValue_of_current handle register address ?_ now
    by_cases capturing : last.phase = .capturing
    · have published : last.bank.published = _ :=
        published_of_readings (.start :: later) well capturing
      rw [List.cons_append, settled, List.getLast?_append, List.getLast?_replicate] at published
      exact .inl ⟨capturing, published⟩
    · exact .inr ⟨capturing, current.resolve_left capturing⟩

def sent (snapshots : List Snapshot) : Scope Script :=
  let transfers := snapshots.flatMap (Bank.sending {})
  Scope.ofLine { device := { reads := transfers.filterMap Transfer.received? } }

theorem run_sent {snapshots : List Snapshot} {start : Snapshot} (known : ∀ s ∈ snapshots, s.Known)
    (hidden : ∀ s ∈ snapshots, ∀ c, s.channelEnabled c = false)
    (first : snapshots.head? = some start) :
    let calls := .start :: List.replicate snapshots.length .tick
    runsWell ⟨{}, none⟩ calls (sent snapshots) = true ∧
      readings ⟨{}, none⟩ calls (sent snapshots) = snapshots ∧
      (sinceHeader (run ⟨{}, none⟩ calls (sent snapshots)).events).filterMap Event.change? =
        Report.tellings start snapshots := by
  intro calls
  have idle : (sent snapshots).phase = .idle := rfl
  have started := after_start_of_idle ⟨{}, none⟩ idle
  have scripted : ∀ x ∈ snapshots.flatMap (Bank.sending {}), x.scripted = true := by
    intro x hx
    obtain ⟨s, -, hx⟩ := List.mem_flatMap.mp hx
    exact Bank.scripted_of_mem_sending {} s x hx
  have unlimited : ((sent snapshots).begun ⟨{}, none⟩).LimitedTo 0 0 := by
    funext kind
    cases kind <;> rfl
  have dark : ((sent snapshots).begun ⟨{}, none⟩).Dark ⟨{}, none⟩ snapshots :=
    ⟨rfl, unlimited, Script.replays_received scripted, known, hidden⟩
  obtain ⟨well, read⟩ := dark.ticks
  rw [← started] at well read
  have well : runsWell ⟨{}, none⟩ calls (sent snapshots) = true := well
  have read : readings ⟨{}, none⟩ calls (sent snapshots) = snapshots := read
  have unstarted : .start ∉ List.replicate snapshots.length Call.tick := fun mem =>
    Call.noConfusion (List.eq_of_mem_replicate mem)
  have source : (sent snapshots).bank.published.or
      (readings ⟨{}, none⟩ calls (sent snapshots)).head? = some start := by
    rw [read]
    exact first
  obtain ⟨last, reports⟩ := acquisition_reports ⟨{}, none⟩ (sent snapshots) idle unstarted well
    source
  rw [read] at reports
  exact ⟨well, read, reports.eq_tellings⟩

/-- On a line where the first snapshots are sent, and then twenty times `fresh`, a session that
follows the changes comes to hold another value than the one in `fresh`. -/
def Misses (g : Group) (earlier : List Snapshot) (fresh : Snapshot) : Prop :=
  let snapshots := earlier ++ List.replicate 20 fresh
  let calls := .start :: List.replicate snapshots.length .tick
  runsWell ⟨{}, none⟩ calls (sent snapshots) = true ∧
    readings ⟨{}, none⟩ calls (sent snapshots) = snapshots ∧
    ∃ start v w, earlier.head? = some start ∧ start.describe g.setting = .ok v ∧
      fresh.describe g.setting = .ok w ∧
      held g.setting v ((sinceHeader
        (run ⟨{}, none⟩ calls (sent snapshots)).events).filterMap Event.change?) ≠ w

private theorem misses_of_tellings {g : Group} {earlier : List Snapshot} {start fresh : Snapshot}
    (known : ∀ s ∈ earlier ++ [fresh], s.Known)
    (hidden : ∀ s ∈ earlier ++ [fresh], ∀ c ∈ ChannelId.all, s.channelEnabled c = false)
    (first : earlier.head? = some start)
    (missed : (do
      let v ← start.describe g.setting
      let w ← fresh.describe g.setting
      let told := Report.tellings start (earlier ++ List.replicate 20 fresh)
      return held g.setting v told != w).toOption = some true) : Misses g earlier fresh := by
  have among : ∀ s ∈ earlier ++ List.replicate 20 fresh, s ∈ earlier ++ [fresh] := by
    intro s hs
    rcases List.mem_append.mp hs with mem | mem
    · exact List.mem_append_left _ mem
    · rw [List.eq_of_mem_replicate mem]
      exact List.mem_append_right _ List.mem_cons_self
  have front : (earlier ++ List.replicate 20 fresh).head? = some start := by
    rw [List.head?_append, first]
    rfl
  obtain ⟨well, read, told⟩ := run_sent (fun s hs => known s (among s hs))
    (fun s hs c => hidden s (among s hs) c (by cases c <;> decide)) front
  cases value : start.describe g.setting with
  | error =>
    rw [value] at missed
    cases missed
  | ok v =>
    cases now : fresh.describe g.setting with
    | error =>
      rw [value, now] at missed
      cases missed
    | ok w =>
      rw [value, now] at missed
      refine ⟨well, read, start, v, w, first, value, now, ?_⟩
      rw [told]
      exact bne_iff_ne.mp (Option.some.inj missed)

/- The first channel has a fine adjustment, and is the source of the trigger unless `source` is the
   code of another one. -/

namespace Levels

def adjusted (source : UInt8) (level : Int16) : Snapshot :=
  let s := Snapshot.zero.setVertical .ch1 fun r => { r with fine := 1, fineCount := 10 }
  { s with trigger := { s.trigger with source, level } }

def earlier : List Snapshot :=
  [adjusted 0 0, adjusted 0 25, adjusted 2 25]

def snapshots : List Snapshot :=
  earlier ++ List.replicate 20 (adjusted 0 25)

def rescaled : List Snapshot :=
  let changes : List (VerticalRegisters → VerticalRegisters) :=
    [fun r => { r with range := 1 }, fun r => { r with probe := 1 }, fun r => { r with fine := 0 },
      fun r => { r with fineCount := 20 }, fun r => { r with position := 5 }]
  adjusted 1 25 :: changes.map fun change => (adjusted 0 25).setVertical .ch1 change

end Levels

open Levels in
theorem run_follows_values_of_level :
    let calls := .start :: (List.replicate 22 .tick ++ [.tick])
    ∃ v w, (adjusted 0 0).describe (.device .triggerLevel) = .ok v ∧
      (adjusted 0 25).describe (.device .triggerLevel) = .ok w ∧
      held (.device .triggerLevel) v ((sinceHeader
        (run ⟨{}, none⟩ calls (sent snapshots)).events).filterMap Event.change?) = w := by
  intro calls
  have known : ∀ s ∈ snapshots, s.Known := by decide +kernel
  have hidden : ∀ s ∈ snapshots, ∀ c ∈ ChannelId.all, s.channelEnabled c = false := by
    decide +kernel
  obtain ⟨well, read, -⟩ := run_sent known
    (fun s hs c => hidden s hs c (by cases c <;> decide)) (rfl : snapshots.head? = _)
  have unstarted : .start ∉ List.replicate 22 Call.tick := fun mem =>
    Call.noConfusion (List.eq_of_mem_replicate mem)
  have last : Report.lastTold Group.triggerLevel.setting { source := adjusted 0 0 } (adjusted 0 0)
      (earlier ++ List.replicate 20 (adjusted 0 25)) =
        ⟨adjusted 0 25, adjusted 2 25 :: List.replicate 20 (adjusted 0 25)⟩ := by
    decide +kernel
  obtain ⟨v, hv⟩ : ∃ v, (adjusted 0 0).describe (.device .triggerLevel) = .ok v := by
    decide +kernel
  obtain ⟨w, hw⟩ : ∃ w, (adjusted 0 25).describe (.device .triggerLevel) = .ok w := by
    decide +kernel
  have source : (sent snapshots).bank.published.or
      (readings ⟨{}, none⟩ calls (sent snapshots)).head? = some (adjusted 0 0) := by
    rw [show readings ⟨{}, none⟩ calls (sent snapshots) = snapshots from read]
    rfl
  refine ⟨v, w, hv, hw, (run_follows_values ⟨{}, none⟩ (sent snapshots) (List.replicate 22 .tick)
    (adjusted 0 0) (adjusted 0 25) earlier .triggerLevel v w rfl unstarted well source read hv hw
    ?_ ?_).1⟩
  · rw [last]
    intro here triggers there triggers'
    cases Option.mem_unique triggers triggers'
    exact ⟨rfl, rfl⟩
  · rw [last]
    have kept : ∀ s ∈ adjusted 2 25 :: List.replicate 20 (adjusted 0 25),
        s.trigger.level = (adjusted 0 25).trigger.level := by decide +kernel
    exact fun _ s hs _ _ _ => kept s hs

open Levels in
/-- Where registers of other groups move, the session misses it: a probe is not told under the volts
a division that it scales, nor is anything that scales the trigger level told under that. And it
misses a level that has moved while the source of the trigger was not a channel. -/
theorem run_misses_moves :
    Misses (.range .ch1) [.zero] (Snapshot.zero.setVertical .ch1 fun r => { r with probe := 1 }) ∧
      (∀ fresh ∈ rescaled, Misses .triggerLevel [adjusted 0 25] fresh) ∧
      Misses .triggerLevel [adjusted 0 0, adjusted 2 0, adjusted 2 25] (adjusted 0 25) := by
  refine ⟨?_, fun fresh among => ?_, ?_⟩
  · exact misses_of_tellings (by decide +kernel) (by decide +kernel) rfl (by decide +kernel)
  · have known : ∀ fresh ∈ rescaled, ∀ s ∈ [adjusted 0 25] ++ [fresh], s.Known := by
      decide +kernel
    have hidden : ∀ fresh ∈ rescaled, ∀ s ∈ [adjusted 0 25] ++ [fresh], ∀ c ∈ ChannelId.all,
        s.channelEnabled c = false := by decide +kernel
    have missed : ∀ fresh ∈ rescaled, (do
        let v ← (adjusted 0 25).describe Group.triggerLevel.setting
        let w ← fresh.describe Group.triggerLevel.setting
        let told := Report.tellings (adjusted 0 25) ([adjusted 0 25] ++ List.replicate 20 fresh)
        return held Group.triggerLevel.setting v told != w).toOption = some true := by
      decide +kernel
    exact misses_of_tellings (known fresh among) (hidden fresh among) rfl (missed fresh among)
  · exact misses_of_tellings (by decide +kernel) (by decide +kernel) rfl (by decide +kernel)

end Call

end Oscilloscope
