/- Events and reads. What a tick tells is a value in the snapshot that it has read, and a reader
   gets the values of this snapshot from then on. Until a group is told again, what is told so far
   keeps its registers as they were when it was told, so that they differ when it is told again. -/

import Oscilloscope.Proofs.Scope.Following

set_option autoImplicit false
set_option relaxedAutoImplicit false

namespace Oscilloscope

section

variable {α : Type} {xs ys zs ws : List α} {e : α}

private theorem append_eq_append_cons (h : ws ++ xs = ys ++ e :: zs) :
    (∃ as, ys = ws ++ as ∧ xs = as ++ e :: zs) ∨ ∃ bs, ws = ys ++ e :: bs ∧ zs = bs ++ xs := by
  rcases List.append_eq_append_iff.mp h with later | ⟨bs, hws, hzs⟩
  · exact .inl later
  · cases bs with
    | nil =>
      rw [List.append_nil] at hws
      exact .inl ⟨[], by rw [hws, List.append_nil], hzs.symm⟩
    | cons b bs =>
      obtain ⟨rfl, rest⟩ := List.cons.inj hzs
      exact .inr ⟨bs, hws, rest⟩

end

namespace Report

variable {g : Group} {groups : List Group} {reported fresh : Snapshot}

private theorem among_of_told_error {fault : Fault}
    (told : (among fresh groups reported).told = .error fault) (h : Group)
    (valued : h.Valued fresh) :
    h.differs reported (among fresh groups reported).baseline = false := by
  induction groups generalizing reported with
  | nil => cases told
  | cons first rest ih =>
    have course := among_first fresh first rest reported
    generalize among fresh (first :: rest) reported = report at course told ⊢
    cases course with
    | valued => cases told
    | same => exact ih told
    | failed => exact h.differs_self reported
    | silent _ valueless =>
      have other : h ≠ first := by
        rintro rfl
        exact valued _ valueless
      exact Group.same_trans (Group.differs_of_adopt other fresh reported) (ih told)

def change? (report : Report) : Option (Setting × Value) :=
  report.told.toOption.join

private theorem filterMap_change?_events (report : Report) :
    report.events.filterMap Event.change? = report.change?.toList := by
  rw [events, change?]
  cases report.told with
  | error => rfl
  | ok change => cases change <;> rfl

private theorem header_not_mem_events (report : Report) : .header ∉ report.events := by
  rw [events]
  cases report.told with
  | error => exact List.not_mem_nil
  | ok change => cases change <;> simp [Event.ofChange]

private theorem of_change? {v : Value} (told : (of reported fresh).change? = some (g.setting, v)) :
    g.differs reported fresh = true ∧ g.differs fresh (of reported fresh).baseline = false := by
  have succeeded : (of reported fresh).told = .ok (some (g.setting, v)) := by
    rw [change?] at told
    cases outcome : (of reported fresh).told with
    | error => rw [outcome] at told; cases told
    | ok change => rw [outcome] at told; exact congrArg Except.ok told
  obtain ⟨h, setting, -, differs, adopted, -⟩ := among_of_told_some succeeded
  cases Group.setting_inj setting
  rw [Group.differs_comm g fresh]
  exact ⟨differs, adopted⟩

private theorem of_untold (valued : g.Valued fresh)
    (untold : ∀ v, (of reported fresh).change? ≠ some (g.setting, v)) :
    g.differs reported (of reported fresh).baseline = false := by
  cases told : (of reported fresh).told with
  | error fault => exact among_of_told_error told g valued
  | ok change =>
    cases change with
    | none =>
      obtain ⟨whole, same⟩ := among_of_told_none told
      rw [of, whole]
      exact same g g.mem_all (.inl valued)
    | some change =>
      obtain ⟨x, v⟩ := change
      obtain ⟨h, rfl, -, -, -, others⟩ := among_of_told_some told
      refine others g ?_ (.inl valued)
      rintro rfl
      refine untold v ?_
      rw [change?, told]
      rfl

end Report

private theorem Group.valued_of_ne {g : Group} (other : g ≠ .triggerLevel) (s : Snapshot) :
    g.Valued s :=
  fun _ valueless => other (eq_triggerLevel_of_notApplicable valueless).1

namespace Scope

variable {σ : Type} {reading before later : Option Snapshot} {scope after : Scope σ}
  {change? : Option (Setting × Value)} {g : Group}

/-- How a call that begins no acquisition moves what is told so far, with the change that it tells:
not at all, to its reading where nothing was told, or as a report of its reading does. -/
inductive Informs (reading : Option Snapshot) :
    Option Snapshot → Option Snapshot → Option (Setting × Value) → Prop
  | idle (before : Option Snapshot) : Informs reading before before none
  | begun (later : Option Snapshot) : Informs reading none later none
  | reported {fresh : Snapshot} (read : reading = some fresh) (baseline : Snapshot) :
      Informs reading (some baseline) (some (Report.of baseline fresh).baseline)
        (Report.of baseline fresh).change?

/-- The registers of a group are told so far as they are in `s`. -/
def ToldAs (g : Group) (s : Snapshot) (baseline : Option Snapshot) : Prop :=
  ∃ told, baseline = some told ∧ g.differs s told = false

private theorem Informs.toldAs {s : Snapshot} (h : Informs reading before later change?)
    (other : g ≠ .triggerLevel) (untold : ∀ v, change? ≠ some (g.setting, v))
    (told : ToldAs g s before) : ToldAs g s later := by
  obtain ⟨baseline, rfl, same⟩ := told
  cases h with
  | idle => exact ⟨baseline, rfl, same⟩
  | @reported fresh read =>
    have kept := Report.of_untold (Group.valued_of_ne other fresh) untold
    exact ⟨_, rfl, Group.same_trans same kept⟩

private theorem Informs.of_told {v : Value}
    (h : Informs reading before later (some (g.setting, v))) :
    ∃ fresh, reading = some fresh ∧ ToldAs g fresh later ∧
      ∀ s, ToldAs g s before → g.differs s fresh = true := by
  generalize htold : some (g.setting, v) = change? at h
  cases h with
  | idle | begun => cases htold
  | @reported fresh read baseline =>
    obtain ⟨differs, adopted⟩ := Report.of_change? htold.symm
    refine ⟨fresh, read, ⟨_, rfl, adopted⟩, ?_⟩
    rintro s ⟨_, ⟨⟩, same⟩
    by_contra equal
    rw [Bool.not_eq_true] at equal
    rw [Group.differs_comm] at same
    rw [Group.same_trans same equal] at differs
    cases differs

private theorem ChangeTold.informs {fresh : Snapshot} {r : Except Fault Unit}
    (h : ChangeTold fresh scope r after) :
    ∃ change?, Tells change?.toList scope after ∧
      Informs (some fresh) scope.baseline after.baseline change? := by
  cases h with
  | begun empty =>
    rw [empty]
    exact ⟨none, .none rfl, .begun _⟩
  | @reported baseline kept =>
    rw [kept]
    exact ⟨_, ⟨_, rfl, Report.header_not_mem_events _, Report.filterMap_change?_events _⟩,
      .reported rfl baseline⟩

variable [Transport σ] {handle : Handle}

private theorem Captured.informs {r : Except Fault Unit} (h : Captured handle scope r after) :
    ∃ change?, Tells change?.toList scope after ∧
      Informs (result (Bank.fetch handle.tuning) scope.bank).toOption scope.baseline after.baseline
        change? := by
  -- Frames are told after the change, and leave what is told so far.
  have framed {fresh : Snapshot} {told : Scope σ} {r : Except Fault Unit}
      (fetch : result (Bank.fetch handle.tuning) scope.bank = .ok fresh)
      (change : ChangeTold fresh (scope.fetched handle) r told) {last : Scope σ}
      (frames : Tells [] told last) (baseline : last.baseline = told.baseline) :
      ∃ change?, Tells change?.toList scope last ∧
        Informs (result (Bank.fetch handle.tuning) scope.bank).toOption scope.baseline last.baseline
          change? := by
    obtain ⟨change?, tells, informs⟩ := change.informs
    have both := tells.trans frames
    rw [List.append_nil] at both
    rw [fetch, baseline]
    exact ⟨change?, both, informs⟩
  cases h with
  | unfetched => exact ⟨none, .none rfl, .idle _⟩
  | untold fetch change => exact framed fetch change (.none rfl) rfl
  | firstFailed fetch change ch1 => exact framed fetch change ch1.tells ch1.baseline
  | secondFailed fetch change ch1 ch2 =>
    exact framed fetch change (ch1.tells.trans ch2.tells) (ch2.baseline.trans ch1.baseline)
  | @complete _ _ _ second fetch change ch1 ch2 =>
    have frames := ch1.tells.trans ch2.tells
    have baseline := ch2.baseline.trans ch1.baseline
    split
    · exact framed fetch change
        (frames.trans (.none second.stopRequested_events))
        (second.stopRequested_baseline.trans baseline)
    · exact framed fetch change frames baseline

end Scope

namespace Call

variable {σ : Type} [Transport σ] {handle : Handle} {scope : Scope σ}

/-- All that is told in a run, each event with the snapshot that the telling call has read. -/
def tellings (handle : Handle) : List Call → Scope σ → List (Event × Option Snapshot)
  | [], _ => []
  | call :: rest, scope =>
    (call.told handle scope).map (fun e => (e, call.reading handle scope)) ++
      tellings handle rest (call.after handle scope)

private theorem informs_tick (handle : Handle) (scope : Scope σ) :
    ∃ change?, Scope.Tells change?.toList scope (after handle .tick scope) ∧
      Scope.Informs (reading handle .tick scope) scope.baseline (after handle .tick scope).baseline
        change? := by
  have read (capturing : scope.phase = .capturing) : reading handle .tick scope =
      (result (Bank.fetch handle.tuning) scope.bank).toOption := if_pos capturing
  rw [after_tick]
  have ticked := Scope.tick_ticks handle scope
  generalize result (Scope.tick handle) scope = r at ticked
  generalize final (Scope.tick handle) scope = after at ticked ⊢
  have ends (last : Scope σ) : Scope.Tells [] last last.finished :=
    ⟨[.ended], rfl, by decide, rfl⟩
  cases ticked with
  | idle => exact ⟨none, .none rfl, .idle _⟩
  | ended => exact ⟨none, ends scope, .idle _⟩
  | @failed fault last capturing round =>
    obtain ⟨change?, tells, informs⟩ := round.informs
    have both := tells.trans (ends last)
    rw [List.append_nil] at both
    rw [read capturing]
    exact ⟨change?, both, informs⟩
  | continued capturing round =>
    rw [read capturing]
    exact round.informs

private theorem begins_or_informs (handle : Handle) (call : Call) (scope : Scope σ) :
    (call.after handle scope).events = scope.events ++ [.header] ∨
      ∃ change?, Scope.Tells change?.toList scope (call.after handle scope) ∧
        Scope.Informs (call.reading handle scope) scope.baseline
          (call.after handle scope).baseline change? := by
  cases beside : call.acquires with
  | false =>
    obtain ⟨-, baseline, events, -⟩ := Scope.Session.mk.inj (session_after beside handle scope)
    rw [baseline]
    exact .inr ⟨none, .none events, .idle _⟩
  | true =>
    cases call with
    | start =>
      rw [after_start]
      have course := Scope.start_starts handle scope
      generalize result (Scope.start handle) scope = r at course
      generalize final (Scope.start handle) scope = after at course ⊢
      cases course with
      | begun => exact .inl rfl
      | busy => exact .inr ⟨none, .none rfl, .idle _⟩
    | requestStop =>
      rw [after_requestStop, scope.stopRequested_baseline]
      exact .inr ⟨none, .none scope.stopRequested_events, .idle _⟩
    | tick => exact .inr (informs_tick handle scope)
    | _ => cases beside

private theorem events_after (handle : Handle) (call : Call) (scope : Scope σ) :
    (call.after handle scope).events = scope.events ++ call.told handle scope := by
  rcases begins_or_informs handle call scope with begins | ⟨_, ⟨events, tells, -⟩, -⟩
  · rw [told_eq begins, begins]
  · rw [told_eq tells, tells]

theorem events_run (handle : Handle) (calls : List Call) (scope : Scope σ) :
    (run handle calls scope).events =
      scope.events ++ (tellings handle calls scope).map Prod.fst := by
  induction calls generalizing scope with
  | nil => exact (List.append_nil _).symm
  | cons call rest ih =>
    have told :
        ((call.told handle scope).map fun e => (e, call.reading handle scope)).map Prod.fst =
          call.told handle scope := by
      rw [List.map_map]
      exact List.map_id _
    rw [tellings, List.map_append, told, ← List.append_assoc, ← events_after]
    exact ih _

private theorem of_told {call : Call} {g : Group} {v : Value} {front back : List Event}
    (told : call.told handle scope = front ++ .changed g.setting v :: back) :
    (∃ fresh, call.reading handle scope = some fresh ∧
        Scope.ToldAs g fresh (call.after handle scope).baseline ∧
        ∀ s, Scope.ToldAs g s scope.baseline → g.differs s fresh = true) ∧
      ∀ x w, .changed x w ∉ back := by
  rcases begins_or_informs handle call scope with begins | ⟨change?, tells, informs⟩
  · have mem : Event.changed g.setting v ∈ call.told handle scope := by
      rw [told]
      exact List.mem_append_right front List.mem_cons_self
    rw [told_eq begins] at mem
    cases List.mem_singleton.mp mem
  · obtain ⟨events, hevents, -, changes⟩ := tells
    have here : Event.change? (.changed g.setting v) = some (g.setting, v) := rfl
    rw [told_eq hevents] at told
    rw [told, List.filterMap_append, List.filterMap_cons_some here] at changes
    cases change? with
    | none => cases (List.append_eq_nil_iff.mp changes).2
    | some change =>
      rcases List.append_eq_singleton_iff.mp changes with ⟨-, single⟩ | ⟨-, none⟩
      · obtain ⟨rfl, rest⟩ := List.cons.inj single
        refine ⟨informs.of_told, fun x w mem => ?_⟩
        cases List.filterMap_eq_nil_iff.mp rest _ mem
      · cases none

private theorem toldAs_after {call : Call} {g : Group} {s : Snapshot} (other : g ≠ .triggerLevel)
    (quiet : ∀ e ∈ call.told handle scope, e ≠ .header ∧ ∀ v, e ≠ .changed g.setting v)
    (told : Scope.ToldAs g s scope.baseline) :
    Scope.ToldAs g s (call.after handle scope).baseline := by
  rcases begins_or_informs handle call scope with begins | ⟨change?, tells, informs⟩
  · rw [told_eq begins] at quiet
    exact absurd rfl (quiet .header List.mem_cons_self).1
  · obtain ⟨events, hevents, -, changes⟩ := tells
    rw [told_eq hevents] at quiet
    refine informs.toldAs other (fun v heq => ?_) told
    rw [heq, Option.toList_some] at changes
    obtain ⟨e, he, change⟩ : ∃ e ∈ events, Event.change? e = some (g.setting, v) := by
      rw [← List.mem_filterMap, changes]
      exact List.mem_singleton_self _
    cases e with
    | changed x w =>
      cases change
      exact (quiet _ he).2 v rfl
    | _ => cases change

private theorem differs_of_next {g : Group} {s : Snapshot} {w : Value} {r : Option Snapshot}
    {calls : List Call} {between later : List (Event × Option Snapshot)}
    (other : g ≠ .triggerLevel) (toldAs : Scope.ToldAs g s scope.baseline)
    (told : tellings handle calls scope = between ++ (.changed g.setting w, r) :: later)
    (quiet : ∀ e ∈ between, e.1 ≠ .header ∧ ∀ v, e.1 ≠ .changed g.setting v) :
    ∃ t, r = some t ∧ g.differs s t = true := by
  -- A call without a header or the group leaves what is told so far of the group.
  induction calls generalizing scope between with
  | nil => cases between <;> cases told
  | cons call rest ih =>
    rw [tellings] at told
    rcases append_eq_append_cons told with ⟨more, rfl, next⟩ | ⟨back, now, -⟩
    · have still : ∀ e ∈ call.told handle scope, e ≠ .header ∧ ∀ v, e ≠ .changed g.setting v :=
        fun e he => quiet _ (List.mem_append_left _ (List.mem_map_of_mem he))
      exact ih (toldAs_after other still toldAs) next
        fun e he => quiet e (List.mem_append_right _ he)
    · obtain ⟨front, rest', htold, -, hcons⟩ := List.map_eq_append_iff.mp now
      obtain ⟨e, back', rfl, he, -⟩ := List.map_eq_cons_iff.mp hcons
      cases he
      obtain ⟨⟨fresh, read, -, moved⟩, -⟩ := of_told htold
      exact ⟨fresh, read, moved s toldAs⟩

private theorem differs_of_successive {g : Group} {v w : Value} {r r' : Option Snapshot}
    {calls : List Call} {before between later : List (Event × Option Snapshot)}
    (other : g ≠ .triggerLevel)
    (told : tellings handle calls scope =
      before ++ (.changed g.setting v, r) :: (between ++ (.changed g.setting w, r') :: later))
    (quiet : ∀ e ∈ between, e.1 ≠ .header ∧ ∀ u, e.1 ≠ .changed g.setting u) :
    ∃ s t, r = some s ∧ r' = some t ∧ g.differs s t = true := by
  induction calls generalizing scope before with
  | nil => cases before <;> cases told
  | cons call rest ih =>
    rw [tellings] at told
    rcases append_eq_append_cons told with ⟨more, -, told⟩ | ⟨back, now, next⟩
    · exact ih told
    · obtain ⟨front, rest', htold, -, hcons⟩ := List.map_eq_append_iff.mp now
      obtain ⟨e, back', rfl, he, hback⟩ := List.map_eq_cons_iff.mp hcons
      cases he
      obtain ⟨⟨fresh, read, toldAs, -⟩, single⟩ := of_told htold
      -- The call tells no second change, so the next telling is by a later call.
      rcases append_eq_append_cons next.symm with ⟨more, rfl, later⟩ | ⟨_, again, -⟩
      · obtain ⟨t, read', differs⟩ := differs_of_next other toldAs later
          fun e he => quiet e (List.mem_append_right _ he)
        exact ⟨fresh, t, read, read', differs⟩
      · rw [again] at hback
        have mem : (.changed g.setting w, r') ∈
            back'.map fun e => (e, call.reading handle scope) := by
          rw [hback]
          exact List.mem_append_right between List.mem_cons_self
        obtain ⟨e, he, heq⟩ := List.mem_map.mp mem
        cases heq
        exact absurd he (single _ _)

private theorem told_agrees (capturing : result (Scope.tick handle) scope = .ok .capturing) :
    ∃ fresh, result (Bank.fetch handle.tuning) scope.bank = .ok fresh ∧
      (after handle .tick scope).shadow = fresh ∧
      ∀ x v, .changed x v ∈ told handle .tick scope →
        let read := Scope.getValue handle x.key (x.channel?.map ChannelId.index)
        result read (after handle .tick scope) = .ok v ∧
          final read (after handle .tick scope) = after handle .tick scope := by
  have ticked := Scope.tick_ticks handle scope
  rw [capturing, ← after_tick] at ticked
  generalize hphase : (Except.ok .capturing : Except Fault Phase) = outcome at ticked
  generalize hlast : after handle .tick scope = last at ticked ⊢
  cases ticked with
  | idle | ended | failed => cases hphase
  | continued _ round =>
    have phase : last.phase = .capturing := (Except.ok.inj hphase).symm
    obtain ⟨fresh, change?, fetch, published, reported⟩ := round.reports
    have shadow : last.shadow = fresh := by
      rw [Scope.shadow, Bank.shadow, published]
      rfl
    refine ⟨fresh, fetch, shadow, fun x v mem => ?_⟩
    obtain ⟨events, hevents, -, changes⟩ := reported.tells
    rw [told_eq (hlast ▸ hevents)] at mem
    have one : (x, v) ∈ change?.toList := by
      rw [← changes]
      exact List.mem_filterMap.mpr ⟨_, mem, rfl⟩
    have told := reported.told
    rw [Option.mem_toList.mp one] at told
    obtain ⟨g, rfl, value, -⟩ := Report.among_of_told_some told
    have address := Key.address_key g.setting
    refine ⟨Scope.getValue_of_current handle g.inRegisters address (.inl ⟨phase, published⟩) value,
      ?_⟩
    rw [(Scope.getValue_consults handle last g.inRegisters address).2]
    exact (Scope.snapshot_of_capturing handle phase).2

/-- Events and reads agree. After a tick that goes on capturing the shadow is the snapshot that the
tick has read, and a change that the tick told is what asking for the setting gives next, without
using the line. In a run, where the value of a group is told twice within an acquisition and not in
between, the readings that it was told from differ in the registers of the group. Only the trigger
level is exempt, as it can move without being told while its source is not a channel. -/
theorem events_agree_with_reads (handle : Handle) (scope : Scope σ) :
    (result (Scope.tick handle) scope = .ok .capturing →
      ∃ fresh, result (Bank.fetch handle.tuning) scope.bank = .ok fresh ∧
        (after handle .tick scope).shadow = fresh ∧
        ∀ x v, .changed x v ∈ told handle .tick scope →
          let read := Scope.getValue handle x.key (x.channel?.map ChannelId.index)
          result read (after handle .tick scope) = .ok v ∧
            final read (after handle .tick scope) = after handle .tick scope) ∧
    ∀ calls, (run handle calls scope).events =
        scope.events ++ (tellings handle calls scope).map Prod.fst ∧
      ∀ (g : Group) before between later v w r r', g ≠ .triggerLevel →
        tellings handle calls scope =
          before ++ (.changed g.setting v, r) ::
            (between ++ (.changed g.setting w, r') :: later) →
        (∀ e ∈ between, e.1 ≠ .header ∧ ∀ u, e.1 ≠ .changed g.setting u) →
        ∃ s t, r = some s ∧ r' = some t ∧ g.differs s t = true := by
  refine ⟨told_agrees, fun calls => ⟨events_run handle calls scope, ?_⟩⟩
  intro g before between later v w r r' other told quiet
  exact differs_of_successive other told quiet

end Call

namespace Call.Probing

def scope : Scope Instrument :=
  run ⟨{}, none⟩ [.refresh] (Scope.ofLine ⟨⟨List.replicate 240 0, rfl, none⟩, []⟩)

def fresh : Snapshot :=
  Snapshot.zero.setVertical .ch1 fun r => { r with probe := 1 }

/-- The probe of the first channel is set and set back, with a tick after each. -/
def backAndForth : List Call :=
  [.start, .setValue (.channel .probe) (some 0) (.natural 10), .tick,
    .setValue (.channel .probe) (some 0) (.natural 1), .tick]

private theorem tellings_backAndForth : tellings ⟨{}, none⟩ backAndForth Probing.scope =
    [(.header, none), (.changed (.channel .probe .ch1) (.natural 10), some fresh),
      (.changed (.channel .probe .ch1) (.natural 1), some .zero)] := by
  decide +kernel

end Call.Probing

namespace Call

theorem events_agree_with_reads_of_probe :
    (let scope := run ⟨{}, none⟩ (Probing.backAndForth.take 2) Probing.scope
      let last := after ⟨{}, none⟩ .tick scope
      result (Scope.getValue ⟨{}, none⟩ (.channel .probe) (some 0)) last = .ok (.natural 10) ∧
        final (Scope.getValue ⟨{}, none⟩ (.channel .probe) (some 0)) last = last) ∧
      (Group.probe .ch1).differs Probing.fresh .zero = true := by
  constructor
  · intro scope last
    have continues : (result (Scope.tick ⟨{}, none⟩) scope).toOption = some .capturing := by
      decide +kernel
    have capturing : result (Scope.tick ⟨{}, none⟩) scope = .ok .capturing := by
      cases outcome : result (Scope.tick ⟨{}, none⟩) scope with
      | ok => rw [outcome] at continues; exact congrArg Except.ok (Option.some.inj continues)
      | error => rw [outcome] at continues; cases continues
    have mem : .changed (.channel .probe .ch1) (.natural 10) ∈ told ⟨{}, none⟩ .tick scope := by
      decide +kernel
    obtain ⟨_, -, -, reads⟩ := (events_agree_with_reads ⟨{}, none⟩ scope).1 capturing
    exact reads (.channel .probe .ch1) (.natural 10) mem
  · obtain ⟨-, distinct⟩ :=
      (events_agree_with_reads ⟨{}, none⟩ Probing.scope).2 Probing.backAndForth
    obtain ⟨s, t, ⟨⟩, ⟨⟩, differs⟩ :=
      distinct (.probe .ch1) [(.header, none)] [] [] (.natural 10) (.natural 1) _ _ nofun
        Probing.tellings_backAndForth (by simp)
    exact differs

end Call

end Oscilloscope
