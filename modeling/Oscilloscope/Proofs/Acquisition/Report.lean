/- What repeated reports come to. Adopting one group leaves the others as they were, so the changes
   still to tell after a report are those from before without the first. -/

import Mathlib.Data.List.Basic
import Oscilloscope.Proofs.Outcome

set_option autoImplicit false
set_option relaxedAutoImplicit false

namespace Oscilloscope

namespace Group

theorem differs_self (g : Group) (s : Snapshot) : g.differs s s = false := by
  cases g <;> simp [differs]

theorem differs_adopt_self (g : Group) (fresh s : Snapshot) :
    g.differs (g.adopt fresh s) fresh = false := by
  cases g <;> simp [differs, adopt, adoptVertical]

theorem differs_adopt_of_ne {g h : Group} (hne : h ≠ g) (fresh s : Snapshot) :
    h.differs (g.adopt fresh s) fresh = h.differs s fresh := by
  cases g <;> cases h <;> first
    | rfl
    | exact absurd rfl hne
    | rename_i c d
      cases c <;> cases d <;> first | rfl | exact absurd rfl hne

theorem differs_of_differs_adopt {g h : Group} {fresh s : Snapshot}
    (hdiffers : h.differs (g.adopt fresh s) fresh = true) : h.differs s fresh = true := by
  by_cases hne : h = g
  · rw [hne, differs_adopt_self] at hdiffers
    cases hdiffers
  · rwa [differs_adopt_of_ne hne] at hdiffers

private theorem nodup_all : all.Nodup := by decide

end Group

/-- What the group tells between two snapshots: nothing unless it differs and has a value. -/
def Group.told (reported fresh : Snapshot) (g : Group) : Option (Setting × Value) :=
  if g.differs reported fresh then
    match fresh.describe g.setting with
    | .ok value => some (g.setting, value)
    | .error _ => none
  else none

/-- What the groups tell between two snapshots, in their order. -/
def changesAmong (groups : List Group) (reported fresh : Snapshot) : List (Setting × Value) :=
  groups.filterMap (Group.told reported fresh)

def changes (reported fresh : Snapshot) : List (Setting × Value) :=
  changesAmong Group.all reported fresh

/-- The group has a value to tell, or none by nature. -/
def Group.Describable (fresh : Snapshot) (g : Group) : Prop :=
  (∃ value, fresh.describe g.setting = .ok value) ∨
    ∃ key, fresh.describe g.setting = .error (.notApplicable key)

def Describable (reported fresh : Snapshot) : Prop :=
  ∀ g ∈ Group.all, g.differs reported fresh = true → g.Describable fresh

namespace Group

variable {g : Group} {reported fresh : Snapshot}

private theorem told_of_not_differs (h : g.differs reported fresh = false) :
    g.told reported fresh = none := by
  rw [told, h]
  rfl

private theorem told_of_value {value : Value} (h : g.differs reported fresh = true)
    (hvalue : fresh.describe g.setting = .ok value) :
    g.told reported fresh = some (g.setting, value) := by
  rw [told, if_pos h, hvalue]

private theorem told_of_fault {fault : Fault} (hfault : fresh.describe g.setting = .error fault) :
    g.told reported fresh = none := by
  rw [told, hfault]
  exact ite_self none

private theorem told_congr {s t : Snapshot} (h : g.differs s fresh = g.differs t fresh) :
    g.told s fresh = g.told t fresh := by
  rw [told, told, h]

end Group

private theorem changesAmong_cons (g : Group) (rest : List Group) (reported fresh : Snapshot) :
    changesAmong (g :: rest) reported fresh =
      (g.told reported fresh).toList ++ changesAmong rest reported fresh := by
  unfold changesAmong
  cases htold : g.told reported fresh with
  | none => rw [List.filterMap_cons_none htold, Option.toList_none, List.nil_append]
  | some told => rw [List.filterMap_cons_some htold, Option.toList_some, List.singleton_append]

private theorem changesAmong_congr {groups : List Group} {s t fresh : Snapshot}
    (h : ∀ g ∈ groups, g.differs s fresh = g.differs t fresh) :
    changesAmong groups s fresh = changesAmong groups t fresh :=
  List.filterMap_congr fun g hg => Group.told_congr (h g hg)

private theorem changesAmong_adopt {g : Group} {rest : List Group} (hnodup : (g :: rest).Nodup)
    (reported fresh : Snapshot) :
    changesAmong rest (g.adopt fresh reported) fresh = changesAmong rest reported fresh := by
  have hout : g ∉ rest := (List.nodup_cons.mp hnodup).1
  refine changesAmong_congr fun h hh => Group.differs_adopt_of_ne ?_ fresh reported
  rintro rfl
  exact hout hh

namespace Report

variable {g : Group} {rest groups : List Group} {reported fresh : Snapshot}

theorem among_of_not_differs (h : g.differs reported fresh = false) :
    among fresh (g :: rest) reported = among fresh rest reported := by
  rw [among, h]
  rfl

theorem among_of_value {value : Value} (h : g.differs reported fresh = true)
    (hvalue : fresh.describe g.setting = .ok value) :
    among fresh (g :: rest) reported =
      ⟨g.adopt fresh reported, .ok (some (g.setting, value))⟩ := by
  rw [among, if_pos h, hvalue]

theorem among_of_notApplicable {key : Key} (h : g.differs reported fresh = true)
    (hfault : fresh.describe g.setting = .error (.notApplicable key)) :
    among fresh (g :: rest) reported = among fresh rest (g.adopt fresh reported) := by
  rw [among, if_pos h, hfault]

theorem among_of_fault {fault : Fault} (h : g.differs reported fresh = true)
    (hfault : fresh.describe g.setting = .error fault)
    (happlies : ∀ key, fault ≠ .notApplicable key) :
    among fresh (g :: rest) reported = ⟨reported, .error fault⟩ := by
  rw [among, if_pos h, hfault]
  cases fault with
  | notApplicable key => exact absurd rfl (happlies key)
  | _ => rfl

theorem differs_of_differs_among {h : Group}
    (hdiffers : h.differs (among fresh groups reported).baseline fresh = true) :
    h.differs reported fresh = true := by
  induction groups generalizing reported with
  | nil =>
    rw [among, Group.differs_self] at hdiffers
    cases hdiffers
  | cons g rest ih =>
    unfold among at hdiffers
    split at hdiffers
    · split at hdiffers
      · exact Group.differs_of_differs_adopt hdiffers
      · exact Group.differs_of_differs_adopt (ih hdiffers)
      · exact hdiffers
    · exact ih hdiffers

theorem among_spec (hnodup : groups.Nodup)
    (hdescribable : ∀ g ∈ groups, g.differs reported fresh = true → g.Describable fresh) :
    (among fresh groups reported).told = .ok (changesAmong groups reported fresh).head? ∧
      changesAmong groups (among fresh groups reported).baseline fresh =
        (changesAmong groups reported fresh).tail ∧
      (changesAmong groups reported fresh = [] →
        (among fresh groups reported).baseline = fresh) := by
  -- A group without a value moves `reported` on, so the induction is over all of its values.
  induction groups generalizing reported with
  | nil => exact ⟨rfl, rfl, fun _ => rfl⟩
  | cons g rest ih =>
    have hrest : rest.Nodup := (List.nodup_cons.mp hnodup).2
    cases hdiffers : g.differs reported fresh with
    | false =>
      have later := ih hrest fun h hh => hdescribable h (List.mem_cons_of_mem g hh)
      have hstill : g.differs (among fresh rest reported).baseline fresh = false := by
        cases hnew : g.differs (among fresh rest reported).baseline fresh with
        | false => rfl
        | true => rw [differs_of_differs_among hnew] at hdiffers; cases hdiffers
      rw [among_of_not_differs hdiffers, changesAmong_cons, changesAmong_cons,
        Group.told_of_not_differs hdiffers, Group.told_of_not_differs hstill]
      exact later
    | true =>
      rcases hdescribable g List.mem_cons_self hdiffers with ⟨value, hvalue⟩ | ⟨key, hfault⟩
      · rw [among_of_value hdiffers hvalue, changesAmong_cons, changesAmong_cons,
          Group.told_of_value hdiffers hvalue, changesAmong_adopt hnodup,
          Group.told_of_not_differs (g.differs_adopt_self fresh reported)]
        refine ⟨rfl, rfl, fun h => ?_⟩
        cases h
      · have hleft : ∀ h ∈ rest, h.differs (g.adopt fresh reported) fresh = true →
            h.Describable fresh := fun h hh hd =>
          hdescribable h (List.mem_cons_of_mem g hh) (Group.differs_of_differs_adopt hd)
        have later := ih hrest hleft
        rw [changesAmong_adopt hnodup] at later
        rw [among_of_notApplicable hdiffers hfault, changesAmong_cons, changesAmong_cons,
          Group.told_of_fault hfault, Group.told_of_fault hfault]
        exact later

private theorem among_told_of_fault {before : List Group} {fault : Fault}
    (hnodup : (before ++ g :: rest).Nodup)
    (hsilent : ∀ h ∈ before, h.differs reported fresh = true →
      ∃ key, fresh.describe h.setting = .error (.notApplicable key))
    (hdiffers : g.differs reported fresh = true)
    (hfault : fresh.describe g.setting = .error fault)
    (happlies : ∀ key, fault ≠ .notApplicable key) :
    (among fresh (before ++ g :: rest) reported).told = .error fault := by
  induction before generalizing reported with
  | nil => rw [List.nil_append, among_of_fault hdiffers hfault happlies]
  | cons first before ih =>
    have hout : first ∉ before ++ g :: rest := (List.nodup_cons.mp hnodup).1
    have hlater : (before ++ g :: rest).Nodup := (List.nodup_cons.mp hnodup).2
    rw [List.cons_append]
    cases hfirst : first.differs reported fresh with
    | false =>
      rw [among_of_not_differs hfirst]
      exact ih hlater (fun h hh => hsilent h (List.mem_cons_of_mem first hh)) hdiffers
    | true =>
      obtain ⟨key, hkey⟩ := hsilent first List.mem_cons_self hfirst
      have hne : g ≠ first := by
        rintro rfl
        exact hout (List.mem_append_right before List.mem_cons_self)
      rw [among_of_notApplicable hfirst hkey]
      refine ih hlater (fun h hh hd => ?_) ?_
      · exact hsilent h (List.mem_cons_of_mem first hh) (Group.differs_of_differs_adopt hd)
      · rwa [Group.differs_adopt_of_ne hne]

theorem of_spec (h : Describable reported fresh) :
    (of reported fresh).told = .ok (changes reported fresh).head? ∧
      changes (of reported fresh).baseline fresh = (changes reported fresh).tail ∧
      (changes reported fresh = [] → (of reported fresh).baseline = fresh) :=
  among_spec Group.nodup_all h

def repeated (fresh : Snapshot) : Nat → Snapshot → Snapshot
  | 0, reported => reported
  | n + 1, reported => (of (repeated fresh n reported) fresh).baseline

private theorem describable_repeated (h : Describable reported fresh) (n : Nat) :
    Describable (repeated fresh n reported) fresh := by
  induction n with
  | zero => exact h
  | succ n ih =>
    intro g hg hdiffers
    exact ih g hg (differs_of_differs_among hdiffers)

private theorem changes_repeated (h : Describable reported fresh) (n : Nat) :
    changes (repeated fresh n reported) fresh = (changes reported fresh).drop n := by
  induction n with
  | zero => rfl
  | succ n ih =>
    obtain ⟨-, hleft, -⟩ := of_spec (describable_repeated h n)
    rw [repeated, hleft, ih, List.tail_drop]

private theorem told_repeated (h : Describable reported fresh) (n : Nat) :
    (of (repeated fresh n reported) fresh).told = .ok (changes reported fresh)[n]? := by
  obtain ⟨htold, -, -⟩ := of_spec (describable_repeated h n)
  rw [htold, changes_repeated h n, List.head?_drop]

private theorem repeated_eq_fresh (h : Describable reported fresh) {n : Nat}
    (hn : (changes reported fresh).length < n) : repeated fresh n reported = fresh := by
  obtain ⟨k, rfl⟩ : ∃ k, n = k + 1 := ⟨n - 1, by omega⟩
  have hnone : changes (repeated fresh k reported) fresh = [] := by
    rw [changes_repeated h k]
    exact List.drop_eq_nil_of_le (by omega)
  obtain ⟨-, -, hwhole⟩ := of_spec (describable_repeated h k)
  exact hwhole hnone

end Report

def Event.ofChange (change : Setting × Value) : Event :=
  .changed change.1 change.2

/-- What the session sees of a report; a fault tells it nothing. -/
def Report.events (report : Report) : List Event :=
  match report.told with
  | .ok change? => (change?.map Event.ofChange).toList
  | .error _ => []

theorem Report.events_of_told {report : Report} {change? : Option (Setting × Value)}
    (h : report.told = .ok change?) : report.events = change?.toList.map Event.ofChange := by
  rw [events, h, ← Option.toList_map]

theorem Report.events_of_fault {report : Report} {fault : Fault} (h : report.told = .error fault) :
    report.events = [] := by
  rw [events, h]

namespace Scope

variable {σ : Type} {scope : Scope σ} {reported fresh : Snapshot}

theorem tellChange_of_baseline (fresh : Snapshot) (h : scope.baseline = some reported) :
    result (tellChange fresh) scope = (Report.of reported fresh).told.map (fun _ => ()) ∧
      final (tellChange fresh) scope =
        { scope with
          baseline := some (Report.of reported fresh).baseline
          events := scope.events ++ (Report.of reported fresh).events } := by
  obtain ⟨bank, phase, baseline, limits, events, ticker⟩ := scope
  cases h
  unfold tellChange
  rw [result_bind_ok (result_get _), final_bind_ok (result_get _)]
  change result (modify _ >>= fun _ => _) _ = _ ∧ final (modify _ >>= fun _ => _) _ = _
  rw [result_bind_ok (result_modify _ _), final_bind_ok (result_modify _ _), Report.events]
  have untold := congrArg (Scope.mk bank phase (some (Report.of reported fresh).baseline) limits ·
    ticker) (List.append_nil events).symm
  cases (Report.of reported fresh).told with
  | error fault => exact ⟨rfl, untold⟩
  | ok change? =>
    cases change? with
    | none => exact ⟨rfl, untold⟩
    | some change => exact ⟨rfl, rfl⟩

def telling (fresh : Snapshot) : Nat → Scope σ → Scope σ
  | 0, scope => scope
  | n + 1, scope => final (tellChange fresh) (telling fresh n scope)

private theorem telling_eq (hbaseline : scope.baseline = some reported)
    (h : Describable reported fresh) (n : Nat) :
    telling fresh n scope =
      { scope with
        baseline := some (Report.repeated fresh n reported)
        events := scope.events ++ ((changes reported fresh).take n).map Event.ofChange } := by
  induction n with
  | zero =>
    rw [List.take_zero, List.map_nil, List.append_nil]
    exact congrArg (fun b => { scope with baseline := b }) hbaseline
  | succ n ih =>
    have hreported : (telling fresh n scope).baseline =
        some (Report.repeated fresh n reported) := by
      rw [ih]
    obtain ⟨-, hnext⟩ := tellChange_of_baseline fresh hreported
    rw [telling, hnext, Report.events_of_told (Report.told_repeated h n), ih, List.take_add_one,
      List.map_append, ← List.append_assoc]
    rfl

/-- Telling the same snapshot again and again tells each change once, one a call and in the order
of the groups, and then nothing. The call after the last change adopts the snapshot whole. A fault
of the first group that has to be told ends a call that tells nothing. -/
theorem telling_tells_each_change_once (reported fresh : Snapshot) (scope : Scope σ)
    (hbaseline : scope.baseline = some reported) :
    (Describable reported fresh →
      (∀ n, result (tellChange fresh) (telling fresh n scope) = .ok () ∧
        (telling fresh (n + 1) scope).events = (telling fresh n scope).events ++
          ((changes reported fresh)[n]?.map Event.ofChange).toList) ∧
      ∀ n, (changes reported fresh).length < n → telling fresh n scope =
        { scope with
          baseline := some fresh
          events := scope.events ++ (changes reported fresh).map Event.ofChange }) ∧
    ∀ before g rest fault, Group.all = before ++ g :: rest →
      (∀ h ∈ before, h.differs reported fresh = true →
        ∃ key, fresh.describe h.setting = .error (.notApplicable key)) →
      g.differs reported fresh = true → fresh.describe g.setting = .error fault →
      (∀ key, fault ≠ .notApplicable key) →
      result (tellChange fresh) scope = .error fault ∧
        (final (tellChange fresh) scope).events = scope.events := by
  constructor
  · intro h
    refine ⟨fun n => ⟨?_, ?_⟩, fun n hn => ?_⟩
    · have hreported : (telling fresh n scope).baseline =
          some (Report.repeated fresh n reported) := by
        rw [telling_eq hbaseline h n]
      obtain ⟨hresult, -⟩ := tellChange_of_baseline fresh hreported
      rw [hresult, Report.told_repeated h n]
      rfl
    · rw [telling_eq hbaseline h (n + 1), telling_eq hbaseline h n, List.take_add_one,
        List.map_append, List.append_assoc, Option.toList_map]
    · rw [telling_eq hbaseline h n, Report.repeated_eq_fresh h hn,
        List.take_of_length_le (Nat.le_of_lt hn)]
  · intro before g rest fault hall hsilent hdiffers hfault happlies
    have htold : (Report.of reported fresh).told = .error fault := by
      have hnodup := Group.nodup_all
      rw [hall] at hnodup
      rw [Report.of, hall]
      exact Report.among_told_of_fault hnodup hsilent hdiffers hfault happlies
    obtain ⟨hresult, hfinal⟩ := tellChange_of_baseline fresh hbaseline
    constructor
    · rw [hresult, htold]
      rfl
    · rw [hfinal, Report.events_of_fault htold]
      exact List.append_nil scope.events

theorem telling_tells_a_shown_channel :
    let scope : Scope Unit := { bank := { line := ⟨(), []⟩ }, baseline := some .zero }
    let dark := Snapshot.zero.vertical.ch1
    let shown : Snapshot :=
      { Snapshot.zero with vertical := Snapshot.zero.vertical.set .ch1 { dark with shown := 1 } }
    let odd : Snapshot :=
      { Snapshot.zero with vertical := Snapshot.zero.vertical.set .ch1 { dark with range := 200 } }
    (telling shown 5 scope).events = [.changed (.channel .enabled .ch1) (.flag true)] ∧
      result (tellChange odd) scope = .error (.unknownCode .range 200) := by
  intro scope dark shown odd
  have honly : ∀ g ∈ Group.all, g.differs .zero shown = true → g = .enabled .ch1 := by
    decide +kernel
  have hdescribable : Describable .zero shown := by
    intro g hg hdiffers
    rw [honly g hg hdiffers]
    exact Or.inl ⟨.flag true, rfl⟩
  have hchanges : changes .zero shown = [(.channel .enabled .ch1, .flag true)] := by
    rfl
  constructor
  · obtain ⟨-, hwhole⟩ := (telling_tells_each_change_once .zero shown scope rfl).1 hdescribable
    rw [hwhole 5 (by rw [hchanges]; decide), hchanges]
    rfl
  · refine ((telling_tells_each_change_once .zero odd scope rfl).2 [.enabled .ch1] (.range .ch1)
      _ (.unknownCode .range 200) rfl ?_ ?_ rfl ?_).1
    · intro g hg hdiffers
      have hsame : ∀ g ∈ [Group.enabled .ch1], g.differs .zero odd = false := by decide +kernel
      rw [hsame g hg] at hdiffers
      cases hdiffers
    · decide +kernel
    · intro key h
      cases h

end Scope

end Oscilloscope
