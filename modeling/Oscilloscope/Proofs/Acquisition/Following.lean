/- What a session holds that follows the reported changes: the values as they were when they were
   told last. Reports of one snapshot after the other end at that snapshot, so these values are its
   own, unless a register of another group moved them since. -/

import Oscilloscope.Proofs.Acquisition.Described

set_option autoImplicit false
set_option relaxedAutoImplicit false

namespace Oscilloscope

namespace Group

variable {g h : Group} {r s t : Snapshot}

theorem mem_all (g : Group) : g ∈ all := by
  cases g with
  | enabled c | range c | coupling c | filter c | probe c => cases c <;> decide
  | _ => decide

theorem setting_inj (same : g.setting = h.setting) : g = h := by
  have table : ∀ g ∈ all, ∀ h ∈ all, g.setting = h.setting → g = h := by decide
  exact table g g.mem_all h h.mem_all same

theorem differs_comm (g : Group) (s t : Snapshot) : g.differs s t = g.differs t s := by
  cases g <;> simp only [differs, bne_comm]

theorem same_trans (first : g.differs r s = false) (second : g.differs s t = false) :
    g.differs r t = false := by
  cases g <;> simp_all [differs]

theorem differs_of_adopt (hne : h ≠ g) (fresh s : Snapshot) :
    h.differs s (g.adopt fresh s) = false := by
  have kept (t : Snapshot) : h.differs t (g.adopt fresh s) = h.differs t s := by
    cases g <;> cases h <;> first
      | rfl
      | exact absurd rfl hne
      | rename_i c d
        cases c <;> cases d <;> first | rfl | exact absurd rfl hne
  rw [kept, differs_self]

def Valued (g : Group) (fresh : Snapshot) : Prop :=
  ∀ key, fresh.describe g.setting ≠ .error (.notApplicable key)

/-- A fresh snapshot in which the group has no value is as it was reported. -/
def Open (g : Group) (reported fresh : Snapshot) : Prop :=
  g.Valued fresh ∨ g.differs reported fresh = false

private theorem Open.valued (h : g.Open s t) (differs : g.differs s t = true) : g.Valued t :=
  h.resolve_right (ne_false_of_eq_true differs)

theorem open_of_level (kept : g = .triggerLevel → ∀ source, t.triggerSource = .ok source →
    source.channel? = none → t.trigger.level = s.trigger.level) : g.Open s t := by
  by_cases valued : g.Valued t
  · exact .inl valued
  · obtain ⟨key, h⟩ := not_forall_not.mp valued
    obtain ⟨rfl, source, known, none⟩ := eq_triggerLevel_of_notApplicable h
    exact .inr (bne_eq_false_iff_eq.mpr (kept rfl source known none).symm)

end Group

/-- Ways for a report to deal with the first of its groups. -/
inductive Report.First (fresh : Snapshot) (g : Group) (rest : List Group) (reported : Snapshot) :
    Report → Prop
  | same (same : g.differs reported fresh = false) :
      First fresh g rest reported (Report.among fresh rest reported)
  | valued {v : Value} (differs : g.differs reported fresh = true)
      (value : fresh.describe g.setting = .ok v) :
      First fresh g rest reported ⟨g.adopt fresh reported, .ok (some (g.setting, v))⟩
  | silent {key : Key} (differs : g.differs reported fresh = true)
      (valueless : fresh.describe g.setting = .error (.notApplicable key)) :
      First fresh g rest reported (Report.among fresh rest (g.adopt fresh reported))
  | failed {fault : Fault} (fails : fresh.describe g.setting = .error fault) :
      First fresh g rest reported ⟨reported, .error fault⟩

namespace Report

variable {groups : List Group} {reported fresh : Snapshot}

theorem among_first (fresh : Snapshot) (g : Group) (rest : List Group) (reported : Snapshot) :
    First fresh g rest reported (among fresh (g :: rest) reported) := by
  cases differs : g.differs reported fresh with
  | false =>
    rw [among_of_not_differs differs]
    exact .same differs
  | true =>
    cases value : fresh.describe g.setting with
    | ok v =>
      rw [among_of_value differs value]
      exact .valued differs value
    | error fault =>
      by_cases valueless : ∃ key, fault = .notApplicable key
      · obtain ⟨key, rfl⟩ := valueless
        rw [among_of_notApplicable differs value]
        exact .silent differs value
      · rw [among_of_fault differs value fun key h => valueless ⟨key, h⟩]
        exact .failed value

theorem among_of_told_none (told : (among fresh groups reported).told = .ok none) :
    (among fresh groups reported).baseline = fresh ∧
      ∀ g ∈ groups, g.Open reported fresh → g.differs reported fresh = false := by
  -- The groups in front are adopted one by one, so the induction is over all baselines.
  induction groups generalizing reported with
  | nil => exact ⟨rfl, fun g hg => absurd hg List.not_mem_nil⟩
  | cons first rest ih =>
    have course := among_first fresh first rest reported
    generalize among fresh (first :: rest) reported = report at course told ⊢
    cases course with
    | valued | failed => cases told
    | same same =>
      obtain ⟨whole, others⟩ := ih told
      refine ⟨whole, fun g hg shown => ?_⟩
      rcases List.mem_cons.mp hg with rfl | later
      · exact same
      · exact others g later shown
    | silent differs valueless =>
      obtain ⟨whole, others⟩ := ih told
      refine ⟨whole, fun g hg shown => ?_⟩
      have other : g ≠ first := by
        rintro rfl
        exact shown.valued differs _ valueless
      rcases List.mem_cons.mp hg with rfl | later
      · exact absurd rfl other
      · rw [Group.Open, ← Group.differs_adopt_of_ne other] at shown
        rw [← Group.differs_adopt_of_ne other]
        exact others g later shown

theorem among_of_told_some {x : Setting} {v : Value}
    (told : (among fresh groups reported).told = .ok (some (x, v))) :
    ∃ g : Group, x = g.setting ∧ fresh.describe x = .ok v ∧ g.differs reported fresh = true ∧
      g.differs (among fresh groups reported).baseline fresh = false ∧
      ∀ h : Group, h ≠ g → h.Open reported fresh →
        h.differs reported (among fresh groups reported).baseline = false := by
  induction groups generalizing reported with
  | nil => cases told
  | cons first rest ih =>
    have course := among_first fresh first rest reported
    generalize among fresh (first :: rest) reported = report at course told ⊢
    cases course with
    | failed => cases told
    | same => exact ih told
    | valued differs value =>
      cases told
      exact ⟨first, rfl, value, differs, first.differs_adopt_self fresh reported,
        fun h hne _ => Group.differs_of_adopt hne fresh reported⟩
    | silent moved valueless =>
      obtain ⟨g, hx, value, differs, adopted, others⟩ := ih told
      refine ⟨g, hx, value, Group.differs_of_differs_adopt differs, adopted, fun h hne shown => ?_⟩
      have other : h ≠ first := by
        rintro rfl
        exact shown.valued moved _ valueless
      have same := Group.differs_of_adopt other fresh reported
      rw [Group.Open, ← Group.differs_adopt_of_ne other] at shown
      exact Group.same_trans same (others h hne shown)

theorem among_self (fresh : Snapshot) (groups : List Group) :
    among fresh groups fresh = ⟨fresh, .ok none⟩ := by
  induction groups with
  | nil => rfl
  | cons g rest ih => rw [among_of_not_differs (g.differs_self fresh), ih]

/-- In how many groups two snapshots differ. -/
def differences (reported fresh : Snapshot) : Nat :=
  (Group.all.filter fun g => g.differs reported fresh).length

private theorem differences_lt {change : Setting × Value}
    (told : (of reported fresh).told = .ok (some change)) :
    differences (of reported fresh).baseline fresh < differences reported fresh := by
  obtain ⟨g, -, -, differs, adopted, -⟩ := among_of_told_some told
  have still : (Group.all.filter fun g => g.differs (of reported fresh).baseline fresh) =
      (Group.all.filter fun g => g.differs reported fresh).filter
        fun g => g.differs (of reported fresh).baseline fresh := by
    rw [List.filter_filter]
    refine List.filter_congr fun g _ => ?_
    cases hg : g.differs (of reported fresh).baseline fresh with
    | false => rfl
    | true => exact (differs_of_differs_among hg).symm
  rw [differences, still]
  refine List.length_filter_lt_length_iff_exists.mpr ⟨g, ?_, ?_⟩
  · exact List.mem_filter.mpr ⟨g.mem_all, differs⟩
  · rw [of, adopted]
    exact Bool.false_ne_true

def tells (report : Report) (x : Setting) : Bool :=
  match report.told with
  | .ok (some (y, _)) => y == x
  | _ => false

end Report

/-- Where a setting was told last: the snapshot it was told from, and those reported since. -/
structure LastTold where
  source : Snapshot
  since : List Snapshot := []
  deriving DecidableEq

/-- Where `x` was told last when snapshots are reported one after the other. -/
def Report.lastTold (x : Setting) : LastTold → Snapshot → List Snapshot → LastTold
  | last, _, [] => last
  | last, reported, fresh :: rest =>
    let report := of reported fresh
    lastTold x
      (if report.tells x then { source := fresh } else { last with since := last.since ++ [fresh] })
      report.baseline rest

/-- The value of a setting as far as it was told. -/
def held (x : Setting) (value : Value) (changes : List (Setting × Value)) : Value :=
  changes.foldl (fun value change => if change.1 = x then change.2 else value) value

/-- The changes that are told when snapshots are reported one after the other. -/
def Report.tellings : Snapshot → List Snapshot → List (Setting × Value)
  | _, [] => []
  | reported, fresh :: rest =>
    let report := of reported fresh
    let told := match report.told with
      | .ok change? => change?.toList
      | .error _ => []
    told ++ tellings report.baseline rest

/-- Reports of one snapshot after the other, none of which fails: the snapshot told so far before
and after them, and the changes that they tell. -/
inductive Reports : Snapshot → List Snapshot → Snapshot → List (Setting × Value) → Prop
  | none (reported : Snapshot) : Reports reported [] reported []
  | report {reported fresh after : Snapshot} {rest : List Snapshot}
      {change? : Option (Setting × Value)} {changes : List (Setting × Value)}
      (told : (Report.of reported fresh).told = .ok change?)
      (later : Reports (Report.of reported fresh).baseline rest after changes) :
      Reports reported (fresh :: rest) after (change?.toList ++ changes)

namespace Reports

variable {reported fresh after : Snapshot} {readings : List Snapshot}
  {changes : List (Setting × Value)}

theorem eq_tellings (reports : Reports reported readings after changes) :
    changes = Report.tellings reported readings := by
  induction reports with
  | none => rfl
  | report told _ ih => rw [Report.tellings, told, ← ih]

private theorem split {earlier later : List Snapshot}
    (reports : Reports reported (earlier ++ later) after changes) :
    ∃ middle rest, Reports middle later after rest := by
  induction earlier generalizing reported changes with
  | nil => exact ⟨reported, changes, reports⟩
  | cons fresh earlier ih =>
    cases reports with
    | report told next => exact ih next

private theorem eq_of_same {n : Nat}
    (reports : Reports fresh (List.replicate n fresh) after changes) :
    after = fresh ∧ changes = [] := by
  induction n generalizing changes with
  | zero =>
    cases reports
    exact ⟨rfl, rfl⟩
  | succ n ih =>
    rw [List.replicate_succ] at reports
    cases reports with
    | report told later =>
      rw [Report.of, Report.among_self] at told later
      cases told
      exact ih later

private theorem settled {n : Nat}
    (reports : Reports reported (List.replicate n fresh) after changes)
    (few : Report.differences reported fresh < n) : after = fresh := by
  -- `n` is more than the differences left, and each telling takes one of them away.
  induction n generalizing reported changes with
  | zero => omega
  | succ n ih =>
    rw [List.replicate_succ] at reports
    cases reports with
    | @report _ _ _ _ change? _ told later =>
      cases change? with
      | none =>
        rw [Report.of, (Report.among_of_told_none told).1] at later
        exact later.eq_of_same.1
      | some change =>
        have less := Report.differences_lt told
        exact ih later (by omega)

private theorem held_described {g : Group} {v : Value}
    (reports : Reports reported readings after changes)
    (last : LastTold) (value : last.source.describe g.setting = .ok v)
    (current : (∀ s ∈ last.since, g.Open last.source s) → g.differs last.source reported = false) :
    let last := Report.lastTold g.setting last reported readings
    last.source.describe g.setting = .ok (held g.setting v changes) ∧
      ((∀ s ∈ last.since, g.Open last.source s) → g.differs last.source after = false) := by
  -- Each report moves what was told last and the value held together.
  induction reports generalizing last v with
  | none => exact ⟨value, current⟩
  | @report reported fresh after rest change? changes told later ih =>
    -- An open report that does not tell the value keeps its registers.
    have untold (kept : g.Open reported fresh →
          g.differs reported (Report.of reported fresh).baseline = false)
        (shown : ∀ s ∈ last.since ++ [fresh], g.Open last.source s) :
        g.differs last.source (Report.of reported fresh).baseline = false := by
      have before := current fun s hs => shown s (List.mem_append_left _ hs)
      refine Group.same_trans before (kept ((shown fresh List.mem_concat_self).imp_right ?_))
      rw [Group.differs_comm] at before
      exact Group.same_trans before
    rw [Report.lastTold]
    cases change? with
    | none =>
      have silent : (Report.of reported fresh).tells g.setting = false := by
        rw [Report.tells, told]
      obtain ⟨whole, same⟩ := Report.among_of_told_none told
      rw [silent]
      refine ih _ value (untold fun shown => ?_)
      rw [Report.of, whole]
      exact same g g.mem_all shown
    | some change =>
      obtain ⟨x, w⟩ := change
      obtain ⟨h, hx, hvalue, -, adopted, others⟩ := Report.among_of_told_some told
      have next : held g.setting v ((some (x, w)).toList ++ changes) =
          held g.setting (if x = g.setting then w else v) changes := by
        rw [held, Option.toList_some, List.singleton_append, List.foldl_cons]
        rfl
      have tells : (Report.of reported fresh).tells g.setting = (x == g.setting) := by
        rw [Report.tells, told]
      rw [tells, next]
      by_cases hg : g = h
      · rw [← hg] at hx adopted
        rw [hx] at hvalue
        rw [if_pos hx, if_pos (beq_iff_eq.mpr hx)]
        refine ih _ hvalue fun _ => ?_
        rw [Group.differs_comm]
        exact adopted
      · have other : x ≠ g.setting := by
          rw [hx]
          exact fun same => hg (Group.setting_inj same).symm
        rw [if_neg other, if_neg (by rwa [beq_iff_eq])]
        exact ih _ value (untold (others g hg))

theorem held_eq {g : Group} {earlier : List Snapshot} {n : Nat} {v w : Value}
    (reports : Reports reported (earlier ++ List.replicate n fresh) after changes)
    (many : Group.all.length < n) (value : reported.describe g.setting = .ok v)
    (now : fresh.describe g.setting = .ok w) :
    let last := Report.lastTold g.setting { source := reported } reported
      (earlier ++ List.replicate n fresh)
    g.LeansAlike last.source fresh → (∀ s ∈ last.since, g.Open last.source s) →
      held g.setting v changes = w := by
  intro last alike shown
  have untouched : g.differs reported reported = false := g.differs_self reported
  obtain ⟨described, current⟩ := reports.held_described { source := reported } value
    fun _ => untouched
  obtain ⟨middle, rest, ending⟩ := reports.split
  have few : Report.differences middle fresh < n :=
    Nat.lt_of_le_of_lt (List.length_filter_le _ _) many
  have same : g.differs last.source fresh = false := by
    rw [← ending.settled few]
    exact current shown
  exact Group.value_eq same alike described now

end Reports

end Oscilloscope
