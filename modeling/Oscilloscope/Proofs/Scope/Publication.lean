/- The published snapshot along every run of calls. It is the one that was read last, unless a
   tick read it and could not tell its change, and no snapshot that was only written is ever
   published. -/

import Mathlib.Data.List.Induction
import Oscilloscope.Proofs.Scope.RegisterWrites
import Oscilloscope.Proofs.Wire.Reading

set_option autoImplicit false
set_option relaxedAutoImplicit false

namespace Oscilloscope

private theorem Bank.failed_of_unfetched {σ : Type} [Transport σ] {tuning : Tuning} {bank : Bank σ}
    {fault : Fault} (h : result (fetch tuning) bank = .error fault) :
    ∃ t, (final (fetch tuning) bank).line.record = bank.line.record ++ t ∧
      (Refused tuning t (.error fault) ∨ Held tuning t (.error fault)) := by
  obtain ⟨t, hrecord, course⟩ := readSnapshot_meets tuning bank.line
  have hresult : result (readSnapshot tuning) bank.line = .error fault := by
    rw [← h, fetch, result_onLine]
  rw [hresult] at course
  refine ⟨t, ?_, course⟩
  rw [fetch, final_onLine]
  exact hrecord

namespace Scope

variable {σ : Type} [Transport σ]

/-- Courses of a call by what it reads of the registers: its transfers, and what is published after
it. Only a tick can read a snapshot and keep it to itself. -/
inductive Reads (handle : Handle) (call : Call) (scope : Scope σ) :
    List Transfer → Option Snapshot → Prop
  | unread {t : List Transfer} (unasked : submits .readRegisters t = false) :
      Reads handle call scope t scope.bank.published
  | failed {t : List Transfer} {fault : Fault}
      (course : Bank.Refused handle.tuning t (.error fault) ∨
        Bank.Held handle.tuning t (.error fault)) :
      Reads handle call scope t scope.bank.published
  | withheld {payload : Bytes} {s : Snapshot} {t : List Transfer} (tick : call = .tick)
      (read : Bank.Yielded handle.tuning s payload t) (untold : scope.tellable s = false) :
      Reads handle call scope t scope.bank.published
  | published {payload : Bytes} {s : Snapshot} {t u : List Transfer}
      (read : Bank.Yielded handle.tuning s payload t) (once : submits .readRegisters u = false)
      (told : call = .tick → scope.tellable s = true) :
      Reads handle call scope (t ++ u) (some s)

variable {handle : Handle} {call : Call} {scope after : Scope σ} {s : Snapshot}

private theorem reads_of_unfetched {fault : Fault} (call : Call)
    (h : result (Bank.fetch handle.tuning) scope.bank = .error fault) :
    ∃ t, (scope.fetched handle).bank.line.record = scope.bank.line.record ++ t ∧
      Reads handle call scope t (scope.fetched handle).bank.published := by
  obtain ⟨t, hrecord, course⟩ := Bank.failed_of_unfetched h
  refine ⟨t, hrecord, ?_⟩
  rw [fetched, Bank.fetch, Bank.final_onLine]
  exact .failed course

private theorem reads_of_fetch {bank : Bank σ} (call : Call)
    (fetch : result (Bank.fetch handle.tuning) scope.bank = .ok s)
    (told : call = .tick → scope.tellable s = true)
    (later : (scope.fetched handle).bank.line.Avoids .readRegisters bank.line)
    (published : bank.published = some s) :
    ∃ t, bank.line.record = scope.bank.line.record ++ t ∧
      Reads handle call scope t bank.published := by
  obtain ⟨payload, t, read, hrecord⟩ := Bank.yielded_of_fetch fetch
  obtain ⟨u, hlater, once⟩ := later
  refine ⟨t ++ u, ?_, ?_⟩
  · rw [hlater, ← List.append_assoc]
    exact congrArg (· ++ u) hrecord
  · rw [published]
    exact .published read once told

theorem FrameRead.published {fresh : Snapshot} {c : ChannelId} {r : Except Fault Unit}
    (h : FrameRead handle fresh c scope r after) :
    after.bank.published = scope.bank.published := by
  cases h <;> rfl

private theorem Captured.reads {r : Except Fault Unit} (h : Captured handle scope r after) :
    ∃ t, after.bank.line.record = scope.bank.line.record ++ t ∧
      Reads handle .tick scope t after.bank.published := by
  have tellable {fresh : Snapshot} {told : Scope σ}
      (change : ChangeTold fresh (scope.fetched handle) (.ok ()) told) :
      scope.tellable fresh = true := change.tellable
  have line {fresh : Snapshot} {r : Except Fault Unit} {told : Scope σ}
      (change : ChangeTold fresh (scope.fetched handle) r told) :
      (scope.fetched handle).bank.line.Avoids .readRegisters told.bank.line := by
    rw [change.bank]
    exact .refl _ _
  cases h with
  | unfetched fetch => exact reads_of_unfetched .tick fetch
  | untold fetch change =>
    obtain ⟨payload, t, read, hrecord⟩ := Bank.yielded_of_fetch fetch
    have untellable : scope.tellable _ = false := change.tellable
    rw [change.bank]
    refine ⟨t, hrecord, ?_⟩
    rw [fetched, Bank.fetch, Bank.final_onLine]
    exact .withheld rfl read untellable
  | firstFailed fetch change ch1 =>
    have later := (line change).trans (ch1.avoids (by decide))
    exact reads_of_fetch .tick fetch (fun _ => tellable change) later ch1.published
  | secondFailed fetch change ch1 ch2 =>
    have later := ((line change).trans (ch1.avoids (by decide))).trans (ch2.avoids (by decide))
    exact reads_of_fetch .tick fetch (fun _ => tellable change) later
      (ch2.published.trans ch1.published)
  | @complete _ _ _ second fetch change ch1 ch2 =>
    have later := ((line change).trans (ch1.avoids (by decide))).trans (ch2.avoids (by decide))
    have reads := reads_of_fetch .tick fetch (fun _ => tellable change) later
      (ch2.published.trans ch1.published)
    split
    · rw [stopRequested_bank]
      exact reads
    · exact reads

private theorem Ticked.reads {r : Except Fault Phase} (h : Ticked handle scope r after) :
    ∃ t, after.bank.line.record = scope.bank.line.record ++ t ∧
      Reads handle .tick scope t after.bank.published := by
  cases h with
  | idle | ended => exact ⟨[], (List.append_nil _).symm, .unread rfl⟩
  | failed _ round | continued _ round => exact round.reads

private theorem reads_of_revised {change : Snapshot → Except Fault Snapshot} {bank : Bank σ}
    {r : Except Fault Snapshot} (revised : Bank.Revised handle.tuning change scope.bank r bank)
    (hcall : call ≠ .tick) :
    ∃ t, bank.line.record = scope.bank.line.record ++ t ∧
      Reads handle call scope t bank.published := by
  have told {s : Snapshot} : call = .tick → scope.tellable s = true :=
    fun tick => absurd tick hcall
  have committed (current pending : Snapshot) :
      (scope.fetched handle).bank.line.Avoids .readRegisters
        (final (Bank.commit handle.tuning pending)
          (scope.bank.refreshed handle.tuning current)).line := by
    have fetched : (scope.fetched handle).bank.line =
        (scope.bank.refreshed handle.tuning current).line := rfl
    rw [fetched, Bank.commit, Bank.line_final_onLine]
    exact Line.avoids_of_meets (Bank.writeSnapshot_meets handle.tuning pending)
      (fun _ _ written => written.submits_readRegisters) _
  cases revised with
  | unfetched fetch => exact reads_of_unfetched call fetch
  | unchanged fetch => exact reads_of_fetch call fetch told (.refl _ _) rfl
  | @uncommitted current pending _ fetch | @committed current pending fetch =>
    refine reads_of_fetch call fetch told (committed current pending) ?_
    rw [Bank.commit, Bank.final_onLine]
    rfl

private theorem ValueSet.reads {key : Key} {index : Option Nat} {value : Value}
    {r : Except Fault Unit}
    (h : ValueSet handle key index value scope r after) :
    ∃ t, after.bank.line.record = scope.bank.line.record ++ t ∧
      Reads handle (.setValue key index value) scope t after.bank.published := by
  cases h with
  | misaddressed | unsettable | limited | unlimited =>
    exact ⟨[], (List.append_nil _).symm, .unread rfl⟩
  | unrevised _ _ _ revised | revised _ _ _ revised => exact reads_of_revised revised nofun

/-- What a call that only looks at the instrument leaves: the scope as it was, the scope after a
refresh, or the one after an echo. -/
inductive Looked (handle : Handle) (scope : Scope σ) : Scope σ → Prop
  | untouched : Looked handle scope scope
  | refreshed : Looked handle scope (final (refresh handle) scope)
  | echoed (bytes : Bytes) : Looked handle scope
      (scope.withLine (final (Link.request handle.tuning .echo bytes 512) scope.bank.line))

private theorem snapshot_looks (handle : Handle) (scope : Scope σ) :
    Looked handle scope (final (snapshot handle) scope) := by
  rw [snapshot, final_bind_ok (result_get _), final_get]
  split
  · exact .untouched
  · exact .refreshed

private theorem channel_looks (handle : Handle) (index : Nat) (scope : Scope σ) :
    Looked handle scope (final (channel handle index) scope) := by
  unfold channel
  rw [final_bind_idle]
  · exact snapshot_looks handle scope
  · intro s t
    split
    · exact final_ofExcept _ _
    · rfl

private theorem getValue_looks (handle : Handle) (key : Key) (index : Option Nat)
    (scope : Scope σ) :
    Looked handle scope (final (getValue handle key index) scope) := by
  unfold getValue
  refine bind_cases (P := fun _ after => Looked handle scope after) ?_ ?_
  · intro fault _
    rw [final_ofExcept]
    exact .untouched
  · intro x _
    rw [final_ofExcept]
    split
    · split
      · exact .untouched
      · exact .untouched
    · exact .untouched
    · exact .untouched
    · rw [final_bind_idle _ fun s t => final_ofExcept _ _]
      exact snapshot_looks handle scope

private theorem listValues_looks (handle : Handle) (key : Key) (index : Option Nat)
    (scope : Scope σ) :
    Looked handle scope (final (listValues handle key index) scope) := by
  unfold listValues
  refine bind_cases (P := fun _ after => Looked handle scope after) ?_ ?_
  · intro fault _
    rw [final_ofExcept]
    exact .untouched
  · intro x _
    rw [final_ofExcept]
    split
    · split
      · exact .untouched
      · exact .untouched
    · split
      · exact .untouched
      · rw [final_bind_idle _ fun s t => final_ofExcept _ _]
        exact snapshot_looks handle scope

private theorem Looked.reads (h : Looked handle scope after) (hcall : call ≠ .tick) :
    ∃ t, after.bank.line.record = scope.bank.line.record ++ t ∧
      Reads handle call scope t after.bank.published := by
  cases h with
  | untouched => exact ⟨[], (List.append_nil _).symm, .unread rfl⟩
  | refreshed =>
    rw [refresh, final_onBank]
    cases fetch : result (Bank.fetch handle.tuning) scope.bank with
    | error fault =>
      rw [(Bank.refresh_of_unfetched fetch).2]
      exact reads_of_unfetched call fetch
    | ok s =>
      rw [(Bank.refresh_of_fetch fetch).2]
      exact reads_of_fetch call fetch (fun tick => absurd tick hcall) (.refl _ _) rfl
  | echoed bytes =>
    have ne : Command.echo ≠ .readRegisters := by decide
    obtain ⟨t, hrecord, unasked⟩ :=
      Link.request_avoids handle.tuning ne bytes 512 scope.bank.line
    exact ⟨t, hrecord, .unread unasked⟩

end Scope

namespace Call

variable {σ : Type} [Transport σ] {handle : Handle} {scope : Scope σ}

private theorem looked_after {call : Call} (looks : call.looks = true) (handle : Handle)
    (scope : Scope σ) : Scope.Looked handle scope (call.after handle scope) := by
  rw [after_eq_final]
  cases call with
  | start | requestStop | tick | setValue => cases looks
  | shadow => exact .untouched
  | refresh =>
    rw [perform, final_bind_pure]
    exact .refreshed
  | model =>
    rw [perform, final_bind_pure, Scope.model, final_bind_pure]
    exact Scope.snapshot_looks handle scope
  | channel index =>
    rw [perform, final_bind_pure]
    exact Scope.channel_looks handle index scope
  | echo bytes =>
    rw [perform, final_bind_pure, Scope.echo, final_bind_pure, Scope.final_onLine]
    exact .echoed bytes
  | getValue key index =>
    rw [perform, final_bind_pure]
    exact Scope.getValue_looks handle key index scope
  | listValues key index =>
    rw [perform, final_bind_pure]
    exact Scope.listValues_looks handle key index scope

theorem reads_after (handle : Handle) (call : Call) (scope : Scope σ) :
    Scope.Reads handle call scope (call.transfers handle scope)
      (call.after handle scope).bank.published := by
  have course : ∃ t, (call.after handle scope).bank.line.record = scope.bank.line.record ++ t ∧
      Scope.Reads handle call scope t (call.after handle scope).bank.published := by
    cases hlooks : call.looks with
    | true =>
      refine (looked_after hlooks handle scope).reads ?_
      rintro rfl
      cases hlooks
    | false =>
      cases call with
      | start =>
        rw [after_start, (Scope.start_starts handle scope).bank]
        exact ⟨[], (List.append_nil _).symm, .unread rfl⟩
      | requestStop =>
        rw [after_requestStop, Scope.stopRequested_bank]
        exact ⟨[], (List.append_nil _).symm, .unread rfl⟩
      | tick =>
        rw [after_tick]
        exact (Scope.tick_ticks handle scope).reads
      | setValue key index value =>
        rw [after_setValue]
        exact (Scope.setValue_sets handle key index value scope).reads
      | _ => cases hlooks
  obtain ⟨t, hrecord, reads⟩ := course
  rw [transfers_eq hrecord]
  exact reads

/-- A call reads `s` from `payload` and does not keep it to itself. -/
def Shows (handle : Handle) (call : Call) (scope : Scope σ) (payload : Bytes) (s : Snapshot) :
    Prop :=
  Bank.Completed handle.tuning payload s (call.transfers handle scope) ∧
    (call = .tick → scope.tellable s = true)

theorem published_of_shows {call : Call} {payload : Bytes} {s : Snapshot}
    (h : call.Shows handle scope payload s) :
    (call.after handle scope).bank.published = some s := by
  obtain ⟨completed, told⟩ := h
  have reads := reads_after handle call scope
  generalize call.transfers handle scope = t at reads completed
  generalize (call.after handle scope).bank.published = published at reads ⊢
  cases reads with
  | unread unasked => exact absurd completed (Bank.not_completed_of_unsubmitted unasked)
  | failed course => exact absurd completed (Bank.not_completed_of_failed course)
  | withheld tick read untold =>
    rw [← List.append_nil t] at completed
    obtain ⟨-, rfl⟩ := read.eq_of_completed rfl completed
    rw [told tick] at untold
    cases untold
  | published read once =>
    obtain ⟨-, rfl⟩ := read.eq_of_completed once completed
    rfl

theorem published_of_not_shows {call : Call}
    (h : ∀ payload s, ¬ call.Shows handle scope payload s) :
    (call.after handle scope).bank.published = scope.bank.published := by
  have reads := reads_after handle call scope
  generalize ht : call.transfers handle scope = t at reads
  generalize (call.after handle scope).bank.published = published at reads ⊢
  cases reads with
  | unread | failed | withheld => rfl
  | @published payload s _ u read _ told =>
    have completed := read.completed u
    rw [← ht] at completed
    exact absurd ⟨completed, told⟩ (h payload s)

/-- The snapshot that a run has read last and not kept to itself; none before the first one. -/
inductive LastRead (handle : Handle) (scope : Scope σ) : List Call → Option Snapshot → Prop
  | unread : LastRead handle scope [] none
  | kept {calls : List Call} {call : Call} {seen : Option Snapshot}
      (sofar : LastRead handle scope calls seen)
      (unseen : ∀ payload s, ¬ call.Shows handle (run handle calls scope) payload s) :
      LastRead handle scope (calls ++ [call]) seen
  | read {calls : List Call} {call : Call} {payload : Bytes} {s : Snapshot}
      (shown : call.Shows handle (run handle calls scope) payload s) :
      LastRead handle scope (calls ++ [call]) (some s)

private theorem lastRead_published (handle : Handle) (calls : List Call)
    (unpublished : scope.bank.published = none) :
    LastRead handle scope calls (run handle calls scope).bank.published := by
  -- The last call overrides those before it, so calls are taken off at the end.
  induction calls using List.reverseRecOn with
  | nil =>
    have start : (run handle [] scope).bank.published = none := unpublished
    rw [start]
    exact .unread
  | append_singleton calls call ih =>
    rw [run_concat]
    by_cases shows : ∃ payload s, call.Shows handle (run handle calls scope) payload s
    · obtain ⟨payload, s, shown⟩ := shows
      rw [published_of_shows shown]
      exact .read shown
    · have unseen (payload : Bytes) (s : Snapshot) :
          ¬ call.Shows handle (run handle calls scope) payload s := by
        intro shown
        exact shows ⟨payload, s, shown⟩
      rw [published_of_not_shows unseen]
      exact .kept ih unseen

private theorem LastRead.eq_published {calls : List Call} {seen : Option Snapshot}
    (h : LastRead handle scope calls seen) (unpublished : scope.bank.published = none) :
    seen = (run handle calls scope).bank.published := by
  induction h with
  | unread => exact unpublished.symm
  | kept _ unseen ih =>
    rw [run_concat, published_of_not_shows unseen]
    exact ih
  | read shown =>
    rw [run_concat, published_of_shows shown]

/-- Whatever is called and however the instrument answers, the published snapshot is the one that
was read last in the run, locked, read and unlocked with every step acknowledged, but for those of
ticks that could not tell their change; it is absent before the first of them. A call that
completes no reading leaves it, and the change of a setting publishes what it has read itself, also
where it has written something else back, whether or not that was confirmed. -/
theorem run_publishes_last_reading (handle : Handle) (line : Line σ) (calls : List Call)
    (call : Call) :
    let scope := run handle calls (Scope.ofLine line)
    let after := call.after handle scope
    let t := call.transfers handle scope
    (∀ seen, LastRead handle (Scope.ofLine line) calls seen ↔ scope.bank.published = seen) ∧
      ((∀ payload s, ¬ Bank.Completed handle.tuning payload s t) →
        after.bank.published = scope.bank.published) ∧
      ∀ key index value, call = .setValue key index value →
        (∀ payload current, Bank.Completed handle.tuning payload current t →
          after.bank.published = some current) ∧
        ∀ current pending, Bank.Overwritten handle.tuning current pending t →
          after.bank.published = some current := by
  intro scope after t
  refine ⟨fun seen => ⟨fun last => ?_, ?_⟩, fun incomplete => ?_, ?_⟩
  · exact (last.eq_published rfl).symm
  · rintro rfl
    exact lastRead_published handle calls rfl
  · exact published_of_not_shows fun payload s shown => incomplete payload s shown.1
  · rintro key index value rfl
    have publishes (payload : Bytes) (current : Snapshot)
        (completed : Bank.Completed handle.tuning payload current t) :
        after.bank.published = some current :=
      published_of_shows ⟨completed, nofun⟩
    refine ⟨publishes, fun current pending overwritten => ?_⟩
    obtain ⟨payload, reading, writing, answer, ht, read, -⟩ := overwritten.course
    have completed := read.completed writing
    rw [← ht] at completed
    exact publishes payload current completed

end Call

end Oscilloscope
