/- How commands come and go at the instrument. What is asked for amiss never gets to it. What does
   opens and claims it first, exchanges bytes only, and closes it once and last. -/

import Oscilloscope.CommandLine.Run
import Oscilloscope.Proofs.Scope.Talk

set_option autoImplicit false
set_option relaxedAutoImplicit false

namespace Oscilloscope.CommandLine

variable {σ α β : Type}

@[simp] theorem result_onScope (context : Fault → Failed) (x : Work σ α) (t : Terminal σ) :
    result (onScope context x) t = (result x t.scope).mapError context := by
  unfold result onScope
  cases x t.scope <;> rfl

@[simp] theorem final_onScope (context : Fault → Failed) (x : Work σ α) (t : Terminal σ) :
    final (onScope context x) t = { t with scope := final x t.scope } := by
  unfold final onScope
  cases x t.scope <;> rfl

theorem result_printingEvents (dump : Bool) (x : Work σ α) (t : Terminal σ) :
    result (printingEvents dump x) t = (result x t.scope).mapError .fault := by
  unfold result printingEvents
  cases x t.scope <;> rfl

theorem final_printingEvents (dump : Bool) (x : Work σ α) (t : Terminal σ) :
    final (printingEvents dump x) t =
      ⟨final x t.scope, t.printed ++ eventsLines dump 0 (final x t.scope).events⟩ := by
  unfold final printingEvents
  cases x t.scope <;> rfl

def Terminal.record (t : Terminal σ) : List Transfer :=
  t.scope.bank.line.record

section Talking

variable {x : Job σ α} {f : α → Job σ β} {m n : Nat}

/-- Work that exchanges bytes with the instrument, at most `n` times to write registers. -/
def Talks (n : Nat) (x : Job σ α) : Prop :=
  ∀ t : Terminal σ, t.scope.Talks n (final x t).scope

private theorem talks_of_scope (same : ∀ t : Terminal σ, (final x t).scope = t.scope) : Talks 0 x :=
  fun t => .of_bank (congrArg Scope.bank (same t))

private theorem talks_print (line : String) : Talks 0 (print line : Job σ Unit) :=
  talks_of_scope fun _ => rfl

private theorem talks_ofExcept (r : Except Fault α) : Talks 0 (ofExcept r : Job σ α) := by
  cases r <;> exact talks_of_scope fun _ => rfl

private theorem talks_onScope {context : Fault → Failed} {x : Work σ α}
    (talks : ∀ scope : Scope σ, scope.Talks n (final x scope)) : Talks n (onScope context x) := by
  intro t
  rw [final_onScope]
  exact talks t.scope

private theorem talks_printingEvents {dump : Bool} {x : Work σ α}
    (talks : ∀ scope : Scope σ, scope.Talks n (final x scope)) :
    Talks n (printingEvents dump x) := by
  intro t
  rw [final_printingEvents]
  exact talks t.scope

/-- Courses of a command from where it has the instrument open: cut short by its own fault, or by
one of closing, or closed. -/
inductive Concluded (n : Nat) : List Transfer → Except Failed Unit → Prop
  | broken {body : List Transfer} {e : Failed} (exchanged : ∀ x ∈ body, x.exchanged = true)
      (few : submissions .writeRegisters body ≤ n) : Concluded n body (.error e)
  | stuck {body : List Transfer} {e : Failed} {f : Failure}
      (exchanged : ∀ x ∈ body, x.exchanged = true)
      (few : submissions .writeRegisters body ≤ n) :
      Concluded n (body ++ [.closed (.error f)]) (.error e)
  | closed {body : List Transfer} (exchanged : ∀ x ∈ body, x.exchanged = true)
      (few : submissions .writeRegisters body ≤ n) :
      Concluded n (body ++ [.closed (.ok ())]) (.ok ())

private theorem Concluded.prepend {t u : List Transfer} {r : Except Failed Unit}
    (h : Concluded n u r) (exchanged : ∀ x ∈ t, x.exchanged = true)
    (few : submissions .writeRegisters t ≤ m) : Concluded (m + n) (t ++ u) r := by
  have both {body : List Transfer} (exchanged' : ∀ x ∈ body, x.exchanged = true) :
      ∀ x ∈ t ++ body, x.exchanged = true :=
    fun x hx => (List.mem_append.mp hx).elim (exchanged x) (exchanged' x)
  have total {body : List Transfer} (few' : submissions .writeRegisters body ≤ n) :
      submissions .writeRegisters (t ++ body) ≤ m + n := by
    rw [submissions_append]
    exact Nat.add_le_add few few'
  cases h with
  | broken exchanged' few' => exact .broken (both exchanged') (total few')
  | stuck exchanged' few' =>
    rw [← List.append_assoc]
    exact .stuck (both exchanged') (total few')
  | closed exchanged' few' =>
    rw [← List.append_assoc]
    exact .closed (both exchanged') (total few')

/-- Work that ends with closing the instrument, if it gets that far. -/
def Concludes (n : Nat) (x : Job σ Unit) : Prop :=
  ∀ t : Terminal σ, ∃ u, (final x t).record = t.record ++ u ∧ Concluded n u (result x t)

private theorem Concludes.bind {f : α → Job σ Unit} (hx : Talks m x) (hf : ∀ a, Concludes n (f a)) :
    Concludes (m + n) (x >>= f) := by
  intro t
  obtain ⟨u, hrecord, exchanged, few⟩ := hx t
  refine bind_cases (P := fun r after => ∃ u, Terminal.record after = t.record ++ u ∧
    Concluded (m + n) u r) ?_ ?_
  · intro e _
    exact ⟨u, hrecord, .broken exchanged (few.trans (Nat.le_add_right m n))⟩
  · intro a _
    obtain ⟨v, hlater, concluded⟩ := hf a (final x t)
    refine ⟨u ++ v, ?_, concluded.prepend exchanged few⟩
    rw [hlater, Terminal.record, hrecord, List.append_assoc]
    rfl

private theorem Concludes.after {f : α → Job σ Unit} (hx : Talks 0 x)
    (hf : ∀ a, Concludes n (f a)) :
    Concludes n (x >>= f) := by
  have h := Concludes.bind hx hf
  rwa [Nat.zero_add] at h

end Talking

end Oscilloscope.CommandLine

namespace Oscilloscope

variable {σ : Type} [Transport σ]

namespace Line

omit [Transport σ] in
private theorem meets_of_conclude {α : Type} {x : Exchange σ α} {operation : Operation}
    {limit : Duration}
    {entry : Except Failure α → Transfer}
    (run : ∀ line, ∃ device answer,
      x line = conclude operation limit ⟨device, line.record ++ [entry answer]⟩ answer) :
    x.Meets fun t r => ∃ answer, t = [entry answer] ∧
      r = answer.mapError fun f => .link (f.during operation limit) := by
  intro line
  obtain ⟨device, answer, run⟩ := run line
  refine ⟨[entry answer], ?_, answer, rfl, result_of_conclude run⟩
  rw [final_of_conclude run]

private theorem opening_meets : (opening (σ := σ)).Meets fun t r => ∃ answer, t = [.opened answer] ∧
    r = answer.mapError fun f => .link (f.during .opening ⟨0⟩) :=
  meets_of_conclude fun _ => ⟨_, _, rfl⟩

private theorem claim_meets : (claim (σ := σ)).Meets fun t r => ∃ answer, t = [.claimed answer] ∧
    r = answer.mapError fun f => .link (f.during .claim ⟨0⟩) :=
  meets_of_conclude fun _ => ⟨_, _, rfl⟩

private theorem close_meets : (close (σ := σ)).Meets fun t r => ∃ answer, t = [.closed answer] ∧
    r = answer.mapError fun f => .link (f.during .close ⟨0⟩) :=
  meets_of_conclude fun _ => ⟨_, _, rfl⟩

end Line

/-- Courses of connecting. What cannot be claimed is closed again, however that goes. -/
inductive Handle.Connected (tuning : Tuning) : List Transfer → Except Fault Handle → Prop
  | unopened (f : Failure) :
      Connected tuning [.opened (.error f)] (.error (.link (f.during .opening ⟨0⟩)))
  | unclaimed (f : Failure) (closing : Except Failure Unit) :
      Connected tuning [.opened (.ok ()), .claimed (.error f), .closed closing]
        (.error (.link (f.during .claim ⟨0⟩)))
  | claimed (id : Option String) :
      Connected tuning [.opened (.ok ()), .claimed (.ok ())] (.ok ⟨tuning, id⟩)

private theorem Handle.connect_meets (tuning : Tuning) :
    (connect (σ := σ) tuning).Meets (Connected tuning) := by
  unfold connect
  refine Exchange.Meets.bind Line.opening_meets (Q := fun _ u r =>
    Connected tuning (.opened (.ok ()) :: u) r) ?_ ?_ ?_
  · intro _
    refine Exchange.Meets.bind Line.claim_meets.attempt (Q := fun claiming u r =>
      (claiming = .ok () → u = [] ∧ ∃ id, r = .ok ⟨tuning, id⟩) ∧
        ∀ fault, claiming = .error fault → ∃ closing, u = [.closed closing] ∧ r = .error fault)
      ?_ ?_ ?_
    · intro claiming
      cases claiming with
      | ok _ => exact fun line => ⟨[], (List.append_nil _).symm, fun _ => ⟨rfl, _, rfl⟩, nofun⟩
      | error fault =>
        refine Exchange.Meets.bind Line.close_meets.attempt
          (fun _ => Exchange.meets_throw (P := fun u r => u = [] ∧ r = .error fault) ⟨rfl, rfl⟩)
          ?_ ?_
        · rintro t _ ⟨_, _, h⟩
          cases h
        · rintro t _ u r ⟨_, ⟨closing, rfl, _⟩, _⟩ ⟨rfl, rfl⟩
          refine ⟨nofun, fun fault' h => ?_⟩
          cases h
          exact ⟨closing, rfl, rfl⟩
    · rintro t fault ⟨_, _, h⟩
      cases h
    · rintro t claiming u r ⟨inner, ⟨answer, rfl, hinner⟩, h⟩ ⟨claimed, unclaimed⟩
      cases h
      cases answer with
      | ok _ =>
        obtain ⟨rfl, id, rfl⟩ := claimed hinner
        exact .claimed id
      | error f =>
        obtain ⟨closing, rfl, rfl⟩ := unclaimed _ hinner
        exact .unclaimed f closing
  · rintro t fault ⟨answer, rfl, h⟩
    cases answer with
    | ok _ => cases h
    | error f =>
      cases h
      exact .unopened f
  · rintro t _ u r ⟨answer, rfl, h⟩ connected
    cases answer with
    | ok _ => exact connected
    | error f => cases h

end Oscilloscope

namespace Oscilloscope.CommandLine

variable {σ : Type} [Transport σ]

private theorem closeScope_concludes : Concludes 0 (closeScope : Job σ Unit) := by
  intro t
  obtain ⟨u, hrecord, answer, rfl, hresult⟩ := Line.close_meets t.scope.bank.line
  refine ⟨[] ++ [.closed answer], ?_, ?_⟩
  · rw [closeScope, final_onScope, Scope.final_onLine]
    exact hrecord
  · rw [closeScope, result_onScope, Scope.result_onLine, hresult]
    cases answer with
    | error f => exact .stuck (by simp) (Nat.le_refl 0)
    | ok _ => exact .closed (by simp) (Nat.le_refl 0)

private theorem openScope_opens (connection : Option String) (t : Terminal σ) :
    ∃ u r, (final (openScope connection) t).record = t.record ++ .sought connection :: u ∧
      result (openScope connection) t = r.mapError .opening ∧
      Handle.Connected { connection } u r := by
  obtain ⟨u, hrecord, connected⟩ := Handle.connect_meets { connection }
    { t.scope.bank.line with record := t.record ++ [.sought connection] }
  refine ⟨u, _, ?_, ?_, connected⟩
  · unfold openScope
    rw [final_bind_ok (result_modify _ _), final_onScope, Scope.final_onLine]
    refine Eq.trans hrecord ?_
    rw [List.append_assoc]
    rfl
  · unfold openScope
    rw [result_bind_ok (result_modify _ _), result_onScope, Scope.result_onLine]
    rfl

/-- Courses of a command that gets to the instrument. -/
inductive Accessed (connection : Option String) (n : Nat) :
    List Transfer → Except Failed Unit → Prop
  | unopened (f : Failure) :
      Accessed connection n [.sought connection, .opened (.error f)]
        (.error (.opening (.link (f.during .opening ⟨0⟩))))
  | unclaimed (f : Failure) (closing : Except Failure Unit) :
      Accessed connection n
        [.sought connection, .opened (.ok ()), .claimed (.error f), .closed closing]
        (.error (.opening (.link (f.during .claim ⟨0⟩))))
  | claimed {u : List Transfer} {r : Except Failed Unit} (concluded : Concluded n u r) :
      Accessed connection n (.sought connection :: .opened (.ok ()) :: .claimed (.ok ()) :: u) r

section Courses

variable {connection : Option String} {n : Nat} {u : List Transfer} {r : Except Failed Unit}

omit [Transport σ]

private theorem Concluded.few (h : Concluded n u r) : submissions .writeRegisters u ≤ n := by
  have silent (closing : Except Failure Unit) :
      submissions .writeRegisters [.closed closing] = 0 := rfl
  cases h with
  | broken _ few => exact few
  | stuck _ few | closed _ few =>
    rw [submissions_append, silent]
    exact few

private theorem Accessed.few (h : Accessed connection n u r) :
    submissions .writeRegisters u ≤ n := by
  cases h with
  | unopened | unclaimed => exact Nat.zero_le n
  | claimed concluded => exact concluded.few

private theorem Accessed.begins (h : Accessed connection n u r) :
    (∃ f, u = [.sought connection, .opened (.error f)] ∧ r.isOk = false) ∨
      (∃ f closing, u = [.sought connection, .opened (.ok ()), .claimed (.error f),
        .closed closing] ∧ r.isOk = false) ∨
      ∃ later, u = [.sought connection, .opened (.ok ()), .claimed (.ok ())] ++ later := by
  cases h with
  | unopened f => exact .inl ⟨f, rfl, rfl⟩
  | unclaimed f closing => exact .inr (.inl ⟨f, closing, rfl, rfl⟩)
  | claimed => exact .inr (.inr ⟨_, rfl⟩)

private theorem Accessed.ends (h : Accessed connection n u r) (done : r = .ok ()) :
    ∃ body, u = [.sought connection, .opened (.ok ()), .claimed (.ok ())] ++ body ++
      [.closed (.ok ())] ∧ ∀ x ∈ body, x.exchanged = true := by
  cases h with
  | unopened | unclaimed => cases done
  | claimed concluded =>
    cases concluded with
    | broken | stuck => cases done
    | @closed body exchanged => exact ⟨body, rfl, exchanged⟩

end Courses

def Accesses (connection : Option String) (n : Nat) (x : Job σ Unit) : Prop :=
  ∀ t : Terminal σ, ∃ u, (final x t).record = t.record ++ u ∧ Accessed connection n u (result x t)

private theorem accesses_of_concludes (connection : Option String) {n : Nat}
    {body : Handle → Job σ Unit}
    (concludes : ∀ handle, Concludes n (body handle)) :
    Accesses connection n (openScope connection >>= body) := by
  intro t
  obtain ⟨u, r, hrecord, hresult, connected⟩ := openScope_opens connection t
  refine bind_cases (P := fun r after => ∃ u, Terminal.record after = t.record ++ u ∧
    Accessed connection n u r) ?_ ?_
  · intro e failed
    rw [hresult] at failed
    refine ⟨_, hrecord, ?_⟩
    cases connected with
    | unopened f =>
      cases failed
      exact .unopened f
    | unclaimed f closing =>
      cases failed
      exact .unclaimed f closing
    | claimed => cases failed
  · intro handle done
    rw [hresult] at done
    obtain ⟨v, hlater, concluded⟩ := concludes handle (final (openScope connection) t)
    refine ⟨_, ?_, .claimed concluded⟩
    cases connected with
    | unopened | unclaimed => cases done
    | claimed =>
      rw [hlater, hrecord, List.append_assoc]
      rfl

private theorem showInfo_accesses (connection : Option String) :
    Accesses connection 0 (showInfo connection : Job σ Unit) := by
  refine accesses_of_concludes connection fun handle => ?_
  refine .after (talks_onScope (Scope.echo_talks handle _)) fun _ => ?_
  refine .after (talks_onScope (Scope.refresh_talks handle)) fun s => ?_
  -- What is left prints what the snapshot says, as far as its codes are known.
  refine .after (talks_print _) fun _ => .after (talks_print _) fun _ => ?_
  refine .after (talks_ofExcept _) fun _ => .after (talks_print _) fun _ => ?_
  refine .after (talks_ofExcept _) fun _ => .after (talks_print _) fun _ => ?_
  refine .after (talks_ofExcept _) fun _ => .after (talks_ofExcept _) fun _ => ?_
  refine .after (talks_print _) fun _ => ?_
  refine .after (talks_ofExcept _) fun _ => .after (talks_print _) fun _ => ?_
  refine .after (talks_ofExcept _) fun _ => .after (talks_print _) fun _ => ?_
  refine .after (talks_ofExcept _) fun _ => .after (talks_ofExcept _) fun _ => ?_
  refine .after (talks_print _) fun _ => ?_
  refine .after (talks_ofExcept _) fun _ => .after (talks_print _) fun _ => ?_
  split
  · refine .after (talks_ofExcept _) fun _ => .after (talks_print _) fun _ => ?_
    exact closeScope_concludes
  · exact closeScope_concludes

omit [Transport σ] in
private theorem findKey_of_found {name : String} {key : Key} (found : Key.ofName? name = some key) :
    (findKey name : Job σ Key) = pure key := by
  rw [findKey, found]

omit [Transport σ] in
private theorem findKey_of_unknown {name : String} (unknown : Key.ofName? name = none) :
    (findKey name : Job σ Key) = throw (.unknownSetting name) := by
  rw [findKey, unknown]

private theorem showValue_of_unknown (connection : Option String) {name : String}
    (unknown : Key.ofName? name = none) (channel : Option Nat) (choices : Bool) :
    showValue connection name channel choices =
      (throw (.unknownSetting name) : Job σ Unit) := by
  rw [showValue, findKey_of_unknown unknown]
  rfl

private theorem showValue_accesses (connection : Option String) {name : String} {key : Key}
    (found : Key.ofName? name = some key) (channel : Option Nat) (choices : Bool) :
    Accesses connection 0 (showValue connection name channel choices : Job σ Unit) := by
  rw [showValue, findKey_of_found found, pure_bind]
  refine accesses_of_concludes connection fun handle => ?_
  refine .after (talks_onScope ?_) fun value => .after (talks_print _) fun _ => closeScope_concludes
  have refresh := Scope.refresh_talks (σ := σ) handle
  cases choices with
  | true => exact Scope.composes_talks.listValues refresh key _
  | false => exact Scope.composes_talks.getValue refresh key _

private theorem changeValue_of_unknown (connection : Option String) {name : String}
    (unknown : Key.ofName? name = none) (text : String) (channel : Option Nat) :
    changeValue connection name text channel = (throw (.unknownSetting name) : Job σ Unit) := by
  rw [changeValue, findKey_of_unknown unknown]
  rfl

private theorem changeValue_of_invalid (connection : Option String) {name text : String} {key : Key}
    (found : Key.ofName? name = some key) (invalid : Value.parse? key.valueKind text = none)
    (channel : Option Nat) : changeValue connection name text channel =
      (throw (.invalidValue text key) : Job σ Unit) := by
  rw [changeValue, findKey_of_found found, pure_bind, invalid]

private theorem changeValue_accesses (connection : Option String) {name text : String} {key : Key}
    {value : Value} (found : Key.ofName? name = some key)
    (taken : Value.parse? key.valueKind text = some value) (channel : Option Nat) :
    Accesses connection 1 (changeValue connection name text channel : Job σ Unit) := by
  rw [changeValue, findKey_of_found found, pure_bind, taken]
  refine accesses_of_concludes connection fun handle => ?_
  exact .bind (talks_onScope (Scope.setValue_talks handle key _ value)) fun _ =>
    closeScope_concludes

private theorem poll_talks (handle : Handle) (stopped : Nat → Bool) (ticks : Nat)
    (scope : Scope σ) :
    scope.Talks 0 (final (poll handle stopped ticks) scope) := by
  have composes := Scope.composes_talks (σ := σ)
  induction ticks generalizing stopped scope with
  | zero => exact .of_bank rfl
  | succ ticks ih =>
    have ticking {next : Phase → Work σ Unit} (idle : next .idle = pure ())
        (capturing : next .capturing = poll handle (fun k => stopped (k + 1)) ticks)
        (stopping : next .stopping = poll handle (fun k => stopped (k + 1)) ticks)
        (scope : Scope σ) :
        scope.Talks 0 (final (Scope.tick handle >>= next) scope) := by
      refine composes.bind (Scope.tick_talks handle) (fun phase => ?_) scope
      cases phase with
      | idle => exact idle ▸ composes.pure ()
      | capturing => exact capturing ▸ ih _
      | stopping => exact stopping ▸ ih _
    refine composes.bind composes.get (fun s => ?_) scope
    split
    · split
      · exact composes.bind Scope.requestStop_talks fun _ => ticking rfl rfl rfl
      · exact ticking rfl rfl rfl
    · exact composes.pure ()

private theorem acquire_accesses (connection : Option String) (frames samples millis : UInt64)
    (dump : Bool) (stopped : Nat → Bool) (ticks : Nat) : Accesses connection 0
      (acquire connection frames samples millis dump stopped ticks : Job σ Unit) := by
  refine accesses_of_concludes connection fun handle => ?_
  refine .after (talks_printingEvents ?_) fun _ => closeScope_concludes
  have composes := Scope.composes_talks (σ := σ)
  refine composes.bind (fun _ => .of_bank rfl) fun _ => ?_
  refine composes.bind (Scope.refresh_talks handle) fun _ => ?_
  exact composes.bind (Scope.start_talks handle) fun _ => poll_talks handle stopped ticks

def Task.refusal? : Task → Option Failed
  | .get name _ _ => if (Key.ofName? name).isSome then none else some (.unknownSetting name)
  | .set name text _ =>
    match Key.ofName? name with
    | none => some (.unknownSetting name)
    | some key =>
      if (Value.parse? key.valueKind text).isSome then none else some (.invalidValue text key)
  | .list | .info | .acquire .. => none

def Task.revisions : Task → Nat
  | .set .. => 1
  | .list | .info | .get .. | .acquire .. => 0

private theorem Task.refusal?_get_of_found {name : String} {key : Key}
    (found : Key.ofName? name = some key)
    (channel : Option Nat) (choices : Bool) : (Task.get name channel choices).refusal? = none := by
  rw [refusal?, found]
  rfl

private theorem Task.refusal?_set_of_found {name : String} {key : Key}
    (found : Key.ofName? name = some key)
    (text : String) (channel : Option Nat) : (Task.set name text channel).refusal? =
      if (Value.parse? key.valueKind text).isSome then none else some (.invalidValue text key) := by
  rw [refusal?, found]

namespace Invocation

variable (i : Invocation) (s : Surroundings) (ticks : Nat)

private theorem job_of_refusal {e : Failed} (refused : i.task.refusal? = some e) :
    i.job s ticks = (throw e : Job σ Unit) := by
  obtain ⟨connection, task⟩ := i
  cases task with
  | list | info | acquire => cases refused
  | get name channel choices =>
    cases found : Key.ofName? name with
    | none =>
      rw [Task.refusal?, found] at refused
      cases refused
      exact showValue_of_unknown connection found channel choices
    | some key =>
      rw [Task.refusal?_get_of_found found] at refused
      cases refused
  | set name text channel =>
    cases found : Key.ofName? name with
    | none =>
      rw [Task.refusal?, found] at refused
      cases refused
      exact changeValue_of_unknown connection found text channel
    | some key =>
      rw [Task.refusal?_set_of_found found] at refused
      cases taken : Value.parse? key.valueKind text with
      | none =>
        rw [taken] at refused
        cases refused
        exact changeValue_of_invalid connection found taken channel
      | some value =>
        rw [taken] at refused
        cases refused

private theorem job_accesses (instrument : i.task ≠ .list) (accepted : i.task.refusal? = none) :
    Accesses i.connection i.task.revisions (i.job s ticks : Job σ Unit) := by
  obtain ⟨connection, task⟩ := i
  cases task with
  | list => exact absurd rfl instrument
  | info => exact showInfo_accesses connection
  | acquire frames samples millis dump =>
    exact acquire_accesses connection (frames.getD 0) (samples.getD 0) (millis.getD 0) dump
      s.stopped ticks
  | get name channel choices =>
    cases found : Key.ofName? name with
    | none =>
      rw [Task.refusal?, found] at accepted
      cases accepted
    | some key => exact showValue_accesses connection found channel choices
  | set name text channel =>
    cases found : Key.ofName? name with
    | none =>
      rw [Task.refusal?, found] at accepted
      cases accepted
    | some key =>
      rw [Task.refusal?_set_of_found found] at accepted
      cases taken : Value.parse? key.valueKind text with
      | none =>
        rw [taken] at accepted
        cases accepted
      | some value => exact changeValue_accesses connection found taken channel

/-- A command that is refused does nothing. Any other one opens the instrument first and then claims
it; where that fails, all that is left is to close it. What succeeds has claimed the instrument,
exchanged bytes only, and closed it last. Registers are written by changes alone, and once. -/
theorem job_opens_and_closes (instrument : i.task ≠ .list) (t : Terminal σ) :
    let r := result (i.job s ticks) t
    let claimed : List Transfer := [.sought i.connection, .opened (.ok ()), .claimed (.ok ())]
    ∃ u, (final (i.job s ticks) t).record = t.record ++ u ∧
      (∀ e, i.task.refusal? = some e → u = [] ∧ r = .error e) ∧
      (i.task.refusal? = none →
        (∃ f, u = [.sought i.connection, .opened (.error f)] ∧ r.isOk = false) ∨
        (∃ f closing, u = [.sought i.connection, .opened (.ok ()), .claimed (.error f),
          .closed closing] ∧ r.isOk = false) ∨
        ∃ later, u = claimed ++ later) ∧
      (r = .ok () → ∃ body, u = claimed ++ body ++ [.closed (.ok ())] ∧
        ∀ x ∈ body, x.exchanged = true) ∧
      submissions .writeRegisters u ≤ i.task.revisions := by
  intro r claimed
  cases refusal : i.task.refusal? with
  | some e =>
    have refused : i.job s ticks = (throw e : Job σ Unit) := i.job_of_refusal s ticks refusal
    refine ⟨[], ?_, ?_, nofun, ?_, Nat.zero_le _⟩
    · rw [refused, List.append_nil]
      rfl
    · intro e' h
      cases h
      exact ⟨rfl, congrArg (fun x => result x t) refused⟩
    · intro done
      cases (congrArg (fun x => result x t) refused).symm.trans done
  | none =>
    obtain ⟨u, hrecord, accessed⟩ := i.job_accesses s ticks instrument refusal t
    exact ⟨u, hrecord, fun _ h => (Option.some_ne_none _ h.symm).elim, fun _ => accessed.begins,
      accessed.ends, accessed.few⟩

theorem job_opens_and_closes_to_show_a_channel :
    let answer (command : Command) (payload : Bytes) : Except Failure Bytes :=
      let f : Frame := ⟨.normal, command.response, payload⟩
      .ok (f.body ++ [checksum f.body])
    let device : Script :=
      { reads := [answer .lock [1, 1], answer .readRegisters (List.replicate 240 0),
          answer .lock [1, 0], answer .writeRegisters [0]] }
    let i : Invocation := ⟨none, .set "enabled" "on" (some 1)⟩
    let after := final (i.job {} 0) ⟨Scope.ofLine { device }, []⟩
    (∃ body, after.record = [.sought none, .opened (.ok ()), .claimed (.ok ())] ++ body ++
      [.closed (.ok ())] ∧ ∀ x ∈ body, x.exchanged = true) ∧
      submissions .writeRegisters after.record = 1 := by
  intro answer device i after
  have succeeds : (result (i.job {} 0) ⟨Scope.ofLine { device }, []⟩).isOk = true := by
    decide +kernel
  have written : submissions .writeRegisters after.record = 1 := by decide +kernel
  obtain ⟨u, hrecord, -, -, done, -⟩ :=
    i.job_opens_and_closes {} 0 (by decide) ⟨Scope.ofLine { device }, []⟩
  cases hresult : result (i.job {} 0) ⟨Scope.ofLine { device }, []⟩ with
  | error e => rw [hresult] at succeeds; cases succeeds
  | ok _ =>
    obtain ⟨body, rfl, exchanged⟩ := done hresult
    exact ⟨⟨body, hrecord, exchanged⟩, written⟩

end Invocation

end Oscilloscope.CommandLine
