/- What passes over an open connection. Calls exchange bytes on it and neither open nor close it,
   and of the frames that they submit at most one in each change of a setting writes registers. -/

import Oscilloscope.Proofs.Scope.Composition
import Oscilloscope.Proofs.Scope.Setting
import Oscilloscope.Proofs.Scope.Streaming
import Oscilloscope.Proofs.Wire.Submission

set_option autoImplicit false
set_option relaxedAutoImplicit false

namespace Oscilloscope

/-- Whether bytes were exchanged, or submitted or waited for at least. -/
def Transfer.exchanged : Transfer → Bool
  | .wrote _ _ | .read _ _ => true
  | .sought _ | .opened _ | .claimed _ | .closed _ => false

/-- How often a frame with this command was submitted, in full or not. -/
def submissions (command : Command) (t : List Transfer) : Nat :=
  (writes t).countP fun bytes => bytes[3]? == some command.byte

@[simp] theorem submissions_append (command : Command) (t u : List Transfer) :
    submissions command (t ++ u) = submissions command t + submissions command u := by
  rw [submissions, writes_append, List.countP_append]
  rfl

private theorem submissions_eq_zero_iff {command : Command} {t : List Transfer} :
    submissions command t = 0 ↔ submits command t = false := by
  rw [submissions, submits, List.countP_eq_zero, List.any_eq_false]

theorem submissions_of_writes_eq {tuning : Tuning} {t : List Transfer}
    {requests : List (Command × Bytes)}
    (h : writes t = requests.map fun request => Link.form tuning request.1 request.2)
    (command : Command) : submissions command t =
      requests.countP fun request => request.1.byte == command.byte := by
  rw [submissions, h, List.countP_map]
  rfl

section

variable {tuning : Tuning} {t : List Transfer}

private theorem Link.Asked.exchanged {command : Command} {arguments : Bytes} {room : Nat}
    {r : Except Fault Frame} (h : Link.Asked tuning command arguments room t r) :
    ∀ x ∈ t, x.exchanged = true := by
  cases h with
  | oversized | unsent | cutShort => simp [Transfer.exchanged]
  | sent _ reply => cases reply <;> simp [Transfer.exchanged]

private theorem Panel.Handshake.exchanged {held : Bool} {r : Except Fault Unit}
    (h : Panel.Handshake tuning held t r) : ∀ x ∈ t, x.exchanged = true := by
  cases h with
  | failed asked | empty asked | otherSubCommand asked | missingState asked | otherState asked
  | acknowledged asked => exact asked.exchanged

private theorem Bank.exchanged_of_fetch {r : Except Fault Snapshot}
    (course : Bank.Refused tuning t r ∨ Bank.Held tuning t r) : ∀ x ∈ t, x.exchanged = true := by
  rcases course with refused | held
  · obtain ⟨_, lock, -⟩ := refused.handshake
    exact lock.exchanged
  · obtain ⟨_, _, _, _, _, rfl, lock, asked, unlock, -⟩ := held.course
    intro x hx
    rcases List.mem_append.mp hx with first | hx
    · exact lock.exchanged x first
    · rcases List.mem_append.mp hx with second | third
      · exact asked.exchanged x second
      · exact unlock.exchanged x third

private theorem Bank.Committed.exchanged {s : Snapshot} {r : Except Fault Unit}
    (h : Bank.Committed tuning s t r) : ∀ x ∈ t, x.exchanged = true := by
  cases h with
  | failed asked | empty asked | refused asked | acknowledged asked => exact asked.exchanged

private theorem Bank.Committed.submissions_eq {s : Snapshot} {r : Except Fault Unit}
    (h : Bank.Committed tuning s t r) : submissions .writeRegisters t = 1 := by
  have hwrites : writes t = [(Command.writeRegisters, s.encode)].map fun request =>
      Link.form tuning request.1 request.2 := h.writes_eq
  rw [submissions_of_writes_eq hwrites]
  rfl

end

namespace Line

variable {σ α : Type} {line middle after : Line σ} {m n : Nat}

/-- From a line to a later state of it bytes were exchanged, at most `n` times of them to write
registers, and nothing else was done. -/
def Talks (n : Nat) (line after : Line σ) : Prop :=
  ∃ t, after.record = line.record ++ t ∧ (∀ x ∈ t, x.exchanged = true) ∧
    submissions .writeRegisters t ≤ n

theorem Talks.refl (line : Line σ) : Talks 0 line line :=
  ⟨[], (List.append_nil _).symm, by simp, Nat.le_refl 0⟩

theorem Talks.trans (first : Talks m line middle) (second : Talks n middle after) :
    Talks (m + n) line after := by
  obtain ⟨t, hmiddle, ht, few⟩ := first
  obtain ⟨u, hafter, hu, few'⟩ := second
  refine ⟨t ++ u, ?_, ?_, ?_⟩
  · rw [hafter, hmiddle, List.append_assoc]
  · intro x hx
    exact (List.mem_append.mp hx).elim (ht x) (hu x)
  · rw [submissions_append]
    omega

theorem Talks.mono (h : Talks m line after) (le : m ≤ n) : Talks n line after := by
  obtain ⟨t, hafter, ht, few⟩ := h
  exact ⟨t, hafter, ht, few.trans le⟩

private theorem talks_of_meets {x : Exchange σ α} {P : List Transfer → Except Fault α → Prop}
    (h : x.Meets P) (exchanged : ∀ t r, P t r → ∀ x ∈ t, x.exchanged = true)
    (few : ∀ t r, P t r → submissions .writeRegisters t ≤ n) (line : Line σ) :
    Talks n line (final x line) := by
  obtain ⟨t, hrecord, course⟩ := h line
  exact ⟨t, hrecord, exchanged t _ course, few t _ course⟩

end Line

section

variable {σ : Type} [Transport σ] (tuning : Tuning)

private theorem Link.request_talks {command : Command} (other : command ≠ .writeRegisters)
    (arguments : Bytes) (room : Nat) (line : Line σ) :
    Line.Talks 0 line (final (request tuning command arguments room) line) :=
  Line.talks_of_meets (request_meets tuning command arguments room)
    (fun _ _ asked => asked.exchanged)
    (fun _ _ asked => Nat.le_of_eq (submissions_eq_zero_iff.mpr (asked.submits_eq_false other)))
    line

private theorem Bank.readSnapshot_talks (line : Line σ) :
    Line.Talks 0 line (final (readSnapshot tuning) line) :=
  Line.talks_of_meets (readSnapshot_meets tuning) (fun _ _ => exchanged_of_fetch)
    (fun _ _ course => Nat.le_of_eq
      (submissions_eq_zero_iff.mpr (submits_writeRegisters_of_fetch course))) line

private theorem Bank.writeSnapshot_talks (s : Snapshot) (line : Line σ) :
    Line.Talks 1 line (final (writeSnapshot tuning s) line) :=
  Line.talks_of_meets (writeSnapshot_meets tuning s) (fun _ _ written => written.exchanged)
    (fun _ _ written => Nat.le_of_eq written.submissions_eq) line

private theorem askSamples_talks (c : ChannelId) (line : Line σ) :
    Line.Talks 0 line (final (askSamples tuning c) line) := by
  rw [final_askSamples]
  exact Link.request_talks tuning (by decide) _ _ line

private theorem Line.afterReads_talks (line : Line σ) (n : Nat) :
    Line.Talks 0 line (line.afterReads n) := by
  refine ⟨_, rfl, fun x hx => ?_, ?_⟩
  · obtain ⟨i, -, rfl⟩ := List.mem_map.mp hx
    rfl
  · have silent : writes ((List.range n).map fun i =>
        Transfer.read 10007 (answerAt line.device i)) = [] := by
      rw [writes, List.filterMap_map]
      exact List.filterMap_eq_nil_iff.mpr fun _ _ => rfl
    rw [submissions, silent]
    exact Nat.le_refl 0

private theorem Stream.receive_talks (c : ChannelId) (line : Line σ) :
    Line.Talks 0 line (receive tuning c 0 line).2 := by
  obtain ⟨n, -, -, received⟩ := receive_streams tuning c line
  rw [received]
  exact line.afterReads_talks (n + 1)

end

namespace Scope

variable {σ : Type} {scope middle after : Scope σ} {m n : Nat}

/-- From a scope to a later state of it bytes were exchanged on its line, and nothing else done. -/
def Talks (n : Nat) (scope after : Scope σ) : Prop :=
  Line.Talks n scope.bank.line after.bank.line

theorem Talks.of_bank (same : after.bank = scope.bank) : Talks 0 scope after := by
  rw [Talks, same]
  exact .refl scope.bank.line

theorem Talks.trans (first : Talks m scope middle) (second : Talks n middle after) :
    Talks (m + n) scope after :=
  Line.Talks.trans first second

theorem Talks.mono (h : Talks m scope after) (le : m ≤ n) : Talks n scope after :=
  Line.Talks.mono h le

theorem composes_talks :
    Composes fun ⦃α : Type⦄ (x : Work σ α) => ∀ scope : Scope σ, Talks 0 scope (final x scope) where
  pure _ _ := .of_bank rfl
  throw _ _ := .of_bank rfl
  get _ := .of_bank rfl
  bind := by
    intro α β x f first rest scope
    refine bind_cases (P := fun _ after => Talks 0 scope after) ?_ ?_
    · intro _ _
      exact first scope
    · intro a _
      exact (first scope).trans (rest a _)

variable [Transport σ] {handle : Handle}

private theorem fetched_talks (handle : Handle) (scope : Scope σ) :
    Talks 0 scope (scope.fetched handle) := by
  rw [Talks, fetched, Bank.fetch, Bank.final_onLine]
  exact Bank.readSnapshot_talks handle.tuning scope.bank.line

private theorem refreshed_talks (handle : Handle) (s : Snapshot) (scope : Scope σ) :
    Talks 0 scope { scope with bank := scope.bank.refreshed handle.tuning s } :=
  fetched_talks handle scope

theorem refresh_talks (handle : Handle) (scope : Scope σ) :
    Talks 0 scope (final (refresh handle) scope) := by
  rw [refresh, final_onBank]
  cases fetch : result (Bank.fetch handle.tuning) scope.bank with
  | error fault =>
    rw [(Bank.refresh_of_unfetched fetch).2]
    exact fetched_talks handle scope
  | ok s =>
    rw [(Bank.refresh_of_fetch fetch).2]
    exact refreshed_talks handle s scope

theorem echo_talks (handle : Handle) (bytes : Bytes) (scope : Scope σ) :
    Talks 0 scope (final (echo handle bytes) scope) := by
  unfold echo
  rw [final_bind_pure, final_onLine]
  exact Link.request_talks handle.tuning (by decide) _ _ _

private theorem FrameRead.talks {fresh : Snapshot} {c : ChannelId} {r : Except Fault Unit}
    (h : FrameRead handle fresh c scope r after) : Talks 0 scope after := by
  have asked : Line.Talks 0 scope.bank.line (scope.asked handle c) :=
    askSamples_talks handle.tuning c scope.bank.line
  cases h with
  | hidden | undecoded => exact .of_bank rfl
  | unasked | waiting => exact asked
  | broken _ _ _ received | whole _ _ _ received =>
    have streamed := Stream.receive_talks handle.tuning c (scope.asked handle c)
    rw [received] at streamed
    exact asked.trans streamed

private theorem Captured.talks {r : Except Fault Unit} (h : Captured handle scope r after) :
    Talks 0 scope after := by
  have told {fresh : Snapshot} {r : Except Fault Unit} {told : Scope σ}
      (change : ChangeTold fresh (scope.fetched handle) r told) : Talks 0 scope told :=
    (fetched_talks handle scope).trans (.of_bank change.bank)
  cases h with
  | unfetched => exact fetched_talks handle scope
  | untold _ change => exact told change
  | firstFailed _ change ch1 => exact (told change).trans ch1.talks
  | secondFailed _ change ch1 ch2 => exact ((told change).trans ch1.talks).trans ch2.talks
  | complete _ change ch1 ch2 =>
    have round := ((told change).trans ch1.talks).trans ch2.talks
    split
    · exact round.trans (.of_bank (stopRequested_bank _))
    · exact round

theorem start_talks (handle : Handle) (scope : Scope σ) :
    Talks 0 scope (final (start handle) scope) :=
  .of_bank (start_starts handle scope).bank

omit [Transport σ] in
theorem requestStop_talks (scope : Scope σ) : Talks 0 scope (final requestStop scope) :=
  .of_bank (stopRequested_bank scope)

theorem tick_talks (handle : Handle) (scope : Scope σ) :
    Talks 0 scope (final (tick handle) scope) := by
  have course := tick_ticks handle scope
  generalize result (tick handle) scope = r at course
  generalize final (tick handle) scope = after at course
  cases course with
  | idle | ended => exact .of_bank rfl
  | failed _ round | continued _ round => exact round.talks

theorem setValue_talks (handle : Handle) (key : Key) (index : Option Nat) (value : Value)
    (scope : Scope σ) : Talks 1 scope (final (setValue handle key index value) scope) := by
  have revised {r : Except Fault Snapshot} {bank : Bank σ}
      {change : Snapshot → Except Fault Snapshot}
      (h : Bank.Revised handle.tuning change scope.bank r bank) :
      Talks 1 scope { scope with bank } := by
    have read := (fetched_talks handle scope).mono (Nat.zero_le 1)
    cases h with
    | unfetched => exact read
    | unchanged => exact read
    | @uncommitted current pending | @committed current pending =>
      refine (refreshed_talks handle current scope).trans (n := 1) ?_
      rw [Talks, Bank.commit, Bank.line_final_onLine]
      exact Bank.writeSnapshot_talks handle.tuning pending _
  have course := setValue_sets handle key index value scope
  generalize result (setValue handle key index value) scope = r at course
  generalize final (setValue handle key index value) scope = after at course
  cases course with
  | misaddressed | unsettable | limited | unlimited =>
    have same : Talks 0 scope scope := .of_bank rfl
    exact same.mono (Nat.zero_le 1)
  | unrevised _ _ _ h | revised _ _ _ h => exact revised h

end Scope

end Oscilloscope
