/- Which commands a transcript submits. A frame names its command in its fourth byte, so the bytes
   that were submitted tell them, whatever came of submitting them. Registers are written at the end
   of a revision, and by no other exchange. -/

import Oscilloscope.Proofs.Wire.Revision

set_option autoImplicit false
set_option relaxedAutoImplicit false

namespace Oscilloscope

/-- Whether a frame with this command was submitted, in full or not. -/
def submits (command : Command) (t : List Transfer) : Bool :=
  (writes t).any fun bytes => bytes[3]? == some command.byte

@[simp] theorem submits_nil (command : Command) : submits command [] = false := rfl

@[simp] theorem submits_append (command : Command) (t u : List Transfer) :
    submits command (t ++ u) = (submits command t || submits command u) := by
  rw [submits, writes_append, List.any_append]
  rfl

theorem submits_of_writes_eq_nil {t : List Transfer} (h : writes t = []) (command : Command) :
    submits command t = false := by
  rw [submits, h]
  rfl

namespace Link

variable {tuning : Tuning} {command : Command} {arguments : Bytes} {room : Nat} {t : List Transfer}

theorem submits_of_writes_eq {requests : List (Command × Bytes)}
    (h : writes t = requests.map fun request => form tuning request.1 request.2)
    (command : Command) :
    submits command t = requests.any fun request => request.1.byte == command.byte := by
  rw [submits, h, List.any_map]
  rfl

theorem Asked.submits_eq_false {r : Except Fault Frame}
    (h : Asked tuning command arguments room t r) {other : Command} (ne : command ≠ other) :
    submits other t = false := by
  have hbyte : (command.byte == other.byte) = false := by
    refine beq_eq_false_iff_ne.mpr fun same => ne ?_
    cases command
    cases other
    exact congrArg Command.mk same
  rcases Nat.lt_or_ge 65533 arguments.length with large | small
  · cases h with
    | oversized => rfl
    | unsent small | cutShort small | sent small => omega
  · have hwrites : writes t = [(command, arguments)].map fun request =>
        form tuning request.1 request.2 := h.writes_eq small
    rw [submits_of_writes_eq hwrites, List.any_cons, hbyte]
    rfl

end Link

namespace Bank

variable {tuning : Tuning} {t : List Transfer}

def readingRequests : List (Command × Bytes) :=
  [(.lock, [1, 1]), (.readRegisters, []), (.lock, [1, 0])]

theorem Refused.submits_eq {r : Except Fault Snapshot} (h : Refused tuning t r)
    (command : Command) : submits command t = (Command.lock.byte == command.byte) := by
  have hwrites : writes t = [(Command.lock, [1, 1])].map fun request =>
      Link.form tuning request.1 request.2 := h.writes_eq
  rw [Link.submits_of_writes_eq hwrites, List.any_cons, List.any_nil, Bool.or_false]

private theorem Held.submits_eq {r : Except Fault Snapshot} (h : Held tuning t r)
    (command : Command) :
    submits command t = readingRequests.any fun request => request.1.byte == command.byte :=
  Link.submits_of_writes_eq h.writes_eq command

theorem submits_writeRegisters_of_fetch {r : Except Fault Snapshot}
    (course : Refused tuning t r ∨ Held tuning t r) : submits .writeRegisters t = false := by
  rcases course with refused | held
  · rw [refused.submits_eq]
    rfl
  · rw [held.submits_eq]
    rfl

theorem Yielded.submits_readRegisters {s : Snapshot} {payload : Bytes}
    (h : Yielded tuning s payload t) : submits .readRegisters t = true := by
  have hsubmits : submits .readRegisters t =
      readingRequests.any fun request => request.1.byte == Command.readRegisters.byte :=
    Link.submits_of_writes_eq h.writes_eq .readRegisters
  rw [hsubmits]
  rfl

/-- Transfers that wrote `pending` to the registers, once and last, and straight after a reading
that yielded `current`. -/
structure Overwritten (tuning : Tuning) (current pending : Snapshot) (t : List Transfer) :
    Prop where
  writes_eq : writes t = [Link.form tuning .lock [1, 1], Link.form tuning .readRegisters [],
    Link.form tuning .lock [1, 0], Link.form tuning .writeRegisters pending.encode]
  course : ∃ payload reading writing answer, t = reading ++ writing ∧
    Yielded tuning current payload reading ∧ Committed tuning pending writing answer

theorem Overwritten.submits_readRegisters {current pending : Snapshot}
    (h : Overwritten tuning current pending t) : submits .readRegisters t = true := by
  obtain ⟨payload, reading, writing, answer, rfl, read, -⟩ := h.course
  rw [submits_append, read.submits_readRegisters, Bool.true_or]

theorem Committed.submits_readRegisters {s : Snapshot} {u : List Transfer} {r : Except Fault Unit}
    (h : Committed tuning s u r) : submits .readRegisters u = false := by
  have hwrites : writes u = [(Command.writeRegisters, s.encode)].map fun request =>
      Link.form tuning request.1 request.2 := h.writes_eq
  rw [Link.submits_of_writes_eq hwrites]
  rfl

/-- The registers were written in full at the end, and the answer confirms it. -/
def Confirmed (tuning : Tuning) (t : List Transfer) : Prop :=
  ∃ sofar sent bytes f rest,
    t = sofar ++ [.wrote (Link.form tuning .writeRegisters sent)
      (.ok (Link.form tuning .writeRegisters sent).length), .read 32 (.ok bytes)] ∧
      Frame.decode bytes = .ok f ∧ f.command = Command.writeRegisters.response ∧
      f.payload = 0 :: rest

variable {s : Snapshot} {u : List Transfer} {r : Except Fault Unit}

private theorem Committed.confirmed (h : Committed tuning s u (.ok ())) :
    Confirmed tuning (t ++ u) := by
  cases h with
  | acknowledged asked payload =>
    cases asked with
    | sent _ reply =>
      cases reply with
      | answered _ good same => exact ⟨t, s.encode, _, _, _, rfl, good, same, payload⟩

private theorem Committed.eq_ok_of_confirmed (h : Committed tuning s u r)
    (confirmed : Confirmed tuning (t ++ u)) : r = .ok () := by
  obtain ⟨sofar, sent, bytes, f, rest, split, good, same, payload⟩ := confirmed
  have last : (t ++ u).getLast? = some (.read 32 (.ok bytes)) := by
    rw [split, List.getLast?_append]
    rfl
  cases h with
  | failed asked => cases asked.eq_ok_of_last (encode_fits s) last good same
  | acknowledged => rfl
  | empty asked none =>
    cases asked.eq_ok_of_last (encode_fits s) last good same
    cases none.symm.trans payload
  | refused asked status nonzero =>
    cases asked.eq_ok_of_last (encode_fits s) last good same
    cases status.symm.trans payload
    exact absurd rfl nonzero

theorem Confirmed.submits (h : Confirmed tuning t) : submits .writeRegisters t = true := by
  obtain ⟨sofar, sent, bytes, f, rest, rfl, -⟩ := h
  rw [submits_append, Bool.or_eq_true]
  exact Or.inr rfl

variable {σ : Type} [Transport σ]

theorem overwritten_of_commit {bank : Bank σ} {current : Snapshot}
    (fetched : result (fetch tuning) bank = .ok current) (pending : Snapshot) :
    let committing := bank.refreshed tuning current
    ∃ t, (final (commit tuning pending) committing).line.record = bank.line.record ++ t ∧
      Overwritten tuning current pending t ∧
      (result (commit tuning pending) committing = .ok () ↔ Confirmed tuning t) := by
  intro committing
  obtain ⟨payload, t, read, hfetch⟩ := yielded_of_fetch fetched
  obtain ⟨u, hcommit, written⟩ := writeSnapshot_meets tuning pending committing.line
  have hwrites : writes (t ++ u) = [Link.form tuning .lock [1, 1],
      Link.form tuning .readRegisters [], Link.form tuning .lock [1, 0],
      Link.form tuning .writeRegisters pending.encode] := by
    rw [writes_append, read.writes_eq, written.writes_eq]
    rfl
  refine ⟨t ++ u, ?_, ⟨hwrites, payload, t, u, _, rfl, read, written⟩, ?_⟩
  · rw [commit, final_onLine, ← List.append_assoc, ← hfetch]
    exact hcommit
  · rw [commit, result_onLine]
    constructor
    · intro done
      rw [done] at written
      exact written.confirmed
    · exact written.eq_ok_of_confirmed

end Bank

namespace Line

variable {σ α : Type}

/-- From a line to a later state of it the command was not submitted. -/
def Avoids (command : Command) (line after : Line σ) : Prop :=
  ∃ t, after.record = line.record ++ t ∧ submits command t = false

variable {command : Command}

theorem Avoids.refl (command : Command) (line : Line σ) : line.Avoids command line :=
  ⟨[], (List.append_nil _).symm, rfl⟩

theorem Avoids.trans {line middle after : Line σ} (first : line.Avoids command middle)
    (second : middle.Avoids command after) : line.Avoids command after := by
  obtain ⟨t, hmiddle, ht⟩ := first
  obtain ⟨u, hafter, hu⟩ := second
  refine ⟨t ++ u, ?_, ?_⟩
  · rw [hafter, hmiddle, List.append_assoc]
  · rw [submits_append, ht, hu]
    rfl

theorem avoids_of_meets {x : Exchange σ α} {P : List Transfer → Except Fault α → Prop}
    (h : x.Meets P) (avoided : ∀ t r, P t r → submits command t = false) (line : Line σ) :
    line.Avoids command (final x line) := by
  obtain ⟨t, hrecord, course⟩ := h line
  exact ⟨t, hrecord, avoided t _ course⟩

/-- From a line to a later state of it no registers were written. -/
def Spares (line after : Line σ) : Prop :=
  ∃ t, after.record = line.record ++ t ∧ submits .writeRegisters t = false

theorem Spares.refl (line : Line σ) : line.Spares line :=
  Avoids.refl .writeRegisters line

theorem Spares.trans {line middle after : Line σ} (first : line.Spares middle)
    (second : middle.Spares after) : line.Spares after :=
  Avoids.trans first second

end Line

section

variable {σ : Type} [Transport σ] (tuning : Tuning) {command other : Command}

theorem Link.request_avoids (ne : command ≠ other) (arguments : Bytes) (room : Nat)
    (line : Line σ) : line.Avoids other (final (request tuning command arguments room) line) :=
  Line.avoids_of_meets (request_meets tuning command arguments room)
    (fun _ _ asked => asked.submits_eq_false ne) line

theorem Bank.readSnapshot_spares (line : Line σ) :
    line.Spares (final (readSnapshot tuning) line) :=
  Line.avoids_of_meets (readSnapshot_meets tuning)
    (fun _ _ course => submits_writeRegisters_of_fetch course) line

theorem final_askSamples (c : ChannelId) (line : Line σ) :
    final (askSamples tuning c) line =
      final (Link.request tuning .readSamples [1, .ofNat c.index] 128) line := by
  unfold askSamples
  refine final_bind_idle _ (fun answer after => ?_) line
  rw [final_bind, Exchange.final_ofExcept]
  split
  · split
    · rfl
    · split
      · rfl
      · split <;> rfl
  · rfl

theorem askSamples_avoids (ne : .readSamples ≠ other) (c : ChannelId) (line : Line σ) :
    line.Avoids other (final (askSamples tuning c) line) := by
  rw [final_askSamples]
  exact Link.request_avoids tuning ne _ _ line

theorem Stream.receive_avoids (other : Command) (c : ChannelId) (failures : UInt32)
    (line : Line σ) : line.Avoids other (receive tuning c failures line).2 := by
  have reads (line : Line σ) :
      line.Avoids other (final (Link.receive tuning .readSamples 10007) line) :=
    Line.avoids_of_meets (Link.receive_meets tuning .readSamples 10007)
      (fun _ _ course => submits_of_writes_eq_nil course.writes_eq_nil _) line
  fun_induction receive tuning c failures line with
  | case1 _ line _ _ run | case2 _ line _ _ run | case3 _ line _ _ run | case4 _ line _ _ run
  | case5 _ line _ _ run =>
    have read := reads line
    rwa [final, run] at read
  | case6 _ line _ _ run _ _ ih =>
    have read := reads line
    rw [final, run] at read
    exact read.trans ih
  | case7 _ line _ _ run _ _ _ _ rest ih =>
    have read := reads line
    rw [final, run] at read
    rw [rest] at ih
    exact read.trans ih

end

end Oscilloscope
