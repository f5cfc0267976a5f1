/- Changing registers on the instrument: a fresh snapshot is read, changed, and written back whole.
   Each way for that to go is listed once, with the transfers it makes. -/

import Oscilloscope.Proofs.Wire.PanelLock

set_option autoImplicit false
set_option relaxedAutoImplicit false

namespace Oscilloscope.Bank

/-- Courses of writing a snapshot. Only an answer that begins with zero acknowledges it. -/
inductive Committed (tuning : Tuning) (s : Snapshot) : List Transfer → Except Fault Unit → Prop
  | failed {t : List Transfer} {fault : Fault}
      (asked : Link.Asked tuning .writeRegisters s.encode 32 t (.error fault)) :
      Committed tuning s t (.error fault)
  | empty {t : List Transfer} {f : Frame}
      (asked : Link.Asked tuning .writeRegisters s.encode 32 t (.ok f)) (payload : f.payload = []) :
      Committed tuning s t (.error (.frame (.tooShort 5)))
  | refused {t : List Transfer} {f : Frame} {status : UInt8} {rest : Bytes}
      (asked : Link.Asked tuning .writeRegisters s.encode 32 t (.ok f))
      (payload : f.payload = status :: rest) (nonzero : status ≠ 0) :
      Committed tuning s t (.error (.status ⟨status⟩))
  | acknowledged {t : List Transfer} {f : Frame} {rest : Bytes}
      (asked : Link.Asked tuning .writeRegisters s.encode 32 t (.ok f))
      (payload : f.payload = 0 :: rest) : Committed tuning s t (.ok ())

theorem encode_fits (s : Snapshot) : s.encode.length ≤ 65533 := by
  rw [Snapshot.length_encode]
  decide

theorem Committed.writes_eq {tuning : Tuning} {s : Snapshot} {t : List Transfer}
    {r : Except Fault Unit} (h : Committed tuning s t r) :
    writes t = [Link.form tuning .writeRegisters s.encode] := by
  cases h with
  | failed asked | empty asked | refused asked | acknowledged asked =>
    exact asked.writes_eq (encode_fits s)

variable {σ : Type} [Transport σ]

theorem writeSnapshot_meets (tuning : Tuning) (s : Snapshot) :
    (writeSnapshot (σ := σ) tuning s).Meets (Committed tuning s) := by
  unfold writeSnapshot
  refine Link.request_then_meets (fun t fault asked => .failed asked) ?_
  rintro ⟨marker, command, payload⟩
  cases payload with
  | nil => exact Exchange.meets_throw ⟨rfl, fun t asked => .empty asked rfl⟩
  | cons status rest =>
    change Exchange.Meets (if status = 0 then pure () else throw (.status ⟨status⟩)) _
    by_cases zero : status = 0
    · rw [if_pos zero]
      subst zero
      exact Exchange.meets_pure ⟨rfl, fun t asked => .acknowledged asked rfl⟩
    · rw [if_neg zero]
      exact Exchange.meets_throw ⟨rfl, fun t asked => .refused asked rfl zero⟩

private theorem decode_of_take {payload : Bytes} {s : Snapshot}
    (h : Snapshot.decode (payload.take 240) = .ok s) : Snapshot.decode payload = .ok s := by
  have hencode := Snapshot.encode_of_decode h
  rw [List.take_take, Nat.min_self] at hencode
  have hpayload : payload = s.encode ++ payload.drop 240 := by
    rw [hencode, List.take_append_drop]
  rw [hpayload]
  exact Snapshot.decode_encode_append s _

/-- Transfers of a fetch that yields `s`: the panel is locked and unlocked around the answer. -/
structure Yielded (tuning : Tuning) (s : Snapshot) (payload : Bytes) (t : List Transfer) :
    Prop where
  writes_eq : writes t = [Link.form tuning .lock [1, 1], Link.form tuning .readRegisters [],
    Link.form tuning .lock [1, 0]]
  course : ∃ locking reading unlocking f, t = locking ++ (reading ++ unlocking) ∧
    Panel.Handshake tuning true locking (.ok ()) ∧
    Link.Asked tuning .readRegisters [] 512 reading (.ok f) ∧ f.payload = payload ∧
    Panel.Handshake tuning false unlocking (.ok ())
  long : 240 ≤ payload.length
  decoded : Snapshot.decode payload = .ok s

theorem yielded_of_fetch {tuning : Tuning} {bank : Bank σ} {s : Snapshot}
    (h : result (fetch tuning) bank = .ok s) :
    ∃ payload t, Yielded tuning s payload t ∧
      (final (fetch tuning) bank).line.record = bank.line.record ++ t := by
  obtain ⟨t, hrecord, course⟩ := readSnapshot_meets tuning bank.line
  have hresult : result (readSnapshot tuning) bank.line = .ok s := by
    rw [← h, fetch, result_onLine]
  rw [hresult] at course
  rcases course with refused | held
  · obtain ⟨fault, -, hfault⟩ := refused.handshake
    cases hfault
  · obtain ⟨locking, reading, unlocking, read, unlock, rfl, lock, asked, released, settled⟩ :=
      held.course
    cases settled with
    | @read f _ answer =>
      obtain ⟨marker, command, payload⟩ := f
      cases answer with
      | whole long decoded =>
        refine ⟨payload, _, ⟨held.writes_eq, ?_, long, decode_of_take decoded⟩, ?_⟩
        · exact ⟨locking, reading, unlocking, _, rfl, lock, asked, rfl, released⟩
        · rw [fetch, final_onLine]
          exact hrecord

def refreshed (tuning : Tuning) (current : Snapshot) (bank : Bank σ) : Bank σ :=
  { final (fetch tuning) bank with published := some current }

theorem refresh_of_fetch {tuning : Tuning} {bank : Bank σ} {s : Snapshot}
    (h : result (fetch tuning) bank = .ok s) :
    result (refresh tuning) bank = .ok s ∧
      final (refresh tuning) bank = bank.refreshed tuning s := by
  unfold refresh
  rw [result_bind_ok h, final_bind_ok h]
  exact ⟨rfl, rfl⟩

theorem refresh_of_unfetched {tuning : Tuning} {bank : Bank σ} {fault : Fault}
    (h : result (fetch tuning) bank = .error fault) :
    result (refresh tuning) bank = .error fault ∧
      final (refresh tuning) bank = final (fetch tuning) bank := by
  unfold refresh
  rw [result_bind_error h, final_bind_error h]
  exact ⟨rfl, rfl⟩

/-- Ways to revise the registers. What was fetched is published, what was changed is not. -/
inductive Revised (tuning : Tuning) (change : Snapshot → Except Fault Snapshot) (bank : Bank σ) :
    Except Fault Snapshot → Bank σ → Prop
  | unfetched {fault : Fault} (fetched : result (fetch tuning) bank = .error fault) :
      Revised tuning change bank (.error fault) (final (fetch tuning) bank)
  | unchanged {current : Snapshot} {fault : Fault}
      (fetched : result (fetch tuning) bank = .ok current)
      (refused : change current = .error fault) :
      Revised tuning change bank (.error fault) (bank.refreshed tuning current)
  | uncommitted {current pending : Snapshot} {fault : Fault}
      (fetched : result (fetch tuning) bank = .ok current) (changed : change current = .ok pending)
      (written : result (commit tuning pending) (bank.refreshed tuning current) = .error fault) :
      Revised tuning change bank (.error fault)
        (final (commit tuning pending) (bank.refreshed tuning current))
  | committed {current pending : Snapshot}
      (fetched : result (fetch tuning) bank = .ok current) (changed : change current = .ok pending)
      (written : result (commit tuning pending) (bank.refreshed tuning current) = .ok ()) :
      Revised tuning change bank (.ok pending)
        (final (commit tuning pending) (bank.refreshed tuning current))

theorem revise_revises (tuning : Tuning) (change : Snapshot → Except Fault Snapshot)
    (bank : Bank σ) : Revised tuning change bank (result (revise tuning change) bank)
      (final (revise tuning change) bank) := by
  unfold revise
  cases fetched : result (fetch tuning) bank with
  | error fault =>
    obtain ⟨hresult, hfinal⟩ := refresh_of_unfetched fetched
    rw [result_bind_error hresult, final_bind_error hresult, hfinal]
    exact .unfetched fetched
  | ok current =>
    obtain ⟨hresult, hfinal⟩ := refresh_of_fetch fetched
    rw [result_bind_ok hresult, final_bind_ok hresult, hfinal]
    cases changed : change current with
    | error fault => exact .unchanged fetched changed
    | ok pending =>
      refine bind_cases (P := Revised tuning change bank) ?_ ?_
      · intro fault written
        exact .uncommitted fetched changed written
      · intro _ written
        rw [result_pure, final_pure]
        exact .committed fetched changed written

/-- Transfers of registers that were changed: a snapshot is read under the panel lock, and after
that one is written. -/
structure Rewritten (tuning : Tuning) (received sent : Bytes) (t : List Transfer) : Prop where
  writes_eq : writes t = [Link.form tuning .lock [1, 1], Link.form tuning .readRegisters [],
    Link.form tuning .lock [1, 0], Link.form tuning .writeRegisters sent]
  course : ∃ locking reading unlocking writing f answer,
    t = (locking ++ (reading ++ unlocking)) ++ writing ∧
    Panel.Handshake tuning true locking (.ok ()) ∧
    Link.Asked tuning .readRegisters [] 512 reading (.ok f) ∧ f.payload = received ∧
    Panel.Handshake tuning false unlocking (.ok ()) ∧
    Link.Asked tuning .writeRegisters sent 32 writing (.ok answer)

theorem rewritten_of_revised {tuning : Tuning} {change : Snapshot → Except Fault Snapshot}
    {bank after : Bank σ} {pending : Snapshot}
    (h : Revised tuning change bank (.ok pending) after) :
    ∃ current received t, Rewritten tuning received pending.encode t ∧
      after.line.record = bank.line.record ++ t ∧ 240 ≤ received.length ∧
      Snapshot.decode received = .ok current ∧ change current = .ok pending := by
  cases h with
  | @committed current _ fetched changed written =>
    obtain ⟨received, t, yielded, hrecord⟩ := yielded_of_fetch fetched
    obtain ⟨locking, reading, unlocking, f, rfl, lock, asked, payload, unlock⟩ := yielded.course
    obtain ⟨writing, hwriting, course⟩ :=
      writeSnapshot_meets tuning pending (bank.refreshed tuning current).line
    have hwritten : result (writeSnapshot tuning pending) (bank.refreshed tuning current).line =
        .ok () := by
      rw [← written, commit, result_onLine]
    rw [hwritten] at course
    cases course with
    | acknowledged sent =>
      refine ⟨current, received, _, ⟨?_, locking, reading, unlocking, writing, f, _, rfl, lock,
        asked, payload, unlock, sent⟩, ?_, yielded.long, yielded.decoded, changed⟩
      · rw [writes_append, yielded.writes_eq, sent.writes_eq (encode_fits pending)]
        rfl
      · rw [commit, final_onLine, ← List.append_assoc, ← hrecord]
        exact hwriting

end Oscilloscope.Bank
