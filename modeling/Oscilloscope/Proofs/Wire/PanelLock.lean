/- The panel lock on the wire. Locking is one handshake; a fetch either fails in it or goes on to
   read and to unlock, and what it comes to is settled by the read first and by the unlock next. -/

import Mathlib.Logic.Basic
import Oscilloscope.Proofs.Wire.Request

set_option autoImplicit false
set_option relaxedAutoImplicit false

namespace Oscilloscope

namespace Panel

/-- How a lock request names the state that it asks for. -/
def stateByte (held : Bool) : UInt8 :=
  if held then 1 else 0

/-- Courses of locking (`held`) or unlocking. Only an answer that repeats sub-command and state
acknowledges it. -/
inductive Handshake (tuning : Tuning) (held : Bool) : List Transfer → Except Fault Unit → Prop
  | failed {t : List Transfer} {fault : Fault}
      (asked : Link.Asked tuning .lock [1, stateByte held] 128 t (.error fault)) :
      Handshake tuning held t (.error fault)
  | empty {t : List Transfer} {f : Frame}
      (asked : Link.Asked tuning .lock [1, stateByte held] 128 t (.ok f))
      (payload : f.payload = []) :
      Handshake tuning held t (.error (.frame (.tooShort 5)))
  | otherSubCommand {t : List Transfer} {f : Frame} {sub : UInt8} {rest : Bytes}
      (asked : Link.Asked tuning .lock [1, stateByte held] 128 t (.ok f))
      (payload : f.payload = sub :: rest) (other : sub ≠ 1) :
      Handshake tuning held t (.error (.frame (.subCommand 1 sub)))
  | missingState {t : List Transfer} {f : Frame}
      (asked : Link.Asked tuning .lock [1, stateByte held] 128 t (.ok f))
      (payload : f.payload = [1]) :
      Handshake tuning held t (.error (.frame (.tooShort 1)))
  | otherState {t : List Transfer} {f : Frame} {echoed : UInt8} {rest : Bytes}
      (asked : Link.Asked tuning .lock [1, stateByte held] 128 t (.ok f))
      (payload : f.payload = 1 :: echoed :: rest) (other : echoed ≠ stateByte held) :
      Handshake tuning held t (.error (.frame (.lockEcho (stateByte held) echoed)))
  | acknowledged {t : List Transfer} {f : Frame} {rest : Bytes}
      (asked : Link.Asked tuning .lock [1, stateByte held] 128 t (.ok f))
      (payload : f.payload = 1 :: stateByte held :: rest) :
      Handshake tuning held t (.ok ())

theorem Handshake.writes_eq {tuning : Tuning} {held : Bool} {t : List Transfer}
    {r : Except Fault Unit} (h : Handshake tuning held t r) :
    writes t = [Link.form tuning .lock [1, stateByte held]] := by
  cases h with
  | failed asked | empty asked | otherSubCommand asked | missingState asked | otherState asked
  | acknowledged asked => exact asked.writes_eq (by simp)

variable {σ : Type} [Transport σ]

private theorem setLock_meets (tuning : Tuning) (held : Bool) :
    (setLock (σ := σ) tuning held).Meets (Handshake tuning held) := by
  unfold setLock
  refine Link.request_then_meets (fun t fault asked => .failed asked) ?_
  rintro ⟨marker, command, payload⟩
  cases payload with
  | nil => exact Exchange.meets_throw ⟨rfl, fun t asked => .empty asked rfl⟩
  | cons sub rest =>
    by_cases hsub : sub = 1
    · subst hsub
      cases rest with
      | nil => exact Exchange.meets_throw ⟨rfl, fun t asked => .missingState asked rfl⟩
      | cons echoed rest =>
        change Exchange.Meets (if echoed = stateByte held then pure ()
          else throw (.frame (.lockEcho (stateByte held) echoed))) _
        by_cases hstate : echoed = stateByte held
        · rw [if_pos hstate]
          subst hstate
          exact Exchange.meets_pure ⟨rfl, fun t asked => .acknowledged asked rfl⟩
        · rw [if_neg hstate]
          exact Exchange.meets_throw ⟨rfl, fun t asked => .otherState asked rfl hstate⟩
    · change Exchange.Meets (if sub ≠ 1 then throw (.frame (.subCommand 1 sub)) >>= _ else _) _
      rw [if_pos hsub]
      exact Exchange.meets_throw ⟨rfl, fun t asked => .otherSubCommand asked rfl hsub⟩

/-- Courses of work under the panel lock, for work with the courses `P`. Once the panel is locked it
is unlocked again, and a fault of the work outweighs one of the unlocking. -/
inductive Bracketed {α : Type} (tuning : Tuning) (P : List Transfer → Except Fault α → Prop) :
    List Transfer → Except Fault α → Prop
  | refused {t : List Transfer} {fault : Fault} (lock : Handshake tuning true t (.error fault)) :
      Bracketed tuning P t (.error fault)
  | broken {t u v : List Transfer} {fault : Fault} {unlocking : Except Fault Unit}
      (lock : Handshake tuning true t (.ok ())) (work : P u (.error fault))
      (unlock : Handshake tuning false v unlocking) :
      Bracketed tuning P (t ++ (u ++ v)) (.error fault)
  | stuck {t u v : List Transfer} {a : α} {fault : Fault}
      (lock : Handshake tuning true t (.ok ())) (work : P u (.ok a))
      (unlock : Handshake tuning false v (.error fault)) :
      Bracketed tuning P (t ++ (u ++ v)) (.error fault)
  | complete {t u v : List Transfer} {a : α}
      (lock : Handshake tuning true t (.ok ())) (work : P u (.ok a))
      (unlock : Handshake tuning false v (.ok ())) :
      Bracketed tuning P (t ++ (u ++ v)) (.ok a)

private theorem whileLocked_meets {α : Type} (tuning : Tuning) {work : Exchange σ α}
    {P : List Transfer → Except Fault α → Prop} (hwork : work.Meets P) :
    (whileLocked tuning work).Meets (Bracketed tuning P) := by
  unfold whileLocked
  refine Exchange.Meets.bind (setLock_meets tuning true)
    (Q := fun _ u r => ∀ t, Handshake tuning true t (.ok ()) → Bracketed tuning P (t ++ u) r)
    ?_ ?_ ?_
  · -- What follows the handshake, whatever transcript the handshake has left.
    intro _
    refine Exchange.Meets.bind hwork.attempt
      (Q := fun inner v r => ∀ t u, Handshake tuning true t (.ok ()) → P u inner →
        Bracketed tuning P (t ++ (u ++ v)) r) ?_ ?_ ?_
    · intro inner
      cases inner with
      | ok a =>
        refine Exchange.Meets.bind (setLock_meets tuning false)
          (fun _ => Exchange.meets_pure (P := fun w r => w = [] ∧ r = .ok a) ⟨rfl, rfl⟩) ?_ ?_
        · intro v fault unlock t u lock work
          exact .stuck lock work unlock
        · rintro v _ w r unlock ⟨rfl, rfl⟩ t u lock work
          rw [List.append_nil]
          exact .complete lock work unlock
      | error fault =>
        refine Exchange.Meets.bind (setLock_meets tuning false).attempt
          (fun _ => Exchange.meets_throw (P := fun w r => w = [] ∧ r = .error fault)
            ⟨rfl, rfl⟩) ?_ ?_
        · rintro v _ ⟨_, _, h⟩
          cases h
        · rintro v _ w r ⟨unlocking, unlock, -⟩ ⟨rfl, rfl⟩ t u lock work
          rw [List.append_nil]
          exact .broken lock work unlock
    · rintro u fault ⟨_, _, h⟩
      cases h
    · rintro u _ v r ⟨inner, work, h⟩ course t lock
      cases h
      exact course t u lock work
  · intro t fault lock
    exact .refused lock
  · intro t _ u r lock course
    exact course t lock

end Panel

namespace Bank

/-- What the payload of a register answer comes to: one byte is the status of a refusal. -/
inductive Reading : Bytes → Except Fault Snapshot → Prop
  | refusal (status : UInt8) : Reading [status] (.error (.status ⟨status⟩))
  | short {payload : Bytes} (notOne : payload.length ≠ 1) (short : payload.length < 240) :
      Reading payload (.error (.frame (.snapshotTooShort 240 payload.length)))
  | whole {payload : Bytes} {s : Snapshot} (long : 240 ≤ payload.length)
      (decoded : Snapshot.decode (payload.take 240) = .ok s) : Reading payload (.ok s)

/-- What a fetch comes to after the handshake: the fault of the read, else the fault of the unlock,
else what the payload says. -/
inductive Settled : Except Fault Frame → Except Fault Unit → Except Fault Snapshot → Prop
  | unread (fault : Fault) (unlocking : Except Fault Unit) :
      Settled (.error fault) unlocking (.error fault)
  | locked (f : Frame) (fault : Fault) : Settled (.ok f) (.error fault) (.error fault)
  | read {f : Frame} {r : Except Fault Snapshot} (payload : Reading f.payload r) :
      Settled (.ok f) (.ok ()) r

/-- The panel could not be locked: the lock request is all that was submitted. -/
structure Refused (tuning : Tuning) (t : List Transfer) (r : Except Fault Snapshot) : Prop where
  writes_eq : writes t = [Link.form tuning .lock [1, 1]]
  handshake : ∃ fault, Panel.Handshake tuning true t (.error fault) ∧ r = .error fault

/-- The panel was locked: the read was submitted next and the unlock last, however the read went. -/
structure Held (tuning : Tuning) (t : List Transfer) (r : Except Fault Snapshot) : Prop where
  writes_eq : writes t = [Link.form tuning .lock [1, 1], Link.form tuning .readRegisters [],
    Link.form tuning .lock [1, 0]]
  course : ∃ locking reading unlocking read unlock, t = locking ++ (reading ++ unlocking) ∧
    Panel.Handshake tuning true locking (.ok ()) ∧
    Link.Asked tuning .readRegisters [] 512 reading read ∧
    Panel.Handshake tuning false unlocking unlock ∧ Settled read unlock r

private theorem Refused.not_held {tuning : Tuning} {t : List Transfer} {r : Except Fault Snapshot}
    (refused : Refused tuning t r) : ¬ Held tuning t r := by
  intro held
  have hlength := congrArg List.length (refused.writes_eq.symm.trans held.writes_eq)
  simp at hlength

variable {σ : Type} [Transport σ]

private theorem reading_of_decode {payload : Bytes} (notOne : payload.length ≠ 1) :
    Reading payload ((Snapshot.decode payload).mapError .frame) := by
  by_cases short : payload.length < 240
  · have hdecode : Snapshot.decode payload = .error (.snapshotTooShort 240 payload.length) :=
      if_pos short
    rw [hdecode]
    exact .short notOne short
  · obtain ⟨s, hdecode⟩ : ∃ s, Snapshot.decode payload = .ok s := ⟨_, if_neg short⟩
    have hcut : Snapshot.decode (payload.take 240) = .ok s := by
      rw [← Snapshot.encode_of_decode hdecode, ← List.append_nil s.encode]
      exact Snapshot.decode_encode_append s []
    rw [hdecode]
    exact .whole (Nat.le_of_not_lt short) hcut

private theorem bracket_writes {tuning : Tuning} {t u v : List Transfer}
    {lock unlock : Except Fault Unit}
    {read : Except Fault Frame} (locking : Panel.Handshake tuning true t lock)
    (reading : Link.Asked tuning .readRegisters [] 512 u read)
    (unlocking : Panel.Handshake tuning false v unlock) :
    writes (t ++ (u ++ v)) = [Link.form tuning .lock [1, 1], Link.form tuning .readRegisters [],
      Link.form tuning .lock [1, 0]] := by
  have hread := reading.writes_eq (by simp)
  rw [writes_append, writes_append, locking.writes_eq, hread, unlocking.writes_eq]
  rfl

theorem readSnapshot_meets (tuning : Tuning) :
    (readSnapshot (σ := σ) tuning).Meets fun t r => Refused tuning t r ∨ Held tuning t r := by
  unfold readSnapshot
  refine Exchange.Meets.bind
    (Panel.whileLocked_meets tuning (Link.request_meets tuning .readRegisters [] 512))
    (Q := fun f u r => u = [] ∧ Reading f.payload r) ?_ ?_ ?_
  · rintro ⟨marker, command, payload⟩
    match payload with
    | [] => exact Exchange.meets_ofExcept ⟨rfl, reading_of_decode (by simp)⟩
    | [status] => exact Exchange.meets_throw ⟨rfl, .refusal status⟩
    | first :: second :: rest => exact Exchange.meets_ofExcept ⟨rfl, reading_of_decode (by simp)⟩
  · intro t fault course
    cases course with
    | refused lock => exact Or.inl ⟨lock.writes_eq, fault, lock, rfl⟩
    | broken lock work unlock =>
      exact Or.inr ⟨bracket_writes lock work unlock, _, _, _, _, _, rfl, lock, work, unlock,
        .unread fault _⟩
    | @stuck _ _ _ f _ lock work unlock =>
      exact Or.inr ⟨bracket_writes lock work unlock, _, _, _, _, _, rfl, lock, work, unlock,
        .locked f fault⟩
  · rintro t f u r course ⟨rfl, payload⟩
    rw [List.append_nil]
    cases course with
    | complete lock work unlock =>
      exact Or.inr ⟨bracket_writes lock work unlock, _, _, _, _, _, rfl, lock, work, unlock,
        .read payload⟩

/-- Every fetch takes exactly one of two courses. Either the panel could not be locked, nothing but
the lock request was submitted and the fault of the handshake comes out; or the read and at last the
unlock were submitted too, whatever came of the read, and the fetch comes to what `Settled` says. -/
theorem fetch_bracketed (tuning : Tuning) (bank : Bank σ) :
    ∃ t, (final (fetch tuning) bank).line.record = bank.line.record ++ t ∧
      Xor (Refused tuning t (result (fetch tuning) bank))
        (Held tuning t (result (fetch tuning) bank)) := by
  obtain ⟨t, hrecord, course⟩ := readSnapshot_meets tuning bank.line
  refine ⟨t, ?_, ?_⟩
  · rw [fetch, final_onLine]
    exact hrecord
  · rw [fetch, result_onLine]
    rcases course with refused | held
    · exact Or.inl ⟨refused, refused.not_held⟩
    · exact Or.inr ⟨held, fun refused => refused.not_held held⟩

end Bank

end Oscilloscope
