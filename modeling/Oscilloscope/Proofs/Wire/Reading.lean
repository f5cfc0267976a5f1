/- What a transcript tells of the snapshot that was read in it. A reading counts once its lock, its
   read and its unlock are all acknowledged, and transfers that ask for the registers once contain
   at most one such reading. -/

import Mathlib.Data.List.Basic
import Oscilloscope.Proofs.Wire.Submission

set_option autoImplicit false
set_option relaxedAutoImplicit false

namespace Oscilloscope

private theorem not_mem_of_submits {command : Command} {x : Transfer} {t : List Transfer}
    (unsubmitted : submits command t = false) (submitted : submits command [x] = true) : x ∉ t := by
  intro mem
  obtain ⟨before, after, rfl⟩ := List.append_of_mem mem
  have split : submits command (before ++ ([x] ++ after)) = false := unsubmitted
  rw [submits_append, submits_append, submitted, Bool.true_or, Bool.or_true] at split
  cases split

private theorem suffix_eq_of_submits {command : Command} {before after other rest : List Transfer}
    {x y : Transfer} (same : before ++ x :: after = other ++ y :: rest)
    (unsubmitted : submits command before = false) (later : submits command after = false)
    (submitted : submits command [y] = true) : x :: after = y :: rest := by
  have hbefore : y ∉ before := not_mem_of_submits unsubmitted submitted
  have hafter : y ∉ after := not_mem_of_submits later submitted
  obtain ⟨-, rfl, rfl⟩ := (List.append_cons_inj_of_notMem hbefore hafter).mp same
  rfl

private theorem Link.Asked.eq_of_append {tuning : Tuning} {command : Command} {arguments : Bytes}
    {room : Nat} {t u v w : List Transfer} {r : Except Fault Frame} {f : Frame}
    (h : Asked tuning command arguments room t r)
    (answered : Asked tuning command arguments room u (.ok f)) (same : t ++ v = u ++ w) :
    r = .ok f ∧ v = w := by
  cases answered with
  | sent small reply =>
    cases reply with
    | @answered bytes _ _ good fits =>
      cases h with
      | oversized large => omega
      | unsent => simp at same
      | cutShort _ short =>
        have whole := (List.cons.inj same).1
        simp only [Transfer.wrote.injEq, Except.ok.injEq, true_and] at whole
        exact absurd whole short
      | sent _ other =>
        have rest := (List.cons.inj same).2
        cases other with
        | unanswered => simp at rest
        | malformed _ bad =>
          obtain ⟨⟨⟩, -⟩ := List.cons.inj rest
          rw [good] at bad
          cases bad
        | misdirected _ decoded misfits =>
          obtain ⟨⟨⟩, -⟩ := List.cons.inj rest
          rw [good] at decoded
          cases decoded
          exact absurd fits misfits
        | answered _ decoded =>
          obtain ⟨⟨⟩, later⟩ := List.cons.inj rest
          rw [good] at decoded
          cases decoded
          exact ⟨rfl, later⟩

private theorem Panel.Handshake.eq_ok_of_append {tuning : Tuning} {held : Bool}
    {t u v w : List Transfer}
    {r : Except Fault Unit} (h : Handshake tuning held t r)
    (acknowledged : Handshake tuning held u (.ok ())) (same : t ++ v = u ++ w) : r = .ok () := by
  cases acknowledged with
  | acknowledged answered payload =>
    cases h with
    | failed asked => exact absurd (asked.eq_of_append answered same).1 nofun
    | acknowledged => rfl
    | empty asked none =>
      cases (asked.eq_of_append answered same).1
      cases none.symm.trans payload
    | otherSubCommand asked sub other =>
      cases (asked.eq_of_append answered same).1
      cases sub.symm.trans payload
      exact absurd rfl other
    | missingState asked short =>
      cases (asked.eq_of_append answered same).1
      cases short.symm.trans payload
    | otherState asked state other =>
      cases (asked.eq_of_append answered same).1
      cases state.symm.trans payload
      exact absurd rfl other

namespace Bank

/-- Somewhere in a transcript `s` was read, from `payload`. -/
def Completed (tuning : Tuning) (payload : Bytes) (s : Snapshot) (t : List Transfer) : Prop :=
  ∃ part, part <:+: t ∧ Yielded tuning s payload part

variable {tuning : Tuning} {payload : Bytes} {s : Snapshot} {t u : List Transfer}

private theorem Completed.submits (h : Completed tuning payload s t) :
    submits .readRegisters t = true := by
  obtain ⟨part, ⟨before, after, rfl⟩, read⟩ := h
  rw [submits_append, submits_append, read.submits_readRegisters, Bool.or_true, Bool.true_or]

theorem not_completed_of_unsubmitted (unsubmitted : Oscilloscope.submits .readRegisters t = false) :
    ¬ Completed tuning payload s t := by
  intro completed
  rw [completed.submits] at unsubmitted
  cases unsubmitted

theorem Yielded.completed (h : Yielded tuning s payload t) (u : List Transfer) :
    Completed tuning payload s (t ++ u) :=
  ⟨t, List.infix_append' [] t u, h⟩

private theorem Completed.answered {locking reading later : List Transfer} {r : Except Fault Frame}
    (h : Completed tuning payload s (locking ++ (reading ++ later)))
    (locked : Oscilloscope.submits .readRegisters locking = false)
    (asked : Link.Asked tuning .readRegisters [] 512 reading r)
    (once : Oscilloscope.submits .readRegisters later = false) :
    ∃ f unlocking after, r = .ok f ∧ f.payload = payload ∧
      Panel.Handshake tuning false unlocking (.ok ()) ∧ later = unlocking ++ after := by
  obtain ⟨part, ⟨before, after, whole⟩, read⟩ := h
  obtain ⟨lock, ask, unlocking, f, rfl, -, answered, rfl, unlocked⟩ := read.course
  have asks {t : List Transfer} {r : Except Fault Frame}
      (asked : Link.Asked tuning .readRegisters [] 512 t r) :
      ∃ sent reply, t = .wrote (Link.form tuning .readRegisters []) sent :: reply ∧
        Oscilloscope.submits .readRegisters reply = false := by
    cases asked with
    | oversized large => cases large
    | unsent | cutShort => exact ⟨_, [], rfl, rfl⟩
    | sent _ reply =>
      exact ⟨_, _, rfl, submits_of_writes_eq_nil reply.writes_eq_nil .readRegisters⟩
  obtain ⟨sent, reply, hreading, unwritten⟩ := asks asked
  obtain ⟨sent', reply', hask, -⟩ := asks answered
  have same : reading ++ later = ask ++ (unlocking ++ after) := by
    have hlater : Oscilloscope.submits .readRegisters (reply ++ later) = false := by
      rw [submits_append, unwritten, once]
      rfl
    rw [hreading, hask] at whole ⊢
    have split : locking ++ .wrote (Link.form tuning .readRegisters []) sent :: (reply ++ later) =
        (before ++ lock) ++ .wrote (Link.form tuning .readRegisters []) sent' ::
          (reply' ++ (unlocking ++ after)) := by
      simpa using whole.symm
    exact suffix_eq_of_submits split locked hlater rfl
  obtain ⟨hr, hlater⟩ := asked.eq_of_append answered same
  exact ⟨f, unlocking, after, hr, rfl, unlocked, hlater⟩

private theorem submits_readRegisters_of_handshake {held : Bool} {r : Except Fault Unit}
    (h : Panel.Handshake tuning held t r) : Oscilloscope.submits .readRegisters t = false := by
  have hwrites : writes t = [(Command.lock, [1, Panel.stateByte held])].map fun request =>
      Link.form tuning request.1 request.2 := h.writes_eq
  rw [Link.submits_of_writes_eq hwrites]
  rfl

theorem Yielded.eq_of_completed {payload' : Bytes} {s' : Snapshot} (h : Yielded tuning s payload t)
    (once : Oscilloscope.submits .readRegisters u = false)
    (completed : Completed tuning payload' s' (t ++ u)) : payload' = payload ∧ s' = s := by
  obtain ⟨locking, reading, unlocking, f, rfl, lock, asked, rfl, unlock⟩ := h.course
  have later : Oscilloscope.submits .readRegisters (unlocking ++ u) = false := by
    rw [submits_append, submits_readRegisters_of_handshake unlock, once]
    rfl
  have regrouped : Completed tuning payload' s' (locking ++ (reading ++ (unlocking ++ u))) := by
    simpa using completed
  obtain ⟨f', -, -, hf, hpayload, -⟩ :=
    regrouped.answered (submits_readRegisters_of_handshake lock) asked later
  cases hf
  obtain ⟨part, -, read⟩ := completed
  have decoded := h.decoded
  rw [hpayload, read.decoded] at decoded
  exact ⟨hpayload.symm, Except.ok.inj decoded⟩

theorem not_completed_of_failed {fault : Fault}
    (course : Refused tuning t (.error fault) ∨ Held tuning t (.error fault)) :
    ¬ Completed tuning payload s t := by
  intro completed
  rcases course with refused | held
  · refine not_completed_of_unsubmitted ?_ completed
    rw [refused.submits_eq]
    rfl
  · obtain ⟨locking, reading, unlocking, read, unlock, rfl, lock, asked, unlocked, settled⟩ :=
      held.course
    obtain ⟨f, unlocking', after, rfl, hpayload, acknowledged, split⟩ :=
      completed.answered (submits_readRegisters_of_handshake lock) asked
        (submits_readRegisters_of_handshake unlocked)
    have unlocks : unlock = .ok () :=
      unlocked.eq_ok_of_append acknowledged (by rw [List.append_nil, split])
    obtain ⟨part, -, yielded⟩ := completed
    have long := yielded.long
    cases settled with
    | locked => cases unlocks
    | read answer =>
      generalize f.payload = received at answer hpayload
      subst hpayload
      cases answer with
      | refusal => simp at long
      | short _ short => omega

end Bank

end Oscilloscope
