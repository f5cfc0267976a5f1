/- All courses that one request can take, from a write that fails to an answer that fits. -/

import Oscilloscope.Proofs.Wire.Transcript

set_option autoImplicit false
set_option relaxedAutoImplicit false

namespace Oscilloscope.Link

def form (tuning : Tuning) (command : Command) (arguments : Bytes) : Bytes :=
  let f : Frame := ⟨tuning.marker, command.byte, arguments⟩
  f.body ++ [checksum f.body]

theorem encode_eq_form {tuning : Tuning} {command : Command} {arguments : Bytes}
    (h : arguments.length ≤ 65533) :
    Frame.encode ⟨tuning.marker, command.byte, arguments⟩ =
      .ok (form tuning command arguments) := by
  have hfits : arguments.length + 2 < 65536 := by omega
  rw [Frame.encode, if_pos hfits]
  rfl

theorem encode_eq_error {tuning : Tuning} {command : Command} {arguments : Bytes}
    (h : 65533 < arguments.length) :
    Frame.encode ⟨tuning.marker, command.byte, arguments⟩ =
      .error (.payloadTooLarge arguments.length) := by
  have hover : ¬ arguments.length + 2 < 65536 := by omega
  rw [Frame.encode, if_neg hover]

/-- Courses of waiting for an answer to `command` with `room` for it. -/
inductive Received (tuning : Tuning) (command : Command) (room : Nat) :
    List Transfer → Except Fault Frame → Prop
  | unanswered (f : Failure) :
      Received tuning command room [.read room (.error f)]
        (.error (.link (f.during .read tuning.receiveTimeout)))
  | malformed {bytes : Bytes} {fault : FrameFault} (fits : bytes.length ≤ room)
      (bad : Frame.decode bytes = .error fault) :
      Received tuning command room [.read room (.ok bytes)] (.error (.frame fault))
  | misdirected {bytes : Bytes} {f : Frame} (fits : bytes.length ≤ room)
      (good : Frame.decode bytes = .ok f) (other : f.command ≠ command.response) :
      Received tuning command room [.read room (.ok bytes)]
        (.error (.frame (.commandEcho command.response f.command)))
  | answered {bytes : Bytes} {f : Frame} (fits : bytes.length ≤ room)
      (good : Frame.decode bytes = .ok f) (same : f.command = command.response) :
      Received tuning command room [.read room (.ok bytes)] (.ok f)

/-- Courses of a request: too large to be sent, not written, written in part, or written in full
and then waited for. -/
inductive Asked (tuning : Tuning) (command : Command) (arguments : Bytes) (room : Nat) :
    List Transfer → Except Fault Frame → Prop
  | oversized (large : 65533 < arguments.length) :
      Asked tuning command arguments room []
        (.error (.frame (.payloadTooLarge arguments.length)))
  | unsent (small : arguments.length ≤ 65533) (f : Failure) :
      Asked tuning command arguments room [.wrote (form tuning command arguments) (.error f)]
        (.error (.link (f.during .write tuning.sendTimeout)))
  | cutShort (small : arguments.length ≤ 65533) {n : Nat}
      (short : n ≠ (form tuning command arguments).length) :
      Asked tuning command arguments room [.wrote (form tuning command arguments) (.ok n)]
        (.error (.link (.shortWrite n (form tuning command arguments).length)))
  | sent (small : arguments.length ≤ 65533) {t : List Transfer} {r : Except Fault Frame}
      (reply : Received tuning command room t r) :
      Asked tuning command arguments room
        (.wrote (form tuning command arguments)
          (.ok (form tuning command arguments).length) :: t) r

theorem Received.writes_eq_nil {tuning : Tuning} {command : Command} {room : Nat}
    {t : List Transfer} {r : Except Fault Frame} (h : Received tuning command room t r) :
    writes t = [] := by
  cases h <;> rfl

theorem Asked.writes_eq {tuning : Tuning} {command : Command} {arguments : Bytes} {room : Nat}
    {t : List Transfer} {r : Except Fault Frame} (h : Asked tuning command arguments room t r)
    (small : arguments.length ≤ 65533) :
    writes t = [form tuning command arguments] := by
  cases h with
  | oversized large => omega
  | unsent | cutShort => rfl
  | sent _ reply => rw [writes_wrote_cons, reply.writes_eq_nil]

theorem Asked.eq_ok_of_last {tuning : Tuning} {command : Command} {arguments : Bytes}
    {room : Nat} {t u : List Transfer} {r : Except Fault Frame} {bytes : Bytes} {f : Frame}
    (h : Asked tuning command arguments room u r) (small : arguments.length ≤ 65533)
    (last : (t ++ u).getLast? = some (.read room (.ok bytes))) (good : Frame.decode bytes = .ok f)
    (same : f.command = command.response) : r = .ok f := by
  cases h with
  | oversized large => omega
  | unsent | cutShort => simp at last
  | sent _ reply =>
    cases reply with
    | unanswered => simp at last
    | @malformed received _ _ bad =>
      have hreceived : received = bytes := by simpa using last
      rw [hreceived, good] at bad
      cases bad
    | @misdirected received _ _ answer other =>
      have hreceived : received = bytes := by simpa using last
      rw [hreceived, good] at answer
      cases answer
      exact absurd same other
    | @answered received _ _ answer =>
      have hreceived : received = bytes := by simpa using last
      rw [hreceived, good] at answer
      cases answer
      rfl

variable {σ : Type} [Transport σ]

private theorem send_meets (tuning : Tuning) (command : Command) (arguments : Bytes) (room : Nat) :
    (send (σ := σ) tuning command arguments).Meets fun t r =>
      (∃ fault, r = .error fault ∧ Asked tuning command arguments room t (.error fault)) ∨
        r = .ok () ∧ arguments.length ≤ 65533 ∧
          t = [.wrote (form tuning command arguments)
            (.ok (form tuning command arguments).length)] := by
  unfold send
  rcases Nat.lt_or_ge 65533 arguments.length with large | small
  · rw [encode_eq_error large]
    exact Exchange.meets_throw (Or.inl ⟨_, rfl, .oversized large⟩)
  · rw [encode_eq_form small]
    refine Exchange.Meets.bind (Q := fun n t r =>
      if n = (form tuning command arguments).length then t = [] ∧ r = .ok ()
      else t = [] ∧ r = .error (.link (.shortWrite n (form tuning command arguments).length)))
      (Line.write_meets _ _) ?_ ?_ ?_
    · intro n
      split
      · exact Exchange.meets_pure ⟨rfl, rfl⟩
      · exact Exchange.meets_throw ⟨rfl, rfl⟩
    · rintro t fault ⟨answer, rfl, hr⟩
      cases answer with
      | error f =>
        cases hr
        exact Or.inl ⟨_, rfl, .unsent small f⟩
      | ok n => cases hr
    · rintro t n u r ⟨answer, rfl, hr⟩ hnext
      cases answer with
      | error f => cases hr
      | ok m =>
        cases hr
        split at hnext
        · rename_i whole
          obtain ⟨rfl, rfl⟩ := hnext
          exact Or.inr ⟨rfl, small, by rw [← whole]; rfl⟩
        · rename_i short
          obtain ⟨rfl, rfl⟩ := hnext
          exact Or.inl ⟨_, rfl, .cutShort small short⟩

theorem receive_meets (tuning : Tuning) (command : Command) (room : Nat) :
    (receive (σ := σ) tuning command room).Meets (Received tuning command room) := by
  unfold receive
  refine Exchange.Meets.bind (Line.read_meets _ _)
    (fun bytes => Exchange.meets_ofExcept (P := fun t r =>
      t = [] ∧ r = (Frame.decode bytes >>= fun f => f.answering command).mapError .frame)
      ⟨rfl, rfl⟩) ?_ ?_
  · rintro t fault ⟨answer, rfl, -, hr⟩
    cases answer with
    | error f =>
      cases hr
      exact .unanswered f
    | ok bytes => cases hr
  · rintro t bytes u r ⟨answer, rfl, hfits, hr⟩ ⟨rfl, rfl⟩
    cases answer with
    | error f => cases hr
    | ok received =>
      cases hr
      have fits := hfits bytes rfl
      cases hdecode : Frame.decode bytes with
      | error fault => exact .malformed fits hdecode
      | ok f =>
        by_cases same : f.command = command.response
        · have hanswer : (Except.ok f >>= fun f => f.answering command) = .ok f := if_pos same
          rw [hanswer]
          exact .answered fits hdecode same
        · have hanswer : (Except.ok f >>= fun f => f.answering command) =
              .error (.commandEcho command.response f.command) := if_neg same
          rw [hanswer]
          exact .misdirected fits hdecode same

theorem request_meets (tuning : Tuning) (command : Command) (arguments : Bytes) (room : Nat) :
    (request (σ := σ) tuning command arguments room).Meets
      (Asked tuning command arguments room) := by
  refine Exchange.Meets.bind (send_meets tuning command arguments room)
    (fun _ => receive_meets tuning command room) ?_ ?_
  · rintro t fault (⟨_, hr, hasked⟩ | ⟨hr, -⟩)
    · cases hr
      exact hasked
    · cases hr
  · rintro t _ u r (⟨_, hr, -⟩ | ⟨-, small, rfl⟩) hreceived
    · cases hr
    · exact .sent small hreceived

theorem request_then_meets {α : Type} {tuning : Tuning} {command : Command} {arguments : Bytes}
    {room : Nat} {check : Frame → Exchange σ α} {R : List Transfer → Except Fault α → Prop}
    (failed : ∀ t fault, Asked tuning command arguments room t (.error fault) →
      R t (.error fault))
    (checked : ∀ f, (check f).Meets fun u r =>
      u = [] ∧ ∀ t, Asked tuning command arguments room t (.ok f) → R t r) :
    (request tuning command arguments room >>= check).Meets R := by
  refine Exchange.Meets.bind (request_meets tuning command arguments room) checked failed ?_
  rintro t f u r asked ⟨rfl, course⟩
  rw [List.append_nil]
  exact course t asked

end Oscilloscope.Link
