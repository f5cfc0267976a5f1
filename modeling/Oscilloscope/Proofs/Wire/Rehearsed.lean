/- Exchanges with an instrument whose answers are known beforehand. Where it answers as in a
   transcript of success, the exchange succeeds and does what the transcript says. -/

import Oscilloscope.Acquisition.Chunk
import Oscilloscope.Proofs.Wire.Format
import Oscilloscope.Proofs.Wire.Replay
import Oscilloscope.Proofs.Wire.Revision
import Oscilloscope.Scope.Basic
import Oscilloscope.Transport.Script

set_option autoImplicit false
set_option relaxedAutoImplicit false

namespace Oscilloscope

variable {σ : Type} [Transport σ]

/-- The connection after an operation. -/
def Transfer.next : Transfer → σ → σ
  | .sought _, d => d
  | .opened _, d => (Transport.opening d).2
  | .claimed _, d => (Transport.claim d).2
  | .closed _, d => (Transport.close d).2
  | .wrote bytes _, d => (Transport.write d bytes).2
  | .read room _, d => (Transport.read d room).2

def afterwards (device : σ) (t : List Transfer) : σ :=
  t.foldl (fun device transfer => transfer.next device) device

theorem replays_append {device : σ} {t u : List Transfer} :
    Replays device (t ++ u) ↔ Replays device t ∧ Replays (afterwards device t) u := by
  induction t generalizing device with
  | nil => exact (and_iff_right trivial).symm
  | cons transfer t ih =>
    cases transfer with
    | sought => exact ih
    | opened | claimed | closed | wrote | read =>
      exact (and_congr_right fun _ => ih).trans and_assoc.symm

namespace Line

def did (line : Line σ) (t : List Transfer) : Line σ :=
  ⟨afterwards line.device t, line.record ++ t⟩

theorem did_nil (line : Line σ) : line.did [] = line := by
  show Line.mk _ _ = line
  rw [List.append_nil]
  rfl

theorem did_append (line : Line σ) (t u : List Transfer) :
    line.did (t ++ u) = (line.did t).did u := by
  have record : line.record ++ (t ++ u) = line.record ++ t ++ u := (List.append_assoc _ _ _).symm
  show Line.mk _ _ = Line.mk _ _
  rw [record, afterwards, List.foldl_append]
  rfl

end Line

namespace Exchange

variable {α β : Type} {x : Exchange σ α} {t u : List Transfer} {a : α} {b : β}

/-- Where the instrument answers as in `t`, the exchange does `t` and yields `a`. -/
def Goes (x : Exchange σ α) (t : List Transfer) (a : α) : Prop :=
  ∀ line, Replays line.device t → result x line = .ok a ∧ final x line = line.did t

private theorem goes_pure (a : α) : Goes (pure a : Exchange σ α) [] a :=
  fun line _ => ⟨rfl, line.did_nil.symm⟩

private theorem goes_ofExcept {ε : Type} {fault : ε → Fault} {r : Except ε α} (h : r = .ok a) :
    Goes (ofExcept fault r : Exchange σ α) [] a := by
  rw [h]
  exact goes_pure a

private theorem Goes.bind {f : α → Exchange σ β} (hx : x.Goes t a) (hf : (f a).Goes u b) :
    (x >>= f).Goes (t ++ u) b := by
  intro line replayed
  obtain ⟨first, later⟩ := replays_append.mp replayed
  obtain ⟨hresult, hfinal⟩ := hx line first
  obtain ⟨hnext, hafter⟩ := hf (line.did t) later
  refine ⟨?_, ?_⟩
  · rw [result_bind_ok hresult, hfinal, hnext]
  · rw [final_bind_ok hresult, hfinal, hafter, Line.did_append]

private theorem Goes.checked {f : α → Exchange σ β} (hx : x.Goes t a) (hf : (f a).Goes [] b) :
    (x >>= f).Goes t b := by
  have h := hx.bind hf
  rwa [List.append_nil] at h

private theorem Goes.attempt (hx : x.Goes t a) : x.attempt.Goes t (.ok a) := by
  intro line replayed
  obtain ⟨hresult, hfinal⟩ := hx line replayed
  rw [result_attempt, final_attempt, hresult]
  exact ⟨rfl, hfinal⟩

end Exchange

namespace Line

private theorem goes_of_conclude {α : Type} {x : Exchange σ α} {operation : Operation}
    {limit : Duration}
    {entry : Except Failure α → Transfer} {a : α} (answer : σ → Except Failure α)
    (run : ∀ line, x line = conclude operation limit
      ⟨(entry (.ok a)).next line.device, line.record ++ [entry (answer line.device)]⟩
      (answer line.device))
    (answered : ∀ d, Replays d [entry (.ok a)] → answer d = .ok a) : x.Goes [entry (.ok a)] a := by
  intro line replayed
  have hrun := run line
  rw [answered line.device replayed] at hrun
  exact ⟨result_of_conclude hrun, final_of_conclude hrun⟩

private theorem write_goes (limit : Duration) (bytes : Bytes) (n : Nat) :
    (write (σ := σ) limit bytes).Goes [.wrote bytes (.ok n)] n :=
  goes_of_conclude (fun d => (Transport.write d bytes).1) (fun _ => rfl) fun _ h => h.1

private theorem read_goes (limit : Duration) (room : Nat) (bytes : Bytes) :
    (read (σ := σ) limit room).Goes [.read room (.ok bytes)] bytes :=
  goes_of_conclude (fun d => (Transport.read d room).1.map fun bytes => bytes.take room)
    (fun _ => rfl) fun _ h => h.1

end Line

section

variable {tuning : Tuning} {t : List Transfer}

private theorem Link.request_goes {command : Command} {arguments : Bytes} {room : Nat} {f : Frame}
    (asked : Asked tuning command arguments room t (.ok f)) :
    (request (σ := σ) tuning command arguments room).Goes t f := by
  cases asked with
  | sent small reply =>
    cases reply with
    | @answered bytes _ fits good same =>
      have sending : (send (σ := σ) tuning command arguments).Goes
          [.wrote (form tuning command arguments) (.ok (form tuning command arguments).length)]
          () := by
        refine (Exchange.goes_ofExcept (encode_eq_form small)).bind ?_
        refine (Line.write_goes _ _ _).checked ?_
        rw [if_pos rfl]
        exact Exchange.goes_pure ()
      have receiving : (receive (σ := σ) tuning command room).Goes [.read room (.ok bytes)] f := by
        refine (Line.read_goes _ _ _).checked (Exchange.goes_ofExcept ?_)
        rw [good]
        exact if_pos same
      exact sending.bind receiving

private theorem Panel.setLock_goes {held : Bool} (lock : Handshake tuning held t (.ok ())) :
    (setLock (σ := σ) tuning held).Goes t () := by
  cases lock with
  | @acknowledged f rest asked payload =>
    obtain ⟨marker, command, bytes⟩ := f
    cases payload
    refine (Link.request_goes asked).checked ?_
    cases held
    · exact Exchange.goes_pure ()
    · exact Exchange.goes_pure ()

private theorem Panel.whileLocked_goes {α : Type} {work : Exchange σ α} {u v : List Transfer}
    {a : α}
    (lock : Handshake tuning true t (.ok ())) (hwork : work.Goes u a)
    (unlock : Handshake tuning false v (.ok ())) :
    (whileLocked tuning work).Goes (t ++ (u ++ v)) a :=
  (setLock_goes lock).bind
    (hwork.attempt.bind ((setLock_goes unlock).checked (Exchange.goes_pure a)))

private theorem Bank.readSnapshot_goes {s : Snapshot} {payload : Bytes}
    (yielded : Yielded tuning s payload t) : (readSnapshot (σ := σ) tuning).Goes t s := by
  obtain ⟨locking, reading, unlocking, f, rfl, lock, asked, rfl, unlock⟩ := yielded.course
  refine (Panel.whileLocked_goes lock (Link.request_goes asked) unlock).checked ?_
  have decoded := yielded.decoded
  have long := yielded.long
  obtain ⟨marker, command, payload⟩ := f
  match payload, long with
  | first :: second :: rest, _ => exact Exchange.goes_ofExcept decoded

theorem Bank.fetch_of_yielded {s : Snapshot} {payload : Bytes}
    (yielded : Yielded tuning s payload t) {bank : Bank σ}
    (replayed : Replays bank.line.device t) : result (fetch tuning) bank = .ok s ∧
      final (fetch tuning) bank = { bank with line := bank.line.did t } := by
  obtain ⟨hresult, hfinal⟩ := readSnapshot_goes yielded bank.line replayed
  rw [fetch, result_onLine, final_onLine, hfinal]
  exact ⟨hresult, rfl⟩

def Link.answerForm (command : Command) (payload : Bytes) : Bytes :=
  let f : Frame := ⟨.normal, command.response, payload⟩
  f.body ++ [checksum f.body]

/-- A request that is written in full, and a sound answer to it. -/
def Link.answering (tuning : Tuning) (command : Command) (arguments : Bytes) (room : Nat)
    (payload : Bytes) : List Transfer :=
  let bytes := form tuning command arguments
  [.wrote bytes (.ok bytes.length), .read room (.ok (answerForm command payload))]

private theorem Link.encode_answer (command : Command) {payload : Bytes}
    (short : payload.length ≤ 65533) :
    Frame.encode ⟨.normal, command.response, payload⟩ = .ok (answerForm command payload) :=
  if_pos (show payload.length + 2 < 65536 by omega)

private theorem Link.length_answerForm (command : Command) {payload : Bytes}
    (short : payload.length ≤ 65533) : (answerForm command payload).length = payload.length + 5 :=
  Frame.length_of_encode (encode_answer command short)

theorem Link.asked_answering (tuning : Tuning) (command : Command) {arguments payload : Bytes}
    {room : Nat} (small : arguments.length ≤ 65533) (fits : payload.length + 5 ≤ room)
    (short : payload.length ≤ 65533) :
    Asked tuning command arguments room (answering tuning command arguments room payload)
      (.ok ⟨.normal, command.response, payload⟩) := by
  have fits : (answerForm command payload).length ≤ room := by
    rw [length_answerForm command short]
    exact fits
  exact .sent small (.answered fits (Frame.decode_encode (encode_answer command short)) rfl)

/-- A fetch in which the instrument grants the lock, sends the snapshot and grants the unlock. -/
def Bank.sending (tuning : Tuning) (s : Snapshot) : List Transfer :=
  Link.answering tuning .lock [1, 1] 128 [1, 1] ++
    (Link.answering tuning .readRegisters [] 512 s.encode ++
      Link.answering tuning .lock [1, 0] 128 [1, 0])

theorem Bank.yielded_sending (tuning : Tuning) (s : Snapshot) :
    Yielded tuning s s.encode (sending tuning s) where
  writes_eq := rfl
  course := by
    have answered (held : UInt8) : Link.Asked tuning .lock [1, held] 128
        (Link.answering tuning .lock [1, held] 128 [1, held])
        (.ok ⟨.normal, Command.lock.response, [1, held]⟩) :=
      Link.asked_answering tuning .lock (by simp) (by simp) (by simp)
    have read : Link.Asked tuning .readRegisters [] 512
        (Link.answering tuning .readRegisters [] 512 s.encode)
        (.ok ⟨.normal, Command.readRegisters.response, s.encode⟩) :=
      Link.asked_answering tuning .readRegisters (by decide) (by rw [s.length_encode]; decide)
        (by rw [s.length_encode]; decide)
    exact ⟨_, _, _, _, rfl, .acknowledged (answered 1) rfl, read, rfl,
      .acknowledged (answered 0) rfl⟩
  long := Nat.le_of_eq s.length_encode.symm
  decoded := s.decode_encode

theorem askSamples_goes {c : ChannelId} {f : Frame} {x y z : UInt8} {rest : Bytes}
    (asked : Link.Asked tuning .readSamples [1, .ofNat c.index] 128 t (.ok f))
    (payload : f.payload = 0 :: x :: y :: z :: rest) :
    (askSamples (σ := σ) tuning c).Goes t true := by
  refine (Link.request_goes asked).checked ?_
  obtain ⟨marker, command, bytes⟩ := f
  cases payload
  refine (Exchange.goes_pure (0 : UInt8)).checked ?_
  rw [if_neg (by decide), if_neg (not_not_intro rfl), if_neg (by simp)]
  exact Exchange.goes_pure true

end

def Transfer.received? : Transfer → Option (Except Failure Bytes)
  | .read _ answer => some answer
  | _ => none

/-- Whether a script that lists what is received may do the transfer. -/
def Transfer.scripted : Transfer → Bool
  | .sought _ => true
  | .opened r | .claimed r | .closed r => r.isOk
  | .wrote bytes (.ok n) => n == bytes.length
  | .wrote _ (.error _) => false
  | .read room (.ok bytes) => bytes.length ≤ room
  | .read _ (.error _) => true

theorem Script.replays_of_scripted {clock pace : Nat} {t : List Transfer}
    (rest : List (Except Failure Bytes)) (scripted : ∀ x ∈ t, x.scripted = true) :
    Replays { reads := t.filterMap Transfer.received? ++ rest, clock, pace : Script } t := by
  -- The clock moves on with each transfer, and has no say in what is received.
  induction t generalizing clock with
  | nil => trivial
  | cons transfer t ih =>
    have first := scripted transfer List.mem_cons_self
    have later {clock : Nat} := @ih clock fun x hx => scripted x (List.mem_cons_of_mem transfer hx)
    cases transfer with
    | sought => exact later
    | opened r | claimed r | closed r =>
      cases r with
      | error => cases first
      | ok _ => exact ⟨rfl, later⟩
    | wrote bytes r =>
      cases r with
      | error => cases first
      | ok n => exact ⟨congrArg Except.ok (beq_iff_eq.mp first).symm, later⟩
    | read room r =>
      refine ⟨?_, later⟩
      cases r with
      | error f => rfl
      | ok bytes => exact congrArg Except.ok (List.take_of_length_le (of_decide_eq_true first))

theorem Script.replays_received {clock pace : Nat} {t : List Transfer}
    (scripted : ∀ x ∈ t, x.scripted = true) :
    Replays { reads := t.filterMap Transfer.received?, clock, pace : Script } t := by
  have listed := @replays_of_scripted clock pace t [] scripted
  rw [List.append_nil] at listed
  exact listed

theorem Bank.scripted_of_mem_sending (tuning : Tuning) (s : Snapshot) :
    ∀ x ∈ sending tuning s, x.scripted = true := by
  have image : (Link.answerForm .readRegisters s.encode).length = 245 := by
    rw [Link.length_answerForm _ (by rw [s.length_encode]; decide), s.length_encode]
  have room : (Link.answerForm .readRegisters s.encode).length ≤ 512 := by omega
  simp only [sending, Link.answering, List.cons_append, List.nil_append, List.forall_mem_cons,
    Transfer.scripted, BEq.rfl, room, decide_true]
  decide

def Transfer.answered : Transfer → Bool
  | .read _ (.ok _) => true
  | _ => false

end Oscilloscope
