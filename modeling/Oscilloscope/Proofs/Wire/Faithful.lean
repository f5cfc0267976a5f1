/- Exchanges with an instrument that holds an image of its registers and answers every request. What
   is read is what it holds, and what is written it holds from then on. -/

import Oscilloscope.Proofs.Wire.Format
import Oscilloscope.Proofs.Wire.Revision

set_option autoImplicit false
set_option relaxedAutoImplicit false

namespace Oscilloscope

/-- Requests to an instrument that holds `image`: command and arguments, the payload that answers
them, and the image it holds after that. -/
inductive Served (image : Bytes) : Command → Bytes → Bytes → Bytes → Prop
  | locked (state : UInt8) : Served image .lock [1, state] [1, state] image
  | read : Served image .readRegisters [] image image
  | stored {sent : Bytes} (whole : sent.length = 240) :
      Served image .writeRegisters sent [0] sent
  | echoed (bytes : Bytes) : Served image .echo bytes bytes image
  | unsampled (c : UInt8) : Served image .readSamples [1, c] [3] image

/-- Connections to an instrument that answers every request once and in full. -/
class Faithful (σ : Type) [Transport σ] where
  image : σ → Bytes
  /-- No request is unanswered and no answer unread. -/
  settled : σ → Prop
  length_image {device : σ} : settled device → (image device).length = 240
  serves {device : σ} {command : Command} {arguments payload stored : Bytes} (tuning : Tuning)
      (room : Nat) :
    settled device → arguments.length ≤ 65533 →
      Served (image device) command arguments payload stored →
        let request := Link.form tuning command arguments
        ∃ submitted answered marker answer,
          Transport.write device request = (.ok request.length, submitted) ∧
            Transport.read submitted room = (.ok answer, answered) ∧
            Frame.encode ⟨marker, command.response, payload⟩ = .ok answer ∧
            settled answered ∧ image answered = stored

namespace Line

variable {σ : Type} [Transport σ]

private theorem write_of_sent {line : Line σ} {bytes : Bytes} {n : Nat} {device : σ}
    (h : Transport.write line.device bytes = (.ok n, device)) (limit : Duration) :
    result (write limit bytes) line = .ok n ∧
      final (write limit bytes) line = ⟨device, line.record ++ [.wrote bytes (.ok n)]⟩ := by
  unfold result final write
  rw [h]
  exact ⟨rfl, rfl⟩

private theorem read_of_received {line : Line σ} {room : Nat} {bytes : Bytes} {device : σ}
    (h : Transport.read line.device room = (.ok bytes, device)) (limit : Duration) :
    result (read limit room) line = .ok (bytes.take room) ∧
      final (read limit room) line =
        ⟨device, line.record ++ [.read room (.ok (bytes.take room))]⟩ := by
  unfold result final read
  rw [h]
  exact ⟨rfl, rfl⟩

/-- The instrument awaits requests, and its registers are those of `s`. -/
structure Holds [Faithful σ] (line : Line σ) (s : Snapshot) : Prop where
  settled : Faithful.settled line.device
  image : Faithful.image line.device = s.encode

variable [Faithful σ]

theorem exists_holds {line : Line σ} (settled : Faithful.settled line.device) :
    ∃ s, line.Holds s := by
  have whole := Faithful.length_image settled
  obtain ⟨s, decoded⟩ : ∃ s, Snapshot.decode (Faithful.image line.device) = .ok s := by
    refine ⟨_, if_neg ?_⟩
    rw [whole]
    decide
  refine ⟨s, settled, ?_⟩
  rw [Snapshot.encode_of_decode decoded, List.take_of_length_le (Nat.le_of_eq whole)]

theorem Holds.decode {line : Line σ} {s : Snapshot} (h : line.Holds s) :
    Snapshot.decode (Faithful.image line.device) = .ok s := by
  rw [h.image, Snapshot.decode_encode]

end Line

namespace Exchange

variable {σ α β : Type} [Transport σ] [Faithful σ]

/-- With the registers at `s` the exchange succeeds, with a value as `P` says, and leaves them at
`after`. -/
def Succeeds (x : Exchange σ α) (s : Snapshot) (P : α → Prop) (after : Snapshot) : Prop :=
  ∀ line : Line σ, line.Holds s →
    ∃ a, result x line = .ok a ∧ P a ∧ (final x line).Holds after

variable {x : Exchange σ α} {s middle after : Snapshot} {P : α → Prop}

private theorem succeeds_pure {a : α} (h : P a) : Succeeds (pure a : Exchange σ α) s P s :=
  fun _ holds => ⟨a, rfl, h, holds⟩

private theorem Succeeds.bind {f : α → Exchange σ β} {Q : β → Prop} (hx : x.Succeeds s P middle)
    (hf : ∀ a, P a → (f a).Succeeds middle Q after) : (x >>= f).Succeeds s Q after := by
  intro line holds
  obtain ⟨a, hresult, hp, hmiddle⟩ := hx line holds
  obtain ⟨b, hnext, hq, hafter⟩ := hf a hp _ hmiddle
  refine ⟨b, ?_, hq, ?_⟩
  · rw [result_bind_ok hresult, hnext]
  · rw [final_bind_ok hresult]
    exact hafter

private theorem Succeeds.attempt (hx : x.Succeeds s P after) :
    x.attempt.Succeeds s (fun r => ∃ a, r = .ok a ∧ P a) after := by
  intro line holds
  obtain ⟨a, hresult, hp, hafter⟩ := hx line holds
  refine ⟨.ok a, ?_, ⟨a, rfl, hp⟩, ?_⟩
  · rw [result_attempt, hresult]
  · rw [final_attempt]
    exact hafter

end Exchange

namespace Link

variable {σ : Type} [Transport σ] {tuning : Tuning} {command : Command} {arguments payload : Bytes}
  {room : Nat} {line : Line σ}

theorem send_of_sent {device : σ} (small : arguments.length ≤ 65533)
    (h : Transport.write line.device (form tuning command arguments) =
      (.ok (form tuning command arguments).length, device)) :
    result (send tuning command arguments) line = .ok () ∧
      (final (send tuning command arguments) line).device = device := by
  obtain ⟨hwrite, hline⟩ := Line.write_of_sent h tuning.sendTimeout
  have encoded : result (Exchange.ofExcept Fault.frame
      (Except.ok (form tuning command arguments))) line = .ok (form tuning command arguments) := rfl
  unfold send
  rw [encode_eq_form small, result_bind_ok encoded, final_bind_ok encoded,
    Exchange.final_ofExcept, result_bind_ok hwrite, final_bind_ok hwrite, if_pos rfl, hline]
  exact ⟨rfl, rfl⟩

theorem request_of_oversized (tuning : Tuning) (command : Command) {arguments : Bytes}
    (large : 65533 < arguments.length) (room : Nat) (line : Line σ) :
    result (request tuning command arguments room) line =
        .error (.frame (.payloadTooLarge arguments.length)) ∧
      final (request tuning command arguments room) line = line := by
  have refused : result (send tuning command arguments) line =
        .error (.frame (.payloadTooLarge arguments.length)) ∧
      final (send tuning command arguments) line = line := by
    unfold send
    rw [encode_eq_error large]
    exact ⟨rfl, rfl⟩
  rw [request, result_bind_error refused.1, final_bind_error refused.1, refused.2]
  exact ⟨rfl, rfl⟩

theorem receive_of_received (tuning : Tuning) (command : Command) {device : σ} {bytes : Bytes}
    (h : Transport.read line.device room = (.ok bytes, device)) :
    result (receive tuning command room) line =
        (Frame.decode (bytes.take room) >>= fun f => f.answering command).mapError .frame ∧
      (final (receive tuning command room) line).device = device := by
  obtain ⟨hread, hline⟩ := Line.read_of_received h tuning.receiveTimeout
  unfold receive
  rw [result_bind_ok hread, final_bind_ok hread, Exchange.result_ofExcept, Exchange.final_ofExcept,
    hline]
  exact ⟨rfl, rfl⟩

variable [Faithful σ] {s after : Snapshot}

private theorem request_served (tuning : Tuning) (room : Nat) (holds : line.Holds s)
    (small : arguments.length ≤ 65533)
    (served : Served s.encode command arguments payload after.encode) :
    ∃ marker answer, Frame.encode ⟨marker, command.response, payload⟩ = .ok answer ∧
      result (request tuning command arguments room) line =
        (Frame.decode (answer.take room) >>= fun f => f.answering command).mapError .frame ∧
      (final (request tuning command arguments room) line).Holds after := by
  rw [← holds.image] at served
  obtain ⟨submitted, answered, marker, answer, hwrite, hread, hencode, hsettled, himage⟩ :=
    Faithful.serves tuning room holds.settled small served
  obtain ⟨hsend, hsubmitted⟩ := send_of_sent small hwrite
  rw [← hsubmitted] at hread
  obtain ⟨hreceive, hanswered⟩ := receive_of_received tuning command hread
  refine ⟨marker, answer, hencode, ?_, ?_⟩
  · rw [request, result_bind_ok hsend, hreceive]
  · rw [request, final_bind_ok hsend]
    exact ⟨by rw [hanswered]; exact hsettled, by rw [hanswered]; exact himage⟩

private theorem request_succeeds (tuning : Tuning)
    (served : Served s.encode command arguments payload after.encode)
    (small : arguments.length ≤ 65533) (fits : payload.length + 5 ≤ room) :
    (request (σ := σ) tuning command arguments room).Succeeds s (fun f => f.payload = payload)
      after := by
  intro line holds
  obtain ⟨marker, answer, hencode, hresult, hafter⟩ := request_served tuning room holds small served
  have hlength : answer.length ≤ room := by
    rw [Frame.length_of_encode hencode]
    exact fits
  have hanswer : (Frame.decode (answer.take room) >>= fun f => f.answering command) =
      .ok ⟨marker, command.response, payload⟩ := by
    rw [List.take_of_length_le hlength, Frame.decode_encode hencode]
    exact if_pos rfl
  rw [hanswer] at hresult
  exact ⟨⟨marker, command.response, payload⟩, hresult, rfl, hafter⟩

theorem echo_holds (tuning : Tuning) (bytes : Bytes) (room : Nat) (holds : line.Holds s) :
    (final (request tuning .echo bytes room) line).Holds s := by
  rcases Nat.lt_or_ge 65533 bytes.length with large | small
  · rw [(request_of_oversized tuning .echo large room line).2]
    exact holds
  · obtain ⟨_, _, -, -, hafter⟩ := request_served tuning room holds small (.echoed bytes)
    exact hafter

end Link

namespace Panel

variable {σ α : Type} [Transport σ] [Faithful σ] {s after : Snapshot}

private theorem setLock_succeeds (tuning : Tuning) (held : Bool) :
    (setLock (σ := σ) tuning held).Succeeds s (fun _ => True) s := by
  unfold setLock
  refine (Link.request_succeeds tuning (.locked (stateByte held)) (by simp) (by simp)).bind ?_
  rintro ⟨marker, command, payload⟩ ⟨⟩
  cases held
  · exact Exchange.succeeds_pure trivial
  · exact Exchange.succeeds_pure trivial

private theorem whileLocked_succeeds (tuning : Tuning) {work : Exchange σ α} {P : α → Prop}
    (hwork : work.Succeeds s P after) : (whileLocked tuning work).Succeeds s P after := by
  unfold whileLocked
  refine (setLock_succeeds tuning true).bind fun _ _ => hwork.attempt.bind ?_
  rintro _ ⟨a, rfl, ha⟩
  exact (setLock_succeeds tuning false).bind fun _ _ => Exchange.succeeds_pure ha

end Panel

namespace Bank

variable {σ : Type} [Transport σ] [Faithful σ] {s pending : Snapshot}

private theorem readSnapshot_succeeds (tuning : Tuning) :
    (readSnapshot (σ := σ) tuning).Succeeds s (fun current => current = s) s := by
  unfold readSnapshot
  refine (Panel.whileLocked_succeeds tuning
    (Link.request_succeeds tuning .read (by simp) (by simp))).bind ?_
  rintro ⟨marker, command, payload⟩ hpayload
  have decoded := s.decode_encode
  -- Registers are longer than the single byte that would stand for a refusal.
  have whole := s.length_encode
  generalize s.encode = image at hpayload decoded whole
  match image, whole with
  | first :: second :: rest, _ =>
    cases hpayload
    show Exchange.Succeeds (Exchange.ofExcept .frame (Snapshot.decode _)) s _ s
    rw [decoded]
    exact Exchange.succeeds_pure rfl

private theorem writeSnapshot_succeeds (tuning : Tuning) :
    (writeSnapshot (σ := σ) tuning pending).Succeeds s (fun _ => True) pending := by
  unfold writeSnapshot
  refine (Link.request_succeeds tuning (.stored pending.length_encode) (encode_fits pending)
    (by simp)).bind ?_
  rintro ⟨marker, command, payload⟩ ⟨⟩
  exact Exchange.succeeds_pure trivial

theorem fetch_of_holds (tuning : Tuning) {bank : Bank σ} (holds : bank.line.Holds s) :
    result (fetch tuning) bank = .ok s ∧ (final (fetch tuning) bank).line.Holds s := by
  obtain ⟨_, hresult, rfl, hafter⟩ := readSnapshot_succeeds tuning bank.line holds
  rw [fetch, result_onLine, line_final_onLine]
  exact ⟨hresult, hafter⟩

private theorem commit_of_holds (tuning : Tuning) (pending : Snapshot) {bank : Bank σ}
    (holds : bank.line.Holds s) : result (commit tuning pending) bank = .ok () ∧
      (final (commit tuning pending) bank).line.Holds pending := by
  obtain ⟨_, hresult, -, hafter⟩ := writeSnapshot_succeeds tuning bank.line holds
  rw [commit, result_onLine, line_final_onLine]
  exact ⟨hresult, hafter⟩

theorem Revised.of_holds {tuning : Tuning} {change : Snapshot → Except Fault Snapshot}
    {bank after : Bank σ} {r : Except Fault Snapshot} (h : Revised tuning change bank r after)
    (holds : bank.line.Holds s) : r = change s ∧
      after.line.Holds ((change s).toOption.getD s) := by
  obtain ⟨fetched, hfetched⟩ := fetch_of_holds tuning holds
  cases h with
  | unfetched failed =>
    rw [fetched] at failed
    cases failed
  | unchanged fetch refused =>
    rw [fetched] at fetch
    cases fetch
    rw [refused]
    exact ⟨rfl, hfetched⟩
  | @uncommitted current pending _ fetch changed failed =>
    have committing : (bank.refreshed tuning current).line.Holds s := hfetched
    rw [(commit_of_holds tuning pending committing).1] at failed
    cases failed
  | @committed current pending fetch changed written =>
    have committing : (bank.refreshed tuning current).line.Holds s := hfetched
    rw [fetched] at fetch
    cases fetch
    rw [changed]
    exact ⟨rfl, (commit_of_holds tuning pending committing).2⟩

end Bank

theorem askSamples_succeeds {σ : Type} [Transport σ] [Faithful σ] {s : Snapshot} (tuning : Tuning)
    (c : ChannelId) : (askSamples (σ := σ) tuning c).Succeeds s (fun ready => ready = false) s := by
  unfold askSamples
  refine (Link.request_succeeds tuning (.unsampled _) (by simp) (by simp)).bind ?_
  rintro ⟨marker, command, payload⟩ ⟨⟩
  exact Exchange.succeeds_pure rfl

/-- The plainest faithful instrument: its registers, and the answer it has ready if it was asked. -/
structure Instrument where
  image : Bytes
  whole : image.length = 240
  answer : Option Bytes := none

namespace Instrument

def answering (d : Instrument) (command : Command) (payload : Bytes) : Instrument :=
  { d with answer := (Frame.encode ⟨.normal, command.response, payload⟩).toOption }

def take (d : Instrument) (f : Frame) : Instrument :=
  if f.command = Command.lock.byte then d.answering .lock f.payload
  else if f.command = Command.readRegisters.byte then d.answering .readRegisters d.image
  else if f.command = Command.writeRegisters.byte then
    if whole : f.payload.length = 240 then
      { d.answering .writeRegisters [0] with image := f.payload, whole }
    else d
  else if f.command = Command.echo.byte then d.answering .echo f.payload
  else if f.command = Command.readSamples.byte then d.answering .readSamples [3]
  else d

instance : Transport Instrument where
  opening d := (.ok (), d)
  claim d := (.ok (), d)
  close d := (.ok (), d)
  write d bytes :=
    (.ok bytes.length, match Frame.decode bytes with | .ok f => d.take f | .error _ => d)
  read d _ :=
    match d.answer with
    | some bytes => (.ok bytes, { d with answer := none })
    | none => (.error .timeout, d)
  connectionId _ := none
  now _ := 0
  ready d := if d.answer.isSome then 1 else 0
  ready_read d _ _ d' h := by
    split at h
    · rename_i bytes answer
      cases h
      simp [answer]
    · cases h

private theorem fits_of_served {d : Instrument} {command : Command}
    {arguments payload stored : Bytes}
    (h : Served d.image command arguments payload stored) (small : arguments.length ≤ 65533) :
    payload.length ≤ 65533 := by
  cases h with
  | locked | stored | unsampled => simp
  | read =>
    rw [d.whole]
    decide
  | echoed => exact small

private theorem take_of_served {d : Instrument} {command : Command}
    {arguments payload stored : Bytes}
    (h : Served d.image command arguments payload stored) (marker : Marker) :
    (d.take ⟨marker, command.byte, arguments⟩).answer =
        (Frame.encode ⟨.normal, command.response, payload⟩).toOption ∧
      (d.take ⟨marker, command.byte, arguments⟩).image = stored := by
  cases h with
  | locked | read | echoed | unsampled => exact ⟨rfl, rfl⟩
  | stored whole =>
    have taken : d.take ⟨marker, Command.writeRegisters.byte, arguments⟩ =
        { d.answering .writeRegisters [0] with image := arguments, whole } := dif_pos whole
    rw [taken]
    exact ⟨rfl, rfl⟩

instance : Faithful Instrument where
  image := image
  settled d := d.answer = none
  length_image {d} _ := d.whole
  serves := by
    intro d command arguments payload stored tuning room _ small served request
    have received : Frame.decode request = .ok ⟨tuning.marker, command.byte, arguments⟩ :=
      Frame.decode_encode (Link.encode_eq_form small)
    obtain ⟨answer, encoded⟩ : ∃ answer,
        Frame.encode ⟨.normal, command.response, payload⟩ = .ok answer := by
      rw [Frame.encode_eq_ite, if_pos (fits_of_served served small)]
      exact ⟨_, rfl⟩
    obtain ⟨hanswer, himage⟩ := take_of_served served tuning.marker
    rw [encoded] at hanswer
    let taken := d.take ⟨tuning.marker, command.byte, arguments⟩
    refine ⟨taken, { taken with answer := none }, .normal, answer, ?_, ?_, encoded, rfl, himage⟩
    · show (_, match Frame.decode request with | .ok f => d.take f | .error _ => d) = _
      rw [received]
    · show (match taken.answer with | some bytes => _ | none => _) = _
      rw [hanswer]
      rfl

end Instrument

end Oscilloscope
