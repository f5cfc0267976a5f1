/- What is received. It depends on the transfer at hand alone, and a frame that was cut to the room
   for it is refused with its whole length, never taken for a shorter one. -/

import Oscilloscope.Proofs.Wire.Buffering
import Oscilloscope.Proofs.Wire.Damage
import Oscilloscope.Proofs.Wire.Faithful

set_option autoImplicit false
set_option relaxedAutoImplicit false

namespace Oscilloscope

variable {σ : Type} [Transport σ]

/-- Whatever is asked to be echoed, as far as it goes into a request, is sent back in a frame. -/
def Echoes (tuning : Tuning) (room : Nat) (device : σ) : Prop :=
  ∀ bytes : Bytes, bytes.length ≤ 65533 →
    let request := Link.form tuning .echo bytes
    ∃ submitted answered marker answer,
      Transport.write device request = (.ok request.length, submitted) ∧
        Transport.read submitted room = (.ok answer, answered) ∧
        Frame.encode ⟨marker, Command.echo.response, bytes⟩ = .ok answer

private theorem echoes_of_settled [Faithful σ] {device : σ} (settled : Faithful.settled device)
    (tuning : Tuning) (room : Nat) : Echoes tuning room device := by
  intro bytes small
  obtain ⟨submitted, answered, marker, answer, sent, received, encoded, -, -⟩ :=
    Faithful.serves tuning room settled small (.echoed bytes)
  exact ⟨submitted, answered, marker, answer, sent, received, encoded⟩

namespace Frame

private theorem decode_answering_eq_ok {bs : Bytes} {f : Frame} {request : Command} :
    (decode bs >>= fun g => g.answering request) = .ok f ↔
      decode bs = .ok f ∧ f.command = request.response := by
  cases decode bs with
  | error fault => simp [bind, Except.bind]
  | ok g =>
    show g.answering request = .ok f ↔ _
    unfold answering
    split
    · rename_i same
      simp only [Except.ok.injEq]
      constructor
      · rintro rfl
        exact ⟨rfl, same⟩
      · exact fun h => h.1
    · rename_i other
      simp only [reduceCtorEq, Except.ok.injEq, false_iff]
      rintro ⟨rfl, same⟩
      exact other same

end Frame

namespace Link

private theorem receive_buffered (tuning : Tuning) (command : Command) {room : Nat}
    {line : Line (Buffered σ)} {transfer : Bytes}
    (delivered : (Transport.read line.device.device room).1 = .ok transfer) :
    result (receive tuning command room) line =
      (Frame.decode (transfer.take room) >>= fun f => f.answering command).mapError .frame := by
  have hread : Transport.read line.bare.device room =
      (.ok transfer, (Transport.read line.device.device room).2) :=
    Prod.ext delivered rfl
  rw [(receive_mirrors tuning command line room).result_eq]
  exact (receive_of_received tuning command hread).1

private theorem receive_buffered_eq_ok_iff (tuning : Tuning) (command : Command) {room : Nat}
    {line : Line (Buffered σ)} {transfer : Bytes}
    (delivered : (Transport.read line.device.device room).1 = .ok transfer) (f : Frame) :
    result (receive tuning command room) line = .ok f ↔
      Frame.decode (transfer.take room) = .ok f ∧ f.command = command.response := by
  rw [receive_buffered tuning command delivered, ← Frame.decode_answering_eq_ok]
  cases Frame.decode (transfer.take room) >>= fun g => g.answering command with
  | error fault => exact ⟨nofun, nofun⟩
  | ok g => constructor <;> (rintro ⟨⟩; rfl)

private theorem request_of_echoes {tuning : Tuning} {room : Nat} {line : Line σ} {bytes : Bytes}
    (echoes : Echoes tuning room line.device) (small : bytes.length ≤ 65533) (enough : 5 ≤ room) :
    (result (request tuning .echo bytes room) line).map Frame.payload =
      if bytes.length + 5 ≤ room then .ok bytes
      else .error (.frame (.sizeMismatch (bytes.length + 5) room)) := by
  obtain ⟨submitted, answered, marker, answer, sent, received, encoded⟩ := echoes bytes small
  obtain ⟨hsend, hsubmitted⟩ := send_of_sent small sent
  rw [← hsubmitted] at received
  have decoded := Frame.decode_encode encoded
  have hlength : answer.length = bytes.length + 5 := Frame.length_of_encode encoded
  rw [request, result_bind_ok hsend, (receive_of_received tuning .echo received).1]
  split
  · rename_i fits
    rw [List.take_of_length_le (by omega), decoded]
    rfl
  · rename_i long
    rw [Frame.decode_take decoded (by omega) (by omega), hlength]
    rfl

end Link

namespace Scope

private theorem result_echo (handle : Handle) (bytes : Bytes) (scope : Scope σ) :
    result (echo handle bytes) scope =
      (result (Link.request handle.tuning .echo bytes 512) scope.bank.line).map Frame.payload := by
  rw [echo, result_bind_pure, result_onLine]

private theorem final_echo (handle : Handle) (bytes : Bytes) (scope : Scope σ) :
    final (echo handle bytes) scope =
      scope.withLine (final (Link.request handle.tuning .echo bytes 512) scope.bank.line) := by
  rw [echo, final_bind_pure, final_onLine]

private theorem echo_of_echoes {handle : Handle} {scope : Scope (Buffered σ)} {bytes : Bytes}
    (echoes : Echoes handle.tuning 512 scope.bank.line.device.device)
    (small : bytes.length ≤ 65533) :
    result (echo handle bytes) scope =
      if bytes.length ≤ 507 then .ok bytes
      else .error (.frame (.sizeMismatch (bytes.length + 5) 512)) := by
  have echoesBare : Echoes handle.tuning 512 scope.bank.line.bare.device := echoes
  have hrequest := Link.request_of_echoes echoesBare small (by decide)
  rw [result_echo, (Link.request_mirrors handle.tuning .echo _ bytes 512).result_eq, hrequest]
  exact ite_congr (propext (by omega)) (fun _ => rfl) fun _ => rfl

private theorem echo_of_oversized (handle : Handle) (scope : Scope σ) {bytes : Bytes}
    (large : 65533 < bytes.length) :
    result (echo handle bytes) scope = .error (.frame (.payloadTooLarge bytes.length)) ∧
      final (echo handle bytes) scope = scope := by
  obtain ⟨hrequest, hline⟩ :=
    Link.request_of_oversized handle.tuning .echo large 512 scope.bank.line
  rw [result_echo, final_echo, hrequest, hline]
  exact ⟨rfl, rfl⟩

end Scope

namespace Link

/-- Whatever is in the buffer, a frame is received exactly when the transfer, as far as there is
room for it, is one and answers the command, and one that is longer is refused with its length. An
echo is therefore the bytes that were sent, or it is refused for the length of its frame, or
nothing is sent. -/
theorem receive_exact :
    (∀ (tuning : Tuning) (command : Command) (room : Nat) (line : Line (Buffered σ))
        (transfer : Bytes), (Transport.read line.device.device room).1 = .ok transfer →
      (∀ f, result (receive tuning command room) line = .ok f ↔
        Frame.decode (transfer.take room) = .ok f ∧ f.command = command.response) ∧
      (∀ other : Line (Buffered σ), (Transport.read other.device.device room).1 = .ok transfer →
        result (receive tuning command room) other = result (receive tuning command room) line) ∧
      (5 ≤ room → room < transfer.length → (∃ f, Frame.decode transfer = .ok f) →
        result (receive tuning command room) line =
          .error (.frame (.sizeMismatch transfer.length room)))) ∧
    ∀ (handle : Handle) (scope : Scope (Buffered σ)) (bytes : Bytes),
      (Echoes handle.tuning 512 scope.bank.line.device.device → bytes.length ≤ 65533 →
        result (Scope.echo handle bytes) scope =
          if bytes.length ≤ 507 then .ok bytes
          else .error (.frame (.sizeMismatch (bytes.length + 5) 512))) ∧
      (65533 < bytes.length →
        result (Scope.echo handle bytes) scope =
            .error (.frame (.payloadTooLarge bytes.length)) ∧
          final (Scope.echo handle bytes) scope = scope) := by
  refine ⟨fun tuning command room line transfer delivered => ⟨?_, fun other same => ?_, ?_⟩,
    fun handle scope bytes => ⟨Scope.echo_of_echoes, Scope.echo_of_oversized handle scope⟩⟩
  · exact receive_buffered_eq_ok_iff tuning command delivered
  · rw [receive_buffered tuning command delivered, receive_buffered tuning command same]
  · rintro enough cut ⟨f, accepted⟩
    rw [receive_buffered tuning command delivered, Frame.decode_take accepted (by omega) cut]
    rfl

theorem receive_exact_of_old_bytes :
    let acknowledgement : Bytes := [0x53, 4, 0, 0x92, 1, 1, 0xeb]
    let ready : Instrument := ⟨List.replicate 240 0, rfl, some acknowledgement⟩
    let line : Line (Buffered Instrument) := ⟨⟨ready, List.replicate 600 0xff⟩, []⟩
    let handle : Handle := ⟨{}, none⟩
    let resting : Instrument := ⟨List.replicate 240 0, rfl, none⟩
    let scope := Scope.ofLine ⟨(⟨resting, [0x53, 4, 0]⟩ : Buffered Instrument), []⟩
    result (receive {} .lock 128) line = .ok ⟨.normal, Command.lock.response, [1, 1]⟩ ∧
      result (receive {} .lock 6) line = .error (.frame (.sizeMismatch 7 6)) ∧
      result (Scope.echo handle (List.replicate 507 1)) scope = .ok (List.replicate 507 1) ∧
      result (Scope.echo handle (List.replicate 508 1)) scope =
        .error (.frame (.sizeMismatch 513 512)) ∧
      result (Scope.echo handle (List.replicate 65534 1)) scope =
        .error (.frame (.payloadTooLarge 65534)) := by
  intro acknowledgement ready line handle resting scope
  obtain ⟨received, echoed⟩ := receive_exact (σ := Instrument)
  have accepted : Frame.decode acknowledgement =
      .ok ⟨.normal, Command.lock.response, [1, 1]⟩ := rfl
  have whole := (received {} .lock 128 line acknowledgement rfl).1
  have cut := (received {} .lock 6 line acknowledgement rfl).2.2
  have settled : Faithful.settled resting := rfl
  have echoes : Echoes handle.tuning 512 scope.bank.line.device.device :=
    echoes_of_settled settled handle.tuning 512
  refine ⟨(whole _).mpr ⟨accepted, rfl⟩, cut (by decide) (by decide) ⟨_, accepted⟩, ?_, ?_, ?_⟩
  · have fits := (echoed handle scope (List.replicate 507 1)).1 echoes
    simp only [List.length_replicate] at fits
    exact fits (by decide)
  · have long := (echoed handle scope (List.replicate 508 1)).1 echoes
    simp only [List.length_replicate] at long
    exact long (by decide)
  · have large := (echoed handle scope (List.replicate 65534 1)).2
    simp only [List.length_replicate] at large
    exact (large (by decide)).1

end Link

end Oscilloscope
