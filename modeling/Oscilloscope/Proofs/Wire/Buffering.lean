/- Connections that are read through a buffer. Only the bytes of the transfer at hand are looked at,
   so that an exchange on a buffered connection comes to what it comes to on the bare one, whatever
   is in the buffer. -/

import Oscilloscope.Proofs.Wire.Replay
import Oscilloscope.Transport.Buffered

set_option autoImplicit false
set_option relaxedAutoImplicit false

namespace Oscilloscope

/-- An outcome with its state as it is seen. -/
def seenAs {ε S T α : Type} (seen : S → T) : EStateM.Result ε S α → EStateM.Result ε T α
  | .ok a t => .ok a (seen t)
  | .error e t => .error e (seen t)

/-- From `s` the work `x` comes to what `y` comes to from `s` as it is seen, and the states that
they leave are seen alike. -/
structure Mirrors {ε S T α : Type} (seen : S → T) (x : EStateM ε S α) (y : EStateM ε T α) (s : S) :
    Prop where
  result_eq : result x s = result y (seen s)
  seen_final : seen (final x s) = final y (seen s)

namespace Mirrors

variable {ε S T α β : Type} {seen : S → T} {x : EStateM ε S α} {y : EStateM ε T α}
  {f : α → EStateM ε S β} {g : α → EStateM ε T β} {s : S}

theorem pure (a : α) : Mirrors seen (pure a : EStateM ε S α) (pure a) s := ⟨rfl, rfl⟩

theorem throw (e : ε) : Mirrors seen (throw e : EStateM ε S α) (throw e) s := ⟨rfl, rfl⟩

theorem bind (first : Mirrors seen x y s)
    (rest : ∀ a, result x s = .ok a → Mirrors seen (f a) (g a) (final x s)) :
    Mirrors seen (x >>= f) (y >>= g) s := by
  obtain ⟨hresult, hfinal⟩ := first
  cases run : result y (seen s) with
  | error e =>
    rw [run] at hresult
    refine ⟨?_, ?_⟩
    · rw [result_bind_error hresult, result_bind_error run]
    · rw [final_bind_error hresult, final_bind_error run, hfinal]
  | ok a =>
    rw [run] at hresult
    obtain ⟨hnext, hlast⟩ := rest a hresult
    refine ⟨?_, ?_⟩
    · rw [result_bind_ok hresult, result_bind_ok run, hnext, hfinal]
    · rw [final_bind_ok hresult, final_bind_ok run, hlast, hfinal]

theorem outcome_eq (h : Mirrors seen x y s) : y (seen s) = seenAs seen (x s) := by
  obtain ⟨hresult, hfinal⟩ := h
  unfold result at hresult
  unfold final at hfinal
  cases here : x s <;> cases there : y (seen s) <;> rw [here, there] at hresult hfinal <;>
    cases hresult <;> cases hfinal <;> rfl

theorem get_bind {f : S → EStateM ε S β} {g : T → EStateM ε T β}
    (rest : Mirrors seen (f s) (g (seen s)) s) :
    Mirrors seen (MonadState.get >>= f) (MonadState.get >>= g) s :=
  ⟨rest.result_eq, rest.seen_final⟩

theorem modify {f : S → S} {g : T → T} (alike : seen (f s) = g (seen s)) :
    Mirrors seen (modify f : EStateM ε S PUnit) (modify g) s := ⟨rfl, alike⟩

theorem checked {refused : Prop} [Decidable refused] {e : ε} (h : Mirrors seen x y s) :
    Mirrors seen (if refused then MonadExcept.throw e >>= fun _ : PUnit => x else x)
      (if refused then MonadExcept.throw e >>= fun _ : PUnit => y else y) s := by
  split
  · exact .throw e
  · exact h

end Mirrors

namespace Buffered

private theorem length_resize (room : Nat) (buffer : Bytes) :
    (resize room buffer).length = room := by
  rw [resize, List.length_append, List.length_take, List.length_replicate]
  omega

private theorem take_fill (transfer buffer : Bytes) :
    (fill transfer buffer).2.take (fill transfer buffer).1 = transfer.take buffer.length := by
  have hcopied : (transfer.take (min transfer.length buffer.length)).length =
      min transfer.length buffer.length := List.length_take_of_le (Nat.min_le_left _ _)
  rw [fill, List.take_left' hcopied, Nat.min_comm, ← List.take_take, List.take_length]

variable {σ : Type} [Transport σ]

private theorem read_eq (s : Buffered σ) (room : Nat) :
    (Transport.read s room).1 =
        (Transport.read s.device room).1.map (fun bytes => bytes.take room) ∧
      (Transport.read s room).2.device = (Transport.read s.device room).2 := by
  show (read s room).1 = _ ∧ (read s room).2.device = _
  unfold read
  rcases Transport.read s.device room with ⟨_ | transfer, device⟩
  · exact ⟨rfl, rfl⟩
  · refine ⟨?_, rfl⟩
    have htake := take_fill transfer (resize room s.buffer)
    rw [length_resize] at htake
    exact congrArg Except.ok htake

end Buffered

namespace Line

variable {σ α : Type}

def bare (line : Line (Buffered σ)) : Line σ :=
  ⟨line.device.device, line.record⟩

theorem mirrors_of_conclude {x : Exchange (Buffered σ) α} {y : Exchange σ α}
    {operation : Operation} {limit : Duration} {line after : Line (Buffered σ)}
    {answer : Except Failure α} (run : x line = conclude operation limit after answer)
    (bareRun : y line.bare = conclude operation limit after.bare answer) :
    Mirrors bare x y line := by
  refine ⟨?_, ?_⟩
  · rw [result_of_conclude run, result_of_conclude bareRun]
  · rw [final_of_conclude run, final_of_conclude bareRun]

variable [Transport σ]

private theorem write_mirrors (limit : Duration) (bytes : Bytes) (line : Line (Buffered σ)) :
    Mirrors bare (write limit bytes) (write limit bytes) line :=
  mirrors_of_conclude rfl rfl

private theorem read_mirrors (limit : Duration) (room : Nat) (line : Line (Buffered σ)) :
    Mirrors bare (read limit room) (read limit room) line := by
  obtain ⟨hanswer, hdevice⟩ := line.device.read_eq room
  let answer := (Transport.read line.device room).1.map fun bytes => bytes.take room
  -- The buffer has cut the transfer already.
  have htwice : answer =
      (Transport.read line.device.device room).1.map fun bytes => bytes.take room := by
    unfold answer
    rw [hanswer]
    cases (Transport.read line.device.device room).1 with
    | error f => rfl
    | ok bytes =>
      show Except.ok ((bytes.take room).take room) = Except.ok (bytes.take room)
      rw [List.take_take, Nat.min_self]
  have run : read limit room line = conclude .read limit
      ⟨(Transport.read line.device room).2, line.record ++ [.read room answer]⟩ answer := rfl
  refine mirrors_of_conclude run ?_
  show read limit room line.bare = conclude .read limit
    ⟨(Transport.read line.device room).2.device, line.record ++ [.read room answer]⟩ answer
  rw [hdevice, htwice]
  rfl

end Line

private theorem Exchange.ofExcept_mirrors {σ ε α : Type} (fault : ε → Fault) (a : Except ε α)
    (line : Line (Buffered σ)) : Mirrors Line.bare (ofExcept fault a) (ofExcept fault a) line := by
  cases a with
  | ok a => exact .pure a
  | error e => exact .throw (fault e)

theorem Exchange.attempt_mirrors {σ α : Type} {x : Exchange (Buffered σ) α} {y : Exchange σ α}
    {line : Line (Buffered σ)} (h : Mirrors Line.bare x y line) :
    Mirrors Line.bare x.attempt y.attempt line := by
  refine ⟨?_, ?_⟩
  · rw [result_attempt, result_attempt, h.result_eq]
  · rw [final_attempt, final_attempt, h.seen_final]

namespace Link

variable {σ : Type} [Transport σ] (tuning : Tuning) (command : Command) (line : Line (Buffered σ))

private theorem send_mirrors (arguments : Bytes) :
    Mirrors Line.bare (send tuning command arguments) (send tuning command arguments) line := by
  unfold send
  refine (Exchange.ofExcept_mirrors _ _ _).bind fun bytes _ =>
    (Line.write_mirrors _ _ _).bind fun written _ => ?_
  split
  · exact .pure _
  · exact .throw _

theorem receive_mirrors (room : Nat) :
    Mirrors Line.bare (receive tuning command room) (receive tuning command room) line :=
  (Line.read_mirrors _ _ _).bind fun _ _ => Exchange.ofExcept_mirrors _ _ _

theorem request_mirrors (arguments : Bytes) (room : Nat) :
    Mirrors Line.bare (request tuning command arguments room)
      (request tuning command arguments room) line :=
  (send_mirrors tuning command line arguments).bind fun _ _ => receive_mirrors tuning command _ room

end Link

section

variable {σ α : Type} [Transport σ] (tuning : Tuning) (line : Line (Buffered σ))

private theorem Panel.setLock_mirrors (held : Bool) :
    Mirrors Line.bare (setLock tuning held) (setLock tuning held) line := by
  unfold setLock
  dsimp only
  generalize (if held then (1 : UInt8) else 0) = state
  refine (Link.request_mirrors tuning _ _ _ _).bind fun answer _ => ?_
  refine (Exchange.ofExcept_mirrors _ _ _).bind fun sub _ => .checked ?_
  split
  · split
    · exact .pure _
    · exact .throw _
  · exact .throw _

private theorem Panel.whileLocked_mirrors {x : Exchange (Buffered σ) α} {y : Exchange σ α}
    (h : ∀ line, Mirrors Line.bare x y line) :
    Mirrors Line.bare (whileLocked tuning x) (whileLocked tuning y) line := by
  unfold whileLocked
  refine (setLock_mirrors tuning _ _).bind fun _ _ => ?_
  refine (Exchange.attempt_mirrors (h _)).bind fun outcome _ => ?_
  cases outcome with
  | ok a => exact (setLock_mirrors tuning _ _).bind fun _ _ => .pure a
  | error fault =>
    exact (Exchange.attempt_mirrors (setLock_mirrors tuning _ _)).bind fun _ _ => .throw fault

theorem Bank.readSnapshot_mirrors :
    Mirrors Line.bare (readSnapshot tuning) (readSnapshot tuning) line := by
  unfold readSnapshot
  have answered := Panel.whileLocked_mirrors tuning line fun line =>
    Link.request_mirrors tuning .readRegisters line [] 512
  refine answered.bind fun answer _ => ?_
  split
  · exact .throw _
  · exact Exchange.ofExcept_mirrors _ _ _

theorem Bank.writeSnapshot_mirrors (s : Snapshot) :
    Mirrors Line.bare (writeSnapshot tuning s) (writeSnapshot tuning s) line := by
  unfold writeSnapshot
  refine (Link.request_mirrors tuning _ _ _ _).bind fun answer _ => ?_
  refine (Exchange.ofExcept_mirrors _ _ _).bind fun status _ => ?_
  split
  · exact .pure _
  · exact .throw _

theorem askSamples_mirrors (c : ChannelId) :
    Mirrors Line.bare (askSamples tuning c) (askSamples tuning c) line := by
  unfold askSamples
  refine (Link.request_mirrors tuning _ _ _ _).bind fun answer _ => ?_
  refine (Exchange.ofExcept_mirrors _ _ _).bind fun status _ => ?_
  split
  · exact .pure _
  · exact .checked (.checked (.pure _))

theorem Stream.receiving_mirrors (c : ChannelId) (failures : UInt32) :
    Mirrors Line.bare (receiving tuning c failures) (receiving tuning c failures) line := by
  -- On what can still be received, which every frame of the stream uses up.
  induction hready : Transport.ready line.device using Nat.strongRecOn
    generalizing failures line with
  | _ ready ih =>
    have attempted := Exchange.attempt_mirrors (Link.receive_mirrors tuning .readSamples line 10007)
    rw [receiving_eq, receiving_eq]
    refine attempted.bind fun answer hanswer => ?_
    rw [Exchange.result_attempt] at hanswer
    rw [Exchange.final_attempt]
    cases answer with
    | error fault => exact .pure _
    | ok frame =>
      have received := eq_ok_of_result (Except.ok.inj hanswer) rfl
      have later (failures : UInt32) :=
        ih _ (hready ▸ Link.ready_of_receive received) _ failures rfl
      rw [proceed, proceed]
      split
      · exact .pure _
      · exact .pure _
      · exact .pure _
      · split
        · exact .pure _
        · exact later (failures + 1)
      · exact (later failures).bind fun stream _ => .pure _

end

end Oscilloscope
