/- Exchanges go by the answers that they get. Another line that replays their transcript has them
   come to the same and do the same, whatever else is different about it. -/

import Mathlib.Control.Monad.Basic
import Oscilloscope.Proofs.Wire.Transcript

set_option autoImplicit false
set_option relaxedAutoImplicit false

namespace Oscilloscope

deriving instance DecidableEq for Transfer

/-- Whether a connection answers the operations of a transcript as they are answered in it. -/
def Replays {σ : Type} [Transport σ] : σ → List Transfer → Prop
  | _, [] => True
  | d, .sought _ :: t => Replays d t
  | d, .opened r :: t => (Transport.opening d).1 = r ∧ Replays (Transport.opening d).2 t
  | d, .claimed r :: t => (Transport.claim d).1 = r ∧ Replays (Transport.claim d).2 t
  | d, .closed r :: t => (Transport.close d).1 = r ∧ Replays (Transport.close d).2 t
  | d, .wrote bytes r :: t =>
    (Transport.write d bytes).1 = r ∧ Replays (Transport.write d bytes).2 t
  | d, .read room r :: t =>
    (Transport.read d room).1.map (fun bytes => bytes.take room) = r ∧
      Replays (Transport.read d room).2 t

instance decidableReplays {σ : Type} [Transport σ] :
    (d : σ) → (t : List Transfer) → Decidable (Replays d t)
  | _, [] => inferInstanceAs (Decidable True)
  | d, .sought _ :: t => decidableReplays d t
  | d, .opened _ :: t =>
    have := decidableReplays (Transport.opening d).2 t
    inferInstanceAs (Decidable (_ ∧ _))
  | d, .claimed _ :: t =>
    have := decidableReplays (Transport.claim d).2 t
    inferInstanceAs (Decidable (_ ∧ _))
  | d, .closed _ :: t =>
    have := decidableReplays (Transport.close d).2 t
    inferInstanceAs (Decidable (_ ∧ _))
  | d, .wrote bytes _ :: t =>
    have := decidableReplays (Transport.write d bytes).2 t
    inferInstanceAs (Decidable (_ ∧ _))
  | d, .read room _ :: t =>
    have := decidableReplays (Transport.read d room).2 t
    inferInstanceAs (Decidable (_ ∧ _))

/-- States with a line in them, and which of them are to look the same. -/
structure View (σ S : Type) where
  line : S → Line σ
  Alike : S → S → Prop

namespace View

variable {σ S α β : Type} [Transport σ]

/-- On `other` the work comes to the same as on `s`, does `t` there as well and leaves a state that
looks the same. What the line replays after it is `later`. -/
structure Follows (v : View σ S) (x : EStateM Fault S α) (t later : List Transfer) (s other : S) :
    Prop where
  result_eq : result x other = result x s
  alike : v.Alike (final x s) (final x other)
  record_eq : (v.line (final x other)).record = (v.line other).record ++ t
  replays : Replays (v.line (final x other)).device later

/-- From `s` the work does `t`, and all that it learns is in `t`. -/
structure Does (v : View σ S) (x : EStateM Fault S α) (s : S) (t : List Transfer) : Prop where
  record_eq : (v.line (final x s)).record = (v.line s).record ++ t
  replays : ∀ later, Replays (v.line (final x s)).device later →
    Replays (v.line s).device (t ++ later)
  follows : ∀ other later, v.Alike s other → Replays (v.line other).device (t ++ later) →
    v.Follows x t later s other

/-- From everywhere all that the work learns is in its transcript. -/
def Determined (v : View σ S) (x : EStateM Fault S α) : Prop :=
  ∀ s, ∃ t, v.Does x s t

variable {v : View σ S} {x : EStateM Fault S α} {f : α → EStateM Fault S β} {s : S}
  {t u : List Transfer}

theorem does_nothing (idle : ∀ s, v.line (final x s) = v.line s)
    (same : ∀ other, v.Alike s other →
      result x other = result x s ∧ v.Alike (final x s) (final x other)) : v.Does x s [] where
  record_eq := by rw [idle, List.append_nil]
  replays := by
    intro later replayed
    rw [idle] at replayed
    exact replayed
  follows := by
    intro other later alike replayed
    obtain ⟨hresult, hfinal⟩ := same other alike
    refine ⟨hresult, hfinal, ?_, ?_⟩
    · rw [idle, List.append_nil]
    · rw [idle]
      exact replayed

theorem determined_pure (a : α) : v.Determined (pure a) :=
  fun _ => ⟨[], does_nothing (fun _ => rfl) fun _ alike => ⟨rfl, alike⟩⟩

theorem determined_throw (fault : Fault) : v.Determined (throw fault : EStateM Fault S α) :=
  fun _ => ⟨[], does_nothing (fun _ => rfl) fun _ alike => ⟨rfl, alike⟩⟩

private theorem Does.bind_of_error {fault : Fault} (hx : v.Does x s t)
    (stopped : result x s = .error fault) : v.Does (x >>= f) s t where
  record_eq := by
    rw [final_bind_error stopped]
    exact hx.record_eq
  replays := by
    rw [final_bind_error stopped]
    exact hx.replays
  follows := by
    intro other later alike replayed
    obtain ⟨hresult, hfinal, hrecord, hlater⟩ := hx.follows other later alike replayed
    have stopping : result x other = .error fault := hresult.trans stopped
    refine ⟨?_, ?_, ?_, ?_⟩
    · rw [result_bind_error stopping, result_bind_error stopped]
    · rw [final_bind_error stopping, final_bind_error stopped]
      exact hfinal
    · rw [final_bind_error stopping]
      exact hrecord
    · rw [final_bind_error stopping]
      exact hlater

private theorem Does.bind_of_ok {a : α} (hx : v.Does x s t) (run : result x s = .ok a)
    (hf : v.Does (f a) (final x s) u) : v.Does (x >>= f) s (t ++ u) where
  record_eq := by
    rw [final_bind_ok run, hf.record_eq, hx.record_eq, List.append_assoc]
  replays := by
    intro later replayed
    rw [final_bind_ok run] at replayed
    rw [List.append_assoc]
    exact hx.replays (u ++ later) (hf.replays later replayed)
  follows := by
    intro other later alike replayed
    rw [List.append_assoc] at replayed
    have first := hx.follows other (u ++ later) alike replayed
    have running : result x other = .ok a := first.result_eq.trans run
    have second := hf.follows (final x other) later first.alike first.replays
    refine ⟨?_, ?_, ?_, ?_⟩
    · rw [result_bind_ok running, result_bind_ok run]
      exact second.result_eq
    · rw [final_bind_ok running, final_bind_ok run]
      exact second.alike
    · rw [final_bind_ok running, second.record_eq, first.record_eq, List.append_assoc]
    · rw [final_bind_ok running]
      exact second.replays

private theorem Does.bind (hx : v.Does x s t)
    (hf : ∀ a, result x s = .ok a → ∃ u, v.Does (f a) (final x s) u) :
    ∃ u, v.Does (x >>= f) s u := by
  cases run : result x s with
  | error fault => exact ⟨t, hx.bind_of_error run⟩
  | ok a =>
    obtain ⟨u, hu⟩ := hf a run
    exact ⟨t ++ u, hx.bind_of_ok run hu⟩

theorem Determined.bind (hx : v.Determined x) (hf : ∀ a, v.Determined (f a)) :
    v.Determined (x >>= f) := by
  intro s
  obtain ⟨t, ht⟩ := hx s
  exact ht.bind fun a _ => hf a (final x s)

theorem determined_throw_bind (fault : Fault) (next : α → EStateM Fault S β) :
    v.Determined (throw fault >>= next) := by
  intro s
  obtain ⟨t, ht⟩ := determined_throw (v := v) (α := α) fault s
  exact ⟨t, ht.bind_of_error rfl⟩

theorem Determined.checked {refused : Prop} [Decidable refused] {fault : Fault}
    {next : PUnit → EStateM Fault S α} (hx : v.Determined x) :
    v.Determined (if refused then throw fault >>= next else x) := by
  split
  · exact determined_throw_bind fault next
  · exact hx

theorem determined_get {f : S → EStateM Fault S α} (hf : ∀ s, v.Determined (f s))
    (same : ∀ s other, v.Alike s other → f other = f s) : v.Determined (get >>= f) := by
  intro s
  obtain ⟨t, hrecord, hreplays, hfollows⟩ := hf s s
  refine ⟨t, hrecord, hreplays, fun other later alike replayed => ?_⟩
  obtain ⟨hresult, hfinal, record, rest⟩ := hfollows other later alike replayed
  have there : result (get >>= f) other = result (f s) other ∧
      final (get >>= f) other = final (f s) other := by
    rw [result_bind_ok (result_get other), final_bind_ok (result_get other), final_get,
      same s other alike]
    exact ⟨rfl, rfl⟩
  refine ⟨there.1.trans hresult, ?_, ?_, ?_⟩
  · rw [there.2]
    exact hfinal
  · rw [there.2]
    exact record
  · rw [there.2]
    exact rest

theorem determined_modify {g : S → S} (idle : ∀ s, v.line (g s) = v.line s)
    (same : ∀ s other, v.Alike s other → v.Alike (g s) (g other)) :
    v.Determined (modify g : EStateM Fault S PUnit) :=
  fun s => ⟨[], does_nothing idle fun other alike => ⟨rfl, same s other alike⟩⟩

end View

namespace Line

variable {σ α : Type}

/-- Of a line nothing is to look the same but the answers that it gives. -/
def view : View σ (Line σ) := ⟨id, fun _ _ => True⟩

variable [Transport σ]

private theorem determined_of_conclude {x : Exchange σ α} {operation : Operation} {limit : Duration}
    (answer : σ → Except Failure α) (next : σ → σ) {entry : Except Failure α → Transfer}
    (run : ∀ line, x line = conclude operation limit
      ⟨next line.device, line.record ++ [entry (answer line.device)]⟩ (answer line.device))
    (recorded : ∀ d r t, Replays d (entry r :: t) ↔ answer d = r ∧ Replays (next d) t) :
    view.Determined x := by
  intro line
  have hresult (line : Line σ) := result_of_conclude (run line)
  have hfinal (line : Line σ) := final_of_conclude (run line)
  refine ⟨[entry (answer line.device)], ?_, ?_, ?_⟩
  · show (final x line).record = _
    rw [hfinal]
    rfl
  · intro later replayed
    have after : Replays (final x line).device later := replayed
    rw [hfinal] at after
    exact (recorded line.device (answer line.device) later).mpr ⟨rfl, after⟩
  · intro other later _ replayed
    obtain ⟨same, rest⟩ := (recorded other.device (answer line.device) later).mp replayed
    refine ⟨?_, trivial, ?_, ?_⟩
    · rw [hresult, hresult, same]
    · show (final x other).record = other.record ++ [entry (answer line.device)]
      rw [hfinal, same]
    · show Replays (final x other).device later
      rw [hfinal]
      exact rest

private theorem write_determined (limit : Duration) (bytes : Bytes) :
    view.Determined (write (σ := σ) limit bytes) :=
  determined_of_conclude (fun d => (Transport.write d bytes).1)
    (fun d => (Transport.write d bytes).2) (fun _ => rfl) fun _ _ _ => Iff.rfl

private theorem read_determined (limit : Duration) (room : Nat) :
    view.Determined (read (σ := σ) limit room) :=
  determined_of_conclude (fun d => (Transport.read d room).1.map fun bytes => bytes.take room)
    (fun d => (Transport.read d room).2) (fun _ => rfl) fun _ _ _ => Iff.rfl

end Line

namespace Exchange

variable {σ α : Type} [Transport σ] {x : Exchange σ α}

private theorem ofExcept_determined {ε : Type} (fault : ε → Fault) (a : Except ε α) :
    Line.view.Determined (ofExcept fault a : Exchange σ α) := by
  cases a with
  | ok a => exact View.determined_pure a
  | error e => exact View.determined_throw (fault e)

private theorem attempt_determined (hx : Line.view.Determined x) :
    Line.view.Determined x.attempt := by
  intro line
  obtain ⟨t, hrecord, hreplays, hfollows⟩ := hx line
  refine ⟨t, ?_, ?_, ?_⟩
  · rw [final_attempt]
    exact hrecord
  · rw [final_attempt]
    exact hreplays
  · intro other later alike replayed
    obtain ⟨same, -, record, rest⟩ := hfollows other later alike replayed
    refine ⟨?_, trivial, ?_, ?_⟩
    · rw [result_attempt, result_attempt, same]
    · rw [final_attempt]
      exact record
    · rw [final_attempt]
      exact rest

end Exchange

section

variable {σ : Type} [Transport σ] (tuning : Tuning)

private theorem Link.send_determined (command : Command) (arguments : Bytes) :
    Line.view.Determined (send (σ := σ) tuning command arguments) := by
  unfold send
  refine (Exchange.ofExcept_determined _ _).bind fun bytes => ?_
  refine (Line.write_determined _ _).bind fun written => ?_
  split
  · exact View.determined_pure _
  · exact View.determined_throw _

private theorem Link.receive_determined (command : Command) (room : Nat) :
    Line.view.Determined (receive (σ := σ) tuning command room) :=
  (Line.read_determined _ _).bind fun _ => Exchange.ofExcept_determined _ _

private theorem Link.request_determined (command : Command) (arguments : Bytes) (room : Nat) :
    Line.view.Determined (request (σ := σ) tuning command arguments room) :=
  (send_determined tuning command arguments).bind fun _ => receive_determined tuning command room

private theorem Panel.setLock_determined (held : Bool) :
    Line.view.Determined (setLock (σ := σ) tuning held) := by
  unfold setLock
  extract_lets state
  generalize state = state
  refine (Link.request_determined tuning _ _ _).bind fun answer => ?_
  refine (Exchange.ofExcept_determined _ _).bind fun sub => ?_
  split
  · refine View.Determined.checked ?_
    split
    · exact View.determined_pure _
    · exact View.determined_throw _
  · exact View.Determined.checked (View.determined_throw _)

private theorem Panel.whileLocked_determined {α : Type} {work : Exchange σ α}
    (hwork : Line.view.Determined work) : Line.view.Determined (whileLocked tuning work) := by
  unfold whileLocked
  refine (setLock_determined tuning true).bind fun _ => ?_
  refine (Exchange.attempt_determined hwork).bind fun answer => ?_
  split
  · exact (setLock_determined tuning false).bind fun _ => View.determined_pure _
  · exact (Exchange.attempt_determined (setLock_determined tuning false)).bind
      fun _ => View.determined_throw _

theorem Bank.readSnapshot_determined : Line.view.Determined (readSnapshot (σ := σ) tuning) := by
  unfold readSnapshot
  refine (Panel.whileLocked_determined tuning (Link.request_determined tuning _ _ _)).bind
    fun answer => ?_
  split
  · exact View.determined_throw _
  · exact Exchange.ofExcept_determined _ _

theorem askSamples_determined (c : ChannelId) :
    Line.view.Determined (askSamples (σ := σ) tuning c) := by
  unfold askSamples
  refine (Link.request_determined tuning _ _ _).bind fun answer => ?_
  refine (Exchange.ofExcept_determined _ _).bind fun status => ?_
  split
  · exact View.determined_pure _
  · split
    · exact View.determined_throw _
    · split
      · exact View.determined_throw _
      · exact View.determined_pure _

namespace Stream

/-- Receiving a stream as an exchange. It never fails: a stream that breaks off is a value too. -/
def receiving (c : ChannelId) (failures : UInt32) : Exchange σ Stream := fun line =>
  let (stream, line) := receive tuning c failures line
  .ok stream line

/-- What follows the next frame of a stream. -/
def proceed (c : ChannelId) (failures : UInt32) : Except Fault Frame → Exchange σ Stream
  | .error fault => pure ⟨[], .error fault⟩
  | .ok frame =>
    match Chunk.ofFrame frame with
    | .error fault => pure ⟨[], .error (.frame fault)⟩
    | .ok .last => pure ⟨[], .ok ()⟩
    | .ok (.odd _) => pure ⟨[], .ok ()⟩
    | .ok .failed =>
      if tuning.chunkErrorLimit < failures + 1 then
        pure ⟨[], .error (.chunkErrors c (failures + 1))⟩
      else receiving tuning c (failures + 1)
    | .ok (.data bytes) => do
      let later ← receiving tuning c failures
      return ⟨bytes :: later.chunks, later.ending⟩

theorem receiving_eq (c : ChannelId) (failures : UInt32) :
    receiving (σ := σ) tuning c failures =
      (Link.receive tuning .readSamples 10007).attempt >>= proceed tuning c failures := by
  funext line
  show receiving tuning c failures line =
    EStateM.bind (Exchange.attempt (Link.receive tuning .readSamples 10007)) _ line
  unfold EStateM.bind Exchange.attempt
  show EStateM.Result.ok (receive tuning c failures line).1 (receive tuning c failures line).2 = _
  rw [receive]
  split
  · rename_i run
    rw [run]
    rfl
  · rename_i frame after run
    rw [run]
    show _ = proceed tuning c failures (.ok frame) after
    rw [proceed]
    cases Chunk.ofFrame frame with
    | error fault => rfl
    | ok chunk =>
      cases chunk with
      | data | last | odd => rfl
      | failed =>
        dsimp only
        split
        · rfl
        · rfl

theorem receiving_determined (c : ChannelId) (failures : UInt32) :
    Line.view.Determined (receiving (σ := σ) tuning c failures) := by
  intro line
  induction hready : Transport.ready line.device using Nat.strongRecOn
    generalizing failures line with
  | _ ready ih =>
    have attempted :=
      Exchange.attempt_determined (Link.receive_determined tuning .readSamples 10007) line
    obtain ⟨t, ht⟩ := attempted
    rw [receiving_eq]
    refine ht.bind fun answer hanswer => ?_
    rw [Exchange.result_attempt] at hanswer
    rw [Exchange.final_attempt]
    cases answer with
    | error fault => exact View.determined_pure _ _
    | ok frame =>
      have received := eq_ok_of_result (Except.ok.inj hanswer) rfl
      -- A received frame leaves less that can be received.
      have later (failures : UInt32) :=
        ih _ (hready ▸ Link.ready_of_receive received) failures _ rfl
      rw [proceed]
      split
      · exact View.determined_pure _ _
      · exact View.determined_pure _ _
      · exact View.determined_pure _ _
      · split
        · exact View.determined_pure _ _
        · exact later (failures + 1)
      · obtain ⟨u, hu⟩ := later failures
        exact hu.bind fun stream _ => View.determined_pure _ _

end Stream

end

end Oscilloscope
