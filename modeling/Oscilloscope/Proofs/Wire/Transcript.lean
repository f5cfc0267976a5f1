/- Transcripts: the transfers that an exchange adds to the record of its line, together with what
   the exchange comes to. Statements about transcripts hold whatever the instrument does. -/

import Oscilloscope.Proofs.Outcome

set_option autoImplicit false
set_option relaxedAutoImplicit false

namespace Oscilloscope

def Transfer.written? : Transfer → Option Bytes
  | .wrote bytes _ => some bytes
  | _ => none

/-- Everything submitted in a transcript, whether or not it went out. -/
def writes (transcript : List Transfer) : List Bytes :=
  transcript.filterMap Transfer.written?

@[simp] theorem writes_append (t u : List Transfer) : writes (t ++ u) = writes t ++ writes u :=
  List.filterMap_append

@[simp] theorem writes_wrote_cons (bytes : Bytes) (answer : Except Failure Nat)
    (t : List Transfer) : writes (.wrote bytes answer :: t) = bytes :: writes t := rfl

namespace Exchange

variable {σ α β : Type}

/-- Each run of `x` adds a transcript to the record and comes to a result, the two as `P` says. -/
def Meets (x : Exchange σ α) (P : List Transfer → Except Fault α → Prop) : Prop :=
  ∀ line, ∃ transcript, (final x line).record = line.record ++ transcript ∧
    P transcript (result x line)

variable {x : Exchange σ α} {P : List Transfer → Except Fault α → Prop}

theorem meets_pure {a : α} (h : P [] (.ok a)) : Meets (pure a : Exchange σ α) P :=
  fun line => ⟨[], by simp, h⟩

theorem meets_throw {fault : Fault} (h : P [] (.error fault)) :
    Meets (throw fault : Exchange σ α) P :=
  fun line => ⟨[], by simp, h⟩

theorem Meets.bind {f : α → Exchange σ β} {Q : α → List Transfer → Except Fault β → Prop}
    {R : List Transfer → Except Fault β → Prop} (hx : x.Meets P) (hf : ∀ a, (f a).Meets (Q a))
    (stopped : ∀ t fault, P t (.error fault) → R t (.error fault))
    (followed : ∀ t a u r, P t (.ok a) → Q a u r → R (t ++ u) r) : Meets (x >>= f) R := by
  intro line
  obtain ⟨t, hrecord, hp⟩ := hx line
  cases hr : result x line with
  | error fault =>
    rw [hr] at hp
    refine ⟨t, ?_, ?_⟩
    · rw [final_bind_error hr, hrecord]
    · rw [result_bind_error hr]
      exact stopped t fault hp
  | ok a =>
    rw [hr] at hp
    obtain ⟨u, hnext, hq⟩ := hf a (final x line)
    refine ⟨t ++ u, ?_, ?_⟩
    · rw [final_bind_ok hr, hnext, hrecord, List.append_assoc]
    · rw [result_bind_ok hr]
      exact followed t a u _ hp hq

@[simp] theorem result_ofExcept {ε : Type} (fault : ε → Fault) (a : Except ε α) (line : Line σ) :
    result (ofExcept fault a) line = a.mapError fault := by
  cases a <;> rfl

@[simp] theorem final_ofExcept {ε : Type} (fault : ε → Fault) (a : Except ε α) (line : Line σ) :
    final (ofExcept fault a) line = line := by
  cases a <;> rfl

theorem meets_ofExcept {ε : Type} {fault : ε → Fault} {a : Except ε α}
    (h : P [] (a.mapError fault)) : Meets (ofExcept fault a : Exchange σ α) P := by
  intro line
  refine ⟨[], ?_, ?_⟩
  · rw [final_ofExcept, List.append_nil]
  · rw [result_ofExcept]
    exact h

@[simp] theorem result_attempt (x : Exchange σ α) (line : Line σ) :
    result x.attempt line = .ok (result x line) := by
  unfold result attempt
  cases x line <;> rfl

@[simp] theorem final_attempt (x : Exchange σ α) (line : Line σ) :
    final x.attempt line = final x line := by
  unfold final attempt
  cases x line <;> rfl

theorem Meets.attempt (hx : x.Meets P) :
    x.attempt.Meets fun t r => ∃ inner, P t inner ∧ r = .ok inner := by
  intro line
  obtain ⟨t, hrecord, hp⟩ := hx line
  refine ⟨t, ?_, result x line, hp, ?_⟩
  · rw [final_attempt, hrecord]
  · rw [result_attempt]

end Exchange

namespace Line

theorem result_of_conclude {σ α : Type} {x : Exchange σ α} {operation : Operation}
    {limit : Duration} {line after : Line σ} {answer : Except Failure α}
    (h : x line = conclude operation limit after answer) :
    result x line = answer.mapError fun f => .link (f.during operation limit) := by
  unfold result
  rw [h]
  cases answer <;> rfl

theorem final_of_conclude {σ α : Type} {x : Exchange σ α} {operation : Operation}
    {limit : Duration} {line after : Line σ} {answer : Except Failure α}
    (h : x line = conclude operation limit after answer) : final x line = after := by
  unfold final
  rw [h]
  cases answer <;> rfl

variable {σ : Type} [Transport σ]

theorem write_meets (limit : Duration) (bytes : Bytes) :
    (write (σ := σ) limit bytes).Meets fun t r =>
      ∃ answer, t = [.wrote bytes answer] ∧
        r = answer.mapError fun f => .link (f.during .write limit) := by
  intro line
  have run : write limit bytes line = conclude .write limit
      ⟨(Transport.write line.device bytes).2,
        line.record ++ [.wrote bytes (Transport.write line.device bytes).1]⟩
      (Transport.write line.device bytes).1 := rfl
  refine ⟨_, ?_, (Transport.write line.device bytes).1, rfl, result_of_conclude run⟩
  rw [final_of_conclude run]

theorem read_meets (limit : Duration) (room : Nat) :
    (read (σ := σ) limit room).Meets fun t r =>
      ∃ answer : Except Failure Bytes, t = [.read room answer] ∧
        (∀ bytes, answer = .ok bytes → bytes.length ≤ room) ∧
        r = answer.mapError fun f => .link (f.during .read limit) := by
  intro line
  let answer := (Transport.read line.device room).1.map fun bytes => bytes.take room
  have run : read limit room line = conclude .read limit
      ⟨(Transport.read line.device room).2, line.record ++ [.read room answer]⟩ answer := rfl
  refine ⟨[.read room answer], ?_, answer, rfl, ?_, result_of_conclude run⟩
  · rw [final_of_conclude run]
  · intro bytes hbytes
    cases hread : (Transport.read line.device room).1 with
    | error f => simp [answer, hread, Except.map] at hbytes
    | ok received =>
      have hcut : received.take room = bytes := by simpa [answer, hread, Except.map] using hbytes
      rw [← hcut, List.length_take]
      omega

end Line

end Oscilloscope
