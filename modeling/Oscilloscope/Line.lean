/- A connection with the record of what was done on it. -/

import Oscilloscope.Fault
import Oscilloscope.Transport.Basic

set_option autoImplicit false
set_option relaxedAutoImplicit false

namespace Oscilloscope

/-- One operation on the connection and how it ended. -/
inductive Transfer
  | sought (connection : Option String)
  | opened (result : Except Failure Unit)
  | claimed (result : Except Failure Unit)
  | closed (result : Except Failure Unit)
  | wrote (bytes : Bytes) (result : Except Failure Nat)
  | read (room : Nat) (result : Except Failure Bytes)

/-- A connection and everything done on it so far, oldest first. -/
structure Line (σ : Type) where
  device : σ
  record : List Transfer := []

/-- Work on a line that yields a value or a fault; the line has moved on in either case. -/
abbrev Exchange (σ : Type) := EStateM Fault (Line σ)

namespace Exchange

variable {σ α : Type}

def ofExcept {ε : Type} (fault : ε → Fault) : Except ε α → Exchange σ α
  | .ok a => pure a
  | .error e => throw (fault e)

/-- Runs `x` and hands on its fault as a value. -/
def attempt (x : Exchange σ α) : Exchange σ (Except Fault α) := fun line =>
  match x line with
  | .ok a line => .ok (.ok a) line
  | .error e line => .ok (.error e) line

end Exchange

theorem bind_eq_ok {ε σ α β : Type} {x : EStateM ε σ α} {f : α → EStateM ε σ β} {s t : σ} {b : β} :
    (x >>= f) s = .ok b t ↔ ∃ a u, x s = .ok a u ∧ f a u = .ok b t := by
  show EStateM.bind x f s = .ok b t ↔ _
  unfold EStateM.bind
  cases x s with
  | ok a u =>
    constructor
    · exact fun h => ⟨a, u, rfl, h⟩
    · rintro ⟨_, _, hx, hf⟩
      cases hx
      exact hf
  | error e u => simp

theorem Exchange.ofExcept_eq_ok {ε σ α : Type} {fault : ε → Fault} {x : Except ε α} {a : α}
    {s t : Line σ} : Exchange.ofExcept fault x s = .ok a t ↔ x = .ok a ∧ s = t := by
  cases x with
  | ok b =>
    show EStateM.Result.ok b s = .ok a t ↔ _
    simp
  | error e =>
    show EStateM.Result.error (fault e) s = .ok a t ↔ _
    simp

namespace Line

variable {σ : Type} [Transport σ]

/-- A failure becomes the fault of its operation. -/
def conclude {α : Type} (operation : Operation) (limit : Duration) (line : Line σ) :
    Except Failure α → EStateM.Result Fault (Line σ) α
  | .ok a => .ok a line
  | .error f => .error (.link (f.during operation limit)) line

def opening : Exchange σ Unit := fun line =>
  let (result, device) := Transport.opening line.device
  conclude .opening ⟨0⟩ ⟨device, line.record ++ [.opened result]⟩ result

def claim : Exchange σ Unit := fun line =>
  let (result, device) := Transport.claim line.device
  conclude .claim ⟨0⟩ ⟨device, line.record ++ [.claimed result]⟩ result

def close : Exchange σ Unit := fun line =>
  let (result, device) := Transport.close line.device
  conclude .close ⟨0⟩ ⟨device, line.record ++ [.closed result]⟩ result

/-- Submits `bytes` and yields how many of them were sent. -/
def write (limit : Duration) (bytes : Bytes) : Exchange σ Nat := fun line =>
  let (result, device) := Transport.write line.device bytes
  conclude .write limit ⟨device, line.record ++ [.wrote bytes result]⟩ result

/-- Receives one transfer; of a longer one only the first `room` bytes are kept. -/
def read (limit : Duration) (room : Nat) : Exchange σ Bytes := fun line =>
  let (answer, device) := Transport.read line.device room
  let result := answer.map fun bytes => bytes.take room
  conclude .read limit ⟨device, line.record ++ [.read room result]⟩ result

theorem ready_of_read {limit : Duration} {room : Nat} {line line' : Line σ} {bytes : Bytes}
    (h : read limit room line = .ok bytes line') :
    Transport.ready line'.device < Transport.ready line.device := by
  have hread := Transport.ready_read line.device room
  unfold read at h
  rcases hr : Transport.read line.device room with ⟨answer, device⟩
  rw [hr] at h hread
  cases answer with
  | error e => simp [Except.map, conclude] at h
  | ok received =>
    simp only [Except.map, conclude, EStateM.Result.ok.injEq] at h
    rw [← h.2]
    exact hread received device rfl

end Line

end Oscilloscope
