/- The registers of the instrument as read and written over a line, and the snapshot last read. -/

import Oscilloscope.Panel
import Oscilloscope.Snapshot.Codec

set_option autoImplicit false
set_option relaxedAutoImplicit false

namespace Oscilloscope

/-- A line and the snapshot that readers see without using it; none before the first reading. -/
structure Bank (σ : Type) where
  line : Line σ
  published : Option Snapshot := none

abbrev BankWork (σ : Type) := EStateM Fault (Bank σ)

namespace Bank

variable {σ α : Type}

def onLine (x : Exchange σ α) : BankWork σ α := fun bank =>
  match x bank.line with
  | .ok a line => .ok a { bank with line }
  | .error e line => .error e { bank with line }

/-- The published snapshot; before the first reading all registers show zero. -/
def shadow (bank : Bank σ) : Snapshot :=
  bank.published.getD .zero

def publish (s : Snapshot) : BankWork σ Unit :=
  modify fun bank => { bank with published := some s }

variable [Transport σ]

/-- Reads a snapshot between locking and unlocking the panel. An answer of a single byte is the
status with which the instrument refuses. -/
def readSnapshot (tuning : Tuning) : Exchange σ Snapshot := do
  let answer ← Panel.whileLocked tuning (Link.request tuning .readRegisters [] 512)
  match answer.payload with
  | [status] => throw (.status ⟨status⟩)
  | payload => Exchange.ofExcept .frame (Snapshot.decode payload)

/-- Writes all registers, without the panel lock; the first byte of the answer must be zero. -/
def writeSnapshot (tuning : Tuning) (s : Snapshot) : Exchange σ Unit := do
  let answer ← Link.request tuning .writeRegisters s.encode 32
  let status ← Exchange.ofExcept .frame answer.subCommand
  if status = 0 then return () else throw (.status ⟨status⟩)

def fetch (tuning : Tuning) : BankWork σ Snapshot :=
  onLine (readSnapshot tuning)

def refresh (tuning : Tuning) : BankWork σ Snapshot := do
  let s ← fetch tuning
  publish s
  return s

def commit (tuning : Tuning) (s : Snapshot) : BankWork σ Unit :=
  onLine (writeSnapshot tuning s)

/-- Writes back a changed copy of a fresh snapshot. The fresh one stays published: what was written
is only known once it is read again. -/
def revise (tuning : Tuning) (change : Snapshot → Except Fault Snapshot) : BankWork σ Snapshot := do
  let current ← refresh tuning
  match change current with
  | .error fault => throw fault
  | .ok pending =>
    commit tuning pending
    return pending

end Bank

end Oscilloscope
