/- An opened oscilloscope: its registers, the running acquisition, and the session watching it. -/

import Oscilloscope.Acquisition.Event
import Oscilloscope.Acquisition.Limits
import Oscilloscope.Bank

set_option autoImplicit false
set_option relaxedAutoImplicit false

namespace Oscilloscope

/-- What stays fixed while an oscilloscope is open. -/
structure Handle where
  tuning : Tuning
  connectionId : Option String

/-- Everything that calls change. -/
structure Scope (σ : Type) where
  bank : Bank σ
  phase : Phase := .idle
  /-- The snapshot as far as it was told to the session; none before the first one of a run. -/
  baseline : Option Snapshot := none
  limits : Limits := {}
  /-- All events so far, oldest first. -/
  events : List Event := []
  /-- Interval at which the session has to tick, while it has to. -/
  ticker : Option Duration := none

abbrev Work (σ : Type) := EStateM Fault (Scope σ)

namespace Scope

variable {σ α : Type}

def ofLine (line : Line σ) : Scope σ :=
  { bank := { line } }

def onBank (x : BankWork σ α) : Work σ α := fun scope =>
  match x scope.bank with
  | .ok a bank => .ok a { scope with bank }
  | .error e bank => .error e { scope with bank }

def onLine (x : Exchange σ α) : Work σ α :=
  onBank (Bank.onLine x)

def ofExcept : Except Fault α → Work σ α
  | .ok a => pure a
  | .error fault => throw fault

def emit (events : List Event) : Work σ Unit :=
  modify fun scope => { scope with events := scope.events ++ events }

/-- The snapshot last read from the instrument, without using the line. -/
def shadow (scope : Scope σ) : Snapshot :=
  scope.bank.shadow

end Scope

/-- Opens and claims a connection. What cannot be claimed is closed again, as well as that goes. -/
def Handle.connect {σ : Type} [Transport σ] (tuning : Tuning) : Exchange σ Handle := do
  Line.opening
  match ← Exchange.attempt Line.claim with
  | .ok () => return ⟨tuning, Transport.connectionId (← get).device⟩
  | .error fault =>
    let _ ← Exchange.attempt Line.close
    throw fault

end Oscilloscope
