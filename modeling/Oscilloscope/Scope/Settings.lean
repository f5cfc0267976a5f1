/- Reading and changing settings, and what else can be asked of an open oscilloscope. -/

import Oscilloscope.Scope.Basic
import Oscilloscope.Setting.Address
import Oscilloscope.Setting.Apply
import Oscilloscope.Setting.Choices
import Oscilloscope.Setting.Describe

set_option autoImplicit false
set_option relaxedAutoImplicit false

namespace Oscilloscope.Scope

variable {σ : Type} [Transport σ]

def refresh (handle : Handle) : Work σ Snapshot :=
  onBank (Bank.refresh handle.tuning)

/-- The published snapshot while an acquisition keeps it current, otherwise a fresh one. -/
def snapshot (handle : Handle) : Work σ Snapshot := do
  let scope ← get
  if scope.phase = .capturing then return scope.shadow else refresh handle

def model (handle : Handle) : Work σ Model :=
  return (← snapshot handle).model

def channel (handle : Handle) (index : Nat) : Work σ Channel := do
  let s ← snapshot handle
  match ChannelId.ofIndex? index with
  | some c => ofExcept (s.channel c)
  | none => throw (.argument (.noChannel index))

def echo (handle : Handle) (bytes : Bytes) : Work σ Bytes := do
  let answer ← onLine (Link.request handle.tuning .echo bytes 512)
  return answer.payload

/-- The value of a key. Only values that registers hold need the line. -/
def getValue (handle : Handle) (key : Key) (index : Option Nat) : Work σ Value := do
  match ← ofExcept (key.address index) with
  | .device .connection =>
    match handle.connectionId with
    | some id => return .text id
    | none => throw (.notApplicable key)
  | .device (.limit kind) => return .natural ((← get).limits.limit kind)
  | .device .verticalDivisions => return .integer 11
  | x => ofExcept ((← snapshot handle).describe x)

/-- Changes one setting. Registers are changed in a snapshot read for the purpose, also during an
acquisition. -/
def setValue (handle : Handle) (key : Key) (index : Option Nat) (value : Value) : Work σ Unit := do
  let x ← ofExcept (key.address index)
  if !key.capabilities.set then throw (.notApplicable key)
  match x with
  | .device (.limit kind) =>
    match value.natural? with
    | some n => modify fun scope => { scope with limits := scope.limits.setLimit kind n }
    | none => throw (.argument (.naturalExpected key))
  | _ =>
    let _ ← onBank (Bank.revise handle.tuning fun s => s.apply x value)

def listValues (handle : Handle) (key : Key) (index : Option Nat) : Work σ Value := do
  let x ← ofExcept (key.address index)
  if !key.capabilities.list then throw (.notApplicable key)
  match x.fixedChoices? with
  | some choices => return choices
  | none => ofExcept ((← snapshot handle).choices x)

end Oscilloscope.Scope
