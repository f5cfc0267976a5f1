/- The lock of the front panel around register reads. -/

import Oscilloscope.Link

set_option autoImplicit false
set_option relaxedAutoImplicit false

namespace Oscilloscope.Panel

variable {σ : Type} [Transport σ]

/-- Locks or unlocks the front panel. The answer must repeat both the sub-command and the state. -/
def setLock (tuning : Tuning) (held : Bool) : Exchange σ Unit := do
  let state : UInt8 := if held then 1 else 0
  let answer ← Link.request tuning .lock [1, state] 128
  let sub ← Exchange.ofExcept .frame answer.subCommand
  if sub ≠ 1 then throw (.frame (.subCommand 1 sub))
  match answer.payload with
  | _ :: echoed :: _ =>
    if echoed = state then return () else throw (.frame (.lockEcho state echoed))
  | _ => throw (.frame (.tooShort answer.payload.length))

/-- Runs `work` with the panel locked and unlocks it in every case. A fault of `work` outweighs one
of the unlocking. -/
def whileLocked {α : Type} (tuning : Tuning) (work : Exchange σ α) : Exchange σ α := do
  setLock tuning true
  match ← work.attempt with
  | .ok a =>
    setLock tuning false
    return a
  | .error fault =>
    let _ ← (setLock tuning false).attempt
    throw fault

end Oscilloscope.Panel
