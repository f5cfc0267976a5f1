/- Framed requests and answers over a line. -/

import Oscilloscope.Line
import Oscilloscope.Tuning

set_option autoImplicit false
set_option relaxedAutoImplicit false

namespace Oscilloscope.Link

variable {σ : Type} [Transport σ]

/-- Sends one request, which counts only when every byte of it was sent. -/
def send (tuning : Tuning) (command : Command) (arguments : Bytes) : Exchange σ Unit := do
  let bytes ← Exchange.ofExcept .frame (Frame.encode ⟨tuning.marker, command.byte, arguments⟩)
  let written ← Line.write tuning.sendTimeout bytes
  if written = bytes.length then return ()
  else throw (.link (.shortWrite written bytes.length))

def receive (tuning : Tuning) (command : Command) (room : Nat) : Exchange σ Frame := do
  let bytes ← Line.read tuning.receiveTimeout room
  Exchange.ofExcept .frame (Frame.decode bytes >>= fun f => f.answering command)

def request (tuning : Tuning) (command : Command) (arguments : Bytes) (room : Nat) :
    Exchange σ Frame := do
  send tuning command arguments
  receive tuning command room

theorem ready_of_receive {tuning : Tuning} {command : Command} {room : Nat} {line line' : Line σ}
    {f : Frame} (h : receive tuning command room line = .ok f line') :
    Transport.ready line'.device < Transport.ready line.device := by
  obtain ⟨bytes, middle, hread, hanswer⟩ := bind_eq_ok.1 h
  rw [← (Exchange.ofExcept_eq_ok.1 hanswer).2]
  exact Line.ready_of_read hread

end Oscilloscope.Link
