/- Reading through a buffer. The host keeps one for all its reads, so that bytes of earlier ones are
   still in it when it is read into again. -/

import Oscilloscope.Transport.Basic

set_option autoImplicit false
set_option relaxedAutoImplicit false

namespace Oscilloscope

/-- A connection and the buffer that it is read through. -/
structure Buffered (σ : Type) where
  device : σ
  buffer : Bytes := []

namespace Buffered

/-- Makes the buffer so long. It loses bytes at its end or gets zeros there. -/
def resize (room : Nat) (buffer : Bytes) : Bytes :=
  buffer.take room ++ List.replicate (room - buffer.length) 0

/-- Copies as much of a transfer to the front of the buffer as fits, and counts the bytes. -/
def fill (transfer buffer : Bytes) : Nat × Bytes :=
  let received := min transfer.length buffer.length
  (received, transfer.take received ++ buffer.drop received)

variable {σ : Type} [Transport σ]

/-- What is received is the counted part of the buffer. -/
def read (s : Buffered σ) (room : Nat) : Except Failure Bytes × Buffered σ :=
  let buffer := resize room s.buffer
  match Transport.read s.device room with
  | (.ok transfer, device) =>
    let (received, buffer) := fill transfer buffer
    (.ok (buffer.take received), ⟨device, buffer⟩)
  | (.error f, device) => (.error f, ⟨device, buffer⟩)

def passing {α : Type} (s : Buffered σ) (answer : α × σ) : α × Buffered σ :=
  (answer.1, { s with device := answer.2 })

instance : Transport (Buffered σ) where
  opening s := s.passing (Transport.opening s.device)
  claim s := s.passing (Transport.claim s.device)
  close s := s.passing (Transport.close s.device)
  write s bytes := s.passing (Transport.write s.device bytes)
  read := read
  connectionId s := Transport.connectionId s.device
  now s := Transport.now s.device
  ready s := Transport.ready s.device
  ready_read s room bytes s' h := by
    unfold read at h
    split at h
    · rename_i transfer device hread
      cases h
      exact Transport.ready_read s.device room transfer device hread
    · cases h

end Buffered

end Oscilloscope
