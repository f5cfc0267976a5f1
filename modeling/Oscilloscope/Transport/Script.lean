/- Connections that play back what they were told to. -/

import Oscilloscope.Text.Hex
import Oscilloscope.Transport.Basic

set_option autoImplicit false
set_option relaxedAutoImplicit false

namespace Oscilloscope

/-- What each operation will answer. A read after the last one listed times out, and a write after
the last one listed sends all bytes. Every write or read takes as much time as the others. -/
structure Script where
  reads : List (Except Failure Bytes) := []
  writes : List (Option (Except Failure Nat)) := []
  openFailure : Option Failure := none
  claimFailure : Option Failure := none
  closeFailure : Option Failure := none
  connectionId : Option String := none
  /-- Milliseconds on the host's clock. -/
  clock : Nat := 0
  /-- Milliseconds that a write or a read takes. -/
  pace : Nat := 0

namespace Script

/-- One transfer a line in hexadecimal digits; any other line stands for a timeout. -/
def ofLines (lines : List String) : Script :=
  { reads := lines.map fun line =>
      match Text.ofHex? line.toList with
      | some bytes => .ok bytes
      | none => .error .timeout }

def outcome : Option Failure → Except Failure Unit
  | none => .ok ()
  | some f => .error f

def read (s : Script) : Except Failure Bytes × Script :=
  let later := s.clock + s.pace
  match s.reads with
  | [] => (.error .timeout, { s with clock := later })
  | r :: rest => (r, { s with reads := rest, clock := later })

def write (s : Script) (bs : Bytes) : Except Failure Nat × Script :=
  let later := s.clock + s.pace
  match s.writes with
  | [] => (.ok bs.length, { s with clock := later })
  | w :: rest => (w.getD (.ok bs.length), { s with writes := rest, clock := later })

instance : Transport Script where
  opening s := (outcome s.openFailure, s)
  claim s := (outcome s.claimFailure, s)
  close s := (outcome s.closeFailure, s)
  write s bs := s.write bs
  read s _ := s.read
  connectionId s := s.connectionId
  now s := s.clock
  ready s := s.reads.length
  ready_read s n b s' h := by
    unfold read at h
    split at h
    · simp at h
    · rename_i r rest hreads
      simp only [Prod.mk.injEq] at h
      simp [← h.2, hreads]

end Script

/-- A connection to an instrument that was never found. -/
inductive Detached
  | detached

instance : Transport Detached where
  opening s := (.error .notFound, s)
  claim s := (.error .notOpen, s)
  close s := (.ok (), s)
  write s _ := (.error .notOpen, s)
  read s _ := (.error .notOpen, s)
  connectionId _ := none
  now _ := 0
  ready _ := 0
  ready_read _ _ _ _ h := by simp at h

end Oscilloscope
