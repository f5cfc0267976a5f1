/- The sample stream of one frame, which arrives in chunks. -/

import Oscilloscope.Link

set_option autoImplicit false
set_option relaxedAutoImplicit false

namespace Oscilloscope

inductive Chunk
  | data (bytes : Bytes)
  | last
  | failed
  | odd (code : UInt8)
  deriving DecidableEq

/-- Sub-command and sequence number stand in front of the sample bytes. -/
def Chunk.ofFrame (f : Frame) : Except FrameFault Chunk := do
  let code ← f.subCommand
  if code = 1 then return .data (f.payload.drop 2)
  else if code = 2 then return .last
  else if code = 3 then return .failed
  else return .odd code

/-- The sample bytes of each data chunk in order of arrival, and how the stream ended. -/
structure Stream where
  chunks : List Bytes
  ending : Except Fault Unit

namespace Stream

variable {σ : Type} [Transport σ]

def sampleCount (s : Stream) : UInt64 :=
  .ofNat s.chunks.flatten.length

/-- Receives chunks until the last one, an odd one, a fault, or one failed chunk too many after
`failures` of them. -/
def receive (tuning : Tuning) (channel : ChannelId) (failures : UInt32) (line : Line σ) :
    Stream × Line σ :=
  match _h : Link.receive tuning .readSamples 10007 line with
  | .error fault line => (⟨[], .error fault⟩, line)
  | .ok frame line =>
    match Chunk.ofFrame frame with
    | .error fault => (⟨[], .error (.frame fault)⟩, line)
    | .ok .last => (⟨[], .ok ()⟩, line)
    | .ok (.odd _) => (⟨[], .ok ()⟩, line)
    | .ok .failed =>
      if tuning.chunkErrorLimit < failures + 1 then
        (⟨[], .error (.chunkErrors channel (failures + 1))⟩, line)
      else receive tuning channel (failures + 1) line
    | .ok (.data bytes) =>
      let (later, line) := receive tuning channel failures line
      (⟨bytes :: later.chunks, later.ending⟩, line)
termination_by Transport.ready line.device
decreasing_by all_goals exact Link.ready_of_receive ‹_›

end Stream

/-- Asks for the samples of a channel: whether there are any. The length that a ready answer
declares must be there but is not relied on. -/
def askSamples {σ : Type} [Transport σ] (tuning : Tuning) (channel : ChannelId) :
    Exchange σ Bool := do
  let answer ← Link.request tuning .readSamples [1, .ofNat channel.index] 128
  let status ← Exchange.ofExcept .frame answer.subCommand
  if status = 3 then return false
  else if status ≠ 0 then throw (.frame (.subCommand 0 status))
  else if answer.payload.length < 4 then throw (.frame (.tooShort answer.payload.length))
  else return true

end Oscilloscope
