/- Running an acquisition: start, ticks at the interval asked for, and stop. -/

import Oscilloscope.Acquisition.Change
import Oscilloscope.Acquisition.Chunk
import Oscilloscope.Scope.Basic

set_option autoImplicit false
set_option relaxedAutoImplicit false

namespace Oscilloscope.Scope

variable {σ : Type} [Transport σ]

def now (scope : Scope σ) : Nat :=
  Transport.now scope.bank.line.device

def start (handle : Handle) : Work σ Unit := do
  let phase := (← get).phase
  if phase ≠ .idle then throw (.busy phase)
  modify fun scope =>
    { scope with
      phase := .capturing
      baseline := scope.bank.published
      limits := scope.limits.start scope.now
      events := scope.events ++ [.header]
      ticker := some handle.tuning.pollInterval }

def requestStop : Work σ Unit :=
  modify fun scope => if scope.phase = .capturing then { scope with phase := .stopping } else scope

def finish : Work σ Unit :=
  modify fun scope =>
    { scope with phase := .idle, events := scope.events ++ [.ended], ticker := none }

/-- Tells at most one change since the baseline. Without a baseline `fresh` becomes it. -/
def tellChange (fresh : Snapshot) : Work σ Unit := do
  match (← get).baseline with
  | none => modify fun scope => { scope with baseline := some fresh }
  | some baseline =>
    let report := Report.of baseline fresh
    modify fun scope => { scope with baseline := some report.baseline }
    match ← ofExcept report.told with
    | some (x, value) => emit [.changed x value]
    | none => return ()

/-- Reads a frame of a channel if it is shown and has new samples. A frame once begun is closed
also when its stream breaks off, but only a whole one is counted. -/
def readFrame (handle : Handle) (fresh : Snapshot) (c : ChannelId) : Work σ Unit := do
  if fresh.channelEnabled c then
    let channel ← ofExcept (fresh.channel c)
    if ← onLine (askSamples handle.tuning c) then
      let stream ← onLine fun line =>
        let (stream, line) := Stream.receive handle.tuning c 0 line
        .ok stream line
      let packet (bytes : Bytes) : Event := .data ⟨c, channel.decodeChunk bytes, channel.digits⟩
      emit (.frameBegin :: stream.chunks.map packet ++ [.frameEnd])
      ofExcept stream.ending
      modify fun scope =>
        { scope with limits := (scope.limits.countSamples stream.sampleCount).countFrames 1 }

/-- One round of a running acquisition: snapshot, change, one frame a channel, limits. -/
def capture (handle : Handle) : Work σ Unit := do
  let fresh ← onBank (Bank.fetch handle.tuning)
  tellChange fresh
  onBank (Bank.publish fresh)
  readFrame handle fresh .ch1
  readFrame handle fresh .ch2
  let scope ← get
  if scope.limits.exceeded scope.now then requestStop

/-- Runs `x`; a fault of it ends the acquisition. -/
def endingOnFault {α : Type} (x : Work σ α) : Work σ α := fun scope =>
  match x scope with
  | .ok a scope => .ok a scope
  | .error fault scope => (do finish; throw fault) scope

/-- One tick, which yields the phase after it. -/
def tick (handle : Handle) : Work σ Phase := do
  match (← get).phase with
  | .idle => return .idle
  | .stopping =>
    finish
    return .idle
  | .capturing =>
    endingOnFault (capture handle)
    return (← get).phase

end Oscilloscope.Scope
