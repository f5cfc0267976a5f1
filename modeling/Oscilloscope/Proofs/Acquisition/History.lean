/- The events of a session as the acquisitions that they tell of. All but the last acquisition have
   ended, and the events alone say whether the last one has. -/

import Oscilloscope.Acquisition.Event

set_option autoImplicit false
set_option relaxedAutoImplicit false

namespace Oscilloscope

/-- The chunks of one frame: the samples of each and the decimal places worth showing. -/
abbrev Sweep := List (List Float32 × Int32)

/-- What an acquisition is made of. All chunks of a frame belong to one channel. -/
inductive Block
  | change (setting : Setting) (value : Value)
  | frame (channel : ChannelId) (sweep : Sweep)

def Block.events : Block → List Event
  | .change x value => [.changed x value]
  | .frame c sweep =>
    .frameBegin :: sweep.map (fun chunk => .data ⟨c, chunk.1, chunk.2⟩) ++ [.frameEnd]

/-- The acquisitions of a session. A running one comes last and has no end yet. -/
structure History where
  ended : List (List Block) := []
  running : Option (List Block) := none

namespace History

def opening (blocks : List Block) : List Event :=
  .header :: blocks.flatMap Block.events

def events (h : History) : List Event :=
  h.ended.flatMap (fun blocks => opening blocks ++ [.ended]) ++ h.running.toList.flatMap opening

def start (h : History) : History :=
  { h with running := some [] }

def add (h : History) (blocks : List Block) : History :=
  { h with running := h.running.map (· ++ blocks) }

def finish (h : History) : History :=
  { ended := h.ended ++ h.running.toList }

private theorem opening_append (blocks later : List Block) :
    opening (blocks ++ later) = opening blocks ++ later.flatMap Block.events := by
  rw [opening, List.flatMap_append, opening, List.cons_append]

theorem events_start {h : History} (idle : h.running = none) :
    h.start.events = h.events ++ [.header] := by
  rw [events, events, idle]
  simp [start, opening]

theorem events_add {h : History} {sofar : List Block} (running : h.running = some sofar)
    (blocks : List Block) : (h.add blocks).events = h.events ++ blocks.flatMap Block.events := by
  rw [events, events, add, running]
  simp [opening_append]

theorem events_finish {h : History} {sofar : List Block} (running : h.running = some sofar) :
    h.finish.events = h.events ++ [.ended] := by
  rw [events, events, finish, running]
  simp

end History

/-- Whether an acquisition is running after an event, if `running` says so before it. -/
def Event.runsAfter (running : Bool) : Event → Bool
  | .header => true
  | .ended => false
  | _ => running

private theorem foldl_runsAfter_blocks (running : Bool) (blocks : List Block) :
    (blocks.flatMap Block.events).foldl Event.runsAfter running = running := by
  have inside (b : Block) : b.events.foldl Event.runsAfter running = running := by
    cases b with
    | change x value => rfl
    | frame c sweep =>
      have chunks : (sweep.map fun chunk => Event.data ⟨c, chunk.1, chunk.2⟩).foldl
          Event.runsAfter running = running := by
        induction sweep with
        | nil => rfl
        | cons chunk rest ih => exact ih
      rw [Block.events, List.foldl_append]
      exact chunks
  induction blocks with
  | nil => rfl
  | cons b rest ih => rw [List.flatMap_cons, List.foldl_append, inside b, ih]

private theorem foldl_runsAfter_opening (running : Bool) (blocks : List Block) :
    (History.opening blocks).foldl Event.runsAfter running = true :=
  foldl_runsAfter_blocks true blocks

theorem History.foldl_runsAfter_events (h : History) :
    h.events.foldl Event.runsAfter false = h.running.isSome := by
  have closed (runs : List (List Block)) :
      (runs.flatMap fun blocks => opening blocks ++ [.ended]).foldl Event.runsAfter false =
        false := by
    induction runs with
    | nil => rfl
    | cons blocks rest ih =>
      rw [List.flatMap_cons, List.foldl_append, List.foldl_append, foldl_runsAfter_opening]
      exact ih
  rw [events, List.foldl_append, closed]
  cases h.running with
  | none => rfl
  | some blocks =>
    rw [Option.toList_some, List.flatMap_singleton, foldl_runsAfter_opening, Option.isSome_some]

/-- What one tick adds to a running acquisition: a change first, then a frame of each channel. -/
structure Round where
  change : Option (Setting × Value) := none
  first : Option Sweep := none
  second : Option Sweep := none

def Round.blocks (round : Round) : List Block :=
  round.change.toList.map (fun change => .change change.1 change.2) ++
    (round.first.toList.map (.frame .ch1) ++ round.second.toList.map (.frame .ch2))

def Round.events (round : Round) : List Event :=
  round.blocks.flatMap Block.events

end Oscilloscope
