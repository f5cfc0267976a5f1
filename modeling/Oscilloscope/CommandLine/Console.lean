/- Events of an acquisition as lines of text. -/

import Oscilloscope.Acquisition.Event
import Oscilloscope.Decimal.Fixed

set_option autoImplicit false
set_option relaxedAutoImplicit false

namespace Oscilloscope.CommandLine

def padLeft (width : Nat) (text : String) : String :=
  String.ofList (List.replicate (width - text.length) ' ') ++ text

def rule : String :=
  String.ofList (List.replicate 80 '-')

/-- Least sample, or infinity without one. -/
def least (samples : List Float32) : Float32 :=
  samples.foldl (fun m x => if x < m then x else m) (1.0 / 0.0)

/-- Greatest sample, or minus infinity without one. -/
def greatest (samples : List Float32) : Float32 :=
  samples.foldl (fun m x => if m < x then x else m) (-1.0 / 0.0)

/-- Every sample on a line of its own, or one line about the chunk, in frame number `frame`. -/
def packetLines (dump : Bool) (frame : UInt64) (p : Packet) : List String :=
  let volts (x : Float32) : String := Decimal.singleFixed p.digits.toInt.toNat x
  let name := channelName p.channel.index
  if dump then p.samples.map fun x => name ++ " " ++ volts x
  else
    ["frame " ++ padLeft 4 (toString frame.toNat) ++ "  " ++ name ++ "  " ++
      padLeft 5 (toString p.samples.length) ++ " samples  min " ++ volts (least p.samples) ++
      " V  max " ++ volts (greatest p.samples) ++ " V"]

/-- The lines for one event, after `frames` begun frames. -/
def eventLines (dump : Bool) (frames : UInt64) : Event → List String
  | .header => [rule]
  | .frameBegin => []
  | .data p => packetLines dump frames p
  | .frameEnd => []
  | .changed x value =>
    let place := match x.channel? with
      | some c => channelName c.index ++ " "
      | none => ""
    [place ++ x.key.name ++ " changed to " ++ value.display]
  | .ended => [rule, toString frames.toNat ++ " frames received"]

def eventsLines (dump : Bool) : UInt64 → List Event → List String
  | _, [] => []
  | frames, e :: rest =>
    let begun := match e with
      | .frameBegin => frames + 1
      | _ => frames
    eventLines dump begun e ++ eventsLines dump begun rest

end Oscilloscope.CommandLine
