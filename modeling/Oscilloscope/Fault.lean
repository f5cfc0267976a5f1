/- Everything that can go wrong with an instrument, by cause, and the message for each. -/

import Oscilloscope.Acquisition.Phase
import Oscilloscope.Code.Horizontal
import Oscilloscope.Code.Model
import Oscilloscope.Code.Trigger
import Oscilloscope.Frame
import Oscilloscope.Setting.Value
import Oscilloscope.Transport.Failure

set_option autoImplicit false
set_option relaxedAutoImplicit false

namespace Oscilloscope

/-- Registers that hold a code of a closed table. -/
inductive CodedRegister
  | range | coupling | probe | triggerSource | triggerSlope | mainTimebase | windowTimebase
  | memoryDepth | acquireMode | averageCount
  deriving DecidableEq

def CodedRegister.name : CodedRegister → String
  | .range => "vert.vb"
  | .coupling => "vert.coup"
  | .probe => "vert.probe"
  | .triggerSource => "trig.src"
  | .triggerSlope => "trig.edge_slope"
  | .mainTimebase => "horiz.tb"
  | .windowTimebase => "horiz.win_tb"
  | .memoryDepth => "acquire.store_depth"
  | .acquireMode => "acquire.mode"
  | .averageCount => "acquire.avg_cnt"

inductive ArgumentFault
  | noChannel (index : Nat)
  | channelNeeded (key : Key)
  | naturalExpected (key : Key)
  | badValue (key : Key) (value : Value)
  | noTriggerLevel (source : TriggerSource)
  | noMemoryDepth (timebase : Timebase)
  deriving DecidableEq

def ArgumentFault.message : ArgumentFault → String
  | .noChannel index => "no channel " ++ toString index
  | .channelNeeded key => key.name ++ " needs a channel"
  | .naturalExpected key => key.name ++ " expects an unsigned integer"
  | .badValue key value => value.display ++ " is not a valid " ++ key.name
  | .noTriggerLevel source => "no trigger level with source " ++ CodeTable.name source
  | .noMemoryDepth timebase => "no memory depth fits timebase " ++ CodeTable.name timebase

inductive Fault
  | link (fault : LinkFault)
  | frame (fault : FrameFault)
  | status (answer : DeviceStatus)
  | unknownCode (register : CodedRegister) (code : UInt8)
  | argument (fault : ArgumentFault)
  | notApplicable (key : Key)
  | chunkErrors (channel : ChannelId) (count : UInt32)
  | busy (phase : Phase)
  deriving DecidableEq

namespace Fault

def message : Fault → String
  | .link fault => fault.message
  | .frame fault => "Protocol error: " ++ fault.message
  | .status answer => "Device reported: " ++ answer.text
  | .unknownCode register code =>
    "Unknown register code " ++ Text.hexByte code ++ " for " ++ register.name
  | .argument fault => "Invalid argument: " ++ fault.message
  | .notApplicable key => "Configuration key " ++ key.name ++ " is not applicable here"
  | .chunkErrors channel count =>
    "Giving up on channel " ++ toString channel.index ++ " after " ++ toString count.toNat ++
      " chunk errors"
  | .busy phase => "Operation not allowed while " ++ phase.name

/-- The message, then the cause that it wraps, if it wraps one. -/
def messages (f : Fault) : List String :=
  match f with
  | .frame cause => [f.message, cause.message]
  | .link (.transfer cause) => [f.message, cause.text]
  | .link (.usb cause) => [f.message, cause]
  | _ => [f.message]

end Fault

/-- The row of a closed table with this code, or the register that holds a code outside it. -/
def decodeRegister {α : Type} [CodeTable α] (register : CodedRegister) (code : UInt8) :
    Except Fault α :=
  match CodeTable.ofCode? code with
  | some a => .ok a
  | none => .error (.unknownCode register code)

end Oscilloscope
