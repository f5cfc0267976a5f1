/- Frames on the wire: marker, size, command, payload and checksum. -/

import Oscilloscope.Text.Hex

set_option autoImplicit false
set_option relaxedAutoImplicit false

namespace Oscilloscope

structure Marker where
  byte : UInt8
  deriving DecidableEq

def Marker.normal : Marker := ⟨0x53⟩

def Marker.debug : Marker := ⟨0x43⟩

structure Command where
  byte : UInt8
  deriving DecidableEq

namespace Command

def echo : Command := ⟨0x00⟩

def readRegisters : Command := ⟨0x01⟩

def readSamples : Command := ⟨0x02⟩

def file : Command := ⟨0x10⟩

def writeRegisters : Command := ⟨0x11⟩

def lock : Command := ⟨0x12⟩

/-- The command byte of an answer has its top bit set. -/
def response (c : Command) : UInt8 :=
  c.byte ||| 0x80

end Command

/-- Ways in which a frame or its payload departs from the wire format. -/
inductive FrameFault
  | tooShort (actual : Nat)
  | sizeMismatch (declared actual : Nat)
  | checksum (expected actual : UInt8)
  | commandEcho (expected actual : UInt8)
  | subCommand (expected actual : UInt8)
  | lockEcho (expected actual : UInt8)
  | payloadTooLarge (length : Nat)
  | snapshotTooShort (expected actual : Nat)
  deriving DecidableEq

def gotExpected (expected actual : UInt8) : String :=
  " (got " ++ Text.hexByte actual ++ ", expected " ++ Text.hexByte expected ++ ")"

def FrameFault.message : FrameFault → String
  | .tooShort actual => "Frame too short: " ++ toString actual ++ " bytes"
  | .sizeMismatch declared actual =>
    "Response size does not match (declared " ++ toString declared ++ ", received " ++
      toString actual ++ ")"
  | .checksum expected actual => "Response checksum does not match" ++ gotExpected expected actual
  | .commandEcho expected actual => "Response command does not match" ++ gotExpected expected actual
  | .subCommand expected actual =>
    "Response sub command does not match" ++ gotExpected expected actual
  | .lockEcho expected actual => "Panel lock not acknowledged" ++ gotExpected expected actual
  | .payloadTooLarge length =>
    "Payload of " ++ toString length ++ " bytes does not fit into a frame"
  | .snapshotTooShort expected actual =>
    "SysDATA payload too short: expected at least " ++ toString expected ++ " bytes, got " ++
      toString actual

def checksum (bs : Bytes) : UInt8 :=
  bs.foldl (fun sum b => sum + b) 0

structure Frame where
  marker : Marker
  /-- The raw command byte, with the response bit in frames from the instrument. -/
  command : UInt8
  payload : Bytes
  deriving DecidableEq

namespace Frame

/-- Everything in front of the checksum. The size counts command, payload and checksum. -/
def body (f : Frame) : Bytes :=
  f.marker.byte :: (Bytes.ofNatLE 2 (f.payload.length + 2) ++ f.command :: f.payload)

def encode (f : Frame) : Except FrameFault Bytes :=
  if f.payload.length + 2 < 65536 then .ok (f.body ++ [checksum f.body])
  else .error (.payloadTooLarge f.payload.length)

/-- Checks size and checksum of one received transfer; the command is left to `answering`. -/
def decode (bs : Bytes) : Except FrameFault Frame :=
  match bs with
  | marker :: low :: high :: rest =>
    let declared := Bytes.toNatLE [low, high] + 3
    if bs.length ≠ declared then .error (.sizeMismatch declared bs.length)
    else
      match rest.dropLast, rest.getLast? with
      | command :: payload, some sum =>
        let expected := checksum bs.dropLast
        if sum = expected then .ok ⟨⟨marker⟩, command, payload⟩
        else .error (.checksum expected sum)
      | _, _ => .error (.tooShort bs.length)
  | _ => .error (.tooShort bs.length)

/-- Accepts the frame only as an answer to `request`. -/
def answering (f : Frame) (request : Command) : Except FrameFault Frame :=
  if f.command = request.response then .ok f
  else .error (.commandEcho request.response f.command)

/-- The first payload byte, a sub-command or status in most answers. An empty answer has 5 bytes. -/
def subCommand (f : Frame) : Except FrameFault UInt8 :=
  match f.payload with
  | b :: _ => .ok b
  | [] => .error (.tooShort 5)

end Frame

end Oscilloscope
