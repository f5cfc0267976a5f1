/- What each subcommand does with an oscilloscope, and the lines it prints. -/

import Oscilloscope.CommandLine.Console
import Oscilloscope.CommandLine.Usage
import Oscilloscope.Scope.Acquisition
import Oscilloscope.Scope.Settings
import Oscilloscope.Transport.Script

set_option autoImplicit false
set_option relaxedAutoImplicit false

namespace Oscilloscope.CommandLine

inductive Failed
  | unknownSetting (name : String)
  | invalidValue (text : String) (key : Key)
  | opening (fault : Fault)
  | reading (key : Key) (fault : Fault)
  | writing (key : Key) (fault : Fault)
  | fault (fault : Fault)

/-- What the user is told, from the outermost cause to the innermost. -/
def Failed.messages : Failed → List String
  | .unknownSetting name =>
    ["Unknown setting '" ++ name ++ "', expected one of: " ++
      ", ".intercalate (Key.all.map Key.name)]
  | .invalidValue text key => ["'" ++ text ++ "' is not a valid value for " ++ key.name]
  | .opening f => "Failed to open the oscilloscope" :: f.messages
  | .reading key f =>
    ("Reading " ++ key.name ++ " (" ++ key.capabilities.text ++ ")") :: f.messages
  | .writing key f => ("Writing " ++ key.name) :: f.messages
  | .fault f => f.messages

structure Found where
  bus : UInt8
  address : UInt8
  product : Option String
  serial : Option String

def Found.line (f : Found) : String :=
  toString f.bus.toNat ++ "." ++ toString f.address.toNat ++ "  " ++
    f.product.getD "<unknown product>" ++ "  serial " ++ f.serial.getD "<not available>"

/-- The oscilloscope a command works on, and what it has printed. -/
structure Terminal (σ : Type) where
  scope : Scope σ
  printed : List String := []

abbrev Job (σ : Type) := EStateM Failed (Terminal σ)

variable {σ α : Type}

def print (line : String) : Job σ Unit :=
  modify fun t => { t with printed := t.printed ++ [line] }

def onScope (context : Fault → Failed) (x : Work σ α) : Job σ α := fun t =>
  match x t.scope with
  | .ok a scope => .ok a { t with scope }
  | .error fault scope => .error (context fault) { t with scope }

def ofExcept : Except Fault α → Job σ α
  | .ok a => pure a
  | .error fault => throw (.fault fault)

variable [Transport σ]

def openScope (connection : Option String) : Job σ Handle := do
  modify fun t =>
    let line := t.scope.bank.line
    let line := { line with record := line.record ++ [.sought connection] }
    { t with scope := Scope.ofLine line }
  onScope .opening (Scope.onLine (Handle.connect { connection }))

def closeScope : Job σ Unit :=
  onScope .fault (Scope.onLine Line.close)

def findKey (name : String) : Job σ Key :=
  match Key.ofName? name with
  | some key => pure key
  | none => throw (.unknownSetting name)

/-- Channels count from one on the command line. -/
def channelIndex (channel : Option Nat) : Option Nat :=
  channel.map fun n => n - 1

def showInfo (connection : Option String) : Job σ Unit := do
  let handle ← openScope connection
  let _ ← onScope .fault (Scope.echo handle "hantek".toUTF8.toList)
  let s ← onScope .fault (Scope.refresh handle)
  print ("Model:       " ++ s.model.text)
  print ("Connection:  " ++ handle.connectionId.getD "-")
  print (← ofExcept (s.channel .ch1)).text
  print (← ofExcept (s.channel .ch2)).text
  let window ← ofExcept s.windowTimebase
  let main ← ofExcept s.mainTimebase
  print ("Timebase:    " ++ CodeTable.name window ++ " (main " ++ main.mainDivision.text ++
    " s/div)")
  print ("Memory:      " ++ CodeTable.name (← ofExcept s.memoryDepth))
  print ("Sample rate: " ++ toString (← ofExcept s.sampleRate) ++ " Sa/s")
  let source ← ofExcept s.triggerSource
  let slope ← ofExcept s.triggerSlope
  print ("Trigger:     " ++ CodeTable.name source ++ " " ++ CodeTable.name slope ++ ", position " ++
    Decimal.doubleText s.triggerPosition ++ " s")
  print ("Acquire:     " ++ CodeTable.name (← ofExcept s.acquireMode))
  if s.averaging then
    print ("Averaging:   " ++ CodeTable.name (← ofExcept s.averageCount) ++ " waveforms")
  closeScope

def showValue (connection : Option String) (name : String) (channel : Option Nat) (choices : Bool) :
    Job σ Unit := do
  let key ← findKey name
  let handle ← openScope connection
  let index := channelIndex channel
  let value ← onScope (.reading key) <|
    if choices then Scope.listValues handle key index else Scope.getValue handle key index
  print (key.name ++ " = " ++ value.display)
  closeScope

def changeValue (connection : Option String) (name text : String) (channel : Option Nat) :
    Job σ Unit := do
  let key ← findKey name
  match Value.parse? key.valueKind text with
  | none => throw (.invalidValue text key)
  | some value =>
    let handle ← openScope connection
    onScope (.writing key) (Scope.setValue handle key (channelIndex channel) value)
    closeScope

/-- Ticks until the acquisition is over, at most `ticks` times. Before each of them it is asked to
stop if the user has `stopped` it by then. -/
def poll (handle : Handle) : (stopped : Nat → Bool) → (ticks : Nat) → Work σ Unit
  | _, 0 => return ()
  | stopped, ticks + 1 => do
    if (← get).ticker.isSome then
      if stopped 0 then Scope.requestStop
      match ← Scope.tick handle with
      | .idle => return ()
      | _ => poll handle (fun k => stopped (k + 1)) ticks

/-- Does `x` and prints the lines of all events, also when it fails. -/
def printingEvents (dump : Bool) (x : Work σ α) : Job σ α := fun t =>
  let after (scope : Scope σ) : Terminal σ :=
    { scope, printed := t.printed ++ eventsLines dump 0 scope.events }
  match x t.scope with
  | .ok a scope => .ok a (after scope)
  | .error fault scope => .error (.fault fault) (after scope)

/-- Acquires until a limit is reached or the user stops it. The snapshot is read before the start,
so that only changes made during the run are told. -/
def acquire (connection : Option String) (frames samples millis : UInt64) (dump : Bool)
    (stopped : Nat → Bool) (ticks : Nat) : Job σ Unit := do
  let handle ← openScope connection
  printingEvents dump do
    modify fun scope =>
      { scope with limits := { scope.limits with frames, samples, millis } }
    let _ ← Scope.refresh handle
    Scope.start handle
    poll handle stopped ticks
  closeScope

def showFound (found : List Found) : Job σ Unit := do
  if found.isEmpty then print "No oscilloscope found."
  found.forM fun f => print f.line

/-- What a command line meets: the oscilloscopes on the bus, and before which ticks of an
acquisition the user has asked to stop. -/
structure Surroundings where
  found : List Found := []
  stopped : Nat → Bool := fun _ => false

/-- Carries out a command line, in at most `ticks` ticks of an acquisition. -/
def Invocation.job (i : Invocation) (s : Surroundings) (ticks : Nat) : Job σ Unit :=
  match i.task with
  | .list => showFound s.found
  | .info => showInfo i.connection
  | .get key channel choices => showValue i.connection key channel choices
  | .set key value channel => changeValue i.connection key value channel
  | .acquire frames samples millis dump =>
    acquire i.connection (frames.getD 0) (samples.getD 0) (millis.getD 0) dump s.stopped ticks

/-- Carries out a command line on a script. Every tick but the last reads from the script, and an
exhausted script ends the acquisition, so the ticks allowed are never used up. -/
def Invocation.run (i : Invocation) (s : Surroundings) (script : Script) :
    EStateM.Result Failed (Terminal Script) Unit :=
  i.job s (script.reads.length + 2) { scope := Scope.ofLine { device := script } }

end Oscilloscope.CommandLine
