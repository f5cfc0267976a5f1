/- The arguments of the command line: subcommands, options and positional arguments. -/

import Oscilloscope.Decimal.Integer

set_option autoImplicit false
set_option relaxedAutoImplicit false

namespace Oscilloscope.CommandLine

inductive Task
  | list
  | info
  | get (key : String) (channel : Option Nat) (choices : Bool)
  | set (key value : String) (channel : Option Nat)
  | acquire (frames samples millis : Option UInt64) (dump : Bool)
  deriving DecidableEq

structure Invocation where
  connection : Option String
  task : Task
  deriving DecidableEq

inductive UsageFault
  | nothingGiven
  | missingSubcommand
  | unknownSubcommand
  | unknownArgument
  | missingArgument
  | missingValue
  | surplusValue
  | repeated
  | badValue
  deriving DecidableEq

def UsageFault.message : UsageFault → String
  | .nothingGiven => "a command is needed: list, info, get, set or acquire"
  | .missingSubcommand => "options alone are no command"
  | .unknownSubcommand => "there is no such command"
  | .unknownArgument => "an argument is not understood"
  | .missingArgument => "an argument is missing"
  | .missingValue => "an option lacks its value"
  | .surplusValue => "an option takes no value"
  | .repeated => "an option is given twice"
  | .badValue => "the value of an option is out of range"

inductive OptionName
  | connection | channel | choices | frames | samples | time | dump
  deriving DecidableEq

namespace OptionName

def long : OptionName → String
  | .connection => "conn"
  | .channel => "channel"
  | .choices => "list"
  | .frames => "frames"
  | .samples => "samples"
  | .time => "time"
  | .dump => "dump"

def short? : OptionName → Option Char
  | .channel => some 'c'
  | _ => none

def takesValue : OptionName → Bool
  | .choices | .dump => false
  | _ => true

def accepts (o : OptionName) (text : String) : Bool :=
  match o with
  | .channel => (Decimal.readInteger? 1 2 text.toList).isSome
  | .frames | .samples | .time => (Decimal.readNatural? UInt64.size text.toList).isSome
  | _ => true

end OptionName

/-- What one level of the command line, the program itself or a subcommand, understands. -/
structure Grammar where
  options : List OptionName
  /-- How many positional arguments it has, all of them required. -/
  positionals : Nat

/-- The arguments of one level as far as they are read. -/
structure Level where
  positionals : List String := []
  given : List (OptionName × String) := []
  /-- An option whose value is not settled yet, with the value if it has come. -/
  pending : Option (OptionName × Option String) := none
  /-- Everything from here on is positional. -/
  escaped : Bool := false

namespace Level

def value? (l : Level) (o : OptionName) : Option String :=
  (l.given.find? fun g => g.1 == o).map fun g => g.2

def record (l : Level) (o : OptionName) (text : String) : Except UsageFault Level :=
  if (l.value? o).isSome then .error .repeated
  else if o.accepts text then .ok { l with given := l.given ++ [(o, text)] }
  else .error .badValue

/-- Settles the option that waits, if one does. -/
def settle (l : Level) : Except UsageFault Level :=
  match l.pending with
  | none => .ok l
  | some (_, none) => .error .missingValue
  | some (o, some text) => { l with pending := none }.record o text

def option (l : Level) (o : OptionName) (attached : Option String) : Except UsageFault Level := do
  match o.takesValue, attached with
  | true, none => return { ← l.settle with pending := some (o, none) }
  | true, some text => (← l.settle).record o text
  | false, none => (← l.settle).record o ""
  | false, some _ => throw .surplusValue

/-- `--name` or `--name=value`, without the dashes. -/
def long (g : Grammar) (l : Level) (text : List Char) : Except UsageFault Level :=
  let name := text.takeWhile (· != '=')
  let attached := match text.dropWhile (· != '=') with
    | [] => none
    | _ :: value => some (String.ofList value)
  match g.options.find? fun o => o.long == String.ofList name with
  | some o => l.option o attached
  | none => .error .unknownArgument

/-- A cluster of one-letter options, without the dash. The first that takes a value takes the rest
of the cluster, after an equals sign if there is one. -/
def short (g : Grammar) : List Char → Level → Except UsageFault Level
  | [], l => .ok l
  | c :: rest, l =>
    match g.options.find? fun o => o.short? == some c with
    | none => .error .unknownArgument
    | some o =>
      if o.takesValue then
        l.option o <| match rest with
          | [] => none
          | '=' :: value => some (String.ofList value)
          | value => some (String.ofList value)
      else do short g rest (← l.option o none)

def awaitsValue (l : Level) : Bool :=
  match l.pending with
  | some (_, none) => !l.escaped
  | _ => false

def argument (g : Grammar) (l : Level) (text : String) : Except UsageFault Level :=
  let word : Except UsageFault Level :=
    match l.pending, l.awaitsValue with
    | some (o, _), true => .ok { l with pending := some (o, some text) }
    | _, _ =>
      if l.positionals.length < g.positionals then do
        let l ← l.settle
        return { l with positionals := l.positionals ++ [text] }
      else .error .unknownArgument
  if l.escaped then word
  else
    match text.toList with
    | ['-', '-'] => .ok { l with escaped := true }
    | '-' :: '-' :: name => long g l name
    | '-' :: c :: cluster => short g (c :: cluster) l
    | _ => word

end Level

/-- Options of each subcommand; the connection may be given anywhere. -/
def subcommands : List (String × Grammar) :=
  [("list", ⟨[.connection], 0⟩),
    ("info", ⟨[.connection], 0⟩),
    ("get", ⟨[.connection, .channel, .choices], 1⟩),
    ("set", ⟨[.connection, .channel], 2⟩),
    ("acquire", ⟨[.connection, .frames, .samples, .time, .dump], 0⟩)]

def readSubcommand (g : Grammar) (arguments : List String) : Except UsageFault Level := do
  let l ← arguments.foldlM (fun (l : Level) text => l.argument g text) {}
  let l ← l.settle
  if l.positionals.length < g.positionals then throw .missingArgument
  return l

def taskOf (name : String) (l : Level) : Task :=
  let count (o : OptionName) : Option UInt64 :=
    (l.value? o).bind fun text => (Decimal.readNatural? UInt64.size text.toList).map UInt64.ofNat
  let channel := (l.value? .channel).bind fun text => Decimal.readNatural? 3 text.toList
  let given (o : OptionName) : Bool := (l.value? o).isSome
  match name, l.positionals with
  | "info", _ => .info
  | "get", [key] => .get key channel (given .choices)
  | "set", [key, value] => .set key value channel
  | "acquire", _ => .acquire (count .frames) (count .samples) (count .time) (given .dump)
  | _, _ => .list

/-- A dash with something behind it starts an option; a lone dash is a word. -/
def startsOption (text : String) : Bool :=
  match text.toList with
  | '-' :: _ :: _ => true
  | _ => false

/-- Reads the options in front of the subcommand, then the subcommand. -/
def readArguments : List String → Level → Except UsageFault Invocation
  | [], l => do
    let l ← l.settle
    throw (if l.given.isEmpty then .nothingGiven else .missingSubcommand)
  | text :: rest, l =>
    let named := subcommands.find? fun s => s.1 == text
    match named, l.awaitsValue || l.escaped with
    | some (name, grammar), false => do
      let inner ← readSubcommand grammar rest
      let outer ← l.settle
      return ⟨(inner.value? .connection).or (outer.value? .connection), taskOf name inner⟩
    | _, _ =>
      if (l.escaped || !startsOption text) && !l.awaitsValue then
        .error (if named.isSome then .unknownArgument else .unknownSubcommand)
      else do
        readArguments rest (← l.argument ⟨[.connection], 0⟩ text)

def Invocation.parse (arguments : List String) : Except UsageFault Invocation :=
  readArguments arguments {}

end Oscilloscope.CommandLine
