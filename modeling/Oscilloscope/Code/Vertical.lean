/- Register codes of one analog channel: range, probe and coupling. -/

import Oscilloscope.Code.Table
import Oscilloscope.Ratio

set_option autoImplicit false
set_option relaxedAutoImplicit false

namespace Oscilloscope

inductive ChannelId
  | ch1 | ch2
  deriving DecidableEq

namespace ChannelId

def all : List ChannelId := [.ch1, .ch2]

def index : ChannelId → Nat
  | .ch1 => 0
  | .ch2 => 1

def ofIndex? : Nat → Option ChannelId
  | 0 => some .ch1
  | 1 => some .ch2
  | _ => none

@[simp] theorem ofIndex?_index (c : ChannelId) : ofIndex? c.index = some c := by
  cases c <;> rfl

end ChannelId

/-- Channels are numbered from one wherever they are shown. -/
def channelName (index : Nat) : String :=
  "CH" ++ toString (index + 1)

structure PerChannel (α : Type) where
  ch1 : α
  ch2 : α
  deriving DecidableEq

namespace PerChannel

variable {α : Type}

def get (p : PerChannel α) : ChannelId → α
  | .ch1 => p.ch1
  | .ch2 => p.ch2

def set (p : PerChannel α) : ChannelId → α → PerChannel α
  | .ch1, a => { p with ch1 := a }
  | .ch2, a => { p with ch2 := a }

@[simp] theorem get_set_self (p : PerChannel α) (c : ChannelId) (a : α) :
    (p.set c a).get c = a := by
  cases c <;> rfl

theorem get_set_of_ne (p : PerChannel α) {c d : ChannelId} (h : c ≠ d) (a : α) :
    (p.set c a).get d = p.get d := by
  cases c <;> cases d <;> first | rfl | exact absurd rfl h

end PerChannel

/-- Coarse vertical ranges, a 2-5-10 sequence from 2 mV to 5 V a division. -/
inductive VerticalRange
  | mv2 | mv5 | mv10 | mv20 | mv50 | mv100 | mv200 | mv500 | v1 | v2 | v5
  deriving DecidableEq

namespace VerticalRange

def all : List VerticalRange :=
  [.mv2, .mv5, .mv10, .mv20, .mv50, .mv100, .mv200, .mv500, .v1, .v2, .v5]

def millivolts : VerticalRange → Nat
  | .mv2 => 2
  | .mv5 => 5
  | .mv10 => 10
  | .mv20 => 20
  | .mv50 => 50
  | .mv100 => 100
  | .mv200 => 200
  | .mv500 => 500
  | .v1 => 1000
  | .v2 => 2000
  | .v5 => 5000

def code : VerticalRange → UInt8
  | .mv2 => 0
  | .mv5 => 1
  | .mv10 => 2
  | .mv20 => 3
  | .mv50 => 4
  | .mv100 => 5
  | .mv200 => 6
  | .mv500 => 7
  | .v1 => 8
  | .v2 => 9
  | .v5 => 10

def name (r : VerticalRange) : String :=
  if r.millivolts < 1000 then toString r.millivolts ++ " mV"
  else toString (r.millivolts / 1000) ++ " V"

/-- Whether the range lies 2.5 times above the next lower one, and not twice. -/
def stepsByTwoAndAHalf : VerticalRange → Bool
  | .mv5 | .mv50 | .mv500 | .v5 => true
  | _ => false

instance : CodeTable VerticalRange where
  all := all
  code := code
  name := name
  mem_all := by intro a; cases a <;> decide
  code_inj := by intro a b; cases a <;> cases b <;> decide

end VerticalRange

/-- Attenuation of the probe. -/
inductive Probe
  | x1 | x10 | x100 | x1000
  deriving DecidableEq

namespace Probe

def all : List Probe := [.x1, .x10, .x100, .x1000]

def factor : Probe → UInt64
  | .x1 => 1
  | .x10 => 10
  | .x100 => 100
  | .x1000 => 1000

instance : CodeTable Probe where
  all := all
  code
    | .x1 => 0
    | .x10 => 1
    | .x100 => 2
    | .x1000 => 3
  name p := "x" ++ toString p.factor.toNat
  mem_all := by intro a; cases a <;> decide
  code_inj := by intro a b; cases a <;> cases b <;> decide

def ofFactor? (f : UInt64) : Option Probe :=
  all.find? fun p => p.factor == f

end Probe

inductive Coupling
  | ac | dc | ground
  deriving DecidableEq

namespace Coupling

instance : CodeTable Coupling where
  all := [.ac, .dc, .ground]
  code
    | .ac => 0
    | .dc => 1
    | .ground => 2
  name
    | .ac => "AC"
    | .dc => "DC"
    | .ground => "GND"
  mem_all := by intro a; cases a <;> decide
  code_inj := by intro a b; cases a <;> cases b <;> decide

end Coupling

/-- Volts a division at the probe tip: thousandths below one volt, whole volts from there on. -/
def voltsPerDivision (p : Probe) (r : VerticalRange) : Ratio :=
  let millivolts := p.factor.toNat * r.millivolts
  if millivolts < 1000 then ⟨.ofNat millivolts, 1000⟩ else ⟨.ofNat (millivolts / 1000), 1⟩

/-- The ranges `p` can select, by the volts a division they give. -/
def voltsPerDivisionList (p : Probe) : List Ratio :=
  VerticalRange.all.map (voltsPerDivision p)

/-- The range that gives `v` volts a division with `p`, compared by value. -/
def VerticalRange.ofVoltsPerDivision? (p : Probe) (v : Ratio) : Option VerticalRange :=
  VerticalRange.all.find? fun r => (voltsPerDivision p r).sameValue v

end Oscilloscope
