/- Register codes of the horizontal system: timebase and memory depth. -/

import Oscilloscope.Code.Table
import Oscilloscope.Ratio

set_option autoImplicit false
set_option relaxedAutoImplicit false

namespace Oscilloscope

/-- A step of the 2-4-8 sequence from 2 ns to 40 s a division, numbered by its register code. -/
structure Timebase where
  index : Fin 32
  deriving DecidableEq

namespace Timebase

def all : List Timebase := (List.finRange 32).map Timebase.mk

/-- Nine steps share a unit: nanoseconds, microseconds, milliseconds, then seconds. -/
def unitsPerSecond (tb : Timebase) : UInt64 :=
  match tb.index.val / 9 with
  | 0 => 1000000000
  | 1 => 1000000
  | 2 => 1000
  | _ => 1

def count (tb : Timebase) : UInt64 :=
  let leading : Nat := match tb.index.val % 3 with
    | 0 => 2
    | 1 => 4
    | _ => 8
  let scale : Nat := match tb.index.val / 3 % 3 with
    | 0 => 1
    | 1 => 10
    | _ => 100
  .ofNat (leading * scale)

/-- Seconds a division of the zoom window, and of the screen while no window is open. -/
def windowDivision (tb : Timebase) : Ratio :=
  ⟨tb.count, tb.unitsPerSecond⟩

/-- Seconds a division of the main sweep, which never goes below 200 ns. -/
def mainDivision (tb : Timebase) : Ratio :=
  if tb.index < 6 then windowDivision ⟨6⟩ else tb.windowDivision

def unitName (tb : Timebase) : String :=
  match tb.index.val / 9 with
  | 0 => "ns"
  | 1 => "us"
  | 2 => "ms"
  | _ => "s"

instance : CodeTable Timebase where
  all := all
  code tb := .ofNat tb.index.val
  name tb := toString tb.count.toNat ++ " " ++ tb.unitName
  mem_all := by
    intro a
    exact List.mem_map.2 ⟨a.index, List.mem_finRange _, rfl⟩
  code_inj := by
    intro a b h
    have key : ∀ i j : Fin 32, UInt8.ofNat i.val = UInt8.ofNat j.val → i = j := by decide
    cases a
    cases b
    exact congrArg Timebase.mk (key _ _ h)

/-- The step whose division lasts `r`, compared by value. -/
def ofWindowDivision? (r : Ratio) : Option Timebase :=
  all.find? fun tb => tb.windowDivision.sameValue r

end Timebase

inductive MemoryDepth
  | k4 | k40 | k512 | m1
  deriving DecidableEq

namespace MemoryDepth

def all : List MemoryDepth := [.k4, .k40, .k512, .m1]

def samples : MemoryDepth → UInt64
  | .k4 => 4096
  | .k40 => 40960
  | .k512 => 524288
  | .m1 => 1048576

def rank : MemoryDepth → Nat
  | .k4 => 0
  | .k40 => 1
  | .k512 => 2
  | .m1 => 3

instance : CodeTable MemoryDepth where
  all := all
  code
    | .k4 => 0
    | .k40 => 4
    | .k512 => 6
    | .m1 => 7
  name
    | .k4 => "4K"
    | .k40 => "40K"
    | .k512 => "512K"
    | .m1 => "1M"
  mem_all := by intro a; cases a <;> decide
  code_inj := by intro a b; cases a <;> cases b <;> decide

def ofSamples? (n : UInt64) : Option MemoryDepth :=
  all.find? fun d => d.samples == n

def ofRank? (n : Nat) : Option MemoryDepth :=
  all.find? fun d => d.rank == n

def smaller? (d : MemoryDepth) : Option MemoryDepth :=
  if d.rank = 0 then none else ofRank? (d.rank - 1)

theorem rank_of_smaller? {d next : MemoryDepth} (below : d.smaller? = some next) :
    next.rank + 1 = d.rank := by
  cases d <;> cases below <;> rfl

end MemoryDepth

end Oscilloscope
