/- One analog channel with its register codes decoded. -/

import Oscilloscope.Fault
import Oscilloscope.Sample
import Oscilloscope.Snapshot.Basic

set_option autoImplicit false
set_option relaxedAutoImplicit false

namespace Oscilloscope

structure Channel where
  index : Nat
  enabled : Bool
  range : VerticalRange
  coupling : Coupling
  filter : Bool
  fine : Bool
  probe : Probe
  inverted : Bool
  fineCount : UInt8
  /-- Screen position in raw sample steps. -/
  offset : Int16
  deriving DecidableEq

namespace Channel

/-- Decodes range, coupling and probe, in this order; any other register is taken as it is. -/
def ofRegisters (index : Nat) (r : VerticalRegisters) : Except Fault Channel := do
  let range ← decodeRegister .range r.range
  let coupling ← decodeRegister .coupling r.coupling
  let probe ← decodeRegister .probe r.probe
  return {
    index, range, coupling, probe
    enabled := r.shown != 0
    filter := r.filter != 0
    fine := r.fine != 0
    inverted := r.inverted != 0
    fineCount := r.fineCount
    offset := r.position }

def name (c : Channel) : String :=
  channelName c.index

def nominalVoltsPerDivision (c : Channel) : Ratio :=
  Oscilloscope.voltsPerDivision c.probe c.range

/-- Volts a division. Fine adjustment leads down to the next lower range, in 75 steps where that
range is 2.5 times smaller and in 50 where it is half. -/
def voltsPerDivision (c : Channel) : Float32 :=
  let nominal := c.nominalVoltsPerDivision.toFloat32
  if c.fine then
    let count := c.fineCount.toFloat32
    if c.range.stepsByTwoAndAHalf then nominal - count * ((nominal - nominal / 2.5) / 75)
    else nominal - count * (nominal / 2 / 50)
  else nominal

def digits (c : Channel) : Int32 :=
  Sample.digits c.voltsPerDivision

theorem digits_of_flat {c : Channel} (flat : c.voltsPerDivision = 0) : c.digits = -2147483647 := by
  rw [digits, flat, Sample.digits_zero]

def decodeChunk (c : Channel) (bs : Bytes) : List Float32 :=
  Sample.decodeChunk bs c.voltsPerDivision c.offset

def text (c : Channel) : String :=
  let state := if c.enabled then "on" else "off"
  let scale := Decimal.singleText c.voltsPerDivision
  let bandwidth := if c.filter then ", 20 MHz BW" else ""
  c.name ++ ": " ++ state ++ " " ++ scale ++ " V/div, " ++ CodeTable.name c.coupling ++
    ", probe " ++ CodeTable.name c.probe ++ bandwidth

end Channel

end Oscilloscope
