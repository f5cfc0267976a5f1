/- Values of settings: their text, and reading them from text. -/

import Oscilloscope.Decimal.Reading
import Oscilloscope.Decimal.Shortest
import Oscilloscope.Setting.Key
import Oscilloscope.Text.Blank

set_option autoImplicit false
set_option relaxedAutoImplicit false

namespace Oscilloscope

/-- The value of a setting, or the choice a setting leaves. -/
inductive Value
  | flag (b : Bool)
  | natural (n : UInt64)
  | integer (n : Int32)
  | real (x : Float)
  | text (s : String)
  | ratio (r : Ratio)
  | texts (items : List String)
  | naturals (items : List UInt64)
  | ratios (items : List Ratio)
  | span (low high step : Float)
  deriving DecidableEq

namespace Value

def flag? : Value → Option Bool
  | .flag b => some b
  | _ => none

def natural? : Value → Option UInt64
  | .natural n => some n
  | _ => none

def real? : Value → Option Float
  | .real x => some x
  | _ => none

def text? : Value → Option String
  | .text s => some s
  | _ => none

def ratio? : Value → Option Ratio
  | .ratio r => some r
  | _ => none

def kind? : Value → Option ValueKind
  | .flag _ => some .flag
  | .natural _ => some .natural
  | .integer _ => some .integer
  | .real _ => some .real
  | .text _ => some .text
  | .ratio _ => some .ratio
  | _ => none

/-- The value as shown; lists are joined by commas. -/
def display : Value → String
  | .flag b => if b then "true" else "false"
  | .natural n => toString n.toNat
  | .integer n => toString n.toInt
  | .real x => Decimal.doubleText x
  | .text s => s
  | .ratio r => r.text
  | .texts items => ", ".intercalate items
  | .naturals items => ", ".intercalate (items.map fun n => toString n.toNat)
  | .ratios items => ", ".intercalate (items.map Ratio.text)
  | .span low high step =>
    Decimal.doubleText low ++ ".." ++ Decimal.doubleText high ++ " step " ++ Decimal.doubleText step

def readWord? (cs : List Char) : Option UInt64 :=
  (Decimal.readNatural? UInt64.size cs).map UInt64.ofNat

/-- `n/d` with a positive denominator and blanks around either number; a lone number is over one. -/
def readRatio? (cs : List Char) : Option Ratio := do
  let (num, den) := (Text.splitAtFirst '/' cs).getD (cs, ['1'])
  let n ← readWord? (Text.trim num)
  let d ← readWord? (Text.trim den)
  if d = 0 then none else some ⟨n, d⟩

def readFlag? (text : String) : Option Bool :=
  if text = "true" ∨ text = "on" ∨ text = "1" then some true
  else if text = "false" ∨ text = "off" ∨ text = "0" then some false
  else none

/-- Reads `text` as a value of the given kind; blanks at its ends do not count. -/
def parse? (kind : ValueKind) (text : String) : Option Value :=
  let cs := Text.trim text.toList
  match kind with
  | .flag => (readFlag? (String.ofList cs)).map .flag
  | .natural => (readWord? cs).map .natural
  | .integer =>
    (Decimal.readInteger? Int32.minValue.toInt Int32.maxValue.toInt cs).map fun n =>
      .integer (.ofInt n)
  | .real => (Decimal.readFloat? cs).map .real
  | .text => some (.text (String.ofList cs))
  | .ratio => (readRatio? cs).map .ratio

end Value

end Oscilloscope
