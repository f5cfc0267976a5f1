/- Spans of time in whole milliseconds. -/

set_option autoImplicit false
set_option relaxedAutoImplicit false

namespace Oscilloscope

structure Duration where
  millis : Nat
  deriving DecidableEq

/-- Seconds with the fraction that is needed, milliseconds below one second, and `0ns`. -/
def Duration.text (d : Duration) : String :=
  let seconds := d.millis / 1000
  let rest := d.millis % 1000
  if seconds = 0 then
    if rest = 0 then "0ns" else toString rest ++ "ms"
  else
    let places := (Nat.toDigits 10 (1000 + rest)).drop 1
    let fraction := (places.reverse.dropWhile (· == '0')).reverse
    let point := if fraction.isEmpty then "" else "."
    toString seconds ++ point ++ String.ofList fraction ++ "s"

end Oscilloscope
