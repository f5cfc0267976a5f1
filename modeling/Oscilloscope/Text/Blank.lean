/- The blank characters of the Unicode property White_Space, and trimming by them. -/

set_option autoImplicit false
set_option relaxedAutoImplicit false

namespace Oscilloscope.Text

/-- Membership in White_Space, which is wider than the ASCII blanks. -/
def isBlank (c : Char) : Bool :=
  let n := c.toNat
  (9 ≤ n && n ≤ 13) || n == 0x20 || n == 0x85 || n == 0xA0 || n == 0x1680 ||
    (0x2000 ≤ n && n ≤ 0x200A) || n == 0x2028 || n == 0x2029 || n == 0x202F ||
    n == 0x205F || n == 0x3000

def trim (cs : List Char) : List Char :=
  ((cs.dropWhile isBlank).reverse.dropWhile isBlank).reverse

/-- Splits at the first `sep`, which neither part keeps. -/
def splitAtFirst (sep : Char) : List Char → Option (List Char × List Char)
  | [] => none
  | c :: cs => if c = sep then some ([], cs) else (splitAtFirst sep cs).map fun p => (c :: p.1, p.2)

end Oscilloscope.Text
