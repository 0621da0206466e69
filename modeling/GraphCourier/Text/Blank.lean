/-!
# Blank text

White space as Unicode has it, which is more than the blanks of any of the file
formats read here.
-/

namespace GraphCourier.Text

def isWhiteSpace (c : Char) : Bool :=
  let n := c.toNat
  decide (0x9 ≤ n ∧ n ≤ 0xd) || n == 0x20 || n == 0x85 || n == 0xa0 ||
    n == 0x1680 || decide (0x2000 ≤ n ∧ n ≤ 0x200a) || n == 0x2028 ||
    n == 0x2029 || n == 0x202f || n == 0x205f || n == 0x3000

def isBlank (s : String) : Bool := s.toList.all isWhiteSpace

end GraphCourier.Text
