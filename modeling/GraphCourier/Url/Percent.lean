import GraphCourier.Text.Utf8

/-!
# Percent encoding

Characters that may not stand in some part of a URL are written as their bytes
in UTF-8, each as a percent sign and two hexadecimal digits. Which characters
that are depends on the part; control characters and everything outside ASCII
always are.
-/

namespace GraphCourier.Url

def percentByte (b : UInt8) : List Char :=
  let digit := fun (n : Nat) => (Nat.digitChar n).toUpper
  ['%', digit (b.toNat / 16), digit (b.toNat % 16)]

def isAlwaysEncoded (c : Char) : Bool :=
  decide (c.toNat < 0x20) || decide (0x7f ≤ c.toNat)

/-- Encodes the characters of a text that are in `extra`, and those that always
are. -/
def percentEncode (extra : List Char) (cs : List Char) : List Char :=
  cs.flatMap fun c =>
    if isAlwaysEncoded c || extra.contains c then
      (utf8 c.toString).flatMap percentByte
    else [c]

def fragmentExtra : List Char := [' ', '"', '<', '>', '\x60']

def pathExtra : List Char := fragmentExtra ++ ['#', '?', '\x7b', '\x7d']

def userExtra : List Char :=
  pathExtra ++ ['/', ':', ';', '=', '@', '[', '\\', ']', '^', '|']

def queryExtra : List Char := [' ', '"', '#', '<', '>']

def specialQueryExtra : List Char := '\'' :: queryExtra

/-! ## Decoding -/

def hexValue? (c : Char) : Option Nat :=
  if c.isDigit then some (c.toNat - '0'.toNat)
  else if 'a' ≤ c ∧ c ≤ 'f' then some (c.toNat - 'a'.toNat + 10)
  else if 'A' ≤ c ∧ c ≤ 'F' then some (c.toNat - 'A'.toNat + 10)
  else none

/-- The bytes of a text in which encoded bytes are decoded. A percent sign
without two digits stands for itself. -/
def percentDecode : List Char → Bytes
  | '%' :: a :: b :: cs =>
    match hexValue? a, hexValue? b with
    | some x, some y => UInt8.ofNat (16 * x + y) :: percentDecode cs
    | _, _ => utf8 "%" ++ percentDecode (a :: b :: cs)
  | c :: cs => utf8 c.toString ++ percentDecode cs
  | [] => []

end GraphCourier.Url
