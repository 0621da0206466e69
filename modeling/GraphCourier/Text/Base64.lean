import GraphCourier.Text.Utf8

/-!
# Base 64

Bytes as text of 64 letters: three bytes make four letters, and equals signs
fill up the last four.
-/

namespace GraphCourier.Text

/-- The 64 letters. -/
def base64Letters : List Char :=
  "ABCDEFGHIJKLMNOPQRSTUVWXYZabcdefghijklmnopqrstuvwxyz0123456789+/".toList

/-- The letter of the six bits of `n` that start at bit `shift`. -/
def base64Letter (n : UInt32) (shift : UInt32) : Char :=
  base64Letters.getD ((n >>> shift) &&& 63).toNat '='

/-- Bytes in base 64. -/
def base64 : Bytes → List Char
  | [] => []
  | [a] =>
    let n := a.toUInt32 <<< 16
    [base64Letter n 18, base64Letter n 12, '=', '=']
  | [a, b] =>
    let n := a.toUInt32 <<< 16 ||| b.toUInt32 <<< 8
    [base64Letter n 18, base64Letter n 12, base64Letter n 6, '=']
  | a :: b :: c :: bs =>
    let n := a.toUInt32 <<< 16 ||| b.toUInt32 <<< 8 ||| c.toUInt32
    [base64Letter n 18, base64Letter n 12, base64Letter n 6,
      base64Letter n 0] ++ base64 bs

end GraphCourier.Text
