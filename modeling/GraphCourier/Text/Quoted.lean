import GraphCourier.Unicode.Hidden

/-!
# Texts shown in quotes

Error messages show a text between double quotes. Quotes and backslashes get a
backslash, the usual control characters their letter, and characters without a
picture of their own their code point in hexadecimal.
-/

namespace GraphCourier.Text

def quotedChar (c : Char) : String :=
  if c = '\x00' then "\\0"
  else if c = '\t' then "\\t"
  else if c = '\r' then "\\r"
  else if c = '\n' then "\\n"
  else if c = '\\' then "\\\\"
  else if c = '"' then "\\\""
  else if c.toNat < 0x20 ∨ c.toNat = 0x7f ∨ Unicode.isHidden c = true then
    "\\u\x7b" ++ String.ofList (Nat.toDigits 16 c.toNat) ++ "\x7d"
  else c.toString

def quoted (s : String) : String :=
  "\"" ++ String.join (s.toList.map quotedChar) ++ "\""

end GraphCourier.Text
