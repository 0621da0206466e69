/-!
# Decimal numbers

How the library writes and reads unsigned numbers: as plain decimal digits
without leading zeros when writing, with an optional plus sign and a bound on
the value when reading. Identifiers, ports, statuses and counts all pass
through here.

- **writing and reading agree** (`value_digits`): the digits written for a
  number have that number as their value.
-/

namespace GraphCourier.Decimal

/-- The decimal digits of `n`, most significant first, no leading zero. -/
def digits (n : Nat) : List Char := Nat.toDigits 10 n

def value (ds : List Char) : Nat := Nat.ofDigitChars 10 ds 0

/-- The decimal text of `n`. -/
def text (n : Nat) : String := String.ofList (digits n)

/-- One or more digits whose value lies below `bound`. -/
def readDigits (bound : Nat) (cs : List Char) : Option Nat :=
  if cs.isEmpty = false ∧ cs.all Char.isDigit ∧ value cs < bound then
    some (value cs)
  else none

/-- An unsigned number below `bound`: an optional plus sign, then digits.
Leading zeros are accepted, blanks and other signs are not. -/
def read (bound : Nat) : List Char → Option Nat
  | '+' :: cs => readDigits bound cs
  | cs => readDigits bound cs

theorem value_digits (n : Nat) : value (digits n) = n :=
  Nat.ofDigitChars_toDigits (by decide) (by decide)

theorem isDigit_of_mem_digits {n : Nat} {c : Char} (h : c ∈ digits n) :
    c.isDigit = true :=
  Nat.isDigit_of_mem_toDigits (by decide) (by decide) h

theorem all_isDigit_digits (n : Nat) : (digits n).all Char.isDigit = true :=
  List.all_eq_true.mpr fun _ h => isDigit_of_mem_digits h

theorem isEmpty_digits (n : Nat) : (digits n).isEmpty = false :=
  List.isEmpty_eq_false_iff.mpr Nat.toDigits_ne_nil

end GraphCourier.Decimal
