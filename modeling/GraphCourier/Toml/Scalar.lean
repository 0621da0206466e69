import GraphCourier.Decimal
import GraphCourier.Toml.Value

/-!
# Words

Numbers, truth values, dates and times are written without quotes and read as
one word. Whole numbers may be of any size here. A number with a point or an
exponent must not grow beyond the largest double-precision number.
-/

namespace GraphCourier.Toml

/-! ## Whole numbers -/

/-- The digits of a number in which single underscores may stand between
digits. `due` tells that a digit must come next. -/
def digits? (isDigit : Char → Bool) (due : Bool) :
    List Char → Option (List Char)
  | [] => if due then none else some []
  | c :: cs =>
    if isDigit c then (digits? isDigit false cs).map (c :: ·)
    else if c = '_' ∧ due = false then digits? isDigit true cs
    else none

/-- The value of a digit in any base up to sixteen. -/
def digitValue (c : Char) : Nat :=
  if c.isDigit then c.toNat - '0'.toNat
  else if c.isUpper then c.toNat - 'A'.toNat + 10
  else c.toNat - 'a'.toNat + 10

def isDigitOf (base : Nat) (c : Char) : Bool :=
  (c.isDigit || ('a' ≤ c && c ≤ 'f') || ('A' ≤ c && c ≤ 'F')) &&
    decide (digitValue c < base)

def unsigned? (base : Nat) (cs : List Char) : Option Nat :=
  (digits? (isDigitOf base) true cs).map fun ds =>
    ds.foldl (fun n c => base * n + digitValue c) 0

/-- The digits of a decimal number, which start with a zero only if that is
all. -/
def decimal? (cs : List Char) : Option (List Char) :=
  match digits? Char.isDigit true cs with
  | some ds => if ds.length ≤ 1 ∨ ds.head? ≠ some '0' then some ds else none
  | none => none

/-- The sign a number may start with: whether it is a minus, and the rest. -/
def splitSign : List Char → Bool × List Char
  | '+' :: cs => (false, cs)
  | '-' :: cs => (true, cs)
  | cs => (false, cs)

def integer? (cs : List Char) : Option Int :=
  match cs with
  | '0' :: 'x' :: t => (unsigned? 16 t).map Int.ofNat
  | '0' :: 'o' :: t => (unsigned? 8 t).map Int.ofNat
  | '0' :: 'b' :: t => (unsigned? 2 t).map Int.ofNat
  | cs =>
    let (negative, t) := splitSign cs
    (decimal? t).map fun ds =>
      let n : Int := (Decimal.value ds : Nat)
      if negative then -n else n

/-! ## Numbers with a point or an exponent -/

/-- The bound from which on numbers of double precision round to infinity. -/
def doubleLimit : Nat := Nat.pow 2 1024 - Nat.pow 2 970

/-- Whether the number `digits * 10 ^ exponent` is below that bound. -/
def fitsDouble (digits : List Char) (exponent : Int) : Bool :=
  let ds := digits.dropWhile (· == '0')
  let top : Int := exponent + ds.length
  if ds.isEmpty || decide (top < 309) then true
  else if 309 < top then false
  else
    decide (Decimal.value ds * Nat.pow 10 exponent.toNat <
      doubleLimit * Nat.pow 10 (-exponent).toNat)

/-- The digits of an exponent, as a number. -/
def exponent? (cs : List Char) : Option Int :=
  let (negative, t) := splitSign cs
  (digits? Char.isDigit true t).map fun ds =>
    let n : Int := (Decimal.value ds : Nat)
    if negative then -n else n

/-- The fraction after the point, if there is one, and what follows it. -/
def fraction? (cs : List Char) : Option (List Char × List Char) :=
  match cs with
  | '.' :: t =>
    let part := fun (c : Char) => c.isDigit || c == '_'
    (digits? Char.isDigit true (t.takeWhile part)).map fun ds =>
      (ds, t.dropWhile part)
  | cs => some ([], cs)

/-- Whether a word is a finite number with a point or an exponent. -/
def isFinite (cs : List Char) : Bool :=
  let (_, t) := splitSign cs
  let part := fun (c : Char) => c.isDigit || c == '_'
  let rest := t.dropWhile part
  match decimal? (t.takeWhile part), fraction? rest with
  | some whole, some (fraction, e :: ds) =>
    if e = 'e' ∨ e = 'E' then
      match exponent? ds with
      | some n => fitsDouble (whole ++ fraction) (n - fraction.length)
      | none => false
    else false
  | some whole, some (fraction, []) =>
    !rest.isEmpty && fitsDouble (whole ++ fraction) (-fraction.length)
  | _, _ => false

def isSpecial (cs : List Char) : Bool :=
  let (_, t) := splitSign cs
  t == ['i', 'n', 'f'] || t == ['n', 'a', 'n']

/-! ## Dates and times -/

/-- A number of exactly `count` digits within bounds, and what follows it. -/
def field? (count lo hi : Nat) (cs : List Char) :
    Option (Nat × List Char) :=
  let ds := cs.take count
  let n := Decimal.value ds
  if ds.length = count ∧ ds.all Char.isDigit = true ∧ lo ≤ n ∧ n ≤ hi then
    some (n, cs.drop count)
  else none

def mark? (c : Char) : List Char → Option (List Char)
  | d :: cs => if c = d then some cs else none
  | [] => none

def daysOf (year month : Nat) : Nat :=
  let leap := year % 4 = 0 ∧ (year % 100 ≠ 0 ∨ year % 400 = 0)
  if month = 2 then if leap then 29 else 28
  else if month = 4 ∨ month = 6 ∨ month = 9 ∨ month = 11 then 30
  else 31

def date? (cs : List Char) : Option (List Char) := do
  let (year, cs) ← field? 4 0 9999 cs
  let (month, cs) ← field? 2 1 12 (← mark? '-' cs)
  let (_, cs) ← field? 2 1 (daysOf year month) (← mark? '-' cs)
  return cs

/-- What follows the seconds of a time: at least one digit after a point, or
nothing of it. -/
def secondFraction? (cs : List Char) : Option (List Char) :=
  match cs with
  | '.' :: t =>
    if (t.takeWhile Char.isDigit).isEmpty then none
    else some (t.dropWhile Char.isDigit)
  | cs => some cs

/-- What follows a time, whose seconds may be missing. -/
def time? (cs : List Char) : Option (List Char) := do
  let (_, cs) ← field? 2 0 23 cs
  let (_, cs) ← field? 2 0 59 (← mark? ':' cs)
  match cs with
  | ':' :: cs => do
    let (_, cs) ← field? 2 0 60 cs
    secondFraction? cs
  | cs => return cs

/-- Whether a text is the offset of a time from that of Greenwich, of at most a
day. -/
def isOffset (cs : List Char) : Bool :=
  match cs with
  | ['Z'] | ['z'] => true
  | sign :: cs =>
    if sign = '+' ∨ sign = '-' then
      match (do
        let (hours, cs) ← field? 2 0 99 cs
        let (minutes, cs) ← field? 2 0 99 (← mark? ':' cs)
        return (60 * hours + minutes, cs) : Option (Nat × List Char)) with
      | some (total, cs) => cs.isEmpty && decide (total ≤ 24 * 60)
      | none => false
    else false
  | [] => false

/-- Whether a word is a date, a time, or both. -/
def isMoment (cs : List Char) : Bool :=
  match date? cs with
  | some [] => true
  | some (separator :: cs) =>
    (separator = 'T' || separator = 't' || separator = ' ') &&
      match time? cs with
      | some rest => rest.isEmpty || isOffset rest
      | none => false
  | none => time? cs == some []

/-! ## Any word -/

def wordValue? (cs : List Char) : Option Value :=
  if cs = ['t', 'r', 'u', 'e'] then some (.flag true)
  else if cs = ['f', 'a', 'l', 's', 'e'] then some (.flag false)
  else
    match integer? cs with
    | some n => some (.integer n)
    | none =>
      if isFinite cs || isSpecial cs then some (.real (String.ofList cs))
      else if isMoment cs then some (.moment (String.ofList cs))
      else none

def isWordChar (c : Char) : Bool :=
  c.isAlphanum || c = '_' || c = '+' || c = '-' || c = '.' || c = ':'

/-- The word a text starts with, and what follows it. A date and a time may be
two words with a blank between them. -/
def splitWord (s : List Char) : List Char × List Char :=
  let word := s.takeWhile isWordChar
  let rest := s.dropWhile isWordChar
  match date? word, rest with
  | some [], ' ' :: d :: t =>
    if d.isDigit then
      (word ++ ' ' :: (d :: t).takeWhile isWordChar,
        (d :: t).dropWhile isWordChar)
    else (word, rest)
  | _, _ => (word, rest)

theorem splitWord_append (s : List Char) :
    (splitWord s).1 ++ (splitWord s).2 = s := by
  have h := List.takeWhile_append_dropWhile (p := isWordChar) (l := s)
  unfold splitWord
  simp only
  split
  · next d t _ hr =>
    split
    · rw [List.append_assoc, List.cons_append,
        List.takeWhile_append_dropWhile, ← hr, h]
    · exact h
  · exact h

end GraphCourier.Toml
