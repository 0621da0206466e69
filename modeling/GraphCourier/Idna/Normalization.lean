import GraphCourier.Idna.NormalizationData
import GraphCourier.Unicode.CodeTable

/-!
# Canonical composition

Some characters can be written as one code point or as a letter and marks.
`nfc` takes every character apart, puts the marks of each letter in their
canonical order, and puts together again what can be. Hangul syllables are
taken apart and put together by arithmetic.
-/

namespace GraphCourier.Idna

def decompositionTable : Unicode.CodeTable :=
  Unicode.CodeTable.ofText decompositionText

def combiningTable : Unicode.CodeTable :=
  Unicode.CodeTable.ofText combiningText

/-- The combining class of a character; 0 for letters and all other characters
that do not attach to the one before them. -/
def combiningClass (c : Char) : Nat :=
  match combiningTable.find? c.toNat with
  | some run => run.codes.headD 0
  | none => 0

/-! ## Taking apart -/

def hangulParts (n : Nat) : List Nat :=
  let s := n - 0xAC00
  let tail := if s % 28 = 0 then [] else [0x11A7 + s % 28]
  (0x1100 + s / 588) :: (0x1161 + s % 588 / 28) :: tail

def isHangul (n : Nat) : Bool := decide (0xAC00 ≤ n ∧ n ≤ 0xD7A3)

/-- Takes a code point apart, in at most `steps` steps. -/
def takeApart (steps n : Nat) : List Nat :=
  match steps with
  | 0 => [n]
  | steps + 1 =>
    if isHangul n then hangulParts n
    else
      match decompositionTable.findStart? n with
      | some run => run.codes.flatMap (takeApart steps)
      | none => [n]

/-- The longest chain of decompositions has fewer steps than this. -/
def maxSteps : Nat := 8

def decompose (c : Char) : List Char :=
  (takeApart maxSteps c.toNat).map Char.ofNat

/-! ## Ordering marks -/

/-- A character with its combining class. -/
abbrev Classed := Char × Nat

/-- Puts a character before a text whose marks are in order. A mark moves
behind the marks of lower class that follow it. -/
def place (m : Classed) : List Classed → List Classed
  | [] => [m]
  | x :: xs =>
    if x.2 ≠ 0 ∧ x.2 < m.2 then x :: place m xs else m :: x :: xs

def reorder (cs : List Classed) : List Classed := cs.foldr place []

/-! ## Putting together -/

def joinHangul? (a b : Nat) : Option Nat :=
  if 0x1100 ≤ a ∧ a < 0x1113 ∧ 0x1161 ≤ b ∧ b < 0x1176 then
    some (0xAC00 + ((a - 0x1100) * 21 + (b - 0x1161)) * 28)
  else if isHangul a = true ∧ (a - 0xAC00) % 28 = 0 ∧
      0x11A7 < b ∧ b < 0x11C3 then
    some (a + (b - 0x11A7))
  else none

def join? (a b : Char) : Option Char :=
  match joinHangul? a.toNat b.toNat with
  | some n => some (Char.ofNat n)
  | none =>
    (List.find? (fun (run : Unicode.CodeRun) =>
      run.kind == 'P' && run.codes == [a.toNat, b.toNat])
      decompositionTable).map fun run => Char.ofNat run.first

/-- Puts together a text that starts at a letter: the letter so far, the marks
after it that did not join it, in reverse, and the class of the last of
them. -/
def compose (letter : Char) (marks : List Char) (last : Nat) :
    List Classed → List Char
  | [] => letter :: marks.reverse
  | (c, k) :: rest =>
    match (if marks.isEmpty || decide (last < k) then join? letter c
      else none) with
    | some joined => compose joined marks last rest
    | none =>
      if k = 0 then letter :: marks.reverse ++ compose c [] 0 rest
      else compose letter (c :: marks) k rest

/-- Puts together a text, passing over marks that have no letter. -/
def composeAll : List Classed → List Char
  | [] => []
  | (c, k) :: rest =>
    if k = 0 then compose c [] 0 rest else c :: composeAll rest

/-- The canonical composition of a text. -/
def nfc (cs : List Char) : List Char :=
  composeAll (reorder ((cs.flatMap decompose).map fun c =>
    (c, combiningClass c)))

end GraphCourier.Idna
