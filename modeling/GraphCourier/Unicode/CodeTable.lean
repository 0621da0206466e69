/-!
# Tables over code points

Unicode properties are kept as text and unpacked once. Numbers are written in
base 36 and as distances, which keeps the tables short: a set is a list of
ranges, a table a list of runs that start at increasing code points. Looking up
is a plain search.
-/

namespace GraphCourier.Unicode

/-- The value of one base-36 digit. -/
def base36Digit (c : Char) : Nat :=
  if c.isDigit then c.toNat - '0'.toNat else c.toNat - 'a'.toNat + 10

/-- The number that base-36 digits stand for. -/
def base36 (cs : List Char) : Nat :=
  cs.foldl (fun n c => 36 * n + base36Digit c) 0

/-- The numbers of a text in which dots stand between them. -/
def base36List (s : String) : List Nat :=
  (s.splitOn ".").map fun t => base36 t.toList

/-! ## Sets -/

/-- An inclusive range of code points. -/
structure CodeRange where
  lo : Nat
  hi : Nat
deriving Repr

/-- A set of code points. -/
abbrev CodeSet := List CodeRange

namespace CodeSet

def contains (s : CodeSet) (n : Nat) : Bool :=
  s.any fun r => decide (r.lo ≤ n ∧ n ≤ r.hi)

/-- Unpacks a set: blanks stand between ranges, and each range is the distance
of its start from the end of the range before it, followed after a dot by how
far it reaches beyond its start. -/
def ofText (s : String) : CodeSet :=
  let step := fun (acc : List CodeRange × Nat) (t : String) =>
    match base36List t with
    | [gap] => (⟨acc.2 + gap, acc.2 + gap⟩ :: acc.1, acc.2 + gap)
    | gap :: reach :: _ =>
      (⟨acc.2 + gap, acc.2 + gap + reach⟩ :: acc.1, acc.2 + gap + reach)
    | [] => acc
  ((s.splitOn " ").foldl step ([], 0)).1.reverse

end CodeSet

/-! ## Tables -/

/-- A run of code points from `first` up to the start of the next run. -/
structure CodeRun where
  first : Nat
  /-- The letter that tells how the run is treated. -/
  kind : Char
  /-- The code points that come with it. -/
  codes : List Nat
deriving Repr

/-- A table in increasing order of the runs' starts. -/
abbrev CodeTable := List CodeRun

namespace CodeTable

/-- The run that a code point falls into: the last that starts no later. -/
def find? (t : CodeTable) (n : Nat) : Option CodeRun :=
  t.foldl (fun found r => if r.first ≤ n then some r else found) none

def findStart? (t : CodeTable) (n : Nat) : Option CodeRun :=
  List.find? (fun r => r.first == n) t

/-- Unpacks a table: blanks stand between runs, and each run is the distance
from the start of the run before it, a capital letter, and code points. -/
def ofText (s : String) : CodeTable :=
  let step := fun (acc : List CodeRun × Nat) (t : String) =>
    let cs := t.toList
    let start := acc.2 + base36 (cs.takeWhile fun c => !c.isUpper)
    match cs.dropWhile fun c => !c.isUpper with
    | [] => acc
    | [kind] => (⟨start, kind, []⟩ :: acc.1, start)
    | kind :: codes =>
      (⟨start, kind, base36List (String.ofList codes)⟩ :: acc.1, start)
  ((s.splitOn " ").foldl step ([], 0)).1.reverse

end CodeTable

end GraphCourier.Unicode
