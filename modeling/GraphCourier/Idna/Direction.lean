import GraphCourier.Idna.DirectionData
import GraphCourier.Unicode.CodeTable

/-!
# Writing direction

If any label of a domain name has letters that are written from right to left,
all its labels must show their direction by their first character, keep to
characters that go with it, and end in a character that does too.
-/

namespace GraphCourier.Idna

def directionTable : Unicode.CodeTable := Unicode.CodeTable.ofText directionText

/-- The direction class of a character, as a letter. -/
def directionOf (c : Char) : Char :=
  match directionTable.find? c.toNat with
  | some run => run.kind
  | none => 'L'

/-- Whether a class makes a name subject to the rule. -/
def turnsAround (k : Char) : Bool := k == 'R' || k == 'A' || k == 'N'

def directionsAllowed (ks : List Char) : Bool :=
  match ks with
  | [] => true
  | first :: rest =>
    let inner := (rest.reverse.dropWhile (· == 'M')).reverse
    if first == 'L' then
      inner.all (fun k => ['L', 'E', 'S', 'C', 'T', 'O', 'B', 'M'].contains k) &&
        (match inner.getLast? with
          | some k => k == 'L' || k == 'E'
          | none => true)
    else if first == 'R' || first == 'A' then
      inner.all (fun k =>
          ['R', 'A', 'N', 'E', 'S', 'C', 'T', 'O', 'B', 'M'].contains k) &&
        (match inner.getLast? with
          | some k => k == 'R' || k == 'A' || k == 'E' || k == 'N'
          | none => true) &&
        !(inner.contains 'E' && inner.contains 'N')
    else false

/-- Whether the labels of a name follow the rule, if it applies. -/
def labelsDirected (labels : List (List Char)) : Bool :=
  let classes := labels.map fun l => l.map directionOf
  !classes.any (fun ks => ks.any turnsAround) || classes.all directionsAllowed

end GraphCourier.Idna
