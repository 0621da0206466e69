/-!
# Pieces of a text

A place in a text is told by the bytes before it, as UTF-8 has them. A place inside a
character is none, and nothing can be cut there.
-/

namespace GraphCourier.Text

/-- How many bytes a text takes. -/
def byteLength : List Char → Nat
  | [] => 0
  | c :: cs => c.utf8Size + byteLength cs

/-- What stands behind the first bytes. -/
def dropBytes? : Nat → List Char → Option (List Char)
  | 0, cs => some cs
  | n + 1, c :: cs =>
    if c.utf8Size ≤ n + 1 then dropBytes? (n + 1 - c.utf8Size) cs else none
  | _ + 1, [] => none

/-- The first bytes. -/
def takeBytes? : Nat → List Char → Option (List Char)
  | 0, _ => some []
  | n + 1, c :: cs =>
    if c.utf8Size ≤ n + 1 then (takeBytes? (n + 1 - c.utf8Size) cs).map (c :: ·)
    else none
  | _ + 1, [] => none

/-- The piece between two places. -/
def slice? (start stop : Nat) (cs : List Char) : Option (List Char) :=
  (dropBytes? start cs).bind (takeBytes? (stop - start))

end GraphCourier.Text
