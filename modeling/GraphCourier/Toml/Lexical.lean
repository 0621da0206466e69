import GraphCourier.Text.Parsed

/-!
# Blanks, line ends and comments

A line ends with a line feed, or with a carriage return and a line feed; a
carriage return alone is never allowed. Comments run to the end of their line
and hold no control characters but tabs.
-/

namespace GraphCourier.Toml

/-- Takes a value off the front of a text. A text that is refused is just
refused: nobody is told why. -/
abbrev Reader (α : Type) := (s : List Char) → Option (Parsed α s)

def isBlank (c : Char) : Bool := c = ' ' || c = '\t'

def isControl (c : Char) : Bool :=
  (decide (c.toNat < 0x20) && c != '\t') || c.toNat == 0x7f

def skipBlanks (s : List Char) : List Char := s.dropWhile isBlank

theorem length_skipBlanks_le (s : List Char) :
    (skipBlanks s).length ≤ s.length :=
  (List.dropWhile_suffix _).length_le

/-- Drops blanks, line ends and comments. -/
def skipFiller (comment : Bool) : List Char → Option (List Char)
  | [] => some []
  | c :: t =>
    if c = '\n' then skipFiller false t
    else if c = '\r' then
      if t.head? = some '\n' then skipFiller false t else none
    else if comment then
      if isControl c then none else skipFiller true t
    else if isBlank c then skipFiller false t
    else if c = '#' then skipFiller true t
    else some (c :: t)

theorem length_skipFiller_le {comment : Bool} {s r : List Char}
    (h : skipFiller comment s = some r) : r.length ≤ s.length := by
  induction s generalizing comment with
  | nil => simp_all [skipFiller]
  | cons c t ih =>
    have step : ∀ {b}, skipFiller b t = some r → r.length ≤ (c :: t).length :=
      fun h => Nat.le_succ_of_le (ih h)
    unfold skipFiller at h
    split at h
    · exact step h
    · split at h
      · split at h
        · exact step h
        · cases h
      · split at h
        · split at h
          · cases h
          · exact step h
        · split at h
          · exact step h
          · split at h
            · exact step h
            · cases h; exact Nat.le_refl _

/-- Whether nothing but blanks and a comment stands before the end of the
line. -/
def endsLine (s : List Char) : Bool :=
  match skipBlanks s with
  | [] => true
  | '\n' :: _ => true
  | '\r' :: '\n' :: _ => true
  | '#' :: _ => true
  | _ => false

end GraphCourier.Toml
