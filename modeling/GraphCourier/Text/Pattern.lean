/-!
# Patterns

Whether a text can be a regular expression, as far as its brackets, escapes and
repetitions go. Whether there is a class of some name, which ends of a range come
first, or how large an automaton gets is not looked at.
-/

namespace GraphCourier.Text.Pattern

/-- Where a reader of a pattern stands. -/
inductive Place where
  /-- Outside classes. There may be something to repeat. -/
  | outside (operand : Bool)
  /-- Behind the bracket that opens a group. -/
  | opened
  /-- Behind that bracket and a question mark. -/
  | flags
  /-- Behind a backslash, in so many classes. -/
  | escaped (classes : Nat)
  /-- In so many classes. -/
  | inside (classes : Nat)
  /-- In so many classes, of which the last has no members yet. -/
  | fresh (classes : Nat)

/-- What may follow a backslash: marks, and letters that stand for a character, a class
or an end of the text. -/
def isEscape (c : Char) : Bool :=
  (0x20 < c.toNat && c.toNat < 0x7f && !c.isAlphanum && c != '<' && c != '>') ||
    "dDsSwWnrtfavAzx".toList.contains c

/-- Reads one character, with so many groups open. -/
def readChar (groups : Nat) (place : Place) (c : Char) : Option (Nat × Place) :=
  let plain : Option (Nat × Place) :=
    match c with
    | '(' => some (groups + 1, .opened)
    | ')' => if groups = 0 then none else some (groups - 1, .outside true)
    | '[' => some (groups, .fresh 1)
    | '\\' => some (groups, .escaped 0)
    | '|' => some (groups, .outside false)
    | '\x7b' => none
    | _ => some (groups, .outside true)
  let repeats := c = '*' || c = '+' || c = '?'
  match place with
  | .outside operand => if repeats && !operand then none else plain
  | .opened => if c = '?' then some (groups, .flags) else if repeats then none else plain
  | .flags =>
    if c = ':' || c = '>' then some (groups, .outside false)
    else if c = ')' then some (groups - 1, .outside false)
    else if c.isAlphanum || c = '-' || c = '<' || c = '_' then some (groups, .flags)
    else none
  | .escaped classes =>
    if isEscape c then
      some (groups, if classes = 0 then .outside true else .inside classes)
    else none
  | .inside classes =>
    match c with
    | '[' => some (groups, .fresh (classes + 1))
    | ']' =>
      some (groups, if classes = 1 then .outside true else .inside (classes - 1))
    | '\\' => some (groups, .escaped classes)
    | _ => some (groups, .inside classes)
  | .fresh classes =>
    match c with
    | '^' => some (groups, .fresh classes)
    | '\\' => some (groups, .escaped classes)
    | '[' => some (groups, .fresh (classes + 1))
    | _ => some (groups, .inside classes)

def readChars : Nat → Place → List Char → Bool
  | groups, place, [] =>
    match place with
    | .outside _ | .opened => groups = 0
    | _ => false
  | groups, place, c :: cs =>
    match readChar groups place c with
    | some (groups, place) => readChars groups place cs
    | none => false

/-- A pattern, or a number with a plus sign in front, which is none. -/
def isPattern (cs : List Char) : Bool :=
  match cs with
  | '+' :: d :: ds => (d :: ds).all fun c => c.isDigit || c = '.'
  | _ => readChars 0 (.outside false) cs

end GraphCourier.Text.Pattern
