import GraphCourier.Json.StringLiteral

/-!
# Members of objects

The punctuation of an object: its closing brace, the commas between members,
and the key and colon that a member starts with. The key is handed out before
the colon is looked for, because a reader may refuse the key itself.
-/

namespace GraphCourier.Json

/-- What comes next in an object. -/
inductive MemberTurn (s : List Char) where
  /-- The closing brace, and what follows it. -/
  | close (rest : List Char) (shorter : rest.length < s.length)
  /-- A key, and what follows its closing quote. -/
  | key (name : String) (rest : List Char) (shorter : rest.length < s.length)

/-- Reads the key of a member. `short` is the cause where the text ends, and
`brace` the one where the object does. -/
def readKey (short brace : Cause) (s : List Char) :
    Except Fault (MemberTurn s) :=
  match s with
  | [] => .error ⟨short, [], 0⟩
  | c :: t =>
    if c = '"' then do
      let p ← readString t
      .ok (.key p.value p.rest (p.rest_lt_cons c))
    else if c = '}' then .error ⟨brace, c :: t, 1⟩
    else .error ⟨.keyMustBeString, c :: t, 1⟩

/-- A turn taken at the end of a text, seen from the whole text. -/
def MemberTurn.widen {r s : List Char} (h : r.length ≤ s.length) :
    MemberTurn r → MemberTurn s
  | close rest shorter => close rest (Nat.lt_of_lt_of_le shorter h)
  | key name rest shorter => key name rest (Nat.lt_of_lt_of_le shorter h)

/-- Looks for the closing brace, or for the comma before the next member and
its key. -/
def memberTurn (first : Bool) (s : List Char) : Except Fault (MemberTurn s) :=
  match ahead s with
  | .nothing => .error ⟨.eofInObject, [], 0⟩
  | .char c t ht =>
    if c = '}' then .ok (.close t ht)
    else if first then do
      let turn ← readKey .eofInObject .keyMustBeString (c :: t)
      .ok (turn.widen (r := c :: t) ht)
    else if c = ',' then do
      let turn ← readKey .eofInValue .trailingComma (skipBlanks t)
      .ok (turn.widen (Nat.le_of_lt
        (Nat.lt_of_le_of_lt (length_skipBlanks_le t) ht)))
    else .error ⟨.expectedObjectCommaOrEnd, c :: t, 1⟩

def readColon (s : List Char) : Except Fault (Parsed Unit s) :=
  match ahead s with
  | .nothing => .error ⟨.eofInObject, [], 0⟩
  | .char c t ht =>
    if c = ':' then .ok ⟨(), t, ht⟩
    else .error ⟨.expectedColon, c :: t, 1⟩

/-- Reads the members of an object and its closing brace. -/
def readMembers {α : Type} (item : Reader α) (first : Bool) (s : List Char) :
    Except Fault (Parsed (List (String × α)) s) := do
  match ← memberTurn first s with
  | .close r h => .ok ⟨[], r, h⟩
  | .key name r h =>
    let colon ← readColon r
    let x ← item colon.rest
    let xs ← readMembers item false x.rest
    let here := x.andThen (xs.map ((name, x.value) :: ·))
    .ok ((colon.andThen here).after h)
termination_by s.length
decreasing_by exact Nat.lt_trans (colon.rest_lt_rest x) h

end GraphCourier.Json
