import GraphCourier.Json.Member
import GraphCourier.Json.Number

/-!
# Passing over values

The value of a member that nobody asked for is checked but not kept. Brackets
may be nested as deep as the text goes, so the ones still open are kept in a
list; numbers may be of any size; and `\u` escapes need their four digits but
not their partner.
-/

namespace GraphCourier.Json

/-! ## Strings -/

/-- Passes over what follows a backslash. -/
def skipEscape (s : List Char) : Except Fault (Parsed Unit s) :=
  match s with
  | [] => .error ⟨.eofInString, [], 0⟩
  | c :: t =>
    if (shortEscape? c).isSome then .ok (.one () c t)
    else if c = 'u' then do
      let p ← readHex t
      .ok ((p.map fun _ => ()).behind c)
    else .error ⟨.invalidEscape, c :: t, 1⟩

/-- Passes over a string whose opening quote was read already. -/
def skipString (s : List Char) : Except Fault (Parsed Unit s) :=
  match s with
  | [] => .error ⟨.eofInString, [], 0⟩
  | c :: t =>
    if c = '"' then .ok (.one () c t)
    else if c = '\\' then do
      let p ← skipEscape t
      let q ← skipString p.rest
      .ok ((p.andThen q).behind c)
    else if c.toNat < 0x20 then .error ⟨.controlCharacter, c :: t, 0⟩
    else do
      let q ← skipString t
      .ok (q.behind c)
termination_by s.length
decreasing_by
  · exact p.rest_lt_cons c
  · exact length_lt_cons c t

/-! ## Values -/

inductive Bracket where
  | square
  | curly
deriving DecidableEq, Repr

/-- What is due while a value is passed over. -/
inductive Due where
  /-- A value. -/
  | value
  /-- The end of the innermost bracket, or an item: the first one, or another
  one after a comma. -/
  | turn (first : Bool)
deriving DecidableEq, Repr

/-- A turn may be followed by a value without any text between them. -/
def Due.rank : Due → Nat
  | value => 0
  | turn _ => 1

/-- Passes over a value that has no brackets, or over one opening bracket: the
bracket, if there was one, and the rest. -/
def skipStart (s : List Char) : Except Fault (Parsed (Option Bracket) s) :=
  match ahead s with
  | .nothing => .error ⟨.eofInValue, [], 0⟩
  | .char c t ht =>
    if c = 'n' then do
      .ok ((← readWordAs none ['u', 'l', 'l'] c t).widen ht)
    else if c = 't' then do
      .ok ((← readWordAs none ['r', 'u', 'e'] c t).widen ht)
    else if c = 'f' then do
      .ok ((← readWordAs none ['a', 'l', 's', 'e'] c t).widen ht)
    else if c = '-' ∨ c.isDigit = true then
      match hn : Numeral.scan .invalidNumber (c :: t) with
      | .ok (_, r) =>
        .ok ⟨none, r, Nat.lt_of_lt_of_le (Numeral.length_scan hn) ht⟩
      | .error f => .error f
    else if c = '"' then do
      .ok (((← skipString t).map fun _ => none).after ht)
    else if c = '[' then .ok ⟨some .square, t, ht⟩
    else if c = '\x7b' then .ok ⟨some .curly, t, ht⟩
    else .error ⟨.expectedValue, c :: t, 1⟩

/-- Passes over the key and the colon of a member. -/
def skipKey (s : List Char) : Except Fault (Parsed Unit s) :=
  match ahead s with
  | .nothing => .error ⟨.eofInObject, [], 0⟩
  | .char c t ht =>
    if c = '"' then do
      let p ← skipString t
      let colon ← readColon p.rest
      .ok ((p.andThen colon).after ht)
    else .error ⟨.keyMustBeString, c :: t, 1⟩

/-- What stands at a place where an item, a comma or the end of a bracket is
due. -/
inductive BracketTurn (s : List Char) where
  /-- The end of the bracket. -/
  | close (rest : List Char) (shorter : rest.length < s.length)
  /-- An item without a key before it. -/
  | item (rest : List Char) (short : rest.length ≤ s.length)

/-- Looks for the end of the bracket, or for the next item: past the comma,
and in an object past the key. -/
def bracketTurn (bracket : Bracket) (first : Bool) (s : List Char) :
    Except Fault (BracketTurn s) :=
  let (closing, short, expected) := match bracket with
    | .square => (']', Cause.eofInList, Cause.expectedListCommaOrEnd)
    | .curly => ('}', Cause.eofInObject, Cause.expectedObjectCommaOrEnd)
  let item := fun (r : List Char) (h : r.length ≤ s.length) =>
    match bracket with
    | .square => (.ok (.item r h) : Except Fault (BracketTurn s))
    | .curly => do
      let p ← skipKey r
      .ok (.item p.rest (Nat.le_trans (Nat.le_of_lt p.shorter) h))
  match ahead s with
  | .nothing => .error ⟨short, [], 0⟩
  | .char c t ht =>
    if c = closing then .ok (.close t ht)
    else if first then item (c :: t) ht
    else if c = ',' then item t (Nat.le_of_lt ht)
    else .error ⟨expected, c :: t, 1⟩

/-- Passes over what is due, until all brackets in `stack` are closed. -/
def skipAll (due : Due) (stack : List Bracket) (s : List Char) :
    Except Fault { r : List Char // r.length ≤ s.length } :=
  match due with
  | .value => do
    let p ← skipStart s
    have := p.shorter
    let ⟨r, h⟩ ← match p.value with
      | some bracket => skipAll (.turn true) (bracket :: stack) p.rest
      | none => skipAll (.turn false) stack p.rest
    .ok ⟨r, by omega⟩
  | .turn first =>
    match stack with
    | [] => .ok ⟨s, Nat.le_refl _⟩
    | bracket :: stack => do
      match ← bracketTurn bracket first s with
      | .close r hr =>
        let ⟨r, h⟩ ← skipAll (.turn false) stack r
        .ok ⟨r, by omega⟩
      | .item r hr =>
        let ⟨r, h⟩ ← skipAll .value (bracket :: stack) r
        .ok ⟨r, by omega⟩
termination_by (s.length, due.rank)
decreasing_by
  · exact Prod.Lex.left _ _ p.shorter
  · exact Prod.Lex.left _ _ p.shorter
  · exact Prod.Lex.left _ _ hr
  · rcases Nat.lt_or_eq_of_le hr with hr | hr
    · exact Prod.Lex.left _ _ hr
    · rw [hr]
      exact Prod.Lex.right _ Nat.zero_lt_one

def skipValue (s : List Char) : Except Fault (Parsed Unit s) := do
  let p ← skipStart s
  let ⟨r, h⟩ ← match p.value with
    | some bracket => skipAll (.turn true) [bracket] p.rest
    | none => .ok ⟨p.rest, Nat.le_refl _⟩
  .ok ⟨(), r, Nat.lt_of_le_of_lt h p.shorter⟩

end GraphCourier.Json
