import GraphCourier.Json.Member
import GraphCourier.Json.Number

/-!
# JSON values

A `Value` is any JSON value. The members of an object are kept in increasing
order of their keys, and of several members with one key the last one counts.
Brackets may be nested 127 deep; one more is refused, which bounds the work a
text can ask for.

- **writing** (`Value.text`) gives the compact text, with the keys in order.
-/

namespace GraphCourier.Json

inductive Value where
  | null
  | bool (b : Bool)
  | number (n : Number)
  | string (s : String)
  | list (items : List Value)
  | object (members : List (String × Value))
deriving Inhabited

/-! ## Ordered members -/

namespace Members

variable {α : Type}

/-- Puts a member in its place, and in place of one with the same key. -/
def insert (key : String) (x : α) : List (String × α) → List (String × α)
  | [] => [(key, x)]
  | (k, y) :: ms =>
    if key < k then (key, x) :: (k, y) :: ms
    else if key = k then (key, x) :: ms
    else (k, y) :: insert key x ms

/-- The members in order, the last one of each key. -/
def sorted (ms : List (String × α)) : List (String × α) :=
  ms.foldl (fun acc m => insert m.1 m.2 acc) []

end Members

/-! ## Reading -/

def readNumberValue (s : List Char) : Except Fault (Parsed Value s) :=
  match h : readNumber s with
  | .ok (n, r) => .ok ⟨.number n, r, length_readNumber h⟩
  | .error f => .error f

def maxDepth : Nat := 127

/-- Reads a value. `depth` more brackets may be opened. -/
def readValue (depth : Nat) (s : List Char) : Except Fault (Parsed Value s) :=
  match ahead s with
  | .nothing => .error ⟨.eofInValue, [], 0⟩
  | .char c t ht =>
    if c = 'n' then do
      .ok ((← readWordAs .null ['u', 'l', 'l'] c t).widen ht)
    else if c = 't' then do
      .ok ((← readWordAs (.bool true) ['r', 'u', 'e'] c t).widen ht)
    else if c = 'f' then do
      .ok ((← readWordAs (.bool false) ['a', 'l', 's', 'e'] c t).widen ht)
    else if c = '-' ∨ c.isDigit = true then do
      .ok ((← readNumberValue (c :: t)).widen ht)
    else if c = '"' then do
      .ok (((← readString t).map .string).after ht)
    else if c = '[' then
      match depth with
      | 0 => .error ⟨.tooDeep, c :: t, 1⟩
      | depth + 1 => do
        .ok (((← readItems (readValue depth) true t).map .list).after ht)
    else if c = '\x7b' then
      match depth with
      | 0 => .error ⟨.tooDeep, c :: t, 1⟩
      | depth + 1 => do
        let p ← readMembers (readValue depth) true t
        .ok ((p.map fun ms => .object (Members.sorted ms)).after ht)
    else .error ⟨.expectedValue, c :: t, 1⟩

/-- Reads a whole text: one thing, and nothing after it but blanks. -/
def readWhole {α : Type} (reader : Reader α) (s : List Char) :
    Except Fault α := do
  let p ← reader s
  match skipBlanks p.rest with
  | [] => .ok p.value
  | rest => .error ⟨.trailingCharacters, rest, 1⟩

/-! ## Writing -/

mutual

def Value.text : Value → String
  | .null => "null"
  | .bool true => "true"
  | .bool false => "false"
  | .number n => n.text
  | .string s => stringText s
  | .list items => "[" ++ itemsText items ++ "]"
  | .object members => "\x7b" ++ membersText members ++ "\x7d"

/-- The items of a list, with commas between them. -/
def itemsText : List Value → String
  | [] => ""
  | [x] => x.text
  | x :: y :: xs => x.text ++ "," ++ itemsText (y :: xs)

/-- The members of an object, with commas between them. -/
def membersText : List (String × Value) → String
  | [] => ""
  | [(k, x)] => stringText k ++ ":" ++ x.text
  | (k, x) :: m :: ms =>
    stringText k ++ ":" ++ x.text ++ "," ++ membersText (m :: ms)

end

end GraphCourier.Json
