import GraphCourier.Json.Skip
import GraphCourier.Json.Value
import GraphCourier.Text.Quoted

/-!
# Records

A record is an object with known members, each a flag, an identifier or a list
of identifiers. Members may come in any order and members with other names are
passed over, but none may come twice and all must be there. The record may
also be written as a list of exactly its fields in order.

A value of the wrong kind is named in the refusal, so it is read first; only
lists and objects are refused at their bracket.
-/

namespace GraphCourier.Json

/-! ## Fields -/

inductive FieldKind where
  | flag
  | id
  | idList
deriving DecidableEq, Repr

/-- The values of a field. -/
abbrev FieldKind.Value : FieldKind → Type
  | flag => Bool
  | id => UInt64
  | idList => List UInt64

structure Field where
  name : String
  kind : FieldKind
deriving DecidableEq, Repr

structure Shape where
  name : String
  fields : List Field
deriving DecidableEq, Repr

def Record : List Field → Type
  | [] => Unit
  | f :: fs => f.kind.Value × Record fs

def Draft : List Field → Type
  | [] => Unit
  | f :: fs => Option f.kind.Value × Draft fs

namespace Draft

def empty : (fs : List Field) → Draft fs
  | [] => ()
  | _ :: fs => (none, empty fs)

def isFilled (name : String) : (fs : List Field) → Draft fs → Bool
  | [], _ => false
  | f :: fs, (x, d) => if f.name = name then x.isSome else isFilled name fs d

/-- The record, or the name of the first field that was not filled. -/
def finish : (fs : List Field) → Draft fs → Except String (Record fs)
  | [], _ => .ok ()
  | f :: _, (none, _) => .error f.name
  | _ :: fs, (some x, d) => (finish fs d).map fun r => (x, r)

end Draft

/-! ## Values of the wrong kind -/

/-- How a number is named in a refusal. -/
def Number.described : Number → String
  | natural n => "integer `" ++ toString n.toNat ++ "`"
  | negative n => "integer `-" ++ toString n.toNat ++ "`"
  | real x => "floating point `" ++ floatText x ++ "`"

/-- The refusal of the value that starts at `c`. -/
def wrongKind (expected : String) (c : Char) (t : List Char) : Fault :=
  let named := fun (found : String) (rest : List Char) =>
    (⟨.invalidType found expected, rest, 0⟩ : Fault)
  let word := fun (found : String) (letters : List Char) =>
    match readWord letters t with
    | .ok r => named found r
    | .error f => f
  if c = 'n' then word "null" ['u', 'l', 'l']
  else if c = 't' then word "boolean `true`" ['r', 'u', 'e']
  else if c = 'f' then word "boolean `false`" ['a', 'l', 's', 'e']
  else if c = '-' ∨ c.isDigit = true then
    match readNumber (c :: t) with
    | .ok (n, r) => named n.described r
    | .error f => f
  else if c = '"' then
    match readString t with
    | .ok p => named ("string " ++ Text.quoted p.value) p.rest
    | .error f => f
  else if c = '[' then named "sequence" (c :: t)
  else if c = '\x7b' then named "map" (c :: t)
  else ⟨.expectedValue, c :: t, 1⟩

/-! ## Fields of each kind -/

def readFlag (s : List Char) : Except Fault (Parsed Bool s) :=
  match ahead s with
  | .nothing => .error ⟨.eofInValue, [], 0⟩
  | .char c t ht =>
    if c = 't' then do
      .ok ((← readWordAs true ['r', 'u', 'e'] c t).widen ht)
    else if c = 'f' then do
      .ok ((← readWordAs false ['a', 'l', 's', 'e'] c t).widen ht)
    else .error (wrongKind "a boolean" c t)

/-- Reads an identifier: a number from 0 to `2 ^ 64 - 1`, written without point
and exponent. -/
def readId (s : List Char) : Except Fault (Parsed UInt64 s) :=
  match ahead s with
  | .nothing => .error ⟨.eofInValue, [], 0⟩
  | .char c t ht =>
    if c = '-' ∨ c.isDigit = true then
      match hn : readNumber (c :: t) with
      | .ok (.natural n, r) =>
        .ok ⟨n, r, Nat.lt_of_lt_of_le (length_readNumber hn) ht⟩
      | .ok (.negative n, r) =>
        .error ⟨.invalidValue (Number.negative n).described "u64", r, 0⟩
      | .ok (.real x, r) =>
        .error ⟨.invalidType (Number.real x).described "u64", r, 0⟩
      | .error f => .error f
    else .error (wrongKind "u64" c t)

def readIdList (s : List Char) : Except Fault (Parsed (List UInt64) s) :=
  match ahead s with
  | .nothing => .error ⟨.eofInValue, [], 0⟩
  | .char c t ht =>
    if c = '[' then do
      .ok ((← readItems readId true t).after ht)
    else .error (wrongKind "a sequence" c t)

def readField : (kind : FieldKind) → Reader kind.Value
  | .flag => readFlag
  | .id => readId
  | .idList => readIdList

/-! ## Records written as lists -/

/-- How a refusal names a record whose list is too short. -/
def Shape.counted (shape : Shape) : String :=
  let n := shape.fields.length
  "struct " ++ shape.name ++ " with " ++ toString n ++
    (if n = 1 then " element" else " elements")

def endRow (s : List Char) : Except Fault (Parsed Unit s) :=
  match ahead s with
  | .nothing => .error ⟨.eofInList, [], 0⟩
  | .char c t ht =>
    if c = ']' then .ok ⟨(), t, ht⟩
    else if c = ',' then
      match skipBlanks t with
      | ']' :: u => .error ⟨.trailingComma, ']' :: u, 1⟩
      | u => .error ⟨.trailingCharacters, u, 1⟩
    else .error ⟨.trailingCharacters, c :: t, 1⟩

/-- Reads the fields in order, and the closing bracket. `filled` fields have
been read. -/
def readRow (shape : Shape) (filled : Nat) :
    (fs : List Field) → (s : List Char) → Except Fault (Parsed (Record fs) s)
  | [], s => do
    let e ← endRow s
    .ok (e.map fun _ => ())
  | f :: fs, s => do
    match ← listTurn (filled == 0) s with
    | .close r _ => .error ⟨.invalidLength filled shape.counted, r, 0⟩
    | .item r h =>
      let x ← readField f.kind r
      let xs ← readRow shape (filled + 1) fs x.rest
      .ok ((x.andThen (xs.map fun ys => (x.value, ys))).widen h)

/-! ## Records written as objects -/

/-- Reads the value of a member into the draft, or passes over it if no field
has its name. -/
def readInto (name : String) :
    (fs : List Field) → Draft fs → (s : List Char) →
      Except Fault (Parsed (Draft fs) s)
  | [], d, s => do
    let p ← skipValue s
    .ok (p.map fun _ => d)
  | f :: fs, (x, d), s =>
    if f.name = name then do
      let p ← readField f.kind s
      .ok (p.map fun y => (some y, d))
    else do
      let p ← readInto name fs d s
      .ok (p.map fun e => (x, e))

/-- The refusal of a second member with one name. It is noticed after the key,
and lies behind the closing brace if one follows. -/
def duplicateFault (name : String) (s : List Char) : Fault :=
  match skipBlanks s with
  | '}' :: t => ⟨.duplicateField name, t, 0⟩
  | t => ⟨.duplicateField name, t, 0⟩

/-- Reads the members of an object and its closing brace. -/
def readDraft (fs : List Field) (first : Bool) (d : Draft fs)
    (s : List Char) : Except Fault (Parsed (Draft fs) s) := do
  match ← memberTurn first s with
  | .close r h => .ok ⟨d, r, h⟩
  | .key name r h =>
    if d.isFilled name then .error (duplicateFault name r)
    else
      let colon ← readColon r
      let p ← readInto name fs d colon.rest
      let q ← readDraft fs false p.value p.rest
      .ok ((colon.andThen (p.andThen q)).after h)
termination_by s.length
decreasing_by exact Nat.lt_trans (colon.rest_lt_rest p) h

def readRecord (shape : Shape) (s : List Char) :
    Except Fault (Parsed (Record shape.fields) s) :=
  match ahead s with
  | .nothing => .error ⟨.eofInValue, [], 0⟩
  | .char c t ht =>
    if c = '[' then do
      .ok ((← readRow shape 0 shape.fields t).after ht)
    else if c = '\x7b' then do
      let p ← readDraft shape.fields true (Draft.empty shape.fields) t
      match p.value.finish shape.fields with
      | .ok r => .ok ((p.map fun _ => r).after ht)
      | .error name => .error ⟨.missingField name, p.rest, 0⟩
    else .error (wrongKind ("struct " ++ shape.name) c t)

end GraphCourier.Json
