import GraphCourier.Toml.Quotation
import GraphCourier.Toml.Scalar

/-!
# TOML documents

A document is a sequence of lines: headers, entries and comments. It is first
read into statements, each by itself, and then put together into one table,
which is where a key that is given twice is noticed. Lists and tables in braces
may be nested 80 deep, and a dotted key may have 80 parts.
-/

namespace GraphCourier.Toml

/-! ## Keys -/

/-- How deep values may be nested, and how many parts a key may have. -/
def maxDepth : Nat := 80

def isBareKeyChar (c : Char) : Bool := c.isAlphanum || c = '_' || c = '-'

def readSimpleKey (s : List Char) : Option (Parsed String s) :=
  match s with
  | [] => none
  | c :: t =>
    if c = '"' ∨ c = '\'' then readQuoted (c :: t)
    else if hc : isBareKeyChar c = true then
      some ⟨String.ofList ((c :: t).takeWhile isBareKeyChar),
        (c :: t).dropWhile isBareKeyChar, by
          rw [List.dropWhile_cons, if_pos hc]
          exact Nat.lt_succ_of_le (List.dropWhile_suffix _).length_le⟩
    else none

/-- A key of one or more parts. -/
structure Key where
  path : List String
  last : String
deriving DecidableEq, Repr

/-- Reads a key with at most `parts` more parts, and the blanks around it. -/
def readKey (parts : Nat) (s : List Char) : Option (Parsed Key s) :=
  match parts with
  | 0 => none
  | parts + 1 => do
    have h1 := length_skipBlanks_le s
    let p ← readSimpleKey (skipBlanks s)
    have h2 := p.shorter
    have h3 := length_skipBlanks_le p.rest
    match h : skipBlanks p.rest with
    | '.' :: t => do
      let q ← readKey parts t
      return (q.map fun k => ⟨p.value :: k.path, k.last⟩).widen (by
        rw [h] at h3; simp at h3; omega)
    | rest => return ⟨⟨[], p.value⟩, rest, by rw [h] at h3; omega⟩

/-- Reads the key of an entry and its equals sign. -/
def readEntryKey (s : List Char) : Option (Parsed Key s) := do
  let p ← readKey maxDepth s
  match h : p.rest with
  | '=' :: t => return ⟨p.value, t, by
      have := p.shorter; rw [h] at this; simp at this; omega⟩
  | _ => none

/-! ## Values -/

/-- Drops blanks, line ends and comments between the parts of a value. -/
def skipWithin (s : List Char) : Option { r : List Char // r.length ≤ s.length } :=
  match h : skipFiller false s with
  | some r => some ⟨r, length_skipFiller_le h⟩
  | none => none

/-- Reads the items of a list and its closing bracket. A comma may follow the
last item. -/
def readItems (item : Reader Value) (s : List Char) :
    Option (Parsed (List Value) s) := do
  let ⟨r, hr⟩ ← skipWithin s
  match r, hr with
  | [], _ => none
  | c :: t, hr =>
    if c = ']' then return ⟨[], t, hr⟩
    else
      let x ← item (c :: t)
      let ⟨u, hu⟩ ← skipWithin x.rest
      match u, hu with
      | [], _ => none
      | d :: v, hu =>
        if d = ']' then return ⟨[x.value], v, x.lt_of_lt_rest hr hu⟩
        else if d = ',' then
          let xs ← readItems item v
          return (xs.map (x.value :: ·)).after (x.lt_of_lt_rest hr hu)
        else none
termination_by s.length
decreasing_by exact x.lt_of_lt_rest hr hu

/-- Reads the entries of a table in braces and its closing brace. A comma may
follow the last entry. -/
def readEntries (item : Reader Value) (ms : Members) (s : List Char) :
    Option (Parsed Members s) := do
  let ⟨r, hr⟩ ← skipWithin s
  match r, hr with
  | [], _ => none
  | c :: t, hr =>
    if c = '\x7d' then return ⟨ms, t, hr⟩
    else
      let k ← readEntryKey (c :: t)
      let x ← item (skipBlanks k.rest)
      let x := k.andThen (x.widen (length_skipBlanks_le k.rest))
      let ms ← ms.addEntry k.value.path k.value.last x.value
      let ⟨u, hu⟩ ← skipWithin x.rest
      match u, hu with
      | [], _ => none
      | d :: v, hu =>
        if d = '\x7d' then return ⟨ms, v, x.lt_of_lt_rest hr hu⟩
        else if d = ',' then
          return (← readEntries item ms v).after (x.lt_of_lt_rest hr hu)
        else none
termination_by s.length
decreasing_by exact x.lt_of_lt_rest hr hu

def readWord (s : List Char) : Option (Parsed Value s) :=
  match h : splitWord s with
  | ([], _) => none
  | (c :: word, rest) => do
    return ⟨← wordValue? (c :: word), rest, by
      have := congrArg List.length (splitWord_append s)
      rw [h] at this
      simp at this
      omega⟩

/-- Reads a value. `depth` more lists and tables may be opened. -/
def readValue (depth : Nat) (s : List Char) : Option (Parsed Value s) :=
  match s with
  | '"' :: t => do return (← readAnyQuoted ('"' :: t)).map .text
  | '\'' :: t => do return (← readAnyQuoted ('\'' :: t)).map .text
  | '[' :: t =>
    match depth with
    | 0 => none
    | depth + 1 => do
      return ((← readItems (readValue depth) t).map .list).behind '['
  | '\x7b' :: t =>
    match depth with
    | 0 => none
    | depth + 1 => do
      let p ← readEntries (readValue depth) [] t
      return (p.map (.table .closed)).behind '\x7b'
  | s => readWord s

/-! ## Statements -/

inductive Statement where
  /-- The entries that follow belong to this table. -/
  | table (key : Key)
  /-- The entries that follow belong to a new table at the end of this list. -/
  | element (key : Key)
  | entry (key : Key) (value : Value)

def readStatement (s : List Char) : Option (Parsed Statement s) :=
  match s with
  | '[' :: '[' :: t => do
    let k ← readKey maxDepth t
    match h : k.rest with
    | ']' :: ']' :: u => return ⟨.element k.value, u, by
        have := k.shorter; rw [h] at this; simp at this ⊢; omega⟩
    | _ => none
  | '[' :: t => do
    let k ← readKey maxDepth t
    match h : k.rest with
    | ']' :: u => return ⟨.table k.value, u, by
        have := k.shorter; rw [h] at this; simp at this ⊢; omega⟩
    | _ => none
  | s => do
    let k ← readEntryKey s
    let x ← readValue maxDepth (skipBlanks k.rest)
    return (k.andThen (x.widen (length_skipBlanks_le k.rest))).map
      (.entry k.value)

/-- Reads all statements. Each has its own line. -/
def readStatements (s : List Char) : Option (List Statement) := do
  let ⟨r, hr⟩ ← skipWithin s
  match r, hr with
  | [], _ => return []
  | r, hr =>
    let p ← readStatement r
    if endsLine p.rest then
      have : p.rest.length < s.length := p.rest_lt hr
      return p.value :: (← readStatements p.rest)
    else none
termination_by s.length

/-! ## Putting together -/

/-- Adds entries to the table that the path of the last header leads to. -/
def addStatements (here : List String) :
    List Statement → Members → Option Members
  | [], ms => some ms
  | .table key :: rest, ms => do
    addStatements (key.path ++ [key.last]) rest
      (← ms.openTable key.path key.last)
  | .element key :: rest, ms => do
    addStatements (key.path ++ [key.last]) rest
      (← ms.startTable key.path key.last)
  | .entry key v :: rest, ms => do
    addStatements here rest (← Members.within false
      (fun _ inner => Members.addEntry key.path key.last v inner)
      here .header ms)

/-- Reads a document: the members of its outermost table. A byte order mark at
its start is passed over. -/
def parse (s : String) : Option Members := do
  let cs := match s.toList with
    | '\ufeff' :: cs => cs
    | cs => cs
  addStatements [] (← readStatements cs) []

end GraphCourier.Toml
