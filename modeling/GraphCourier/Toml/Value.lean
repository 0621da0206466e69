/-!
# TOML values

A settings file is one table. Its tables remember how they came to be, because
that decides whether later lines may still add to them. Only strings, whole
numbers and the shape of lists and tables matter to a reader of settings; other
values are kept as they were written.
-/

namespace GraphCourier.Toml

/-- How a table came to be. -/
inductive Origin where
  /-- Written between braces; nothing can be added. -/
  | closed
  /-- Opened by a header. -/
  | header
  /-- Passed by a header that opens a table inside it. -/
  | passing
  /-- Passed by a dotted key. -/
  | dotted
deriving DecidableEq, Repr

inductive Value where
  | text (s : String)
  | integer (n : Int)
  /-- A number with a point or an exponent, an infinity, or none at all. -/
  | real (written : String)
  | flag (b : Bool)
  /-- A date, a time, or both. -/
  | moment (written : String)
  | list (items : List Value)
  | table (origin : Origin) (members : List (String × Value))
  /-- A list of tables that headers extend: the latest one, and the earlier
  ones, the first of all at the end. -/
  | tables (latest : List (String × Value))
      (earlier : List (List (String × Value)))
deriving Inhabited

/-- The members of a table, in the order they were added. -/
abbrev Members := List (String × Value)

namespace Members

def get? (key : String) (ms : Members) : Option Value :=
  (ms.find? fun m => m.1 == key).map Prod.snd

/-- Changes the member of this name, or adds it. -/
def modify (key : String) (f : Option Value → Option Value) :
    Members → Option Members
  | [] => (f none).map fun v => [(key, v)]
  | (k, v) :: ms =>
    if k = key then (f (some v)).map fun w => (k, w) :: ms
    else (modify key f ms).map fun rest => (k, v) :: rest

/-- Follows a path into the tables of a table and changes the members of the
last one, which `change` is given along with its origin. Missing tables on the
way are added. A dotted path may not enter a table that has its own header, and
nothing enters a closed table; a list of tables is entered at its latest. -/
def within (dotted : Bool) (change : Origin → Members → Option Members) :
    (path : List String) → Origin → Members → Option Members
  | [], origin, ms => change origin ms
  | key :: path, _, ms =>
    modify key (fun
      | none =>
        let origin := if dotted then Origin.dotted else .passing
        (within dotted change path origin []).map (.table origin)
      | some (.table origin inner) =>
        if origin = .closed ∨ (dotted = true ∧ origin = .header) then none
        else (within dotted change path origin inner).map (.table origin)
      | some (.tables latest earlier) =>
        (within dotted change path .header latest).map (.tables · earlier)
      | some _ => none) ms

/-- Adds a value under a dotted key. A key of one part belongs to the table
itself; otherwise the table it ends in must have been made by dotted keys. -/
def addEntry (path : List String) (key : String) (v : Value) (ms : Members) :
    Option Members :=
  within true (fun origin inner =>
    if path.isEmpty || origin == .dotted then
      modify key (fun | none => some v | some _ => none) inner
    else none) path .header ms

/-- Opens the table of a header. A table can be opened once, also after other
headers have passed it. -/
def openTable (path : List String) (key : String) (ms : Members) :
    Option Members :=
  within false (fun _ inner =>
    modify key (fun
      | none => some (.table .header [])
      | some (.table .passing ms) => some (.table .header ms)
      | some _ => none) inner) path .header ms

def startTable (path : List String) (key : String) (ms : Members) :
    Option Members :=
  within false (fun _ inner =>
    modify key (fun
      | none => some (.tables [] [])
      | some (.tables latest earlier) => some (.tables [] (latest :: earlier))
      | some _ => none) inner) path .header ms

end Members

end GraphCourier.Toml
