import GraphCourier.Decimal
import GraphCourier.LogLine
import GraphCourier.Text.Blank
import GraphCourier.Text.Slice
import GraphCourier.Unicode.Alphanumeric

/-!
# Log filters

A filter is a list of directives with commas between them. A directive is a
level, a target, or `target=level`, and may name a span and fields in brackets:
`target[span{field}]=level`. A line passes if the most specific directive
for its target allows its level: the one with the longest target, then the one
with the most fields, then the latest.

No span is ever open here, so a directive that names one, or a value for a
field, allows nothing. A filter with no directives lets errors pass.
-/

namespace GraphCourier

/-- What is wrong with a text that is no filter. -/
inductive LogFault where
  | invalid
  /-- A name would have to be cut inside a character. -/
  | torn
deriving DecidableEq, Repr

structure LogDirective where
  /-- How a target must begin. -/
  target : Option String
  span : Bool
  /-- The fields a line must have. -/
  fields : List String
  /-- Whether a field is asked for by its value. -/
  valued : Bool
  /-- The rank of the least important level that passes; 0 if none does. -/
  threshold : Nat
deriving DecidableEq, Repr

abbrev LogFilter := List LogDirective

namespace LogDirective

/-- A directive that allows everything, which is where reading starts. -/
def all : LogDirective := ⟨none, false, [], false, 5⟩

/-! ## Reading -/

/-- The rank of a level given by name, in any case, or by number. -/
def threshold? (cs : List Char) : Option Nat :=
  let byName :=
    match String.ofList (cs.map Char.toLower) with
    | "off" => some 0
    | "error" => some 1
    | "warn" => some 2
    | "info" => some 3
    | "debug" => some 4
    | "trace" => some 5
    | _ => none
  (Decimal.read 6 cs).or byName

/-- The rank of the level after an equals sign. No level is the least important
one. -/
def levelAfter? (cs : List Char) : Option Nat :=
  if cs.isEmpty then some 5 else threshold? cs

/-- Where a reader stands, and since which place. -/
inductive Place where
  | start
  | word (since : Nat)
  | span (since : Nat)
  | field (since : Nat)
  | fieldsEnd
  | bracketsEnd
  | level (since : Nat)

/-- The characters that a directive may start with. -/
def startsWord (c : Char) : Bool :=
  c = '-' || c = ':' || c = '_' || Unicode.isAlphanumeric c

/-- The piece of a text between two places, or behind one. -/
def cut (source : List Char) (start : Nat) (stop : Nat) : Except LogFault (List Char) :=
  match Text.slice? start stop source with
  | some piece => .ok piece
  | none => .error .torn

def cutFrom (source : List Char) (start : Nat) : Except LogFault (List Char) :=
  match Text.dropBytes? start source with
  | some piece => .ok piece
  | none => .error .torn

/-- Adds a field that is asked for by its name, or by its value as well. -/
def addField (isMatcher : List Char → Bool) (text : List Char) (d : LogDirective) :
    Except LogFault LogDirective :=
  let named := { d with
    fields := d.fields ++ [String.ofList (text.takeWhile (· != '='))] }
  match text.dropWhile (· != '=') with
  | [] => .ok named
  | _ :: value =>
    if isMatcher (value.takeWhile (· != '=')) then .ok { named with valued := true }
    else .error .invalid

/-- Reads one character, which stands at place `i`. Names are cut out of
`source`. -/
def readChar (isMatcher : List Char → Bool) (source : List Char) (i : Nat) (c : Char)
    (place : Place) (d : LogDirective) : Except LogFault (Place × LogDirective) :=
  match place with
  | .start =>
    if c = '[' then .ok (.span (i + 1), d)
    else if startsWord c then .ok (.word i, d)
    else .error .invalid
  | .word since =>
    if c = '=' then do
      let name ← cut source since i
      return (.level (i + 1), { d with target := some (String.ofList name) })
    else if c = '[' then do
      let name ← cut source since i
      return (.span (i + 1), { d with target := some (String.ofList name) })
    else .ok (.word since, d)
  | .span since =>
    if c = ']' then do
      let _ ← cut source since i
      return (.bracketsEnd, { d with span := true })
    else if c = '\x7b' then do
      let name ← cut source since i
      return (.field (i + 1), { d with span := !name.isEmpty })
    else .ok (.span since, d)
  | .field since =>
    if c = '\x7d' then do
      let text ← cut source since i
      if text.isEmpty then .error .invalid
      else return (.fieldsEnd, ← addField isMatcher text d)
    else .ok (.field since, d)
  | .fieldsEnd => if c = ']' then .ok (.bracketsEnd, d) else .error .invalid
  | .bracketsEnd => if c = '=' then .ok (.level (i + 1), d) else .error .invalid
  | .level since => .ok (.level since, d)

/-- Reads the characters from place `i` on. -/
def readChars (isMatcher : List Char → Bool) (source : List Char) :
    Nat → List Char → Place → LogDirective → Except LogFault (Place × LogDirective)
  | _, [], place, d => .ok (place, d)
  | i, c :: cs, place, d => do
    let (place, d) ← readChar isMatcher source i c place d
    readChars isMatcher source (i + c.utf8Size) cs place d

def trimmed (cs : List Char) : List Char :=
  let front := cs.dropWhile Text.isWhiteSpace
  (front.reverse.dropWhile Text.isWhiteSpace).reverse

/-- Reads what stands behind the last mark of a directive. -/
def readEnd (source : List Char) (place : Place) (d : LogDirective) :
    Except LogFault LogDirective :=
  match place with
  | .word since => do
    let word ← cutFrom source since
    match threshold? word with
    | some n => return { d with threshold := n }
    | none => return { d with target := some (String.ofList word) }
  | .level since => do
    match levelAfter? (← cutFrom source since) with
    | some n => return { d with threshold := n }
    | none => .error .invalid
  | .bracketsEnd => .ok d
  | _ => .error .invalid

/-- Reads a directive. Places are counted without the white space around it, but
names are cut out of the text with it: they begin and end too far to the left, and may
do so inside a character. -/
def read (isMatcher : List Char → Bool) (source : List Char) : Except LogFault LogDirective := do
  let (place, d) ← readChars isMatcher source 0 (trimmed source) .start all
  readEnd source place d

/-! ## Judging -/

def concerns (d : LogDirective) (line : LogLine) : Bool :=
  !d.span && !d.valued &&
    (match d.target with
      | some t => line.target.startsWith t
      | none => true) &&
    d.fields.all fun f =>
      f == "message" || line.fields.any fun entry => entry.1 == f

/-- Whether `d` is at least as specific as `e`. -/
def refines (d e : LogDirective) : Bool :=
  let size := fun (x : LogDirective) =>
    match x.target with
    | some t => t.utf8ByteSize + 1
    | none => 0
  if size d ≠ size e then decide (size e < size d)
  else if d.fields.length ≠ e.fields.length then
    decide (e.fields.length < d.fields.length)
  else !d.fields.lex e.fields fun a b => decide (a < b)

end LogDirective

namespace LogFilter

def splitCommas : List Char → List (List Char)
  | [] => [[]]
  | c :: cs =>
    match splitCommas cs with
    | part :: parts =>
      if c = ',' then [] :: part :: parts else (c :: part) :: parts
    | [] => [[c]]

def errors : LogFilter := [{ LogDirective.all with threshold := 1 }]

/-- Lets everything from `INFO` on pass. -/
def standard : LogFilter := [{ LogDirective.all with threshold := 3 }]

/-- Reads a filter. What is first at fault decides. -/
def read (isMatcher : List Char → Bool) (s : String) : Except LogFault LogFilter := do
  let parts := (splitCommas s.toList).filter fun part => !part.isEmpty
  let directives ← parts.mapM (LogDirective.read isMatcher)
  return if directives.isEmpty then errors else directives

/-- The filter to go by: the one that is written, or the standard one if none is.
There is none to go by if the text cannot be cut as it would have to be. -/
def ofText? (isMatcher : List Char → Bool) (s : String) : Option LogFilter :=
  match read isMatcher s with
  | .ok filter => some filter
  | .error .invalid => some standard
  | .error .torn => none

/-- The most specific directive for a line. -/
def directiveFor? (filter : LogFilter) (line : LogLine) :
    Option LogDirective :=
  filter.foldl (fun best d =>
    if d.concerns line then
      match best with
      | some b => if d.refines b then some d else some b
      | none => some d
    else best) none

def allows (filter : LogFilter) (line : LogLine) : Bool :=
  match filter.directiveFor? line with
  | some d => decide (line.level.rank ≤ d.threshold)
  | none => false

end LogFilter

end GraphCourier
