/-!
# What can be wrong with a JSON text

A reader that refuses a text says why (`Cause`) and where (`Fault`): it keeps
what was left of the text and how many bytes further the blame lies. The place
shown to people, line and column, is worked out from the whole text only when
the message is written. Columns count bytes, lines start at one, and a fault
found by looking at a character lies on that character.
-/

namespace GraphCourier.Json

/-- Why a text is refused. -/
inductive Cause where
  | eofInList
  | eofInObject
  | eofInString
  | eofInValue
  | expectedColon
  | expectedListCommaOrEnd
  | expectedObjectCommaOrEnd
  | expectedWord
  | expectedValue
  | invalidEscape
  | invalidNumber
  | numberOutOfRange
  | controlCharacter
  | keyMustBeString
  | loneSurrogate
  | endOfHexEscape
  | trailingComma
  | trailingCharacters
  | tooDeep
  /-- A value of another kind than the one asked for. -/
  | invalidType (found expected : String)
  /-- A value of the right kind outside the range asked for. -/
  | invalidValue (found expected : String)
  /-- A list that ends before all fields are filled. -/
  | invalidLength (length : Nat) (expected : String)
  | missingField (name : String)
  | duplicateField (name : String)
deriving DecidableEq, Repr

def Cause.message : Cause → String
  | eofInList => "EOF while parsing a list"
  | eofInObject => "EOF while parsing an object"
  | eofInString => "EOF while parsing a string"
  | eofInValue => "EOF while parsing a value"
  | expectedColon => "expected `:`"
  | expectedListCommaOrEnd => "expected `,` or `]`"
  | expectedObjectCommaOrEnd => "expected `,` or `\x7d`"
  | expectedWord => "expected ident"
  | expectedValue => "expected value"
  | invalidEscape => "invalid escape"
  | invalidNumber => "invalid number"
  | numberOutOfRange => "number out of range"
  | controlCharacter =>
    "control character (\\u0000-\\u001F) found while parsing a string"
  | keyMustBeString => "key must be a string"
  | loneSurrogate => "lone leading surrogate in hex escape"
  | endOfHexEscape => "unexpected end of hex escape"
  | trailingComma => "trailing comma"
  | trailingCharacters => "trailing characters"
  | tooDeep => "recursion limit exceeded"
  | invalidType found expected =>
    "invalid type: " ++ found ++ ", expected " ++ expected
  | invalidValue found expected =>
    "invalid value: " ++ found ++ ", expected " ++ expected
  | invalidLength length expected =>
    "invalid length " ++ toString length ++ ", expected " ++ expected
  | missingField name => "missing field `" ++ name ++ "`"
  | duplicateField name => "duplicate field `" ++ name ++ "`"

/-- A refusal: its cause, the text left when it was noticed, and how many bytes
beyond the start of that text the blame lies. -/
structure Fault where
  cause : Cause
  rest : List Char
  ahead : Nat := 0
deriving DecidableEq, Repr

/-- The number of bytes of a text in UTF-8. -/
def byteCount (s : List Char) : Nat := s.foldl (fun n c => n + c.utf8Size) 0

/-- Line and column of a byte index: the number of line ends before it plus
one, and its distance from the last of them. -/
def place (index : Nat) (text : List Char) : Nat × Nat :=
  go text 0 1 0
where
  /-- Walks over the text: the offset reached, the line and its start. -/
  go : List Char → Nat → Nat → Nat → Nat × Nat
    | [], _, line, start => (line, index - start)
    | c :: cs, offset, line, start =>
      if index ≤ offset then (line, index - start)
      else if c = '\n' then go cs (offset + 1) (line + 1) (offset + 1)
      else go cs (offset + c.utf8Size) line start

/-- The byte that a fault in `text` blames. -/
def Fault.index (f : Fault) (text : List Char) : Nat :=
  let total := byteCount text
  min total (total - byteCount f.rest + f.ahead)

/-- The message of a fault in `text`. -/
def Fault.message (f : Fault) (text : List Char) : String :=
  let (line, column) := place (f.index text) text
  f.cause.message ++ " at line " ++ toString line ++ " column " ++
    toString column

end GraphCourier.Json
