import GraphCourier.Json.Reader

/-!
# JSON strings

Reading starts behind the opening quote and ends behind the closing one. An
escape is a backslash and a letter, or `\u` and four hexadecimal digits. Code
points beyond the first plane are written as two such escapes, a leading and a
trailing surrogate; half of a pair is refused. Writing escapes quotes,
backslashes and control characters, nothing else.
-/

namespace GraphCourier.Json

/-! ## Escapes -/

def hexDigit? (c : Char) : Option Nat :=
  if c.isDigit then some (c.toNat - '0'.toNat)
  else if 'a' ≤ c ∧ c ≤ 'f' then some (c.toNat - 'a'.toNat + 10)
  else if 'A' ≤ c ∧ c ≤ 'F' then some (c.toNat - 'A'.toNat + 10)
  else none

def hexUnit? (a b c d : Char) : Option Nat := do
  return 4096 * (← hexDigit? a) + 256 * (← hexDigit? b) +
    16 * (← hexDigit? c) + (← hexDigit? d)

def readHex (s : List Char) : Except Fault (Parsed Nat s) :=
  match s with
  | a :: b :: c :: d :: t =>
    match hexUnit? a b c d with
    | some n => .ok ⟨n, t, by simp; omega⟩
    | none => .error ⟨.invalidEscape, a :: b :: c :: d :: t, 4⟩
  | s =>
    if byteCount s < 4 then .error ⟨.eofInString, [], 0⟩
    else .error ⟨.invalidEscape, s, 4⟩

/-- Whether a number is the first half of a pair. -/
def isLeading (n : Nat) : Bool := decide (0xD800 ≤ n ∧ n ≤ 0xDBFF)

/-- Whether a number is the second half of a pair. -/
def isTrailing (n : Nat) : Bool := decide (0xDC00 ≤ n ∧ n ≤ 0xDFFF)

def joinPair (leading trailing : Nat) : Char :=
  Char.ofNat (0x10000 + 0x400 * (leading - 0xD800) + (trailing - 0xDC00))

/-- Reads the second half of a pair, backslash and letter included. -/
def readTrailing (s : List Char) : Except Fault (Parsed Nat s) :=
  match s with
  | [] => .error ⟨.eofInString, [], 0⟩
  | '\\' :: t =>
    match t with
    | [] => .error ⟨.eofInString, [], 0⟩
    | 'u' :: u => do
      let p ← readHex u
      if isTrailing p.value then .ok ((p.behind 'u').behind '\\')
      else .error ⟨.loneSurrogate, p.rest, 0⟩
    | t => .error ⟨.endOfHexEscape, t, 1⟩
  | s => .error ⟨.endOfHexEscape, s, 1⟩

/-- Reads the digits of a `\u` escape, and of the one after it where two belong
together. -/
def readUnicode (s : List Char) : Except Fault (Parsed Char s) := do
  let p ← readHex s
  if isTrailing p.value then .error ⟨.loneSurrogate, p.rest, 0⟩
  else if isLeading p.value then
    let q ← readTrailing p.rest
    .ok (p.andThen (q.map (joinPair p.value)))
  else .ok (p.map Char.ofNat)

/-- The character that a letter stands for after a backslash. -/
def shortEscape? (c : Char) : Option Char :=
  match c with
  | '"' => some '"'
  | '\\' => some '\\'
  | '/' => some '/'
  | 'b' => some '\x08'
  | 'f' => some '\x0c'
  | 'n' => some '\n'
  | 'r' => some '\r'
  | 't' => some '\t'
  | _ => none

def readEscape (s : List Char) : Except Fault (Parsed Char s) :=
  match s with
  | [] => .error ⟨.eofInString, [], 0⟩
  | c :: t =>
    match shortEscape? c with
    | some x => .ok (.one x c t)
    | none =>
      if c = 'u' then do
        let p ← readUnicode t
        .ok (p.behind c)
      else .error ⟨.invalidEscape, c :: t, 1⟩

/-! ## Strings -/

/-- Reads the characters of a string up to its closing quote. -/
def readChars (s : List Char) : Except Fault (Parsed (List Char) s) :=
  match s with
  | [] => .error ⟨.eofInString, [], 0⟩
  | c :: t =>
    if c = '"' then .ok (.one [] c t)
    else if c = '\\' then do
      let p ← readEscape t
      let q ← readChars p.rest
      .ok ((p.andThen (q.map (p.value :: ·))).behind c)
    else if c.toNat < 0x20 then .error ⟨.controlCharacter, c :: t, 1⟩
    else do
      let q ← readChars t
      .ok ((q.map (c :: ·)).behind c)
termination_by s.length
decreasing_by
  · exact p.rest_lt_cons c
  · exact length_lt_cons c t

def readString (s : List Char) : Except Fault (Parsed String s) := do
  let p ← readChars s
  .ok (p.map String.ofList)

/-! ## Writing -/

def escapedChar (c : Char) : List Char :=
  if c = '"' then ['\\', '"']
  else if c = '\\' then ['\\', '\\']
  else if c = '\x08' then ['\\', 'b']
  else if c = '\x0c' then ['\\', 'f']
  else if c = '\n' then ['\\', 'n']
  else if c = '\r' then ['\\', 'r']
  else if c = '\t' then ['\\', 't']
  else if c.toNat < 0x20 then
    ['\\', 'u', '0', '0', Nat.digitChar (c.toNat / 16),
      Nat.digitChar (c.toNat % 16)]
  else [c]

def stringText (s : String) : String :=
  "\"" ++ String.ofList (s.toList.flatMap escapedChar) ++ "\""

end GraphCourier.Json
