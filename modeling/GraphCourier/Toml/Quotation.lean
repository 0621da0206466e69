import GraphCourier.Toml.Lexical

/-!
# TOML strings

There are four kinds: basic strings in double quotes, in which a backslash
starts an escape, literal strings in single quotes, in which it does not, and
either kind over several lines between three quotes. A line end right after the
opening three quotes is dropped. The closing three quotes may follow on up to
two quotes that belong to the text.
-/

namespace GraphCourier.Toml

/-! ## Escapes -/

def hexValue? (c : Char) : Option Nat :=
  if c.isDigit then some (c.toNat - '0'.toNat)
  else if 'a' ≤ c ∧ c ≤ 'f' then some (c.toNat - 'a'.toNat + 10)
  else if 'A' ≤ c ∧ c ≤ 'F' then some (c.toNat - 'A'.toNat + 10)
  else none

/-- The number of exactly `count` hexadecimal digits, after `value`. -/
def readHex (count value : Nat) (s : List Char) :
    Option (Nat × List Char) :=
  match count, s with
  | 0, s => some (value, s)
  | _ + 1, [] => none
  | count + 1, c :: t => do readHex count (16 * value + (← hexValue? c)) t

theorem length_readHex_le {count value n : Nat} {s r : List Char}
    (h : readHex count value s = some (n, r)) : r.length ≤ s.length := by
  induction count generalizing value s with
  | zero => simp_all [readHex]
  | succ count ih =>
    cases s with
    | nil => simp [readHex] at h
    | cons c t =>
      simp only [readHex, Option.bind_eq_bind, Option.bind_eq_some_iff] at h
      obtain ⟨d, _, h⟩ := h
      exact Nat.le_succ_of_le (ih h)

/-- The character of a code point, unless it is half of a surrogate pair or too
large. -/
def scalar? (n : Nat) : Option Char :=
  if n.isValidChar then some (Char.ofNat n) else none

/-- Reads a character given by `count` hexadecimal digits. -/
def readCode (count : Nat) (c : Char) (t : List Char) :
    Option (Parsed Char (c :: t)) :=
  match h : readHex count 0 t with
  | some (n, r) => do
    return ⟨← scalar? n, r, Nat.lt_succ_of_le (length_readHex_le h)⟩
  | none => none

/-- The character that a letter stands for after a backslash. -/
def shortEscape? (c : Char) : Option Char :=
  match c with
  | 'b' => some '\x08'
  | 't' => some '\t'
  | 'n' => some '\n'
  | 'f' => some '\x0c'
  | 'r' => some '\r'
  | 'e' => some '\x1b'
  | '"' => some '"'
  | '\\' => some '\\'
  | _ => none

/-- The number of hexadecimal digits that follow a letter after a backslash. -/
def codeLength? (c : Char) : Option Nat :=
  match c with
  | 'x' => some 2
  | 'u' => some 4
  | 'U' => some 8
  | _ => none

def readEscape (s : List Char) : Option (Parsed Char s) :=
  match s with
  | [] => none
  | c :: t =>
    match shortEscape? c with
    | some x => some (.one x c t)
    | none => do readCode (← codeLength? c) c t

/-! ## Strings on one line -/

/-- Reads a basic string whose opening quote was read already. -/
def readBasic (s : List Char) : Option (Parsed (List Char) s) :=
  match s with
  | [] => none
  | c :: t =>
    if c = '"' then some (.one [] c t)
    else if c = '\\' then do
      let p ← readEscape t
      let q ← readBasic p.rest
      return (p.andThen (q.map (p.value :: ·))).behind c
    else if isControl c then none
    else do
      let q ← readBasic t
      return (q.map (c :: ·)).behind c
termination_by s.length
decreasing_by
  · exact p.rest_lt_cons c
  · exact length_lt_cons c t

/-- Reads a literal string whose opening quote was read already. -/
def readLiteral (s : List Char) : Option (Parsed (List Char) s) :=
  match s with
  | [] => none
  | c :: t =>
    if c = '\'' then some (.one [] c t)
    else if isControl c then none
    else do
      let q ← readLiteral t
      return (q.map (c :: ·)).behind c

/-! ## Strings over several lines -/

/-- Whether a character stands for itself in a string over several lines, given
what follows it. -/
def isLineText (c : Char) (t : List Char) : Bool :=
  c = '\n' || (c = '\r' && t.head? == some '\n') || !isControl c

/-- Reads the closing three quotes, and the quotes before them that belong to
the text. -/
def readClosing (quote : Char) (s : List Char) :
    Option (Parsed (List Char) s) :=
  match s with
  | a :: b :: c :: t =>
    if a = quote ∧ b = quote ∧ c = quote then
      let extra := (t.take 2).takeWhile (· == quote)
      some ⟨extra, t.drop extra.length, by simp; omega⟩
    else none
  | _ => none

/-- The blanks and line ends that a backslash at the end of a line swallows,
cut off. -/
def skipBreaks : List Char → List Char
  | [] => []
  | c :: t =>
    if isBlank c || c = '\n' || (c = '\r' && t.head? == some '\n') then
      skipBreaks t
    else c :: t

theorem length_skipBreaks_le (s : List Char) :
    (skipBreaks s).length ≤ s.length := by
  induction s with
  | nil => simp [skipBreaks]
  | cons c t ih =>
    unfold skipBreaks
    split
    · exact Nat.le_succ_of_le ih
    · exact Nat.le_refl _

/-- Whether nothing but blanks stands before the end of the line. -/
def breaksLine (s : List Char) : Bool :=
  match skipBlanks s with
  | '\n' :: _ => true
  | '\r' :: '\n' :: _ => true
  | _ => false

/-- Reads the lines of a basic string up to the closing quotes. -/
def readBasicLines (s : List Char) : Option (Parsed (List Char) s) :=
  match readClosing '"' s with
  | some p => some p
  | none =>
    match s with
    | [] => none
    | c :: t =>
      if c = '\\' then
        if breaksLine t then do
          let q ← readBasicLines (skipBreaks t)
          return (q.widen (length_skipBreaks_le t)).behind c
        else do
          let p ← readEscape t
          let q ← readBasicLines p.rest
          return (p.andThen (q.map (p.value :: ·))).behind c
      else if isLineText c t then do
        let q ← readBasicLines t
        return (q.map (c :: ·)).behind c
      else none
termination_by s.length
decreasing_by
  · exact Nat.lt_succ_of_le (length_skipBreaks_le t)
  · exact p.rest_lt_cons c
  · exact length_lt_cons c t

/-- Reads the lines of a literal string up to the closing quotes. -/
def readLiteralLines (s : List Char) : Option (Parsed (List Char) s) :=
  match readClosing '\'' s with
  | some p => some p
  | none =>
    match s with
    | [] => none
    | c :: t =>
      if isLineText c t then do
        let q ← readLiteralLines t
        return (q.map (c :: ·)).behind c
      else none

/-! ## Any string -/

/-- Drops a line end right after the opening quotes. -/
def dropFirstBreak : List Char → List Char
  | '\n' :: t => t
  | '\r' :: '\n' :: t => t
  | s => s

theorem length_dropFirstBreak_le (s : List Char) :
    (dropFirstBreak s).length ≤ s.length := by
  unfold dropFirstBreak
  split
  · exact Nat.le_succ _
  · exact Nat.le_add_right _ 2
  · exact Nat.le_refl _

/-- Reads a string on one line, its opening quote included. -/
def readQuoted (s : List Char) : Option (Parsed String s) :=
  match s with
  | '"' :: t => do
    return ((← readBasic t).map String.ofList).behind '"'
  | '\'' :: t => do
    return ((← readLiteral t).map String.ofList).behind '\''
  | _ => none

/-- Reads a string of any kind, its opening quotes included. -/
def readAnyQuoted (s : List Char) : Option (Parsed String s) :=
  match s with
  | '"' :: '"' :: '"' :: t => do
    let p ← readBasicLines (dropFirstBreak t)
    let p := (p.map String.ofList).widen (length_dropFirstBreak_le t)
    return ((p.behind '"').behind '"').behind '"'
  | '\'' :: '\'' :: '\'' :: t => do
    let p ← readLiteralLines (dropFirstBreak t)
    let p := (p.map String.ofList).widen (length_dropFirstBreak_le t)
    return ((p.behind '\'').behind '\'').behind '\''
  | s => readQuoted s

end GraphCourier.Toml
