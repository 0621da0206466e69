import GraphCourier.Decimal
import GraphCourier.Idna.Domain
import GraphCourier.Url.Percent

/-!
# Hosts

A host is a name or an address. Between brackets stands an IPv6 address. For
the schemes that name Internet hosts, any name whose last part is a number must
be an IPv4 address, of which parts may be left out or written in octal or
hexadecimal; other names are turned into ASCII. For other schemes a name is
taken as it is.
-/

namespace GraphCourier.Url

/-- What can be wrong with a URL. -/
inductive UrlFault where
  | relativeWithoutBase
  | baseWithoutPath
  | emptyHost
  | invalidDomain
  | invalidHostCharacter
  | invalidIpv4
  | invalidIpv6
  | invalidPort
deriving DecidableEq, Repr

def UrlFault.text : UrlFault → String
  | relativeWithoutBase => "relative URL without a base"
  | baseWithoutPath => "relative URL with a cannot-be-a-base base"
  | emptyHost => "empty host"
  | invalidDomain => "invalid international domain name"
  | invalidHostCharacter => "invalid domain character"
  | invalidIpv4 => "invalid IPv4 address"
  | invalidIpv6 => "invalid IPv6 address"
  | invalidPort => "invalid port number"

inductive Host where
  | name (text : String)
  /-- An address of 32 bits. -/
  | ipv4 (address : Nat)
  /-- An address of eight times 16 bits. -/
  | ipv6 (pieces : List Nat)
deriving DecidableEq, Repr

def splitOn (separator : Char) : List Char → List (List Char)
  | [] => [[]]
  | c :: cs =>
    match splitOn separator cs with
    | part :: parts =>
      if c = separator then [] :: part :: parts else (c :: part) :: parts
    | [] => [[c]]

/-! ## IPv4 -/

def numberOf? (base : Nat) (cs : List Char) : Option Nat :=
  cs.foldlM (fun n c => do
    let d ← hexValue? c
    if d < base then some (base * n + d) else none) 0

/-- A part of an address: octal after a zero, hexadecimal after `0x`. -/
def ipv4Part? (cs : List Char) : Option Nat :=
  match cs with
  | [] => none
  | '0' :: 'x' :: t | '0' :: 'X' :: t => numberOf? 16 t
  | '0' :: d :: t => numberOf? 8 (d :: t)
  | cs => numberOf? 10 cs

/-- Whether the last part of a name is a number, which makes it an address. -/
def endsInNumber (name : List Char) : Bool :=
  let numeric := fun (part : List Char) =>
    (!part.isEmpty && part.all Char.isDigit) || (ipv4Part? part).isSome
  match (splitOn '.' name).reverse with
  | [] :: part :: _ => numeric part
  | part :: _ => numeric part
  | [] => false

/-- The address of numbers, the last of which fills the remaining bytes. -/
def ipv4OfParts? (parts : List Nat) : Option Nat :=
  match parts.reverse with
  | [] => none
  | last :: front =>
    if parts.length ≤ 4 ∧ front.all (· < 256) = true ∧
        last < Nat.pow 256 (5 - parts.length) then
      some (front.reverse.foldl (fun n p => 256 * n + p) 0 *
        Nat.pow 256 (5 - parts.length) + last)
    else none

/-- The address of a name whose last part is a number. -/
def ipv4? (name : List Char) : Option Nat := do
  let parts := splitOn '.' name
  let parts := if parts.getLast? = some [] then parts.dropLast else parts
  ipv4OfParts? (← parts.mapM ipv4Part?)

def ipv4Text (n : Nat) : String :=
  ".".intercalate ([n / 16777216, n / 65536 % 256, n / 256 % 256,
    n % 256].map Decimal.text)

/-! ## IPv6 -/

def ipv6Piece? (cs : List Char) : Option Nat :=
  if cs.isEmpty || decide (4 < cs.length) then none else numberOf? 16 cs

/-- A decimal number below 256 without leading zeros. -/
def byte? (cs : List Char) : Option Nat :=
  if cs.isEmpty || decide (1 < cs.length) && cs.head? == some '0' then none
  else
    match numberOf? 10 cs with
    | some n => if n < 256 then some n else none
    | none => none

/-- The two pieces of an IPv4 address at the end. -/
def tailPieces? (cs : List Char) : Option (List Nat) := do
  match ← (splitOn '.' cs).mapM byte? with
  | [a, b, c, d] => return [256 * a + b, 256 * c + d]
  | _ => none

/-- The pieces between single colons. Only the very last one may be an IPv4
address. -/
def ipv6Pieces? (last : Bool) : List (List Char) → Option (List Nat)
  | [] => some []
  | [part] =>
    if last && part.contains '.' then tailPieces? part
    else (ipv6Piece? part).map fun n => [n]
  | part :: parts => do
    return (← ipv6Piece? part) :: (← ipv6Pieces? last parts)

/-- The pieces of one side of a gap, which may be empty. -/
def ipv6Side? (last : Bool) (cs : List Char) : Option (List Nat) :=
  if cs.isEmpty then some [] else ipv6Pieces? last (splitOn ':' cs)

/-- The texts before and after the first two colons in a row. -/
def splitGap : List Char → Option (List Char × List Char)
  | ':' :: ':' :: cs => some ([], cs)
  | c :: cs => (splitGap cs).map fun (a, b) => (c :: a, b)
  | [] => none

def ipv6? (cs : List Char) : Option (List Nat) :=
  match splitGap cs with
  | some (before, after) => do
    let left ← ipv6Side? false before
    let right ← ipv6Side? true after
    let count := left.length + right.length
    if count < 8 then return left ++ List.replicate (8 - count) 0 ++ right
    else none
  | none => do
    let pieces ← ipv6Pieces? true (splitOn ':' cs)
    if pieces.length = 8 then return pieces else none

def zeroRun (pieces : List Nat) : Nat := (pieces.takeWhile (· == 0)).length

/-- The first of the longest runs of zeros: where it starts and how long it
is. -/
def longestZeros : (index : Nat) → List Nat → Nat × Nat
  | _, [] => (0, 0)
  | index, p :: ps =>
    let here := zeroRun (p :: ps)
    let later := longestZeros (index + 1) ps
    if later.2 ≤ here then (index, here) else later

def pieceText (n : Nat) : String := String.ofList (Nat.toDigits 16 n)

/-- An address as pieces with colons. The longest run of zeros is left out if
there are at least two. -/
def ipv6Text (pieces : List Nat) : String :=
  let (start, length) := longestZeros 0 pieces
  let join := fun (ps : List Nat) => ":".intercalate (ps.map pieceText)
  if 2 ≤ length then
    join (pieces.take start) ++ "::" ++ join (pieces.drop (start + length))
  else join pieces

/-! ## Hosts -/

namespace Host

def text : Host → String
  | name s => s
  | ipv4 n => ipv4Text n
  | ipv6 pieces => "[" ++ ipv6Text pieces ++ "]"

def isEmpty (h : Host) : Bool := h == name ""

/-- The characters that may not be in a host of any other scheme. -/
def isForbidden (c : Char) : Bool :=
  ['\x00', '\t', '\n', '\r', ' ', '#', '/', ':', '<', '>', '?', '@', '[',
    '\\', ']', '^', '|'].contains c

def bracketed (cs : List Char) : Except UrlFault Host :=
  if cs.getLast? = some ']' then
    match ipv6? cs.dropLast with
    | some pieces => .ok (ipv6 pieces)
    | none => .error .invalidIpv6
  else .error .invalidIpv6

def internet (cs : List Char) : Except UrlFault Host :=
  match cs with
  | '[' :: rest => bracketed rest
  | cs =>
    match (textOf? (percentDecode cs)).bind fun s => Idna.toAscii s.toList with
    | none => .error .invalidDomain
    | some [] => .error .emptyHost
    | some domain =>
      if endsInNumber domain then
        match ipv4? domain with
        | some n => .ok (ipv4 n)
        | none => .error .invalidIpv4
      else .ok (name (String.ofList domain))

def plain (cs : List Char) : Except UrlFault Host :=
  match cs with
  | '[' :: rest => bracketed rest
  | cs =>
    if cs.any isForbidden then .error .invalidHostCharacter
    else .ok (name (String.ofList (percentEncode [] cs)))

end Host

end GraphCourier.Url
