import GraphCourier.Http
import GraphCourier.Text.Base64

/-!
# HTTP on the wire

The bytes of a request, and what the bytes of an answer deliver. A request asks
the server to close the connection after its answer, so an answer is read when
all its bytes are there. The headers say where the body ends: by its length, by
chunks that announce theirs, or where the connection does. A body that should
have been longer is marked as such, and bytes that are no answer deliver
nothing.
-/

namespace GraphCourier.Http

/-! ## Requests -/

def Login.header (l : Login) : String :=
  "authorization: Basic " ++
    String.ofList (Text.base64 (utf8 (l.user ++ ":" ++ l.password.getD "")))

namespace Request

/-- The host and port of a request, as the server is told. -/
def host (r : Request) : String :=
  match r.url.authority with
  | some a => a.host.text ++ (match a.port with
    | some n => ":" ++ Decimal.text n
    | none => "")
  | none => ""

def head (r : Request) : List String :=
  [method ++ " " ++ r.target ++ " HTTP/1.1", "host: " ++ r.host,
    "content-type: " ++ contentType,
    "content-length: " ++ Decimal.text r.body.utf8ByteSize,
    "accept: */*", "connection: close"] ++ r.login.toList.map Login.header

def wire (r : Request) : Bytes :=
  utf8 (String.join (r.head.map (· ++ "\r\n")) ++ "\r\n" ++ r.body)

end Request

/-! ## Lines -/

def lineFeed : UInt8 := 10

/-- A line, without its end, and the shorter rest. -/
structure Line (bs : Bytes) where
  text : List Char
  rest : Bytes
  shorter : rest.length < bs.length

/-- The characters of a line: one for each byte, except for a carriage return
at the end. -/
def lineText (bs : Bytes) : List Char :=
  let cs := bs.map fun b => Char.ofNat b.toNat
  if cs.getLast? = some '\r' then cs.dropLast else cs

/-- The first line, if it has come to its end. -/
def line? (bs : Bytes) : Option (Line bs) :=
  match h : bs.dropWhile (· != lineFeed) with
  | [] => none
  | _ :: rest =>
    some ⟨lineText (bs.takeWhile (· != lineFeed)), rest, by
      have := (List.dropWhile_sublist (l := bs) (· != lineFeed)).length_le
      rw [h] at this
      exact this⟩

/-- The lines up to the first empty one, and what follows that. -/
def head? (bs : Bytes) : Option (List (List Char) × Bytes) :=
  match line? bs with
  | none => none
  | some l =>
    if l.text.isEmpty then some ([], l.rest)
    else (head? l.rest).map fun (lines, body) => (l.text :: lines, body)
termination_by bs.length
decreasing_by exact l.shorter

/-! ## Heads of answers -/

/-- The status that the first line of an answer tells. -/
def status? (line : List Char) : Option UInt16 :=
  if "HTTP/1.".toList.isPrefixOf line then
    let digits := ((line.dropWhile (· != ' ')).drop 1).takeWhile (· != ' ')
    if digits.length = 3 then
      (Decimal.readDigits 1000 digits).map UInt16.ofNat
    else none
  else none

def trimmed (cs : List Char) : List Char :=
  let blank := fun (c : Char) => c == ' ' || c == '\t'
  ((cs.dropWhile blank).reverse.dropWhile blank).reverse

/-- The value of the header of a name in lower case. -/
def header? (name : String) (lines : List (List Char)) :
    Option (List Char) :=
  lines.findSome? fun line =>
    if (line.takeWhile (· != ':')).map Char.toLower = name.toList then
      some (trimmed ((line.dropWhile (· != ':')).drop 1))
    else none

/-! ## Bodies -/

/-- The size that the first line of a chunk tells, before any semicolon. -/
def chunkSize? (line : List Char) : Option Nat :=
  let digits := trimmed (line.takeWhile (· != ';'))
  if digits.isEmpty then none else Url.numberOf? 16 digits

/-- Reads chunks up to the empty one, and tells whether it was there. -/
def readChunks (bs : Bytes) : Bytes × Bool :=
  match line? bs with
  | none => ([], false)
  | some l =>
    match chunkSize? l.text with
    | none => ([], false)
    | some 0 => ([], true)
    | some n =>
      let after := l.rest.drop n
      let (more, complete) := readChunks (after.drop 2)
      (l.rest.take n ++ more, complete)
termination_by bs.length
decreasing_by
  have := l.shorter
  simp only [List.length_drop]
  omega

/-- The body of an answer, and whether it is all there. Nothing comes of a
length that is no number. -/
def readBody (status : UInt16) (headers : List (List Char)) (bs : Bytes) :
    Option (Bytes × Bool) :=
  if status = 204 ∨ status = 304 then some ([], true)
  else if ((header? "transfer-encoding" headers).map
      (·.map Char.toLower)) = some "chunked".toList then
    some (readChunks bs)
  else
    match header? "content-length" headers with
    | none => some (bs, true)
    | some value =>
      (Decimal.readDigits UInt64.size value).map fun n =>
        (bs.take n, decide (n ≤ bs.length))

def Delivery.ofWire (bs : Bytes) : Delivery :=
  match (head? bs).bind fun (lines, body) => do
    let status ← status? (← lines.head?)
    let (body, complete) ← readBody status lines.tail body
    return Delivery.answered status body complete
  with
  | some d => d
  | none => .lost

end GraphCourier.Http
