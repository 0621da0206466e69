import GraphCourier.ClientError
import GraphCourier.Text.Utf8
import GraphCourier.Url.Parse

/-!
# HTTP

Every operation is one POST request with a JSON body. A `Network` carries a
request to a server and brings back what was delivered: nothing, or a status
and the bytes of a body, which may have ended too early. The body counts only
if the status is 200; then it is read as UTF-8, whatever it claims to be.
-/

namespace GraphCourier.Http

/-- A user name and perhaps a password, with which a request identifies its
sender. -/
structure Login where
  user : String
  password : Option String
deriving DecidableEq, Repr

/-- A request. The URL has no credentials; they are the login. -/
structure Request where
  url : Url
  login : Option Login
  body : String
deriving DecidableEq, Repr

namespace Request

def method : String := "POST"

def contentType : String := "application/json"

def target (r : Request) : String :=
  r.url.path.text ++ (match r.url.query with
    | some q => "?" ++ q
    | none => "")

end Request

inductive Delivery where
  /-- The server was not reached, or did not answer. -/
  | lost
  | answered (status : UInt16) (body : Bytes) (complete : Bool)
deriving DecidableEq, Repr

/-- Carries requests; `σ` is what changes in doing so. -/
abbrev Network (σ : Type) := Request → σ → Delivery × σ

/-- A network on which nothing is delivered. -/
def unreachable {σ : Type} : Network σ := fun _ s => (.lost, s)

/-! ## Forming requests -/

/-- The login that a URL names, unless its credentials are empty or no text. -/
def login? (url : Url) : Option Login := do
  let a ← url.authority
  let decoded := fun (s : String) => textOf? (Url.percentDecode s.toList)
  let user ← decoded a.user
  let password := a.password.bind decoded
  if user = "" ∧ password = none then none else some ⟨user, password⟩

def withoutLogin (url : Url) : Url :=
  if (login? url).isSome then
    { url with authority :=
        url.authority.map fun a => { a with user := "", password := none } }
  else url

def maxUrlLength : Nat := 65534

/-- Whether a request can be sent to a URL: over HTTP, to a host whose name has
none of the characters that a request may not hold. -/
def isSendable (url : Url) : Bool :=
  ["http", "https"].contains url.scheme &&
    (match url.authority with
      | some a => !a.host.text.toList.any fun c =>
          ['"', '\x60', '\x7b', '\x7d'].contains c
      | none => false) &&
    decide ((utf8 url.text).length ≤ maxUrlLength)

/-! ## Exchanges -/

/-- What an answer holds: its status, and the text of its body if that
counts. -/
def received (url : Url) : Delivery →
    Except ClientError (UInt16 × Option String)
  | .lost => .error (.http .sending url.text)
  | .answered status body complete =>
    if status = 200 then
      if complete then .ok (status, some (Text.lossyText body))
      else .error (.http .receiving url.text)
    else .ok (status, none)

/-- Sends a body to a URL and takes what comes back. -/
def exchange {σ : Type} (network : Network σ) (url : Url) (body : String)
    (state : σ) : Except ClientError (UInt16 × Option String) × σ :=
  let target := withoutLogin url
  if isSendable target then
    let (delivery, state) := network ⟨target, login? url, body⟩ state
    (received target delivery, state)
  else (.error (.http .building target.text), state)

end GraphCourier.Http
