import GraphCourier.Url.Host
import GraphCourier.Url.Path

/-!
# URLs

`Url.parse` reads an absolute URL the way web browsers do, which is lenient:
blanks around it are dropped, line breaks inside it too, and what may not stand
in a part is percent encoded rather than refused. `Url.text` writes it down,
and `Url.sibling` gives the URL with another last part, which is how operation
names are put under a base URL.
-/

namespace GraphCourier

/-- Who and where: the part of a URL after two slashes. -/
structure Url.Authority where
  /-- The user name, percent encoded; empty if there is none. -/
  user : String
  password : Option String
  host : Url.Host
  port : Option Nat
deriving DecidableEq, Repr

structure Url where
  scheme : String
  authority : Option Url.Authority
  path : Url.Path
  query : Option String
  fragment : Option String
deriving DecidableEq, Repr

namespace Url

/-! ## Writing -/

/-- The text of an authority, without the slashes. -/
def Authority.text (a : Authority) : String :=
  let credentials := a.user ++ (match a.password with
    | some p => ":" ++ p
    | none => "")
  (if credentials.isEmpty then "" else credentials ++ "@") ++ a.host.text ++
    (match a.port with
      | some n => ":" ++ Decimal.text n
      | none => "")

/-- The text of a URL. Where the path itself starts with two slashes, a dot
keeps it from being taken for an authority. -/
def text (u : Url) : String :=
  let path := u.path.text
  u.scheme ++ ":" ++
    (match u.authority with
      | some a => "//" ++ a.text
      | none => if path.startsWith "//" then "/." else "") ++
    path ++
    (match u.query with
      | some q => "?" ++ q
      | none => "") ++
    (match u.fragment with
      | some f => "#" ++ f
      | none => "")

/-! ## Reading the parts -/

/-- Drops what does not count: control characters and blanks around a URL, and
tabs and line breaks inside it. -/
def cleaned (s : String) : List Char :=
  let blank := fun (c : Char) => decide (c.toNat ≤ 0x20)
  let front := s.toList.dropWhile blank
  (front.reverse.dropWhile blank).reverse.filter fun c =>
    c != '\t' && c != '\n' && c != '\r'

/-- The scheme of a URL, in lower case, and what follows the colon. -/
def scheme? (cs : List Char) : Option (String × List Char) :=
  let part := fun (c : Char) =>
    c.isAlphanum || c = '+' || c = '-' || c = '.'
  match cs.takeWhile part, cs.dropWhile part with
  | c :: name, ':' :: rest =>
    if c.isAlpha then
      some (String.ofList ((c :: name).map Char.toLower), rest)
    else none
  | _, _ => none

/-- A URL without its query and fragment, and these two. -/
def splitTail (cs : List Char) :
    List Char × Option (List Char) × Option (List Char) :=
  let isMark := fun (c : Char) => c = '?' || c = '#'
  let main := cs.takeWhile fun c => !isMark c
  match cs.dropWhile fun c => !isMark c with
  | '?' :: rest =>
    (main, some (rest.takeWhile (· != '#')),
      match rest.dropWhile (· != '#') with
      | _ :: f => some f
      | [] => none)
  | '#' :: f => (main, none, some f)
  | _ => (main, none, none)

/-- The texts before and after the last `@`. -/
def splitUser (cs : List Char) : Option (List Char × List Char) :=
  match cs.reverse.dropWhile (· != '@') with
  | _ :: front =>
    some (front.reverse, (cs.reverse.takeWhile (· != '@')).reverse)
  | [] => none

/-- The user name and the password before and after the first colon, percent
encoded. An empty password is none. -/
def credentials (cs : List Char) : String × Option String :=
  let encode := fun (cs : List Char) =>
    String.ofList (percentEncode userExtra cs)
  let user := encode (cs.takeWhile (· != ':'))
  match cs.dropWhile (· != ':') with
  | _ :: c :: t => (user, some (encode (c :: t)))
  | _ => (user, none)

/-- The texts before and after the colon that comes first outside of
brackets. -/
def splitPort (inside : Bool) : List Char → List Char × Option (List Char)
  | [] => ([], none)
  | c :: cs =>
    if c = ':' ∧ inside = false then ([], some cs)
    else
      let (host, port) :=
        splitPort (if c = '[' then true else if c = ']' then false else inside)
          cs
      (c :: host, port)

/-- The port that a scheme has unless told otherwise. -/
def defaultPort? (scheme : String) : Option Nat :=
  if scheme = "http" ∨ scheme = "ws" then some 80
  else if scheme = "https" ∨ scheme = "wss" then some 443
  else if scheme = "ftp" then some 21
  else none

/-- Reads a port. No digits, or those of the default, are no port. -/
def readPort (scheme : String) (cs : List Char) :
    Except UrlFault (Option Nat) :=
  let n := Decimal.value cs
  if cs.all Char.isDigit = false ∨ 65535 < n then .error .invalidPort
  else if cs.isEmpty ∨ defaultPort? scheme = some n then .ok none
  else .ok (some n)

/-- Reads an authority. `more` tells whether anything follows it in the URL. A
backslash after the port is left over with what follows it, for the path. -/
def readAuthority (kind : SchemeKind) (scheme : String) (cs : List Char)
    (more : Bool) : Except UrlFault (Authority × List Char) := do
  let (before, hostPort) := match splitUser cs with
    | some (user, rest) => (some user, rest)
    | none => (none, cs)
  if before = some [] ∧ hostPort = [] ∧ more = true then .error .emptyHost
  let (user, password) := credentials (before.getD [])
  let (hostText, portText) := splitPort false hostPort
  if kind = .internet ∧ hostText = [] then .error .emptyHost
  let host ← if kind = .other then Host.plain hostText
    else Host.internet hostText
  if host.isEmpty = true ∧ (portText.isSome = true ∨ user ≠ "" ∨
      password.isSome = true) then
    .error .emptyHost
  let portText := portText.getD []
  let digits := portText.takeWhile (· != '\\')
  let port ← readPort scheme digits
  return (⟨user, password, host, port⟩, portText.dropWhile (· != '\\'))

/-! ## Reading URLs -/

/-- Reads the part of a URL between the scheme and the query, from the
authority on. `tail` tells whether there is a query or a fragment. -/
def readNetwork (kind : SchemeKind) (scheme : String) (cs : List Char)
    (tail : Bool) : Except UrlFault (Option Authority × Path) := do
  let inside := fun (c : Char) => !kind.isSlash c
  let after := cs.dropWhile inside
  let (authority, left) ← readAuthority kind scheme (cs.takeWhile inside)
    (!after.isEmpty || tail)
  let path := match left ++ after with
    | [] => if kind = .other then .absent else (readPath kind []).1
    | c :: t =>
      (readPath kind (if kind.isSlash c then t else c :: t)).1
  return (some authority, path)

def readFileHost (cs : List Char) : Except UrlFault Host :=
  if cs.isEmpty then .ok (.name "")
  else do
    let host ← Host.internet cs
    return if host = .name "localhost" then .name "" else host

/-- Reads the part of a file URL between the scheme and the query. -/
def readFile (cs : List Char) : Except UrlFault (Option Authority × Path) := do
  let isSlash := SchemeKind.file.isSlash
  let (hostText, pathText) := match cs with
    | a :: b :: t =>
      if isSlash a && isSlash b then
        let hostText := t.takeWhile fun c => !isSlash c
        if isDriveLetter hostText then ([], t)
        else (hostText, t.dropWhile fun c => !isSlash c)
      else ([], cs)
    | cs => ([], cs)
  let host ← readFileHost hostText
  let (path, drive) := readPath .file (match pathText with
    | c :: t => if isSlash c then t else c :: t
    | [] => [])
  return (some ⟨"", none, if drive then .name "" else host, none⟩, path)

/-- Reads the part of any other URL between the scheme and the query. -/
def readOther (scheme : String) (cs : List Char) (tail : Bool) :
    Except UrlFault (Option Authority × Path) :=
  match cs with
  | '/' :: '/' :: rest => readNetwork .other scheme rest tail
  | '/' :: rest => .ok (none, (readPath .other rest).1)
  | cs => .ok (none, .plain (String.ofList (percentEncode [] cs)))

def parse (s : String) : Except UrlFault Url :=
  match scheme? (cleaned s) with
  | none => .error .relativeWithoutBase
  | some (scheme, rest) => do
    let (main, query, fragment) := splitTail rest
    let tail := query.isSome || fragment.isSome
    let kind := SchemeKind.ofScheme scheme
    let (authority, path) ← match kind with
      | .file => readFile main
      | .internet =>
        readNetwork kind scheme (main.dropWhile kind.isSlash) tail
      | .other => readOther scheme main tail
    let queryExtra :=
      if kind = .other then queryExtra else specialQueryExtra
    return ⟨scheme, authority, path,
      query.map fun q => String.ofList (percentEncode queryExtra q),
      fragment.map fun f => String.ofList (percentEncode fragmentExtra f)⟩

/-! ## Siblings -/

/-- The URL with `name` in place of the last part of its path, without query
and fragment. `name` must need no encoding. A drive letter is no last part that
could be replaced. -/
def sibling (u : Url) (name : String) : Except UrlFault Url :=
  let moved := fun (path : Path) =>
    (.ok { u with path := path, query := none, fragment := none } :
      Except UrlFault Url)
  match u.path with
  | .plain _ => .error .baseWithoutPath
  | .absent => moved (.rooted [] name)
  | .rooted dirs last =>
    if u.scheme = "file" ∧ isDriveLetter last.toList = true ∧
        last.toList.contains ':' = true then
      moved (if dirs.isEmpty then .rooted [last] name
        else .rooted dirs (last ++ name))
    else moved (.rooted dirs name)

end Url

end GraphCourier
