import GraphCourier.Url.Percent

/-!
# Paths

A path is a list of directories and a last part. The parts `.` and `..`, also
if their dots are percent encoded, are worked out when a path is read, so a
path never holds them. A directory that looks like a drive letter is not left
by `..`.
-/

namespace GraphCourier.Url

/-- How the scheme of a URL shapes the rest of it. -/
inductive SchemeKind where
  /-- Local files. -/
  | file
  /-- A scheme that names Internet hosts. -/
  | internet
  | other
deriving DecidableEq, Repr

def SchemeKind.ofScheme (scheme : String) : SchemeKind :=
  if scheme = "file" then file
  else if ["http", "https", "ws", "wss", "ftp"].contains scheme then internet
  else other

def SchemeKind.isSlash (kind : SchemeKind) (c : Char) : Bool :=
  c = '/' || (c = '\\' && kind != other)

/-- The path of a URL. -/
inductive Path where
  /-- No parts, just text. -/
  | plain (text : String)
  | absent
  | rooted (dirs : List String) (last : String)
deriving DecidableEq, Repr

def Path.text : Path → String
  | plain s => s
  | absent => ""
  | rooted dirs last => "/" ++ String.join (dirs.map (· ++ "/")) ++ last

/-! ## Drive letters -/

/-- Whether a text is a letter and a colon or a bar. -/
def isDriveLetter (s : List Char) : Bool :=
  match s with
  | [c, d] => c.isAlpha && (d = ':' || d = '|')
  | _ => false

def isDriveLike (dir : String) : Bool :=
  match dir.toList with
  | [c, d] => isDriveLetter [c, d]
  | c :: d :: '\\' :: _ => isDriveLetter [c, d]
  | _ => false

def normalDrive (s : List Char) : List Char := s.take 1 ++ [':']

/-! ## Reading -/

/-- What a part of a path means. -/
inductive Part where
  | here
  | up
  | named (text : List Char)

/-- The meaning of a part: dots may be written `%2e`. -/
def Part.ofText (cs : List Char) : Part :=
  let rec dots : List Char → Option Nat
    | [] => some 0
    | '.' :: t => (dots t).map (· + 1)
    | '%' :: '2' :: e :: t =>
      if e = 'e' ∨ e = 'E' then (dots t).map (· + 1) else none
    | _ => none
  match dots cs with
  | some 1 => here
  | some 2 => up
  | _ => named cs

def splitPath (kind : SchemeKind) : List Char → List (List Char)
  | [] => [[]]
  | c :: cs =>
    match splitPath kind cs with
    | part :: parts =>
      if kind.isSlash c then [] :: part :: parts else (c :: part) :: parts
    | [] => [[c]]

/-- Leaves a directory; `dirs` is in reverse. -/
def leave : List String → List String
  | [] => []
  | d :: ds => if isDriveLike d then d :: ds else ds

/-- What was made of the parts of a path. -/
structure Walk where
  /-- The directories, in reverse. -/
  dirs : List String
  last : String
  /-- Whether a drive was named, which rules out a host. -/
  drive : Bool

/-- Goes through the parts of a path. -/
def walk (kind : SchemeKind) (dirs : List String) (drive : Bool) :
    List (List Char) → Walk
  | [] => ⟨dirs, "", drive⟩
  | part :: parts =>
    match Part.ofText part with
    | .here => walk kind dirs drive parts
    | .up => walk kind (leave dirs) drive parts
    | .named cs =>
      let isDrive := kind == .file && dirs.all String.isEmpty && isDriveLetter cs
      let text := String.ofList
        (percentEncode pathExtra (if isDrive then normalDrive cs else cs))
      match parts with
      | [] => ⟨dirs, text, drive || isDrive⟩
      | _ => walk kind (text :: dirs) (drive || isDrive) parts

/-- Reads a path after its first slash. In paths of files, slashes at the start
count as one. The flag tells whether a drive was named. -/
def readPath (kind : SchemeKind) (cs : List Char) : Path × Bool :=
  let w := walk kind [] false (splitPath kind cs)
  let dirs := w.dirs.reverse
  let dirs := if kind = .file then dirs.dropWhile String.isEmpty else dirs
  (.rooted dirs w.last, w.drive)

end GraphCourier.Url
