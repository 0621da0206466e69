import GraphCourier.Idna.Direction
import GraphCourier.Idna.Joining
import GraphCourier.Idna.Mapping
import GraphCourier.Idna.Punycode

/-!
# Domain names in ASCII

A domain name may be given in any script. Its characters are mapped and
composed, each label is checked, and labels that are not ASCII are spelled in
Punycode after the mark `xn--`. A label that has the mark already must spell
something that would have been spelled just so.
-/

namespace GraphCourier.Idna

/-- The ASCII characters that may not be in a host: blanks, control characters,
and those that mean something in a URL. -/
def isForbidden (c : Char) : Bool :=
  decide (c.toNat ≤ 0x20) || c.toNat == 0x7f ||
    ['#', '%', '/', ':', '<', '>', '?', '@', '[', '\\', ']', '^', '|'].contains c

def isAscii (cs : List Char) : Bool := cs.all fun c => decide (c.toNat < 128)

/-- What a label spells, if it has the mark. -/
def unmark? : List Char → Option (List Char)
  | 'x' :: 'n' :: '-' :: '-' :: rest => some rest
  | _ => none

/-- The label itself, or what it spells. -/
def readLabel (label : List Char) : Option (List Char) :=
  match unmark? label with
  | none => some label
  | some spelling => do
    let decoded ← Punycode.decode spelling
    if isAscii decoded || !decoded.all isStable || nfc decoded != decoded then
      none
    else return decoded

def labelAllowed (label : List Char) : Bool :=
  !label.any isForbidden && !(label.head?.map isMark).getD false &&
    joinersAllowed [] label

def writeLabel (label : List Char) : Option (List Char) :=
  if isAscii label then some label
  else (Punycode.encode label).map fun s => 'x' :: 'n' :: '-' :: '-' :: s

/-- The labels of a name, which dots separate. -/
def splitLabels : List Char → List (List Char)
  | [] => [[]]
  | c :: cs =>
    match splitLabels cs with
    | label :: labels =>
      if c = '.' then [] :: label :: labels else (c :: label) :: labels
    | [] => [[c]]

/-- A domain name in ASCII, if it is allowed. -/
def toAscii (name : List Char) : Option (List Char) := do
  let mapped ← mapName name
  let labels ← (splitLabels (nfc mapped)).mapM readLabel
  if labels.all labelAllowed && labelsDirected labels then
    return ['.'].intercalate (← labels.mapM writeLabel)
  else none

end GraphCourier.Idna
