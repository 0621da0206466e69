import GraphCourier.Idna.MappingData
import GraphCourier.Unicode.CodeTable

/-!
# Mapping characters of domain names

Before a domain name is looked at, each of its characters is kept, dropped,
refused, or replaced by others, so that for instance upper case letters become
lower case.
-/

namespace GraphCourier.Idna

def mappingTable : Unicode.CodeTable := Unicode.CodeTable.ofText mappingText

/-- What a character is mapped to, if it is allowed at all. -/
def mapChar (c : Char) : Option (List Char) :=
  match mappingTable.find? c.toNat with
  | none => none
  | some run =>
    match run.kind with
    | 'V' => some [c]
    | 'I' => some []
    | 'M' => some (run.codes.map Char.ofNat)
    | 'S' => some (run.codes.map fun n => Char.ofNat (n + (c.toNat - run.first)))
    | _ => none

def mapName (cs : List Char) : Option (List Char) :=
  (cs.mapM mapChar).map List.flatten

def isStable (c : Char) : Bool := mapChar c == some [c]

end GraphCourier.Idna
