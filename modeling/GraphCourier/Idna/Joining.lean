import GraphCourier.Idna.JoiningData
import GraphCourier.Idna.Normalization

/-!
# Joiners and marks

Two invisible characters ask letters to join or not to. They are allowed in a
domain name where they make a difference: after a sign that suppresses a vowel,
and the one that keeps letters apart also between letters that would join. A
label may not begin with a combining mark.
-/

namespace GraphCourier.Idna

def joiningTable : Unicode.CodeTable := Unicode.CodeTable.ofText joiningText

def markSet : Unicode.CodeSet := Unicode.CodeSet.ofText markText

/-- The joining type of a character, as a letter. -/
def joiningType (c : Char) : Char :=
  match joiningTable.find? c.toNat with
  | some run => run.kind
  | none => 'U'

def isMark (c : Char) : Bool := markSet.contains c.toNat

/-- Whether a character suppresses the vowel of the one before it. -/
def isVirama (c : Char) : Bool := combiningClass c == 9

/-- The first type, going away from a joiner, that is not transparent. -/
def nextType? (cs : List Char) : Option Char :=
  (cs.map joiningType).find? (· != 'T')

/-- Whether all joiners of a label are allowed. `before` is what precedes the
rest, in reverse. -/
def joinersAllowed (before : List Char) : List Char → Bool
  | [] => true
  | c :: rest =>
    let afterVirama := (before.head?.map isVirama).getD false
    let apart :=
      (nextType? before == some 'L' || nextType? before == some 'D') &&
        (nextType? rest == some 'R' || nextType? rest == some 'D')
    let allowed :=
      if c = '\u200c' then afterVirama || apart
      else if c = '\u200d' then afterVirama
      else true
    allowed && joinersAllowed (c :: before) rest

end GraphCourier.Idna
