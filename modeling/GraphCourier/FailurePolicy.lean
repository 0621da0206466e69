/-!
# Failure policies

What a run does when the service answers with anything but 200. A policy has a
spelling, `FailurePolicy.text`, for the command line and the environment, and
`FailurePolicy.ofText?` reads it back. Documents, such as the settings file, have a
name for it that is made from the words of its own name. Both are the same
(`ofDocumentName?_eq`).
-/

namespace GraphCourier

/-- What to do when an operation is not applied. -/
inductive FailurePolicy where
  /-- Note the status and go on with the next operation. -/
  | proceed
  /-- Stop the run. -/
  | abort
deriving DecidableEq, Repr, Inhabited

namespace FailurePolicy

/-- Runs go on unless told otherwise. -/
def standard : FailurePolicy := proceed

def text : FailurePolicy → String
  | proceed => "continue"
  | abort => "abort"

/-- Reads a policy. The spelling must match exactly. -/
def ofText? (s : String) : Option FailurePolicy :=
  if s = "continue" then some proceed
  else if s = "abort" then some abort
  else none

/-- What is said about a text that is no policy. -/
def refusal (s : String) : String :=
  "unknown failure policy: " ++ s ++ " (expected continue or abort)"

/-- Reads a policy, or tells what is wrong. -/
def parse (s : String) : Except String FailurePolicy :=
  match ofText? s with
  | some p => .ok p
  | none => .error (refusal s)

@[simp] theorem ofText?_text (p : FailurePolicy) : ofText? p.text = some p := by
  cases p <;> rfl

/-! ## In documents -/

def all : List FailurePolicy := [proceed, abort]

/-- The words that the name of a policy is made from. -/
def words : FailurePolicy → String
  | proceed => "Continue"
  | abort => "Abort"

/-- Capitalized words in small letters, with an underscore in front of each but the
first. -/
def snakeCase : List Char → List Char
  | [] => []
  | c :: cs =>
    c.toLower :: cs.flatMap fun d => if d.isUpper then ['_', d.toLower] else [d.toLower]

def documentName (p : FailurePolicy) : String := String.ofList (snakeCase p.words.toList)

/-- Reads the name of a policy in a document. -/
def ofDocumentName? (s : String) : Option FailurePolicy := all.find? fun p => p.documentName == s

def json (p : FailurePolicy) : String := "\"" ++ p.documentName ++ "\""

/-- Documents spell policies as everyone does. -/
theorem documentName_eq (p : FailurePolicy) : p.documentName = p.text := by
  cases p <;> rfl

theorem ofDocumentName?_eq (s : String) : ofDocumentName? s = ofText? s := by
  rw [ofDocumentName?, all, ofText?]
  by_cases hproceed : s = "continue"
  · subst hproceed
    rfl
  · by_cases habort : s = "abort"
    · subst habort
      rfl
    · have hnot : ∀ p ∈ [proceed, abort], ¬(p.documentName == s) = true := by
        intro p _
        rw [documentName_eq, beq_iff_eq]
        cases p
        · exact fun h => hproceed h.symm
        · exact fun h => habort h.symm
      rw [List.find?_eq_none.mpr hnot, if_neg hproceed, if_neg habort]

end FailurePolicy

end GraphCourier
