import GraphCourier.Json.Fault
import GraphCourier.Text.Parsed

/-!
# Readers

A reader takes something off the front of a text, or tells what is wrong with
it. Here are the readers for what stands between values: blanks, fixed words,
and the punctuation of lists.
-/

namespace GraphCourier.Json

/-- Takes a value off the front of a text, or refuses. -/
abbrev Reader (α : Type) := (s : List Char) → Except Fault (Parsed α s)

/-! ## Blanks and words -/

def isBlank (c : Char) : Bool := c = ' ' || c = '\n' || c = '\t' || c = '\r'

def skipBlanks (s : List Char) : List Char := s.dropWhile isBlank

theorem length_skipBlanks_le (s : List Char) :
    (skipBlanks s).length ≤ s.length :=
  (List.dropWhile_suffix _).length_le

/-- What stands after the blanks of a text: nothing, or a character and what
follows it. -/
inductive Ahead (s : List Char) where
  | nothing
  | char (c : Char) (rest : List Char) (shorter : rest.length < s.length)

def ahead (s : List Char) : Ahead s :=
  have hs := length_skipBlanks_le s
  match h : skipBlanks s with
  | [] => .nothing
  | c :: t => .char c t (by rw [h] at hs; exact hs)

def readWord (word : List Char) (s : List Char) : Except Fault (List Char) :=
  match word, s with
  | [], s => .ok s
  | _ :: _, [] => .error ⟨.eofInValue, [], 0⟩
  | w :: word, c :: t =>
    if w = c then readWord word t else .error ⟨.expectedWord, c :: t, 1⟩

theorem length_readWord_le {word s r : List Char}
    (h : readWord word s = .ok r) : r.length ≤ s.length := by
  induction word generalizing s with
  | nil => cases s <;> simp_all [readWord]
  | cons w word ih =>
    cases s with
    | nil => simp [readWord] at h
    | cons c t =>
      unfold readWord at h
      split at h
      · have := ih h
        simp
        omega
      · cases h

/-- Reads the rest of a word whose first letter was recognised, and takes it
for a value. -/
def readWordAs {α : Type} (x : α) (word : List Char) (c : Char)
    (t : List Char) : Except Fault (Parsed α (c :: t)) :=
  match h : readWord word t with
  | .ok r => .ok ⟨x, r, Nat.lt_succ_of_le (length_readWord_le h)⟩
  | .error f => .error f

/-! ## Lists -/

/-- What comes next in a list. -/
inductive ListTurn (s : List Char) where
  /-- The closing bracket, and what follows it. -/
  | close (rest : List Char) (shorter : rest.length < s.length)
  /-- An item, which is still to be read. -/
  | item (rest : List Char) (short : rest.length ≤ s.length)

/-- Looks for the closing bracket, or for the comma before the next item. -/
def listTurn (first : Bool) (s : List Char) : Except Fault (ListTurn s) :=
  match ahead s with
  | .nothing => .error ⟨.eofInList, [], 0⟩
  | .char c t ht =>
    if c = ']' then .ok (.close t ht)
    else if first then .ok (.item (c :: t) ht)
    else if c = ',' then
      match ahead t with
      | .nothing => .error ⟨.eofInValue, [], 0⟩
      | .char d u hu =>
        if d = ']' then .error ⟨.trailingComma, d :: u, 1⟩
        else .ok (.item (d :: u) (Nat.le_trans hu (Nat.le_of_lt ht)))
    else .error ⟨.expectedListCommaOrEnd, c :: t, 1⟩

/-- Reads the items of a list and its closing bracket. -/
def readItems {α : Type} (item : Reader α) (first : Bool) (s : List Char) :
    Except Fault (Parsed (List α) s) := do
  match ← listTurn first s with
  | .close r h => .ok ⟨[], r, h⟩
  | .item r h =>
    let x ← item r
    let xs ← readItems item false x.rest
    .ok ((x.andThen (xs.map (x.value :: ·))).widen h)
termination_by s.length
decreasing_by exact x.rest_lt h

end GraphCourier.Json
