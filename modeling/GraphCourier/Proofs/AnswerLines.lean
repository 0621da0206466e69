import GraphCourier.Program
import GraphCourier.Proofs.Numerals
import GraphCourier.Proofs.OperationText

/-!
# Answers on a line

What a service says to a question is shown on one line, from which it can be
read back. A flag is the end of the line (`Line.flag?`). Identifiers, counts and
distances are the numbers that stand in it (`Line.numbers`), in order, so that
of a list of neighbors nothing is lost, not even that it is empty.
-/

namespace GraphCourier

namespace Line

/-! ## Reading lines -/

/-- The numbers that stand in a text, if the digits before it make up `n`. -/
def numbersFrom (n : Option Nat) : List Char → List Nat
  | [] => n.toList
  | c :: cs =>
    if c.isDigit then numbersFrom (some (10 * n.getD 0 + (c.toNat - '0'.toNat))) cs
    else n.toList ++ numbersFrom none cs

/-- The numbers that stand in a line. -/
def numbers (line : String) : List Nat := numbersFrom none line.toList

/-- The flag that a line ends in. -/
def flag? (line : String) : Option Bool :=
  match line.toList.reverse with
  | 'e' :: 'u' :: 'r' :: 't' :: _ => some true
  | 'e' :: 's' :: 'l' :: 'a' :: 'f' :: _ => some false
  | _ => none

/-- The neighbors that a line lists after an identifier and their number. -/
def neighbors? (line : String) : Option (List NodeId) :=
  match numbers line with
  | _ :: count :: ids => if count = ids.length then some (ids.map UInt64.ofNat) else none
  | _ => none

/-- The last of three numbers. -/
def hops? (line : String) : Option UInt64 :=
  match numbers line with
  | [_, _, hops] => some (UInt64.ofNat hops)
  | _ => none

variable {n : Nat} {ds r : List Char}

theorem numbersFrom_append (hds : ∀ d ∈ ds, d.isDigit = true) (k : Nat) :
    numbersFrom (some k) (ds ++ r) = numbersFrom (some (Nat.ofDigitChars 10 ds k)) r := by
  induction ds generalizing k with
  | nil => rfl
  | cons d ds ih =>
      obtain ⟨hd, hds⟩ := List.forall_mem_cons.mp hds
      rw [List.cons_append, numbersFrom, if_pos hd, ih hds, Nat.ofDigitChars_cons]
      rfl

theorem numbersFrom_ends (hr : Json.Numeral.NoDigit r) :
    numbersFrom (some n) r = n :: numbersFrom none r := by
  cases r with
  | nil => rfl
  | cons c r =>
      have hc : ¬c.isDigit = true := by simp [hr c rfl]
      rw [numbersFrom, numbersFrom, if_neg hc, if_neg hc]
      rfl

/-- A number that was written is the next one to be read. -/
theorem numbersFrom_digits (n : Nat) (hr : Json.Numeral.NoDigit r) :
    numbersFrom none (Decimal.digits n ++ r) = n :: numbersFrom none r := by
  have hds : ∀ d ∈ Decimal.digits n, d.isDigit = true := fun _ => Decimal.isDigit_of_mem_digits
  have hvalue := Decimal.value_digits n
  cases hdigits : Decimal.digits n with
  | nil => exact absurd hdigits Nat.toDigits_ne_nil
  | cons d ds =>
      rw [hdigits] at hds hvalue
      obtain ⟨hd, hlater⟩ := List.forall_mem_cons.mp hds
      rw [List.cons_append, numbersFrom, if_pos hd, numbersFrom_append hlater,
        ← Nat.ofDigitChars_cons (b := 10), numbersFrom_ends hr]
      exact congrArg (· :: _) hvalue

theorem numbersFrom_last (n : Nat) : numbersFrom none (Decimal.digits n) = [n] := by
  simpa [numbersFrom] using numbersFrom_digits n (r := []) (by rintro c ⟨⟩)

theorem numbersFrom_words (hds : ds.any Char.isDigit = false) :
    numbersFrom none (ds ++ r) = numbersFrom none r := by
  induction ds with
  | nil => rfl
  | cons d ds ih =>
      obtain ⟨hd, hds⟩ := Bool.or_eq_false_iff.mp hds
      rw [List.cons_append, numbersFrom, hd]
      exact ih hds

/-- The numbers of a list are read in order. -/
theorem numbersFrom_intercalate (ids : List NodeId) (hr : Json.Numeral.NoDigit r) :
    numbersFrom none ((", ".intercalate (ids.map NodeId.text)).toList ++ r) =
      ids.map UInt64.toNat ++ numbersFrom none r := by
  induction ids with
  | nil => simp
  | cons id ids ih =>
      cases ids with
      | nil => simp [NodeId.toList_text, numbersFrom_digits _ hr]
      | cons id' ids =>
          have hcomma : ∀ s, Json.Numeral.NoDigit (", ".toList ++ s) := fun s => .cons (by decide) _
          simp only [List.map_cons, String.intercalate_cons_cons, String.toList_append,
            List.append_assoc, NodeId.toList_text, List.cons_append] at ih ⊢
          rw [numbersFrom_digits _ (hcomma _), numbersFrom_words rfl, ih]

/-! ## The lines that are shown -/

def node (id : NodeId) (present : Bool) : String :=
  "node " ++ id.text ++ " in graph: " ++ toString present

def edge (a b : NodeId) (present : Bool) : String :=
  "edge (" ++ a.text ++ ", " ++ b.text ++ ") in graph: " ++ toString present

def neighbors (id : NodeId) (ids : List NodeId) : String :=
  "node " ++ id.text ++ " has " ++ Decimal.text ids.length ++ " neighbor(s): [" ++
    ", ".intercalate (ids.map NodeId.text) ++ "]"

def distance (a b : NodeId) (hops : UInt64) : String :=
  "distance from " ++ a.text ++ " to " ++ b.text ++ ": " ++ NodeId.text hops

theorem toList_distance (a b : NodeId) (hops : UInt64) :
    (distance a b hops).toList = "distance from ".toList ++ (Decimal.digits a.toNat ++
      (" to ".toList ++ (Decimal.digits b.toNat ++
        (": ".toList ++ Decimal.digits hops.toNat)))) := by
  have heq : distance a b hops =
      "distance from " ++ a.text ++ " to " ++ b.text ++ ": " ++ NodeId.text hops := rfl
  simp only [heq, String.toList_append, NodeId.toList_text, List.append_assoc]

theorem flag?_append (s : String) (b : Bool) : flag? (s ++ toString b) = some b := by
  have htrue : (toString true).toList.reverse = ['e', 'u', 'r', 't'] := by decide
  have hfalse : (toString false).toList.reverse = ['e', 's', 'l', 'a', 'f'] := by decide
  cases b <;> simp [flag?, htrue, hfalse]

theorem flag?_node (id : NodeId) (present : Bool) : flag? (node id present) = some present :=
  flag?_append _ present

theorem flag?_edge (a b : NodeId) (present : Bool) : flag? (edge a b present) = some present :=
  flag?_append _ present

theorem numbers_neighbors (id : NodeId) (ids : List NodeId) :
    numbers (neighbors id ids) = id.toNat :: ids.length :: ids.map UInt64.toNat := by
  have hwords : ∀ s, Json.Numeral.NoDigit (" has ".toList ++ s)
      ∧ Json.Numeral.NoDigit (" neighbor(s): [".toList ++ s) :=
    fun s => ⟨.cons (by decide) _, .cons (by decide) _⟩
  have hend : Json.Numeral.NoDigit "]".toList := .cons (by decide) _
  simp only [numbers, neighbors, String.toList_append, List.append_assoc, NodeId.toList_text,
    Decimal.text, String.toList_ofList]
  rw [numbersFrom_words rfl, numbersFrom_digits _ (hwords _).1,
    numbersFrom_words rfl, numbersFrom_digits _ (hwords _).2,
    numbersFrom_words rfl, numbersFrom_intercalate _ hend]
  simp [numbersFrom]

theorem neighbors?_neighbors (id : NodeId) (ids : List NodeId) :
    neighbors? (neighbors id ids) = some ids := by
  simp [neighbors?, numbers_neighbors, Function.comp_def]

theorem numbers_distance (a b : NodeId) (hops : UInt64) :
    numbers (distance a b hops) = [a.toNat, b.toNat, hops.toNat] := by
  have hwords : ∀ s, Json.Numeral.NoDigit (" to ".toList ++ s)
      ∧ Json.Numeral.NoDigit (": ".toList ++ s) :=
    fun s => ⟨.cons (by decide) _, .cons (by decide) _⟩
  rw [numbers, toList_distance, numbersFrom_words rfl, numbersFrom_digits _ (hwords _).1,
    numbersFrom_words rfl, numbersFrom_digits _ (hwords _).2,
    numbersFrom_words rfl, numbersFrom_last]

theorem hops?_distance (a b : NodeId) (hops : UInt64) :
    hops? (distance a b hops) = some hops := by
  simp [hops?, numbers_distance]

/-! ## One line -/

theorem newline_notMem_digits (n : Nat) : '\n' ∉ Decimal.digits n := fun h =>
  absurd (Decimal.isDigit_of_mem_digits h) (by decide)

theorem newline_notMem_text (id : NodeId) : '\n' ∉ id.text.toList := by
  rw [NodeId.toList_text]
  exact newline_notMem_digits _

theorem newline_notMem_intercalate (ids : List NodeId) :
    '\n' ∉ (", ".intercalate (ids.map NodeId.text)).toList := by
  induction ids with
  | nil => simp
  | cons id ids ih =>
      cases ids with
      | nil => simpa using newline_notMem_text id
      | cons id' ids =>
          simp only [List.map_cons, String.intercalate_cons_cons, String.toList_append,
            List.mem_append, not_or] at ih ⊢
          exact ⟨⟨newline_notMem_text id, by decide⟩, ih⟩

theorem newline_notMem_node (id : NodeId) (present : Bool) :
    '\n' ∉ (node id present).toList := by
  simp only [node, String.toList_append, List.mem_append, not_or]
  exact ⟨⟨⟨by decide, newline_notMem_text id⟩, by decide⟩, by cases present <;> decide⟩

theorem newline_notMem_edge (a b : NodeId) (present : Bool) :
    '\n' ∉ (edge a b present).toList := by
  simp only [edge, String.toList_append, List.mem_append, not_or]
  exact ⟨⟨⟨⟨⟨by decide, newline_notMem_text a⟩, by decide⟩, newline_notMem_text b⟩, by decide⟩,
    by cases present <;> decide⟩

theorem newline_notMem_neighbors (id : NodeId) (ids : List NodeId) :
    '\n' ∉ (neighbors id ids).toList := by
  have hcount : '\n' ∉ (Decimal.text ids.length).toList := by
    rw [Decimal.text, String.toList_ofList]
    exact newline_notMem_digits _
  simp only [neighbors, String.toList_append, List.mem_append, not_or]
  exact ⟨⟨⟨⟨⟨⟨by decide, newline_notMem_text id⟩, by decide⟩, hcount⟩, by decide⟩,
    newline_notMem_intercalate ids⟩, by decide⟩

theorem newline_notMem_distance (a b : NodeId) (hops : UInt64) :
    '\n' ∉ (distance a b hops).toList := by
  simp only [toList_distance, List.mem_append, not_or]
  exact ⟨by decide, newline_notMem_digits _, by decide, newline_notMem_digits _, by decide,
    newline_notMem_digits _⟩

end Line

end GraphCourier
