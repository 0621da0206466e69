import GraphCourier.Payload
import GraphCourier.Response
import GraphCourier.Proofs.JsonText

/-!
# Operations as texts

An operation is written down in two ways: as a name and a JSON body, which is
what a server gets, and in the form of a call, which is what errors and log
lines show. Either way determines the operation. `Operation.ofWire?` reads the
first (`ofWire?_payload`), and the second can be made of it (`callForm_body`);
calls that look the same are the same operation (`display_injective`).
-/

namespace GraphCourier

/-! ## Decimal numbers -/

namespace Decimal

theorem digits_injective : Function.Injective digits :=
  Function.LeftInverse.injective value_digits

/-- The digits of a number end where something else begins. -/
theorem digits_append_inj {m n : Nat} {c : Char} (hc : c.isDigit = false) {r r' : List Char}
    (h : digits m ++ c :: r = digits n ++ c :: r') : m = n ∧ r = r' := by
  have hdigits : digits m = digits n := by
    have htake := congrArg (List.takeWhile Char.isDigit) h
    rw [List.takeWhile_append_of_pos fun _ => isDigit_of_mem_digits,
      List.takeWhile_append_of_pos fun _ => isDigit_of_mem_digits] at htake
    simpa [hc] using htake
  rw [hdigits] at h
  exact ⟨digits_injective hdigits, (List.cons.inj (List.append_cancel_left h)).2⟩

theorem readDigits_digits {n bound : Nat} (h : n < bound) :
    readDigits bound (digits n) = some n := by
  rw [readDigits, value_digits, if_pos ⟨isEmpty_digits n, all_isDigit_digits n, h⟩]

/-- A number that is written without a sign is read back. -/
theorem read_digits {n bound : Nat} (h : n < bound) : read bound (digits n) = some n := by
  unfold read
  split
  · rename_i cs hcs
    have hsign : ('+' : Char) ∈ digits n := hcs ▸ List.mem_cons_self ..
    exact absurd (isDigit_of_mem_digits hsign) (by decide)
  · exact readDigits_digits h

end Decimal

namespace NodeId

theorem ofText?_text (id : NodeId) : ofText? id.text = some id := by
  rw [ofText?, text, Decimal.text, String.toList_ofList, Decimal.read_digits id.toNat_lt,
    Option.map_some, UInt64.ofNat_toNat]

theorem toList_text (id : NodeId) : id.text.toList = Decimal.digits id.toNat :=
  String.toList_ofList

theorem text_injective : Function.Injective text := by
  intro x y h
  rw [← String.toList_inj, toList_text, toList_text] at h
  exact UInt64.toNat.inj (Decimal.digits_injective h)

theorem mapM_ofText? (ids : List NodeId) : (ids.map text).mapM ofText? = some ids := by
  induction ids with
  | nil => rfl
  | cons id ids ih => simp [List.mapM_cons, ofText?_text, ih]

/-- Identifiers that are written one after the other can be told apart. -/
theorem eq_of_intercalate {xs ys : List NodeId} (hlength : xs.length = ys.length)
    (h : ", ".intercalate (xs.map text) = ", ".intercalate (ys.map text)) : xs = ys := by
  induction xs generalizing ys with
  | nil => exact (List.length_eq_zero_iff.mp hlength.symm).symm
  | cons x xs ih =>
      match ys, xs with
      | [y], [] =>
          have hxy : x.text = y.text := by simpa using h
          rw [text_injective hxy]
      | y :: y' :: ys, x' :: xs =>
          simp only [List.map_cons, String.intercalate_cons_cons, ← String.toList_inj,
            String.toList_append, toList_text, List.append_assoc] at h
          obtain ⟨hxy, hlater⟩ := Decimal.digits_append_inj (by decide) h
          have hlater := String.toList_inj.mp (List.cons.inj hlater).2
          rw [UInt64.toNat.inj hxy, ih (Nat.succ.inj hlength) hlater]

end NodeId

/-! ## Bodies -/

namespace Json

theorem escapedChar_plain {c : Char} (hquote : c ≠ '"') (hslash : c ≠ '\\')
    (hprintable : 0x20 ≤ c.toNat) : escapedChar c = [c] := by
  have hne : ∀ d : Char, d.toNat < 0x20 → c ≠ d := by
    rintro d hd rfl
    exact absurd hprintable (Nat.not_le.mpr hd)
  rw [escapedChar, if_neg hquote, if_neg hslash, if_neg (hne _ (by decide)),
    if_neg (hne _ (by decide)), if_neg (hne _ (by decide)), if_neg (hne _ (by decide)),
    if_neg (hne _ (by decide)), if_neg (Nat.not_lt.mpr hprintable)]

theorem escapedChar_digit {c : Char} (h : c.isDigit = true) : escapedChar c = [c] := by
  obtain ⟨hlo, -⟩ := Char.isDigit_iff_toNat.mp h
  have hprintable : 0x30 ≤ c.toNat := hlo
  refine escapedChar_plain ?_ ?_ (by omega)
  · rintro rfl
    exact absurd h (by decide)
  · rintro rfl
    exact absurd h (by decide)

theorem stringText_plain {s : String} (h : ∀ c ∈ s.toList, escapedChar c = [c]) :
    stringText s = "\"" ++ s ++ "\"" := by
  have hs : s.toList.flatMap escapedChar = s.toList := by
    rw [List.flatMap_def, List.map_congr_left h, ← List.flatMap_def, List.flatMap_singleton']
  rw [stringText, hs, String.ofList_toList]

/-- The strings that the members of an object are. -/
def Value.strings : Value → List String
  | .object ms => ms.filterMap fun m => match m.2 with
    | .string s => some s
    | _ => none
  | _ => []

end Json

/-- The keys under which a body has so many identifiers. -/
def Payload.keys : Nat → List String
  | 1 => ["node_id"]
  | 2 => ["node_a_id", "node_b_id"]
  | _ => []

theorem NodeId.stringText_text (id : NodeId) :
    Json.stringText id.text = "\"" ++ id.text ++ "\"" := by
  refine Json.stringText_plain fun c hc => Json.escapedChar_digit ?_
  rw [NodeId.toList_text] at hc
  exact Decimal.isDigit_of_mem_digits hc

namespace Operation

/-- The body of an operation: its identifiers in decimal, each as a string. -/
def body (op : Operation) : Json.Value :=
  .object ((Payload.keys op.arguments.length).zip
    (op.arguments.map fun id => .string (Decimal.text id.toNat)))

theorem strings_body (op : Operation) : op.body.strings = op.arguments.map NodeId.text := by
  cases op <;> rfl

theorem body_eq (op : Operation) :
    op.body = .object (op.payload.members.map fun m => (m.1, .string m.2.text)) := by
  cases op <;> rfl

theorem stringText_key {p : Payload} {m : String × NodeId} (h : m ∈ p.members) :
    Json.stringText m.1 = "\"" ++ m.1 ++ "\"" := by
  have hkey : ∀ k ∈ ["node_id", "node_a_id", "node_b_id"],
      Json.stringText k = "\"" ++ k ++ "\"" := by
    intro k hk
    simp only [List.mem_cons, List.not_mem_nil, or_false] at hk
    rcases hk with rfl | rfl | rfl <;> rfl
  refine hkey m.1 ?_
  cases p <;> simp_all [Payload.members]
  rcases h with rfl | rfl <;> simp

/-- What is sent is the compact text of the body. -/
theorem json_payload (op : Operation) : op.payload.json = op.body.text := by
  have hmember : ∀ m ∈ op.payload.members,
      "\"" ++ m.1 ++ "\":\"" ++ m.2.text ++ "\"" =
        Json.stringText m.1 ++ ":" ++ (Json.Value.string m.2.text).text := by
    intro m hm
    rw [stringText_key hm, Json.Value.text, NodeId.stringText_text,
      show ("\":\"" : String) = "\"" ++ ":" ++ "\"" from rfl]
    simp only [String.append_assoc]
  rw [body_eq, Json.Value.text, Json.membersText_eq, List.map_map, Payload.json,
    List.map_congr_left hmember]
  rfl

theorem sorted_members (p : Payload) :
    Json.Members.sorted (p.members.map fun m => (m.1, Json.Value.string m.2.text)) =
      p.members.map fun m => (m.1, Json.Value.string m.2.text) := by
  have hkeys : ("node_b_id" : String) < "node_a_id" ↔ False := by decide
  cases p <;> simp [Payload.members, Json.Members.sorted, Json.Members.insert, hkeys]

/-- A body is read as what it was written for. -/
theorem parse_payload (op : Operation) : parseAnswer Json.Value op.payload.json = .ok op.body := by
  have hread : Json.Reader.Takes (Json.readValue Json.maxDepth) op.body.text.toList op.body := by
    rw [body_eq]
    refine Json.readValue_object (sorted_members _) fun m hm => ?_
    obtain ⟨_, -, rfl⟩ := List.mem_map.mp hm
    exact Json.readValue_string _ _
  rw [json_payload, parseAnswer]
  simp only [AnswerBody.read, Json.readWhole_text hread]

/-! ## Reading operations -/

/-- The operation of a name, if it goes with so many identifiers. -/
def ofName? : (name : String) → List NodeId → Option Operation
  | "add_node", [id] => some (.addNode id)
  | "remove_node", [id] => some (.removeNode id)
  | "add_edge", [a, b] => some (.addEdge a b)
  | "remove_edge", [a, b] => some (.removeEdge a b)
  | "get_node", [id] => some (.getNode id)
  | "get_edge", [a, b] => some (.getEdge a b)
  | "get_neighbors", [id] => some (.getNeighbors id)
  | "shortest_path", [a, b] => some (.shortestPath a b)
  | "checkpoint", [] => some .checkpoint
  | _, _ => none

/-- Reads the operation that a name and a JSON body stand for. -/
def ofWire? (name body : String) : Option Operation := do
  let value ← (parseAnswer Json.Value body).toOption
  ofName? name (← value.strings.mapM NodeId.ofText?)

theorem ofName?_name (op : Operation) : ofName? op.name op.arguments = some op := by
  cases op <;> rfl

theorem ofWire?_payload (op : Operation) : ofWire? op.name op.payload.json = some op := by
  rw [ofWire?, parse_payload]
  show (op.body.strings.mapM NodeId.ofText?).bind (ofName? op.name) = some op
  rw [strings_body, NodeId.mapM_ofText?]
  exact ofName?_name op

/-! ## The form of a call -/

/-- A name, and in parentheses the strings that the members of an object are. -/
def callForm (name : String) (value : Json.Value) : String :=
  name ++ "(" ++ ", ".intercalate value.strings ++ ")"

theorem callForm_body (op : Operation) : callForm op.name op.body = op.display := by
  rw [callForm, strings_body, display]

/-- How many identifiers go with a name. -/
def arity : String → Nat
  | "checkpoint" => 0
  | "add_edge" | "remove_edge" | "get_edge" | "shortest_path" => 2
  | _ => 1

theorem length_arguments (op : Operation) : op.arguments.length = arity op.name := by
  cases op <;> rfl

theorem paren_notMem_name (op : Operation) : '(' ∉ op.name.toList := by
  cases op <;> simp only [name] <;> decide

/-- Calls that look the same are calls of the same operation. -/
theorem display_injective : Function.Injective display := by
  intro op op' h
  have hlist : ∀ op : Operation, op.display.toList =
      op.name.toList ++
        '(' :: ((", ".intercalate (op.arguments.map NodeId.text)).toList ++ [')']) := by
    intro op
    simp [display, String.toList_append]
  have hparen : ∀ op : Operation, ∀ c ∈ op.name.toList, (c != '(') = true := by
    intro op c hc
    rw [bne_iff_ne]
    rintro rfl
    exact op.paren_notMem_name hc
  have htext := congrArg String.toList h
  rw [hlist, hlist] at htext
  have hname : op.name = op'.name := by
    have := congrArg (List.takeWhile (· != '(')) htext
    rw [List.takeWhile_append_of_pos (hparen op), List.takeWhile_append_of_pos (hparen op')] at this
    exact String.toList_inj.mp (by simpa using this)
  rw [hname] at htext
  have harguments := (List.cons.inj (List.append_cancel_left htext)).2
  have hids : op.arguments = op'.arguments :=
    NodeId.eq_of_intercalate (by rw [length_arguments, length_arguments, hname])
      (String.toList_inj.mp (List.append_cancel_right harguments))
  have hread := op.ofName?_name
  rw [hname, hids, ofName?_name] at hread
  exact (Option.some.inj hread).symm

end Operation

end GraphCourier
