import GraphCourier.Response
import GraphCourier.Proofs.Records
import GraphCourier.Proofs.ValueTexts

/-!
# Answers are decoded as values are

The body of a response is decoded as any JSON value, or as one of the answers
that the service gives. The two ways find nothing to decode in the same
responses. Where they find something they agree, except that an answer is
refused if one of its keys stands in the body twice (`Response.decodes_alike`).
-/

namespace GraphCourier

/-- The type of an answer that is read as a record: `record` gives the one that
an answer is read from. -/
structure ReadAsRecord (α : Type) [AnswerBody α] (shape : Json.Shape)
    (record : α → Json.Record shape.fields) : Prop where
  nodup : (shape.fields.map Json.Field.name).Nodup
  reads_iff : ∀ (s : List Char) (v : α) (r : List Char),
    (AnswerBody.read : Json.Reader α).Reads s v r ↔
      Json.Reader.Reads (Json.readRecord shape) s (record v) r

theorem ReadAsRecord.of_map {α : Type} [AnswerBody α] {shape : Json.Shape}
    {record : α → Json.Record shape.fields} (f : Json.Record shape.fields → α)
    (hnodup : (shape.fields.map Json.Field.name).Nodup)
    (hread : (AnswerBody.read : Json.Reader α) = (Json.Reader.map f (Json.readRecord shape)))
    (hleft : ∀ v, f (record v) = v) (hright : ∀ xs, record (f xs) = xs) :
    ReadAsRecord α shape record where
  nodup := hnodup
  reads_iff s v r := by
    rw [hread, Json.Reader.reads_map_iff]
    constructor
    · rintro ⟨xs, hxs, rfl⟩
      rwa [hright]
    · exact fun h => ⟨record v, h, (hleft v).symm⟩

namespace Response

variable {α : Type} [AnswerBody α]

/-- The keys of the object that the body is, in the order and as often as they
stand there. -/
def topKeys (r : Response) : List String :=
  (Json.topMembers (r.body.getD "").toList).map Prod.fst

/-- One answer type is decoded as any value is. -/
structure DecodesAlike (r : Response) (members : α → List (String × Json.Value)) : Prop where
  /-- There is nothing to read in either way. -/
  nothing : r.decode α = .ok none ↔ r.decode Json.Value = .ok none
  /-- What both ways read is the same. -/
  agree : ∀ j v, r.decode Json.Value = .ok (some j) → r.decode α = .ok (some v) →
    j.Says (members v)
  /-- A value that says what an answer does is read as that answer. -/
  decoded : ∀ j v, r.decode Json.Value = .ok (some j) → j.Says (members v) →
    (∀ name ∈ (members v).map Prod.fst, r.topKeys.count name ≤ 1) → r.decode α = .ok (some v)
  /-- It is refused if a key of the answer stands there twice. -/
  refused : ∀ j v, r.decode Json.Value = .ok (some j) → j.Says (members v) →
    (∃ name ∈ (members v).map Prod.fst, 1 < r.topKeys.count name) →
    ∃ detail, r.decode α = .error (.decode r.operation detail)

variable {r : Response} {v : α} {body : String}

/-! ## What is decoded -/

theorem content?_eq_none_iff :
    r.content? = none ↔ r.status ≠ 200 ∨ r.body = none
      ∨ ∃ body, r.body = some body ∧ ∀ c ∈ body.toList, Text.isWhiteSpace c = true := by
  rw [content?, isSuccess, GraphCourier.isSuccess]
  by_cases hstatus : r.status = 200
  · cases hbody : r.body with
    | none => simp
    | some body => simp [hstatus, Option.filter, Text.isBlank]
  · simp [hstatus]

theorem body_of_content? (h : r.content? = some body) : r.body = some body := by
  rw [content?] at h
  split at h
  · exact (Option.filter_eq_some_iff.mp h).1
  · cases h

theorem decode_eq_none_iff : r.decode α = .ok none ↔ r.content? = none := by
  unfold decode
  cases r.content? with
  | none => simp
  | some body => cases h : parseAnswer α body <;> simp [h]

theorem decode_eq_some_iff : r.decode α = .ok (some v) ↔
    ∃ body, r.content? = some body ∧
      Json.readWhole (AnswerBody.read : Json.Reader α) body.toList = .ok v := by
  unfold decode parseAnswer
  cases r.content? with
  | none => simp
  | some body =>
      cases h : Json.readWhole (AnswerBody.read : Json.Reader α) body.toList <;> simp [h]

theorem decode_error {e : ClientError} (h : r.decode α = .error e) :
    ∃ detail, e = .decode r.operation detail := by
  unfold decode at h
  split at h
  · cases h
  · split at h
    · cases h
    · exact ⟨_, (Except.error.inj h).symm⟩

theorem decode_refused (hbody : r.content? = some body) (h : ∀ v, r.decode α ≠ .ok (some v)) :
    ∃ detail, r.decode α = .error (.decode r.operation detail) := by
  unfold decode at h ⊢
  rw [hbody] at h ⊢
  dsimp only at h ⊢
  cases hanswer : parseAnswer α body with
  | error detail => exact ⟨detail, rfl⟩
  | ok v => exact absurd (by rw [hanswer]) (h v)

theorem count_topKeys (h : r.body = some body) (name : String) :
    r.topKeys.count name = (Json.valuesOf name (Json.topMembers body.toList)).length := by
  rw [topKeys, h, Option.getD_some, Json.length_valuesOf]

/-- **Every body that is the text of a value is decoded as that value.** -/
theorem decode_textOf (op : Operation) {j : Json.Value} {t : List Char}
    (h : Json.TextOf Json.maxDepth j t) (hbody : Json.Padded t body.toList) :
    (⟨op, 200, some body⟩ : Response).decode Json.Value = .ok (some j) := by
  obtain ⟨w, w', hw, hw', hpadded⟩ := hbody
  have hcontent : (⟨op, 200, some body⟩ : Response).content? = some body := by
    obtain ⟨c, hc, hshown⟩ := h.valueText.not_blank
    have hblank : Text.isBlank body = false := by
      rw [Text.isBlank, hpadded, List.all_eq_false]
      exact ⟨c, by simp [hc], by simp [hshown]⟩
    simp [content?, isSuccess, GraphCourier.isSuccess, Option.filter, hblank]
  have hclosing : Json.Closing w' := by
    have hend := Json.Closing.append hw' .nil
    rwa [List.append_nil] at hend
  refine decode_eq_some_iff.mpr ⟨body, hcontent, Json.readWhole_iff.mpr ⟨w', ?_, ?_⟩⟩
  · rw [hpadded]
    exact h.reads (h.valueText.solid.skipBlanks hw _) hclosing
  · exact List.dropWhile_eq_nil_iff.mpr hw'

/-- **What is decoded as any value is decoded as an answer** if it says the same
and no key of the answer stands there twice. -/
theorem decode_iff_of_decode {shape : Json.Shape} {record : α → Json.Record shape.fields}
    (h : ReadAsRecord α shape record) {j : Json.Value} (hj : r.decode Json.Value = .ok (some j)) :
    r.decode α = .ok (some v) ↔
      j.Says ((record v).members shape.fields)
        ∧ ∀ name ∈ ((record v).members shape.fields).map Prod.fst, r.topKeys.count name ≤ 1 := by
  obtain ⟨body, hbody, hread⟩ := decode_eq_some_iff.mp hj
  obtain ⟨rest, hread, hrest⟩ := Json.readWhole_iff.mp hread
  rw [decode_eq_some_iff]
  simp only [hbody, Option.some.injEq, exists_eq_left', Json.readWhole_iff, h.reads_iff,
    Json.readRecord_iff h.nodup hread, count_topKeys (body_of_content? hbody)]
  constructor
  · rintro ⟨_, ⟨hvalue, rfl⟩, -⟩
    exact hvalue
  · exact fun hvalue => ⟨rest, ⟨hvalue, rfl⟩, hrest⟩

theorem decodesAlike {shape : Json.Shape} {record : α → Json.Record shape.fields}
    (h : ReadAsRecord α shape record) (r : Response) :
    r.DecodesAlike fun v : α => (record v).members shape.fields where
  nothing := by rw [decode_eq_none_iff, decode_eq_none_iff]
  agree j v hj hv := ((decode_iff_of_decode h hj).mp hv).1
  decoded j v hj hvalue honce := (decode_iff_of_decode h hj).mpr ⟨hvalue, honce⟩
  refused j v hj _ htwice := by
    obtain ⟨body, hbody, -⟩ := decode_eq_some_iff.mp hj
    refine decode_refused hbody fun v' hv' => ?_
    obtain ⟨name, hname, hcount⟩ := htwice
    have honce := ((decode_iff_of_decode h hj).mp hv').2 name
    rw [Json.map_fst_members] at hname honce
    exact absurd (honce hname) (Nat.not_le.mpr hcount)

end Response

/-! ## The types of answers -/

/-- What an answer says, as the members of an object. -/
def InGraph.members (x : InGraph) : List (String × Json.Value) :=
  [("in_graph", .bool x.present)]

def Neighbors.members (x : Neighbors) : List (String × Json.Value) :=
  [("node_id", .number (.natural x.node)),
    ("neighbors", .list (x.neighbors.map fun v => .number (.natural v)))]

def Distance.members (x : Distance) : List (String × Json.Value) :=
  [("distance", .number (.natural x.hops))]

theorem InGraph.readAsRecord : ReadAsRecord InGraph InGraph.shape fun x => (x.present, ()) :=
  .of_map (fun xs => ⟨xs.1⟩) (by decide) rfl (fun _ => rfl) (fun _ => rfl)

theorem Neighbors.readAsRecord :
    ReadAsRecord Neighbors Neighbors.shape fun x => (x.node, x.neighbors, ()) :=
  .of_map (fun xs => ⟨xs.1, xs.2.1⟩) (by decide) rfl (fun _ => rfl) (fun _ => rfl)

theorem Distance.readAsRecord : ReadAsRecord Distance Distance.shape fun x => (x.hops, ()) :=
  .of_map (fun xs => ⟨xs.1⟩) (by decide) rfl (fun _ => rfl) (fun _ => rfl)

/-- **The answer types are decoded as any value is.** -/
theorem Response.decodes_alike (r : Response) :
    (r.decode Json.Value = .ok none ↔ r.status ≠ 200 ∨ r.body = none
        ∨ ∃ body, r.body = some body ∧ ∀ c ∈ body.toList, Text.isWhiteSpace c = true)
      ∧ r.DecodesAlike InGraph.members ∧ r.DecodesAlike Neighbors.members
      ∧ r.DecodesAlike Distance.members :=
  ⟨decode_eq_none_iff.trans content?_eq_none_iff, decodesAlike InGraph.readAsRecord r,
    decodesAlike Neighbors.readAsRecord r, decodesAlike Distance.readAsRecord r⟩

namespace Response

/-- A flag under a key with an escape in it. -/
theorem writtenMember_escaped :
    Json.WrittenMember (Json.TextOf 126) ("in_graph", .bool true)
      ['"', 'i', 'n', '\\', 'u', '0', '0', '5', 'f', 'g', 'r', 'a', 'p', 'h', '"', ' ', ':',
        't', 'r', 'u', 'e'] := by
  have hplain : ∀ {c : Char} {t cs : List Char}, (c ≠ '"' ∧ c ≠ '\\' ∧ ¬c.toNat < 0x20) →
      Json.NameText t cs → Json.NameText (c :: t) (c :: cs) :=
    fun hc h => .plain hc.1 hc.2.1 hc.2.2 h
  have hkey : Json.NameText ['i', 'n', '\\', 'u', '0', '0', '5', 'f', 'g', 'r', 'a', 'p', 'h']
      "in_graph".toList :=
    hplain (by decide) (hplain (by decide) (.unit (n := 0x5f) rfl ⟨rfl, rfl⟩ (.refl rfl)))
  have hflag : Json.TextOf 126 (.bool true) ['t', 'r', 'u', 'e'] := .inl .isTrue
  have hspace : Json.Blanks [' '] := List.forall_mem_singleton.mpr rfl
  exact ⟨_, hflag, _, hkey, [' '], [], hspace, List.forall_mem_nil _, rfl⟩

/-- An object with such a member and something else. -/
theorem textOf_escaped :
    Json.TextOf Json.maxDepth
      (.object [("in_graph", .bool true), ("x", .list [.number (.natural 7), .null])])
      "\x7b\"x\":[7,null],\"in\\u005fgraph\" :true\x7d".toList := by
  have hseven : Json.TextOf 125 (.number (.natural 7)) ['7'] := .inl (Json.scalarText_digits 7)
  have hnull : Json.TextOf 125 .null ['n', 'u', 'l', 'l'] := .inl .null
  have hitems : Json.TextOf 126 (.list [.number (.natural 7), .null])
      ['[', '7', ',', 'n', 'u', 'l', 'l', ']'] :=
    .inr (.list (.some (.more (.refl _) (.last (.refl _)))) (.cons hseven (.cons hnull .nil)))
  have hother : Json.WrittenMember (Json.TextOf 126) ("x", .list [.number (.natural 7), .null])
      ['"', 'x', '"', ':', '[', '7', ',', 'n', 'u', 'l', 'l', ']'] :=
    ⟨_, hitems, ['x'], .refl rfl, [], [], List.forall_mem_nil _, List.forall_mem_nil _, rfl⟩
  exact .inr (.object (.some (.more (.refl _) (.last (.refl _))))
    (.cons hother (.cons writtenMember_escaped .nil)))

/-- An object with such a member behind one of the same key without the escape. -/
theorem textOf_twice :
    Json.TextOf Json.maxDepth (.object [("in_graph", .bool true)])
      "\x7b\"in_graph\":false,\"in\\u005fgraph\" :true\x7d".toList := by
  have hflag : Json.TextOf 126 (.bool false) ['f', 'a', 'l', 's', 'e'] := .inl .isFalse
  have hplain : Json.WrittenMember (Json.TextOf 126) ("in_graph", .bool false)
      ['"', 'i', 'n', '_', 'g', 'r', 'a', 'p', 'h', '"', ':', 'f', 'a', 'l', 's', 'e'] :=
    ⟨_, hflag, ['i', 'n', '_', 'g', 'r', 'a', 'p', 'h'], .refl rfl, [], [],
      List.forall_mem_nil _, List.forall_mem_nil _, rfl⟩
  exact .inr (.object (.some (.more (.refl _) (.last (.refl _))))
    (.cons hplain (.cons writtenMember_escaped .nil)))

/-- A flag is read in both ways. Where its key comes twice, in two spellings, the flag is
refused, but the value is read with the last of them. -/
theorem decodes_alike_escaped :
    let r : Response :=
      ⟨.getNode 1, 200, some "\x7b\"x\":[7,null],\"in\\u005fgraph\" :true\x7d"⟩
    let twice : Response :=
      ⟨.getNode 1, 200, some "\x7b\"in_graph\":false,\"in\\u005fgraph\" :true\x7d"⟩
    (∃ j, r.decode Json.Value = .ok (some j) ∧ r.decode InGraph = .ok (some ⟨true⟩)
        ∧ j.Says (InGraph.members ⟨true⟩))
      ∧ ∃ detail, twice.decode InGraph = .error (.decode (.getNode 1) detail) := by
  intro r twice
  have hr : r.decode Json.Value = .ok (some _) := decode_textOf _ textOf_escaped (.refl _)
  have htwice : twice.decode Json.Value = .ok (some _) := decode_textOf _ textOf_twice (.refl _)
  obtain ⟨-, hflag, -⟩ := decodes_alike r
  obtain ⟨-, hrefused, -⟩ := decodes_alike twice
  have hmeans : ∀ ms, (∀ x, ("in_graph", x) ∈ ms ↔ x = .bool true) →
      (Json.Value.object ms).Says (InGraph.members ⟨true⟩) :=
    fun ms h => List.forall_mem_singleton.mpr fun x => by simp [InGraph.members, h x]
  have hread : r.decode InGraph = .ok (some ⟨true⟩) :=
    hflag.decoded _ _ hr (hmeans _ fun x => by simp) (by decide +kernel)
  refine ⟨⟨_, hr, hread, hflag.agree _ _ hr hread⟩, ?_⟩
  exact hrefused.refused _ ⟨true⟩ htwice (hmeans _ fun x => by simp)
    ⟨"in_graph", List.mem_singleton_self _, by decide +kernel⟩

end Response

end GraphCourier
