import GraphCourier.Proofs.Answers

/-!
# Answers are decoded as they were written

An answer may be written in many ways: its members in any order, blanks between
any two tokens, and members with other names, of any values, in between
(`ObjectText`). All of them are decoded to that answer, and nothing else is
decoded to it (`Response.decode_written`). So a field that is missing or comes
twice is an error, and so is a number that is not one of 64 bits, instead of
which another one might have been taken.
-/

namespace GraphCourier.Json

variable {s t u v w r r' : List Char} {c : Char} {first : Bool}

/-! ## How answers are written -/

/-- The texts of an object whose members have these names, and values with these
texts, in this order. -/
inductive ObjectText (ms : List (String × List Char)) : List Char → Prop where
  | mk {ts : List (List Char)} {u w w' : List Char} (hw : Blanks w) (hw' : Blanks w')
    (h : Enclosed ts u) (hmembers : List.Forall₂ NamedText ms ts)
    (hvalues : ∀ m ∈ ms, ValueText m.2) : ObjectText ms (w ++ '\x7b' :: (u ++ '\x7d' :: w'))

def flagText : Bool → List Char
  | true => ['t', 'r', 'u', 'e']
  | false => ['f', 'a', 'l', 's', 'e']

/-- The texts of the values that the fields of answers have. -/
inductive Writes : Value → List Char → Prop where
  | flag (b : Bool) : Writes (.bool b) (flagText b)
  | natural (n : UInt64) : Writes (.number (.natural n)) (Decimal.digits n.toNat)
  | naturals {ns : List UInt64} {u : List Char}
    (h : Enclosed (ns.map fun n => Decimal.digits n.toNat) u) :
    Writes (.list (ns.map fun n => .number (.natural n))) ('[' :: (u ++ [']']))

/-- A numeral of no natural number of 64 bits: one that is negative, has a
fraction or an exponent, or is too large. -/
def NotNatural (t : List Char) : Prop :=
  ∃ n : Numeral, n.Text t ∧ (n.negative = true ∨ n.fraction ≠ none ∨ n.exponent ≠ none
    ∨ 2 ^ 64 ≤ Decimal.value n.whole)

/-- A value that is such a numeral, or a list with one in it. -/
inductive Spoiled : List Char → Prop where
  | number {t : List Char} (h : NotNatural t) : Spoiled t
  | item {ts : List (List Char)} {u t : List Char} (h : Enclosed ts u)
    (hvalues : ∀ t ∈ ts, ValueText t) (ht : t ∈ ts) (hspoiled : NotNatural t) :
    Spoiled ('[' :: (u ++ [']']))

/-! ## Fields -/

theorem digits_ne_cons {n : Nat} (hc : c.isDigit = false) (t : List Char) :
    Decimal.digits n ≠ c :: t := by
  intro h
  have hmem : c ∈ Decimal.digits n := h ▸ List.mem_cons_self ..
  have hdigit := Decimal.isDigit_of_mem_digits hmem
  rw [hc] at hdigit
  cases hdigit

theorem valueText_digits (n : Nat) : ValueText (Decimal.digits n) :=
  .number (Numeral.text_digits n)

theorem flagText_ne {b : Bool} (hc : c ≠ 't' ∧ c ≠ 'f') (t : List Char) : c :: t ≠ flagText b := by
  intro h
  cases b with
  | true => exact hc.1 (List.cons.inj h).1
  | false => exact hc.2 (List.cons.inj h).1

theorem agrees_readFlag_text : Agrees (Stands ValueText) readFlag flagText := by
  rintro s r t ⟨h, hs, hr⟩ b r'
  rw [readFlag_iff]
  cases h with
  | null => simp [hs, flagText_ne]
  | isTrue => cases b <;> simp [hs, readWord, flagText, eq_comm]
  | isFalse => cases b <;> simp [hs, readWord, flagText, eq_comm]
  | number h =>
      obtain ⟨c, u, rfl, hc⟩ := h.starts
      have htrue := ne_of_isNumber hc (d := 't') (by decide)
      have hfalse := ne_of_isNumber hc (d := 'f') (by decide)
      simp [hs, htrue, hfalse, flagText_ne]
  | string => simp [hs, flagText_ne]
  | list => simp [hs, flagText_ne]
  | object => simp [hs, flagText_ne]

theorem agrees_readId_text :
    Agrees (Stands ValueText) readId fun n => Decimal.digits n.toNat := by
  rintro s r t ⟨h, hs, hr⟩ n r'
  rw [readId_iff]
  cases h with
  | number h =>
      obtain ⟨c, u, rfl, hc⟩ := h.starts
      simpa [hs, hc] using readNumber_natural h hr (x := n) (u := r')
  | _ => simp [hs, (digits_ne_cons _ _).symm]

theorem readIds_iff {ts : List (List Char)} (h : Enclosed ts u) (hts : ∀ t ∈ ts, ValueText t)
    {ns : List UInt64} :
    Reader.Reads (readItems readId true) (u ++ ']' :: r) ns r' ↔
      ts = ns.map (fun n => Decimal.digits n.toNat) ∧ r' = r :=
  agrees_readId_text.items (ValueText.itemsRead h hts r)

theorem writes_flag_iff {b : Bool} : Writes (FieldKind.flag.json b) t ↔ t = flagText b := by
  constructor
  · intro h
    cases h
    rfl
  · rintro rfl
    exact .flag b

theorem writes_id_iff {n : UInt64} :
    Writes (FieldKind.id.json n) t ↔ t = Decimal.digits n.toNat := by
  constructor
  · intro h
    cases h
    rfl
  · rintro rfl
    exact .natural n

theorem writes_idList_iff {ns : List UInt64} :
    Writes (FieldKind.idList.json ns) t ↔
      ∃ u, Enclosed (ns.map fun n => Decimal.digits n.toNat) u ∧ t = '[' :: (u ++ [']']) := by
  constructor
  · intro h
    generalize hy : FieldKind.idList.json ns = y at h
    cases h with
    | flag | natural => cases hy
    | @naturals ns' u h =>
        obtain rfl := FieldKind.json_injective .idList hy
        exact ⟨u, h, rfl⟩
  · rintro ⟨u, h, rfl⟩
    exact .naturals h

/-- The items of a list are told by its text. -/
theorem writes_items_iff {ts : List (List Char)} (h : Enclosed ts u)
    (hts : ∀ t ∈ ts, ValueText t) {ns : List UInt64} :
    Writes (FieldKind.idList.json ns) ('[' :: (u ++ [']'])) ↔
      ts = ns.map fun n => Decimal.digits n.toNat := by
  rw [writes_idList_iff]
  constructor
  · rintro ⟨u', h', ht⟩
    obtain rfl := List.append_cancel_right (List.cons.inj ht).2
    have hdigits : ∀ t ∈ ns.map fun n => Decimal.digits n.toNat, ValueText t :=
      List.forall_mem_map.mpr fun n _ => valueText_digits n.toNat
    have hread := (readIds_iff h' hdigits (r := [])).mpr ⟨rfl, rfl⟩
    exact ((readIds_iff h hts).mp hread).1
  · rintro rfl
    exact ⟨u, h, rfl⟩

theorem readIdList_text (h : Stands ValueText s t r) {ns : List UInt64} :
    Reader.Reads readIdList s ns r' ↔ Writes (FieldKind.idList.json ns) t ∧ r' = r := by
  obtain ⟨h, hs, hr⟩ := h
  rw [readIdList_iff]
  cases h with
  | list henclosed hitems =>
      rw [writes_items_iff henclosed hitems, ← readIds_iff henclosed hitems]
      simp [hs]
  | number h =>
      obtain ⟨c, u, rfl, hc⟩ := h.starts
      have hsquare := ne_of_isNumber hc (d := '[') (by decide)
      simp [hs, hsquare, writes_idList_iff]
  | _ => simp [hs, writes_idList_iff]

/-- **A field is read from the texts that its value is written as**, among the
texts of all values. -/
theorem readField_text (kind : FieldKind) (h : Stands ValueText s t r) {x : kind.Value} :
    Reader.Reads (readField kind) s x r' ↔ Writes (kind.json x) t ∧ r' = r := by
  cases kind with
  | flag =>
      rw [writes_flag_iff]
      exact @agrees_readFlag_text s r t h x r'
  | id =>
      rw [writes_id_iff]
      exact @agrees_readId_text s r t h x r'
  | idList => exact readIdList_text h

/-! ## What a text shows -/

/-- Only fields of one kind have values that are written with this first
character. -/
def kindOf (c : Char) : FieldKind :=
  if c.isDigit then .id else if c = '[' then .idList else .flag

theorem Writes.starts {y : Value} (h : Writes y t) :
    ∃ c u, t = c :: u ∧ ∃ x : (kindOf c).Value, y = (kindOf c).json x := by
  cases h with
  | flag b => cases b <;> exact ⟨_, _, rfl, _, rfl⟩
  | natural n =>
      obtain ⟨c, u, hcu⟩ := List.exists_cons_of_ne_nil (Nat.toDigits_ne_nil (b := 10) (n := n.toNat))
      have hmem : c ∈ Nat.toDigits 10 n.toNat := hcu ▸ List.mem_cons_self ..
      have hc := Decimal.isDigit_of_mem_digits hmem
      have hkind : kindOf c = .id := if_pos hc
      refine ⟨c, u, hcu, ?_⟩
      rw [hkind]
      exact ⟨n, rfl⟩
  | @naturals ns => exact ⟨'[', _, rfl, ns, rfl⟩

theorem Writes.unique {y y' : Value} (hvalue : ValueText t) (h : Writes y t) (h' : Writes y' t) :
    y = y' := by
  obtain ⟨c, u, ht, x, rfl⟩ := h.starts
  obtain ⟨c', u', ht', x', rfl⟩ := h'.starts
  obtain ⟨rfl, rfl⟩ := List.cons.inj (ht.symm.trans ht')
  have hstands : Stands ValueText t t [] := by
    refine ⟨hvalue, ?_, .nil⟩
    simpa using hvalue.solid.skipBlanks (w := []) nofun []
  have hread := (readField_text _ hstands).mpr ⟨h, rfl⟩
  have hread' := (readField_text _ hstands).mpr ⟨h', rfl⟩
  rw [(hread.unique hread').1]

/-- The text of a value shows the one that it writes, if there is one. -/
theorem exists_shown :
    ∃ shown : List Char → Value, ∀ t, ValueText t → ∀ (kind : FieldKind) (x : kind.Value),
      shown t = kind.json x ↔ Writes (kind.json x) t := by
  have h : ∀ t, ∃ y : Value, ValueText t → ∀ (kind : FieldKind) (x : kind.Value),
      y = kind.json x ↔ Writes (kind.json x) t := by
    intro t
    by_cases h : ∃ y, Writes y t
    · obtain ⟨y, hy⟩ := h
      exact ⟨y, fun ht kind x => ⟨fun hx => hx ▸ hy, hy.unique ht⟩⟩
    · refine ⟨.null, fun _ kind x => iff_of_false ?_ fun hx => h ⟨_, hx⟩⟩
      cases kind <;> nofun
  exact Classical.skolem.mp h

/-! ## Objects -/

/-- Each of these members comes once, with a text of its value. -/
def WrittenOnce (members : List (String × Value)) (ms : List (String × List Char)) : Prop :=
  ∀ m ∈ members, ∃ t, valuesOf m.1 ms = [t] ∧ Writes m.2 t

theorem Shown.of_text {shown : List Char → Value}
    (hshown : ∀ t, ValueText t → ∀ (kind : FieldKind) (x : kind.Value),
      shown t = kind.json x ↔ Writes (kind.json x) t)
    (h : Stands ValueText s t r) : Shown s (shown t) r where
  agrees kind x r' := by
    rw [hshown t h.1]
    exact readField_text kind h
  passed := skipValue_of_skips (passedOver_valueText h.1 ⟨rfl, h.2⟩ rfl .done)

theorem ObjectText.valueTexts {ms : List (String × List Char)} (h : ObjectText ms s) :
    ∀ m ∈ ms, ValueText m.2 := by
  cases h with
  | mk _ _ _ _ hvalues => exact hvalues

/-- The text of an object is read from its brace on, up to the blanks behind it. -/
theorem ObjectText.membersRead {α : Type} {item : Reading α} {f : List Char → α}
    (hitem : ∀ {s t r}, Stands ValueText s t r → item s (f t) r)
    {ms : List (String × List Char)} (h : ObjectText ms s) :
    ∃ t r, skipBlanks s = '\x7b' :: t
      ∧ MembersRead item true t (ms.map fun m => (m.1, f m.2)) r ∧ skipBlanks r = [] := by
  cases h with
  | @mk ts u w w' hw hw' henclosed hmembers hvalues =>
      have hsteps := henclosed.steps
        (forall_mem_of_forall₂ hmembers fun _ _ h => h.solid) (.inr rfl) w'
      have hwritten : List.Forall₂ (WrittenMember fun x t => ValueText t ∧ x = f t)
          (ms.map fun m => (m.1, f m.2)) ts :=
        List.forall₂_map_left_iff.mpr (((List.forall₂_and_left _ _).mpr ⟨hvalues, hmembers⟩).imp
          fun m t ⟨hvalue, hnamed⟩ => ⟨m.2, ⟨hvalue, rfl⟩, hnamed⟩)
      refine ⟨u ++ '\x7d' :: w', w', ?_, ?_, List.dropWhile_eq_nil_iff.mpr hw'⟩
      · rw [skipBlanks_append hw, skipBlanks_cons (by decide)]
      · refine membersRead_namedTexts hsteps hwritten (fun h => h.1.solid) ?_
        rintro _ s t r ⟨hvalue, rfl⟩ hs hr
        exact hitem ⟨hvalue, hs, hr⟩

theorem json_of_mem_members {fs : List Field} {xs : Record fs} {m : String × Value}
    (h : m ∈ xs.members fs) : ∃ (kind : FieldKind) (x : kind.Value), m.2 = kind.json x := by
  induction fs with
  | nil => cases h
  | cons f fs ih =>
      rcases List.mem_cons.mp h with rfl | h
      · exact ⟨f.kind, xs.head, rfl⟩
      · exact ih h

/-- What the texts of values show is what they write. -/
theorem forall_shown_iff {shown : List Char → Value}
    (hshown : ∀ t, ValueText t → ∀ (kind : FieldKind) (x : kind.Value),
      shown t = kind.json x ↔ Writes (kind.json x) t)
    {ms : List (String × List Char)} (hvalues : ∀ m ∈ ms, ValueText m.2) {fs : List Field}
    {xs : Record fs} :
    (∀ m ∈ xs.members fs, valuesOf m.1 (ms.map fun m => (m.1, shown m.2)) = [m.2]) ↔
      ∀ m ∈ xs.members fs, ∃ t, valuesOf m.1 ms = [t] ∧ Writes m.2 t := by
  refine forall₂_congr fun m hm => ?_
  obtain ⟨kind, x, hx⟩ := json_of_mem_members hm
  rw [valuesOf_map, List.map_eq_singleton_iff, hx]
  refine exists_congr fun t => and_congr_right fun ht => ?_
  have hmem : (m.1, t) ∈ ms := mem_valuesOf.mp (ht ▸ List.mem_singleton_self t)
  exact hshown t (hvalues _ hmem) kind x

/-- **A record is read from the objects that it is written as**: those in which
each of its fields comes once, with a text of its value. -/
theorem readRecord_text {shape : Shape} (hnodup : (shape.fields.map Field.name).Nodup)
    {ms : List (String × List Char)} (h : ObjectText ms s) {xs : Record shape.fields} :
    (∃ r, Reader.Reads (readRecord shape) s xs r ∧ skipBlanks r = []) ↔
      WrittenOnce (xs.members shape.fields) ms := by
  obtain ⟨shown, hshown⟩ := exists_shown
  obtain ⟨t, w, hs, hread, hend⟩ := h.membersRead fun h => Shown.of_text hshown h
  rw [WrittenOnce, ← forall_shown_iff hshown h.valueTexts]
  simp only [readRecord_object hnodup hs hread]
  constructor
  · rintro ⟨_, ⟨h, -⟩, -⟩
    exact h
  · intro h
    exact ⟨w, ⟨h, rfl⟩, hend⟩

/-! ## Numerals of other numbers -/

theorem NotNatural.not_digits (h : NotNatural t) (n : UInt64) : t ≠ Decimal.digits n.toNat := by
  rintro rfl
  obtain ⟨m, hm, hnot⟩ := h
  rw [hm.unique (Numeral.text_digits n.toNat), Decimal.value_digits] at hnot
  rcases hnot with h | h | h | h
  · cases h
  · exact h rfl
  · exact h rfl
  · exact absurd n.toNat_lt (Nat.not_lt.mpr h)

/-- A text with such a numeral writes no value of a field. -/
theorem Spoiled.not_writes (h : Spoiled t) (kind : FieldKind) (x : kind.Value) :
    ¬Writes (kind.json x) t := by
  intro hwrites
  cases h with
  | number h =>
      obtain ⟨n, hn, -⟩ := id h
      obtain ⟨c, u, rfl, hc⟩ := hn.starts
      cases kind with
      | flag =>
          have hne := flagText_ne (b := x)
            ⟨ne_of_isNumber hc (d := 't') (by decide), ne_of_isNumber hc (d := 'f') (by decide)⟩ u
          exact hne (writes_flag_iff.mp hwrites)
      | id => exact h.not_digits x (writes_id_iff.mp hwrites)
      | idList =>
          obtain ⟨_, -, ht⟩ := writes_idList_iff.mp hwrites
          exact ne_of_isNumber hc (d := '[') (by decide) (List.cons.inj ht).1
  | item h hvalues ht hspoiled =>
      cases kind with
      | flag => exact flagText_ne (by decide) _ (writes_flag_iff.mp hwrites)
      | id => exact digits_ne_cons (by decide) _ (writes_id_iff.mp hwrites).symm
      | idList =>
          rw [writes_items_iff h hvalues] at hwrites
          obtain ⟨n, -, rfl⟩ := List.mem_map.mp (hwrites ▸ ht)
          exact hspoiled.not_digits n rfl

/-- A field that is missing, comes twice or has such a numeral was not written. -/
theorem not_writtenOnce {fs : List Field} {name : String} (hname : name ∈ fs.map Field.name)
    {ms : List (String × List Char)}
    (h : (valuesOf name ms).length ≠ 1 ∨ ∃ t ∈ valuesOf name ms, Spoiled t) (xs : Record fs) :
    ¬WrittenOnce (xs.members fs) ms := by
  intro hwritten
  rw [← map_fst_members xs] at hname
  obtain ⟨m, hm, rfl⟩ := List.mem_map.mp hname
  obtain ⟨t, ht, hwrites⟩ := hwritten m hm
  rw [ht] at h
  rcases h with hlength | ⟨t', ht', hspoiled⟩
  · exact hlength rfl
  · obtain rfl := List.mem_singleton.mp ht'
    obtain ⟨kind, x, hx⟩ := json_of_mem_members hm
    exact hspoiled.not_writes kind x (hx ▸ hwrites)

end GraphCourier.Json

namespace GraphCourier

open Json (ObjectText WrittenOnce Spoiled valuesOf)

namespace Response

variable {α : Type} [AnswerBody α] {ms : List (String × List Char)} {body : String}

/-- How an answer type is decoded from an object with the members `ms`: `names`
are the names of its fields, and `members` is what an answer says. -/
structure DecodesWritten (r : Response) (names : List String)
    (members : α → List (String × Json.Value)) (ms : List (String × List Char)) : Prop where
  /-- The answers that are decoded are the ones that were written. -/
  written : ∀ v, r.decode α = .ok (some v) ↔ WrittenOnce (members v) ms
  /-- If none was written, this is an error. -/
  otherwise : (∀ v, ¬WrittenOnce (members v) ms) →
    ∃ detail, r.decode α = .error (.decode r.operation detail)
  missing : (∃ name ∈ names, valuesOf name ms = []) →
    ∃ detail, r.decode α = .error (.decode r.operation detail)
  repeated : (∃ name ∈ names, 2 ≤ (valuesOf name ms).length) →
    ∃ detail, r.decode α = .error (.decode r.operation detail)
  /-- A number that is negative, has a fraction or an exponent, or is too large,
  is an error too, also as an item of a list. -/
  spoiled : (∃ name ∈ names, ∃ t ∈ valuesOf name ms, Spoiled t) →
    ∃ detail, r.decode α = .error (.decode r.operation detail)

theorem content?_of_objectText (op : Operation) (h : ObjectText ms body.toList) :
    (⟨op, 200, some body⟩ : Response).content? = some body := by
  have hbrace : '\x7b' ∈ body.toList := by
    generalize body.toList = s at h
    cases h
    simp
  have hblank : Text.isBlank body = false := by
    rw [Text.isBlank, List.all_eq_false]
    exact ⟨_, hbrace, by decide⟩
  simp [content?, isSuccess, GraphCourier.isSuccess, Option.filter, hblank]

theorem decodesWritten {shape : Json.Shape} {record : α → Json.Record shape.fields}
    (hrecord : ReadAsRecord α shape record) (op : Operation) (h : ObjectText ms body.toList) :
    (⟨op, 200, some body⟩ : Response).DecodesWritten (shape.fields.map Json.Field.name)
      (fun v : α => (record v).members shape.fields) ms := by
  have hcontent := content?_of_objectText op h
  have hwritten : ∀ v : α, (⟨op, 200, some body⟩ : Response).decode α = .ok (some v) ↔
      WrittenOnce ((record v).members shape.fields) ms := by
    intro v
    rw [decode_eq_some_iff, ← Json.readRecord_text hrecord.nodup h]
    simp only [hcontent, Option.some.injEq, exists_eq_left', Json.readWhole_iff, hrecord.reads_iff]
  have hrefused : (∀ v : α, ¬WrittenOnce ((record v).members shape.fields) ms) →
      ∃ detail, (⟨op, 200, some body⟩ : Response).decode α = .error (.decode op detail) :=
    fun hnone => decode_refused hcontent fun v hv => hnone v ((hwritten v).mp hv)
  refine ⟨hwritten, hrefused, ?_, ?_, ?_⟩
  · rintro ⟨name, hname, hmissing⟩
    refine hrefused fun v => Json.not_writtenOnce hname (.inl ?_) (record v)
    rw [hmissing]
    nofun
  · rintro ⟨name, hname, htwice⟩
    exact hrefused fun v => Json.not_writtenOnce hname (.inl (by omega)) (record v)
  · rintro ⟨name, hname, hspoiled⟩
    exact hrefused fun v => Json.not_writtenOnce hname (.inr hspoiled) (record v)

/-- **Answers are decoded as they were written**: from every way to write them as
an object, and from nothing else that is an object. -/
theorem decode_written (op : Operation) (h : ObjectText ms body.toList) :
    (⟨op, 200, some body⟩ : Response).DecodesWritten ["in_graph"] InGraph.members ms
      ∧ (⟨op, 200, some body⟩ : Response).DecodesWritten ["node_id", "neighbors"]
          Neighbors.members ms
      ∧ (⟨op, 200, some body⟩ : Response).DecodesWritten ["distance"] Distance.members ms :=
  ⟨decodesWritten InGraph.readAsRecord op h, decodesWritten Neighbors.readAsRecord op h,
    decodesWritten Distance.readAsRecord op h⟩

/-- An object with its members out of order, and one that nobody asked for. -/
theorem objectText_neighbors :
    ObjectText
      [("hops", ['[', 'n', 'u', 'l', 'l', ']']), ("neighbors", ['[', '2', ' ', ',', '0', ']']),
        ("node_id", ['1'])]
      "\x7b\"hops\":[null],\"neighbors\" : [2 ,0],\n\"node_id\":1\x7d".toList := by
  have hbody : "\x7b\"hops\":[null],\"neighbors\" : [2 ,0],\n\"node_id\":1\x7d".toList =
      [] ++ '\x7b' :: ((['"', 'h', 'o', 'p', 's', '"', ':', '[', 'n', 'u', 'l', 'l', ']'] ++ ',' ::
        (['"', 'n', 'e', 'i', 'g', 'h', 'b', 'o', 'r', 's', '"', ' ', ':', ' ', '[', '2', ' ', ',',
          '0', ']'] ++ ',' :: ['\n', '"', 'n', 'o', 'd', 'e', '_', 'i', 'd', '"', ':', '1']))
        ++ '\x7d' :: []) := by
    decide
  have hblank : ∀ c, Json.isBlank c = true → Json.Blanks [c] :=
    fun c hc d hd => List.mem_singleton.mp hd ▸ hc
  have hdigit : ∀ n, Json.ValueText (Decimal.digits n) := Json.valueText_digits
  rw [hbody]
  refine .mk nofun nofun (.some (.more (.refl _) (.more (.refl _)
      (.last (t := ['"', 'n', 'o', 'd', 'e', '_', 'i', 'd', '"', ':', '1'])
        ⟨['\n'], [], hblank _ rfl, nofun, rfl⟩)))) (.cons ?_ (.cons ?_ (.cons ?_ .nil))) ?_
  · exact ⟨_, .refl rfl, [], [], nofun, nofun, rfl⟩
  · exact ⟨_, .refl rfl, [' '], [' '], hblank _ rfl, hblank _ rfl, rfl⟩
  · exact ⟨_, .refl rfl, [], [], nofun, nofun, rfl⟩
  · simp only [List.forall_mem_cons, List.not_mem_nil, false_imp_iff, implies_true, and_true]
    refine ⟨.list (.some (.last (.refl ['n', 'u', 'l', 'l']))) ?_,
      .list (.some (.more (t := ['2']) ⟨[], [' '], nofun, hblank _ rfl, rfl⟩
        (.last (.refl ['0'])))) ?_, hdigit 1⟩
    · exact List.forall_mem_singleton.mpr .null
    · exact List.forall_mem_cons.mpr ⟨hdigit 2, List.forall_mem_singleton.mpr (hdigit 0)⟩

theorem decode_written_out_of_order :
    (⟨.getNeighbors 1, 200,
        some "\x7b\"hops\":[null],\"neighbors\" : [2 ,0],\n\"node_id\":1\x7d"⟩ : Response).decode
      Neighbors = .ok (some ⟨1, [2, 0]⟩) := by
  refine ((decode_written (.getNeighbors 1) objectText_neighbors).2.1.written ⟨1, [2, 0]⟩).mpr ?_
  have hblank : Json.Blanks [' '] := fun c hc => List.mem_singleton.mp hc ▸ rfl
  have hlist : Json.Writes (Json.FieldKind.idList.json [2, 0]) ['[', '2', ' ', ',', '0', ']'] :=
    @Json.Writes.naturals [2, 0] _
      (.some (.more ⟨[], [' '], nofun, hblank, rfl⟩ (.last (.refl _))))
  exact List.forall_mem_cons.mpr ⟨⟨['1'], rfl, .natural 1⟩,
    List.forall_mem_singleton.mpr ⟨_, rfl, hlist⟩⟩

end Response

end GraphCourier
