import Mathlib.Data.List.Nodup
import GraphCourier.Proofs.Fields
import GraphCourier.Proofs.Members
import GraphCourier.Proofs.Skipping

/-!
# Records are read as values are

A record written as an object is read member by member into a draft: a field
takes the value of the member with its name, and members with other names are
passed over (`readDraft_iff`). A field that was filled takes no second value, so
in the end the draft is filled if each field has exactly one member with its name
(`Draft.exists_filled_iff`).

An object read as a value keeps the last member of each name. It says what the
record is then, but not whether a name came twice. Up to that the two readers
agree (`readRecord_iff`).
-/

namespace GraphCourier.Json

variable {α β : Type} {s t u v r r' : List Char} {c : Char} {first : Bool} {depth : Nat}

/-! ## Records written as objects -/

namespace Draft

variable {f : Field} {fs : List Field}

def head (d : Draft (f :: fs)) : Option f.kind.Value := d.1

def tail (d : Draft (f :: fs)) : Draft fs := d.2

def cons (x : Option f.kind.Value) (d : Draft fs) : Draft (f :: fs) := (x, d)

theorem eq_cons_iff {d : Draft (f :: fs)} {x : Option f.kind.Value} {e : Draft fs} :
    d = cons x e ↔ d.head = x ∧ d.tail = e := Prod.ext_iff

/-- What a draft is after a member. -/
def Takes (name : String) (y : Value) : (fs : List Field) → Draft fs → Draft fs → Prop
  | [], d, e => e = d
  | f :: fs, d, e =>
    if f.name = name then (∃ x, y = f.kind.json x ∧ e.head = some x) ∧ e.tail = d.tail
    else e.head = d.head ∧ Takes name y fs d.tail e.tail

/-- What a draft is after members, none of which may have been filled when its
turn comes. -/
def Fills (fs : List Field) : Draft fs → List (String × Value) → Draft fs → Prop
  | d, [], e => e = d
  | d, (name, y) :: ms, e => d.isFilled name = false ∧ ∃ d', Takes name y fs d d' ∧ Fills fs d' ms e

end Draft

/-- A value as it is taken by the readers of members: by a field if it is one of
its values, and by others as something to pass over. -/
structure Shown (s : List Char) (y : Value) (r : List Char) : Prop where
  agrees : ∀ (kind : FieldKind) ⦃x : kind.Value⦄ ⦃r' : List Char⦄,
    Reader.Reads (readField kind) s x r' ↔ y = kind.json x ∧ r' = r
  passed : Reader.Reads skipValue s () r

theorem Shown.of_readValue {y : Value} (h : Reader.Reads (readValue depth) s y r) :
    Shown s y r where
  agrees kind := agrees_readField depth kind h
  passed := skipValue_of_readValue h

theorem readInto_nil (name : String) (d : Draft []) :
    readInto name [] d = Reader.map (fun _ => d) skipValue := rfl

theorem readInto_of_eq {name : String} {f : Field} {fs : List Field} (d : Draft (f :: fs))
    (hname : f.name = name) :
    readInto name (f :: fs) d = Reader.map (fun x => d.tail.cons (some x)) (readField f.kind) :=
  funext fun _ => if_pos hname

theorem readInto_of_ne {name : String} {f : Field} {fs : List Field} (d : Draft (f :: fs))
    (hname : f.name ≠ name) :
    readInto name (f :: fs) d = Reader.map (fun e => e.cons d.head) (readInto name fs d.tail) :=
  funext fun _ => if_neg hname

/-- A member is read into the draft where its value is one of the field with its
name, or where no field has its name. -/
theorem readInto_iff {name : String} {fs : List Field} {d e : Draft fs} {y : Value}
    (h : Shown s y r) :
    Reader.Reads (readInto name fs d) s e r' ↔ Draft.Takes name y fs d e ∧ r' = r := by
  induction fs with
  | nil =>
      rw [readInto_nil, Reader.reads_map_iff]
      constructor
      · rintro ⟨x, hx, rfl⟩
        exact ⟨rfl, (hx.unique h.passed).2⟩
      · rintro ⟨rfl, rfl⟩
        exact ⟨(), h.passed, rfl⟩
  | cons f fs ih =>
      by_cases hname : f.name = name
      · rw [readInto_of_eq d hname, Reader.reads_map_iff, Draft.Takes, if_pos hname]
        constructor
        · rintro ⟨x, hx, he⟩
          obtain ⟨hhead, htail⟩ := Draft.eq_cons_iff.mp he
          obtain ⟨hy, hr⟩ := (h.agrees f.kind).mp hx
          exact ⟨⟨⟨x, hy, hhead⟩, htail⟩, hr⟩
        · rintro ⟨⟨⟨x, hy, hhead⟩, htail⟩, hr⟩
          exact ⟨x, (h.agrees f.kind).mpr ⟨hy, hr⟩,
            Draft.eq_cons_iff.mpr ⟨hhead, htail⟩⟩
      · rw [readInto_of_ne d hname, Reader.reads_map_iff, Draft.Takes, if_neg hname]
        constructor
        · rintro ⟨e', he', he⟩
          obtain ⟨hhead, rfl⟩ := Draft.eq_cons_iff.mp he
          obtain ⟨htakes, hr⟩ := ih.mp he'
          exact ⟨⟨hhead, htakes⟩, hr⟩
        · rintro ⟨⟨hhead, htakes⟩, hr⟩
          exact ⟨e.tail, ih.mpr ⟨htakes, hr⟩, Draft.eq_cons_iff.mpr ⟨hhead, rfl⟩⟩

theorem readDraft_inv {fs : List Field} {d e : Draft fs}
    (h : Reader.Reads (readDraft fs first d) s e r) :
    (∃ h, memberTurn first s = .ok (.close r h) ∧ e = d)
      ∨ ∃ name t h u d' v, memberTurn first s = .ok (.key name t h)
          ∧ d.isFilled name = false ∧ Reader.Reads readColon t () u
          ∧ Reader.Reads (readInto name fs d) u d' v
          ∧ Reader.Reads (readDraft fs false d') v e r := by
  obtain ⟨p, hp, rfl, rfl⟩ := Reader.reads_iff.mp h
  rw [readDraft] at hp
  obtain ⟨turn, hturn, hp⟩ := bind_eq_ok_iff.mp hp
  cases turn with
  | close r' h' =>
      cases hp
      exact .inl ⟨_, hturn, rfl⟩
  | key name t ht =>
      dsimp only at hp
      split at hp
      · cases hp
      · rename_i hfilled
        rw [Bool.not_eq_true] at hfilled
        obtain ⟨colon, hcolon, hp⟩ := bind_eq_ok_iff.mp hp
        obtain ⟨d', hd', hp⟩ := bind_eq_ok_iff.mp hp
        obtain ⟨q, hq, hp⟩ := bind_eq_ok_iff.mp hp
        cases hp
        exact .inr ⟨name, t, ht, _, _, _, hturn, hfilled, .of_ok hcolon, .of_ok hd', .of_ok hq⟩

theorem readDraft_close {fs : List Field} {d : Draft fs} {h : r.length < s.length}
    (hturn : memberTurn first s = .ok (.close r h)) :
    Reader.Reads (readDraft fs first d) s d r := by
  refine ⟨h, ?_⟩
  rw [readDraft, hturn]
  rfl

theorem readDraft_member {fs : List Field} {d d' e : Draft fs} {name : String}
    {ht : t.length < s.length} (hturn : memberTurn first s = .ok (.key name t ht))
    (hfilled : d.isFilled name = false) (hcolon : Reader.Reads readColon t () u)
    (hmember : Reader.Reads (readInto name fs d) u d' v)
    (hlater : Reader.Reads (readDraft fs false d') v e r) :
    Reader.Reads (readDraft fs first d) s e r := by
  obtain ⟨hu, hcolon⟩ := hcolon
  obtain ⟨hv, hmember⟩ := hmember
  obtain ⟨hr, hlater⟩ := hlater
  refine ⟨by omega, ?_⟩
  rw [readDraft, hturn]
  simp only [bind, Except.bind, hfilled, hcolon, hmember, hlater]
  rfl

/-- The members of an object are read into the draft where each of them is, one
after the other. -/
theorem readDraft_iff {fs : List Field} {d e : Draft fs} {ms : List (String × Value)}
    (h : MembersRead Shown first s ms r) :
    Reader.Reads (readDraft fs first d) s e r' ↔ Draft.Fills fs d ms e ∧ r' = r := by
  induction h generalizing d with
  | close hturn =>
      constructor
      · intro hread
        rcases readDraft_inv hread with ⟨_, hturn', he⟩ | ⟨_, _, _, _, _, _, hturn', -⟩
        · cases hturn.symm.trans hturn'
          exact ⟨he, rfl⟩
        · cases hturn.symm.trans hturn'
      · rintro ⟨rfl, rfl⟩
        exact readDraft_close hturn
  | member hturn hcolon hy _ ih =>
      constructor
      · intro hread
        rcases readDraft_inv hread with
          ⟨_, hturn', _⟩ | ⟨_, _, _, _, d', _, hturn', hfilled, hcolon', hmember, hlater⟩
        · cases hturn.symm.trans hturn'
        · cases hturn.symm.trans hturn'
          obtain ⟨-, rfl⟩ := hcolon.unique hcolon'
          obtain ⟨htakes, rfl⟩ := (readInto_iff hy).mp hmember
          obtain ⟨hfills, hr⟩ := ih.mp hlater
          exact ⟨⟨hfilled, d', htakes, hfills⟩, hr⟩
      · rintro ⟨⟨hfilled, d', htakes, hfills⟩, rfl⟩
        exact readDraft_member hturn hfilled hcolon ((readInto_iff hy).mpr ⟨htakes, rfl⟩)
          (ih.mpr ⟨hfills, rfl⟩)

/-! ## What fills a draft -/

theorem FieldKind.json_injective (kind : FieldKind) : Function.Injective kind.json := by
  cases kind with
  | flag => exact fun _ _ h => by cases h; rfl
  | id => exact fun _ _ h => by cases h; rfl
  | idList =>
      intro xs ys h
      refine List.map_injective_iff.mpr ?_ (Value.list.inj h)
      intro m n hmn
      cases hmn
      rfl

namespace Draft

/-- Each field is filled by the values with its name, if any, after what there
was. -/
def Gains : (fs : List Field) → Draft fs → List (String × Value) → Draft fs → Prop
  | [], _, _, _ => True
  | f :: fs, d, ms, e =>
    d.head.toList.map f.kind.json ++ valuesOf f.name ms = e.head.toList.map f.kind.json
      ∧ Gains fs d.tail ms e.tail

variable {f : Field} {fs : List Field} {name : String} {y : Value} {ms : List (String × Value)}

theorem gains_nil_iff {d e : Draft fs} : Gains fs d [] e ↔ e = d := by
  induction fs with
  | nil => exact ⟨fun _ => rfl, fun _ => trivial⟩
  | cons f fs ih =>
      have hhead : d.head.toList.map f.kind.json = e.head.toList.map f.kind.json ↔
          e.head = d.head := by
        cases d.head <;> cases e.head <;> simp [f.kind.json_injective.eq_iff, eq_comm]
      rw [Gains, valuesOf_nil, List.append_nil, hhead, ih]
      exact Prod.ext_iff.symm

theorem isFilled_cons (name : String) (d : Draft (f :: fs)) :
    d.isFilled name = if f.name = name then d.head.isSome else d.tail.isFilled name := rfl

/-- A field has at most one value, so it gains one only where it had none. -/
theorem append_cons_eq_toList_iff {json : α → β} {x z : Option α} {y : β} {ys : List β} :
    x.toList.map json ++ y :: ys = z.toList.map json ↔
      x = none ∧ ∃ v, y = json v ∧ json v :: ys = z.toList.map json := by
  cases x with
  | some x => cases z <;> simp
  | none =>
      cases z with
      | none => simp
      | some z =>
          simp only [Option.toList_none, Option.toList_some, List.map_nil, List.map_cons,
            List.nil_append, List.cons.injEq, true_and]
          constructor
          · rintro ⟨hy, hys⟩
            exact ⟨z, hy, rfl, hys⟩
          · rintro ⟨v, hy, hv, hys⟩
            exact ⟨hy.trans hv, hys⟩

theorem gains_cons_of_notMem {d e : Draft fs} (h : name ∉ fs.map Field.name) :
    Gains fs d ((name, y) :: ms) e ↔ Gains fs d ms e := by
  induction fs with
  | nil => exact Iff.rfl
  | cons f fs ih =>
      rw [List.map_cons, List.mem_cons, not_or] at h
      rw [Gains, Gains, valuesOf_cons_of_ne h.1, ih h.2]

/-- A member is gained where it is taken by a field that was not filled. -/
theorem gains_cons_iff {d e : Draft fs} (hnodup : (fs.map Field.name).Nodup) :
    Gains fs d ((name, y) :: ms) e ↔
      d.isFilled name = false ∧ ∃ d', Takes name y fs d d' ∧ Gains fs d' ms e := by
  induction fs with
  | nil =>
      exact ⟨fun _ => ⟨rfl, d, rfl, trivial⟩, fun _ => trivial⟩
  | cons f fs ih =>
      rw [List.map_cons, List.nodup_cons] at hnodup
      rw [Gains, isFilled_cons]
      by_cases hname : f.name = name
      · subst hname
        -- no later field has the name, so the others gain nothing
        rw [valuesOf_cons_self, gains_cons_of_notMem hnodup.1, append_cons_eq_toList_iff,
          if_pos rfl, Option.isSome_eq_false_iff, Option.isNone_iff_eq_none]
        constructor
        · rintro ⟨⟨hd, x, hy, hhead⟩, htail⟩
          refine ⟨hd, cons (some x) d.tail, ?_, hhead, htail⟩
          rw [Takes, if_pos rfl]
          exact ⟨⟨x, hy, rfl⟩, rfl⟩
        · rintro ⟨hd, d', htakes, hgains⟩
          rw [Takes, if_pos rfl] at htakes
          obtain ⟨⟨x, hy, hhead⟩, htail⟩ := htakes
          rw [Gains, hhead, htail] at hgains
          exact ⟨⟨hd, x, hy, hgains.1⟩, hgains.2⟩
      · rw [valuesOf_cons_of_ne (Ne.symm hname), ih hnodup.2, if_neg hname]
        constructor
        · rintro ⟨hhead, hfilled, d', htakes, htail⟩
          refine ⟨hfilled, cons d.head d', ?_, hhead, htail⟩
          rw [Takes, if_neg hname]
          exact ⟨rfl, htakes⟩
        · rintro ⟨hfilled, d', htakes, hgains⟩
          rw [Takes, if_neg hname] at htakes
          rw [Gains, htakes.1] at hgains
          exact ⟨hgains.1, hfilled, d'.tail, htakes.2, hgains.2⟩

theorem fills_iff_gains {d e : Draft fs} (hnodup : (fs.map Field.name).Nodup) :
    Fills fs d ms e ↔ Gains fs d ms e := by
  induction ms generalizing d with
  | nil => rw [gains_nil_iff, Fills]
  | cons m ms ih =>
      obtain ⟨name, y⟩ := m
      simp only [Fills, gains_cons_iff hnodup, ih]

theorem finish_cons_some (x : f.kind.Value) (d : Draft fs) :
    (cons (some x) d).finish (f :: fs) = (d.finish fs).map fun xs => xs.cons x := rfl

theorem finish_eq_ok_iff {d : Draft (f :: fs)} {xs : Record (f :: fs)} :
    d.finish (f :: fs) = .ok xs ↔ d.head = some xs.head ∧ d.tail.finish fs = .ok xs.tail := by
  have hd : d = cons d.head d.tail := rfl
  rw [hd]
  generalize d.head = head, d.tail = tail
  cases head with
  | none => exact ⟨nofun, fun h => nomatch h.1⟩
  | some x =>
      rw [finish_cons_some]
      change _ ↔ some x = some xs.head ∧ tail.finish fs = _
      cases tail.finish fs with
      | error name => exact ⟨nofun, fun h => nomatch h.2⟩
      | ok ys =>
          rw [Except.map, Except.ok.injEq, Except.ok.injEq, Option.some.injEq, eq_comm,
            Record.eq_cons_iff, eq_comm, eq_comm (a := ys)]

/-- **A draft is filled to a record** by members among which each field comes
once, with its value in the record. -/
theorem exists_filled_iff {xs : Record fs} (hnodup : (fs.map Field.name).Nodup) :
    (∃ d, Fills fs (empty fs) ms d ∧ d.finish fs = .ok xs) ↔
      ∀ m ∈ xs.members fs, valuesOf m.1 ms = [m.2] := by
  simp only [fills_iff_gains hnodup]
  clear hnodup
  induction fs with
  | nil => exact ⟨fun _ => List.forall_mem_nil _, fun _ => ⟨empty [], trivial, rfl⟩⟩
  | cons f fs ih =>
      rw [Record.members, List.forall_mem_cons, ← ih]
      constructor
      · rintro ⟨d, ⟨hhead, htail⟩, hfinish⟩
        obtain ⟨hx, hxs⟩ := finish_eq_ok_iff.mp hfinish
        rw [hx] at hhead
        exact ⟨hhead, d.tail, htail, hxs⟩
      · rintro ⟨hhead, d, htail, hxs⟩
        exact ⟨cons (some xs.head) d, ⟨hhead, htail⟩, finish_eq_ok_iff.mpr ⟨rfl, hxs⟩⟩

end Draft

/-! ## Values that say what a record does -/

/-- Whether a value says what a record with these members does: an object in
which the members with these names are exactly these, or a list of exactly
their values. -/
def Value.Says (fields : List (String × Value)) : Value → Prop
  | .object ms => ∀ name ∈ fields.map Prod.fst, ∀ x, (name, x) ∈ ms ↔ (name, x) ∈ fields
  | .list xs => xs = fields.map Prod.snd
  | _ => False

/-- Each member comes once where the last one of each name is the right one and
no name comes twice. -/
theorem forall_valuesOf_iff {fields ms : List (String × Value)}
    (hnodup : (fields.map Prod.fst).Nodup) :
    (∀ m ∈ fields, valuesOf m.1 ms = [m.2]) ↔
      (Value.object (Members.sorted ms)).Says fields
        ∧ ∀ name ∈ fields.map Prod.fst, (valuesOf name ms).length ≤ 1 := by
  constructor
  · intro h
    refine ⟨fun name hname x => ?_, fun name hname => ?_⟩
    · obtain ⟨m, hm, rfl⟩ := List.mem_map.mp hname
      rw [Members.mem_sorted_iff, h m hm, List.getLast?_singleton, Option.some.injEq]
      constructor
      · rintro rfl
        exact hm
      · intro hx
        exact congrArg Prod.snd (List.inj_on_of_nodup_map hnodup hm hx rfl)
    · obtain ⟨m, hm, rfl⟩ := List.mem_map.mp hname
      rw [h m hm]
      exact Nat.le_refl 1
  · rintro ⟨hvalue, honce⟩ ⟨name, x⟩ hm
    have hname := List.mem_map_of_mem (f := Prod.fst) hm
    have hlast := Members.mem_sorted_iff ms |>.mp ((hvalue name hname x).mpr hm)
    obtain ⟨before, hvalues⟩ := List.getLast?_eq_some_iff.mp hlast
    have hlength := honce name hname
    rw [hvalues, List.length_append, List.length_singleton] at hlength
    have hbefore : before = [] := List.length_eq_zero_iff.mp (by omega)
    rw [hvalues, hbefore, List.nil_append]

theorem map_fst_members {fs : List Field} (xs : Record fs) :
    (xs.members fs).map Prod.fst = fs.map Field.name := by
  induction fs with
  | nil => rfl
  | cons f fs ih => rw [Record.members, List.map_cons, List.map_cons, ih]

/-- The members of the object that a text starts with, in the order and as often
as they stand there. A text that starts with something else has none. -/
def topMembers (s : List Char) : List (String × Value) :=
  match skipBlanks s with
  | '\x7b' :: t =>
    match readMembers (readValue (maxDepth - 1)) true t with
    | .ok p => p.value
    | .error _ => []
  | _ => []

theorem topMembers_object {ms : List (String × Value)} (hs : skipBlanks s = '\x7b' :: t)
    (h : MembersRead (Reader.Reads (readValue (maxDepth - 1))) true t ms r) :
    topMembers s = ms := by
  obtain ⟨_, h⟩ := h.reads
  rw [topMembers, hs]
  simp only [h]

theorem topMembers_of_ne (hs : skipBlanks s = c :: t) (hc : c ≠ '\x7b') : topMembers s = [] := by
  rw [topMembers, hs]
  split
  · rename_i heq
    cases heq
    exact absurd rfl hc
  · rfl

/-! ## Records -/

section Records

variable {shape : Shape} {xs : Record shape.fields}

theorem readRecord_square (hs : skipBlanks s = '[' :: t) :
    Reader.Reads (readRecord shape) s xs r ↔
      Reader.Reads (readRow shape 0 shape.fields) t xs r := by
  obtain ⟨hlt, ha⟩ := ahead_of_cons hs
  constructor
  · intro h
    obtain ⟨p, hp, rfl, rfl⟩ := Reader.reads_iff.mp h
    rw [readRecord, ha] at hp
    obtain ⟨q, hq, hp⟩ := bind_eq_ok_iff.mp hp
    cases hp
    exact .of_ok hq
  · rintro ⟨hr, h⟩
    refine ⟨Nat.lt_trans hr hlt, ?_⟩
    rw [readRecord, ha]
    simp only [if_pos, h]
    rfl

theorem readRecord_curly (hs : skipBlanks s = '\x7b' :: t) :
    Reader.Reads (readRecord shape) s xs r ↔
      ∃ d, Reader.Reads (readDraft shape.fields true (Draft.empty shape.fields)) t d r
        ∧ d.finish shape.fields = .ok xs := by
  obtain ⟨hlt, ha⟩ := ahead_of_cons hs
  constructor
  · intro h
    obtain ⟨p, hp, rfl, rfl⟩ := Reader.reads_iff.mp h
    rw [readRecord, ha] at hp
    obtain ⟨q, hq, hp⟩ := bind_eq_ok_iff.mp hp
    split at hp
    · rename_i hfinish
      cases hp
      exact ⟨_, .of_ok hq, hfinish⟩
    · cases hp
  · rintro ⟨d, ⟨hr, h⟩, hfinish⟩
    refine ⟨Nat.lt_trans hr hlt, ?_⟩
    rw [readRecord, ha]
    simp only [bind, Except.bind, h, hfinish]
    rfl

/-- A record is read from an object in which each field comes once, with its value
in the record. -/
theorem readRecord_object (hnodup : (shape.fields.map Field.name).Nodup)
    (hs : skipBlanks s = '\x7b' :: t) {ms : List (String × Value)}
    (h : MembersRead Shown true t ms r) :
    Reader.Reads (readRecord shape) s xs r' ↔
      (∀ m ∈ xs.members shape.fields, valuesOf m.1 ms = [m.2]) ∧ r' = r := by
  rw [readRecord_curly hs, ← Draft.exists_filled_iff hnodup]
  simp only [readDraft_iff h]
  constructor
  · rintro ⟨d, ⟨hfills, hr⟩, hfinish⟩
    exact ⟨⟨d, hfills, hfinish⟩, hr⟩
  · rintro ⟨⟨d, hfills, hfinish⟩, hr⟩
    exact ⟨d, ⟨hfills, hr⟩, hfinish⟩

theorem not_readRecord (hs : skipBlanks s = c :: t) (hsquare : c ≠ '[') (hcurly : c ≠ '\x7b') :
    ¬Reader.Reads (readRecord shape) s xs r := by
  obtain ⟨hlt, ha⟩ := ahead_of_cons hs
  rintro ⟨_, h⟩
  rw [readRecord, ha] at h
  simp only [if_neg hsquare, if_neg hcurly] at h
  cases h

/-- **Records and values are read alike.** Where any value is read, a record is
read if the value says what the record does and each field comes only once. -/
theorem readRecord_iff (hnodup : (shape.fields.map Field.name).Nodup) {y : Value}
    (h : Reader.Reads (readValue maxDepth) s y r) :
    Reader.Reads (readRecord shape) s xs r' ↔
      (y.Says (xs.members shape.fields) ∧ ∀ name ∈ (xs.members shape.fields).map Prod.fst,
        (valuesOf name (topMembers s)).length ≤ 1) ∧ r' = r := by
  cases valueRead h with
  | null hs => simp [not_readRecord hs (by decide) (by decide), Value.Says]
  | isTrue hs => simp [not_readRecord hs (by decide) (by decide), Value.Says]
  | isFalse hs => simp [not_readRecord hs (by decide) (by decide), Value.Says]
  | number hs hc =>
      have hsquare := ne_of_isNumber hc (d := '[') (by decide)
      have hcurly := ne_of_isNumber hc (d := '\x7b') (by decide)
      simp [not_readRecord hs hsquare hcurly, Value.Says]
  | string hs => simp [not_readRecord hs (by decide) (by decide), Value.Says]
  | list _ hs hitems =>
      rw [readRecord_square hs, readRow_iff rfl hitems, topMembers_of_ne hs (by decide), Value.Says]
      simp [valuesOf]
  | object hdepth hs hmembers =>
      cases hdepth
      rw [readRecord_object hnodup hs (hmembers.imp Shown.of_readValue),
        topMembers_object hs hmembers, ← forall_valuesOf_iff (by rwa [map_fst_members])]

end Records

theorem readWhole_iff {reader : Reader α} {x : α} :
    readWhole reader s = .ok x ↔ ∃ r, reader.Reads s x r ∧ skipBlanks r = [] := by
  constructor
  · intro h
    obtain ⟨p, hp, h⟩ := bind_eq_ok_iff.mp h
    split at h
    · rename_i hrest
      cases h
      exact ⟨p.rest, .of_ok hp, hrest⟩
    · cases h
  · rintro ⟨r, ⟨_, h⟩, hrest⟩
    rw [readWhole, h]
    simp only [bind, Except.bind, hrest]

end GraphCourier.Json
