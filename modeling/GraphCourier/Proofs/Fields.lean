import GraphCourier.Proofs.Reading

/-!
# Fields are read as values are

Where any value is read, the reader of a field finds the one that has this value,
if there is one, and reads up to the same place (`agrees_readField`). So do the
readers of lists, item by item: of a list of identifiers (`Agrees.items`), and of
a record that is written as the list of its fields (`readRow_iff`).
-/

namespace GraphCourier.Json

variable {α β : Type} {s t u v r r' : List Char} {c : Char} {first : Bool} {depth : Nat}

/-! ## Fields -/

/-- The JSON value of a field. -/
def FieldKind.json : (kind : FieldKind) → kind.Value → Json.Value
  | .flag, b => .bool b
  | .id, n => .number (.natural n)
  | .idList, ns => .list (ns.map fun n => .number (.natural n))

/-- Where any value is found, a reader finds `x` if that value is the one of `x`,
and reads up to the same place. -/
def Agrees (wide : Reading β) (narrow : Reader α) (json : α → β) : Prop :=
  ∀ ⦃s r : List Char⦄ ⦃y : β⦄, wide s y r →
    ∀ ⦃x : α⦄ ⦃r' : List Char⦄, narrow.Reads s x r' ↔ y = json x ∧ r' = r

theorem readFlag_iff {b : Bool} :
    Reader.Reads readFlag s b r ↔
      (∃ t, skipBlanks s = 't' :: t ∧ readWord ['r', 'u', 'e'] t = .ok r ∧ b = true)
        ∨ ∃ t, skipBlanks s = 'f' :: t ∧ readWord ['a', 'l', 's', 'e'] t = .ok r ∧ b = false := by
  constructor
  · intro h
    obtain ⟨p, hp, rfl, rfl⟩ := Reader.reads_iff.mp h
    unfold readFlag at hp
    split at hp
    · cases hp
    rename_i c t ht ha
    have hs := skipBlanks_of_ahead ha
    split at hp
    · rename_i hc
      exact .inl ⟨t, by rw [hs, hc], readWordAs_widen.mp hp⟩
    split at hp
    · rename_i hc
      exact .inr ⟨t, by rw [hs, hc], readWordAs_widen.mp hp⟩
    · cases hp
  · rintro (⟨t, hs, hword, rfl⟩ | ⟨t, hs, hword, rfl⟩)
    all_goals
      obtain ⟨hlt, ha⟩ := ahead_of_cons hs
      refine ⟨Nat.lt_of_le_of_lt (length_readWord_le hword) hlt, ?_⟩
      simp only [readFlag, ha]
      exact readWordAs_widen.mpr ⟨hword, rfl⟩

theorem readId_iff {n : UInt64} :
    Reader.Reads readId s n r ↔
      ∃ c t, skipBlanks s = c :: t ∧ (c = '-' ∨ c.isDigit = true)
        ∧ readNumber (c :: t) = .ok (.natural n, r) := by
  constructor
  · intro h
    obtain ⟨p, hp, rfl, rfl⟩ := Reader.reads_iff.mp h
    unfold readId at hp
    split at hp
    · cases hp
    rename_i c t ht ha
    split at hp
    · rename_i hc
      split at hp
      · rename_i hnumber
        cases hp
        exact ⟨c, t, skipBlanks_of_ahead ha, hc, hnumber⟩
      all_goals cases hp
    · cases hp
  · rintro ⟨c, t, hs, hc, hnumber⟩
    obtain ⟨hlt, ha⟩ := ahead_of_cons hs
    refine ⟨Nat.lt_of_lt_of_le (length_readNumber hnumber) hlt, ?_⟩
    simp only [readId, ha, if_pos hc]
    split <;> rename_i h <;> rw [hnumber] at h <;> cases h
    rfl

theorem readIdList_iff {ns : List UInt64} :
    Reader.Reads readIdList s ns r ↔
      ∃ t, skipBlanks s = '[' :: t ∧ Reader.Reads (readItems readId true) t ns r := by
  constructor
  · intro h
    obtain ⟨p, hp, rfl, rfl⟩ := Reader.reads_iff.mp h
    unfold readIdList at hp
    split at hp
    · cases hp
    rename_i c t ht ha
    split at hp
    · rename_i hc
      obtain ⟨q, hq, hp⟩ := bind_eq_ok_iff.mp hp
      cases hp
      exact ⟨t, by rw [skipBlanks_of_ahead ha, hc], .of_ok hq⟩
    · cases hp
  · rintro ⟨t, hs, hr, h⟩
    obtain ⟨hlt, ha⟩ := ahead_of_cons hs
    refine ⟨Nat.lt_trans hr hlt, ?_⟩
    simp only [readIdList, ha, if_pos, h]
    rfl

/-- The items of two lists agree one by one. -/
theorem Agrees.items {wide : Reading β} {narrow : Reader α} {json : α → β}
    (h : Agrees wide narrow json) {ys : List β} (hwide : ItemsRead wide first s ys r)
    {xs : List α} :
    Reader.Reads (readItems narrow first) s xs r' ↔ ys = xs.map json ∧ r' = r := by
  constructor
  · intro hnarrow
    induction itemsRead hnarrow generalizing ys with
    | close hturn =>
        cases hwide with
        | close hturn' =>
            cases hturn.symm.trans hturn'
            exact ⟨rfl, rfl⟩
        | item hturn' => cases hturn.symm.trans hturn'
    | item hturn hx hlater ih =>
        cases hwide with
        | close hturn' => cases hturn.symm.trans hturn'
        | item hturn' hy hlater' =>
            cases hturn.symm.trans hturn'
            obtain ⟨rfl, rfl⟩ := (h hy).mp hx
            obtain ⟨rfl, rfl⟩ := ih hlater' hlater.reads
            exact ⟨rfl, rfl⟩
  · rintro ⟨rfl, rfl⟩
    induction xs generalizing first s with
    | nil =>
        cases hwide with
        | close hturn => exact (ItemsRead.close hturn).reads
    | cons x xs ih =>
        cases hwide with
        | item hturn hy hlater =>
            exact (ItemsRead.item hturn ((h hy).mpr ⟨rfl, rfl⟩) (itemsRead (ih hlater))).reads

theorem agrees_readFlag (depth : Nat) :
    Agrees (Reader.Reads (readValue depth)) readFlag .bool := by
  intro s r y h b r'
  rw [readFlag_iff]
  cases valueRead h with
  | null hs => simp [hs]
  | isTrue hs hword => simp [hs, hword, eq_comm, and_comm]
  | isFalse hs hword => simp [hs, hword, eq_comm, and_comm]
  | @number c _ _ hs hc =>
      have htrue : c ≠ 't' := ne_of_isNumber hc (by decide)
      have hfalse : c ≠ 'f' := ne_of_isNumber hc (by decide)
      simp [hs, htrue, hfalse]
  | string hs => simp [hs]
  | list _ hs => simp [hs]
  | object _ hs => simp [hs]

theorem agrees_readId (depth : Nat) :
    Agrees (Reader.Reads (readValue depth)) readId fun n => .number (.natural n) := by
  intro s r y h n r'
  rw [readId_iff]
  cases valueRead h with
  | null hs => simp [hs]
  | isTrue hs => simp [hs]
  | isFalse hs => simp [hs]
  | number hs hc hnumber => simp [hs, hc, hnumber, eq_comm (a := r)]
  | string hs => simp [hs]
  | list _ hs => simp [hs]
  | object _ hs => simp [hs]

theorem agrees_readField (depth : Nat) (kind : FieldKind) :
    Agrees (Reader.Reads (readValue depth)) (readField kind) kind.json := by
  cases kind with
  | flag => exact agrees_readFlag depth
  | id => exact agrees_readId depth
  | idList =>
      intro s r y h ns r'
      show Reader.Reads readIdList s ns r' ↔ _
      rw [readIdList_iff]
      cases valueRead h with
      | null hs => simp [hs, FieldKind.json]
      | isTrue hs => simp [hs, FieldKind.json]
      | isFalse hs => simp [hs, FieldKind.json]
      | @number c _ _ hs hc =>
          have hsquare : c ≠ '[' := ne_of_isNumber hc (by decide)
          simp [hs, hsquare, FieldKind.json]
      | string hs => simp [hs, FieldKind.json]
      | list _ hs hitems => simp [hs, FieldKind.json, (agrees_readId _).items hitems]
      | object _ hs => simp [hs, FieldKind.json]

/-! ## Records written as lists -/

namespace Record

variable {f : Field} {fs : List Field}

def nil : Record [] := ()

theorem eq_nil (xs : Record []) : xs = nil := rfl

def head (xs : Record (f :: fs)) : f.kind.Value := xs.1

def tail (xs : Record (f :: fs)) : Record fs := xs.2

def cons (x : f.kind.Value) (xs : Record fs) : Record (f :: fs) := (x, xs)

theorem eq_cons_iff {xs : Record (f :: fs)} {y : f.kind.Value} {ys : Record fs} :
    xs = cons y ys ↔ xs.head = y ∧ xs.tail = ys := Prod.ext_iff

/-- The fields of a record, with their names. -/
def members : (fs : List Field) → Record fs → List (String × Json.Value)
  | [], _ => []
  | f :: fs, xs => (f.name, f.kind.json xs.head) :: members fs xs.tail

end Record

theorem readEndRow_iff {x : Unit} : Reader.Reads endRow s x r ↔ skipBlanks s = ']' :: r := by
  constructor
  · intro h
    obtain ⟨p, hp, -, rfl⟩ := Reader.reads_iff.mp h
    unfold endRow at hp
    split at hp
    · cases hp
    rename_i c t ht ha
    split at hp
    · rename_i hc
      cases hp
      rw [skipBlanks_of_ahead ha, hc]
    split at hp
    · split at hp <;> cases hp
    · cases hp
  · intro hs
    obtain ⟨hlt, ha⟩ := ahead_of_cons hs
    refine ⟨hlt, ?_⟩
    simp only [endRow, ha, if_pos]

theorem readRow_nil (shape : Shape) (filled : Nat) :
    readRow shape filled [] = Reader.map (fun _ => Record.nil) endRow := rfl

theorem readRow_cons_iff {shape : Shape} {filled : Nat} {f : Field} {fs : List Field}
    {xs : Record (f :: fs)} :
    Reader.Reads (readRow shape filled (f :: fs)) s xs r ↔
      ∃ t u h, listTurn (filled == 0) s = .ok (.item t h)
        ∧ Reader.Reads (readField f.kind) t xs.head u
        ∧ Reader.Reads (readRow shape (filled + 1) fs) u xs.tail r := by
  constructor
  · intro h
    obtain ⟨p, hp, rfl, rfl⟩ := Reader.reads_iff.mp h
    rw [readRow] at hp
    obtain ⟨turn, hturn, hp⟩ := bind_eq_ok_iff.mp hp
    cases turn with
    | close => cases hp
    | item t ht =>
        obtain ⟨x, hx, hp⟩ := bind_eq_ok_iff.mp hp
        obtain ⟨ys, hys, hp⟩ := bind_eq_ok_iff.mp hp
        cases hp
        exact ⟨t, x.rest, ht, hturn, .of_ok hx, .of_ok hys⟩
  · rintro ⟨t, u, h, hturn, ⟨hu, hx⟩, hr, hxs⟩
    refine ⟨by omega, ?_⟩
    rw [readRow, hturn]
    simp only [bind, Except.bind, hx, hxs]
    rfl

/-- A record written as a list is read where the list has its fields in order. -/
theorem readRow_iff {shape : Shape} {filled : Nat} {fs : List Field} {ys : List Value}
    (hfirst : (filled == 0) = first) (h : ItemsRead (Reader.Reads (readValue depth)) first s ys r)
    {xs : Record fs} :
    Reader.Reads (readRow shape filled fs) s xs r' ↔
      ys = (Record.members fs xs).map Prod.snd ∧ r' = r := by
  induction fs generalizing first s filled ys with
  | nil =>
      rw [readRow_nil, Reader.reads_map_iff]
      simp only [readEndRow_iff]
      cases h with
      | close hturn => simp [Record.members, Record.eq_nil, listTurn_close hturn, eq_comm]
      | item hturn =>
          -- the list goes on where the record has to end
          have hclose : ¬skipBlanks s = ']' :: r' := by
            intro hs
            obtain ⟨_, hturn'⟩ := listTurn_of_close hs
            cases hturn.symm.trans hturn'
          simp [Record.members, hclose]
  | cons f fs ih =>
      rw [readRow_cons_iff, hfirst]
      cases h with
      | close hturn => simp [Record.members, hturn]
      | item hturn hy hlater =>
          have hnext : (filled + 1 == 0) = false := rfl
          have hxs : Reader.Reads (readRow shape (filled + 1) fs) _ xs.tail r' ↔ _ :=
            ih hnext hlater
          simp only [Record.members, List.map_cons, List.cons.injEq]
          constructor
          · rintro ⟨t, u, _, hturn', hx, hread⟩
            cases hturn.symm.trans hturn'
            obtain ⟨rfl, rfl⟩ := (agrees_readField depth f.kind hy).mp hx
            obtain ⟨rfl, rfl⟩ := hxs.mp hread
            exact ⟨⟨rfl, rfl⟩, rfl⟩
          · rintro ⟨⟨rfl, hys⟩, hr⟩
            exact ⟨_, _, _, hturn, (agrees_readField depth f.kind hy).mpr ⟨rfl, rfl⟩,
              hxs.mpr ⟨hys, hr⟩⟩

end GraphCourier.Json
