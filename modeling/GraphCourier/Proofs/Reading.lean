import Mathlib.Data.List.DropRight
import GraphCourier.Json.Record
import GraphCourier.Proofs.JsonText

/-!
# What readers found

A reader that succeeds has found something, and this is what. The punctuation
of lists and objects is told by what stands behind the blanks (`listTurn_item`,
`memberTurn_eq_ok`); a list or an object was read item by item (`ItemsRead`,
`MembersRead`); and a value has one of seven forms (`ValueRead`).
-/

namespace GraphCourier.Json

variable {α β : Type} {s t u r r' : List Char} {c : Char} {first : Bool}

theorem Reader.reads_iff {reader : Reader α} {x : α} :
    reader.Reads s x r ↔ ∃ p, reader s = .ok p ∧ p.value = x ∧ p.rest = r := by
  constructor
  · rintro ⟨h, hread⟩
    exact ⟨_, hread, rfl, rfl⟩
  · rintro ⟨⟨_, _, h⟩, hread, rfl, rfl⟩
    exact ⟨h, hread⟩

theorem Reader.Reads.of_ok {reader : Reader α} {p : Parsed α s} (h : reader s = .ok p) :
    reader.Reads s p.value p.rest :=
  ⟨p.shorter, h⟩

theorem Reader.Reads.unique {reader : Reader α} {x x' : α} (h : reader.Reads s x r)
    (h' : reader.Reads s x' r') : x = x' ∧ r = r' := by
  obtain ⟨_, h⟩ := h
  obtain ⟨_, h'⟩ := h'
  cases h.symm.trans h'
  exact ⟨rfl, rfl⟩

/-- A reader, and then a function of what it made. -/
def Reader.map (f : α → β) (reader : Reader α) : Reader β := fun s => do
  let p ← reader s
  .ok (p.map f)

theorem Reader.reads_map_iff {reader : Reader α} {f : α → β} {z : β} :
    (reader.map f).Reads s z r ↔ ∃ x, reader.Reads s x r ∧ z = f x := by
  constructor
  · intro h
    obtain ⟨p, hp, rfl, rfl⟩ := Reader.reads_iff.mp h
    obtain ⟨q, hq, hp⟩ := bind_eq_ok_iff.mp hp
    cases hp
    exact ⟨_, .of_ok hq, rfl⟩
  · rintro ⟨x, ⟨hlt, h⟩, rfl⟩
    refine ⟨hlt, ?_⟩
    rw [map, h]
    rfl

/-! ## Blanks and words -/

theorem ahead_of_nil (h : skipBlanks s = []) : ahead s = .nothing := by
  unfold ahead
  split
  · rfl
  · rename_i hs
    rw [h] at hs
    cases hs

theorem skipBlanks_of_ahead {ht : t.length < s.length} (h : ahead s = .char c t ht) :
    skipBlanks s = c :: t := by
  cases hs : skipBlanks s with
  | nil =>
      rw [ahead_of_nil hs] at h
      cases h
  | cons c t =>
      obtain ⟨_, ha⟩ := ahead_of_cons hs
      rw [h] at ha
      cases ha
      rfl

theorem skipBlanks_idem (s : List Char) : skipBlanks (skipBlanks s) = skipBlanks s :=
  List.dropWhile_idempotent _ _

theorem readWordAs_widen {x : α} {word : List Char} {ht : (c :: t).length ≤ s.length}
    {p : Parsed α s} :
    (readWordAs x word c t >>= fun q => .ok (q.widen ht)) = .ok p ↔
      readWord word t = .ok p.rest ∧ p.value = x := by
  rw [bind_eq_ok_iff]
  constructor
  · rintro ⟨q, hq, hp⟩
    unfold readWordAs at hq
    split at hq
    · rename_i hword
      cases hq
      cases hp
      exact ⟨hword, rfl⟩
    · cases hq
  · obtain ⟨_, rest, hrest⟩ := p
    rintro ⟨hword, rfl⟩
    refine ⟨⟨_, rest, Nat.lt_succ_of_le (length_readWord_le hword)⟩, ?_, rfl⟩
    unfold readWordAs
    split
    · rename_i h
      rw [hword] at h
      cases h
      rfl
    · rename_i h
      rw [hword] at h
      cases h

/-- Nothing else starts like a number. -/
theorem ne_of_isNumber {d : Char} (hc : c = '-' ∨ c.isDigit = true)
    (hd : d ≠ '-' ∧ d.isDigit = false) : c ≠ d := by
  rintro rfl
  rcases hc with hc | hc
  · exact hd.1 hc
  · rw [hd.2] at hc
    cases hc

/-! ## Punctuation -/

/-- Where the item starts that is due: at once, or behind a comma. -/
inductive Comma : (first : Bool) → (s v : List Char) → Prop where
  | first {s : List Char} : Comma true s s
  | next {s v : List Char} (h : skipBlanks s = ',' :: v) : Comma false s v

theorem listTurn_close {h : r.length < s.length} (hturn : listTurn first s = .ok (.close r h)) :
    skipBlanks s = ']' :: r := by
  unfold listTurn at hturn
  split at hturn
  · cases hturn
  · rename_i ha
    split at hturn
    · rename_i hc
      cases hturn
      rw [skipBlanks_of_ahead ha, hc]
    · repeat' split at hturn
      all_goals cases hturn

theorem listTurn_of_close (hs : skipBlanks s = ']' :: r) :
    ∃ h, listTurn first s = .ok (.close r h) := by
  obtain ⟨hlt, ha⟩ := ahead_of_cons hs
  refine ⟨hlt, ?_⟩
  simp only [listTurn, ha, if_pos]

theorem listTurn_item {h : u.length ≤ s.length} (hturn : listTurn first s = .ok (.item u h)) :
    ∃ v c t, Comma first s v ∧ skipBlanks v = u ∧ u = c :: t ∧ c ≠ ']' := by
  unfold listTurn at hturn
  split at hturn
  · cases hturn
  · rename_i c t ht ha
    have hs := skipBlanks_of_ahead ha
    split at hturn
    · cases hturn
    · rename_i hc
      split at hturn
      · rename_i hfirst
        cases hturn
        exact ⟨s, c, t, hfirst ▸ .first, hs, rfl, hc⟩
      · rename_i hfirst
        split at hturn
        · rename_i hcomma
          split at hturn
          · cases hturn
          · rename_i d v hv ha'
            split at hturn
            · cases hturn
            · rename_i hd
              cases hturn
              rw [hcomma] at hs
              rw [Bool.not_eq_true] at hfirst
              exact ⟨t, d, v, hfirst ▸ .next hs, skipBlanks_of_ahead ha', rfl, hd⟩
        · cases hturn

theorem readKey_eq_ok {short brace : Cause} {turn : MemberTurn s}
    (h : readKey short brace s = .ok turn) :
    ∃ t name r h, s = '"' :: t ∧ Reader.Reads readString t name r ∧ turn = .key name r h := by
  unfold readKey at h
  split at h
  · cases h
  · split at h
    · rename_i c t hc
      obtain ⟨p, hp, hturn⟩ := bind_eq_ok_iff.mp h
      cases hturn
      exact ⟨t, _, _, _, by rw [hc], .of_ok hp, rfl⟩
    · split at h <;> cases h

theorem memberTurn_eq_ok {turn : MemberTurn s} (h : memberTurn first s = .ok turn) :
    (∃ r h, turn = .close r h ∧ skipBlanks s = '}' :: r)
      ∨ ∃ name r h v t, turn = .key name r h ∧ Comma first s v ∧ skipBlanks v = '"' :: t
          ∧ Reader.Reads readString t name r := by
  unfold memberTurn at h
  split at h
  · cases h
  · rename_i c t ht ha
    have hs := skipBlanks_of_ahead ha
    split at h
    · rename_i hc
      cases h
      exact .inl ⟨_, _, rfl, by rw [hs, hc]⟩
    · split at h
      · rename_i hfirst
        obtain ⟨turn, hkey, hturn⟩ := bind_eq_ok_iff.mp h
        obtain ⟨t', name, r, hr, hquote, hname, rfl⟩ := readKey_eq_ok hkey
        cases hturn
        exact .inr ⟨_, _, _, s, t', rfl, hfirst ▸ .first, hs.trans hquote, hname⟩
      · rename_i hfirst
        split at h
        · rename_i hcomma
          obtain ⟨turn, hkey, hturn⟩ := bind_eq_ok_iff.mp h
          obtain ⟨t', name, r, hr, hquote, hname, rfl⟩ := readKey_eq_ok hkey
          cases hturn
          rw [hcomma] at hs
          rw [Bool.not_eq_true] at hfirst
          exact .inr ⟨_, _, _, t, t', rfl, hfirst ▸ .next hs, hquote, hname⟩
        · cases h

/-! ## Lists and objects -/

/-- What may be found at the front of a text, and what follows it then. -/
abbrev Reading (α : Type) := List Char → α → List Char → Prop

variable {item : Reader α}

/-- The items that a list is read as, in steps: turns taken and items read. -/
inductive ItemsRead (item : Reading α) : Bool → Reading (List α) where
  | close {first : Bool} {s r : List Char} {h : r.length < s.length}
    (hturn : listTurn first s = .ok (.close r h)) : ItemsRead item first s [] r
  | item {first : Bool} {s t u r : List Char} {h : t.length ≤ s.length} {x : α} {xs : List α}
    (hturn : listTurn first s = .ok (.item t h)) (hitem : item t x u)
    (hlater : ItemsRead item false u xs r) : ItemsRead item first s (x :: xs) r

theorem itemsRead {first : Bool} {s r : List Char} {xs : List α}
    (h : Reader.Reads (readItems item first) s xs r) : ItemsRead item.Reads first s xs r := by
  obtain ⟨hlt, h⟩ := h
  rw [readItems] at h
  obtain ⟨turn, hturn, h⟩ := bind_eq_ok_iff.mp h
  cases turn with
  | close r' h' =>
      cases h
      exact .close hturn
  | item t h' =>
      obtain ⟨x, hx, h⟩ := bind_eq_ok_iff.mp h
      obtain ⟨ys, hys, h⟩ := bind_eq_ok_iff.mp h
      have hlt := x.rest_lt h'
      have hlater := itemsRead (.of_ok hys)
      cases h
      exact .item hturn (.of_ok hx) hlater
termination_by s.length

theorem ItemsRead.reads {xs : List α} (h : ItemsRead item.Reads first s xs r) :
    Reader.Reads (readItems item first) s xs r := by
  induction h with
  | close hturn =>
      refine ⟨‹_›, ?_⟩
      rw [readItems, hturn]
      rfl
  | item hturn hitem hlater ih =>
      obtain ⟨hx, hitem⟩ := hitem
      obtain ⟨hxs, hlater⟩ := ih
      refine ⟨by omega, ?_⟩
      rw [readItems, hturn]
      simp only [bind, Except.bind, hitem, hlater]
      rfl

/-- The members that an object is read as, in steps. -/
inductive MembersRead (item : Reading α) : Bool → Reading (List (String × α)) where
  | close {first : Bool} {s r : List Char} {h : r.length < s.length}
    (hturn : memberTurn first s = .ok (.close r h)) : MembersRead item first s [] r
  | member {first : Bool} {s t u v r : List Char} {h : t.length < s.length} {name : String} {x : α}
    {ms : List (String × α)} (hturn : memberTurn first s = .ok (.key name t h))
    (hcolon : Reader.Reads readColon t () u) (hitem : item u x v)
    (hlater : MembersRead item false v ms r) : MembersRead item first s ((name, x) :: ms) r

theorem membersRead {first : Bool} {s r : List Char} {ms : List (String × α)}
    (h : Reader.Reads (readMembers item first) s ms r) : MembersRead item.Reads first s ms r := by
  obtain ⟨hlt, h⟩ := h
  rw [readMembers] at h
  obtain ⟨turn, hturn, h⟩ := bind_eq_ok_iff.mp h
  cases turn with
  | close r' h' =>
      cases h
      exact .close hturn
  | key name t h' =>
      obtain ⟨colon, hcolon, h⟩ := bind_eq_ok_iff.mp h
      obtain ⟨x, hx, h⟩ := bind_eq_ok_iff.mp h
      obtain ⟨ms, hms, h⟩ := bind_eq_ok_iff.mp h
      have hlt := Nat.lt_trans (colon.rest_lt_rest x) h'
      have hlater := membersRead (.of_ok hms)
      cases h
      exact .member hturn (.of_ok hcolon) (.of_ok hx) hlater
termination_by s.length

theorem MembersRead.reads {ms : List (String × α)} (h : MembersRead item.Reads first s ms r) :
    Reader.Reads (readMembers item first) s ms r := by
  induction h with
  | close hturn =>
      refine ⟨‹_›, ?_⟩
      rw [readMembers, hturn]
      rfl
  | member hturn hcolon hitem hlater ih =>
      obtain ⟨hu, hcolon⟩ := hcolon
      obtain ⟨hx, hitem⟩ := hitem
      obtain ⟨hms, hlater⟩ := ih
      refine ⟨by omega, ?_⟩
      rw [readMembers, hturn]
      simp only [bind, Except.bind, hcolon, hitem, hlater]
      rfl

theorem MembersRead.imp {item item' : Reading α} (himp : ∀ {s x r}, item s x r → item' s x r)
    {first : Bool} {s r : List Char} {ms : List (String × α)}
    (h : MembersRead item first s ms r) : MembersRead item' first s ms r := by
  induction h with
  | close hturn => exact .close hturn
  | member hturn hcolon hitem _ ih => exact .member hturn hcolon (himp hitem) ih

/-! ## Values -/

/-- The forms of a value, and what was read behind its first character. -/
inductive ValueRead (depth : Nat) (s r : List Char) : Value → Prop where
  | null {t : List Char} (hs : skipBlanks s = 'n' :: t)
    (hword : readWord ['u', 'l', 'l'] t = .ok r) : ValueRead depth s r .null
  | isTrue {t : List Char} (hs : skipBlanks s = 't' :: t)
    (hword : readWord ['r', 'u', 'e'] t = .ok r) : ValueRead depth s r (.bool true)
  | isFalse {t : List Char} (hs : skipBlanks s = 'f' :: t)
    (hword : readWord ['a', 'l', 's', 'e'] t = .ok r) : ValueRead depth s r (.bool false)
  | number {c : Char} {t : List Char} {n : Number} (hs : skipBlanks s = c :: t)
    (hc : c = '-' ∨ c.isDigit = true) (hnumber : readNumber (c :: t) = .ok (n, r)) :
    ValueRead depth s r (.number n)
  | string {t : List Char} {text : String} (hs : skipBlanks s = '"' :: t)
    (hstring : Reader.Reads readString t text r) : ValueRead depth s r (.string text)
  | list {inner : Nat} {t : List Char} {xs : List Value} (hdepth : depth = inner + 1)
    (hs : skipBlanks s = '[' :: t) (hitems : ItemsRead (Reader.Reads (readValue inner)) true t xs r) :
    ValueRead depth s r (.list xs)
  | object {inner : Nat} {t : List Char} {ms : List (String × Value)} (hdepth : depth = inner + 1)
    (hs : skipBlanks s = '\x7b' :: t)
    (hmembers : MembersRead (Reader.Reads (readValue inner)) true t ms r) :
    ValueRead depth s r (.object (Members.sorted ms))

theorem readNumberValue_eq_ok {p : Parsed Value s} (h : readNumberValue s = .ok p) :
    ∃ n, readNumber s = .ok (n, p.rest) ∧ p.value = .number n := by
  unfold readNumberValue at h
  split at h
  · rename_i n _ hn
    cases h
    exact ⟨n, hn, rfl⟩
  · cases h

theorem valueRead {depth : Nat} {x : Value} (h : Reader.Reads (readValue depth) s x r) :
    ValueRead depth s r x := by
  obtain ⟨p, hp, rfl, rfl⟩ := Reader.reads_iff.mp h
  unfold readValue at hp
  split at hp
  · cases hp
  rename_i c t ht ha
  have hs := skipBlanks_of_ahead ha
  split at hp
  · rename_i hc
    obtain ⟨hword, hx⟩ := readWordAs_widen.mp hp
    rw [hc] at hs
    rw [hx]
    exact .null hs hword
  split at hp
  · rename_i hc
    obtain ⟨hword, hx⟩ := readWordAs_widen.mp hp
    rw [hc] at hs
    rw [hx]
    exact .isTrue hs hword
  split at hp
  · rename_i hc
    obtain ⟨hword, hx⟩ := readWordAs_widen.mp hp
    rw [hc] at hs
    rw [hx]
    exact .isFalse hs hword
  split at hp
  · rename_i hc
    obtain ⟨q, hq, hp⟩ := bind_eq_ok_iff.mp hp
    obtain ⟨n, hn, hx⟩ := readNumberValue_eq_ok hq
    cases hp
    show ValueRead depth s q.rest q.value
    rw [hx]
    exact .number hs hc hn
  split at hp
  · rename_i hc
    obtain ⟨q, hq, hp⟩ := bind_eq_ok_iff.mp hp
    cases hp
    rw [hc] at hs
    exact .string hs (.of_ok hq)
  split at hp
  · rename_i hc
    split at hp
    · cases hp
    · obtain ⟨q, hq, hp⟩ := bind_eq_ok_iff.mp hp
      cases hp
      rw [hc] at hs
      exact .list rfl hs (itemsRead (.of_ok hq))
  split at hp
  · rename_i hc
    split at hp
    · cases hp
    · obtain ⟨q, hq, hp⟩ := bind_eq_ok_iff.mp hp
      cases hp
      rw [hc] at hs
      exact .object rfl hs (membersRead (.of_ok hq))
  · cases hp

theorem readNumberValue_of_ok {n : Number} (h : readNumber s = .ok (n, r)) :
    ∃ hr, readNumberValue s = .ok ⟨.number n, r, hr⟩ := by
  refine ⟨length_readNumber h, ?_⟩
  unfold readNumberValue
  split
  · rename_i h'
    cases h.symm.trans h'
    rfl
  · rename_i h'
    cases h.symm.trans h'

/-- A value of one of the forms is read. -/
theorem ValueRead.reads {depth : Nat} {x : Value} (h : ValueRead depth s r x) :
    Reader.Reads (readValue depth) s x r := by
  -- what the reader does is known from the first character on
  have hword : ∀ {c t word} {y : Value}, skipBlanks s = c :: t → readWord word t = .ok r →
      ∃ (hlt : t.length < s.length) (hr : r.length < s.length), ahead s = .char c t hlt
        ∧ (do .ok ((← readWordAs y word c t).widen hlt)) = .ok (⟨y, r, hr⟩ : Parsed Value s) := by
    intro c t word y hs hw
    obtain ⟨hlt, ha⟩ := ahead_of_cons hs
    exact ⟨hlt, Nat.lt_of_le_of_lt (length_readWord_le hw) hlt, ha, readWordAs_widen.mpr ⟨hw, rfl⟩⟩
  cases h with
  | null hs hw =>
      obtain ⟨_, hr, ha, hread⟩ := hword hs hw
      refine ⟨hr, ?_⟩
      simp only [readValue, ha, if_pos]
      exact hread
  | isTrue hs hw =>
      obtain ⟨_, hr, ha, hread⟩ := hword hs hw
      refine ⟨hr, ?_⟩
      simp only [readValue, ha]
      exact hread
  | isFalse hs hw =>
      obtain ⟨_, hr, ha, hread⟩ := hword hs hw
      refine ⟨hr, ?_⟩
      simp only [readValue, ha]
      exact hread
  | @number c t n hs hc hn =>
      obtain ⟨hlt, ha⟩ := ahead_of_cons hs
      obtain ⟨hr, hread⟩ := readNumberValue_of_ok hn
      refine ⟨Nat.lt_of_lt_of_le hr hlt, ?_⟩
      have hnot : c ≠ 'n' ∧ c ≠ 't' ∧ c ≠ 'f' :=
        ⟨ne_of_isNumber hc (by decide), ne_of_isNumber hc (by decide),
          ne_of_isNumber hc (by decide)⟩
      simp only [readValue, ha, if_neg hnot.1, if_neg hnot.2.1, if_neg hnot.2.2, if_pos hc, hread]
      rfl
  | string hs hstring =>
      obtain ⟨hlt, ha⟩ := ahead_of_cons hs
      obtain ⟨hr, hstring⟩ := hstring
      refine ⟨Nat.lt_trans hr hlt, ?_⟩
      simp only [readValue, ha, hstring]
      rfl
  | list hdepth hs hitems =>
      obtain ⟨hlt, ha⟩ := ahead_of_cons hs
      obtain ⟨hr, hitems⟩ := hitems.reads
      subst hdepth
      refine ⟨Nat.lt_trans hr hlt, ?_⟩
      simp only [readValue, ha, hitems]
      rfl
  | object hdepth hs hmembers =>
      obtain ⟨hlt, ha⟩ := ahead_of_cons hs
      obtain ⟨hr, hmembers⟩ := hmembers.reads
      subst hdepth
      refine ⟨Nat.lt_trans hr hlt, ?_⟩
      simp only [readValue, ha, hmembers]
      rfl
end GraphCourier.Json
