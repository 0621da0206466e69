import GraphCourier.Proofs.Grammar

/-!
# Which value a text is of

What a JSON text may look like for a value, told without a reader: names and strings
with escapes (`NameText`), numerals for numbers, and lists and objects nested as deep as
brackets may be (`TextOf`). Such a text is read as that value, whatever closes it
(`TextOf.reads`): by induction on how deep the brackets may be nested, and item by item
between two of them.
-/

namespace GraphCourier.Json

variable {s t u v w r : List Char} {c : Char} {first : Bool}

/-! ## How values are written -/

/-- What may stand between the quotes of a key that has the characters `cs`. -/
inductive NameText : List Char → List Char → Prop where
  | nil : NameText [] []
  | plain {c : Char} {t cs : List Char} (hquote : c ≠ '"') (hslash : c ≠ '\\')
    (hcontrol : ¬c.toNat < 0x20) (h : NameText t cs) : NameText (c :: t) (c :: cs)
  | short {c x : Char} {t cs : List Char} (hc : shortEscape? c = some x) (h : NameText t cs) :
    NameText ('\\' :: c :: t) (x :: cs)
  | unit {a b c d : Char} {n : Nat} {t cs : List Char} (hn : hexUnit? a b c d = some n)
    (hwhole : isLeading n = false ∧ isTrailing n = false) (h : NameText t cs) :
    NameText ('\\' :: 'u' :: a :: b :: c :: d :: t) (Char.ofNat n :: cs)
  | pair {a b c d a' b' c' d' : Char} {m n : Nat} {t cs : List Char}
    (hm : hexUnit? a b c d = some m) (hleading : isLeading m = true)
    (hn : hexUnit? a' b' c' d' = some n) (htrailing : isTrailing n = true) (h : NameText t cs) :
    NameText ('\\' :: 'u' :: a :: b :: c :: d :: '\\' :: 'u' :: a' :: b' :: c' :: d' :: t)
      (joinPair m n :: cs)

/-- The text of a member with a name and the text of its value. -/
def NamedText (m : String × List Char) (t : List Char) : Prop :=
  ∃ key, NameText key m.1.toList ∧ MemberText key m.2 t

/-- How a value may be written without brackets. A numeral is written for the number
that it is kept as, if it is not out of range. -/
inductive ScalarText : Value → List Char → Prop where
  | null : ScalarText .null ['n', 'u', 'l', 'l']
  | isTrue : ScalarText (.bool true) ['t', 'r', 'u', 'e']
  | isFalse : ScalarText (.bool false) ['f', 'a', 'l', 's', 'e']
  | number {n : Numeral} {x : Number} {t : List Char} (h : n.Text t) (hx : n.toNumber = .ok x) :
    ScalarText (.number x) t
  | string {x : String} {t : List Char} (h : NameText t x.toList) :
    ScalarText (.string x) ('"' :: (t ++ ['"']))

/-- How a member may be written: its name, and one of the texts of its value. -/
def WrittenMember {α : Type} (P : α → List Char → Prop) (m : String × α) (t : List Char) : Prop :=
  ∃ v, P m.2 v ∧ NamedText (m.1, v) t

section Brackets

variable (Inner : Value → List Char → Prop)

/-- How lists and objects may be written. -/
inductive BracketText : Value → List Char → Prop where
  | list {xs : List Value} {ts : List (List Char)} {u : List Char} (h : Enclosed ts u)
    (hitems : List.Forall₂ Inner xs ts) : BracketText (.list xs) ('[' :: (u ++ [']']))
  | object {ms : List (String × Value)} {ts : List (List Char)} {u : List Char}
    (h : Enclosed ts u) (hmembers : List.Forall₂ (WrittenMember Inner) ms ts) :
    BracketText (.object (Members.sorted ms)) ('\x7b' :: (u ++ ['\x7d']))

end Brackets

/-- How a value may be written in which brackets are nested so deep. -/
def TextOf : Nat → Value → List Char → Prop
  | 0, x, t => ScalarText x t
  | depth + 1, x, t => ScalarText x t ∨ BracketText (TextOf depth) x t

/-! ## Names -/

theorem readEscape_u {x : Char} (h : Reader.Reads readUnicode t x r) :
    Reader.Reads readEscape ('u' :: t) x r := by
  obtain ⟨hr, h⟩ := h
  refine ⟨Nat.lt_succ_of_lt hr, ?_⟩
  simp only [readEscape, show shortEscape? 'u' = none from rfl, if_pos, h]
  rfl

theorem readUnicode_unit {n : Nat} (h : Reader.Reads readHex t n r)
    (hwhole : isLeading n = false ∧ isTrailing n = false) :
    Reader.Reads readUnicode t (Char.ofNat n) r := by
  obtain ⟨hr, h⟩ := h
  refine ⟨hr, ?_⟩
  simp only [readUnicode, h, bind, Except.bind, hwhole.1, hwhole.2]
  rfl

theorem readUnicode_pair {m n : Nat} (hm : Reader.Reads readHex t m ('\\' :: 'u' :: u))
    (hleading : isLeading m = true) (hn : Reader.Reads readHex u n r)
    (htrailing : isTrailing n = true) : Reader.Reads readUnicode t (joinPair m n) r := by
  obtain ⟨hu, hm⟩ := hm
  obtain ⟨hr, hn⟩ := hn
  have hnot : isTrailing m = false := by
    simp only [isLeading, isTrailing, decide_eq_true_eq, decide_eq_false_iff_not] at *
    omega
  have htrail : readTrailing ('\\' :: 'u' :: u) = .ok ⟨n, r, by simp; omega⟩ := by
    simp only [readTrailing, hn, bind, Except.bind, htrailing, if_true]
    rfl
  refine ⟨by simp at hu; omega, ?_⟩
  simp only [readUnicode, hm, bind, Except.bind, hnot, hleading, htrail, Bool.false_eq_true,
    if_false, if_true, Parsed.map, Parsed.andThen, Parsed.after, Parsed.widen]

theorem readChars_escape {x : Char} {cs : List Char} (hx : Reader.Reads readEscape t x u)
    (hlater : Reader.Reads readChars u cs r) : Reader.Reads readChars ('\\' :: t) (x :: cs) r := by
  obtain ⟨hu, hx⟩ := hx
  obtain ⟨hr, hlater⟩ := hlater
  refine ⟨by simp; omega, ?_⟩
  rw [readChars, if_neg (by decide), if_pos rfl, hx]
  simp only [bind, Except.bind, hlater]
  rfl

theorem readChars_plain {cs : List Char} (hquote : c ≠ '"') (hslash : c ≠ '\\')
    (hcontrol : ¬c.toNat < 0x20) (hlater : Reader.Reads readChars t cs r) :
    Reader.Reads readChars (c :: t) (c :: cs) r := by
  obtain ⟨hr, hlater⟩ := hlater
  refine ⟨Nat.lt_succ_of_lt hr, ?_⟩
  rw [readChars, if_neg hquote, if_neg hslash, if_neg hcontrol, hlater]
  rfl

/-- A name without quotes, back slashes and control characters may stand as it is. -/
theorem NameText.refl {cs : List Char}
    (h : cs.all (fun c => c ≠ '"' ∧ c ≠ '\\' ∧ ¬c.toNat < 0x20) = true) : NameText cs cs := by
  induction cs with
  | nil => exact .nil
  | cons c cs ih =>
      obtain ⟨hc, hlater⟩ := Bool.and_eq_true_iff.mp h
      obtain ⟨hquote, hslash, hcontrol⟩ := decide_eq_true_iff.mp hc
      exact .plain hquote hslash hcontrol (ih hlater)

theorem NameText.readChars {cs : List Char} (h : NameText t cs) (r : List Char) :
    Reader.Reads readChars (t ++ '"' :: r) cs r := by
  induction h with
  | nil => exact readChars_quote r
  | plain hquote hslash hcontrol _ ih => exact readChars_plain hquote hslash hcontrol ih
  | short hc _ ih => exact readChars_escape (readEscape_short hc _) ih
  | unit hn hwhole _ ih =>
      exact readChars_escape (readEscape_u (readUnicode_unit (readHex_cons hn _) hwhole)) ih
  | pair hm hleading hn htrailing _ ih =>
      refine readChars_escape (readEscape_u ?_) ih
      exact readUnicode_pair (readHex_cons hm _) hleading (readHex_cons hn _) htrailing

theorem NameText.readString {name : String} (h : NameText t name.toList) (r : List Char) :
    Reader.Reads readString (t ++ '"' :: r) name r := by
  obtain ⟨hr, h⟩ := h.readChars r
  refine ⟨hr, ?_⟩
  rw [Json.readString, h]
  simp only [bind, Except.bind, Parsed.map, String.ofList_toList]

theorem NameText.stringText {cs : List Char} (h : NameText t cs) : StringText t := by
  induction h with
  | nil => exact .nil
  | plain hquote hslash hcontrol _ ih => exact .plain hquote hslash hcontrol ih
  | short hc _ ih => exact .short hc ih
  | unit hn _ _ ih => exact .unit hn ih
  | pair hm _ hn _ _ ih => exact .unit hm (.unit hn ih)

/-! ## Members -/

theorem NamedText.solid {m : String × List Char} (h : NamedText m t) : Solid t :=
  let ⟨_, _, hmember⟩ := h
  hmember.solid

/-- Names are strings, so members with names are members. -/
theorem exists_memberTexts {ts : List (List Char)} (h : List.Forall₂ NamedText ms ts)
    (hvalues : ∀ m ∈ ms, ValueText m.2) :
    ∃ members : List (List Char × List Char),
      List.Forall₂ (fun m t => MemberText m.1 m.2 t) members ts
        ∧ (∀ m ∈ members, StringText m.1) ∧ ∀ m ∈ members, ValueText m.2 := by
  induction h with
  | nil => exact ⟨[], .nil, nofun, nofun⟩
  | @cons m t ms ts hm _ ih =>
      obtain ⟨key, hkey, hmember⟩ := hm
      obtain ⟨hvalue, hvalues⟩ := List.forall_mem_cons.mp hvalues
      obtain ⟨members, hmembers, hkeys, hvalues⟩ := ih hvalues
      exact ⟨(key, m.2) :: members, .cons hmember hmembers,
        List.forall_mem_cons.mpr ⟨hkey.stringText, hkeys⟩,
        List.forall_mem_cons.mpr ⟨hvalue, hvalues⟩⟩

/-- The members of an object are read one by one, each value from what is written
for it. -/
theorem membersRead_namedTexts {α : Type} {item : Reading α} {P : α → List Char → Prop}
    {xs : List (String × α)} {ts : List (List Char)} (h : Steps '\x7d' r first ts s)
    (hmembers : List.Forall₂ (WrittenMember P) xs ts) (hsolid : ∀ {x t}, P x t → Solid t)
    (hitem : ∀ {x s t r}, P x t → skipBlanks s = t ++ r → Closing r → item s x r) :
    MembersRead item first s xs r := by
  induction h generalizing xs with
  | close hs =>
      cases hmembers
      obtain ⟨_, hturn⟩ := memberTurn_of_close hs
      exact .close hturn
  | item hcomma hv hr _ ih =>
      cases hmembers with
      | cons hmember hmembers =>
          obtain ⟨value, hvalue, key, hkey, w, w', hw, hw', rfl⟩ := hmember
          simp only [List.cons_append, List.append_assoc] at hv
          obtain ⟨_, hturn⟩ := memberTurn_of_key hcomma hv (hkey.readString _)
          refine .member hturn (readColon_blanks hw _) ?_ (ih hmembers)
          exact hitem hvalue ((hsolid hvalue).skipBlanks hw' _) hr

/-! ## Values -/

section Values

variable {x : Value} {depth : Nat}

theorem ScalarText.valueText (h : ScalarText x t) : ValueText t := by
  cases h with
  | null => exact .null
  | isTrue => exact .isTrue
  | isFalse => exact .isFalse
  | number h => exact .number h
  | string h => exact .string h.stringText

theorem exists_namedTexts {Inner : Value → List Char → Prop}
    (hInner : ∀ x t, Inner x t → ValueText t) {ms : List (String × Value)} {ts : List (List Char)}
    (h : List.Forall₂ (WrittenMember Inner) ms ts) :
    ∃ named, List.Forall₂ NamedText named ts ∧ ∀ m ∈ named, ValueText m.2 := by
  induction h with
  | nil => exact ⟨[], .nil, nofun⟩
  | @cons m t ms ts hm _ ih =>
      obtain ⟨v, hv, hnamed⟩ := hm
      obtain ⟨named, hall, hvalues⟩ := ih
      exact ⟨(m.1, v) :: named, .cons hnamed hall,
        List.forall_mem_cons.mpr ⟨hInner _ _ hv, hvalues⟩⟩

/-- What is written for a value is the text of one. -/
theorem TextOf.valueText (h : TextOf depth x t) : ValueText t := by
  induction depth generalizing x t with
  | zero => exact h.valueText
  | succ depth ih =>
      rcases h with h | h
      · exact h.valueText
      · cases h with
        | list h hitems => exact .list h (forall_mem_of_forall₂ hitems fun _ _ => ih)
        | object h hmembers =>
            obtain ⟨named, hnamed, hvalues⟩ := exists_namedTexts (fun _ _ => ih) hmembers
            obtain ⟨members, hmembers, hkeys, hvalues⟩ := exists_memberTexts hnamed hvalues
            exact .object h hmembers hkeys hvalues

theorem ScalarText.reads (h : ScalarText x t) (depth : Nat) (hs : skipBlanks s = t ++ r)
    (hr : Closing r) : Reader.Reads (readValue depth) s x r := by
  refine ValueRead.reads ?_
  cases h with
  | null => exact .null hs rfl
  | isTrue => exact .isTrue hs rfl
  | isFalse => exact .isFalse hs rfl
  | @number n x t h hx =>
      obtain ⟨c, u, rfl, hc⟩ := h.starts
      refine .number hs hc ?_
      have hread : readNumber ((c :: u) ++ r) = .ok (x, r) := by
        simp only [readNumber, h.scan_text hr, bind, Except.bind, hx]
        rfl
      exact hread
  | string h =>
      rw [List.cons_append, List.append_assoc] at hs
      exact .string hs (h.readString r)

/-- A number that is written as one is kept as that number. -/
theorem scalarText_digits (n : UInt64) :
    ScalarText (.number (.natural n)) (Decimal.digits n.toNat) :=
  .number (Numeral.text_digits n.toNat) (((Numeral.text_digits n.toNat).natural_iff).mpr rfl)

/-- **Values are read from their texts**, up to what closes them. -/
theorem TextOf.reads (h : TextOf depth x t) (hs : skipBlanks s = t ++ r) (hr : Closing r) :
    Reader.Reads (readValue depth) s x r := by
  induction depth generalizing x s t r with
  | zero => exact h.reads 0 hs hr
  | succ depth ih =>
      rcases h with h | h
      · exact h.reads (depth + 1) hs hr
      · cases h with
        | @list xs ts u h hitems =>
            have hsolid : ∀ t ∈ ts, Solid t :=
              forall_mem_of_forall₂ hitems fun _ _ h => h.valueText.solid
            rw [List.cons_append, List.append_assoc, List.singleton_append] at hs
            refine ValueRead.reads (.list rfl hs ?_)
            exact (h.steps hsolid (.inl rfl) r).itemsRead_forall₂ hitems
              (fun h => h.valueText.starts_item) ih
        | @object ms ts u h hmembers =>
            have hsolid : ∀ t ∈ ts, Solid t :=
              forall_mem_of_forall₂ hmembers fun _ _ ⟨_, _, hnamed⟩ => hnamed.solid
            rw [List.cons_append, List.append_assoc, List.singleton_append] at hs
            refine ValueRead.reads (.object rfl hs ?_)
            exact membersRead_namedTexts (h.steps hsolid (.inr rfl) r) hmembers
              (fun h => h.valueText.solid) ih

end Values

end GraphCourier.Json
