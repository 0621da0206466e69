import GraphCourier.Json.Value

/-!
# Written JSON is read back

A text that was written for a string, or for an object, is read as what it was
written for, whatever text follows (`Reader.Takes`). Strings may hold any
characters: what cannot stand between quotes is written as an escape, and each
escape is read as the character it was written for (`readString_text`). An
object is read member by member, and as it was if its members were in order
(`readValue_object`).
-/

namespace GraphCourier.Json

/-- A reader makes `x` of the front of a text, up to `rest`. -/
def Reader.Reads {α : Type} (reader : Reader α) (s : List Char) (x : α) (rest : List Char) : Prop :=
  ∃ h, reader s = .ok ⟨x, rest, h⟩

/-- A reader makes `x` of a text, whatever follows. -/
def Reader.Takes {α : Type} (reader : Reader α) (text : List Char) (x : α) : Prop :=
  ∀ rest, reader.Reads (text ++ rest) x rest

/-! ## Strings -/

theorem readEscape_short {c letter : Char} (h : shortEscape? letter = some c) :
    Reader.Takes readEscape [letter] c := by
  intro rest
  refine ⟨length_lt_cons letter rest, ?_⟩
  simp only [List.cons_append, List.nil_append, readEscape, h]
  rfl

/-- The digits that are written for a control character. -/
theorem hexUnit?_control :
    ∀ n < 0x20, hexUnit? '0' '0' (Nat.digitChar (n / 16)) (Nat.digitChar (n % 16)) = some n := by
  decide

theorem readEscape_control {c : Char} (h : c.toNat < 0x20) :
    Reader.Takes readEscape
      ['u', '0', '0', Nat.digitChar (c.toNat / 16), Nat.digitChar (c.toNat % 16)] c := by
  intro rest
  have hsurrogates : isTrailing c.toNat = false ∧ isLeading c.toNat = false := by
    simp only [isTrailing, isLeading, decide_eq_false_iff_not]
    omega
  refine ⟨by simp; omega, ?_⟩
  simp only [List.cons_append, List.nil_append, readEscape, show shortEscape? 'u' = none from rfl,
    if_pos, readUnicode, readHex, hexUnit?_control _ h, bind, Except.bind, hsurrogates,
    Bool.false_eq_true, if_false, Parsed.map, Char.ofNat_toNat]
  rfl

/-- A character stands for itself or is written as an escape. -/
theorem escapedChar_cases (c : Char) :
    (escapedChar c = [c] ∧ c ≠ '"' ∧ c ≠ '\\' ∧ ¬ c.toNat < 0x20)
      ∨ ∃ escape, escapedChar c = '\\' :: escape ∧ Reader.Takes readEscape escape c := by
  unfold escapedChar
  iterate 7
    split
    · rename_i h
      exact .inr ⟨_, rfl, readEscape_short (by rw [h]; rfl)⟩
  split
  · rename_i h
    exact .inr ⟨_, rfl, readEscape_control h⟩
  · rename_i hquote hslash _ _ _ _ _ hcontrol
    exact .inl ⟨rfl, hquote, hslash, hcontrol⟩

theorem readChars_quote (rest : List Char) : Reader.Reads readChars ('"' :: rest) [] rest := by
  refine ⟨length_lt_cons '"' rest, ?_⟩
  rw [readChars, if_pos rfl]
  rfl

theorem readChars_escapedChar (c : Char) {s cs rest : List Char}
    (h : Reader.Reads readChars s cs rest) :
    Reader.Reads readChars (escapedChar c ++ s) (c :: cs) rest := by
  obtain ⟨hlt, hread⟩ := h
  rcases escapedChar_cases c with ⟨hc, hquote, hslash, hcontrol⟩ | ⟨escape, hc, hescape⟩
  · rw [hc, List.cons_append, List.nil_append]
    refine ⟨Nat.lt_succ_of_lt hlt, ?_⟩
    rw [readChars, if_neg hquote, if_neg hslash,
      if_neg hcontrol, hread]
    rfl
  · obtain ⟨hlt', hread'⟩ := hescape s
    rw [hc, List.cons_append]
    refine ⟨Nat.lt_succ_of_lt (Nat.lt_trans hlt hlt'), ?_⟩
    rw [readChars, if_neg (by decide), if_pos rfl, hread']
    simp only [bind, Except.bind, hread]
    rfl

/-- What is written between the quotes of a string, up to the closing one, is
read as the string. -/
theorem readString_text (s : String) :
    Reader.Takes readString (s.toList.flatMap escapedChar ++ ['"']) s := by
  intro rest
  have hchars : ∀ cs : List Char,
      Reader.Reads readChars (cs.flatMap escapedChar ++ '"' :: rest) cs rest := by
    intro cs
    induction cs with
    | nil => exact readChars_quote rest
    | cons c cs ih =>
        rw [List.flatMap_cons, List.append_assoc]
        exact readChars_escapedChar c ih
  obtain ⟨hlt, hread⟩ := hchars s.toList
  rw [List.append_assoc, List.singleton_append]
  refine ⟨hlt, ?_⟩
  rw [readString, hread]
  simp only [bind, Except.bind, Parsed.map, String.ofList_toList]

theorem toList_stringText (s : String) :
    (stringText s).toList = '"' :: (s.toList.flatMap escapedChar ++ ['"']) := by
  simp [stringText]

/-! ## Punctuation -/

theorem ahead_of_cons {c : Char} {s t : List Char} (h : skipBlanks s = c :: t) :
    ∃ ht, ahead s = .char c t ht := by
  have hlt : t.length < s.length := by
    have := length_skipBlanks_le s
    rwa [h] at this
  refine ⟨hlt, ?_⟩
  unfold ahead
  split
  · rename_i hs
    rw [h] at hs
    cases hs
  · rename_i hs
    rw [h] at hs
    cases hs
    rfl

theorem ahead_cons {c : Char} (hc : isBlank c = false) (t : List Char) :
    ahead (c :: t) = .char c t (length_lt_cons c t) := by
  obtain ⟨_, h⟩ := ahead_of_cons (show skipBlanks (c :: t) = c :: t by simp [skipBlanks, hc])
  exact h

theorem readColon_cons (t : List Char) : Reader.Reads readColon (':' :: t) () t := by
  refine ⟨length_lt_cons ':' t, ?_⟩
  rw [readColon, ahead_cons (by decide)]
  rfl

theorem readKey_text (short brace : Cause) (k : String) (rest : List Char) :
    ∃ h, readKey short brace ((stringText k).toList ++ rest) = .ok (.key k rest h) := by
  obtain ⟨hlt, hread⟩ := readString_text k rest
  rw [toList_stringText, List.cons_append]
  refine ⟨Nat.lt_succ_of_lt hlt, ?_⟩
  simp only [readKey, if_pos, hread, bind, Except.bind]

theorem memberTurn_close (first : Bool) (rest : List Char) :
    ∃ h, memberTurn first ('}' :: rest) = .ok (.close rest h) := by
  refine ⟨length_lt_cons '}' rest, ?_⟩
  rw [memberTurn, ahead_cons (by decide)]
  rfl

theorem memberTurn_first (k : String) (rest : List Char) :
    ∃ h, memberTurn true ((stringText k).toList ++ rest) = .ok (.key k rest h) := by
  have hkey := readKey_text .eofInObject .keyMustBeString k rest
  obtain ⟨t, ht⟩ : ∃ t, (stringText k).toList ++ rest = '"' :: t :=
    ⟨_, by rw [toList_stringText, List.cons_append]⟩
  rw [ht] at hkey ⊢
  obtain ⟨hlt, hkey⟩ := hkey
  refine ⟨hlt, ?_⟩
  rw [memberTurn, ahead_cons (by decide)]
  simp only [hkey, bind, Except.bind]
  rfl

theorem memberTurn_next (k : String) (rest : List Char) :
    ∃ h, memberTurn false (',' :: ((stringText k).toList ++ rest)) = .ok (.key k rest h) := by
  have hblank : skipBlanks ((stringText k).toList ++ rest) = (stringText k).toList ++ rest := by
    rw [toList_stringText, List.cons_append]
    rfl
  have hkey := readKey_text .eofInValue .trailingComma k rest
  rw [← hblank] at hkey
  obtain ⟨hlt, hkey⟩ := hkey
  refine ⟨Nat.lt_succ_of_lt (hblank ▸ hlt), ?_⟩
  rw [memberTurn, ahead_cons (by decide)]
  dsimp only
  rw [if_neg (by decide), if_neg (by decide), if_pos rfl, hkey]
  rfl

/-! ## Objects -/

section Members

variable {α : Type} {item : Reader α}

theorem readMembers_close (first : Bool) (rest : List Char) :
    Reader.Reads (readMembers item first) ('}' :: rest) [] rest := by
  obtain ⟨hlt, hturn⟩ := memberTurn_close first rest
  refine ⟨hlt, ?_⟩
  rw [readMembers, hturn]
  rfl

/-- One member, and then those after it. -/
theorem readMembers_member {first : Bool} {s t u rest : List Char} {k : String} {x : α}
    {ms : List (String × α)}
    (hturn : ∃ h, memberTurn first s = .ok (.key k (':' :: t) h))
    (hitem : item.Reads t x u) (hlater : Reader.Reads (readMembers item false) u ms rest) :
    Reader.Reads (readMembers item first) s ((k, x) :: ms) rest := by
  obtain ⟨hkey, hturn⟩ := hturn
  obtain ⟨hcolon, hreadColon⟩ := readColon_cons t
  obtain ⟨hu, hread⟩ := hitem
  obtain ⟨hrest, hreadLater⟩ := hlater
  refine ⟨by omega, ?_⟩
  rw [readMembers, hturn]
  simp only [hreadColon, hread, hreadLater, bind, Except.bind]
  rfl

end Members

/-- What follows the first member of an object: commas, and the other members. -/
def laterText (ms : List (String × Value)) : List Char :=
  ms.flatMap fun m => ',' :: ((stringText m.1).toList ++ ':' :: m.2.text.toList)

theorem toList_membersText (k : String) (x : Value) (ms : List (String × Value)) :
    (membersText ((k, x) :: ms)).toList =
      (stringText k).toList ++ ':' :: (x.text.toList ++ laterText ms) := by
  induction ms generalizing k x with
  | nil => simp [membersText, laterText]
  | cons m ms ih => simp [membersText, laterText, ih]

theorem membersText_eq (ms : List (String × Value)) :
    membersText ms = ",".intercalate (ms.map fun m => stringText m.1 ++ ":" ++ m.2.text) := by
  induction ms with
  | nil => simp [membersText]
  | cons m ms ih =>
      cases ms with
      | nil => simp [membersText]
      | cons m' ms =>
          rw [membersText, ih, List.map_cons, List.map_cons, List.map_cons,
            String.intercalate_cons_cons]

variable {item : Reader Value} {ms : List (String × Value)}

theorem readMembers_later (h : ∀ m ∈ ms, item.Takes m.2.text.toList m.2) (rest : List Char) :
    Reader.Reads (readMembers item false) (laterText ms ++ '}' :: rest) ms rest := by
  induction ms with
  | nil => exact readMembers_close false rest
  | cons m ms ih =>
      obtain ⟨hm, hms⟩ := List.forall_mem_cons.mp h
      have htext : laterText (m :: ms) ++ '}' :: rest =
          ',' :: ((stringText m.1).toList ++
            ':' :: (m.2.text.toList ++ (laterText ms ++ '}' :: rest))) := by
        simp [laterText]
      rw [htext]
      exact readMembers_member (memberTurn_next m.1 _) (hm _) (ih hms)

theorem readMembers_text (h : ∀ m ∈ ms, item.Takes m.2.text.toList m.2) :
    Reader.Takes (readMembers item true) ((membersText ms).toList ++ ['}']) ms := by
  intro rest
  cases ms with
  | nil => exact readMembers_close true rest
  | cons m ms =>
      obtain ⟨hm, hms⟩ := List.forall_mem_cons.mp h
      have htext : (membersText (m :: ms)).toList ++ ['}'] ++ rest =
          (stringText m.1).toList ++
            ':' :: (m.2.text.toList ++ (laterText ms ++ '}' :: rest)) := by
        rw [toList_membersText]
        simp
      rw [htext]
      exact readMembers_member (memberTurn_first m.1 _) (hm _) (readMembers_later hms rest)

/-! ## Values -/

theorem readValue_string (depth : Nat) (s : String) :
    Reader.Takes (readValue depth) (Value.string s).text.toList (.string s) := by
  intro rest
  obtain ⟨hlt, hread⟩ := readString_text s rest
  rw [Value.text, toList_stringText, List.cons_append]
  refine ⟨Nat.lt_succ_of_lt hlt, ?_⟩
  unfold readValue
  rw [ahead_cons (by decide)]
  simp only [hread, bind, Except.bind]
  rfl

theorem readValue_object {depth : Nat} (hsorted : Members.sorted ms = ms)
    (h : ∀ m ∈ ms, Reader.Takes (readValue depth) m.2.text.toList m.2) :
    Reader.Takes (readValue (depth + 1)) (Value.object ms).text.toList (.object ms) := by
  intro rest
  obtain ⟨hlt, hread⟩ := readMembers_text h rest
  have htext : (Value.object ms).text.toList ++ rest =
      '\x7b' :: ((membersText ms).toList ++ ['}'] ++ rest) := by
    simp [Value.text]
  rw [htext]
  refine ⟨Nat.lt_succ_of_lt hlt, ?_⟩
  unfold readValue
  rw [ahead_cons (by decide)]
  simp only [hread, bind, Except.bind, Parsed.map, hsorted]
  rfl

theorem readWhole_text {α : Type} {reader : Reader α} {text : List Char} {x : α}
    (h : reader.Takes text x) : readWhole reader text = .ok x := by
  have hreads : reader.Reads (text ++ []) x [] := h []
  rw [List.append_nil] at hreads
  obtain ⟨hlt, hread⟩ := hreads
  rw [readWhole, hread]
  rfl

end GraphCourier.Json
