import GraphCourier.Proofs.Reading

/-!
# What is read can be passed over

A value that nobody asked for is passed over with fewer checks than a reader
makes: brackets may be nested deeper, numbers may be out of range, and half a
surrogate pair will do. So whatever is read as a value is passed over up to the
same place (`skipValue_of_readValue`). The brackets still open are kept in a
list then, not in nested calls; the two ways agree below any such list, by
induction on the depth of the value (`passedOver_readValue`).
-/

namespace GraphCourier.Json

variable {s t u v r e : List Char} {c : Char}

/-! ## Numbers

The two scans differ only in the cause they give where the text ends. -/

namespace Numeral

variable {short short' : Cause}

theorem scanWhole_of_ok {w : List Char × List Char} (h : scanWhole short s = .ok w) :
    scanWhole short' s = .ok w := by
  unfold scanWhole at h ⊢
  split at h
  · cases h
  · exact h

theorem scanFraction_of_ok {f : Option (List Char) × List Char}
    (h : scanFraction short s = .ok f) : scanFraction short' s = .ok f := by
  unfold scanFraction at h ⊢
  split at h
  · rename_i t
    generalize digits t = d at h ⊢
    obtain ⟨_ | _, _ | _⟩ := d
    · cases h
    all_goals exact h
  · exact h

theorem scanExponentDigits_of_ok {negative : Bool} {x : Option (Bool × List Char) × List Char}
    (h : scanExponentDigits short negative s = .ok x) :
    scanExponentDigits short' negative s = .ok x := by
  unfold scanExponentDigits at h ⊢
  generalize digits s = d at h ⊢
  obtain ⟨_ | _, _ | _⟩ := d
  · cases h
  all_goals exact h

theorem scanExponent_of_ok {x : Option (Bool × List Char) × List Char}
    (h : scanExponent short s = .ok x) : scanExponent short' s = .ok x := by
  unfold scanExponent at h ⊢
  split at h
  · split at h
    · rename_i hc
      rw [if_pos hc]
      split at h <;> exact scanExponentDigits_of_ok h
    · rename_i hc
      rw [if_neg hc]
      exact h
  · exact h

theorem scan_of_ok {n : Numeral × List Char} (h : scan short s = .ok n) :
    scan short' s = .ok n := by
  obtain ⟨w, hw, h⟩ := bind_eq_ok_iff.mp h
  obtain ⟨f, hf, h⟩ := bind_eq_ok_iff.mp h
  obtain ⟨x, hx, h⟩ := bind_eq_ok_iff.mp h
  exact bind_eq_ok_iff.mpr ⟨w, scanWhole_of_ok hw, bind_eq_ok_iff.mpr
    ⟨f, scanFraction_of_ok hf, bind_eq_ok_iff.mpr ⟨x, scanExponent_of_ok hx, h⟩⟩⟩

end Numeral

theorem scan_of_readNumber (short : Cause) {n : Number} (h : readNumber s = .ok (n, r)) :
    ∃ m, Numeral.scan short s = .ok (m, r) := by
  obtain ⟨⟨m, rest⟩, hm, h⟩ := bind_eq_ok_iff.mp h
  dsimp only at h
  split at h
  · cases h
    exact ⟨m, Numeral.scan_of_ok hm⟩
  · cases h

/-! ## Strings -/

theorem skipEscape_short {x : Char} (h : shortEscape? c = some x) :
    Reader.Reads skipEscape (c :: t) () t := by
  refine ⟨length_lt_cons c t, ?_⟩
  rw [skipEscape, if_pos (by rw [h]; rfl)]
  rfl

theorem skipEscape_hex {n : Nat} (h : Reader.Reads readHex t n r) :
    Reader.Reads skipEscape ('u' :: t) () r := by
  obtain ⟨hlt, h⟩ := h
  refine ⟨Nat.lt_succ_of_lt hlt, ?_⟩
  rw [skipEscape, if_neg (by decide), if_pos rfl, h]
  rfl

theorem skipString_quote (t : List Char) : Reader.Reads skipString ('"' :: t) () t := by
  refine ⟨length_lt_cons '"' t, ?_⟩
  rw [skipString, if_pos rfl]
  rfl

theorem skipString_escape (hescape : Reader.Reads skipEscape t () u)
    (hlater : Reader.Reads skipString u () r) : Reader.Reads skipString ('\\' :: t) () r := by
  obtain ⟨hu, hescape⟩ := hescape
  obtain ⟨hr, hlater⟩ := hlater
  refine ⟨by simp; omega, ?_⟩
  rw [skipString, if_neg (by decide), if_pos rfl, hescape]
  simp only [bind, Except.bind, hlater]
  rfl

theorem skipString_plain (hquote : c ≠ '"') (hslash : c ≠ '\\') (hcontrol : ¬c.toNat < 0x20)
    (hlater : Reader.Reads skipString t () r) : Reader.Reads skipString (c :: t) () r := by
  obtain ⟨hr, hlater⟩ := hlater
  refine ⟨Nat.lt_succ_of_lt hr, ?_⟩
  rw [skipString, if_neg hquote, if_neg hslash, if_neg hcontrol, hlater]
  rfl

/-- The second half of a pair is an escape of its own to who passes over it. -/
theorem readTrailing_eq_ok {p : Parsed Nat s} (h : readTrailing s = .ok p) :
    ∃ t n, s = '\\' :: 'u' :: t ∧ Reader.Reads readHex t n p.rest := by
  unfold readTrailing at h
  split at h
  · cases h
  · split at h
    · cases h
    · rename_i t
      obtain ⟨q, hq, h⟩ := bind_eq_ok_iff.mp h
      split at h
      · cases h
        exact ⟨t, q.value, rfl, .of_ok hq⟩
      · cases h
    · cases h
  · cases h

/-- An escape that is read, and then a string that is passed over, are passed
over together. -/
theorem skipString_of_readEscape {x : Char} (h : Reader.Reads readEscape t x u)
    (hlater : Reader.Reads skipString u () r) : Reader.Reads skipString ('\\' :: t) () r := by
  obtain ⟨p, hp, -, rfl⟩ := Reader.reads_iff.mp h
  unfold readEscape at hp
  split at hp
  · cases hp
  split at hp
  · rename_i hshort
    cases hp
    exact skipString_escape (skipEscape_short hshort) hlater
  split at hp
  · rename_i hc
    obtain ⟨q, hq, hp⟩ := bind_eq_ok_iff.mp hp
    cases hp
    subst hc
    obtain ⟨n, hn, hq⟩ := bind_eq_ok_iff.mp hq
    split at hq
    · cases hq
    split at hq
    · -- two escapes were read as one character, and are passed over one by one
      obtain ⟨m, hm, hq⟩ := bind_eq_ok_iff.mp hq
      obtain rfl := Except.ok.inj hq
      obtain ⟨t', k, hrest, hk⟩ := readTrailing_eq_ok hm
      refine skipString_escape (skipEscape_hex (.of_ok hn)) ?_
      rw [hrest]
      exact skipString_escape (skipEscape_hex hk) hlater
    · cases hq
      exact skipString_escape (skipEscape_hex (.of_ok hn)) hlater
  · cases hp

theorem skipString_of_readChars {p : Parsed (List Char) s} (h : readChars s = .ok p) :
    Reader.Reads skipString s () p.rest := by
  fun_induction readChars s with
  | case1 => cases h
  | case2 t =>
      cases h
      exact skipString_quote t
  | case3 t _ ih =>
      obtain ⟨x, hx, h⟩ := bind_eq_ok_iff.mp h
      obtain ⟨q, hq, h⟩ := bind_eq_ok_iff.mp h
      have hlater := ih x hq
      cases h
      exact skipString_of_readEscape (.of_ok hx) hlater
  | case4 => cases h
  | case5 c t hquote hslash hcontrol ih =>
      obtain ⟨q, hq, h⟩ := bind_eq_ok_iff.mp h
      have hlater := ih hq
      cases h
      exact skipString_plain hquote hslash hcontrol hlater

theorem skipString_of_readString {text : String} (h : Reader.Reads readString s text r) :
    Reader.Reads skipString s () r := by
  obtain ⟨p, hp, -, rfl⟩ := Reader.reads_iff.mp h
  obtain ⟨q, hq, hp⟩ := bind_eq_ok_iff.mp hp
  cases hp
  exact skipString_of_readChars hq

/-! ## Passing over what is due -/

/-- What is due at the front of a text is passed over, up to `e`. -/
def Skips (due : Due) (stack : List Bracket) (s e : List Char) : Prop :=
  ∃ h, skipAll due stack s = .ok ⟨e, h⟩

variable {first : Bool} {bracket : Bracket} {stack : List Bracket}

theorem Skips.plain (hstart : Reader.Reads skipStart s none t)
    (h : Skips (.turn false) stack t e) : Skips .value stack s e := by
  obtain ⟨hlt, hstart⟩ := hstart
  obtain ⟨hle, h⟩ := h
  refine ⟨by omega, ?_⟩
  rw [skipAll, hstart]
  simp only [bind, Except.bind, h]

theorem Skips.opening (hstart : Reader.Reads skipStart s (some bracket) t)
    (h : Skips (.turn true) (bracket :: stack) t e) : Skips .value stack s e := by
  obtain ⟨hlt, hstart⟩ := hstart
  obtain ⟨hle, h⟩ := h
  refine ⟨by omega, ?_⟩
  rw [skipAll, hstart]
  simp only [bind, Except.bind, h]

theorem Skips.done : Skips (.turn first) [] s s := by
  refine ⟨Nat.le_refl _, ?_⟩
  rw [skipAll]

theorem Skips.close {hlt : t.length < s.length}
    (hturn : bracketTurn bracket first s = .ok (.close t hlt))
    (h : Skips (.turn false) stack t e) : Skips (.turn first) (bracket :: stack) s e := by
  obtain ⟨hle, h⟩ := h
  refine ⟨by omega, ?_⟩
  rw [skipAll, hturn]
  simp only [bind, Except.bind, h]

theorem Skips.item {hle : t.length ≤ s.length}
    (hturn : bracketTurn bracket first s = .ok (.item t hle))
    (h : Skips .value (bracket :: stack) t e) : Skips (.turn first) (bracket :: stack) s e := by
  obtain ⟨hle', h⟩ := h
  refine ⟨by omega, ?_⟩
  rw [skipAll, hturn]
  simp only [bind, Except.bind, h]

theorem skipValue_of_skips (h : Skips .value [] s r) : Reader.Reads skipValue s () r := by
  obtain ⟨hle, h⟩ := h
  rw [skipAll] at h
  obtain ⟨⟨start, t, hlt⟩, hstart, h⟩ := bind_eq_ok_iff.mp h
  cases start with
  | none =>
      obtain ⟨⟨e, he⟩, hrest, h⟩ := bind_eq_ok_iff.mp h
      rw [skipAll] at hrest
      cases hrest
      cases h
      refine ⟨hlt, ?_⟩
      rw [skipValue, hstart]
      rfl
  | some bracket =>
      obtain ⟨⟨e, he⟩, hrest, h⟩ := bind_eq_ok_iff.mp h
      cases h
      refine ⟨Nat.lt_of_le_of_lt he hlt, ?_⟩
      rw [skipValue, hstart]
      simp only [bind, Except.bind, hrest]

/-! ## Brackets -/

def Bracket.opening : Bracket → Char
  | square => '['
  | curly => '\x7b'

def Bracket.closing : Bracket → Char
  | square => ']'
  | curly => '}'

theorem bracketTurn_close (bracket : Bracket) (hs : skipBlanks s = bracket.closing :: r) :
    ∃ h, bracketTurn bracket first s = .ok (.close r h) := by
  obtain ⟨hlt, ha⟩ := ahead_of_cons hs
  refine ⟨hlt, ?_⟩
  cases bracket <;> simp only [bracketTurn, ha, Bracket.closing, if_pos]

theorem bracketTurn_square_item {v : List Char} (hcomma : Comma first s v)
    (hv : skipBlanks v = c :: t) (hc : c ≠ ']') :
    ∃ u h, bracketTurn .square first s = .ok (.item u h) ∧ skipBlanks u = c :: t := by
  cases hcomma with
  | first =>
      obtain ⟨hlt, ha⟩ := ahead_of_cons hv
      refine ⟨c :: t, hlt, ?_, ?_⟩
      · simp only [bracketTurn, ha, if_neg hc, if_pos]
      · rw [← hv, skipBlanks_idem]
  | next hs =>
      obtain ⟨hlt, ha⟩ := ahead_of_cons hs
      refine ⟨v, Nat.le_of_lt hlt, ?_, hv⟩
      simp only [bracketTurn, ha, if_pos]
      rfl

theorem skipKey_of_quote (hs : skipBlanks s = '"' :: t) (hname : Reader.Reads skipString t () u)
    (hcolon : Reader.Reads readColon u () r) : Reader.Reads skipKey s () r := by
  obtain ⟨hlt, ha⟩ := ahead_of_cons hs
  obtain ⟨hu, hname⟩ := hname
  obtain ⟨hr, hcolon⟩ := hcolon
  refine ⟨by omega, ?_⟩
  simp only [skipKey, ha, if_pos, hname, hcolon, bind, Except.bind]
  rfl

theorem bracketTurn_curly_item {v : List Char} (hcomma : Comma first s v)
    (hv : skipBlanks v = '"' :: t) (hname : Reader.Reads skipString t () u)
    (hcolon : Reader.Reads readColon u () r) :
    ∃ h, bracketTurn .curly first s = .ok (.item r h) := by
  cases hcomma with
  | first =>
      obtain ⟨hlt, ha⟩ := ahead_of_cons hv
      have hkey : Reader.Reads skipKey ('"' :: t) () r :=
        skipKey_of_quote (by rw [← hv, skipBlanks_idem]) hname hcolon
      obtain ⟨hr, hkey⟩ := hkey
      refine ⟨by simp at hr; omega, ?_⟩
      simp only [bracketTurn, ha]
      rw [if_neg (by decide), if_true, hkey]
      rfl
  | next hs =>
      obtain ⟨hlt, ha⟩ := ahead_of_cons hs
      obtain ⟨hr, hkey⟩ := skipKey_of_quote hv hname hcolon
      refine ⟨by omega, ?_⟩
      simp only [bracketTurn, ha]
      rw [if_neg (by decide), if_neg (by decide), if_true, hkey]
      rfl

/-! ## Values -/

theorem skipStart_word {word : List Char} (hs : skipBlanks s = c :: t)
    (hc : (c, word) ∈ [('n', ['u', 'l', 'l']), ('t', ['r', 'u', 'e']), ('f', ['a', 'l', 's', 'e'])])
    (hword : readWord word t = .ok r) : Reader.Reads skipStart s none r := by
  obtain ⟨hlt, ha⟩ := ahead_of_cons hs
  refine ⟨Nat.lt_of_le_of_lt (length_readWord_le hword) hlt, ?_⟩
  simp only [List.mem_cons, Prod.mk.injEq, List.not_mem_nil, or_false] at hc
  simp only [skipStart, ha]
  rcases hc with ⟨rfl, rfl⟩ | ⟨rfl, rfl⟩ | ⟨rfl, rfl⟩ <;>
    exact readWordAs_widen.mpr ⟨hword, rfl⟩

theorem skipStart_numeral {n : Numeral} (hs : skipBlanks s = c :: t)
    (hc : c = '-' ∨ c.isDigit = true)
    (hscan : Numeral.scan .invalidNumber (c :: t) = .ok (n, r)) :
    Reader.Reads skipStart s none r := by
  have hnull : c ≠ 'n' := ne_of_isNumber hc (by decide)
  have htrue : c ≠ 't' := ne_of_isNumber hc (by decide)
  have hfalse : c ≠ 'f' := ne_of_isNumber hc (by decide)
  obtain ⟨hlt, ha⟩ := ahead_of_cons hs
  refine ⟨Nat.lt_of_lt_of_le (Numeral.length_scan hscan) hlt, ?_⟩
  simp only [skipStart, ha, if_neg hnull, if_neg htrue, if_neg hfalse, if_pos hc]
  split
  · rename_i h
    rw [hscan] at h
    cases h
    rfl
  · rename_i h
    rw [hscan] at h
    cases h

theorem skipStart_number {n : Number} (hs : skipBlanks s = c :: t)
    (hc : c = '-' ∨ c.isDigit = true) (hnumber : readNumber (c :: t) = .ok (n, r)) :
    Reader.Reads skipStart s none r :=
  let ⟨_, hscan⟩ := scan_of_readNumber .invalidNumber hnumber
  skipStart_numeral hs hc hscan

theorem skipStart_string (hs : skipBlanks s = '"' :: t) (h : Reader.Reads skipString t () r) :
    Reader.Reads skipStart s none r := by
  obtain ⟨hlt, ha⟩ := ahead_of_cons hs
  obtain ⟨hr, h⟩ := h
  refine ⟨Nat.lt_trans hr hlt, ?_⟩
  simp only [skipStart, ha]
  rw [if_neg (by decide), if_neg (by decide), if_neg (by decide), if_neg (by decide), if_true, h]
  rfl

theorem skipStart_bracket (bracket : Bracket) (hs : skipBlanks s = bracket.opening :: t) :
    Reader.Reads skipStart s (some bracket) t := by
  obtain ⟨hlt, ha⟩ := ahead_of_cons hs
  refine ⟨hlt, ?_⟩
  cases bracket <;> (simp only [skipStart, ha]; rfl)

/-- Only what stands behind its blanks tells how a value was read. -/
theorem ValueRead.congr {depth : Nat} {x : Value} (h : ValueRead depth s r x)
    (hs : skipBlanks t = skipBlanks s) : ValueRead depth t r x := by
  cases h with
  | null h hword => exact .null (hs.trans h) hword
  | isTrue h hword => exact .isTrue (hs.trans h) hword
  | isFalse h hword => exact .isFalse (hs.trans h) hword
  | number h hc hnumber => exact .number (hs.trans h) hc hnumber
  | string h hstring => exact .string (hs.trans h) hstring
  | list hdepth h hitems => exact .list hdepth (hs.trans h) hitems
  | object hdepth h hmembers => exact .object hdepth (hs.trans h) hmembers

/-- Whatever brackets are open, what a reader reads is passed over. -/
def PassedOver {α : Type} (item : Reading α) : Prop :=
  ∀ {s r : List Char} {x : α}, item s x r →
    ∀ {stack : List Bracket} {t e : List Char}, skipBlanks t = skipBlanks s →
      Skips (.turn false) stack r e → Skips .value stack t e

section Items

variable {α : Type} {item : Reading α}

theorem skips_of_itemsRead {xs : List α} (hitem : PassedOver item)
    (h : ItemsRead item first s xs r) (hlater : Skips (.turn false) stack r e) :
    Skips (.turn first) (.square :: stack) s e := by
  induction h with
  | close hturn =>
      obtain ⟨_, hclose⟩ := bracketTurn_close .square (listTurn_close hturn)
      exact .close hclose hlater
  | item hturn hx _ ih =>
      obtain ⟨v, c, t, hcomma, hv, rfl, hc⟩ := listTurn_item hturn
      obtain ⟨u, _, hitem', hu⟩ := bracketTurn_square_item hcomma hv hc
      -- the item was read from behind the blanks, and is passed over from before them
      refine .item hitem' (hitem hx ?_ (ih hlater))
      rw [hu, ← hv, skipBlanks_idem]

theorem skips_of_membersRead {ms : List (String × α)} (hitem : PassedOver item)
    (h : MembersRead item first s ms r) (hlater : Skips (.turn false) stack r e) :
    Skips (.turn first) (.curly :: stack) s e := by
  induction h with
  | close hturn =>
      rcases memberTurn_eq_ok hturn with ⟨r, _, heq, hs⟩ | ⟨_, _, _, _, _, heq, -⟩
      · cases heq
        obtain ⟨_, hclose⟩ := bracketTurn_close .curly hs
        exact .close hclose hlater
      · cases heq
  | member hturn hcolon hx _ ih =>
      rcases memberTurn_eq_ok hturn with ⟨_, _, heq, -⟩ | ⟨_, _, _, v, t, heq, hcomma, hv, hname⟩
      · cases heq
      · cases heq
        obtain ⟨_, hitem'⟩ :=
          bracketTurn_curly_item hcomma hv (skipString_of_readString hname) hcolon
        exact .item hitem' (hitem hx rfl (ih hlater))

end Items

/-- **What is read as a value is passed over**, below any open brackets. -/
theorem passedOver_readValue (depth : Nat) : PassedOver (Reader.Reads (readValue depth)) := by
  -- what stands inside of brackets was read with one bracket less to open
  induction depth using Nat.strongRecOn with
  | ind depth ih =>
      intro s r x h stack t e ht hlater
      cases (valueRead h).congr ht with
      | null hs hword => exact .plain (skipStart_word hs (by simp) hword) hlater
      | isTrue hs hword => exact .plain (skipStart_word hs (by simp) hword) hlater
      | isFalse hs hword => exact .plain (skipStart_word hs (by simp) hword) hlater
      | number hs hc hnumber => exact .plain (skipStart_number hs hc hnumber) hlater
      | string hs hstring =>
          exact .plain (skipStart_string hs (skipString_of_readString hstring)) hlater
      | @list inner _ _ hdepth hs hitems =>
          exact .opening (skipStart_bracket .square hs)
            (skips_of_itemsRead (ih inner (by omega)) hitems hlater)
      | @object inner _ _ hdepth hs hmembers =>
          exact .opening (skipStart_bracket .curly hs)
            (skips_of_membersRead (ih inner (by omega)) hmembers hlater)

theorem skipValue_of_readValue {depth : Nat} {x : Value}
    (h : Reader.Reads (readValue depth) s x r) : Reader.Reads skipValue s () r :=
  skipValue_of_skips (passedOver_readValue depth h rfl .done)

end GraphCourier.Json
