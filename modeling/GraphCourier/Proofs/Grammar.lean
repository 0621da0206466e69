import Mathlib.Data.List.Forall2
import GraphCourier.Proofs.Fields
import GraphCourier.Proofs.Numerals
import GraphCourier.Proofs.Skipping
import GraphCourier.Text.Blank

/-!
# Texts of JSON values

What a JSON text may look like, told without a reader: blanks between any two
tokens, strings (`StringText`), and values that are nested to any depth
(`ValueText`). What stands between two brackets is met from the left, item by
item (`Steps`), and this is how every reader of lists and objects meets it.

Whatever value a text is of, it is passed over as a whole
(`passedOver_valueText`): by induction on the text, below any brackets that are
still open.
-/

namespace GraphCourier.Json

variable {s t u v w r e : List Char} {c : Char} {first : Bool}

/-! ## Blanks and commas -/

def Blanks (w : List Char) : Prop := ∀ c ∈ w, isBlank c = true

/-- A text with blanks around it. -/
def Padded (t u : List Char) : Prop :=
  ∃ w w', Blanks w ∧ Blanks w' ∧ u = w ++ (t ++ w')

theorem Padded.refl (t : List Char) : Padded t t :=
  ⟨[], [], nofun, nofun, (List.append_nil t).symm⟩

/-- Texts with commas between them and blanks around each. -/
inductive Separated : List (List Char) → List Char → Prop where
  | last {t u : List Char} (h : Padded t u) : Separated [t] u
  | more {t u v : List Char} {ts : List (List Char)} (h : Padded t u) (hlater : Separated ts v) :
    Separated (t :: ts) (u ++ ',' :: v)

/-- Texts, if any, as they stand between two brackets. -/
inductive Enclosed : List (List Char) → List Char → Prop where
  | none {w : List Char} (hw : Blanks w) : Enclosed [] w
  | some {ts : List (List Char)} {u : List Char} (h : Separated ts u) : Enclosed ts u

/-! ## Strings -/

/-- What may stand between the quotes of a string. An escape that begins with
`u` has four digits; nothing is said about the number they make. -/
inductive StringText : List Char → Prop where
  | nil : StringText []
  | plain {c : Char} {t : List Char} (hquote : c ≠ '"') (hslash : c ≠ '\\')
    (hcontrol : ¬c.toNat < 0x20) (h : StringText t) : StringText (c :: t)
  | short {c x : Char} {t : List Char} (hc : shortEscape? c = some x) (h : StringText t) :
    StringText ('\\' :: c :: t)
  | unit {a b c d : Char} {n : Nat} {t : List Char} (hn : hexUnit? a b c d = some n)
    (h : StringText t) : StringText ('\\' :: 'u' :: a :: b :: c :: d :: t)

/-- A member of an object: what stands between the quotes of its key, and the
text of its value. -/
def MemberText (key value t : List Char) : Prop :=
  ∃ w w', Blanks w ∧ Blanks w' ∧
    t = '"' :: (key ++ '"' :: (w ++ ':' :: (w' ++ value)))

/-! ## Values -/

/-- The texts of values, without blanks around them. -/
inductive ValueText : List Char → Prop where
  | null : ValueText ['n', 'u', 'l', 'l']
  | isTrue : ValueText ['t', 'r', 'u', 'e']
  | isFalse : ValueText ['f', 'a', 'l', 's', 'e']
  | number {n : Numeral} {t : List Char} (h : n.Text t) : ValueText t
  | string {t : List Char} (h : StringText t) : ValueText ('"' :: (t ++ ['"']))
  | list {ts : List (List Char)} {u : List Char} (h : Enclosed ts u)
    (hitems : ∀ t ∈ ts, ValueText t) : ValueText ('[' :: (u ++ [']']))
  | object {members : List (List Char × List Char)} {ts : List (List Char)} {u : List Char}
    (h : Enclosed ts u) (hmembers : List.Forall₂ (fun m t => MemberText m.1 m.2 t) members ts)
    (hkeys : ∀ m ∈ members, StringText m.1) (hvalues : ∀ m ∈ members, ValueText m.2) :
    ValueText ('\x7b' :: (u ++ ['\x7d']))

/-! ## Blanks -/

theorem Closing.append (hw : Blanks w) (h : Closing r) : Closing (w ++ r) := by
  cases w with
  | nil => exact h
  | cons c w =>
      rintro d hd
      obtain rfl := Option.mem_some.mp hd
      exact .inl (hw _ (List.mem_cons_self ..))

theorem skipBlanks_append (hw : Blanks w) (t : List Char) : skipBlanks (w ++ t) = skipBlanks t :=
  List.dropWhile_append_of_pos hw

theorem skipBlanks_cons (hc : isBlank c = false) (t : List Char) : skipBlanks (c :: t) = c :: t := by
  rw [skipBlanks, List.dropWhile_cons, hc]
  rfl

/-! ## Item by item -/

theorem forall_mem_of_forall₂ {α : Type} {P : α → List Char → Prop} {Q : List Char → Prop}
    {xs : List α} {ts : List (List Char)} (h : List.Forall₂ P xs ts)
    (hPQ : ∀ x t, P x t → Q t) : ∀ t ∈ ts, Q t := by
  induction h with
  | nil => nofun
  | cons hx _ ih => exact List.forall_mem_cons.mpr ⟨hPQ _ _ hx, ih⟩

/-- A text that starts with a character other than a blank, and so no shorter
than what is seen of it behind the blanks. -/
def Solid (t : List Char) : Prop := ∃ c u, t = c :: u ∧ isBlank c = false

theorem Solid.skipBlanks (h : Solid t) (hw : Blanks w) (r : List Char) :
    skipBlanks (w ++ (t ++ r)) = t ++ r := by
  obtain ⟨c, u, rfl, hc⟩ := h
  rw [skipBlanks_append hw]
  exact skipBlanks_cons hc _

/-- What is met between two brackets, from the left: texts behind commas, except
the first one, and the closing bracket in the end. -/
inductive Steps (close : Char) (e : List Char) : Bool → List (List Char) → List Char → Prop where
  | close {first : Bool} {s : List Char} (hs : skipBlanks s = close :: e) : Steps close e first [] s
  | item {first : Bool} {s v t r : List Char} {ts : List (List Char)} (hcomma : Comma first s v)
    (hv : skipBlanks v = t ++ r) (hr : Closing r) (hlater : Steps close e false ts r) :
    Steps close e first (t :: ts) s

section Steps

variable {ts : List (List Char)} {close : Char}

theorem Separated.steps (h : Separated ts u) (hts : ∀ t ∈ ts, Solid t)
    (hclose : close = ']' ∨ close = '\x7d') (e : List Char)
    (hcomma : Comma first s (u ++ close :: e)) : Steps close e first ts s := by
  have hblank : isBlank close = false := by rcases hclose with rfl | rfl <;> decide
  have hend : ∀ {w}, Blanks w → Closing (w ++ close :: e) := fun hw =>
    .append hw (.cons (.inr hclose) e)
  induction h generalizing first s with
  | last hpad =>
      obtain ⟨w, w', hw, hw', rfl⟩ := hpad
      have ht := hts _ (List.mem_singleton_self _)
      rw [List.append_assoc, List.append_assoc] at hcomma
      refine .item hcomma (ht.skipBlanks hw _) (hend hw') (.close ?_)
      rw [skipBlanks_append hw', skipBlanks_cons hblank]
  | more hpad hlater ih =>
      obtain ⟨w, w', hw, hw', rfl⟩ := hpad
      obtain ⟨ht, hts⟩ := List.forall_mem_cons.mp hts
      simp only [List.append_assoc, List.cons_append] at hcomma
      refine .item hcomma (ht.skipBlanks hw _) (.append hw' (.cons (.inl rfl) _)) (ih hts (.next ?_))
      rw [skipBlanks_append hw', skipBlanks_cons (by decide)]

theorem Enclosed.steps (h : Enclosed ts u) (hts : ∀ t ∈ ts, Solid t)
    (hclose : close = ']' ∨ close = '\x7d') (e : List Char) :
    Steps close e true ts (u ++ close :: e) := by
  cases h with
  | none hw =>
      refine .close ?_
      rw [skipBlanks_append hw, skipBlanks_cons (by rcases hclose with rfl | rfl <;> decide)]
  | some h => exact h.steps hts hclose e .first

end Steps

/-! ## Values that stand in a text -/

/-- A text of the kind `P` that stands at the front, behind blanks, with an end
of its own. -/
def Stands (P : List Char → Prop) : Reading (List Char) :=
  fun s t r => P t ∧ skipBlanks s = t ++ r ∧ Closing r

theorem listTurn_of_item {v : List Char} (hcomma : Comma first s v) (hv : skipBlanks v = c :: t)
    (hc : c ≠ ']') : ∃ h, listTurn first s = .ok (.item (c :: t) h) := by
  cases hcomma with
  | first =>
      obtain ⟨hlt, ha⟩ := ahead_of_cons hv
      refine ⟨hlt, ?_⟩
      simp only [listTurn, ha, if_neg hc, if_pos]
  | next hs =>
      obtain ⟨hlt, ha⟩ := ahead_of_cons hs
      obtain ⟨hlt', ha'⟩ := ahead_of_cons hv
      refine ⟨by simp; omega, ?_⟩
      simp only [listTurn, ha, ha', if_neg hc]
      rfl

theorem memberTurn_of_close (hs : skipBlanks s = '\x7d' :: r) :
    ∃ h, memberTurn first s = .ok (.close r h) := by
  obtain ⟨hlt, ha⟩ := ahead_of_cons hs
  refine ⟨hlt, ?_⟩
  simp only [memberTurn, ha, if_pos]

theorem readKey_of_quote {name : String} (short brace : Cause) (hs : s = '"' :: t)
    (hname : Reader.Reads readString t name r) :
    ∃ h, readKey short brace s = .ok (.key name r h) := by
  obtain ⟨hr, hname⟩ := hname
  subst hs
  refine ⟨Nat.lt_succ_of_lt hr, ?_⟩
  simp only [readKey, if_pos, hname, bind, Except.bind]

theorem memberTurn_of_key {v : List Char} {name : String} (hcomma : Comma first s v)
    (hv : skipBlanks v = '"' :: t) (hname : Reader.Reads readString t name r) :
    ∃ h, memberTurn first s = .ok (.key name r h) := by
  cases hcomma with
  | first =>
      obtain ⟨hlt, ha⟩ := ahead_of_cons hv
      obtain ⟨h, hkey⟩ := readKey_of_quote .eofInObject .keyMustBeString rfl hname
      refine ⟨Nat.lt_of_lt_of_le h hlt, ?_⟩
      simp only [memberTurn, ha]
      rw [if_neg (by decide), if_true, hkey]
      rfl
  | next hs =>
      obtain ⟨hlt, ha⟩ := ahead_of_cons hs
      obtain ⟨h, hkey⟩ := readKey_of_quote .eofInValue .trailingComma hv hname
      refine ⟨Nat.lt_trans (Nat.lt_of_lt_of_le h (length_skipBlanks_le v)) hlt, ?_⟩
      simp only [memberTurn, ha]
      rw [if_neg (by decide), if_neg (by decide), if_true, hkey]
      rfl

/-- A list is read item by item, each from what is written for it. -/
theorem Steps.itemsRead_forall₂ {α : Type} {item : Reading α} {P : α → List Char → Prop}
    {xs : List α} {ts : List (List Char)} (h : Steps ']' e first ts s) (hts : List.Forall₂ P xs ts)
    (hstarts : ∀ {x t}, P x t → ∃ c u, t = c :: u ∧ c ≠ ']')
    (hitem : ∀ {x s t r}, P x t → skipBlanks s = t ++ r → Closing r → item s x r) :
    ItemsRead item first s xs e := by
  induction h generalizing xs with
  | close hs =>
      cases hts
      obtain ⟨_, hturn⟩ := listTurn_of_close hs
      exact .close hturn
  | item hcomma hv hr _ ih =>
      cases hts with
      | cons hx hlater =>
          obtain ⟨c, u, rfl, hc⟩ := hstarts hx
          obtain ⟨_, hturn⟩ := listTurn_of_item hcomma hv hc
          refine .item hturn (hitem hx ?_ hr) (ih hlater)
          exact (congrArg skipBlanks hv).symm.trans ((skipBlanks_idem _).trans hv)

/-- A list of texts is read as these texts, by whom only looks where they are. -/
theorem Steps.itemsRead {P : List Char → Prop} {ts : List (List Char)} (h : Steps ']' e first ts s)
    (hts : ∀ t ∈ ts, P t ∧ ∃ c u, t = c :: u ∧ c ≠ ']') :
    ItemsRead (Stands P) first s ts e := by
  have hsame : List.Forall₂ (fun x t => x = t ∧ P t ∧ ∃ c u, t = c :: u ∧ c ≠ ']') ts ts :=
    List.forall₂_same.mpr fun t ht => ⟨rfl, hts t ht⟩
  refine h.itemsRead_forall₂ hsame (fun h => h.2.2) ?_
  rintro x s t r ⟨rfl, hx, -⟩ hs hr
  exact ⟨hx, hs, hr⟩

theorem ValueText.starts (h : ValueText t) :
    ∃ c u, t = c :: u ∧ isBlank c = false ∧ c ≠ ']' := by
  cases h with
  | number h =>
      obtain ⟨c, u, rfl, hc⟩ := h.starts
      refine ⟨c, u, rfl, ?_, ne_of_isNumber hc (by decide)⟩
      rw [Bool.eq_false_iff, ne_eq, isBlank_iff]
      rintro (rfl | rfl | rfl | rfl) <;> revert hc <;> decide
  | _ => exact ⟨_, _, rfl, by decide, by decide⟩

theorem ValueText.solid (h : ValueText t) : Solid t :=
  let ⟨c, u, ht, hc, _⟩ := h.starts
  ⟨c, u, ht, hc⟩

/-- No text of a value is blank. -/
theorem ValueText.not_blank (h : ValueText t) : ∃ c ∈ t, Text.isWhiteSpace c = false := by
  cases h with
  | number h =>
      obtain ⟨c, u, rfl, hc⟩ := h.starts
      refine ⟨c, List.mem_cons_self .., ?_⟩
      rcases hc with rfl | hc
      · rfl
      · have hlow : 0x30 ≤ c.toNat := (Char.isDigit_iff_toNat.mp hc).1
        have hhigh : c.toNat ≤ 0x39 := (Char.isDigit_iff_toNat.mp hc).2
        simp [Text.isWhiteSpace]
        omega
  | _ => exact ⟨_, List.mem_cons_self .., rfl⟩

theorem ValueText.starts_item (h : ValueText t) : ∃ c u, t = c :: u ∧ c ≠ ']' :=
  let ⟨c, u, ht, _, hc⟩ := h.starts
  ⟨c, u, ht, hc⟩

theorem ValueText.itemsRead {ts : List (List Char)} (h : Enclosed ts u)
    (hts : ∀ t ∈ ts, ValueText t) (e : List Char) :
    ItemsRead (Stands ValueText) true (u ++ ']' :: e) ts e := by
  exact (h.steps (fun t ht => (hts t ht).solid) (.inl rfl) e).itemsRead fun t ht =>
    ⟨hts t ht, (hts t ht).starts_item⟩

/-! ## Passing over values -/

theorem readHex_cons {a b c d : Char} {n : Nat} (hn : hexUnit? a b c d = some n) (t : List Char) :
    Reader.Reads readHex (a :: b :: c :: d :: t) n t := by
  refine ⟨by simp; omega, ?_⟩
  simp only [readHex, hn]

theorem StringText.skipString (h : StringText t) (r : List Char) :
    Reader.Reads skipString (t ++ '"' :: r) () r := by
  induction h with
  | nil => exact skipString_quote r
  | plain hquote hslash hcontrol _ ih => exact skipString_plain hquote hslash hcontrol ih
  | short hc _ ih => exact skipString_escape (skipEscape_short hc) ih
  | @unit a b c d n t hn _ ih =>
      exact skipString_escape (skipEscape_hex (readHex_cons hn _)) ih

theorem MemberText.solid {key value : List Char} (h : MemberText key value t) : Solid t := by
  obtain ⟨w, w', -, -, rfl⟩ := h
  exact ⟨'"', _, rfl, by decide⟩

theorem readColon_blanks (hw : Blanks w) (t : List Char) :
    Reader.Reads readColon (w ++ ':' :: t) () t := by
  have hs : skipBlanks (w ++ ':' :: t) = ':' :: t := by
    rw [skipBlanks_append hw, skipBlanks_cons (by decide)]
  obtain ⟨hlt, ha⟩ := ahead_of_cons hs
  refine ⟨hlt, ?_⟩
  simp only [readColon, ha, if_pos]

theorem skips_of_itemTexts {ts : List (List Char)} (h : Steps ']' e first ts s)
    (hts : ∀ t ∈ ts, ValueText t ∧ PassedOver (Stands (· = t))) {stack : List Bracket}
    {d : List Char} (hlater : Skips (.turn false) stack e d) :
    Skips (.turn first) (.square :: stack) s d := by
  have hitem : PassedOver (Stands (· ∈ ts)) := fun ⟨ht, hs⟩ => (hts _ ht).2 ⟨rfl, hs⟩
  exact skips_of_itemsRead hitem
    (h.itemsRead fun t ht => ⟨ht, (hts t ht).1.starts_item⟩) hlater

theorem skips_of_memberTexts {members : List (List Char × List Char)} {ts : List (List Char)}
    (h : Steps '\x7d' e first ts s)
    (hmembers : List.Forall₂ (fun m t => MemberText m.1 m.2 t) members ts)
    (hkeys : ∀ m ∈ members, StringText m.1)
    (hvalues : ∀ m ∈ members, ValueText m.2 ∧ PassedOver (Stands (· = m.2)))
    {stack : List Bracket} {d : List Char} (hlater : Skips (.turn false) stack e d) :
    Skips (.turn first) (.curly :: stack) s d := by
  induction h generalizing members with
  | close hs =>
      obtain ⟨_, hclose⟩ := bracketTurn_close .curly hs
      exact .close hclose hlater
  | item hcomma hv hr _ ih =>
      cases hmembers with
      | cons hmember hmembers =>
          obtain ⟨hkey, hkeys⟩ := List.forall_mem_cons.mp hkeys
          obtain ⟨⟨hvalue, hpassed⟩, hvalues⟩ := List.forall_mem_cons.mp hvalues
          obtain ⟨w, w', hw, hw', rfl⟩ := hmember
          simp only [List.cons_append, List.append_assoc] at hv
          obtain ⟨_, hturn⟩ := bracketTurn_curly_item hcomma hv (hkey.skipString _)
            (readColon_blanks hw _)
          refine .item hturn (hpassed ⟨rfl, ?_, hr⟩ rfl (ih hmembers hkeys hvalues))
          exact hvalue.solid.skipBlanks hw' _

/-- **Every value is passed over**, however deep it is nested, and whatever
brackets are open. -/
theorem passedOver_valueText (h : ValueText t) : PassedOver (Stands (· = t)) := by
  induction h with
  | null =>
      rintro s r _ ⟨rfl, hs, -⟩ stack t e ht hlater
      exact .plain (skipStart_word (ht.trans hs) (.head _) rfl) hlater
  | isTrue =>
      rintro s r _ ⟨rfl, hs, -⟩ stack t e ht hlater
      exact .plain (skipStart_word (ht.trans hs) (.tail _ (.head _)) rfl) hlater
  | isFalse =>
      rintro s r _ ⟨rfl, hs, -⟩ stack t e ht hlater
      exact .plain (skipStart_word (ht.trans hs) (.tail _ (.tail _ (.head _))) rfl) hlater
  | number h =>
      rintro s r _ ⟨rfl, hs, hr⟩ stack t e ht hlater
      obtain ⟨c, u, rfl, hc⟩ := h.starts
      exact .plain (skipStart_numeral (ht.trans hs) hc (h.scan_text hr)) hlater
  | string h =>
      rintro s r _ ⟨rfl, hs, -⟩ stack t e ht hlater
      rw [List.cons_append, List.append_assoc] at hs
      exact .plain (skipStart_string (ht.trans hs) (h.skipString r)) hlater
  | list henclosed hitems ih =>
      rintro s r _ ⟨rfl, hs, -⟩ stack t e ht hlater
      rw [List.cons_append, List.append_assoc] at hs
      refine .opening (skipStart_bracket .square (ht.trans hs)) ?_
      have hsteps := henclosed.steps (fun t ht => (hitems t ht).solid) (.inl rfl) r
      exact skips_of_itemTexts hsteps (fun t ht => ⟨hitems t ht, ih t ht⟩) hlater
  | object henclosed hmembers hkeys hvalues ih =>
      rintro s r _ ⟨rfl, hs, -⟩ stack t e ht hlater
      rw [List.cons_append, List.append_assoc] at hs
      refine .opening (skipStart_bracket .curly (ht.trans hs)) ?_
      have hsteps := henclosed.steps
        (forall_mem_of_forall₂ hmembers fun _ _ h => h.solid) (.inr rfl) r
      exact skips_of_memberTexts hsteps hmembers hkeys (fun m hm => ⟨hvalues m hm, ih m hm⟩) hlater

end GraphCourier.Json
