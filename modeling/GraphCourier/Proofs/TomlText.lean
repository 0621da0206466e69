import GraphCourier.Proofs.TomlCoherence
import GraphCourier.Proofs.TomlWords

/-!
# Writing TOML

How keys, values and the lines of a document may be written, told without a reader.
Keys are bare or quoted and may be dotted, values may be nested as deep as lists and
tables go (`ValueText`), and a line is a header, an entry or nothing (`LineText`). Each is
read as what it was written for, whatever follows (`ValueText.reads`, `LineText.reads`):
for values this goes by induction on how deep they may be nested, for what stands between
two brackets by induction on its text.
-/

namespace GraphCourier.Toml

variable {s t u r b f : List Char} {c : Char}

/-! ## Keys -/

/-- How a part of a key may be written: as it is, or as a string on one line. -/
inductive PartText : String → List Char → Prop where
  | bare {cs : List Char} (hne : cs ≠ []) (h : ∀ c ∈ cs, isBareKeyChar c = true) :
      PartText (String.ofList cs) cs
  | basic {cs t : List Char} (h : BasicText cs t) :
      PartText (String.ofList cs) ('"' :: (t ++ ['"']))
  | literal {cs : List Char} (h : LiteralText cs) :
      PartText (String.ofList cs) ('\'' :: (cs ++ ['\'']))

/-- How a key may be written, the blanks around it included. -/
inductive KeyText : Key → List Char → Prop where
  | last {x : String} {b b' t : List Char} (hb : Blanks b) (hx : PartText x t) (hb' : Blanks b') :
      KeyText ⟨[], x⟩ (b ++ (t ++ b'))
  | dotted {x : String} {k : Key} {b b' t u : List Char} (hb : Blanks b) (hx : PartText x t)
      (hb' : Blanks b') (h : KeyText k u) :
      KeyText ⟨x :: k.path, k.last⟩ (b ++ (t ++ (b' ++ '.' :: u)))

/-- A key that has not too many parts. -/
def Key.IsShort (k : Key) : Prop := k.path.length < maxDepth

instance (k : Key) : Decidable k.IsShort := Nat.decLt ..

section Keys

variable {x : String} {k : Key}

/-- A character that starts a key. -/
def StartsKey (c : Char) : Prop := isSolid c = true ∧ c ∉ ['[', ',', ']', '\x7d']

theorem startsKey_bare (h : isBareKeyChar c = true) : StartsKey c := by
  have hnot : ∀ d, isBareKeyChar d = false → c ≠ d := by
    rintro d hd rfl
    cases h.symm.trans hd
  have hblank : isBlank c = false := by
    simp [isBlank, hnot ' ' rfl, hnot '\t' rfl]
  refine ⟨by simp [isSolid, hblank, hnot '\n' rfl, hnot '\r' rfl, hnot '#' rfl], ?_⟩
  simp [hnot '[' rfl, hnot ',' rfl, hnot ']' rfl, hnot '\x7d' rfl]

theorem PartText.cons (h : PartText x t) : ∃ c u, t = c :: u ∧ StartsKey c := by
  cases h with
  | bare hne h =>
      obtain ⟨c, u, rfl⟩ := List.exists_cons_of_ne_nil hne
      exact ⟨c, u, rfl, startsKey_bare (h c (List.mem_cons_self ..))⟩
  | basic h => exact ⟨'"', _, rfl, rfl, by decide⟩
  | literal h => exact ⟨'\'', _, rfl, rfl, by decide⟩

theorem PartText.reads (h : PartText x t) (hr : ∀ c u, r = c :: u → isBareKeyChar c = false) :
    Reader.Reads readSimpleKey (t ++ r) x r := by
  cases h with
  | bare hne h =>
      obtain ⟨c, u, rfl⟩ := List.exists_cons_of_ne_nil hne
      have hc := h c (List.mem_cons_self ..)
      have hstop : r.takeWhile isBareKeyChar = [] ∧ r.dropWhile isBareKeyChar = r := by
        cases r with
        | nil => exact ⟨rfl, rfl⟩
        | cons d u => simp [hr d u rfl]
      refine readSimpleKey_iff.mpr ⟨c, u ++ r, rfl, .inr ⟨?_, hc, ?_, ?_⟩⟩
      · rintro (rfl | rfl) <;> cases hc
      · rw [← List.cons_append, List.takeWhile_append_of_pos h, hstop.1, List.append_nil]
      · rw [← List.cons_append, List.dropWhile_append_of_pos h, hstop.2]
  | @basic cs t h =>
      rw [List.cons_append, List.append_assoc, List.singleton_append]
      exact readSimpleKey_iff.mpr ⟨'"', _, rfl, .inl ⟨.inl rfl,
        readQuoted_iff.mpr ⟨_, cs, rfl, .inl ⟨rfl, h.reads r⟩⟩⟩⟩
  | @literal cs h =>
      rw [List.cons_append, List.append_assoc, List.singleton_append]
      exact readSimpleKey_iff.mpr ⟨'\'', _, rfl, .inl ⟨.inr rfl,
        readQuoted_iff.mpr ⟨_, cs, rfl, .inr ⟨rfl, h.reads r⟩⟩⟩⟩

theorem isSolid_not_blank (h : isSolid c = true) : isBlank c = false := by
  simp only [isSolid, Bool.not_eq_true', Bool.or_eq_false_iff] at h
  exact h.1.1.1

theorem skipBlanks_solid (hb : Blanks b) (hc : isSolid c = true) (t : List Char) :
    skipBlanks (b ++ c :: t) = c :: t := by
  rw [skipBlanks_append hb, skipBlanks_of_not_blank (isSolid_not_blank hc)]

theorem isBareKeyChar_blank (h : isBlank c = true) : isBareKeyChar c = false := by
  rcases isBlank_iff.mp h with rfl | rfl <;> rfl

/-- A part of a key ends where blanks and a mark follow it. -/
theorem Blanks.not_bare (hb : Blanks b) (hc : isBareKeyChar c = false) :
    ∀ d u, b ++ c :: t = d :: u → isBareKeyChar d = false := by
  intro d u hdu
  cases b with
  | nil => exact (List.cons.inj hdu).1 ▸ hc
  | cons e b =>
      exact (List.cons.inj hdu).1 ▸ isBareKeyChar_blank (hb e (List.mem_cons_self ..))

/-- Keys are read up to the mark that follows them. -/
theorem KeyText.reads (h : KeyText k s) {parts : Nat} (hparts : k.path.length < parts)
    (hc : c = '=' ∨ c = ']') (r : List Char) :
    Reader.Reads (readKey parts) (s ++ c :: r) k (c :: r) := by
  have hmark : isBareKeyChar c = false ∧ isSolid c = true ∧ c ≠ '.' := by
    rcases hc with rfl | rfl <;> decide
  obtain ⟨hbare, hsolid, hdot⟩ := hmark
  induction h generalizing parts with
  | @last x b b' t hb hx hb' =>
      obtain ⟨parts, rfl⟩ : ∃ n, parts = n + 1 := ⟨parts - 1, (Nat.succ_pred_eq_of_pos hparts).symm⟩
      have hread := hx.reads (r := b' ++ c :: r) (hb'.not_bare hbare)
      obtain ⟨d, u, rfl, hd, -⟩ := hx.cons
      have hend := skipBlanks_solid hb' hsolid r
      rw [List.append_assoc, List.append_assoc]
      refine readKey_iff.mpr ⟨x, b' ++ c :: r, ?_, .inr ⟨?_, hend, rfl⟩⟩
      · rw [List.cons_append, skipBlanks_solid hb hd, ← List.cons_append]
        exact hread
      · rw [hend]
        rintro v hv
        exact hdot (List.cons.inj hv).1
  | @dotted x k b b' t u hb hx hb' h ih =>
      obtain ⟨parts, rfl⟩ : ∃ n, parts = n + 1 :=
        ⟨parts - 1, (Nat.succ_pred_eq_of_pos (Nat.zero_lt_of_lt hparts)).symm⟩
      have hlater := ih (Nat.lt_of_succ_lt_succ hparts)
      have hread := hx.reads (r := b' ++ '.' :: (u ++ c :: r)) (hb'.not_bare rfl)
      obtain ⟨d, v, rfl, hd, -⟩ := hx.cons
      simp only [List.append_assoc, List.cons_append]
      refine readKey_iff.mpr ⟨x, b' ++ '.' :: (u ++ c :: r), ?_,
        .inl ⟨u ++ c :: r, k, skipBlanks_solid hb' rfl _, hlater, rfl⟩⟩
      rw [skipBlanks_solid hb hd, ← List.cons_append]
      exact hread

/-- The blanks before a key may be left out. -/
theorem KeyText.trim (h : KeyText k s) :
    ∃ b c u, Blanks b ∧ s = b ++ c :: u ∧ KeyText k (c :: u) ∧ StartsKey c := by
  cases h with
  | last hb hx hb' =>
      obtain ⟨c, u, rfl, hc⟩ := hx.cons
      exact ⟨_, c, _, hb, rfl, .last .nil hx hb', hc⟩
  | dotted hb hx hb' h =>
      obtain ⟨c, u, rfl, hc⟩ := hx.cons
      exact ⟨_, c, _, hb, rfl, .dotted .nil hx hb' h, hc⟩

theorem KeyText.reads_entry (h : KeyText k s) (hshort : k.IsShort) (r : List Char) :
    Reader.Reads readEntryKey (s ++ '=' :: r) k r :=
  readEntryKey_iff.mpr (h.reads hshort (.inl rfl) r)

end Keys

/-! ## Values -/

/-- How a value may be written without brackets. -/
inductive PlainText : Value → List Char → Prop where
  | string {x : String} {t : List Char} (h : StringText x.toList t) : PlainText (.text x) t
  | word {v : Value} {t : List Char} (h : WordText v t) : PlainText v t

section Nested

variable (Inner : Value → List Char → Prop)

/-- The items of a list and its closing bracket. A comma may follow the last item. -/
inductive ItemsText : List Value → List Char → Prop where
  | close {f : List Char} (hf : Filler f) : ItemsText [] (f ++ [']'])
  | last {v : Value} {f f' t : List Char} (hf : Filler f) (hv : Inner v t) (hf' : Filler f') :
      ItemsText [v] (f ++ (t ++ (f' ++ [']'])))
  | more {v : Value} {vs : List Value} {f f' t u : List Char} (hf : Filler f) (hv : Inner v t)
      (hf' : Filler f') (h : ItemsText vs u) : ItemsText (v :: vs) (f ++ (t ++ (f' ++ ',' :: u)))

/-- The entries of a table in braces and its closing brace. A comma may follow the last
entry. -/
inductive EntriesText : List (Key × Value) → List Char → Prop where
  | close {f : List Char} (hf : Filler f) : EntriesText [] (f ++ ['\x7d'])
  | last {k : Key} {v : Value} {f s b t f' : List Char} (hf : Filler f) (hk : KeyText k s)
      (hshort : k.IsShort) (hb : Blanks b) (hv : Inner v t) (hf' : Filler f') :
      EntriesText [(k, v)] (f ++ (s ++ '=' :: (b ++ (t ++ (f' ++ ['\x7d'])))))
  | more {k : Key} {v : Value} {es : List (Key × Value)} {f s b t f' u : List Char} (hf : Filler f)
      (hk : KeyText k s) (hshort : k.IsShort) (hb : Blanks b) (hv : Inner v t) (hf' : Filler f')
      (h : EntriesText es u) :
      EntriesText ((k, v) :: es) (f ++ (s ++ '=' :: (b ++ (t ++ (f' ++ ',' :: u)))))

/-- The statements that entries are. -/
def entries (es : List (Key × Value)) : List Statement := es.map fun e => .entry e.1 e.2

/-- The table that entries make if they go together. -/
def tableOf (es : List (Key × Value)) : Value :=
  .table .closed ((addStatements [] (entries es) []).getD [])

/-- How lists and tables may be written. -/
inductive NestedText : Value → List Char → Prop where
  | list {vs : List Value} {t : List Char} (h : ItemsText Inner vs t) :
      NestedText (.list vs) ('[' :: t)
  | table {es : List (Key × Value)} {t : List Char} (h : EntriesText Inner es t)
      (hes : Coherent (entries es)) : NestedText (tableOf es) ('\x7b' :: t)

end Nested

/-- How a value may be written in which lists and tables are nested so deep. -/
def ValueText : Nat → Value → List Char → Prop
  | 0, v, t => PlainText v t
  | depth + 1, v, t => PlainText v t ∨ NestedText (ValueText depth) v t

section Values

variable {v : Value} {vs : List Value} {es : List (Key × Value)} {depth : Nat}

theorem WordText.sealed (h : WordText v t) : v.IsSealed := by cases h <;> rfl

theorem ValueText.sealed (h : ValueText depth v t) : v.IsSealed := by
  have hplain : ∀ {v t}, PlainText v t → v.IsSealed := by
    intro v t h
    cases h with
    | string => rfl
    | word h => exact h.sealed
  cases depth with
  | zero => exact hplain h
  | succ depth =>
      rcases h with h | h
      · exact hplain h
      · cases h <;> rfl

/-- A character that starts a value. -/
def StartsValue (c : Char) : Prop := isSolid c = true ∧ c ∉ [',', ']', '\x7d']

/-- Texts of values start like values and are read as them, whatever delimits them. -/
structure ReadBy (item : Reader Value) (Inner : Value → List Char → Prop) : Prop where
  cons : ∀ {v t}, Inner v t → ∃ c u, t = c :: u ∧ StartsValue c
  reads : ∀ {v t r}, Inner v t → Delimited r → Reader.Reads item (t ++ r) v r

theorem isWordChar_startsValue (h : isWordChar c = true) : StartsValue c := by
  have hnot : ∀ d, isWordChar d = false → c ≠ d := by
    rintro d hd rfl
    cases h.symm.trans hd
  have hblank : isBlank c = false := by
    simp [isBlank, hnot ' ' rfl, hnot '\t' rfl]
  refine ⟨by simp [isSolid, hblank, hnot '\n' rfl, hnot '\r' rfl, hnot '#' rfl], ?_⟩
  simp [hnot ',' rfl, hnot ']' rfl, hnot '\x7d' rfl]

theorem StringText.cons {cs : List Char} (h : StringText cs t) :
    ∃ c u, t = c :: u ∧ (c = '"' ∨ c = '\'') := by
  cases h
  all_goals first | exact ⟨_, _, rfl, .inl rfl⟩ | exact ⟨_, _, rfl, .inr rfl⟩

theorem Delimited.not_quote (h : Delimited r) : ∀ c u, r = c :: u → c ≠ '"' ∧ c ≠ '\'' := by
  rintro c u rfl
  have hquote : ∀ c ∈ [' ', '\t', '\n', '\r', '#', ',', ']', '\x7d'], c ≠ '"' ∧ c ≠ '\'' := by
    simp
  exact hquote c h.head

theorem PlainText.readBy (depth : Nat) : ReadBy (readValue depth) PlainText where
  cons := by
    intro v t h
    cases h with
    | string h =>
        obtain ⟨c, u, rfl, rfl | rfl⟩ := h.cons
        · exact ⟨_, u, rfl, rfl, by decide⟩
        · exact ⟨_, u, rfl, rfl, by decide⟩
    | word h =>
        obtain ⟨c, u, rfl, hc⟩ := h.cons
        exact ⟨c, u, rfl, isWordChar_startsValue hc⟩
  reads := by
    intro v t r h hr
    cases h with
    | @string x _ h =>
        have hread := h.reads hr.not_quote
        rw [String.ofList_toList] at hread
        obtain ⟨c, u, rfl, hc⟩ := h.cons
        exact readValue_iff.mpr ⟨c, u ++ r, rfl, .inl ⟨hc, x, hread, rfl⟩⟩
    | word h =>
        have hread := h.reads hr
        obtain ⟨c, u, rfl, hc⟩ := h.cons
        have hnot : ∀ d, isWordChar d = false → c ≠ d := by
          rintro d hd rfl
          cases hc.symm.trans hd
        exact readValue_iff.mpr ⟨c, u ++ r, rfl, .inr (.inr (.inr
          ⟨⟨hnot '"' rfl, hnot '\'' rfl, hnot '[' rfl, hnot '\x7b' rfl⟩, hread⟩))⟩

variable {item : Reader Value} {Inner : Value → List Char → Prop}

theorem Filler.skip_mark (hf : Filler f) (hc : c ∈ [',', ']', '\x7d']) (t : List Char) :
    skipFiller false (f ++ c :: t) = some (c :: t) ∧ Delimited (f ++ c :: t) := by
  have hmark : ∀ c ∈ [',', ']', '\x7d'],
      isSolid c = true ∧ c ∈ ['\n', '\r', '#', ',', ']', '\x7d'] := by
    simp [isSolid, isBlank]
  exact ⟨hf.skip_solid (hmark c hc).1 t, hf.delimited (.of_not_blank (hmark c hc).2 t)⟩

/-- Items are read one after the other. -/
theorem ItemsText.reads (hitem : ReadBy item Inner) (h : ItemsText Inner vs s) (r : List Char) :
    Reader.Reads (readItems item) (s ++ r) vs r := by
  induction h with
  | close hf =>
      rw [List.append_assoc]
      exact readItems_iff.mpr ⟨']', r, (hf.skip_mark (by simp) r).1, .inl ⟨rfl, rfl, rfl⟩⟩
  | @last v f f' t hf hv hf' =>
      obtain ⟨hskip, hdelimited⟩ := hf'.skip_mark (c := ']') (by simp) r
      have hread := hitem.reads hv hdelimited
      obtain ⟨c, u, rfl, hsolid, hc⟩ := hitem.cons hv
      simp only [List.append_assoc, List.cons_append, List.nil_append]
      refine readItems_iff.mpr ⟨c, _, hf.skip_solid hsolid _, .inr ⟨?_, v, _, _, _, hread, hskip,
        .inl ⟨rfl, rfl, rfl⟩⟩⟩
      rintro rfl
      exact hc (by simp)
  | @more v vs f f' t u hf hv hf' h ih =>
      obtain ⟨hskip, hdelimited⟩ := hf'.skip_mark (c := ',') (by simp) (u ++ r)
      have hread := hitem.reads hv hdelimited
      obtain ⟨c, w, rfl, hsolid, hc⟩ := hitem.cons hv
      simp only [List.append_assoc, List.cons_append]
      refine readItems_iff.mpr ⟨c, _, hf.skip_solid hsolid _, .inr ⟨?_, v, _, _, _, hread, hskip,
        .inr ⟨rfl, vs, ih, rfl⟩⟩⟩
      rintro rfl
      exact hc (by simp)

/-- A key and the value behind it, up to the mark that follows. -/
theorem KeyText.reads_value (hitem : ReadBy item Inner) {k : Key} (hk : KeyText k s)
    (hshort : k.IsShort) (hb : Blanks b) (hv : Inner v t) (hr : Delimited r) :
    ∃ b' c u w, Blanks b' ∧ s = b' ++ c :: u ∧ StartsKey c
      ∧ Reader.Reads readEntryKey (c :: (u ++ '=' :: (b ++ (t ++ r)))) k w
      ∧ Reader.Reads item (skipBlanks w) v r := by
  have hread := hitem.reads hv hr
  obtain ⟨d, v', rfl, hsolid, -⟩ := hitem.cons hv
  obtain ⟨b', c, u, hb', rfl, hkey, hc⟩ := hk.trim
  refine ⟨b', c, u, b ++ (d :: v' ++ r), hb', rfl, hc, hkey.reads_entry hshort _, ?_⟩
  rw [List.cons_append, skipBlanks_solid hb hsolid, ← List.cons_append]
  exact hread

theorem addStatements_entry (k : Key) (v : Value) (sts : List Statement) (ms : Members) :
    addStatements [] (.entry k v :: sts) ms =
      (ms.addEntry k.path k.last v).bind (addStatements [] sts) :=
  rfl

/-- Entries are read one after the other if they go together. -/
theorem EntriesText.reads (hitem : ReadBy item Inner) (h : EntriesText Inner es s)
    {ms ms' : Members} (hms : addStatements [] (entries es) ms = some ms') (r : List Char) :
    Reader.Reads (readEntries item ms) (s ++ r) ms' r := by
  induction h generalizing ms with
  | close hf =>
      cases hms
      rw [List.append_assoc]
      exact readEntries_iff.mpr ⟨'\x7d', r, (hf.skip_mark (by simp) r).1, .inl ⟨rfl, rfl, rfl⟩⟩
  | @last k v f s b t f' hf hk hshort hb hv hf' =>
      obtain ⟨hskip, hdelimited⟩ := hf'.skip_mark (c := '\x7d') (by simp) r
      obtain ⟨b', c, u, w, hb', rfl, ⟨hsolid, hc⟩, hkey, hvalue⟩ :=
        hk.reads_value hitem hshort hb hv hdelimited
      obtain ⟨ms₁, hms₁, hrest⟩ := Option.bind_eq_some_iff.mp
        ((addStatements_entry k v [] ms).symm.trans hms)
      cases hrest
      have hstart := (hf.skip _).trans (hb'.filler.skip_solid hsolid
        (u ++ '=' :: (b ++ (t ++ (f' ++ '\x7d' :: r)))))
      simp only [List.append_assoc, List.cons_append, List.nil_append]
      refine readEntries_iff.mpr ⟨c, _, hstart, .inr ⟨?_, k, w, v, _, ms', _, _, hkey, hvalue, hms₁,
        hskip, .inl ⟨rfl, rfl, rfl⟩⟩⟩
      rintro rfl
      exact hc (by simp)
  | @more k v es f s b t f' u' hf hk hshort hb hv hf' h ih =>
      obtain ⟨hskip, hdelimited⟩ := hf'.skip_mark (c := ',') (by simp) (u' ++ r)
      obtain ⟨b', c, u, w, hb', rfl, ⟨hsolid, hc⟩, hkey, hvalue⟩ :=
        hk.reads_value hitem hshort hb hv hdelimited
      obtain ⟨ms₁, hms₁, hrest⟩ := Option.bind_eq_some_iff.mp
        ((addStatements_entry k v (entries es) ms).symm.trans hms)
      have hstart := (hf.skip _).trans (hb'.filler.skip_solid hsolid
        (u ++ '=' :: (b ++ (t ++ (f' ++ ',' :: (u' ++ r))))))
      simp only [List.append_assoc, List.cons_append]
      refine readEntries_iff.mpr ⟨c, _, hstart, .inr ⟨?_, k, w, v, _, ms₁, _, _, hkey, hvalue, hms₁,
        hskip, .inr ⟨rfl, ih hrest⟩⟩⟩
      rintro rfl
      exact hc (by simp)

theorem EntriesText.sealed (h : EntriesText Inner es s) (hInner : ∀ v t, Inner v t → v.IsSealed) :
    ∀ st ∈ entries es, st.IsSealed := by
  induction h with
  | close => exact nofun
  | last _ _ _ _ hv => exact List.forall_mem_singleton.mpr (hInner _ _ hv)
  | more _ _ _ _ hv _ _ ih => exact List.forall_mem_cons.mpr ⟨hInner _ _ hv, ih⟩

/-- **Values are read** as what they were written for, whatever delimits them. -/
theorem ValueText.reads (depth : Nat) : ReadBy (readValue depth) (ValueText depth) := by
  induction depth with
  | zero => exact PlainText.readBy 0
  | succ depth ih =>
      constructor
      · rintro v t (h | h)
        · exact (PlainText.readBy 0).cons h
        · cases h with
          | list => exact ⟨'[', _, rfl, rfl, by decide⟩
          | table => exact ⟨'\x7b', _, rfl, rfl, by decide⟩
      · rintro v t r (h | h) hr
        · exact (PlainText.readBy (depth + 1)).reads h hr
        · cases h with
          | @list vs t h =>
              exact readValue_iff.mpr ⟨'[', t ++ r, rfl,
                .inr (.inl ⟨rfl, depth, vs, rfl, h.reads ih r, rfl⟩)⟩
          | @table es t h hes =>
              obtain ⟨ms, hms⟩ := hes.addStatements (h.sealed fun _ _ => ValueText.sealed)
              refine readValue_iff.mpr ⟨'\x7b', t ++ r, rfl,
                .inr (.inr (.inl ⟨rfl, depth, ms, rfl, h.reads ih hms r, ?_⟩))⟩
              rw [tableOf, hms]
              rfl

end Values

/-! ## Lines -/

/-- How a statement may be written, the blanks before a key included. -/
inductive StatementText : Statement → List Char → Prop where
  | table {k : Key} {t : List Char} (hk : KeyText k t) (hshort : k.IsShort) :
      StatementText (.table k) ('[' :: (t ++ [']']))
  | element {k : Key} {t : List Char} (hk : KeyText k t) (hshort : k.IsShort) :
      StatementText (.element k) ('[' :: '[' :: (t ++ [']', ']']))
  | entry {k : Key} {v : Value} {s b t : List Char} (hk : KeyText k s) (hshort : k.IsShort)
      (hb : Blanks b) (hv : ValueText maxDepth v t) :
      StatementText (.entry k v) (s ++ '=' :: (b ++ t))

/-- A line of a document and the statement in it, if there is one. -/
inductive LineText (last : Bool) : List Statement → List Char → Prop where
  | empty {e : List Char} (he : Closing last e) : LineText last [] e
  | statement {st : Statement} {b t e : List Char} (hb : Blanks b) (h : StatementText st t)
      (he : Closing last e) : LineText last [st] (b ++ (t ++ e))

section Lines

variable {st : Statement} {sts : List Statement} {last : Bool}

theorem StatementText.sealed (h : StatementText st t) : st.IsSealed := by
  cases h with
  | table => trivial
  | element => trivial
  | entry _ _ _ hv => exact hv.sealed

theorem LineText.sealed (h : LineText last sts t) : ∀ st ∈ sts, st.IsSealed := by
  cases h with
  | empty => exact nofun
  | statement _ h => exact List.forall_mem_singleton.mpr h.sealed

/-- A statement is read wherever its line starts, up to what closes the line. -/
theorem StatementText.reads (h : StatementText st t) (hr : Delimited r) (hb : Blanks b) :
    ∃ u, skipFiller false (b ++ (t ++ r)) = some u ∧ Reader.Reads readStatement u st r := by
  cases h with
  | @table k t hk hshort =>
      have hread := hk.reads hshort (.inr rfl) r
      simp only [List.cons_append, List.append_assoc, List.nil_append]
      refine ⟨_, hb.filler.skip_solid rfl _,
        readStatement_iff.mpr (.inr (.inl ⟨_, k, rfl, ?_, hread, rfl⟩))⟩
      -- two brackets would be the start of a list of tables
      obtain ⟨b', c, u, hb', rfl, -, -, hc⟩ := hk.trim
      intro hhead
      cases b' with
      | nil =>
          cases hhead
          exact hc (by simp)
      | cons d b' =>
          cases hhead
          cases hb' '[' (List.mem_cons_self ..)
  | @element k t hk hshort =>
      have hread := hk.reads hshort (.inr rfl) (']' :: r)
      simp only [List.cons_append, List.append_assoc, List.nil_append]
      exact ⟨_, hb.filler.skip_solid rfl _, readStatement_iff.mpr (.inl ⟨_, k, rfl, hread, rfl⟩)⟩
  | @entry k v s b' t hk hshort hb' hv =>
      obtain ⟨b₀, c, u, w, hb₀, rfl, ⟨hsolid, hc⟩, hkey, hvalue⟩ :=
        hk.reads_value (ValueText.reads maxDepth) hshort hb' hv hr
      have hstart : skipFiller false (b ++ (b₀ ++ c :: u ++ '=' :: (b' ++ t) ++ r)) =
          some (c :: (u ++ '=' :: (b' ++ (t ++ r)))) := by
        simp only [List.append_assoc, List.cons_append]
        exact (hb.filler.skip _).trans (hb₀.filler.skip_solid hsolid _)
      refine ⟨_, hstart, readStatement_iff.mpr (.inr (.inr ⟨?_, k, w, v, hkey, hvalue, rfl⟩))⟩
      intro hhead
      cases hhead
      exact hc (by simp)

/-- **Lines are read** one after the other. -/
theorem LineText.reads (h : LineText last sts t) (hr : last = true → r = []) :
    readStatements (t ++ r) = (readStatements r).map (sts ++ ·) := by
  cases h with
  | empty he =>
      rw [readStatements_congr (he.skipFiller hr)]
      exact Option.map_id'.symm
  | @statement st b t e hb h he =>
      obtain ⟨u, hu, hread⟩ := h.reads (he.delimited hr) hb
      rw [List.append_assoc, List.append_assoc,
        readStatements_of_statement hu hread (he.endsLine hr),
        readStatements_congr (he.skipFiller hr)]
      rfl

end Lines

/-! ## Usual texts -/

section Usual

variable {v : Value} {last : Bool} {key : String}

theorem PlainText.valueText (h : PlainText v t) (depth : Nat) : ValueText depth v t := by
  cases depth with
  | zero => exact h
  | succ depth => exact .inl h

theorem plainText_quoted (x : String) : PlainText (.text x) (quoted x) :=
  .string (.basic (basicText_text x.toList))

theorem plainText_digits (n : Nat) : PlainText (.integer n) (Decimal.digits n) := by
  have h := IntegerText.decimal .absent (wholeText_digits n)
  rw [Decimal.value_digits] at h
  exact .word (.integer h)

/-- A key that needs no quotes. -/
structure BareKey (key : List Char) : Prop where
  nonempty : key ≠ []
  chars : ∀ c ∈ key, isBareKeyChar c = true

theorem BareKey.keyText (h : BareKey key.toList) (hb : Blanks b) :
    KeyText ⟨[], key⟩ (key.toList ++ b) := by
  have hpart := PartText.bare h.nonempty h.chars
  rw [String.ofList_toList] at hpart
  exact .last .nil hpart hb

theorem isShort_single (key : String) : Key.IsShort ⟨[], key⟩ := Nat.zero_lt_succ 79

theorem closing_newline (last : Bool) : Closing last ['\n'] := .line .nil (.inl rfl) .feed

/-- The usual text of an entry. -/
def entryText (key : String) (t e : List Char) : List Char :=
  key.toList ++ ' ' :: '=' :: ' ' :: (t ++ e)

theorem lineText_entry (hkey : BareKey key.toList) (hv : ValueText maxDepth v t)
    (he : Closing last u) : LineText last [.entry ⟨[], key⟩ v] (entryText key t u) := by
  have h := LineText.statement .nil
    (.entry (hkey.keyText .space) (isShort_single key) .space hv) he
  simpa only [entryText, List.nil_append, List.append_assoc, List.cons_append] using h

/-- The usual text of a header. -/
def headerText (table : String) : List Char := '[' :: (table.toList ++ [']', '\n'])

theorem lineText_header (hkey : BareKey key.toList) (last : Bool) :
    LineText last [.table ⟨[], key⟩] (headerText key) := by
  have h := LineText.statement .nil
    (.table (hkey.keyText .nil) (isShort_single key)) (closing_newline last)
  simpa only [headerText, List.nil_append, List.append_nil, List.append_assoc, List.cons_append]
    using h

end Usual

end GraphCourier.Toml
