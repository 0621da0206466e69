import GraphCourier.Toml.Lexical

/-!
# Lines and what stands between

Between the parts of a TOML document there may be blanks, line breaks and comments
(`Filler`), and behind a statement blanks and a comment up to the end of its line
(`Closing`). This is told without a reader. What a reader makes of it is nothing at all:
it goes on behind the filler (`Filler.skip`), and a statement ends where its line does
(`Closing.endsLine`).
-/

namespace GraphCourier.Toml

variable {α : Type} {s t u r f : List Char} {c : Char}

/-! ## Readers -/

/-- A reader makes `x` of the front of a text and leaves `r`. -/
def Reader.Reads (reader : Reader α) (s : List Char) (x : α) (r : List Char) : Prop :=
  ∃ h, reader s = some ⟨x, r, h⟩

theorem Reader.Reads.of_some {reader : Reader α} {p : Parsed α s} (h : reader s = some p) :
    reader.Reads s p.value p.rest :=
  ⟨p.shorter, h⟩

/-! ## Blanks -/

def Blanks (s : List Char) : Prop := ∀ c ∈ s, isBlank c = true

theorem Blanks.nil : Blanks [] := List.forall_mem_nil _

theorem Blanks.space : Blanks [' '] := List.forall_mem_singleton.mpr rfl

theorem isBlank_iff : isBlank c = true ↔ c = ' ' ∨ c = '\t' := by simp [isBlank]

theorem skipBlanks_append (hs : Blanks s) (t : List Char) : skipBlanks (s ++ t) = skipBlanks t :=
  List.dropWhile_append_of_pos hs

theorem skipBlanks_of_not_blank (hc : isBlank c = false) (t : List Char) :
    skipBlanks (c :: t) = c :: t := by
  rw [skipBlanks, List.dropWhile_cons, if_neg (Bool.eq_false_iff.mp hc)]

/-! ## Line breaks and comments -/

/-- The end of a line. -/
inductive LineBreak : List Char → Prop where
  | feed : LineBreak ['\n']
  | returnFeed : LineBreak ['\r', '\n']

/-- A comment, up to the end of its line. -/
inductive Comment : List Char → Prop where
  | mk {cs : List Char} (h : ∀ c ∈ cs, isControl c = false) : Comment ('#' :: cs)

/-- Blanks, line breaks and comments. -/
inductive Filler : List Char → Prop where
  | nil : Filler []
  | blank {c : Char} {t : List Char} (hc : isBlank c = true) (h : Filler t) : Filler (c :: t)
  | lineBreak {e t : List Char} (he : LineBreak e) (h : Filler t) : Filler (e ++ t)
  | comment {cs e t : List Char} (hcs : Comment cs) (he : LineBreak e) (h : Filler t) :
    Filler (cs ++ (e ++ t))

theorem Blanks.filler (h : Blanks s) : Filler s := by
  induction s with
  | nil => exact .nil
  | cons c s ih =>
      obtain ⟨hc, hs⟩ := List.forall_mem_cons.mp h
      exact .blank hc (ih hs)

theorem LineBreak.skipFiller (h : LineBreak s) (comment : Bool) (t : List Char) :
    skipFiller comment (s ++ t) = skipFiller false t := by
  cases h with
  | feed => rw [List.singleton_append, Toml.skipFiller, if_pos rfl]
  | returnFeed =>
      have hnext : ('\n' :: t).head? = some '\n' := rfl
      rw [List.cons_append, List.singleton_append, Toml.skipFiller, if_neg (by decide), if_pos rfl,
        if_pos hnext, Toml.skipFiller, if_pos rfl]

theorem skipFiller_blank (hc : isBlank c = true) (t : List Char) :
    skipFiller false (c :: t) = skipFiller false t := by
  have hline : c ≠ '\n' ∧ c ≠ '\r' := by
    constructor
    all_goals
      rintro rfl
      cases hc
  rw [skipFiller, if_neg hline.1, if_neg hline.2, if_neg Bool.false_ne_true, if_pos hc]

theorem Comment.skipFiller (h : Comment s) (t : List Char) :
    skipFiller false (s ++ t) = skipFiller true t := by
  obtain ⟨hcs⟩ := h
  rename_i cs
  have hinside : Toml.skipFiller true (cs ++ t) = Toml.skipFiller true t := by
    induction cs with
    | nil => rfl
    | cons c cs ih =>
        obtain ⟨hc, hcs⟩ := List.forall_mem_cons.mp hcs
        have hline : c ≠ '\n' ∧ c ≠ '\r' := by
          constructor
          all_goals
            rintro rfl
            cases hc
        rw [List.cons_append, Toml.skipFiller, if_neg hline.1, if_neg hline.2, if_pos rfl,
          if_neg (Bool.eq_false_iff.mp hc)]
        exact ih hcs
  exact hinside

/-- Readers go on behind filler. -/
theorem Filler.skip (h : Filler f) (s : List Char) :
    skipFiller false (f ++ s) = skipFiller false s := by
  induction h with
  | nil => rfl
  | blank hc _ ih => exact (skipFiller_blank hc _).trans ih
  | lineBreak he _ ih => rw [List.append_assoc, he.skipFiller, ih]
  | comment hcs he _ ih =>
      rw [List.append_assoc, List.append_assoc, hcs.skipFiller, he.skipFiller, ih]

/-- A character that filler does not start with. -/
def isSolid (c : Char) : Bool := !(isBlank c || c = '\n' || c = '\r' || c = '#')

theorem skipFiller_solid (hc : isSolid c = true) (t : List Char) :
    skipFiller false (c :: t) = some (c :: t) := by
  simp only [isSolid, Bool.not_eq_true', Bool.or_eq_false_iff, decide_eq_false_iff_not] at hc
  obtain ⟨⟨⟨hblank, hfeed⟩, hreturn⟩, hmark⟩ := hc
  rw [skipFiller, if_neg hfeed, if_neg hreturn, if_neg Bool.false_ne_true,
    if_neg (Bool.eq_false_iff.mp hblank), if_neg hmark]

theorem Filler.skip_solid (h : Filler f) (hc : isSolid c = true) (t : List Char) :
    skipFiller false (f ++ c :: t) = some (c :: t) :=
  (h.skip _).trans (skipFiller_solid hc t)

/-! ## Ends of lines -/

/-- What may stand behind a statement: blanks, perhaps a comment, and a line break. In
the last line of all there need not be one. -/
inductive Closing : (last : Bool) → List Char → Prop where
  | line {last : Bool} {b cs e : List Char} (hb : Blanks b) (hcs : cs = [] ∨ Comment cs)
    (he : LineBreak e) : Closing last (b ++ (cs ++ e))
  | text {b cs : List Char} (hb : Blanks b) (hcs : cs = [] ∨ Comment cs) : Closing true (b ++ cs)

variable {last : Bool} {e : List Char}

/-- A statement ends with its line. -/
theorem Closing.endsLine (h : Closing last e) (hr : last = true → r = []) :
    endsLine (e ++ r) = true := by
  cases h with
  | line hb hcs he =>
      rw [Toml.endsLine, List.append_assoc, skipBlanks_append hb]
      obtain rfl | hcs := hcs
      · cases he <;> rfl
      · cases hcs
        rfl
  | text hb hcs =>
      rw [hr rfl, List.append_nil, Toml.endsLine, skipBlanks_append hb]
      obtain rfl | hcs := hcs
      · rfl
      · cases hcs
        rfl

/-- The next statement is looked for behind the line. -/
theorem Closing.skipFiller (h : Closing last e) (hr : last = true → r = []) :
    skipFiller false (e ++ r) = skipFiller false r := by
  cases h with
  | line hb hcs he =>
      rw [List.append_assoc, hb.filler.skip]
      obtain rfl | hcs := hcs
      · exact he.skipFiller false r
      · rw [List.append_assoc, hcs.skipFiller, he.skipFiller]
  | text hb hcs =>
      rw [hr rfl, List.append_nil, hb.filler.skip]
      obtain rfl | hcs := hcs
      · rfl
      · have hend := hcs.skipFiller []
        rw [List.append_nil] at hend
        exact hend

/-! ## Ends of values -/

/-- What may stand behind a value: blanks, and then something that ends a line, an item
or what the item is in, or nothing. -/
def Delimited (s : List Char) : Prop :=
  ∀ c t, skipBlanks s = c :: t → c ∈ ['\n', '\r', '#', ',', ']', '\x7d']

theorem Delimited.of_not_blank (hc : c ∈ ['\n', '\r', '#', ',', ']', '\x7d']) (t : List Char) :
    Delimited (c :: t) := by
  have hblank : ∀ d ∈ ['\n', '\r', '#', ',', ']', '\x7d'], isBlank d = false := by
    simp [isBlank]
  intro d u h
  rw [skipBlanks_of_not_blank (hblank c hc)] at h
  rwa [← (List.cons.inj h).1]

theorem Delimited.blank (hc : isBlank c = true) (h : Delimited t) : Delimited (c :: t) := by
  intro d u hd
  rw [skipBlanks, List.dropWhile_cons, if_pos hc] at hd
  exact h d u hd

/-- Values are delimited by filler as well as by what follows it. -/
theorem Filler.delimited (h : Filler f) (hs : Delimited s) : Delimited (f ++ s) := by
  induction h with
  | nil => exact hs
  | blank hc _ ih => exact .blank hc ih
  | lineBreak he _ _ => cases he <;> exact .of_not_blank (by decide) _
  | comment hcs _ _ _ =>
      obtain ⟨hcs⟩ := hcs
      exact .of_not_blank (by decide) _

theorem Closing.delimited (h : Closing last e) (hr : last = true → r = []) :
    Delimited (e ++ r) := by
  have hline := h.endsLine hr
  intro c t hs
  unfold Toml.endsLine at hline
  split at hline
  · rename_i hnil
    cases hnil.symm.trans hs
  · rename_i hcons
    cases hcons.symm.trans hs
    decide
  · rename_i hcons
    cases hcons.symm.trans hs
    decide
  · rename_i hcons
    cases hcons.symm.trans hs
    decide
  · cases hline

/-- No value goes on behind its end. -/
theorem Delimited.head (h : Delimited (c :: t)) :
    c ∈ [' ', '\t', '\n', '\r', '#', ',', ']', '\x7d'] := by
  by_cases hc : isBlank c = true
  · rcases isBlank_iff.mp hc with rfl | rfl <;> decide
  · have hmem := h c t (skipBlanks_of_not_blank (Bool.not_eq_true _ ▸ hc) t)
    exact List.mem_cons_of_mem _ (List.mem_cons_of_mem _ hmem)

theorem Delimited.tail (h : Delimited (c :: t)) (hc : isBlank c = true) : Delimited t := by
  intro d u hd
  refine h d u ?_
  rwa [skipBlanks, List.dropWhile_cons, if_pos hc]

end GraphCourier.Toml
