import GraphCourier.Toml.Quotation
import GraphCourier.Proofs.TomlLines

/-!
# Strings and how they are written

There are four ways to write a string in TOML, and all of them are told here without a
reader: characters stand for themselves or are escaped, and strings over several lines
are made of pieces with at most two quotes in a row between them (`StringText`). For
each reader there is first what it may read (`readBasic_iff` and the like). From that it
follows that every text that is told here is read as the string it was written for
(`StringText.reads`).
-/

namespace GraphCourier.Toml

variable {s t u r : List Char} {c : Char}

/-! ## Escapes -/

theorem readCode_eq {count n : Nat} {x : Char} (hread : readHex count 0 t = some (n, r))
    (hx : scalar? n = some x) (c : Char) :
    readCode count c t = some ⟨x, r, Nat.lt_succ_of_le (length_readHex_le hread)⟩ := by
  unfold readCode
  split
  · rename_i h
    obtain ⟨rfl, rfl⟩ := Prod.mk.inj (Option.some.inj (hread.symm.trans h))
    rw [hx]
    rfl
  · rename_i h
    cases hread.symm.trans h

theorem readCode_inv {count : Nat} {p : Parsed Char (c :: t)} (h : readCode count c t = some p) :
    ∃ n, readHex count 0 t = some (n, p.rest) ∧ scalar? n = some p.value := by
  unfold readCode at h
  split at h
  · rename_i n r hread
    obtain ⟨x, hx, h⟩ := Option.bind_eq_some_iff.mp h
    cases h
    exact ⟨n, hread, hx⟩
  · cases h

/-- An escape is a letter, or a letter and hexadecimal digits. -/
theorem readEscape_iff {x : Char} :
    Reader.Reads readEscape s x r ↔
      ∃ c t, s = c :: t ∧ (shortEscape? c = some x ∧ r = t
        ∨ shortEscape? c = none ∧ ∃ count n, codeLength? c = some count
          ∧ readHex count 0 t = some (n, r) ∧ scalar? n = some x) := by
  constructor
  · rintro ⟨hlt, h⟩
    cases s with
    | nil => cases h
    | cons c t =>
        refine ⟨c, t, rfl, ?_⟩
        unfold readEscape at h
        dsimp only at h
        split at h
        · rename_i hshort
          cases h
          exact .inl ⟨hshort, rfl⟩
        · rename_i hshort
          obtain ⟨count, hcount, h⟩ := Option.bind_eq_some_iff.mp h
          obtain ⟨n, hread, hx⟩ := readCode_inv h
          exact .inr ⟨hshort, count, n, hcount, hread, hx⟩
  · rintro ⟨c, t, rfl, ⟨hshort, rfl⟩ | ⟨hshort, count, n, hcount, hread, hx⟩⟩
    · refine ⟨length_lt_cons _ _, ?_⟩
      simp only [readEscape, hshort]
      rfl
    · refine ⟨Nat.lt_succ_of_le (length_readHex_le hread), ?_⟩
      simp only [readEscape, hshort, hcount, Option.bind_eq_bind, Option.bind_some,
        readCode_eq hread hx]

/-! ## Strings on one line -/

/-- The forms of a basic string. -/
theorem readBasic_iff {cs : List Char} :
    Reader.Reads readBasic s cs r ↔
      ∃ c t, s = c :: t ∧ (c = '"' ∧ cs = [] ∧ r = t
        ∨ c = '\\' ∧ (∃ x u cs', Reader.Reads readEscape t x u ∧ Reader.Reads readBasic u cs' r
          ∧ cs = x :: cs')
        ∨ (c ≠ '"' ∧ c ≠ '\\' ∧ isControl c = false)
          ∧ ∃ cs', Reader.Reads readBasic t cs' r ∧ cs = c :: cs') := by
  constructor
  · rintro ⟨hlt, h⟩
    cases s with
    | nil => simp [readBasic] at h
    | cons c t =>
        refine ⟨c, t, rfl, ?_⟩
        rw [readBasic] at h
        split at h
        · rename_i hquote
          cases h
          exact .inl ⟨hquote, rfl, rfl⟩
        split at h
        · rename_i hslash
          obtain ⟨p, hp, h⟩ := Option.bind_eq_some_iff.mp h
          obtain ⟨q, hq, h⟩ := Option.bind_eq_some_iff.mp h
          cases h
          exact .inr (.inl ⟨hslash, _, _, _, .of_some hp, (Reader.Reads.of_some hq :), rfl⟩)
        split at h
        · cases h
        · rename_i hquote hslash hcontrol
          obtain ⟨q, hq, h⟩ := Option.bind_eq_some_iff.mp h
          cases h
          exact .inr (.inr ⟨⟨hquote, hslash, by simpa using hcontrol⟩, _,
            (Reader.Reads.of_some hq :), rfl⟩)
  · rintro ⟨c, t, rfl, ⟨rfl, rfl, rfl⟩ | ⟨rfl, x, u, cs', ⟨hu, hx⟩, ⟨hr, hlater⟩, rfl⟩
      | ⟨⟨hquote, hslash, hcontrol⟩, cs', ⟨hr, hlater⟩, rfl⟩⟩
    · refine ⟨length_lt_cons _ _, ?_⟩
      rw [readBasic, if_pos rfl]
      rfl
    · refine ⟨by simp; omega, ?_⟩
      rw [readBasic, if_neg (by decide), if_pos rfl, hx]
      simp only [Option.bind_eq_bind, Option.bind_some, hlater]
      rfl
    · refine ⟨Nat.lt_succ_of_lt hr, ?_⟩
      rw [readBasic, if_neg hquote, if_neg hslash, hcontrol, hlater]
      rfl

theorem readLiteral_iff {cs : List Char} :
    Reader.Reads readLiteral s cs r ↔
      ∃ c t, s = c :: t ∧ (c = '\'' ∧ cs = [] ∧ r = t
        ∨ c ≠ '\'' ∧ isControl c = false ∧ ∃ cs', Reader.Reads readLiteral t cs' r
          ∧ cs = c :: cs') := by
  constructor
  · rintro ⟨hlt, h⟩
    cases s with
    | nil => cases h
    | cons c t =>
        refine ⟨c, t, rfl, ?_⟩
        rw [readLiteral] at h
        split at h
        · rename_i hquote
          cases h
          exact .inl ⟨hquote, rfl, rfl⟩
        split at h
        · cases h
        · rename_i hquote hcontrol
          obtain ⟨q, hq, h⟩ := Option.bind_eq_some_iff.mp h
          cases h
          exact .inr ⟨hquote, by simpa using hcontrol, _, (Reader.Reads.of_some hq :), rfl⟩
  · rintro ⟨c, t, rfl, ⟨rfl, rfl, rfl⟩ | ⟨hquote, hcontrol, cs', ⟨hr, hlater⟩, rfl⟩⟩
    · refine ⟨length_lt_cons _ _, ?_⟩
      rw [readLiteral, if_pos rfl]
      rfl
    · refine ⟨Nat.lt_succ_of_lt hr, ?_⟩
      rw [readLiteral, if_neg hquote, hcontrol, hlater]
      rfl

theorem readQuoted_iff {x : String} :
    Reader.Reads readQuoted s x r ↔
      ∃ t cs, x = String.ofList cs ∧ (s = '"' :: t ∧ Reader.Reads readBasic t cs r
        ∨ s = '\'' :: t ∧ Reader.Reads readLiteral t cs r) := by
  constructor
  · rintro ⟨hlt, h⟩
    unfold readQuoted at h
    split at h
    · obtain ⟨p, hp, h⟩ := Option.bind_eq_some_iff.mp h
      cases h
      exact ⟨_, _, rfl, .inl ⟨rfl, .of_some hp⟩⟩
    · obtain ⟨p, hp, h⟩ := Option.bind_eq_some_iff.mp h
      cases h
      exact ⟨_, _, rfl, .inr ⟨rfl, .of_some hp⟩⟩
    · cases h
  · rintro ⟨t, cs, rfl, ⟨rfl, hr, h⟩ | ⟨rfl, hr, h⟩⟩
    · refine ⟨Nat.lt_succ_of_lt hr, ?_⟩
      simp only [readQuoted, h, Option.bind_eq_bind, Option.bind_some]
      rfl
    · refine ⟨Nat.lt_succ_of_lt hr, ?_⟩
      simp only [readQuoted, h, Option.bind_eq_bind, Option.bind_some]
      rfl

/-- A character of a basic string: itself, or an escape. -/
inductive CharText : Char → List Char → Prop where
  | plain {c : Char} (hquote : c ≠ '"') (hslash : c ≠ '\\') (hcontrol : isControl c = false) :
      CharText c [c]
  | short {c : Char} (letter : Char) (h : shortEscape? letter = some c) :
      CharText c ['\\', letter]
  | code {c : Char} (letter : Char) (digits : List Char) (ns : List Nat)
      (hlength : codeLength? letter = some digits.length)
      (hdigits : digits.map hexValue? = ns.map some)
      (hvalue : ns.foldl (fun n d => 16 * n + d) 0 = c.toNat) :
      CharText c ('\\' :: letter :: digits)

/-- What stands between the quotes of a basic string. -/
inductive BasicText : List Char → List Char → Prop where
  | nil : BasicText [] []
  | cons {c : Char} {cs t u : List Char} (hc : CharText c t) (hcs : BasicText cs u) :
      BasicText (c :: cs) (t ++ u)

/-- What stands between the quotes of a literal string. -/
def LiteralText (cs : List Char) : Prop := ∀ c ∈ cs, c ≠ '\'' ∧ isControl c = false

theorem readHex_digits {digits : List Char} {ns : List Nat}
    (h : digits.map hexValue? = ns.map some) (value : Nat) (r : List Char) :
    readHex digits.length value (digits ++ r) =
      some (ns.foldl (fun n d => 16 * n + d) value, r) := by
  induction digits generalizing ns value with
  | nil =>
      cases ns with
      | nil => rfl
      | cons n ns => cases h
  | cons d digits ih =>
      cases ns with
      | nil => cases h
      | cons n ns =>
          obtain ⟨hd, h⟩ := List.cons.inj h
          rw [List.length_cons, List.cons_append, readHex, hd]
          exact ih h _

theorem scalar?_toNat (c : Char) : scalar? c.toNat = some c := by
  rw [scalar?, if_pos (show c.toNat.isValidChar from c.valid), Char.ofNat_toNat]

/-- A character is itself, or it is what stands behind a backslash on the same line. -/
theorem CharText.plain_or_escape (h : CharText c t) :
    (t = [c] ∧ c ≠ '"' ∧ c ≠ '\\' ∧ isControl c = false)
      ∨ ∃ d t', t = '\\' :: d :: t' ∧ isBlank d = false ∧ d ≠ '\n' ∧ d ≠ '\r'
        ∧ ∀ u, Reader.Reads readEscape (d :: (t' ++ u)) c u := by
  have hletter : ∀ letter x n, shortEscape? letter = some x ∨ codeLength? letter = some n →
      isBlank letter = false ∧ letter ≠ '\n' ∧ letter ≠ '\r' := by
    intro letter x n hletter
    unfold shortEscape? codeLength? at hletter
    rcases hletter with h | h
    · split at h <;> first | decide | cases h
    · split at h <;> first | decide | cases h
  cases h with
  | plain hquote hslash hcontrol => exact .inl ⟨rfl, hquote, hslash, hcontrol⟩
  | short letter hshort =>
      obtain ⟨hblank, hfeed, hreturn⟩ := hletter letter c 0 (.inl hshort)
      exact .inr ⟨letter, [], rfl, hblank, hfeed, hreturn, fun u =>
        readEscape_iff.mpr ⟨letter, u, rfl, .inl ⟨hshort, rfl⟩⟩⟩
  | code letter digits ns hlength hdigits hvalue =>
      obtain ⟨hblank, hfeed, hreturn⟩ := hletter letter c _ (.inr hlength)
      have hlong : shortEscape? letter = none := by
        unfold codeLength? at hlength
        split at hlength <;> first | rfl | cases hlength
      refine .inr ⟨letter, digits, rfl, hblank, hfeed, hreturn, fun u => readEscape_iff.mpr
        ⟨letter, digits ++ u, rfl, .inr ⟨hlong, _, c.toNat, hlength, ?_, scalar?_toNat c⟩⟩⟩
      rw [readHex_digits hdigits, hvalue]

theorem CharText.cons (h : CharText c t) : ∃ d u, t = d :: u ∧ d ≠ '"' := by
  rcases h.plain_or_escape with ⟨rfl, hquote, -⟩ | ⟨d, u, rfl, -⟩
  · exact ⟨c, [], rfl, hquote⟩
  · exact ⟨'\\', _, rfl, by decide⟩

theorem BasicText.reads {cs : List Char} (h : BasicText cs t) (r : List Char) :
    Reader.Reads readBasic (t ++ '"' :: r) cs r := by
  induction h with
  | nil => exact readBasic_iff.mpr ⟨'"', r, rfl, .inl ⟨rfl, rfl, rfl⟩⟩
  | @cons c cs t u hc hcs ih =>
      rw [List.append_assoc]
      rcases hc.plain_or_escape with ⟨rfl, hplain⟩ | ⟨d, t, rfl, -, -, -, hescape⟩
      · exact readBasic_iff.mpr ⟨c, _, rfl, .inr (.inr ⟨hplain, cs, ih, rfl⟩)⟩
      · exact readBasic_iff.mpr
          ⟨'\\', _, rfl, .inr (.inl ⟨rfl, c, _, cs, hescape _, ih, rfl⟩)⟩

theorem LiteralText.reads {cs : List Char} (h : LiteralText cs) (r : List Char) :
    Reader.Reads readLiteral (cs ++ '\'' :: r) cs r := by
  induction cs with
  | nil => exact readLiteral_iff.mpr ⟨'\'', r, rfl, .inl ⟨rfl, rfl, rfl⟩⟩
  | cons c cs ih =>
      obtain ⟨⟨hquote, hcontrol⟩, hcs⟩ := List.forall_mem_cons.mp h
      exact readLiteral_iff.mpr ⟨c, _, rfl, .inr ⟨hquote, hcontrol, cs, ih hcs, rfl⟩⟩

/-- The usual text of a character: escapes only where they are needed. -/
def charText (c : Char) : List Char :=
  if c = '"' ∨ c = '\\' then ['\\', c]
  else if isControl c then
    ['\\', 'u', '0', '0', Nat.digitChar (c.toNat / 16), Nat.digitChar (c.toNat % 16)]
  else [c]

/-- The usual text of a string. -/
def quoted (x : String) : List Char := '"' :: (x.toList.flatMap charText ++ ['"'])

/-- The digits that are written for a control character. -/
theorem hexValue?_control : ∀ n < 0x80,
    ['0', '0', Nat.digitChar (n / 16), Nat.digitChar (n % 16)].map hexValue? =
      [0, 0, n / 16, n % 16].map some := by
  decide

theorem charText_text (c : Char) : CharText c (charText c) := by
  unfold charText
  split
  · rename_i h
    rcases h with rfl | rfl
    · exact .short '"' rfl
    · exact .short '\\' rfl
  rename_i hother
  split
  · rename_i hcontrol
    have hlt : c.toNat < 0x80 := by
      simp only [isControl, Bool.or_eq_true, Bool.and_eq_true, decide_eq_true_eq, beq_iff_eq]
        at hcontrol
      omega
    refine .code 'u' _ _ rfl (hexValue?_control _ hlt) ?_
    simp only [List.foldl_cons, List.foldl_nil]
    omega
  · rename_i hcontrol
    exact .plain (fun h => hother (.inl h)) (fun h => hother (.inr h))
      (Bool.not_eq_true _ ▸ hcontrol)

theorem basicText_text (cs : List Char) : BasicText cs (cs.flatMap charText) := by
  induction cs with
  | nil => exact .nil
  | cons c cs ih => exact .cons (charText_text c) ih

/-! ## Strings over several lines -/

section Lines

variable {quote : Char}

/-- A text starts with three quotes. -/
def Opens (quote : Char) (s : List Char) : Prop := ∃ t, s = quote :: quote :: quote :: t

theorem readClosing_iff {cs : List Char} :
    Reader.Reads (readClosing quote) s cs r ↔
      ∃ t, s = quote :: quote :: quote :: t ∧ cs = (t.take 2).takeWhile (· == quote)
        ∧ r = t.drop cs.length := by
  constructor
  · rintro ⟨hlt, h⟩
    unfold readClosing at h
    split at h
    · split at h
      · rename_i hquotes
        obtain ⟨rfl, rfl, rfl⟩ := hquotes
        cases h
        exact ⟨_, rfl, rfl, rfl⟩
      · cases h
    · cases h
  · rintro ⟨t, rfl, rfl, rfl⟩
    refine ⟨by simp; omega, ?_⟩
    simp [readClosing]

/-- The forms of a basic string over several lines. -/
theorem readBasicLines_iff {cs : List Char} :
    Reader.Reads readBasicLines s cs r ↔
      Reader.Reads (readClosing '"') s cs r
        ∨ readClosing '"' s = none ∧ ∃ c t, s = c :: t
          ∧ (c = '\\' ∧ breaksLine t = true ∧ Reader.Reads readBasicLines (skipBreaks t) cs r
            ∨ c = '\\' ∧ breaksLine t = false ∧ (∃ x u cs', Reader.Reads readEscape t x u
              ∧ Reader.Reads readBasicLines u cs' r ∧ cs = x :: cs')
            ∨ c ≠ '\\' ∧ isLineText c t = true ∧ ∃ cs', Reader.Reads readBasicLines t cs' r
              ∧ cs = c :: cs') := by
  constructor
  · rintro ⟨hlt, h⟩
    rw [readBasicLines.eq_def] at h
    split at h
    · rename_i p hclosing
      cases h
      exact .inl (.of_some hclosing)
    rename_i hclosing
    cases s with
    | nil => cases h
    | cons c t =>
        refine .inr ⟨hclosing, c, t, rfl, ?_⟩
        dsimp only at h
        split at h
        · rename_i hslash
          split at h
          · rename_i hbreak
            obtain ⟨q, hq, h⟩ := Option.bind_eq_some_iff.mp h
            cases h
            exact .inl ⟨hslash, hbreak, (Reader.Reads.of_some hq :)⟩
          · rename_i hbreak
            obtain ⟨p, hp, h⟩ := Option.bind_eq_some_iff.mp h
            obtain ⟨q, hq, h⟩ := Option.bind_eq_some_iff.mp h
            cases h
            exact .inr (.inl ⟨hslash, Bool.not_eq_true _ ▸ hbreak, _, _, _, .of_some hp,
              (Reader.Reads.of_some hq :), rfl⟩)
        split at h
        · rename_i hslash htext
          obtain ⟨q, hq, h⟩ := Option.bind_eq_some_iff.mp h
          cases h
          exact .inr (.inr ⟨hslash, htext, _, (Reader.Reads.of_some hq :), rfl⟩)
        · cases h
  · rintro (⟨hlt, hclosing⟩ | ⟨hclosing, c, t, rfl, ⟨rfl, hbreak, hr, hlater⟩
      | ⟨rfl, hbreak, x, u, cs', ⟨hu, hx⟩, ⟨hr, hlater⟩, rfl⟩
      | ⟨hslash, htext, cs', ⟨hr, hlater⟩, rfl⟩⟩)
    · refine ⟨hlt, ?_⟩
      rw [readBasicLines.eq_def, hclosing]
    · refine ⟨Nat.lt_succ_of_lt (Nat.lt_of_lt_of_le hr (length_skipBreaks_le t)), ?_⟩
      rw [readBasicLines.eq_def, hclosing]
      simp only [hbreak, hlater, if_true, Option.bind_eq_bind, Option.bind_some]
      rfl
    · refine ⟨by simp; omega, ?_⟩
      rw [readBasicLines.eq_def, hclosing]
      simp only [hbreak, hx, hlater, if_true, Bool.false_eq_true, if_false, Option.bind_eq_bind,
        Option.bind_some]
      rfl
    · refine ⟨Nat.lt_succ_of_lt hr, ?_⟩
      rw [readBasicLines.eq_def, hclosing]
      simp only [hslash, htext, hlater, if_true, if_false, Option.bind_eq_bind, Option.bind_some]
      rfl

theorem readLiteralLines_iff {cs : List Char} :
    Reader.Reads readLiteralLines s cs r ↔
      Reader.Reads (readClosing '\'') s cs r
        ∨ readClosing '\'' s = none ∧ ∃ c t cs', s = c :: t ∧ isLineText c t = true
          ∧ Reader.Reads readLiteralLines t cs' r ∧ cs = c :: cs' := by
  constructor
  · rintro ⟨hlt, h⟩
    rw [readLiteralLines.eq_def] at h
    split at h
    · rename_i p hclosing
      cases h
      exact .inl (.of_some hclosing)
    rename_i hclosing
    cases s with
    | nil => cases h
    | cons c t =>
        dsimp only at h
        split at h
        · rename_i htext
          obtain ⟨q, hq, h⟩ := Option.bind_eq_some_iff.mp h
          cases h
          exact .inr ⟨hclosing, c, t, _, rfl, htext, (Reader.Reads.of_some hq :), rfl⟩
        · cases h
  · rintro (⟨hlt, hclosing⟩ | ⟨hclosing, c, t, cs', rfl, htext, ⟨hr, hlater⟩, rfl⟩)
    · refine ⟨hlt, ?_⟩
      rw [readLiteralLines.eq_def, hclosing]
    · refine ⟨Nat.lt_succ_of_lt hr, ?_⟩
      rw [readLiteralLines.eq_def, hclosing]
      simp only [htext, hlater, if_true, Option.bind_eq_bind, Option.bind_some]
      rfl

/-- At most two quotes. -/
inductive FewQuotes (quote : Char) : List Char → Prop where
  | none : FewQuotes quote []
  | one : FewQuotes quote [quote]
  | two : FewQuotes quote [quote, quote]

/-- What stands between the quotes of a string over several lines: pieces, with at most
two quotes in front of each and behind the last. A piece is told by what it stands for,
its text and the text that follows it. -/
inductive LinesText (quote : Char) (Piece : List Char → List Char → List Char → Prop) :
    List Char → List Char → Prop where
  | last {qs : List Char} (hqs : FewQuotes quote qs) : LinesText quote Piece qs qs
  | more {qs xs t cs u : List Char} (hqs : FewQuotes quote qs) (hpiece : Piece xs t u)
      (h : LinesText quote Piece cs u) : LinesText quote Piece (qs ++ (xs ++ cs)) (qs ++ (t ++ u))

/-- Blanks and line breaks. -/
inductive Breaks : List Char → Prop where
  | nil : Breaks []
  | blank {c : Char} {t : List Char} (hc : isBlank c = true) (h : Breaks t) : Breaks (c :: t)
  | lineBreak {e t : List Char} (he : LineBreak e) (h : Breaks t) : Breaks (e ++ t)

/-- A piece of a basic string: a character, a line break, or a backslash at the end of a
line, which stands for nothing and takes the blanks and line breaks behind it along. -/
inductive BasicPiece : List Char → List Char → List Char → Prop where
  | char {c : Char} {t u : List Char} (h : CharText c t) : BasicPiece [c] t u
  | lineBreak {e u : List Char} (h : LineBreak e) : BasicPiece e e u
  | folded {b e w u : List Char} (hb : Blanks b) (he : LineBreak e) (hw : Breaks w)
      (hu : ∀ c v, u = c :: v → c ∉ [' ', '\t', '\n', '\r']) :
      BasicPiece [] ('\\' :: (b ++ (e ++ w))) u

/-- A piece of a literal string: a character or a line break. -/
inductive LiteralPiece : List Char → List Char → List Char → Prop where
  | char {c : Char} {u : List Char} (hquote : c ≠ '\'') (hcontrol : isControl c = false) :
      LiteralPiece [c] [c] u
  | lineBreak {e u : List Char} (h : LineBreak e) : LiteralPiece e e u

section Reads

variable {v cs xs : List Char}

theorem readClosing_of_ne (hc : c ≠ quote) (t : List Char) :
    readClosing quote (c :: t) = none ∧ readClosing quote (quote :: c :: t) = none
      ∧ readClosing quote (quote :: quote :: c :: t) = none := by
  have hnone : ∀ s, ¬Opens quote s → readClosing quote s = none := by
    intro s hs
    cases hread : readClosing quote s with
    | none => rfl
    | some p =>
        obtain ⟨u, hu, -⟩ := readClosing_iff.mp (.of_some hread)
        exact absurd ⟨u, hu⟩ hs
  refine ⟨hnone _ ?_, hnone _ ?_, hnone _ ?_⟩
  all_goals
    rintro ⟨u, hu⟩
    simp only [List.cons.injEq] at hu
    simp_all

/-- Quotes that are few belong to the text. -/
theorem FewQuotes.closing {qs : List Char} (h : FewQuotes quote qs)
    (hv : ∀ u, v ≠ quote :: u) :
    Reader.Reads (readClosing quote) (qs ++ quote :: quote :: quote :: v) qs v := by
  have hextra : ∀ qs, FewQuotes quote qs → ((qs ++ v).take 2).takeWhile (· == quote) = qs := by
    intro qs hqs
    cases v with
    | nil => cases hqs <;> simp
    | cons d v =>
        have hd : d ≠ quote := fun hd => hv v (hd ▸ rfl)
        cases hqs <;> cases v <;> simp [hd]
  have hswap : qs ++ quote :: quote :: quote :: v = quote :: quote :: quote :: (qs ++ v) := by
    cases h <;> rfl
  exact readClosing_iff.mpr ⟨qs ++ v, hswap, (hextra qs h).symm, List.drop_left.symm⟩

/-- A reader that takes closing quotes, single quotes and pieces for what they are takes
the whole text for what it is. -/
theorem LinesText.reads {reader : Reader (List Char)}
    {Piece : List Char → List Char → List Char → Prop}
    (hclosing : ∀ {s cs r}, Reader.Reads (readClosing quote) s cs r → Reader.Reads reader s cs r)
    (hquote : ∀ {t cs r}, readClosing quote (quote :: t) = none → Reader.Reads reader t cs r →
      Reader.Reads reader (quote :: t) (quote :: cs) r)
    (hpiece : ∀ {xs t u cs v}, Piece xs t u →
      Reader.Reads reader (u ++ quote :: quote :: quote :: v) cs v →
      Reader.Reads reader (t ++ (u ++ quote :: quote :: quote :: v)) (xs ++ cs) v)
    (hstart : ∀ {xs t u}, Piece xs t u → ∃ d t', t = d :: t' ∧ d ≠ quote)
    (h : LinesText quote Piece cs t) (hv : ∀ u, v ≠ quote :: u) :
    Reader.Reads reader (t ++ quote :: quote :: quote :: v) cs v := by
  induction h with
  | last hqs => exact hclosing (hqs.closing hv)
  | @more qs xs t cs u hqs hp h ih =>
      have hread := hpiece hp ih
      obtain ⟨d, t', rfl, hd⟩ := hstart hp
      obtain ⟨-, hone, htwo⟩ :=
        readClosing_of_ne hd (t' ++ (u ++ quote :: quote :: quote :: v))
      rw [List.append_assoc, List.append_assoc]
      cases hqs with
      | none => exact hread
      | one => exact hquote hone hread
      | two => exact hquote htwo (hquote hone hread)

end Reads

section Pieces

variable {v cs xs : List Char}

theorem LineBreak.cons (h : LineBreak s) (hquote : quote = '"' ∨ quote = '\'') :
    ∃ d t, s = d :: t ∧ d ≠ quote := by
  cases h <;> exact ⟨_, _, rfl, by rcases hquote with rfl | rfl <;> decide⟩

/-- A line break stands for itself, one character after the other. -/
theorem LineBreak.reads {reader : Reader (List Char)} (hquote : quote = '"' ∨ quote = '\'')
    (hchar : ∀ {c t cs r}, readClosing quote (c :: t) = none → c ≠ '\\' → isLineText c t = true →
      Reader.Reads reader t cs r → Reader.Reads reader (c :: t) (c :: cs) r)
    (he : LineBreak s) (h : Reader.Reads reader t cs r) :
    Reader.Reads reader (s ++ t) (s ++ cs) r := by
  have hnone : ∀ c ∈ ['\n', '\r'], ∀ u, readClosing quote (c :: u) = none := by
    intro c hc u
    refine (readClosing_of_ne ?_ u).1
    rintro rfl
    rcases hquote with rfl | rfl <;> simp at hc
  have hfeed : Reader.Reads reader ('\n' :: t) ('\n' :: cs) r :=
    hchar (hnone _ (by simp) _) (by decide) rfl h
  cases he with
  | feed => exact hfeed
  | returnFeed => exact hchar (hnone _ (by simp) _) (by decide) rfl hfeed

theorem readBasicLines_char (hclosing : readClosing '"' (c :: t) = none) (hslash : c ≠ '\\')
    (htext : isLineText c t = true) (h : Reader.Reads readBasicLines t cs r) :
    Reader.Reads readBasicLines (c :: t) (c :: cs) r :=
  readBasicLines_iff.mpr (.inr ⟨hclosing, c, t, rfl, .inr (.inr ⟨hslash, htext, cs, h, rfl⟩)⟩)

theorem readLiteralLines_char (hclosing : readClosing '\'' (c :: t) = none)
    (htext : isLineText c t = true) (h : Reader.Reads readLiteralLines t cs r) :
    Reader.Reads readLiteralLines (c :: t) (c :: cs) r :=
  readLiteralLines_iff.mpr (.inr ⟨hclosing, c, t, cs, rfl, htext, h, rfl⟩)

theorem isLineText_of_not_control (h : isControl c = false) (t : List Char) :
    isLineText c t = true := by
  simp [isLineText, h]

theorem Breaks.skip (h : Breaks s) (t : List Char) : skipBreaks (s ++ t) = skipBreaks t := by
  induction h with
  | nil => rfl
  | blank hc _ ih => rw [List.cons_append, skipBreaks, hc, ← ih]; rfl
  | lineBreak he _ ih =>
      rw [List.append_assoc]
      cases he with
      | feed => exact ih
      | returnFeed => exact ih

theorem Blanks.breaks (h : Blanks s) (hu : Breaks u) : Breaks (s ++ u) := by
  induction s with
  | nil => exact hu
  | cons c s ih =>
      obtain ⟨hc, hs⟩ := List.forall_mem_cons.mp h
      exact .blank hc (ih hs)

/-- A backslash at the end of a line stands for nothing. -/
theorem readBasicLines_folded {b e w : List Char} (hb : Blanks b) (he : LineBreak e)
    (hw : Breaks w) (hu : ∀ c v, u = c :: v → c ∉ [' ', '\t', '\n', '\r'])
    (h : Reader.Reads readBasicLines u cs r) :
    Reader.Reads readBasicLines ('\\' :: (b ++ (e ++ w) ++ u)) cs r := by
  have hbreaks : breaksLine (b ++ (e ++ w) ++ u) = true := by
    rw [breaksLine, List.append_assoc, skipBlanks_append hb]
    cases he <;> rfl
  have hskip : skipBreaks (b ++ (e ++ w) ++ u) = u := by
    rw [(hb.breaks (.lineBreak he hw)).skip]
    cases u with
    | nil => rfl
    | cons c u =>
        have hc := hu c u rfl
        simp only [List.mem_cons, List.not_mem_nil, or_false, not_or] at hc
        rw [skipBreaks, if_neg]
        simp [isBlank, hc]
  exact readBasicLines_iff.mpr (.inr ⟨(readClosing_of_ne (by decide) _).1, '\\', _, rfl,
    .inl ⟨rfl, hbreaks, hskip.symm ▸ h⟩⟩)

theorem breaksLine_of_ne (hblank : isBlank c = false) (hfeed : c ≠ '\n') (hreturn : c ≠ '\r')
    (t : List Char) : breaksLine (c :: t) = false := by
  rw [breaksLine, skipBlanks_of_not_blank hblank]
  split <;> simp_all

theorem BasicPiece.cons (h : BasicPiece xs t u) : ∃ d t', t = d :: t' ∧ d ≠ '"' := by
  cases h with
  | char hc => exact hc.cons
  | lineBreak he => exact he.cons (.inl rfl)
  | folded => exact ⟨'\\', _, rfl, by decide⟩

theorem BasicPiece.reads (h : BasicPiece xs t u)
    (hread : Reader.Reads readBasicLines (u ++ '"' :: '"' :: '"' :: v) cs v) :
    Reader.Reads readBasicLines (t ++ (u ++ '"' :: '"' :: '"' :: v)) (xs ++ cs) v := by
  cases h with
  | char hc =>
      rcases hc.plain_or_escape with
        ⟨rfl, hquote, hslash, hcontrol⟩ | ⟨d, t, rfl, hblank, hfeed, hreturn, hescape⟩
      · exact readBasicLines_char (readClosing_of_ne hquote _).1 hslash
          (isLineText_of_not_control hcontrol _) hread
      · refine readBasicLines_iff.mpr (.inr ⟨(readClosing_of_ne (by decide) _).1, '\\', _, rfl,
          .inr (.inl ⟨rfl, ?_, _, _, cs, hescape _, hread, rfl⟩)⟩)
        exact breaksLine_of_ne hblank hfeed hreturn _
  | lineBreak he => exact he.reads (.inl rfl) readBasicLines_char hread
  | folded hb he hw hu =>
      refine readBasicLines_folded hb he hw (fun c w hcw => ?_) hread
      cases u with
      | nil =>
          obtain rfl := (List.cons.inj hcw).1
          decide
      | cons d u => exact hu c u (by rw [(List.cons.inj hcw).1])

theorem LiteralPiece.cons (h : LiteralPiece xs t u) : ∃ d t', t = d :: t' ∧ d ≠ '\'' := by
  cases h with
  | char hquote => exact ⟨_, _, rfl, hquote⟩
  | lineBreak he => exact he.cons (.inr rfl)

theorem LiteralPiece.reads (h : LiteralPiece xs t u)
    (hread : Reader.Reads readLiteralLines (u ++ '\'' :: '\'' :: '\'' :: v) cs v) :
    Reader.Reads readLiteralLines (t ++ (u ++ '\'' :: '\'' :: '\'' :: v)) (xs ++ cs) v := by
  cases h with
  | char hquote hcontrol =>
      exact readLiteralLines_char (readClosing_of_ne hquote _).1
        (isLineText_of_not_control hcontrol _) hread
  | lineBreak he =>
      exact he.reads (.inr rfl) (fun hclosing _ => readLiteralLines_char hclosing) hread

theorem LinesText.reads_basic (h : LinesText '"' BasicPiece cs t) (hv : ∀ u, v ≠ '"' :: u) :
    Reader.Reads readBasicLines (t ++ '"' :: '"' :: '"' :: v) cs v :=
  h.reads (fun h => readBasicLines_iff.mpr (.inl h))
    (fun hclosing => readBasicLines_char hclosing (by decide) rfl) BasicPiece.reads
    BasicPiece.cons hv

theorem LinesText.reads_literal (h : LinesText '\'' LiteralPiece cs t)
    (hv : ∀ u, v ≠ '\'' :: u) :
    Reader.Reads readLiteralLines (t ++ '\'' :: '\'' :: '\'' :: v) cs v :=
  h.reads (fun h => readLiteralLines_iff.mpr (.inl h))
    (fun hclosing => readLiteralLines_char hclosing rfl) LiteralPiece.reads LiteralPiece.cons hv

end Pieces

end Lines

/-! ## Any string -/

/-- The forms of a string. -/
theorem readAnyQuoted_iff {x : String} :
    Reader.Reads readAnyQuoted s x r ↔
      (∃ t cs, s = '"' :: '"' :: '"' :: t ∧ Reader.Reads readBasicLines (dropFirstBreak t) cs r
        ∧ x = String.ofList cs)
      ∨ (∃ t cs, s = '\'' :: '\'' :: '\'' :: t
        ∧ Reader.Reads readLiteralLines (dropFirstBreak t) cs r ∧ x = String.ofList cs)
      ∨ ¬Opens '"' s ∧ ¬Opens '\'' s ∧ Reader.Reads readQuoted s x r := by
  constructor
  · rintro ⟨hlt, h⟩
    unfold readAnyQuoted at h
    split at h
    · obtain ⟨p, hp, h⟩ := Option.bind_eq_some_iff.mp h
      cases h
      exact .inl ⟨_, _, rfl, .of_some hp, rfl⟩
    · obtain ⟨p, hp, h⟩ := Option.bind_eq_some_iff.mp h
      cases h
      exact .inr (.inl ⟨_, _, rfl, .of_some hp, rfl⟩)
    · rename_i hbasic hliteral
      exact .inr (.inr ⟨not_exists.mpr hbasic, not_exists.mpr hliteral, hlt, h⟩)
  · rintro (⟨t, cs, rfl, ⟨hr, h⟩, rfl⟩ | ⟨t, cs, rfl, ⟨hr, h⟩, rfl⟩ | ⟨hbasic, hliteral, hlt, h⟩)
    · refine ⟨by have := length_dropFirstBreak_le t; simp; omega, ?_⟩
      simp only [readAnyQuoted, h, Option.bind_eq_bind, Option.bind_some]
      rfl
    · refine ⟨by have := length_dropFirstBreak_le t; simp; omega, ?_⟩
      simp only [readAnyQuoted, h, Option.bind_eq_bind, Option.bind_some]
      rfl
    · refine ⟨hlt, ?_⟩
      rw [readAnyQuoted]
      · exact h
      · exact fun t ht => hbasic ⟨t, ht⟩
      · exact fun t ht => hliteral ⟨t, ht⟩

/-- A line break right behind opening quotes, which is dropped, or none. -/
def FirstBreak (e t : List Char) : Prop :=
  LineBreak e ∨ e = [] ∧ ∀ c u, t = c :: u → c ≠ '\n' ∧ c ≠ '\r'

/-- How a string may be written, its quotes included. -/
inductive StringText : List Char → List Char → Prop where
  | basic {cs t : List Char} (h : BasicText cs t) : StringText cs ('"' :: (t ++ ['"']))
  | literal {cs : List Char} (h : LiteralText cs) : StringText cs ('\'' :: (cs ++ ['\'']))
  | basicLines {cs e t : List Char} (he : FirstBreak e t) (h : LinesText '"' BasicPiece cs t) :
      StringText cs ('"' :: '"' :: '"' :: (e ++ (t ++ ['"', '"', '"'])))
  | literalLines {cs e t : List Char} (he : FirstBreak e t)
      (h : LinesText '\'' LiteralPiece cs t) :
      StringText cs ('\'' :: '\'' :: '\'' :: (e ++ (t ++ ['\'', '\'', '\''])))

section Any

variable {v cs e : List Char}

theorem FirstBreak.drop (h : FirstBreak e t) (hu : ∀ c v, u = c :: v → c ≠ '\n' ∧ c ≠ '\r') :
    dropFirstBreak (e ++ (t ++ u)) = t ++ u := by
  rcases h with he | ⟨rfl, ht⟩
  · cases he <;> rfl
  · have hhead : ∀ c w, t ++ u = c :: w → c ≠ '\n' ∧ c ≠ '\r' := by
      intro c w hcw
      cases t with
      | nil => exact hu c w hcw
      | cons d t => exact (List.cons.inj hcw).1 ▸ ht d t rfl
    rw [List.nil_append]
    unfold dropFirstBreak
    split
    · rename_i hfeed
      exact absurd rfl (hhead _ _ hfeed).1
    · rename_i hreturn
      exact absurd rfl (hhead _ _ hreturn).2
    · rfl

/-- A string on one line is not mistaken for one over several lines. -/
theorem not_opens_closed {quote d : Char} (ht : ∀ c u, t = c :: u → c ≠ quote)
    (hv : ∀ u, v ≠ quote :: u) (hd : d = quote) : ¬Opens quote (d :: (t ++ quote :: v)) := by
  subst hd
  rintro ⟨w, hw⟩
  cases t with
  | nil => exact hv w (List.cons.inj (List.cons.inj hw).2).2
  | cons c t => exact ht c t rfl (List.cons.inj (List.cons.inj hw).2).1

theorem BasicText.head_ne (h : BasicText cs t) : ∀ c u, t = c :: u → c ≠ '"' := by
  intro c u hcu
  cases h with
  | nil => cases hcu
  | cons hc hcs =>
      obtain ⟨d, w, rfl, hd⟩ := hc.cons
      exact (List.cons.inj hcu).1 ▸ hd

theorem not_opens_of_ne {quote : Char} (hc : c ≠ quote) (t : List Char) :
    ¬Opens quote (c :: t) := by
  rintro ⟨u, hu⟩
  exact hc (List.cons.inj hu).1

/-- **Strings are read** as what they were written for, if no quote follows. -/
theorem StringText.reads (h : StringText cs t) (hv : ∀ c u, v = c :: u → c ≠ '"' ∧ c ≠ '\'') :
    Reader.Reads readAnyQuoted (t ++ v) (String.ofList cs) v := by
  have hdouble : ∀ u, v ≠ '"' :: u := fun u hu => (hv _ u hu).1 rfl
  have hsingle : ∀ u, v ≠ '\'' :: u := fun u hu => (hv _ u hu).2 rfl
  cases h with
  | basic h =>
      rw [List.cons_append, List.append_assoc, List.singleton_append]
      refine readAnyQuoted_iff.mpr (.inr (.inr ⟨not_opens_closed h.head_ne hdouble rfl,
        not_opens_of_ne (by decide) _, ?_⟩))
      exact readQuoted_iff.mpr ⟨_, cs, rfl, .inl ⟨rfl, h.reads v⟩⟩
  | literal h =>
      rw [List.cons_append, List.append_assoc, List.singleton_append]
      refine readAnyQuoted_iff.mpr (.inr (.inr ⟨not_opens_of_ne (by decide) _,
        not_opens_closed (fun c u hcu => (h c (hcu ▸ List.mem_cons_self ..)).1) hsingle rfl, ?_⟩))
      exact readQuoted_iff.mpr ⟨_, cs, rfl, .inr ⟨rfl, h.reads v⟩⟩
  | @basicLines e t he h =>
      have hdrop := @FirstBreak.drop t ('"' :: '"' :: '"' :: v) e he fun c w hcw =>
        (List.cons.inj hcw).1 ▸ (by decide : '"' ≠ '\n' ∧ '"' ≠ '\r')
      simp only [List.cons_append, List.append_assoc, List.nil_append]
      exact readAnyQuoted_iff.mpr (.inl ⟨_, cs, rfl, hdrop.symm ▸ h.reads_basic hdouble, rfl⟩)
  | @literalLines e t he h =>
      have hdrop := @FirstBreak.drop t ('\'' :: '\'' :: '\'' :: v) e he fun c w hcw =>
        (List.cons.inj hcw).1 ▸ (by decide : '\'' ≠ '\n' ∧ '\'' ≠ '\r')
      simp only [List.cons_append, List.append_assoc, List.nil_append]
      exact readAnyQuoted_iff.mpr
        (.inr (.inl ⟨_, cs, rfl, hdrop.symm ▸ h.reads_literal hsingle, rfl⟩))

end Any

end GraphCourier.Toml
