import GraphCourier.Toml.Document
import GraphCourier.Proofs.TomlStrings

/-!
# What TOML readers may read

For each reader of keys, words, lists, tables, values and statements there is one lemma
that tells what it may read and what it leaves (`readKey_iff` and the like). Lists and
tables are read by a reader for what is in them. A document is read one statement after
the other (`readStatements_of_statement`), and what stands between statements makes no
difference (`readStatements_congr`).
-/

namespace GraphCourier.Toml

variable {s t u r : List Char} {c : Char}

/-! ## Keys -/

theorem readSimpleKey_iff {x : String} :
    Reader.Reads readSimpleKey s x r ↔
      ∃ c t, s = c :: t ∧ ((c = '"' ∨ c = '\'') ∧ Reader.Reads readQuoted (c :: t) x r
        ∨ ¬(c = '"' ∨ c = '\'') ∧ isBareKeyChar c = true
          ∧ x = String.ofList ((c :: t).takeWhile isBareKeyChar)
          ∧ r = (c :: t).dropWhile isBareKeyChar) := by
  constructor
  · rintro ⟨hlt, h⟩
    cases s with
    | nil => cases h
    | cons c t =>
        refine ⟨c, t, rfl, ?_⟩
        unfold readSimpleKey at h
        dsimp only at h
        split at h
        · rename_i hquote
          exact .inl ⟨hquote, hlt, h⟩
        · rename_i hquote
          split at h
          · rename_i hbare
            cases h
            exact .inr ⟨hquote, hbare, rfl, rfl⟩
          · cases h
  · rintro ⟨c, t, rfl, ⟨hquote, hlt, h⟩ | ⟨hquote, hbare, rfl, rfl⟩⟩
    · refine ⟨hlt, ?_⟩
      rw [readSimpleKey, if_pos hquote, h]
    · refine ⟨?_, ?_⟩
      · rw [List.dropWhile_cons, if_pos hbare]
        exact Nat.lt_succ_of_le (List.dropWhile_suffix _).length_le
      · rw [readSimpleKey, if_neg hquote, dif_pos hbare]

/-- A key goes on behind a point. -/
theorem readKey_iff {parts : Nat} {k : Key} :
    Reader.Reads (readKey (parts + 1)) s k r ↔
      ∃ x u, Reader.Reads readSimpleKey (skipBlanks s) x u
        ∧ ((∃ t k', skipBlanks u = '.' :: t ∧ Reader.Reads (readKey parts) t k' r
            ∧ k = ⟨x :: k'.path, k'.last⟩)
          ∨ (∀ t, skipBlanks u ≠ '.' :: t) ∧ skipBlanks u = r ∧ k = ⟨[], x⟩) := by
  constructor
  · rintro ⟨hlt, h⟩
    obtain ⟨p, hp, h⟩ := Option.bind_eq_some_iff.mp h
    refine ⟨p.value, p.rest, .of_some hp, ?_⟩
    dsimp only at h
    split at h
    · rename_i t hpoint
      obtain ⟨q, hq, h⟩ := Option.bind_eq_some_iff.mp h
      cases h
      exact .inl ⟨t, q.value, hpoint, (Reader.Reads.of_some hq :), rfl⟩
    · rename_i hpoint
      cases h
      exact .inr ⟨hpoint, rfl, rfl⟩
  · rintro ⟨x, u, ⟨hu, hx⟩, ⟨t, k', hpoint, ⟨hr, hk⟩, rfl⟩ | ⟨hpoint, rfl, rfl⟩⟩
    · have hlt : r.length < s.length := by
        have h₁ := length_skipBlanks_le u
        have h₂ := length_skipBlanks_le s
        rw [hpoint] at h₁
        simp at h₁
        omega
      refine ⟨hlt, Option.bind_eq_some_iff.mpr ⟨_, hx, ?_⟩⟩
      dsimp only
      split
      · rename_i t' hpoint'
        obtain rfl := (List.cons.inj (hpoint'.symm.trans hpoint)).2
        rw [hk]
        rfl
      · rename_i hnone
        exact absurd hpoint (hnone t)
    · have hlt : (skipBlanks u).length < s.length := by
        have h₁ := length_skipBlanks_le u
        have h₂ := length_skipBlanks_le s
        omega
      refine ⟨hlt, Option.bind_eq_some_iff.mpr ⟨_, hx, ?_⟩⟩
      dsimp only
      split
      · rename_i t hpoint'
        exact absurd hpoint' (hpoint t)
      · rfl

theorem readEntryKey_iff {k : Key} :
    Reader.Reads readEntryKey s k r ↔ Reader.Reads (readKey maxDepth) s k ('=' :: r) := by
  constructor
  · rintro ⟨hlt, h⟩
    obtain ⟨p, hp, h⟩ := Option.bind_eq_some_iff.mp h
    split at h
    · rename_i t ht
      cases h
      exact ht ▸ (Reader.Reads.of_some hp :)
    · cases h
  · rintro ⟨hlt, h⟩
    refine ⟨Nat.lt_of_succ_lt hlt, ?_⟩
    rw [readEntryKey, h]
    rfl

/-! ## Words -/

/-- A date, a blank and a digit go on as a time. -/
def GoesOn (s : List Char) : Prop :=
  date? (s.takeWhile isWordChar) = some []
    ∧ ∃ d t, s.dropWhile isWordChar = ' ' :: d :: t ∧ d.isDigit = true

theorem splitWord_of_goesOn {d : Char} (hdate : date? (s.takeWhile isWordChar) = some [])
    (hrest : s.dropWhile isWordChar = ' ' :: d :: t) (hd : d.isDigit = true) :
    splitWord s = (s.takeWhile isWordChar ++ ' ' :: (d :: t).takeWhile isWordChar,
      (d :: t).dropWhile isWordChar) := by
  simp only [splitWord, hdate, hrest, hd, if_true]

theorem splitWord_of_not_goesOn (h : ¬GoesOn s) :
    splitWord s = (s.takeWhile isWordChar, s.dropWhile isWordChar) := by
  simp only [splitWord]
  split
  · rename_i d t hdate hrest
    rw [if_neg fun hd => h ⟨hdate, d, t, hrest, hd⟩]
  · rfl

theorem readWord_iff {v : Value} :
    Reader.Reads readWord s v r ↔
      ∃ c word, splitWord s = (c :: word, r) ∧ wordValue? (c :: word) = some v := by
  constructor
  · rintro ⟨hlt, h⟩
    unfold readWord at h
    split at h
    · cases h
    · rename_i c word rest hsplit
      obtain ⟨x, hx, h⟩ := Option.bind_eq_some_iff.mp h
      cases h
      exact ⟨c, word, hsplit, hx⟩
  · rintro ⟨c, word, hsplit, hv⟩
    have hlt : r.length < s.length := by
      have := congrArg List.length (splitWord_append s)
      rw [hsplit] at this
      simp at this
      omega
    refine ⟨hlt, ?_⟩
    unfold readWord
    split
    · rename_i hnone
      cases hsplit.symm.trans hnone
    · rename_i hsplit'
      cases hsplit.symm.trans hsplit'
      rw [hv]
      rfl

/-! ## Lists and tables -/

theorem skipWithin_eq_some {p : { r : List Char // r.length ≤ s.length }} :
    skipWithin s = some p ↔ skipFiller false s = some p.1 := by
  unfold skipWithin
  split
  · rename_i r hr
    simp only [hr, Option.some.injEq, Subtype.ext_iff]
  · rename_i hr
    simp only [hr, reduceCtorEq]

theorem skipWithin_of_skipFiller (h : skipFiller false s = some r) :
    skipWithin s = some ⟨r, length_skipFiller_le h⟩ :=
  skipWithin_eq_some.mpr h

section Items

variable {item : Reader Value}

theorem readItems_iff {xs : List Value} :
    Reader.Reads (readItems item) s xs r ↔
      ∃ c t, skipFiller false s = some (c :: t)
        ∧ (c = ']' ∧ xs = [] ∧ t = r
          ∨ c ≠ ']' ∧ ∃ x u d v, Reader.Reads item (c :: t) x u
            ∧ skipFiller false u = some (d :: v)
            ∧ (d = ']' ∧ xs = [x] ∧ v = r
              ∨ d = ',' ∧ ∃ xs', Reader.Reads (readItems item) v xs' r ∧ xs = x :: xs')) := by
  constructor
  · rintro ⟨hlt, h⟩
    rw [readItems] at h
    obtain ⟨⟨w, hw⟩, hskip, h⟩ := Option.bind_eq_some_iff.mp h
    rw [skipWithin_eq_some] at hskip
    cases w with
    | nil => cases h
    | cons c t =>
        refine ⟨c, t, hskip, ?_⟩
        dsimp only at h
        split at h
        · rename_i hclose
          cases h
          exact .inl ⟨hclose, rfl, rfl⟩
        rename_i hclose
        obtain ⟨x, hx, h⟩ := Option.bind_eq_some_iff.mp h
        obtain ⟨⟨w', hw'⟩, hskip', h⟩ := Option.bind_eq_some_iff.mp h
        rw [skipWithin_eq_some] at hskip'
        cases w' with
        | nil => cases h
        | cons d v =>
            refine .inr ⟨hclose, x.value, x.rest, d, v, .of_some hx, hskip', ?_⟩
            dsimp only at h
            split at h
            · rename_i hend
              cases h
              exact .inl ⟨hend, rfl, rfl⟩
            split at h
            · rename_i hcomma
              obtain ⟨q, hq, h⟩ := Option.bind_eq_some_iff.mp h
              cases h
              exact .inr ⟨hcomma, _, (Reader.Reads.of_some hq :), rfl⟩
            · cases h
  · rintro ⟨c, t, hskip, ⟨rfl, rfl, rfl⟩ | ⟨hclose, x, u, d, v, ⟨hu, hx⟩, hskip', hrest⟩⟩
    · refine ⟨length_skipFiller_le hskip, ?_⟩
      rw [readItems, skipWithin_of_skipFiller hskip]
      rfl
    · have hwithin := skipWithin_of_skipFiller hskip
      have hwithin' := skipWithin_of_skipFiller hskip'
      have hlt : v.length < s.length := by
        have h₁ := length_skipFiller_le hskip
        have h₂ := length_skipFiller_le hskip'
        simp only [List.length_cons] at h₁ h₂ hu
        omega
      rcases hrest with ⟨rfl, rfl, rfl⟩ | ⟨rfl, xs', ⟨hr, hlater⟩, rfl⟩
      · refine ⟨hlt, ?_⟩
        rw [readItems, hwithin]
        simp only [Option.bind_eq_bind, Option.bind_some, if_neg hclose, hx, hwithin', if_true]
        rfl
      · refine ⟨Nat.lt_trans hr hlt, ?_⟩
        rw [readItems, hwithin]
        simp only [Option.bind_eq_bind, Option.bind_some, if_neg hclose, hx, hwithin', if_true,
          hlater]
        rfl

theorem readEntries_iff {ms ms' : Members} :
    Reader.Reads (readEntries item ms) s ms' r ↔
      ∃ c t, skipFiller false s = some (c :: t)
        ∧ (c = '\x7d' ∧ ms' = ms ∧ t = r
          ∨ c ≠ '\x7d' ∧ ∃ k u x w ms₁ d v, Reader.Reads readEntryKey (c :: t) k u
            ∧ Reader.Reads item (skipBlanks u) x w ∧ ms.addEntry k.path k.last x = some ms₁
            ∧ skipFiller false w = some (d :: v)
            ∧ (d = '\x7d' ∧ ms' = ms₁ ∧ v = r
              ∨ d = ',' ∧ Reader.Reads (readEntries item ms₁) v ms' r)) := by
  constructor
  · rintro ⟨hlt, h⟩
    rw [readEntries] at h
    obtain ⟨⟨w, hw⟩, hskip, h⟩ := Option.bind_eq_some_iff.mp h
    rw [skipWithin_eq_some] at hskip
    cases w with
    | nil => cases h
    | cons c t =>
        refine ⟨c, t, hskip, ?_⟩
        dsimp only at h
        split at h
        · rename_i hclose
          cases h
          exact .inl ⟨hclose, rfl, rfl⟩
        rename_i hclose
        obtain ⟨k, hk, h⟩ := Option.bind_eq_some_iff.mp h
        obtain ⟨x, hx, h⟩ := Option.bind_eq_some_iff.mp h
        obtain ⟨ms₁, hms, h⟩ := Option.bind_eq_some_iff.mp h
        obtain ⟨⟨w', hw'⟩, hskip', h⟩ := Option.bind_eq_some_iff.mp h
        rw [skipWithin_eq_some] at hskip'
        cases w' with
        | nil => cases h
        | cons d v =>
            refine .inr ⟨hclose, k.value, k.rest, x.value, x.rest, ms₁, d, v, .of_some hk,
              (Reader.Reads.of_some hx :), hms, hskip', ?_⟩
            dsimp only at h
            split at h
            · rename_i hend
              cases h
              exact .inl ⟨hend, rfl, rfl⟩
            split at h
            · rename_i hcomma
              obtain ⟨q, hq, h⟩ := Option.bind_eq_some_iff.mp h
              cases h
              exact .inr ⟨hcomma, (Reader.Reads.of_some hq :)⟩
            · cases h
  · rintro ⟨c, t, hskip, ⟨rfl, rfl, rfl⟩
      | ⟨hclose, k, u, x, w, ms₁, d, v, ⟨hu, hk⟩, ⟨hw, hx⟩, hms, hskip', hrest⟩⟩
    · refine ⟨length_skipFiller_le hskip, ?_⟩
      rw [readEntries, skipWithin_of_skipFiller hskip]
      rfl
    · have hwithin := skipWithin_of_skipFiller hskip
      have hwithin' := skipWithin_of_skipFiller hskip'
      have hlt : v.length < s.length := by
        have h₁ := length_skipFiller_le hskip
        have h₂ := length_skipFiller_le hskip'
        have h₃ := length_skipBlanks_le u
        simp only [List.length_cons] at h₁ h₂ hu
        omega
      rcases hrest with ⟨rfl, rfl, rfl⟩ | ⟨rfl, hr, hlater⟩
      · refine ⟨hlt, ?_⟩
        rw [readEntries, hwithin]
        simp only [Option.bind_eq_bind, Option.bind_some, if_neg hclose, hk, hx, Parsed.andThen,
          Parsed.widen, Parsed.after, hms, hwithin', if_true]
        rfl
      · refine ⟨Nat.lt_trans hr hlt, ?_⟩
        rw [readEntries, hwithin]
        simp only [Option.bind_eq_bind, Option.bind_some, if_neg hclose, hk, hx, Parsed.andThen,
          Parsed.widen, Parsed.after, hms, hwithin', if_true, hlater]
        rfl

end Items

/-! ## Values -/

/-- The forms of a value. -/
theorem readValue_iff {depth : Nat} {v : Value} :
    Reader.Reads (readValue depth) s v r ↔
      ∃ c t, s = c :: t
        ∧ ((c = '"' ∨ c = '\'') ∧ (∃ x, Reader.Reads readAnyQuoted s x r ∧ v = .text x)
          ∨ c = '[' ∧ (∃ d xs, depth = d + 1 ∧ Reader.Reads (readItems (readValue d)) t xs r
            ∧ v = .list xs)
          ∨ c = '\x7b' ∧ (∃ d ms, depth = d + 1
            ∧ Reader.Reads (readEntries (readValue d) []) t ms r ∧ v = .table .closed ms)
          ∨ (c ≠ '"' ∧ c ≠ '\'' ∧ c ≠ '[' ∧ c ≠ '\x7b') ∧ Reader.Reads readWord s v r) := by
  constructor
  · rintro ⟨hlt, h⟩
    unfold readValue at h
    split at h
    · obtain ⟨p, hp, h⟩ := Option.bind_eq_some_iff.mp h
      cases h
      exact ⟨_, _, rfl, .inl ⟨.inl rfl, _, .of_some hp, rfl⟩⟩
    · obtain ⟨p, hp, h⟩ := Option.bind_eq_some_iff.mp h
      cases h
      exact ⟨_, _, rfl, .inl ⟨.inr rfl, _, .of_some hp, rfl⟩⟩
    · cases depth with
      | zero => cases h
      | succ depth =>
          obtain ⟨p, hp, h⟩ := Option.bind_eq_some_iff.mp h
          cases h
          exact ⟨_, _, rfl, .inr (.inl ⟨rfl, depth, _, rfl, .of_some hp, rfl⟩)⟩
    · cases depth with
      | zero => cases h
      | succ depth =>
          obtain ⟨p, hp, h⟩ := Option.bind_eq_some_iff.mp h
          cases h
          exact ⟨_, _, rfl, .inr (.inr (.inl ⟨rfl, depth, _, rfl, .of_some hp, rfl⟩))⟩
    · rename_i hquote hmark hlist htable
      cases s with
      | nil => exact absurd hlt (Nat.not_lt_zero _)
      | cons c t =>
          refine ⟨c, t, rfl, .inr (.inr (.inr ⟨⟨?_, ?_, ?_, ?_⟩, hlt, h⟩))⟩
          · rintro rfl
            exact hquote t rfl
          · rintro rfl
            exact hmark t rfl
          · rintro rfl
            exact hlist t rfl
          · rintro rfl
            exact htable t rfl
  · rintro ⟨c, t, rfl, ⟨rfl | rfl, x, ⟨hr, h⟩, rfl⟩ | ⟨rfl, d, xs, rfl, ⟨hr, h⟩, rfl⟩
      | ⟨rfl, d, ms, rfl, ⟨hr, h⟩, rfl⟩ | ⟨⟨hquote, hmark, hlist, htable⟩, hr, h⟩⟩
    · refine ⟨hr, ?_⟩
      simp only [readValue, h, Option.bind_eq_bind, Option.bind_some]
      rfl
    · refine ⟨hr, ?_⟩
      simp only [readValue, h, Option.bind_eq_bind, Option.bind_some]
      rfl
    · refine ⟨Nat.lt_succ_of_lt hr, ?_⟩
      simp only [readValue, h, Option.bind_eq_bind, Option.bind_some]
      rfl
    · refine ⟨Nat.lt_succ_of_lt hr, ?_⟩
      simp only [readValue, h, Option.bind_eq_bind, Option.bind_some]
      rfl
    · have hword : readValue depth (c :: t) = readWord (c :: t) := by
        rw [readValue]
        all_goals
          intro u hu
          cases hu
          contradiction
      exact ⟨hr, hword.trans h⟩

/-! ## Statements -/

/-- The forms of a statement. -/
theorem readStatement_iff {st : Statement} :
    Reader.Reads readStatement s st r ↔
      (∃ t k, s = '[' :: '[' :: t ∧ Reader.Reads (readKey maxDepth) t k (']' :: ']' :: r)
        ∧ st = .element k)
      ∨ (∃ t k, s = '[' :: t ∧ t.head? ≠ some '['
        ∧ Reader.Reads (readKey maxDepth) t k (']' :: r) ∧ st = .table k)
      ∨ s.head? ≠ some '[' ∧ ∃ k u v, Reader.Reads readEntryKey s k u
        ∧ Reader.Reads (readValue maxDepth) (skipBlanks u) v r ∧ st = .entry k v := by
  constructor
  · rintro ⟨hlt, h⟩
    unfold readStatement at h
    split at h
    · obtain ⟨k, hk, h⟩ := Option.bind_eq_some_iff.mp h
      split at h
      · rename_i u hu
        cases h
        exact .inl ⟨_, _, rfl, hu ▸ (Reader.Reads.of_some hk :), rfl⟩
      · cases h
    · rename_i t hhead
      obtain ⟨k, hk, h⟩ := Option.bind_eq_some_iff.mp h
      split at h
      · rename_i u hu
        cases h
        refine .inr (.inl ⟨_, _, rfl, fun hhead' => ?_, hu ▸ (Reader.Reads.of_some hk :), rfl⟩)
        obtain ⟨v, rfl⟩ := List.head?_eq_some_iff.mp hhead'
        exact hhead v rfl
      · cases h
    · rename_i hlist htable
      obtain ⟨k, hk, h⟩ := Option.bind_eq_some_iff.mp h
      obtain ⟨x, hx, h⟩ := Option.bind_eq_some_iff.mp h
      cases h
      refine .inr (.inr ⟨fun hhead => ?_, _, _, _, .of_some hk, (Reader.Reads.of_some hx :), rfl⟩)
      obtain ⟨v, rfl⟩ := List.head?_eq_some_iff.mp hhead
      exact htable v rfl
  · rintro (⟨t, k, rfl, ⟨hr, h⟩, rfl⟩ | ⟨t, k, rfl, hhead, ⟨hr, h⟩, rfl⟩
      | ⟨hhead, k, u, v, ⟨hu, hk⟩, ⟨hr, hv⟩, rfl⟩)
    · refine ⟨by simp at hr ⊢; omega, ?_⟩
      simp only [readStatement, h, Option.bind_eq_bind, Option.bind_some]
      rfl
    · refine ⟨by simp at hr ⊢; omega, ?_⟩
      rw [readStatement, h]
      · rfl
      · rintro v rfl
        exact hhead rfl
    · refine ⟨by have := length_skipBlanks_le u; omega, ?_⟩
      rw [readStatement, hk]
      · simp only [Option.bind_eq_bind, Option.bind_some, hv]
        rfl
      · rintro v rfl
        exact hhead rfl
      · rintro v rfl
        exact hhead rfl

theorem readStatements_of_filler (hskip : skipFiller false s = some []) :
    readStatements s = some [] := by
  rw [readStatements, skipWithin_of_skipFiller hskip]
  rfl

theorem readStatements_of_statement {st : Statement} (hskip : skipFiller false s = some r)
    (hread : Reader.Reads readStatement r st u) (hends : endsLine u = true) :
    readStatements s = (readStatements u).map (st :: ·) := by
  obtain ⟨hlt, hst⟩ := hread
  cases r with
  | nil => exact absurd hlt (Nat.not_lt_zero _)
  | cons c t =>
      rw [readStatements, skipWithin_of_skipFiller hskip]
      simp only [Option.bind_eq_bind, Option.bind_some, hst, hends, if_true]
      cases readStatements u <;> rfl

theorem readStatements_inv {sts : List Statement} (h : readStatements s = some sts) :
    skipFiller false s = some [] ∧ sts = []
      ∨ ∃ r st u sts', skipFiller false s = some r ∧ Reader.Reads readStatement r st u
        ∧ endsLine u = true ∧ readStatements u = some sts' ∧ sts = st :: sts' := by
  rw [readStatements] at h
  obtain ⟨⟨r, hr⟩, hskip, h⟩ := Option.bind_eq_some_iff.mp h
  rw [skipWithin_eq_some] at hskip
  cases r with
  | nil =>
      cases h
      exact .inl ⟨hskip, rfl⟩
  | cons c t =>
      obtain ⟨p, hp, h⟩ := Option.bind_eq_some_iff.mp h
      split at h
      · rename_i hends
        obtain ⟨sts', hsts, h⟩ := Option.bind_eq_some_iff.mp h
        cases h
        exact .inr ⟨c :: t, p.value, p.rest, sts', hskip, .of_some hp, hends, hsts, rfl⟩
      · cases h

/-- Blanks, comments and line ends make no difference to what follows. -/
theorem readStatements_congr (h : skipFiller false s = skipFiller false t) :
    readStatements s = readStatements t := by
  have himp : ∀ {s t : List Char}, skipFiller false s = skipFiller false t → ∀ sts,
      readStatements s = some sts → readStatements t = some sts := by
    intro s t h sts hsts
    rcases readStatements_inv hsts with ⟨hskip, rfl⟩
      | ⟨r, st, u, sts, hskip, hread, hends, hlater, rfl⟩
    · exact readStatements_of_filler (h ▸ hskip)
    · rw [readStatements_of_statement (h ▸ hskip) hread hends, hlater]
      rfl
  exact Option.ext fun sts => ⟨himp h sts, himp h.symm sts⟩

/-- A text that is read does not start with a byte order mark, which only
documents may do. -/
theorem readStatements_mark (t : List Char) : readStatements ('\ufeff' :: t) = none := by
  cases hread : readStatements ('\ufeff' :: t) with
  | none => rfl
  | some sts =>
      have hfiller : skipFiller false ('\ufeff' :: t) = some ('\ufeff' :: t) := rfl
      rcases readStatements_inv hread with ⟨hskip, -⟩ | ⟨r, st, u, sts, hskip, hst, -⟩
      · cases hfiller.symm.trans hskip
      · obtain rfl := Option.some.inj (hfiller.symm.trans hskip)
        rcases readStatement_iff.mp hst with ⟨_, _, heq, -⟩ | ⟨_, _, heq, -⟩ | ⟨-, k, v, x, hk, -⟩
        · cases heq
        · cases heq
        · obtain ⟨y, w, hy, -⟩ := readKey_iff.mp (readEntryKey_iff.mp hk)
          obtain ⟨c, t', heq, ⟨hquote, -⟩ | ⟨-, hbare, -⟩⟩ := readSimpleKey_iff.mp hy
          · cases heq
            rcases hquote with h | h <;> cases h
          · cases heq
            cases hbare

theorem parse_of_statements {s : String} {sts : List Statement}
    (h : readStatements s.toList = some sts) : parse s = addStatements [] sts [] := by
  unfold parse
  split
  · rename_i t ht
    rw [ht, readStatements_mark] at h
    cases h
  · dsimp only
    rw [h]
    rfl

end GraphCourier.Toml
