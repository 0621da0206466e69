import GraphCourier.Proofs.Numerals
import GraphCourier.Proofs.TomlStatements

/-!
# Words and how they are written

Truth values, numbers, dates and times are words, and how each may be written is told
here without a reader (`WordText`): with underscores between digits, in any base, with a
sign, a fraction or an exponent, or as the parts of a date. Every word is read as the
value it was written for, up to where it ends (`WordText.reads`).
-/

namespace GraphCourier.Toml

variable {s t u r ds : List Char} {c : Char}

/-! ## Whole numbers -/

/-- Digits, and how they are written: single underscores may stand between them. -/
inductive DigitsText (isDigit : Char → Bool) : List Char → List Char → Prop where
  | one {d : Char} (hd : isDigit d = true) : DigitsText isDigit [d] [d]
  | more {d : Char} {ds t : List Char} (hd : isDigit d = true) (h : DigitsText isDigit ds t) :
      DigitsText isDigit (d :: ds) (d :: t)
  | mark {d : Char} {ds t : List Char} (hd : isDigit d = true) (h : DigitsText isDigit ds t) :
      DigitsText isDigit (d :: ds) (d :: '_' :: t)

/-- A sign, and whether it is a minus. -/
inductive SignText : Bool → List Char → Prop where
  | absent : SignText false []
  | plus : SignText false ['+']
  | minus : SignText true ['-']

/-- A number behind a sign. -/
def signed (negative : Bool) (n : Nat) : Int := if negative then -n else n

/-- Decimal digits of which the first one is a zero only if it is the only one. -/
structure WholeText (ds t : List Char) : Prop where
  digits : DigitsText Char.isDigit ds t
  zero : ds.head? = some '0' → ds = ['0']

/-- The letter that stands for a base. -/
inductive BaseMark : Nat → Char → Prop where
  | hexadecimal : BaseMark 16 'x'
  | octal : BaseMark 8 'o'
  | binary : BaseMark 2 'b'

/-- How a whole number may be written. -/
inductive IntegerText : Int → List Char → Prop where
  | decimal {negative : Bool} {sign ds t : List Char} (hsign : SignText negative sign)
      (h : WholeText ds t) : IntegerText (signed negative (Decimal.value ds)) (sign ++ t)
  | based {base : Nat} {mark : Char} {ds t : List Char} (hmark : BaseMark base mark)
      (h : DigitsText (isDigitOf base) ds t) :
      IntegerText (ds.foldl (fun n d => base * n + digitValue d) 0 : Nat) ('0' :: mark :: t)

section Integers

variable {isDigit : Char → Bool}

theorem DigitsText.cons (h : DigitsText isDigit ds t) :
    ∃ d ds' t', ds = d :: ds' ∧ t = d :: t' ∧ isDigit d = true := by
  cases h with
  | one hd => exact ⟨_, _, _, rfl, rfl, hd⟩
  | more hd => exact ⟨_, _, _, rfl, rfl, hd⟩
  | mark hd => exact ⟨_, _, _, rfl, rfl, hd⟩

theorem DigitsText.digits (h : DigitsText isDigit ds t) : ∀ d ∈ ds, isDigit d = true := by
  induction h with
  | one hd => exact List.forall_mem_singleton.mpr hd
  | more hd _ ih => exact List.forall_mem_cons.mpr ⟨hd, ih⟩
  | mark hd _ ih => exact List.forall_mem_cons.mpr ⟨hd, ih⟩

theorem DigitsText.chars (h : DigitsText isDigit ds t) : ∀ c ∈ t, isDigit c = true ∨ c = '_' := by
  induction h with
  | one hd => exact List.forall_mem_singleton.mpr (.inl hd)
  | more hd _ ih => exact List.forall_mem_cons.mpr ⟨.inl hd, ih⟩
  | mark hd _ ih =>
      exact List.forall_mem_cons.mpr ⟨.inl hd, List.forall_mem_cons.mpr ⟨.inr rfl, ih⟩⟩

theorem DigitsText.reads (hmark : isDigit '_' = false) (h : DigitsText isDigit ds t) (due : Bool) :
    digits? isDigit due t = some ds := by
  induction h generalizing due with
  | one hd => rw [digits?, if_pos hd]; rfl
  | more hd _ ih => rw [digits?, if_pos hd, ih]; rfl
  | mark hd _ ih =>
      rw [digits?, if_pos hd, digits?, if_neg (by rw [hmark]; nofun), if_pos ⟨rfl, rfl⟩, ih]
      rfl

theorem DigitsText.of_digits (hne : ds ≠ []) (h : ∀ d ∈ ds, isDigit d = true) :
    DigitsText isDigit ds ds := by
  induction ds with
  | nil => exact absurd rfl hne
  | cons d ds ih =>
      obtain ⟨hd, hds⟩ := List.forall_mem_cons.mp h
      cases ds with
      | nil => exact .one hd
      | cons e ds => exact .more hd (ih (List.cons_ne_nil e ds) hds)

/-- Digits with anything else among them are none. -/
theorem digits?_eq_none (hc : isDigit c = false) (hmark : c ≠ '_') (hmem : c ∈ t) (due : Bool) :
    digits? isDigit due t = none := by
  induction t generalizing due with
  | nil => cases hmem
  | cons d t ih =>
      rw [digits?]
      rcases List.mem_cons.mp hmem with rfl | hmem
      · rw [if_neg (by rw [hc]; nofun), if_neg fun h => hmark h.1]
      · split
        · rw [ih hmem]; rfl
        · split
          · exact ih hmem true
          · rfl

theorem WholeText.reads (h : WholeText ds t) : decimal? t = some ds := by
  rw [decimal?, h.digits.reads rfl]
  refine if_pos ?_
  by_cases hhead : ds.head? = some '0'
  · rw [h.zero hhead]
    exact .inl (Nat.le_refl 1)
  · exact .inr hhead

theorem decimal?_eq_none (hc : c.isDigit = false) (hmark : c ≠ '_') (hmem : c ∈ t) :
    decimal? t = none := by
  rw [decimal?, digits?_eq_none hc hmark hmem]

theorem wholeText_digits (n : Nat) : WholeText (Decimal.digits n) (Decimal.digits n) := by
  obtain ⟨⟨hne, hdigits⟩, hzero⟩ := Json.Numeral.wholeText_digits n
  exact ⟨.of_digits hne hdigits, hzero⟩

theorem SignText.split {negative : Bool} (h : SignText negative s)
    (ht : ∀ c u, t = c :: u → c ≠ '+' ∧ c ≠ '-') : splitSign (s ++ t) = (negative, t) := by
  cases h with
  | plus => rfl
  | minus => rfl
  | absent =>
      rw [List.nil_append]
      unfold splitSign
      split
      · exact absurd rfl (ht _ _ rfl).1
      · exact absurd rfl (ht _ _ rfl).2
      · rfl

theorem SignText.chars {negative : Bool} (h : SignText negative s) :
    ∀ c ∈ s, c = '+' ∨ c = '-' := by
  cases h <;> simp

theorem isDigit_ne_sign (h : c.isDigit = true) : c ≠ '+' ∧ c ≠ '-' := by
  constructor
  all_goals
    rintro rfl
    cases h

theorem DigitsText.no_sign (h : DigitsText Char.isDigit ds t) (u : List Char) :
    ∀ c v, t ++ u = c :: v → c ≠ '+' ∧ c ≠ '-' := by
  intro c v hcv
  obtain ⟨d, ds, t, rfl, rfl, hd⟩ := h.cons
  exact (List.cons.inj hcv).1 ▸ isDigit_ne_sign hd

/-- Numbers that do not give a base are decimal. -/
theorem integer?_decimal (h : ∀ c t, s = '0' :: c :: t → c ∉ ['x', 'o', 'b']) :
    integer? s = (decimal? (splitSign s).2).map fun ds =>
      signed (splitSign s).1 (Decimal.value ds) := by
  unfold integer?
  split
  · exact absurd (by simp) (h _ _ rfl)
  · exact absurd (by simp) (h _ _ rfl)
  · exact absurd (by simp) (h _ _ rfl)
  · rfl

/-- A sign and digits do not start like a base. -/
theorem not_based {negative : Bool} (hs : SignText negative s)
    (ht : ∀ c ∈ t, c.isDigit = true ∨ c = '_') (hu : ∀ c v, u = c :: v → c ∉ ['x', 'o', 'b'])
    (hne : t ≠ []) : ∀ c v, s ++ (t ++ u) = '0' :: c :: v → c ∉ ['x', 'o', 'b'] := by
  intro c v hcv
  cases hs with
  | plus => cases hcv
  | minus => cases hcv
  | absent =>
      match t, hne with
      | [d], _ => exact hu c v (List.cons.inj hcv).2
      | d :: e :: t, _ =>
          have he := ht e (by simp)
          obtain rfl : e = c := (List.cons.inj (List.cons.inj hcv).2).1
          intro hmem
          simp only [List.mem_cons, List.not_mem_nil, or_false] at hmem
          rcases hmem with rfl | rfl | rfl <;> simp at he

theorem IntegerText.reads {n : Int} (h : IntegerText n s) : integer? s = some n := by
  cases h with
  | @decimal negative sign ds t hsign h =>
      have hsplit := hsign.split (t := t) (by simpa using h.digits.no_sign [])
      have hbase := not_based hsign h.digits.chars (u := []) nofun (by
        obtain ⟨d, ds', t', -, rfl, -⟩ := h.digits.cons
        exact List.cons_ne_nil d t')
      rw [List.append_nil] at hbase
      rw [integer?_decimal hbase, hsplit, h.reads]
      rfl
  | @based base mark ds t hmark h =>
      have hdigits : isDigitOf base '_' = false := rfl
      have hread : unsigned? base t = some (ds.foldl (fun n d => base * n + digitValue d) 0) := by
        rw [unsigned?, h.reads hdigits]
        rfl
      cases hmark <;> exact congrArg (Option.map Int.ofNat) hread

end Integers

/-! ## Numbers with a point or an exponent -/

inductive FractionText : List Char → List Char → Prop where
  | absent : FractionText [] []
  | present {ds t : List Char} (h : DigitsText Char.isDigit ds t) : FractionText ds ('.' :: t)

inductive ExponentText : Int → List Char → Prop where
  | absent : ExponentText 0 []
  | present {e : Char} {negative : Bool} {sign ds t : List Char} (he : e = 'e' ∨ e = 'E')
      (hsign : SignText negative sign) (h : DigitsText Char.isDigit ds t) :
      ExponentText (signed negative (Decimal.value ds)) (e :: (sign ++ t))

/-- The number `ds * 10 ^ x` does not round to infinity. -/
def InRange (ds : List Char) (x : Int) : Prop :=
  Decimal.value ds * Nat.pow 10 x.toNat < doubleLimit * Nat.pow 10 (-x).toNat

instance (ds : List Char) (x : Int) : Decidable (InRange ds x) := Nat.decLt ..

/-- How a number with a point or an exponent may be written. -/
inductive RealText : List Char → Prop where
  | finite {negative : Bool} {x : Int} {ds fs sign whole fraction exponent : List Char}
      (hsign : SignText negative sign) (hwhole : WholeText ds whole)
      (hfraction : FractionText fs fraction) (hexponent : ExponentText x exponent)
      (hpart : fraction ++ exponent ≠ []) (hrange : InRange (ds ++ fs) (x - fs.length)) :
      RealText (sign ++ (whole ++ (fraction ++ exponent)))
  | infinite {negative : Bool} {sign : List Char} (hsign : SignText negative sign) :
      RealText (sign ++ ['i', 'n', 'f'])
  | noNumber {negative : Bool} {sign : List Char} (hsign : SignText negative sign) :
      RealText (sign ++ ['n', 'a', 'n'])

section Reals

theorem value_dropWhile_zero (ds : List Char) :
    Decimal.value (ds.dropWhile (· == '0')) = Decimal.value ds := by
  induction ds with
  | nil => rfl
  | cons d ds ih =>
      by_cases hd : d = '0'
      · subst hd
        exact ih
      · rw [List.dropWhile_cons_of_neg (by simpa using hd)]

/-- A number has at least the size that the count of its digits gives it. -/
theorem le_value {d : Char} (hd : d.isDigit = true) (hzero : d ≠ '0') (ds : List Char) :
    Nat.pow 10 ds.length ≤ Decimal.value (d :: ds) := by
  have hgrow : ∀ ds k, k * Nat.pow 10 ds.length ≤ Nat.ofDigitChars 10 ds k := by
    intro ds
    induction ds with
    | nil => exact fun k => Nat.le_of_eq (Nat.mul_one k)
    | cons e ds ih =>
        intro k
        rw [Nat.ofDigitChars_cons]
        calc k * Nat.pow 10 (e :: ds).length = 10 * k * Nat.pow 10 ds.length := by
              rw [List.length_cons, Nat.pow_eq, Nat.pow_eq, Nat.pow_succ', ← Nat.mul_assoc,
                Nat.mul_comm k]
          _ ≤ (10 * k + (e.toNat - '0'.toNat)) * Nat.pow 10 ds.length :=
              Nat.mul_le_mul_right _ (Nat.le_add_right _ _)
          _ ≤ _ := ih _
  have hone : 1 ≤ d.toNat - '0'.toNat := by
    have hle : '0'.toNat ≤ d.toNat := (Char.isDigit_iff_toNat.mp hd).1
    have hne : d.toNat ≠ '0'.toNat := fun h => hzero (Char.toNat_inj.mp h)
    omega
  calc Nat.pow 10 ds.length = 1 * Nat.pow 10 ds.length := (Nat.one_mul _).symm
    _ ≤ (d.toNat - '0'.toNat) * Nat.pow 10 ds.length := Nat.mul_le_mul_right _ hone
    _ ≤ Nat.ofDigitChars 10 ds (d.toNat - '0'.toNat) := hgrow ds _
    _ = Decimal.value (d :: ds) := by
        rw [Decimal.value, Nat.ofDigitChars_cons, Nat.mul_zero, Nat.zero_add]

theorem doubleLimit_le {n : Nat} (hn : 309 ≤ n) : doubleLimit ≤ Nat.pow 10 n := by
  obtain ⟨m, hm, hlarge⟩ : ∃ m, m ≤ 309 ∧ doubleLimit ≤ Nat.pow 10 m :=
    ⟨309, Nat.le_refl 309, by decide +kernel⟩
  exact Nat.le_trans hlarge (Nat.pow_le_pow_right (by decide) (Nat.le_trans hm hn))

/-- A number that is not too large has at most 309 places. -/
theorem InRange.places {d : Char} {x : Int} (hd : d.isDigit = true) (hzero : d ≠ '0')
    (h : InRange (d :: ds) x) : x + (d :: ds).length ≤ 309 := by
  refine Int.not_lt.mp fun hlt => Nat.not_le.mpr h ?_
  obtain ⟨n, hn, hlarge⟩ : ∃ n, ds.length + x.toNat = n + (-x).toNat ∧ 309 ≤ n := by
    rw [List.length_cons] at hlt
    exact ⟨ds.length + x.toNat - (-x).toNat, by omega, by omega⟩
  have hpow : ∀ i j, Nat.pow 10 i * Nat.pow 10 j = Nat.pow 10 (i + j) := fun i j =>
    (Nat.pow_add 10 i j).symm
  calc doubleLimit * Nat.pow 10 (-x).toNat
      ≤ Nat.pow 10 n * Nat.pow 10 (-x).toNat := Nat.mul_le_mul_right _ (doubleLimit_le hlarge)
    _ = Nat.pow 10 ds.length * Nat.pow 10 x.toNat := by rw [hpow, hpow, hn]
    _ ≤ Decimal.value (d :: ds) * Nat.pow 10 x.toNat :=
        Nat.mul_le_mul_right _ (le_value hd hzero ds)

theorem InRange.fits {x : Int} (hds : ∀ d ∈ ds, d.isDigit = true) (h : InRange ds x) :
    fitsDouble ds x = true := by
  have hvalue := value_dropWhile_zero ds
  unfold fitsDouble
  match hdrop : ds.dropWhile (· == '0') with
  | [] => rfl
  | d :: ds' =>
      rw [hdrop] at hvalue
      have hd : d.isDigit = true :=
        hds d ((List.dropWhile_suffix _).subset (hdrop ▸ List.mem_cons_self ..))
      have hzero : d ≠ '0' := by
        have hne : ds.dropWhile (· == '0') ≠ [] := by rw [hdrop]; nofun
        have hhead := List.head_dropWhile_not (· == '0') hne
        simp only [hdrop, List.head_cons] at hhead
        exact beq_eq_false_iff_ne.mp hhead
      have hrange : InRange (d :: ds') x :=
        Nat.lt_of_le_of_lt (Nat.le_of_eq (congrArg (· * Nat.pow 10 x.toNat) hvalue)) h
      have hplaces := hrange.places hd hzero
      dsimp only
      rw [if_neg (Int.not_lt.mpr hplaces)]
      split
      · rfl
      · exact decide_eq_true hrange

theorem FractionText.digits (h : FractionText ds t) : ∀ d ∈ ds, d.isDigit = true := by
  cases h with
  | absent => exact nofun
  | present h => exact h.digits

theorem DigitsText.span (h : DigitsText Char.isDigit ds t)
    (hu : ∀ c v, u = c :: v → (c.isDigit || c == '_') = false) :
    (t ++ u).takeWhile (fun c => c.isDigit || c == '_') = t
      ∧ (t ++ u).dropWhile (fun c => c.isDigit || c == '_') = u := by
  have hall : ∀ c ∈ t, (c.isDigit || c == '_') = true := fun c hc => by
    rcases h.chars c hc with hd | rfl
    · simp [hd]
    · rfl
  rw [List.takeWhile_append_of_pos hall, List.dropWhile_append_of_pos hall]
  cases u with
  | nil => simp
  | cons c u => simp [hu c u rfl]

theorem ExponentText.head {x : Int} (h : ExponentText x t) :
    ∀ c u, t = c :: u → c = 'e' ∨ c = 'E' := by
  intro c u hcu
  cases h with
  | absent => cases hcu
  | present he => exact (List.cons.inj hcu).1 ▸ he

theorem ExponentText.not_part {x : Int} (h : ExponentText x t) :
    ∀ c u, t = c :: u → (c.isDigit || c == '_') = false := by
  intro c u hcu
  rcases h.head c u hcu with rfl | rfl <;> rfl

theorem FractionText.reads (h : FractionText ds t) {x : Int} (hu : ExponentText x u) :
    fraction? (t ++ u) = some (ds, u) := by
  cases h with
  | absent =>
      rw [List.nil_append]
      unfold fraction?
      split
      · rcases hu.head _ _ rfl with h | h <;> cases h
      · rfl
  | present h =>
      obtain ⟨htake, hdrop⟩ := h.span hu.not_part
      rw [List.cons_append]
      simp only [fraction?, htake, hdrop, h.reads rfl, Option.map_some]

theorem exponent?_text {negative : Bool} {sign : List Char} (hsign : SignText negative sign)
    (h : DigitsText Char.isDigit ds t) :
    exponent? (sign ++ t) = some (signed negative (Decimal.value ds)) := by
  have hsplit := hsign.split (t := t) (by simpa using h.no_sign [])
  simp only [exponent?, hsplit, h.reads rfl, Option.map_some, signed]

/-- What follows the whole part of a number starts with a point or an exponent. -/
theorem FractionText.head (h : FractionText ds t) {x : Int} (hu : ExponentText x u) :
    ∀ c v, t ++ u = c :: v → c = '.' ∨ c = 'e' ∨ c = 'E' := by
  intro c v hcv
  cases h with
  | absent => exact .inr (hu.head c v hcv)
  | present => exact .inl (List.cons.inj hcv).1.symm

theorem RealText.not_integer (h : RealText s) : integer? s = none := by
  cases h with
  | @finite negative x ds fs sign whole fraction exponent hsign hwhole hfraction hexponent hpart =>
      obtain ⟨c, v, hcv⟩ := List.exists_cons_of_ne_nil hpart
      have hc := hfraction.head hexponent c v hcv
      have hbase := not_based hsign hwhole.digits.chars (u := fraction ++ exponent)
        (fun d w hdw => by
          rcases hfraction.head hexponent d w hdw with rfl | rfl | rfl <;> decide) (by
        obtain ⟨d, ds', t', -, rfl, -⟩ := hwhole.digits.cons
        exact List.cons_ne_nil d t')
      have hsplit := hsign.split (hwhole.digits.no_sign (fraction ++ exponent))
      rw [integer?_decimal hbase, hsplit, decimal?_eq_none (c := c)]
      · rfl
      · rcases hc with rfl | rfl | rfl <;> rfl
      · rcases hc with rfl | rfl | rfl <;> decide
      · rw [hcv]
        exact List.mem_append_right _ (List.mem_cons_self ..)
  | infinite hsign => cases hsign <;> rfl
  | noNumber hsign => cases hsign <;> rfl

theorem RealText.reads (h : RealText s) : (isFinite s || isSpecial s) = true := by
  cases h with
  | @finite negative x ds fs sign whole fraction exponent hsign hwhole hfraction hexponent hpart
      hrange =>
      have hsplit := hsign.split (hwhole.digits.no_sign (fraction ++ exponent))
      obtain ⟨htake, hdrop⟩ := hwhole.digits.span (u := fraction ++ exponent) fun c v hcv => by
        rcases hfraction.head hexponent c v hcv with rfl | rfl | rfl <;> rfl
      have hdigits : ∀ d ∈ ds ++ fs, d.isDigit = true := fun d hd =>
        (List.mem_append.mp hd).elim (hwhole.digits.digits d) (hfraction.digits d)
      have hfits := hrange.fits hdigits
      have hread := hfraction.reads hexponent
      refine Bool.or_eq_true_iff.mpr (.inl ?_)
      simp only [isFinite, hsplit, htake, hdrop, hwhole.reads, hread]
      cases hexponent with
      | absent =>
          rw [List.append_nil] at hpart ⊢
          simp only [List.isEmpty_eq_false_iff.mpr hpart, Bool.not_false, Bool.true_and]
          simpa using hfits
      | present he hesign hds =>
          simp only [if_pos he, exponent?_text hesign hds]
          exact hfits
  | infinite hsign => cases hsign <;> rfl
  | noNumber hsign => cases hsign <;> rfl

end Reals

/-! ## Dates and times -/

/-- A number of so many digits within bounds. -/
structure FieldText (count lo hi n : Nat) (t : List Char) : Prop where
  length : t.length = count
  digits : ∀ d ∈ t, d.isDigit = true
  value : Decimal.value t = n
  low : lo ≤ n
  high : n ≤ hi

inductive DateText : List Char → Prop where
  | mk {year month day : Nat} {y m d : List Char} (hyear : FieldText 4 0 9999 year y)
      (hmonth : FieldText 2 1 12 month m) (hday : FieldText 2 1 (daysOf year month) day d) :
      DateText (y ++ '-' :: (m ++ '-' :: d))

/-- The seconds of a time, which may be missing. -/
inductive SecondsText : List Char → Prop where
  | absent : SecondsText []
  | whole {n : Nat} {t : List Char} (h : FieldText 2 0 60 n t) : SecondsText (':' :: t)
  | fraction {n : Nat} {t ds : List Char} (h : FieldText 2 0 60 n t) (hne : ds ≠ [])
      (hds : ∀ d ∈ ds, d.isDigit = true) : SecondsText (':' :: (t ++ '.' :: ds))

inductive TimeText : List Char → Prop where
  | mk {hour minute : Nat} {h m t : List Char} (hhour : FieldText 2 0 23 hour h)
      (hminute : FieldText 2 0 59 minute m) (hsecond : SecondsText t) :
      TimeText (h ++ ':' :: (m ++ t))

/-- The offset of a time from that of Greenwich, which may be missing. -/
inductive OffsetText : List Char → Prop where
  | absent : OffsetText []
  | zero {c : Char} (hc : c = 'Z' ∨ c = 'z') : OffsetText [c]
  | given {c : Char} {hours minutes : Nat} {h m : List Char} (hc : c = '+' ∨ c = '-')
      (hhours : FieldText 2 0 99 hours h) (hminutes : FieldText 2 0 99 minutes m)
      (hday : 60 * hours + minutes ≤ 24 * 60) : OffsetText (c :: (h ++ ':' :: m))

/-- How a date, a time, or both may be written. -/
inductive MomentText : List Char → Prop where
  | date {t : List Char} (h : DateText t) : MomentText t
  | time {t : List Char} (h : TimeText t) : MomentText t
  | both {c : Char} {d t o : List Char} (hc : c = 'T' ∨ c = 't' ∨ c = ' ') (hdate : DateText d)
      (htime : TimeText t) (hoffset : OffsetText o) : MomentText (d ++ c :: (t ++ o))

section Moments

theorem FieldText.reads {count lo hi n : Nat} (h : FieldText count lo hi n t) (r : List Char) :
    field? count lo hi (t ++ r) = some (n, r) := by
  have htake : (t ++ r).take count = t := List.take_left' h.length
  have hdrop : (t ++ r).drop count = r := List.drop_left' h.length
  rw [field?]
  simp only [htake, hdrop, h.value]
  exact if_pos ⟨h.length, List.all_eq_true.mpr h.digits, h.low, h.high⟩

theorem DateText.reads (h : DateText t) (r : List Char) : date? (t ++ r) = some r := by
  obtain ⟨hyear, hmonth, hday⟩ := h
  simp only [date?, mark?, List.append_assoc, List.cons_append, hyear.reads, hmonth.reads,
    hday.reads, Option.bind_eq_bind, Option.bind_some, if_true, Option.pure_def]

/-- What may follow a time goes on with neither seconds nor digits. -/
theorem OffsetText.head (h : OffsetText t) :
    ∀ c u, t = c :: u → c ≠ ':' ∧ c ≠ '.' ∧ c.isDigit = false := by
  intro c u hcu
  have hc : c = 'Z' ∨ c = 'z' ∨ c = '+' ∨ c = '-' := by
    cases h with
    | absent => cases hcu
    | zero hc =>
        obtain rfl := (List.cons.inj hcu).1
        exact hc.elim .inl (.inr ∘ .inl)
    | given hc =>
        obtain rfl := (List.cons.inj hcu).1
        exact .inr (.inr hc)
  rcases hc with rfl | rfl | rfl | rfl <;> decide

theorem secondFraction?_digits (hne : ds ≠ []) (hds : ∀ d ∈ ds, d.isDigit = true)
    (hr : ∀ c u, r = c :: u → c.isDigit = false) :
    secondFraction? ('.' :: (ds ++ r)) = some r := by
  have hstop : r.takeWhile Char.isDigit = [] ∧ r.dropWhile Char.isDigit = r := by
    cases r with
    | nil => exact ⟨rfl, rfl⟩
    | cons c r => simp [hr c r rfl]
  rw [secondFraction?, List.takeWhile_append_of_pos hds, List.dropWhile_append_of_pos hds,
    hstop.1, hstop.2, List.append_nil, if_neg]
  simpa using hne

theorem SecondsText.reads (h : SecondsText s) (hr : OffsetText r) :
    (match s ++ r with
      | ':' :: cs => do
        let (_, cs) ← field? 2 0 60 cs
        secondFraction? cs
      | cs => some cs) = some r := by
  cases h with
  | absent =>
      rw [List.nil_append]
      split
      · exact absurd rfl (hr.head _ _ rfl).1
      · rfl
  | whole h =>
      simp only [List.cons_append, h.reads, Option.bind_eq_bind, Option.bind_some]
      unfold secondFraction?
      split
      · exact absurd rfl (hr.head _ _ rfl).2.1
      · rfl
  | fraction h hne hds =>
      simp only [List.cons_append, List.append_assoc, h.reads, Option.bind_eq_bind,
        Option.bind_some]
      exact secondFraction?_digits hne hds fun c u hcu => (hr.head c u hcu).2.2

theorem TimeText.reads (h : TimeText t) (hr : OffsetText r) : time? (t ++ r) = some r := by
  obtain ⟨hhour, hminute, hsecond⟩ := h
  simp only [time?, mark?, List.append_assoc, List.cons_append, hhour.reads, hminute.reads,
    Option.bind_eq_bind, Option.bind_some, if_true]
  exact hsecond.reads hr

theorem OffsetText.reads (h : OffsetText t) : (t.isEmpty || isOffset t) = true := by
  cases h with
  | absent => rfl
  | zero hc => rcases hc with rfl | rfl <;> rfl
  | @given c hours minutes h m hc hhours hminutes hday =>
      have hread : (do
          let (hours, cs) ← field? 2 0 99 (h ++ ':' :: m)
          let (minutes, cs) ← field? 2 0 99 (← mark? ':' cs)
          return (60 * hours + minutes, cs) : Option (Nat × List Char)) =
            some (60 * hours + minutes, []) := by
        have hlast := hminutes.reads []
        rw [List.append_nil] at hlast
        simp only [mark?, hhours.reads, hlast, Option.bind_eq_bind, Option.bind_some, if_true,
          Option.pure_def]
      refine Bool.or_eq_true_iff.mpr (.inr ?_)
      unfold isOffset
      split
      · rfl
      · rfl
      · rename_i heq
        obtain ⟨rfl, rfl⟩ := List.cons.inj heq
        rw [if_pos hc]
        simp only [hread, List.isEmpty_nil, Bool.true_and]
        exact decide_eq_true hday
      · rename_i heq
        cases heq

theorem FieldText.ne_nil {count lo hi n : Nat} (h : FieldText (count + 1) lo hi n t) : t ≠ [] := by
  rintro rfl
  cases h.length

/-- Dates and times start with digits and a mark that stands in no number. -/
theorem MomentText.lead (h : MomentText t) :
    ∃ ds c u, t = ds ++ c :: u ∧ ds ≠ [] ∧ (∀ d ∈ ds, d.isDigit = true) ∧ (c = '-' ∨ c = ':') := by
  cases h with
  | date h =>
      obtain ⟨hyear, -, -⟩ := h
      exact ⟨_, '-', _, rfl, hyear.ne_nil, hyear.digits, .inl rfl⟩
  | time h =>
      obtain ⟨hhour, -, -⟩ := h
      exact ⟨_, ':', _, rfl, hhour.ne_nil, hhour.digits, .inr rfl⟩
  | both _ h =>
      obtain ⟨hyear, -, -⟩ := h
      rw [List.append_assoc, List.cons_append]
      exact ⟨_, '-', _, rfl, hyear.ne_nil, hyear.digits, .inl rfl⟩

/-- Digits and such a mark are the start of no number. -/
theorem not_number (hne : ds ≠ []) (hds : ∀ d ∈ ds, d.isDigit = true) (hc : c = '-' ∨ c = ':')
    (u : List Char) :
    integer? (ds ++ c :: u) = none ∧ isFinite (ds ++ c :: u) = false
      ∧ isSpecial (ds ++ c :: u) = false := by
  have hdigits : DigitsText Char.isDigit ds ds := .of_digits hne hds
  have hmark :
      c.isDigit = false ∧ c ≠ '_' ∧ c ≠ '.' ∧ c ∉ ['x', 'o', 'b'] ∧ ¬(c = 'e' ∨ c = 'E') := by
    rcases hc with rfl | rfl <;> decide
  obtain ⟨hdigit, hunder, hpoint, hbased, hexponent⟩ := hmark
  have hsign : splitSign (ds ++ c :: u) = (false, ds ++ c :: u) :=
    SignText.absent.split (hdigits.no_sign (c :: u))
  have hbase := not_based .absent (fun d hd => .inl (hds d hd)) (u := c :: u)
    (fun d w hdw => (List.cons.inj hdw).1 ▸ hbased) hne
  rw [List.nil_append] at hbase
  obtain ⟨htake, hdrop⟩ := hdigits.span (u := c :: u) fun d w hdw => by
    obtain rfl := (List.cons.inj hdw).1
    rcases hc with rfl | rfl <;> rfl
  have hfraction : fraction? (c :: u) = some ([], c :: u) := by
    unfold fraction?
    split
    · rename_i heq
      exact absurd (List.cons.inj heq).1 hpoint
    · rfl
  refine ⟨?_, ?_, ?_⟩
  · rw [integer?_decimal hbase, hsign,
      decimal?_eq_none hdigit hunder (List.mem_append_right _ (List.mem_cons_self ..))]
    rfl
  · simp only [isFinite, hsign, htake, hdrop, hfraction]
    cases decimal? ds with
    | none => rfl
    | some whole => exact if_neg hexponent
  · simp only [isSpecial, hsign]
    match ds, hne with
    | d :: ds, _ =>
        have hd := hds d (List.mem_cons_self ..)
        have hletter : d ≠ 'i' ∧ d ≠ 'n' := by
          constructor
          all_goals
            rintro rfl
            cases hd
        simp [hletter]

theorem MomentText.reads (h : MomentText t) : isMoment t = true := by
  cases h with
  | date h =>
      have hdate := h.reads []
      rw [List.append_nil] at hdate
      rw [isMoment, hdate]
  | time h =>
      have htime := h.reads .absent
      rw [List.append_nil] at htime
      have hdate : date? t = none := by
        obtain ⟨hhour, hminute, hsecond⟩ := h
        rename_i hour minute h m v
        match h, hhour.length with
        | [a, b], _ =>
            have hfield : field? 4 0 9999 ([a, b] ++ ':' :: (m ++ v)) = none := by
              refine if_neg fun hall => ?_
              have hcolon := List.all_eq_true.mp hall.2.1 ':' (by simp)
              cases hcolon
            rw [date?, hfield]
            rfl
      rw [isMoment, hdate]
      simp [htime]
  | @both c d t o hc hdate htime hoffset =>
      rw [isMoment, hdate.reads]
      simp only [htime.reads hoffset, hoffset.reads]
      rcases hc with rfl | rfl | rfl <;> rfl

end Moments

/-! ## Any word -/

/-- How a value may be written without quotes and brackets. -/
inductive WordText : Value → List Char → Prop where
  | yes : WordText (.flag true) ['t', 'r', 'u', 'e']
  | no : WordText (.flag false) ['f', 'a', 'l', 's', 'e']
  | integer {n : Int} {t : List Char} (h : IntegerText n t) : WordText (.integer n) t
  | real {t : List Char} (h : RealText t) : WordText (.real (String.ofList t)) t
  | moment {t : List Char} (h : MomentText t) : WordText (.moment (String.ofList t)) t

section Words

variable {v : Value}

theorem WordText.value (h : WordText v t) : wordValue? t = some v := by
  cases h with
  | yes => rfl
  | no => rfl
  | integer h =>
      have hread := h.reads
      have hword : ∀ w, integer? w = none → t ≠ w := by
        rintro w hw rfl
        cases hw.symm.trans hread
      rw [wordValue?, if_neg (hword _ rfl), if_neg (hword _ rfl), hread]
  | real h =>
      have hread := h.reads
      have hword : ∀ w, (isFinite w || isSpecial w) = false → t ≠ w := by
        rintro w hw rfl
        cases hw.symm.trans hread
      rw [wordValue?, if_neg (hword _ rfl), if_neg (hword _ rfl), h.not_integer]
      exact if_pos hread
  | moment h =>
      have hread := h.reads
      obtain ⟨ds, c, u, rfl, hne, hds, hc⟩ := h.lead
      obtain ⟨hinteger, hfinite, hspecial⟩ := not_number hne hds hc u
      have hword : ∀ w, isMoment w = false → ds ++ c :: u ≠ w := by
        rintro w hw heq
        rw [heq, hw] at hread
        cases hread
      rw [wordValue?, if_neg (hword _ rfl), if_neg (hword _ rfl), hinteger]
      simp only [hfinite, hspecial, Bool.or_self, Bool.false_eq_true, if_false, hread, if_true]

/-! ## Where words end -/

theorem isWordChar_digit (h : c.isDigit = true) : isWordChar c = true := by
  simp [isWordChar, Char.isAlphanum, h]

theorem FieldText.word {count lo hi n : Nat} (h : FieldText count lo hi n t) :
    ∀ c ∈ t, isWordChar c = true := fun c hc => isWordChar_digit (h.digits c hc)

theorem DigitsText.word {isDigit : Char → Bool} (h : DigitsText isDigit ds t)
    (hdigit : ∀ c, isDigit c = true → isWordChar c = true) : ∀ c ∈ t, isWordChar c = true := by
  intro c hc
  rcases h.chars c hc with hd | rfl
  · exact hdigit c hd
  · rfl

theorem SignText.word {negative : Bool} (h : SignText negative s) :
    ∀ c ∈ s, isWordChar c = true := by
  intro c hc
  rcases h.chars c hc with rfl | rfl <;> rfl

theorem isDigitOf_word {base : Nat} (h : isDigitOf base c = true) : isWordChar c = true := by
  simp only [isDigitOf, Bool.and_eq_true, Bool.or_eq_true, decide_eq_true_eq] at h
  have hlower : 'a' ≤ c → c ≤ 'f' → c.isLower = true := fun hlow hhigh =>
    Bool.and_eq_true_iff.mpr
      ⟨decide_eq_true hlow, decide_eq_true (Char.le_trans hhigh (by decide : 'f' ≤ 'z'))⟩
  have hupper : 'A' ≤ c → c ≤ 'F' → c.isUpper = true := fun hlow hhigh =>
    decide_eq_true (And.intro hlow (Char.le_trans hhigh (by decide : 'F' ≤ 'Z')))
  have halnum : c.isAlphanum = true := by
    rcases h.1 with (hdigit | ⟨hlow, hhigh⟩) | ⟨hlow, hhigh⟩
    · exact Bool.or_eq_true_iff.mpr (.inr hdigit)
    · exact Bool.or_eq_true_iff.mpr (.inl (Bool.or_eq_true_iff.mpr (.inr (hlower hlow hhigh))))
    · exact Bool.or_eq_true_iff.mpr (.inl (Bool.or_eq_true_iff.mpr (.inl (hupper hlow hhigh))))
  simp [isWordChar, halnum]

theorem IntegerText.word {n : Int} (h : IntegerText n t) : ∀ c ∈ t, isWordChar c = true := by
  cases h with
  | decimal hsign h =>
      exact List.forall_mem_append.mpr
        ⟨hsign.word, h.digits.word fun c hc => isWordChar_digit hc⟩
  | based hmark h =>
      refine List.forall_mem_cons.mpr ⟨rfl, List.forall_mem_cons.mpr ⟨?_, ?_⟩⟩
      · cases hmark <;> rfl
      · exact h.word fun c hc => isDigitOf_word hc

theorem RealText.word (h : RealText t) : ∀ c ∈ t, isWordChar c = true := by
  have hdigits : ∀ {ds t}, DigitsText Char.isDigit ds t → ∀ c ∈ t, isWordChar c = true :=
    fun h => h.word fun c hc => isWordChar_digit hc
  cases h with
  | finite hsign hwhole hfraction hexponent =>
      refine List.forall_mem_append.mpr ⟨hsign.word, List.forall_mem_append.mpr
        ⟨hdigits hwhole.digits, List.forall_mem_append.mpr ⟨?_, ?_⟩⟩⟩
      · cases hfraction with
        | absent => exact nofun
        | present h => exact List.forall_mem_cons.mpr ⟨rfl, hdigits h⟩
      · cases hexponent with
        | absent => exact nofun
        | present he hsign h =>
            refine List.forall_mem_cons.mpr ⟨?_, List.forall_mem_append.mpr
              ⟨hsign.word, hdigits h⟩⟩
            rcases he with rfl | rfl <;> rfl
  | infinite hsign =>
      exact List.forall_mem_append.mpr ⟨hsign.word, List.all_eq_true.mp rfl⟩
  | noNumber hsign =>
      exact List.forall_mem_append.mpr ⟨hsign.word, List.all_eq_true.mp rfl⟩

theorem DateText.word (h : DateText t) : ∀ c ∈ t, isWordChar c = true := by
  obtain ⟨hyear, hmonth, hday⟩ := h
  exact List.forall_mem_append.mpr ⟨hyear.word, List.forall_mem_cons.mpr ⟨rfl,
    List.forall_mem_append.mpr ⟨hmonth.word, List.forall_mem_cons.mpr ⟨rfl, hday.word⟩⟩⟩⟩

theorem TimeText.word (h : TimeText t) : ∀ c ∈ t, isWordChar c = true := by
  obtain ⟨hhour, hminute, hsecond⟩ := h
  refine List.forall_mem_append.mpr ⟨hhour.word, List.forall_mem_cons.mpr ⟨rfl,
    List.forall_mem_append.mpr ⟨hminute.word, ?_⟩⟩⟩
  cases hsecond with
  | absent => exact nofun
  | whole h => exact List.forall_mem_cons.mpr ⟨rfl, h.word⟩
  | fraction h _ hds =>
      exact List.forall_mem_cons.mpr ⟨rfl, List.forall_mem_append.mpr ⟨h.word,
        List.forall_mem_cons.mpr ⟨rfl, fun c hc => isWordChar_digit (hds c hc)⟩⟩⟩

theorem OffsetText.word (h : OffsetText t) : ∀ c ∈ t, isWordChar c = true := by
  cases h with
  | absent => exact nofun
  | zero hc =>
      refine List.forall_mem_singleton.mpr ?_
      rcases hc with rfl | rfl <;> rfl
  | given hc hhours hminutes =>
      refine List.forall_mem_cons.mpr ⟨?_, List.forall_mem_append.mpr ⟨hhours.word,
        List.forall_mem_cons.mpr ⟨rfl, hminutes.word⟩⟩⟩
      rcases hc with rfl | rfl <;> rfl

/-- Only a date and a time with a blank between them have a character that stands in no
other word. -/
theorem WordText.word (h : WordText v t) :
    (∀ c ∈ t, isWordChar c = true) ∨ ∃ d w, t = d ++ ' ' :: w ∧ DateText d
      ∧ (∀ c ∈ w, isWordChar c = true) ∧ ∃ c u, w = c :: u ∧ c.isDigit = true := by
  cases h with
  | yes => exact .inl (List.all_eq_true.mp rfl)
  | no => exact .inl (List.all_eq_true.mp rfl)
  | integer h => exact .inl h.word
  | real h => exact .inl h.word
  | moment h =>
      cases h with
      | date h => exact .inl h.word
      | time h => exact .inl h.word
      | @both c d t o hc hdate htime hoffset =>
          have hrest : ∀ c ∈ t ++ o, isWordChar c = true :=
            List.forall_mem_append.mpr ⟨htime.word, hoffset.word⟩
          have hletter : isWordChar c = true →
              ∀ x ∈ d ++ c :: (t ++ o), isWordChar x = true := fun hc =>
            List.forall_mem_append.mpr ⟨hdate.word, List.forall_mem_cons.mpr ⟨hc, hrest⟩⟩
          rcases hc with rfl | rfl | rfl
          · exact .inl (hletter rfl)
          · exact .inl (hletter rfl)
          · refine .inr ⟨d, t ++ o, rfl, hdate, hrest, ?_⟩
            obtain ⟨hhour, -, -⟩ := htime
            rename_i hour minute h m v
            match h, hhour.ne_nil, hhour.digits with
            | e :: h, _, hdigits => exact ⟨e, _, rfl, hdigits e (List.mem_cons_self ..)⟩

theorem Delimited.not_word (h : Delimited r) :
    r.takeWhile isWordChar = [] ∧ r.dropWhile isWordChar = r := by
  cases r with
  | nil => exact ⟨rfl, rfl⟩
  | cons c r =>
      have hnone : ∀ c ∈ [' ', '\t', '\n', '\r', '#', ',', ']', '\x7d'], isWordChar c = false := by
        intro c hc
        simp only [List.mem_cons, List.not_mem_nil, or_false] at hc
        rcases hc with rfl | rfl | rfl | rfl | rfl | rfl | rfl | rfl <;> rfl
      simp [hnone c h.head]

/-- **Words end** where they were written to end. -/
theorem WordText.split (h : WordText v t) (hr : Delimited r) : splitWord (t ++ r) = (t, r) := by
  obtain ⟨hnone, hall⟩ := hr.not_word
  rcases h.word with hword | ⟨d, w, rfl, hdate, hword, c, u, rfl, hc⟩
  · have htake : (t ++ r).takeWhile isWordChar = t := by
      rw [List.takeWhile_append_of_pos hword, hnone, List.append_nil]
    have hdrop : (t ++ r).dropWhile isWordChar = r := by
      rw [List.dropWhile_append_of_pos hword, hall]
    rw [splitWord_of_not_goesOn, htake, hdrop]
    rintro ⟨-, e, w, heq, he⟩
    rw [hdrop] at heq
    subst heq
    have hnodigit : ∀ c ∈ [' ', '\t', '\n', '\r', '#', ',', ']', '\x7d'], c.isDigit = false := by
      simp
    cases (hnodigit e (hr.tail rfl).head).symm.trans he
  · have htake : (d ++ (' ' :: (c :: u ++ r))).takeWhile isWordChar = d := by
      rw [List.takeWhile_append_of_pos hdate.word, List.takeWhile_cons_of_neg (by decide),
        List.append_nil]
    have hdrop : (d ++ (' ' :: (c :: u ++ r))).dropWhile isWordChar = ' ' :: c :: (u ++ r) := by
      rw [List.dropWhile_append_of_pos hdate.word, List.dropWhile_cons_of_neg (by decide)]
      rfl
    have hread := hdate.reads []
    rw [List.append_nil] at hread
    rw [List.append_assoc, List.cons_append,
      splitWord_of_goesOn (htake.symm ▸ hread) hdrop hc, htake, ← List.cons_append,
      List.takeWhile_append_of_pos hword, List.dropWhile_append_of_pos hword, hnone, hall,
      List.append_nil]

theorem WordText.cons (h : WordText v t) : ∃ c u, t = c :: u ∧ isWordChar c = true := by
  have hvalue := h.value
  rcases h.word with hword | ⟨d, w, rfl, ⟨hyear, -, -⟩, -⟩
  · cases t with
    | nil => cases (show wordValue? [] = none from rfl).symm.trans hvalue
    | cons c u => exact ⟨c, u, rfl, hword c (List.mem_cons_self ..)⟩
  · rename_i year month day y m d
    match y, hyear.ne_nil, hyear.word with
    | c :: y, _, hword => exact ⟨c, _, rfl, hword c (List.mem_cons_self ..)⟩

/-- **Words are read** as the values they were written for. -/
theorem WordText.reads (h : WordText v t) (hr : Delimited r) :
    Reader.Reads readWord (t ++ r) v r := by
  obtain ⟨c, u, rfl, -⟩ := h.cons
  exact readWord_iff.mpr ⟨c, u, h.split hr, h.value⟩

end Words

end GraphCourier.Toml
