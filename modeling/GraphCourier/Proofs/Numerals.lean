import GraphCourier.Json.Reader
import GraphCourier.Json.Number

/-!
# Numerals

What a numeral looks like, told without a reader (`Numeral.Text`). It is scanned
as it was written, up to where it ends (`Numeral.Text.scan_text`). Among all numerals
the ones that are natural numbers of 64 bits are those that such numbers are
written as (`Numeral.Text.natural_iff`): no sign, fraction or exponent will do,
and no larger number.
-/

namespace GraphCourier.Json

variable {s t u r : List Char} {c : Char}

/-! ## What follows a value -/

/-- What may follow a value: nothing, a blank, a comma or the end of a bracket. -/
def Closing (r : List Char) : Prop :=
  ∀ c ∈ r.head?, isBlank c = true ∨ c = ',' ∨ c = ']' ∨ c = '}'

theorem Closing.nil : Closing [] := nofun

theorem Closing.cons (h : c = ',' ∨ c = ']' ∨ c = '}') (t : List Char) : Closing (c :: t) := by
  rintro d hd
  obtain rfl := Option.mem_some.mp hd
  exact .inr h

theorem isBlank_iff : isBlank c = true ↔ c = ' ' ∨ c = '\n' ∨ c = '\t' ∨ c = '\r' := by
  simp [isBlank, or_assoc]

/-- No character of a numeral stands where a value has ended. -/
theorem Closing.not_numeral (h : Closing (c :: t)) :
    c.isDigit = false ∧ c ≠ '.' ∧ c ≠ 'e' ∧ c ≠ 'E' := by
  have hc := h c rfl
  rw [isBlank_iff] at hc
  rcases hc with (rfl | rfl | rfl | rfl) | rfl | rfl | rfl <;> decide

/-! ## Numerals -/

namespace Numeral

def IsDigits (ds : List Char) : Prop := ds ≠ [] ∧ ∀ d ∈ ds, d.isDigit = true

inductive SignText : Bool → List Char → Prop where
  | absent : SignText false []
  | minus : SignText true ['-']

/-- Digits of which the first one is a zero only if it is the only one. -/
structure WholeText (ds : List Char) : Prop where
  digits : IsDigits ds
  zero : ds.head? = some '0' → ds = ['0']

inductive FractionText : Option (List Char) → List Char → Prop where
  | absent : FractionText none []
  | present {ds : List Char} (h : IsDigits ds) : FractionText (some ds) ('.' :: ds)

inductive ExponentText : Option (Bool × List Char) → List Char → Prop where
  | absent : ExponentText none []
  | unsigned {c : Char} {ds : List Char} (hc : c = 'e' ∨ c = 'E') (h : IsDigits ds) :
    ExponentText (some (false, ds)) (c :: ds)
  | plus {c : Char} {ds : List Char} (hc : c = 'e' ∨ c = 'E') (h : IsDigits ds) :
    ExponentText (some (false, ds)) (c :: '+' :: ds)
  | minus {c : Char} {ds : List Char} (hc : c = 'e' ∨ c = 'E') (h : IsDigits ds) :
    ExponentText (some (true, ds)) (c :: '-' :: ds)

/-- The texts of a numeral. -/
inductive Text : Numeral → List Char → Prop where
  | mk {negative : Bool} {f : Option (List Char)} {x : Option (Bool × List Char)}
    {sign whole fraction exponent : List Char} (hsign : SignText negative sign)
    (hwhole : WholeText whole) (hfraction : FractionText f fraction)
    (hexponent : ExponentText x exponent) :
    Text ⟨negative, whole, f, x⟩ (sign ++ (whole ++ (fraction ++ exponent)))

/-! ## Scanning -/

variable {short : Cause} {ds : List Char}

/-- No digit stands at the front. -/
def NoDigit (r : List Char) : Prop := ∀ c ∈ r.head?, c.isDigit = false

theorem NoDigit.of_closing (h : Closing r) : NoDigit r := by
  cases r with
  | nil => exact nofun
  | cons c r =>
      rintro d hd
      obtain rfl := Option.mem_some.mp hd
      exact h.not_numeral.1

theorem NoDigit.cons (h : c.isDigit = false) (t : List Char) : NoDigit (c :: t) := by
  rintro d hd
  obtain rfl := Option.mem_some.mp hd
  exact h

theorem digits_append (hds : ∀ d ∈ ds, d.isDigit = true) (hr : NoDigit r) :
    digits (ds ++ r) = (ds, r) := by
  rw [digits, List.takeWhile_append_of_pos hds, List.dropWhile_append_of_pos hds]
  cases r with
  | nil => simp
  | cons c r => simp [hr c rfl]

theorem scanSign_text {negative : Bool} {sign : List Char} (h : SignText negative sign)
    (hs : ∀ t, s ≠ '-' :: t) : scanSign (sign ++ s) = (negative, s) := by
  cases h with
  | minus => rfl
  | absent =>
      unfold scanSign
      split
      · rename_i t h
        exact absurd h (hs t)
      · rfl

theorem scanWhole_text (h : WholeText ds) (hr : NoDigit r) :
    scanWhole short (ds ++ r) = .ok (ds, r) := by
  obtain ⟨⟨hne, hdigits⟩, hzero⟩ := h
  cases ds with
  | nil => exact absurd rfl hne
  | cons c ds =>
      by_cases hc : c = '0'
      · subst hc
        obtain rfl : ds = [] := (List.cons.inj (hzero rfl)).2
        cases r with
        | nil => rfl
        | cons d r =>
            rw [List.cons_append, List.nil_append, scanWhole, if_pos rfl]
            simp only [hr d rfl]
            rfl
      · have hdigit := hdigits c (List.mem_cons_self ..)
        rw [List.cons_append]
        simp only [scanWhole, if_neg hc, if_pos hdigit]
        rw [← List.cons_append, digits_append hdigits hr]

theorem scanFraction_text {f : Option (List Char)} {fraction : List Char}
    (h : FractionText f fraction) (hr : NoDigit r) (hpoint : ∀ t, r ≠ '.' :: t) :
    scanFraction short (fraction ++ r) = .ok (f, r) := by
  cases h with
  | absent =>
      unfold scanFraction
      split
      · rename_i t hs
        exact absurd hs (hpoint t)
      · rfl
  | @present ds hds =>
      obtain ⟨hne, hdigits⟩ := hds
      rw [List.cons_append, scanFraction, digits_append hdigits hr]
      cases ds with
      | nil => exact absurd rfl hne
      | cons d ds => rfl

theorem scanExponentDigits_text (h : IsDigits ds) (negative : Bool) (hr : NoDigit r) :
    scanExponentDigits short negative (ds ++ r) = .ok (some (negative, ds), r) := by
  obtain ⟨hne, hdigits⟩ := h
  rw [scanExponentDigits, digits_append hdigits hr]
  cases ds with
  | nil => exact absurd rfl hne
  | cons d ds => rfl

theorem scanExponent_text {x : Option (Bool × List Char)} {exponent : List Char}
    (h : ExponentText x exponent) (hr : Closing r) :
    scanExponent short (exponent ++ r) = .ok (x, r) := by
  have hdigit := NoDigit.of_closing hr
  cases h with
  | absent =>
      cases r with
      | nil => rfl
      | cons c r =>
          obtain ⟨-, -, he, hE⟩ := hr.not_numeral
          exact if_neg (not_or.mpr ⟨he, hE⟩)
  | @unsigned c ds hc hds =>
      have hsign : ∀ d : Char, d.isDigit = false → ∀ u, ds ++ r ≠ d :: u := by
        rintro d hd u hu
        obtain ⟨⟨e, ds, rfl⟩, hdigits⟩ := hds.imp_left List.exists_cons_of_ne_nil
        rw [List.cons_append, List.cons.injEq] at hu
        rw [← hu.1, hdigits e (List.mem_cons_self ..)] at hd
        cases hd
      rw [List.cons_append, scanExponent, if_pos hc]
      · exact scanExponentDigits_text hds false hdigit
      · exact hsign '+' (by decide)
      · exact hsign '-' (by decide)
  | plus hc hds =>
      rw [List.cons_append, List.cons_append, scanExponent, if_pos hc]
      exact scanExponentDigits_text hds false hdigit
  | minus hc hds =>
      rw [List.cons_append, List.cons_append, scanExponent, if_pos hc]
      exact scanExponentDigits_text hds true hdigit

/-- What follows the whole digits does not begin with one more. -/
theorem noDigit_exponent {x : Option (Bool × List Char)} {exponent : List Char}
    (h : ExponentText x exponent) (hr : Closing r) :
    NoDigit (exponent ++ r) ∧ ∀ t, exponent ++ r ≠ '.' :: t := by
  have hletter : ∀ c : Char, c = 'e' ∨ c = 'E' → c.isDigit = false ∧ c ≠ '.' := by
    rintro c (rfl | rfl) <;> decide
  cases h with
  | absent =>
      refine ⟨.of_closing hr, ?_⟩
      rintro t rfl
      exact hr.not_numeral.2.1 rfl
  | unsigned hc | plus hc | minus hc =>
      obtain ⟨hdigit, hpoint⟩ := hletter _ hc
      exact ⟨.cons hdigit _, fun t h => hpoint (List.cons.inj h).1⟩

theorem noDigit_fraction {f : Option (List Char)} {fraction : List Char}
    (h : FractionText f fraction) (hr : NoDigit r) : NoDigit (fraction ++ r) := by
  cases h with
  | absent => exact hr
  | present => exact .cons (by decide) _

/-- **A numeral is scanned as it was written**, up to where it ends. -/
theorem Text.scan_text {n : Numeral} (h : n.Text t) (hr : Closing r) :
    scan short (t ++ r) = .ok (n, r) := by
  cases h with
  | @mk negative f x sign whole fraction exponent hsign hwhole hfraction hexponent =>
      obtain ⟨hdigit, hpoint⟩ := noDigit_exponent hexponent hr
      have hminus : ∀ t, whole ++ (fraction ++ (exponent ++ r)) ≠ '-' :: t := by
        rintro t ht
        obtain ⟨⟨hne, hdigits⟩, -⟩ := hwhole
        obtain ⟨c, ds, rfl⟩ := List.exists_cons_of_ne_nil hne
        have hc := hdigits c (List.mem_cons_self ..)
        rw [(List.cons.inj ht).1] at hc
        exact absurd hc (by decide)
      simp only [scan, List.append_assoc, scanSign_text hsign hminus, bind, Except.bind,
        scanWhole_text hwhole (noDigit_fraction hfraction hdigit),
        scanFraction_text hfraction hdigit hpoint, scanExponent_text hexponent hr]
      rfl

theorem Text.unique {m n : Numeral} (hm : m.Text t) (hn : n.Text t) : m = n := by
  have hscan : scan .eofInValue (t ++ []) = .ok (m, []) := hm.scan_text .nil
  rw [hn.scan_text .nil] at hscan
  exact (Prod.mk.inj (Except.ok.inj hscan)).1.symm

/-! ## Numerals that are natural numbers -/

theorem ofDigitChars_le (ds : List Char) (k : Nat) : k ≤ Nat.ofDigitChars 10 ds k := by
  induction ds generalizing k with
  | nil => exact Nat.le_refl k
  | cons d ds ih =>
      rw [Nat.ofDigitChars_cons]
      exact Nat.le_trans (by omega) (ih _)

theorem dropped_foldl_push (ds : List Char) (x : Significand) (h : x.dropped ≠ 0) :
    (ds.foldl Significand.push x).dropped ≠ 0 := by
  induction ds generalizing x with
  | nil => exact h
  | cons d ds ih =>
      refine ih _ ?_
      rw [Significand.push, if_neg fun hx => h hx.1]
      exact Nat.succ_ne_zero _

/-- A significand has taken all digits where their value is small enough. -/
theorem foldl_push (ds : List Char) (k taken : Nat) :
    let x := ds.foldl Significand.push ⟨k, taken, 0⟩
    (Nat.ofDigitChars 10 ds k < UInt64.size → x.dropped = 0 ∧ x.value = Nat.ofDigitChars 10 ds k)
      ∧ (UInt64.size ≤ Nat.ofDigitChars 10 ds k → k < UInt64.size → x.dropped ≠ 0) := by
  induction ds generalizing k taken with
  | nil => exact ⟨fun _ => ⟨rfl, rfl⟩, fun hle hlt => absurd hle (Nat.not_le.mpr hlt)⟩
  | cons d ds ih =>
      intro x
      simp only [Nat.ofDigitChars_cons]
      by_cases hnext : 10 * k + (d.toNat - '0'.toNat) < UInt64.size
      · have hx : x = ds.foldl Significand.push ⟨10 * k + (d.toNat - '0'.toNat), taken + 1, 0⟩ := by
          simp only [x, List.foldl_cons, Significand.push, hnext]
          rfl
        rw [hx]
        obtain ⟨hsmall, hlarge⟩ := ih (10 * k + (d.toNat - '0'.toNat)) (taken + 1)
        exact ⟨hsmall, fun hle _ => hlarge hle hnext⟩
      · have hx : x.dropped ≠ 0 := by
          refine dropped_foldl_push ds _ ?_
          rw [Significand.push, if_neg fun hx => hnext hx.2]
          exact Nat.succ_ne_zero _
        exact ⟨fun hlt => absurd (Nat.lt_of_le_of_lt (ofDigitChars_le ds _) hlt) hnext,
          fun _ _ => hx⟩

theorem toNumber_eq_natural_iff {n : Numeral} {x : UInt64} :
    n.toNumber = .ok (.natural x) ↔
      (n.fraction = none ∧ n.exponent = none ∧ n.wholeSignificand.dropped = 0)
        ∧ n.negative = false ∧ UInt64.ofNat n.wholeSignificand.value = x := by
  have hreal : ∀ y : Except Nat Float, y.map Number.real ≠ .ok (.natural x) := by
    rintro (_ | _) h <;> cases h
  unfold toNumber
  by_cases hplain : n.fraction = none ∧ n.exponent = none ∧ n.wholeSignificand.dropped = 0
  · by_cases hnegative : n.negative = false
    · simp [hplain, hnegative]
    · rw [if_pos hplain, if_neg hnegative, iff_false_right fun h => hnegative h.2.1]
      split
      · exact hreal _
      · nofun
  · rw [if_neg hplain, iff_false_right fun h => hplain h.1]
    exact hreal _

/-- A numeral is kept as a natural number where it is written as one and small
enough. -/
theorem toNumber_natural {n : Numeral} {x : UInt64} :
    n.toNumber = .ok (.natural x) ↔
      n.negative = false ∧ n.fraction = none ∧ n.exponent = none
        ∧ Decimal.value n.whole = x.toNat := by
  rw [toNumber_eq_natural_iff]
  obtain ⟨hsmall, hlarge⟩ := foldl_push n.whole 0 0
  by_cases hvalue : Decimal.value n.whole < UInt64.size
  · obtain ⟨hdropped, hwhole⟩ : n.wholeSignificand.dropped = 0
      ∧ n.wholeSignificand.value = Decimal.value n.whole := hsmall hvalue
    have hx : UInt64.ofNat (Decimal.value n.whole) = x ↔ Decimal.value n.whole = x.toNat := by
      rw [← UInt64.toNat_inj, UInt64.toNat_ofNat_of_lt' hvalue]
    simp only [hdropped, hwhole, hx, and_true]
    exact ⟨fun ⟨⟨hf, hx⟩, hn, hv⟩ => ⟨hn, hf, hx, hv⟩, fun ⟨hn, hf, hx, hv⟩ => ⟨⟨hf, hx⟩, hn, hv⟩⟩
  · have hdropped : n.wholeSignificand.dropped ≠ 0 :=
      hlarge (Nat.le_of_not_lt hvalue) (by decide)
    constructor
    · rintro ⟨⟨-, -, h⟩, -⟩
      exact absurd h hdropped
    · rintro ⟨-, -, -, h⟩
      exact absurd (h ▸ x.toNat_lt) hvalue

theorem toDigits_ofDigitChars (hds : ∀ d ∈ ds, d.isDigit = true) {k : Nat} (hk : 0 < k) :
    Nat.toDigits 10 (Nat.ofDigitChars 10 ds k) = Nat.toDigits 10 k ++ ds := by
  induction ds generalizing k with
  | nil => simp
  | cons d ds ih =>
      obtain ⟨hd, hlater⟩ := List.forall_mem_cons.mp hds
      obtain ⟨hlow, hhigh⟩ := Char.isDigit_iff_toNat.mp hd
      have hlt : d.toNat - '0'.toNat < 10 := by
        have : '0'.toNat = 48 := rfl
        have : '9'.toNat = 57 := rfl
        omega
      have hdigit : Nat.digitChar (d.toNat - '0'.toNat) = d := by
        have hchars : ∀ n < 10, Nat.digitChar n = Char.ofNat ('0'.toNat + n) := by decide
        rw [hchars _ hlt, Nat.add_sub_cancel' hlow, Char.ofNat_toNat]
      rw [Nat.ofDigitChars_cons, ih hlater (by omega),
        ← Nat.toDigits_append_toDigits (by decide) hk hlt, Nat.toDigits_of_lt_base hlt, hdigit,
        List.append_assoc, List.singleton_append]

/-- Digits without a zero before them are the ones that are written for their
value. -/
theorem WholeText.digits_value (h : WholeText ds) : Decimal.digits (Decimal.value ds) = ds := by
  obtain ⟨⟨hne, hdigits⟩, hzero⟩ := h
  cases ds with
  | nil => exact absurd rfl hne
  | cons d ds =>
      by_cases hd : d = '0'
      · subst hd
        rw [hzero rfl]
        rfl
      · obtain ⟨hdigit, hlater⟩ := List.forall_mem_cons.mp hdigits
        obtain ⟨hlow, hhigh⟩ := Char.isDigit_iff_toNat.mp hdigit
        have hpos : 0 < d.toNat - '0'.toNat := by
          have hne : d.toNat ≠ '0'.toNat := fun h => hd (Char.toNat_inj.mp h)
          omega
        have hlt : d.toNat - '0'.toNat < 10 := by
          have : '0'.toNat = 48 := rfl
          have : '9'.toNat = 57 := rfl
          omega
        have hchars : ∀ n < 10, Nat.digitChar n = Char.ofNat ('0'.toNat + n) := by decide
        rw [Decimal.value, Decimal.digits, Nat.ofDigitChars_cons, Nat.mul_zero, Nat.zero_add,
          toDigits_ofDigitChars hlater hpos, Nat.toDigits_of_lt_base hlt, hchars _ hlt,
          Nat.add_sub_cancel' hlow, Char.ofNat_toNat, List.singleton_append]

theorem head?_digits {n : Nat} (hn : 0 < n) : (Decimal.digits n).head? ≠ some '0' := by
  induction n using Nat.strongRecOn with
  | ind n ih =>
      rw [Decimal.digits]
      by_cases hlt : n < 10
      · rw [Nat.toDigits_of_lt_base hlt]
        have hchars : ∀ n < 10, 0 < n → [Nat.digitChar n].head? ≠ some '0' := by decide
        exact hchars n hlt hn
      · -- the first digit is the one of the tenth part
        have hpos : 0 < n / 10 := Nat.div_pos (Nat.le_of_not_lt hlt) (by decide)
        have hsplit := Nat.toDigits_append_toDigits (b := 10) (by decide) hpos
          (Nat.mod_lt n (by decide))
        rw [Nat.div_add_mod] at hsplit
        rw [← hsplit, List.head?_append, Option.or_of_isSome (by simp [Nat.toDigits_ne_nil])]
        exact ih (n / 10) (Nat.div_lt_self hn (by decide)) hpos

theorem wholeText_digits (n : Nat) : WholeText (Decimal.digits n) where
  digits := ⟨Nat.toDigits_ne_nil, fun _ => Decimal.isDigit_of_mem_digits⟩
  zero h := by
    cases n with
    | zero => rfl
    | succ n => exact absurd h (head?_digits n.succ_pos)

theorem text_digits (n : Nat) : Text ⟨false, Decimal.digits n, none, none⟩ (Decimal.digits n) := by
  simpa using Text.mk .absent (wholeText_digits n) .absent .absent

theorem Text.starts {n : Numeral} (h : n.Text t) :
    ∃ c u, t = c :: u ∧ (c = '-' ∨ c.isDigit = true) := by
  cases h with
  | mk hsign hwhole =>
      cases hsign with
      | minus => exact ⟨'-', _, rfl, .inl rfl⟩
      | absent =>
          obtain ⟨⟨hne, hdigits⟩, -⟩ := hwhole
          obtain ⟨c, ds, rfl⟩ := List.exists_cons_of_ne_nil hne
          exact ⟨c, _, rfl, .inr (hdigits c (List.mem_cons_self ..))⟩

/-- The numerals that are natural numbers are those that these are written as. -/
theorem Text.natural_iff {n : Numeral} (h : n.Text t) {x : UInt64} :
    n.toNumber = .ok (.natural x) ↔ t = Decimal.digits x.toNat := by
  rw [toNumber_natural]
  constructor
  · rintro ⟨hnegative, hfraction, hexponent, hvalue⟩
    cases h with
    | mk hsign hwhole hf hx =>
        subst hnegative hfraction hexponent
        cases hsign
        cases hf
        cases hx
        rw [← hvalue, hwhole.digits_value]
        simp
  · rintro rfl
    rw [h.unique (text_digits x.toNat)]
    exact ⟨rfl, rfl, rfl, Decimal.value_digits _⟩

end Numeral

/-- A numeral is read as a natural number where it is written as one. -/
theorem readNumber_natural {n : Numeral} (h : n.Text t) (hr : Closing r) {x : UInt64} :
    readNumber (t ++ r) = .ok (.natural x, u) ↔ t = Decimal.digits x.toNat ∧ u = r := by
  rw [← h.natural_iff]
  simp only [readNumber, h.scan_text hr, bind, Except.bind]
  cases hn : n.toNumber <;> simp [pure, Except.pure, eq_comm (a := r)]

end GraphCourier.Json
