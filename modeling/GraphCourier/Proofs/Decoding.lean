import Mathlib.Algebra.Group.Nat.Defs
import GraphCourier.Text.Utf8

/-!
# What is read from bytes that may be no text

Bytes are read character by character. Where no character stands, the longest
stretch that begins one is replaced, or a single byte if none does. `Decodes`
says so through the bytes that characters have, without telling how they are
found; `lossyChars` finds them byte by byte, and `decodes_iff` shows that it
finds these. `reads_iff` adds the byte order mark.

The reader keeps what it has seen of a character as a `Begun`. `Started` says
which bytes lead there, and `Begun.Fits` which numbers the character may still
have. The two meet in `Started.charBytes_eq`: a number that fits belongs to a
character, whose bytes are the ones seen and then its `followers`.
-/

namespace GraphCourier.Text

/-- The bytes of a character. -/
def charBytes (c : Char) : Bytes := utf8 (String.singleton c)

/-- Whether some character begins with these bytes. -/
def Begins (p : Bytes) : Prop := ∃ c t, charBytes c = p ++ t

/-- Bytes that are replaced as one: no character stands there, and they are as
long a beginning of one as there is, or else a single byte. -/
structure Spoiled (p rest : Bytes) : Prop where
  nonempty : p ≠ []
  noCharacter : ∀ c t, p ++ rest ≠ charBytes c ++ t
  begins : Begins p ∨ ∃ b, p = [b]
  longest : ∀ b t, rest = b :: t → ¬Begins (p ++ [b])

/-- The characters that are read from bytes. -/
inductive Decodes : Bytes → List Char → Prop where
  | nil : Decodes [] []
  | char (c : Char) {bs : Bytes} {cs : List Char} (h : Decodes bs cs) :
    Decodes (charBytes c ++ bs) (c :: cs)
  | spoiled {p bs : Bytes} {cs : List Char} (hp : Spoiled p bs) (h : Decodes bs cs) :
    Decodes (p ++ bs) (replacement :: cs)

def byteOrderMark : Char := '\ufeff'

/-- The text that is read from bytes: what they decode to, without a byte order
mark at their start. -/
inductive Reads : Bytes → String → Prop where
  | marked {bs : Bytes} {cs : List Char} (h : Decodes bs cs) :
    Reads (charBytes byteOrderMark ++ bs) (String.ofList cs)
  | unmarked {bs : Bytes} {cs : List Char} (hmark : ∀ t, bs ≠ charBytes byteOrderMark ++ t)
    (h : Decodes bs cs) : Reads bs (String.ofList cs)

/-! ## The bytes of characters -/

/-- The last `k` bytes of a character with the number `v`. -/
def followers (v : Nat) : Nat → Bytes
  | 0 => []
  | k + 1 => UInt8.ofNat (0x80 + v / 64 ^ k % 64) :: followers v k

theorem toNat_follower (v k : Nat) :
    (UInt8.ofNat (0x80 + v / 64 ^ k % 64)).toNat = 0x80 + v / 64 ^ k % 64 :=
  UInt8.toNat_ofNat_of_lt' (by rw [UInt8.size]; omega)

theorem toNat_ofNat {n : Nat} (h : n.isValidChar) : (Char.ofNat n).toNat = n := by
  rw [Char.ofNat, dif_pos h]
  rfl

theorem charBytes_encode (c : Char) : charBytes c = String.utf8EncodeChar c := by
  simp [charBytes, utf8, List.utf8Encode]

variable {c : Char}

theorem charBytes_one (h : c.toNat < 0x80) : charBytes c = [UInt8.ofNat c.toNat] := by
  rw [charBytes_encode, String.utf8EncodeChar]
  exact if_pos (Nat.le_of_lt_succ h)

theorem charBytes_two (h : 0x80 ≤ c.toNat) (h' : c.toNat < 0x800) :
    charBytes c = UInt8.ofNat (0xC0 + c.toNat / 64 ^ 1) :: followers c.toNat 1 := by
  rw [charBytes_encode, String.utf8EncodeChar, ← Char.toNat]
  simp only [if_neg (show ¬c.toNat ≤ 0x7F by omega), if_pos (show c.toNat ≤ 0x7FF by omega),
    followers, List.cons.injEq, and_true]
  refine ⟨?_, ?_⟩ <;> congr 1 <;> omega

theorem charBytes_three (h : 0x800 ≤ c.toNat) (h' : c.toNat < 0x10000) :
    charBytes c = UInt8.ofNat (0xE0 + c.toNat / 64 ^ 2) :: followers c.toNat 2 := by
  rw [charBytes_encode, String.utf8EncodeChar, ← Char.toNat]
  simp only [if_neg (show ¬c.toNat ≤ 0x7F by omega), if_neg (show ¬c.toNat ≤ 0x7FF by omega),
    if_pos (show c.toNat ≤ 0xFFFF by omega), followers, List.cons.injEq, and_true]
  refine ⟨?_, ?_, ?_⟩ <;> congr 1 <;> omega

theorem charBytes_four (h : 0x10000 ≤ c.toNat) :
    charBytes c = UInt8.ofNat (0xF0 + c.toNat / 64 ^ 3) :: followers c.toNat 3 := by
  have hvalid : c.toNat < 0xD800 ∨ (0xDFFF < c.toNat ∧ c.toNat < 0x110000) := c.valid
  rw [charBytes_encode, String.utf8EncodeChar, ← Char.toNat]
  simp only [if_neg (show ¬c.toNat ≤ 0x7F by omega), if_neg (show ¬c.toNat ≤ 0x7FF by omega),
    if_neg (show ¬c.toNat ≤ 0xFFFF by omega), followers, List.cons.injEq, and_true]
  refine ⟨?_, ?_, ?_, ?_⟩ <;> congr 1 <;> omega

/-! ## Characters begun -/

variable {g : Begun} {p bs rest : Bytes} {cs : List Char} {b : UInt8} {v : Nat}

/-- A first byte tells how many follow, and bounds the second one so that the
character could not have been written in fewer bytes and has a valid number. -/
theorem begin?_eq_some_iff {n value missing lo hi : Nat} :
    begin? n = some ⟨value, missing, lo, hi⟩ ↔
      (missing = 1 ∧ n = 0xC0 + value ∧ 2 ≤ value ∧ value ≤ 31 ∧ lo = 0x80 ∧ hi = 0xBF)
        ∨ (missing = 2 ∧ n = 0xE0 + value ∧ value ≤ 15
            ∧ (value = 0 ∧ lo = 0xA0 ∨ value ≠ 0 ∧ lo = 0x80)
            ∧ (value = 13 ∧ hi = 0x9F ∨ value ≠ 13 ∧ hi = 0xBF))
        ∨ (missing = 3 ∧ n = 0xF0 + value ∧ value ≤ 4
            ∧ (value = 0 ∧ lo = 0x90 ∨ value ≠ 0 ∧ lo = 0x80)
            ∧ (value = 4 ∧ hi = 0x8F ∨ value ≠ 4 ∧ hi = 0xBF)) := by
  unfold begin?
  repeat' split
  all_goals simp only [Option.some.injEq, Begun.mk.injEq, reduceCtorEq, false_iff]
  all_goals omega

/-- What is begun after one more byte that is not the last. -/
def Begun.next (g : Begun) (b : UInt8) : Begun :=
  ⟨64 * g.value + (b.toNat - 0x80), g.missing - 1, 0x80, 0xBF⟩

theorem Begun.value_next (g : Begun) (b : UInt8) :
    (g.next b).value = 64 * g.value + (b.toNat - 0x80) := rfl

theorem Begun.missing_next (g : Begun) (b : UInt8) : (g.next b).missing = g.missing - 1 := rfl

theorem Begun.lo_next (g : Begun) (b : UInt8) : (g.next b).lo = 0x80 := rfl

theorem Begun.hi_next (g : Begun) (b : UInt8) : (g.next b).hi = 0xBF := rfl

/-- Whether a byte may be the next one. -/
def Begun.Takes (g : Begun) (b : UInt8) : Prop := g.lo ≤ b.toNat ∧ b.toNat ≤ g.hi

/-- Whether a number may be that of the character begun. -/
structure Begun.Fits (g : Begun) (v : Nat) : Prop where
  value : v / 64 ^ g.missing = g.value
  lo : g.lo ≤ 0x80 + v / 64 ^ (g.missing - 1) % 64
  hi : 0x80 + v / 64 ^ (g.missing - 1) % 64 ≤ g.hi

/-- Bytes after which a character is begun. -/
inductive Started : Bytes → Begun → Prop where
  | first {b : UInt8} {g : Begun} (h : begin? b.toNat = some g) : Started [b] g
  | next {p : Bytes} {g : Begun} {b : UInt8} (h : Started p g) (hmissing : g.missing ≠ 1)
    (hb : g.Takes b) : Started (p ++ [b]) (g.next b)

theorem Started.bounds (h : Started p g) :
    1 ≤ g.missing ∧ 0x80 ≤ g.lo ∧ g.lo ≤ g.hi ∧ g.hi ≤ 0xBF := by
  induction h with
  | @first b g h =>
      obtain ⟨value, missing, lo, hi⟩ := g
      have := begin?_eq_some_iff.mp h
      simp only
      omega
  | @next p g b h hmissing hb ih =>
      rw [Begun.missing_next, Begun.lo_next, Begun.hi_next]
      omega

theorem div_pow_succ (v k : Nat) : v / 64 ^ (k + 1) = v / 64 ^ k / 64 := by
  rw [Nat.pow_succ, Nat.div_div_eq_div_mul]

/-- A number that fits has a next byte that is taken, and fits after it. -/
theorem Begun.Fits.next {k : Nat} (h : g.Fits v) (hk : g.missing = k + 1) :
    g.Takes (UInt8.ofNat (0x80 + v / 64 ^ k % 64)) ∧
      (g.next (UInt8.ofNat (0x80 + v / 64 ^ k % 64))).Fits v := by
  obtain ⟨hvalue, hlo, hhi⟩ := h
  rw [hk, Nat.add_sub_cancel] at hlo hhi
  rw [hk, div_pow_succ] at hvalue
  refine ⟨?_, ?_, ?_, ?_⟩
  · rw [Begun.Takes, toNat_follower]
    exact ⟨hlo, hhi⟩
  · rw [Begun.value_next, Begun.missing_next, toNat_follower, hk, Nat.add_sub_cancel]
    omega
  · rw [Begun.lo_next]
    exact Nat.le_add_right ..
  · rw [Begun.hi_next]
    generalize v / 64 ^ _ = w
    omega

/-- A number that fits after a byte has fitted before it, and that byte is its
next one. -/
theorem Begun.Fits.of_next {k : Nat} (hlow : 0x80 ≤ g.lo) (hhigh : g.hi ≤ 0xBF)
    (hk : g.missing = k + 1) (hb : g.Takes b) (h : (g.next b).Fits v) :
    g.Fits v ∧ followers v (k + 1) = b :: followers v k := by
  obtain ⟨hvalue, -, -⟩ := h
  obtain ⟨hlo, hhi⟩ := hb
  rw [Begun.value_next, Begun.missing_next, hk, Nat.add_sub_cancel] at hvalue
  have hbyte : 0x80 + v / 64 ^ k % 64 = b.toNat := by omega
  refine ⟨⟨?_, ?_, ?_⟩, ?_⟩
  · rw [hk, div_pow_succ]
    omega
  · rwa [hk, Nat.add_sub_cancel, hbyte]
  · rwa [hk, Nat.add_sub_cancel, hbyte]
  · rw [followers, hbyte, UInt8.ofNat_toNat]

theorem Begun.exists_fits (hmissing : 1 ≤ g.missing) (hlow : 0x80 ≤ g.lo) (hle : g.lo ≤ g.hi)
    (hhigh : g.hi ≤ 0xBF) : ∃ v, g.Fits v := by
  obtain ⟨k, hk⟩ : ∃ k, g.missing = k + 1 := ⟨g.missing - 1, by omega⟩
  have hnext : (64 * g.value + (g.lo - 0x80)) * 64 ^ k / 64 ^ k = 64 * g.value + (g.lo - 0x80) :=
    Nat.mul_div_cancel _ (Nat.pow_pos (by decide))
  refine ⟨(64 * g.value + (g.lo - 0x80)) * 64 ^ k, ?_, ?_, ?_⟩
  · rw [hk, div_pow_succ, hnext]
    omega
  · rw [hk, Nat.add_sub_cancel, hnext]
    omega
  · rw [hk, Nat.add_sub_cancel, hnext]
    omega

theorem exists_bound (P : Prop) (m n : Nat) : ∃ k, P ∧ k = m ∨ ¬P ∧ k = n := by
  by_cases h : P
  · exact ⟨m, .inl ⟨h, rfl⟩⟩
  · exact ⟨n, .inr ⟨h, rfl⟩⟩

/-- A character of more than one byte is begun by the first of them. -/
theorem exists_first (h : 0x80 ≤ c.toNat) :
    ∃ b g, begin? b.toNat = some g ∧ g.Fits c.toNat
      ∧ charBytes c = b :: followers c.toNat g.missing := by
  have hvalid : c.toNat < 0xD800 ∨ (0xDFFF < c.toNat ∧ c.toNat < 0x110000) := c.valid
  have hbyte : ∀ n, n < 256 → (UInt8.ofNat n).toNat = n := fun n => UInt8.toNat_ofNat_of_lt'
  by_cases htwo : c.toNat < 0x800
  · refine ⟨_, ⟨c.toNat / 64 ^ 1, 1, 0x80, 0xBF⟩, ?_, ⟨rfl, ?_, ?_⟩, charBytes_two h htwo⟩
    · rw [hbyte _ (by omega), begin?_eq_some_iff]
      exact .inl ⟨rfl, rfl, by omega, by omega, rfl, rfl⟩
    · simp only
      omega
    · simp only
      omega
  by_cases hthree : c.toNat < 0x10000
  · obtain ⟨lo, hlo⟩ := exists_bound (c.toNat / 64 ^ 2 = 0) 0xA0 0x80
    obtain ⟨hi, hhi⟩ := exists_bound (c.toNat / 64 ^ 2 = 13) 0x9F 0xBF
    refine ⟨_, ⟨c.toNat / 64 ^ 2, 2, lo, hi⟩, ?_, ⟨rfl, ?_, ?_⟩,
      charBytes_three (by omega) hthree⟩
    · rw [hbyte _ (by omega), begin?_eq_some_iff]
      exact .inr (.inl ⟨rfl, rfl, by omega, hlo, hhi⟩)
    · simp only
      omega
    · simp only
      omega
  · obtain ⟨lo, hlo⟩ := exists_bound (c.toNat / 64 ^ 3 = 0) 0x90 0x80
    obtain ⟨hi, hhi⟩ := exists_bound (c.toNat / 64 ^ 3 = 4) 0x8F 0xBF
    refine ⟨_, ⟨c.toNat / 64 ^ 3, 3, lo, hi⟩, ?_, ⟨rfl, ?_, ?_⟩, charBytes_four (by omega)⟩
    · rw [hbyte _ (by omega), begin?_eq_some_iff]
      exact .inr (.inr ⟨rfl, rfl, by omega, hlo, hhi⟩)
    · simp only
      omega
    · simp only
      omega

/-- A first byte and a number that fits make a character. -/
theorem charBytes_of_first (h : begin? b.toNat = some g) (hv : g.Fits v) :
    v.isValidChar ∧ charBytes (Char.ofNat v) = b :: followers v g.missing := by
  obtain ⟨value, missing, lo, hi⟩ := g
  obtain ⟨hvalue, hlo, hhi⟩ := hv
  simp only at hvalue hlo hhi
  rcases begin?_eq_some_iff.mp h with ⟨rfl, hb, hmin, hmax, -⟩ | ⟨rfl, hb, hmax, hmin, hgap⟩ |
    ⟨rfl, hb, hmax, hmin, htop⟩
  · have hvalid : v.isValidChar := by simp only [Nat.isValidChar]; omega
    have hv := toNat_ofNat hvalid
    rw [charBytes_two (by omega) (by omega), hv, hvalue, ← hb, UInt8.ofNat_toNat]
    exact ⟨hvalid, rfl⟩
  · have hvalid : v.isValidChar := by simp only [Nat.isValidChar]; omega
    have hv := toNat_ofNat hvalid
    rw [charBytes_three (by omega) (by omega), hv, hvalue, ← hb, UInt8.ofNat_toNat]
    exact ⟨hvalid, rfl⟩
  · have hvalid : v.isValidChar := by simp only [Nat.isValidChar]; omega
    have hv := toNat_ofNat hvalid
    rw [charBytes_four (by omega), hv, hvalue, ← hb, UInt8.ofNat_toNat]
    exact ⟨hvalid, rfl⟩

/-- A number that fits belongs to a character that begins with the bytes seen. -/
theorem Started.charBytes_eq (h : Started p g) (hv : g.Fits v) :
    v.isValidChar ∧ charBytes (Char.ofNat v) = p ++ followers v g.missing := by
  induction h with
  | first h => 
      exact charBytes_of_first h hv
  | @next p g b h hmissing hb ih =>
      obtain ⟨hone, hlow, -, hhigh⟩ := h.bounds
      obtain ⟨k, hk⟩ : ∃ k, g.missing = k + 1 := ⟨g.missing - 1, by omega⟩
      obtain ⟨hv, hfollowers⟩ := hv.of_next hlow hhigh hk hb
      obtain ⟨hvalid, hbytes⟩ := ih hv
      refine ⟨hvalid, ?_⟩
      rw [hbytes, hk, hfollowers, Begun.missing_next, hk, Nat.add_sub_cancel, List.append_assoc]
      rfl

theorem Started.begins (h : Started p g) : Begins p := by
  obtain ⟨hmissing, hlow, hle, hhigh⟩ := h.bounds
  obtain ⟨v, hv⟩ := Begun.exists_fits hmissing hlow hle hhigh
  exact ⟨_, _, (h.charBytes_eq hv).2⟩

/-- The last byte makes a character whole. -/
theorem Started.exists_char (h : Started p g) (hmissing : g.missing = 1) (hb : g.Takes b) :
    ∃ c, charBytes c = p ++ [b] := by
  obtain ⟨-, hlow, -, hhigh⟩ := h.bounds
  have hnext : (g.next b).Fits (g.next b).value := by
    refine ⟨?_, ?_, ?_⟩
    · rw [Begun.missing_next, hmissing, Nat.pow_zero, Nat.div_one]
    · exact Nat.le_add_right ..
    · rw [Begun.hi_next]
      generalize (g.next b).value / _ = w
      omega
  obtain ⟨hv, hfollowers⟩ := hnext.of_next hlow hhigh hmissing hb
  refine ⟨Char.ofNat (g.next b).value, ?_⟩
  rw [(h.charBytes_eq hv).2, hmissing, hfollowers]
  rfl

/-- What begins with the bytes seen and begins a character is that character, or
leads on to one begun. -/
theorem Started.append {q t : Bytes} (h : Started p g) (hv : g.Fits v)
    (hq : followers v g.missing = q ++ t) : t = [] ∨ ∃ g, Started (p ++ q) g := by
  induction q generalizing p g with
  | nil => exact .inr ⟨g, by rwa [List.append_nil]⟩
  | cons d q ih =>
      obtain ⟨k, hk⟩ : ∃ k, g.missing = k + 1 := ⟨g.missing - 1, by have := h.bounds.1; omega⟩
      obtain ⟨hb, hv'⟩ := hv.next hk
      rw [hk, followers, List.cons_append] at hq
      obtain ⟨rfl, hrest⟩ := List.cons.inj hq
      cases k with
      | zero => exact .inl (List.append_eq_nil_iff.mp hrest.symm).2
      | succ k =>
          rw [List.append_cons]
          refine ih (h.next (by omega) hb) hv' ?_
          rw [Begun.missing_next, hk, Nat.add_sub_cancel, hrest]

/-- What begins a character is the whole of one, or has begun one. -/
theorem begins_iff (hp : p ≠ []) :
    Begins p ↔ (∃ c, p = charBytes c) ∨ ∃ g, Started p g := by
  constructor
  · rintro ⟨c, t, hc⟩
    by_cases hone : c.toNat < 0x80
    · rw [charBytes_one hone] at hc
      obtain ⟨d, q, rfl⟩ := List.exists_cons_of_ne_nil hp
      obtain ⟨rfl, hq⟩ := List.cons.inj hc
      obtain ⟨rfl, -⟩ := List.append_eq_nil_iff.mp hq.symm
      exact .inl ⟨c, (charBytes_one hone).symm⟩
    · obtain ⟨b, g, hg, hfits, hbytes⟩ := exists_first (Nat.le_of_not_lt hone)
      obtain ⟨d, q, rfl⟩ := List.exists_cons_of_ne_nil hp
      obtain ⟨rfl, hq⟩ := List.cons.inj (hbytes.symm.trans hc)
      rcases Started.append (.first hg) hfits hq with rfl | h
      · exact .inl ⟨c, by rw [hc, List.append_nil]⟩
      · exact .inr h
  · rintro (⟨c, rfl⟩ | ⟨g, h⟩)
    · exact ⟨c, [], (List.append_nil _).symm⟩
    · exact h.begins

theorem charBytes_ne_nil (c : Char) : charBytes c ≠ [] := by
  rw [charBytes_encode]
  exact String.utf8EncodeChar_ne_nil

/-! ## Reading -/

theorem not_lt_of_begin? {n : Nat} (h : begin? n = some g) : ¬n < 0x80 := by
  have := begin?_eq_some_iff.mp h
  omega

/-- The reader remembers what is begun. -/
theorem lossyChars_started (h : Started p g) (rest : Bytes) :
    lossyChars none (p ++ rest) = lossyChars (some g) rest := by
  induction h generalizing rest with
  | @first b g h =>
      rw [List.singleton_append, lossyChars, if_neg (not_lt_of_begin? h), h]
  | @next p g b h hmissing hb ih =>
      rw [List.append_assoc, ih, List.singleton_append, lossyChars]
      simp only [if_pos (show g.lo ≤ b.toNat ∧ b.toNat ≤ g.hi from hb), if_neg hmissing]
      rfl

theorem lossyChars_next (hb : g.Takes b) (hmissing : g.missing ≠ 1) (bs : Bytes) :
    lossyChars (some g) (b :: bs) = lossyChars (some (g.next b)) bs := by
  rw [lossyChars]
  simp only [if_pos (show g.lo ≤ b.toNat ∧ b.toNat ≤ g.hi from hb), if_neg hmissing]
  rfl

theorem lossyChars_last (hb : g.Takes b) (hmissing : g.missing = 1) (bs : Bytes) :
    lossyChars (some g) (b :: bs) = Char.ofNat (g.next b).value :: lossyChars none bs := by
  rw [lossyChars]
  simp only [if_pos (show g.lo ≤ b.toNat ∧ b.toNat ≤ g.hi from hb), if_pos hmissing]
  rfl

/-- The reader gives up on a character before a byte that is not taken. -/
theorem lossyChars_refused (hb : ¬g.Takes b) (bs : Bytes) :
    lossyChars (some g) (b :: bs) = replacement :: lossyChars none (b :: bs) := by
  rw [lossyChars, lossyChars]
  simp only [if_neg (show ¬(g.lo ≤ b.toNat ∧ b.toNat ≤ g.hi) from hb)]
  split
  · rfl
  · cases begin? b.toNat <;> rfl

theorem lossyChars_followers (h : g.Fits v) {k : Nat} (hk : g.missing = k + 1) (bs : Bytes) :
    lossyChars (some g) (followers v (k + 1) ++ bs) = Char.ofNat v :: lossyChars none bs := by
  obtain ⟨hb, hfits⟩ := h.next hk
  induction k generalizing g with
  | zero =>
      rw [followers, List.cons_append, lossyChars_last hb hk, ← hfits.value, Begun.missing_next,
        hk, Nat.add_sub_cancel, Nat.pow_zero, Nat.div_one]
      rfl
  | succ k ih =>
      have hk' : (g.next (UInt8.ofNat (0x80 + v / 64 ^ (k + 1) % 64))).missing = k + 1 := by
        rw [Begun.missing_next, hk, Nat.add_sub_cancel]
      obtain ⟨hb', hfits'⟩ := hfits.next hk'
      rw [followers, List.cons_append, lossyChars_next hb (by omega)]
      exact ih hfits hk' hb' hfits'

theorem lossyChars_char (c : Char) (bs : Bytes) :
    lossyChars none (charBytes c ++ bs) = c :: lossyChars none bs := by
  by_cases hone : c.toNat < 0x80
  · have hb : (UInt8.ofNat c.toNat).toNat = c.toNat :=
      UInt8.toNat_ofNat_of_lt' (by rw [UInt8.size]; omega)
    rw [charBytes_one hone, List.singleton_append, lossyChars, hb, if_pos hone, Char.ofNat_toNat]
  · obtain ⟨b, g, hg, hfits, hbytes⟩ := exists_first (Nat.le_of_not_lt hone)
    obtain ⟨k, hk⟩ : ∃ k, g.missing = k + 1 :=
      ⟨g.missing - 1, by have := (Started.first hg).bounds.1; omega⟩
    rw [hbytes, hk, List.cons_append, ← List.singleton_append, lossyChars_started (.first hg),
      lossyChars_followers hfits hk, Char.ofNat_toNat]

theorem lossyChars_spoiled (hp : Spoiled p rest) :
    lossyChars none (p ++ rest) = replacement :: lossyChars none rest := by
  have hwhole : ∀ c, p ≠ charBytes c := fun c h => hp.noCharacter c rest (by rw [h])
  by_cases hstarted : ∃ g, Started p g
  · obtain ⟨g, hg⟩ := hstarted
    rw [lossyChars_started hg]
    cases rest with
    | nil => rfl
    | cons b rest =>
        refine lossyChars_refused (fun hb => ?_) rest
        by_cases hmissing : g.missing = 1
        · obtain ⟨c, hc⟩ := hg.exists_char hmissing hb
          exact hp.noCharacter c rest (by rw [hc, ← List.append_cons])
        · exact hp.longest b rest rfl (hg.next hmissing hb).begins
  · have hbegins : ¬Begins p := by
      rw [begins_iff hp.nonempty]
      rintro (⟨c, h⟩ | h)
      · exact hwhole c h
      · exact hstarted h
    obtain ⟨b, rfl⟩ := hp.begins.resolve_left hbegins
    have hone : ¬b.toNat < 0x80 := by
      intro h
      have hb : (Char.ofNat b.toNat).toNat = b.toNat := toNat_ofNat (.inl (by omega))
      refine hwhole (Char.ofNat b.toNat) ?_
      rw [charBytes_one (by omega), hb, UInt8.ofNat_toNat]
    have hfirst : begin? b.toNat = none := by
      cases h : begin? b.toNat with
      | none => rfl
      | some g => exact absurd ⟨g, .first h⟩ hstarted
    rw [List.singleton_append, lossyChars, if_neg hone, hfirst]

/-! ## What is read -/

theorem lossyChars_of_decodes (h : Decodes bs cs) : lossyChars none bs = cs := by
  induction h with
  | nil => rfl
  | char c _ ih => rw [lossyChars_char, ih]
  | spoiled hp _ ih => rw [lossyChars_spoiled hp, ih]

/-- Bytes that begin a character, or a single byte, can be made as long as
there are bytes that go on so. -/
theorem exists_longest (rest : Bytes) (hp : p ≠ []) (hbegins : Begins p ∨ ∃ b, p = [b]) :
    ∃ q r, p ++ rest = q ++ r ∧ q ≠ [] ∧ (Begins q ∨ ∃ b, q = [b])
      ∧ ∀ b t, r = b :: t → ¬Begins (q ++ [b]) := by
  induction rest generalizing p with
  | nil => exact ⟨p, [], rfl, hp, hbegins, fun _ _ h => by cases h⟩
  | cons b rest ih =>
      by_cases h : Begins (p ++ [b])
      · rw [List.append_cons]
        exact ih (List.concat_ne_nil b p) (.inl h)
      · refine ⟨p, b :: rest, rfl, hp, hbegins, fun b' t hb' => ?_⟩
        obtain ⟨rfl, -⟩ := List.cons.inj hb'
        exact h

/-- Bytes start with a character, or with some that are replaced as one. -/
theorem exists_split (hbs : bs ≠ []) :
    (∃ c t, bs = charBytes c ++ t) ∨ ∃ p rest, bs = p ++ rest ∧ Spoiled p rest := by
  by_cases h : ∃ c t, bs = charBytes c ++ t
  · exact .inl h
  · obtain ⟨b, rest, rfl⟩ := List.exists_cons_of_ne_nil hbs
    obtain ⟨q, r, hqr, hq, hbegins, hlongest⟩ :=
      exists_longest rest (List.cons_ne_nil b []) (.inr ⟨b, rfl⟩)
    exact .inr ⟨q, r, hqr, hq, fun c t hc => h ⟨c, t, hqr.trans hc⟩, hbegins, hlongest⟩

theorem exists_decodes (bs : Bytes) : ∃ cs, Decodes bs cs := by
  by_cases hbs : bs = []
  · exact ⟨[], hbs ▸ .nil⟩
  rcases exists_split hbs with ⟨c, t, h⟩ | ⟨p, rest, h, hp⟩
  · have hlt : t.length < bs.length := by
      have := List.length_pos_iff.mpr (charBytes_ne_nil c)
      rw [h, List.length_append]
      omega
    obtain ⟨cs, ht⟩ := exists_decodes t
    exact ⟨c :: cs, h ▸ .char c ht⟩
  · have hlt : rest.length < bs.length := by
      have := List.length_pos_iff.mpr hp.nonempty
      rw [h, List.length_append]
      omega
    obtain ⟨cs, hrest⟩ := exists_decodes rest
    exact ⟨replacement :: cs, h ▸ .spoiled hp hrest⟩
termination_by bs.length

/-- **The reader is exact.** It reads what bytes decode to, and nothing else. -/
theorem decodes_iff : Decodes bs cs ↔ cs = lossyChars none bs := by
  constructor
  · exact fun h => (lossyChars_of_decodes h).symm
  · rintro rfl
    obtain ⟨cs, h⟩ := exists_decodes bs
    rwa [lossyChars_of_decodes h]

theorem dropMark_marked (bs : Bytes) : dropMark (charBytes byteOrderMark ++ bs) = bs := by
  have hmark : charBytes byteOrderMark = [0xEF, 0xBB, 0xBF] := by decide
  rw [hmark]
  rfl

theorem dropMark_unmarked (h : ∀ t, bs ≠ charBytes byteOrderMark ++ t) : dropMark bs = bs := by
  have hmark : charBytes byteOrderMark = [0xEF, 0xBB, 0xBF] := by decide
  unfold dropMark
  split
  · exact absurd (by rw [hmark]; rfl) (h _)
  · rfl

/-- Any bytes are read as exactly one text. -/
theorem reads_iff {text : String} : Reads bs text ↔ text = lossyText bs := by
  constructor
  · rintro (⟨h⟩ | ⟨hmark, h⟩)
    · rw [lossyText, dropMark_marked, lossyChars_of_decodes h]
    · rw [lossyText, dropMark_unmarked hmark, lossyChars_of_decodes h]
  · rintro rfl
    by_cases hmark : ∃ t, bs = charBytes byteOrderMark ++ t
    · obtain ⟨t, rfl⟩ := hmark
      rw [lossyText, dropMark_marked]
      exact .marked (decodes_iff.mpr rfl)
    · have hmark : ∀ t, bs ≠ charBytes byteOrderMark ++ t := fun t ht => hmark ⟨t, ht⟩
      rw [lossyText, dropMark_unmarked hmark]
      exact .unmarked hmark (decodes_iff.mpr rfl)

/-- Two bytes that begin a character make one replacement, two that could not
begin any make two. -/
example : Reads [0xF0, 0x9F, 0x41, 0xC0, 0xAF] "\ufffdA\ufffd\ufffd" :=
  reads_iff.mpr (by decide)

end GraphCourier.Text
