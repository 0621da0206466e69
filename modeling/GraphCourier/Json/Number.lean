import GraphCourier.Decimal
import GraphCourier.Decimal.Shortest
import GraphCourier.Json.Fault

/-!
# JSON numbers

A numeral is a minus sign if any, whole digits without a leading zero, and
optional fraction and exponent. `Numeral.scan` cuts one off a text. As a
`Number` a numeral is an unsigned or a negative 64-bit integer where it is
written as one and fits, and a floating-point number otherwise. In particular
`-0` is a floating-point number.

- **scanning moves on** (`Numeral.length_scan`): what is left is shorter.
-/

namespace GraphCourier.Json

/-- The parts of a written number. -/
structure Numeral where
  negative : Bool
  whole : List Char
  /-- The digits after the point, if there is one. -/
  fraction : Option (List Char)
  /-- Whether the exponent is negative, and its digits. -/
  exponent : Option (Bool × List Char)
deriving DecidableEq, Repr

/-- A number as it is kept. -/
inductive Number where
  | natural (n : UInt64)
  /-- The negative number `-n`. -/
  | negative (n : UInt64)
  | real (x : Float)

/-! ## Scanning -/

namespace Numeral

/-- The digits a text starts with, and the rest. -/
def digits (s : List Char) : List Char × List Char :=
  (s.takeWhile Char.isDigit, s.dropWhile Char.isDigit)

/-- The digits before the point: a single zero, or digits that do not start
with one. `short` is the cause where the text ends too early. -/
def scanWhole (short : Cause) (s : List Char) :
    Except Fault (List Char × List Char) :=
  match s with
  | [] => .error ⟨short, [], 0⟩
  | c :: t =>
    if c = '0' then
      match t with
      | [] => .ok (['0'], [])
      | d :: _ =>
        if d.isDigit then .error ⟨.invalidNumber, t, 1⟩ else .ok (['0'], t)
    else if c.isDigit then .ok (digits s)
    else .error ⟨.invalidNumber, s, 1⟩

def scanFraction (short : Cause) (s : List Char) :
    Except Fault (Option (List Char) × List Char) :=
  match s with
  | '.' :: t =>
    match digits t with
    | ([], []) => .error ⟨short, [], 0⟩
    | ([], u) => .error ⟨.invalidNumber, u, 1⟩
    | (ds, u) => .ok (some ds, u)
  | _ => .ok (none, s)

/-- The digits of an exponent, of which there is at least one. -/
def scanExponentDigits (short : Cause) (negative : Bool) (s : List Char) :
    Except Fault (Option (Bool × List Char) × List Char) :=
  match digits s with
  | ([], []) => .error ⟨short, [], 0⟩
  | ([], u) => .error ⟨.invalidNumber, u, 1⟩
  | (ds, u) => .ok (some (negative, ds), u)

/-- The exponent: a letter, a sign if any, and digits. -/
def scanExponent (short : Cause) (s : List Char) :
    Except Fault (Option (Bool × List Char) × List Char) :=
  match s with
  | c :: t =>
    if c = 'e' ∨ c = 'E' then
      match t with
      | '+' :: u => scanExponentDigits short false u
      | '-' :: u => scanExponentDigits short true u
      | _ => scanExponentDigits short false t
    else .ok (none, s)
  | [] => .ok (none, s)

/-- The minus sign a text may start with, and the rest. -/
def scanSign (s : List Char) : Bool × List Char :=
  match s with
  | '-' :: t => (true, t)
  | _ => (false, s)

/-- Cuts the numeral off the front of a text that starts with a minus sign or a
digit. -/
def scan (short : Cause) (s : List Char) :
    Except Fault (Numeral × List Char) := do
  let (negative, s) := scanSign s
  let (whole, s) ← scanWhole short s
  let (fraction, s) ← scanFraction short s
  let (exponent, s) ← scanExponent short s
  return (⟨negative, whole, fraction, exponent⟩, s)

theorem length_digits_le (s : List Char) :
    (digits s).2.length ≤ s.length := by
  simpa [digits] using (List.dropWhile_suffix _).length_le

theorem length_digits_lt {s ds u : List Char} {d : Char}
    (h : digits s = (d :: ds, u)) : u.length < s.length := by
  have := congrArg List.length
    (List.takeWhile_append_dropWhile (p := Char.isDigit) (l := s))
  simp only [digits, Prod.mk.injEq] at h
  rw [h.1, h.2] at this
  simp at this
  omega

theorem length_scanSign_le (s : List Char) :
    (scanSign s).2.length ≤ s.length := by
  unfold scanSign
  split <;> simp

theorem length_scanWhole {short : Cause} {s w r : List Char}
    (h : scanWhole short s = .ok (w, r)) : r.length < s.length := by
  unfold scanWhole at h
  split at h
  · cases h
  · next c t =>
    split at h
    · split at h
      · cases h; simp
      · split at h
        · cases h
        · cases h; simp
    · split at h
      · next hd =>
        have hx : digits (c :: t) = (w, r) := by simpa using h
        cases w with
        | nil => simp [digits, hd] at hx
        | cons d ds => exact length_digits_lt hx
      · cases h

theorem length_scanFraction {short : Cause} {s r : List Char}
    {f : Option (List Char)} (h : scanFraction short s = .ok (f, r)) :
    r.length ≤ s.length := by
  unfold scanFraction at h
  split at h
  · next t =>
    have ht := length_digits_le t
    split at h
    · cases h
    · cases h
    · next hd =>
      cases h
      rw [hd] at ht
      exact Nat.le_succ_of_le ht
  · cases h; exact Nat.le_refl _

theorem length_scanExponentDigits {short : Cause} {n : Bool} {s r : List Char}
    {x : Option (Bool × List Char)}
    (h : scanExponentDigits short n s = .ok (x, r)) :
    r.length ≤ s.length := by
  have hs := length_digits_le s
  unfold scanExponentDigits at h
  split at h
  · cases h
  · cases h
  · next hd =>
    cases h
    rw [hd] at hs
    exact hs

theorem length_scanExponent {short : Cause} {s r : List Char}
    {x : Option (Bool × List Char)} (h : scanExponent short s = .ok (x, r)) :
    r.length ≤ s.length := by
  unfold scanExponent at h
  split at h
  · split at h
    · split at h <;> have := length_scanExponentDigits h <;> simp_all <;> omega
    · cases h; exact Nat.le_refl _
  · cases h; exact Nat.le_refl _

theorem length_scan {short : Cause} {s r : List Char} {n : Numeral}
    (h : scan short s = .ok (n, r)) : r.length < s.length := by
  simp only [scan, bind, Except.bind, pure, Except.pure] at h
  split at h
  · cases h
  · next w hw =>
    split at h
    · cases h
    · next f hf =>
      split at h
      · cases h
      · next x hx =>
        cases h
        have h1 := length_scanWhole (r := w.2) hw
        have h2 := length_scanFraction (r := f.2) hf
        have h3 := length_scanExponent (r := x.2) hx
        have h4 := length_scanSign_le s
        omega

end Numeral

/-! ## Meaning -/

namespace Numeral

/-- A significand that takes digits as long as it stays below `2 ^ 64`, and the
number of digits that came after that. -/
structure Significand where
  value : Nat
  taken : Nat
  dropped : Nat

/-- Takes one more digit, or counts it. Once a digit was too much, all later
ones are. -/
def Significand.push (x : Significand) (d : Char) : Significand :=
  let next := 10 * x.value + (d.toNat - '0'.toNat)
  if x.dropped = 0 ∧ next < UInt64.size then
    { x with value := next, taken := x.taken + 1 }
  else { x with dropped := x.dropped + 1 }

def wholeSignificand (n : Numeral) : Significand :=
  n.whole.foldl Significand.push ⟨0, 0, 0⟩

/-- Ten to the power `k`, for `k` up to 308. -/
def powerOfTen (k : Nat) : Float := Float.ofScientific 1 false k

/-- A floating-point number times a power of ten, by one multiplication or
division each for up to 308 places; `none` where it grows out of range. -/
def scale (f : Float) (e : Int) : Option Float :=
  if 0 ≤ e then
    if e ≤ 308 then
      let x := f * powerOfTen e.toNat
      if x.isInf then none else some x
    else if f == 0 then some f
    else none
  else if -308 ≤ e then some (f / powerOfTen (-e).toNat)
  else
    let g := f / powerOfTen 308
    if -616 ≤ e then some (g / powerOfTen (-(e + 308)).toNat) else some 0

/-- The longest part of the exponent's digits whose value stays below `2 ^ 31`:
its value, and how many digits follow the first one that was too much. -/
def exponentValue : Nat → List Char → Nat × Option Nat
  | v, [] => (v, none)
  | v, d :: ds =>
    let next := 10 * v + (d.toNat - '0'.toNat)
    if next < 2147483648 then exponentValue next ds else (v, some ds.length)

/-- The floating-point number of a numeral. Refusals tell how many digits of
the exponent were not looked at. -/
def toFloat (n : Numeral) : Except Nat Float :=
  let whole := n.wholeSignificand
  let all := (n.fraction.getD []).foldl Significand.push ⟨whole.value, 0, 0⟩
  let places : Int := (whole.dropped : Int) - all.taken
  let sign := fun (x : Float) => if n.negative then -x else x
  let f := (UInt64.ofNat all.value).toFloat
  match n.exponent with
  | none =>
    match scale f places with
    | some x => .ok (sign x)
    | none => .error 0
  | some (down, ds) =>
    match exponentValue 0 ds with
    | (e, none) =>
      match scale f (if down then places - e else places + e) with
      | some x => .ok (sign x)
      | none => .error 0
    | (_, some unseen) =>
      if all.value ≠ 0 ∧ down = false then .error unseen else .ok (sign 0)

def toNumber (n : Numeral) : Except Nat Number :=
  let whole := n.wholeSignificand
  if n.fraction = none ∧ n.exponent = none ∧ whole.dropped = 0 then
    if n.negative = false then .ok (.natural (UInt64.ofNat whole.value))
    else if whole.value = 0 ∨ 9223372036854775808 < whole.value then n.toFloat.map .real
    else .ok (.negative (UInt64.ofNat whole.value))
  else n.toFloat.map .real

end Numeral

/-- Reads a number off the front of a text that starts with a minus sign or a
digit. -/
def readNumber (s : List Char) : Except Fault (Number × List Char) := do
  let (n, rest) ← Numeral.scan .eofInValue s
  match n.toNumber with
  | .ok x => return (x, rest)
  | .error unseen =>
    let ds := (n.exponent.map (·.2)).getD []
    .error ⟨.numberOutOfRange, ds.drop (ds.length - unseen) ++ rest, 0⟩

theorem length_readNumber {s r : List Char} {x : Number}
    (h : readNumber s = .ok (x, r)) : r.length < s.length := by
  simp only [readNumber, bind, Except.bind, pure, Except.pure] at h
  split at h
  · cases h
  · next n hn =>
    split at h
    · cases h; exact Numeral.length_scan (r := n.2) hn
    · cases h

/-! ## Writing -/

/-- The size of the lower part of a double-precision number, which holds all of
its significand but the leading bit: 52 bits. -/
def lowerSize : Nat := 4503599627370496

def binaryOf (x : Float) : Decimal.Binary :=
  let bits := x.toBits.toNat
  let field : Nat := bits / lowerSize % 2048
  let low : Nat := bits % lowerSize
  if field = 0 then ⟨low, -1074, false⟩
  else
    ⟨lowerSize + low, (field : Int) - 1075, low == 0 && decide (1 < field)⟩

/-- A decimal in JSON: with a point, and without an exponent when the leading
digit stands at most five places after it or sixteen before it. -/
def scientificText (d : Decimal.Scientific) : String :=
  let ds := Decimal.digits d.digits
  let n := ds.length
  let top : Int := d.exponent + n - 1
  if -5 ≤ top ∧ top ≤ 15 then
    if 0 ≤ d.exponent then
      String.ofList (ds ++ List.replicate d.exponent.toNat '0') ++ ".0"
    else if 0 ≤ top then
      String.ofList (ds.take (top.toNat + 1)) ++ "." ++
        String.ofList (ds.drop (top.toNat + 1))
    else
      "0." ++ String.ofList (List.replicate (-top - 1).toNat '0' ++ ds)
  else
    String.ofList (ds.take 1) ++
      (if n = 1 then "" else "." ++ String.ofList (ds.drop 1)) ++
      (if 0 ≤ top then "e+" else "e-") ++ toString top.natAbs

/-- The text of a finite floating-point number: the fewest digits that read
back. -/
def floatText (x : Float) : String :=
  let sign := if 9223372036854775808 ≤ x.toBits.toNat then "-" else ""
  if x == 0 then sign ++ "0.0"
  else sign ++ scientificText (binaryOf x).shortest

def Number.text : Number → String
  | natural n => toString n.toNat
  | negative n => "-" ++ toString n.toNat
  | real x => floatText x

end GraphCourier.Json
