/-!
# Punycode

The spelling of a text in lower case letters, digits and hyphens. The ASCII
characters come first, then, after a hyphen if there are any, the others in
increasing order of their code points: each as the distance from the one before
it, measured over all places it could stand at, in digits of base 36 whose
weights adapt to the distances seen so far.
-/

namespace GraphCourier.Idna.Punycode

/-! ## Digits -/

/-- The digit of a value below 36. -/
def digitOf (d : Nat) : Char :=
  if d < 26 then Char.ofNat ('a'.toNat + d) else Char.ofNat ('0'.toNat + d - 26)

def digit? (c : Char) : Option Nat :=
  if 'a' ≤ c ∧ c ≤ 'z' then some (c.toNat - 'a'.toNat)
  else if 'A' ≤ c ∧ c ≤ 'Z' then some (c.toNat - 'A'.toNat)
  else if '0' ≤ c ∧ c ≤ '9' then some (c.toNat - '0'.toNat + 26)
  else none

/-- From which value on a digit at place `k` is followed by another one. -/
def threshold (k bias : Nat) : Nat :=
  if k ≤ bias then 1 else if bias + 26 ≤ k then 26 else k - bias

/-- Divides a distance until it is small, and counts the divisions. -/
def shrink (delta k : Nat) : Nat × Nat :=
  if 455 < delta then shrink (delta / 35) (k + 36) else (delta, k)
termination_by delta
decreasing_by exact Nat.div_lt_self (by omega) (by omega)

/-- The bias after a distance was read or written. -/
def adapt (delta count : Nat) (first : Bool) : Nat :=
  let halved := if first then delta / 700 else delta / 2
  let (small, k) := shrink (halved + halved / count) 0
  k + 36 * small / (small + 38)

/-! ## Writing -/

def maxEncoded : Nat := 1000

/-- The digits of a distance, from place `k` on. -/
def distanceDigits (bias k q : Nat) : List Char :=
  let t := threshold k bias
  if q < t then [digitOf q]
  else
    digitOf (t + (q - t) % (36 - t)) ::
      distanceDigits bias (k + 36) ((q - t) / (36 - t))
termination_by q
decreasing_by
  have h1 : 1 ≤ threshold k bias := by
    unfold threshold; split
    · omega
    · split <;> omega
  have h2 := Nat.div_le_self (q - threshold k bias) (36 - threshold k bias)
  omega

/-- What a writer keeps track of. -/
structure Writer where
  /-- What was written, in reverse. -/
  written : List Char
  delta : Nat
  bias : Nat
  /-- How many characters have been dealt with. -/
  handled : Nat

/-- Passes one character of the text while code point `n` is being written. -/
def Writer.pass (basic n : Nat) (w : Writer) (c : Char) : Writer :=
  if c.toNat < n then { w with delta := w.delta + 1 }
  else if c.toNat = n then
    ⟨(distanceDigits w.bias 36 w.delta).reverse ++ w.written, 0,
      adapt w.delta (w.handled + 1) (w.handled == basic), w.handled + 1⟩
  else w

/-- Writes the characters with the given code points, in increasing order. `n`
is the least code point not dealt with. -/
def writeAll (cs : List Char) (basic : Nat) :
    List Nat → Nat → Writer → Writer
  | [], _, w => w
  | m :: ms, n, w =>
    let w := { w with delta := w.delta + (m - n) * (w.handled + 1) }
    let w := cs.foldl (Writer.pass basic m) w
    writeAll cs basic ms (m + 1) { w with delta := w.delta + 1 }

/-- Inserts a number into an increasing list, once. -/
def insertOnce (n : Nat) : List Nat → List Nat
  | [] => [n]
  | m :: ms =>
    if n < m then n :: m :: ms
    else if n = m then m :: ms
    else m :: insertOnce n ms

def encode (cs : List Char) : Option (List Char) :=
  if maxEncoded < cs.length then none
  else
    let basic := cs.filter fun c => decide (c.toNat < 128)
    let others := (cs.map Char.toNat).filter fun n => decide (128 ≤ n)
    let w := writeAll cs basic.length (others.foldr insertOnce []) 128
      ⟨[], 0, 72, basic.length⟩
    some (basic ++ (if basic.isEmpty then [] else ['-']) ++ w.written.reverse)

/-! ## Reading -/

def maxDecoded : Nat := 2000

/-- A number that must stay below `2 ^ 32`. -/
def bounded (n : Nat) : Option Nat := if n < UInt32.size then some n else none

/-- Reads the digits of a distance, from place `k` on, and adds it to `i`. -/
def readDistance (bias : Nat) :
    List Char → (k weight i : Nat) → Option (Nat × List Char)
  | [], _, _, _ => none
  | c :: cs, k, weight, i => do
    let d ← digit? c
    let i ← bounded (i + (← bounded (d * weight)))
    let t := threshold k bias
    if d < t then return (i, cs)
    else readDistance bias cs (k + 36) (← bounded (weight * (36 - t))) i

theorem length_readDistance {bias k weight i j : Nat} {cs r : List Char}
    (h : readDistance bias cs k weight i = some (j, r)) :
    r.length < cs.length := by
  induction cs generalizing k weight i with
  | nil => simp [readDistance] at h
  | cons c cs ih =>
    simp only [readDistance, bind, Option.bind_eq_some_iff, pure] at h
    obtain ⟨d, _, p, _, i', _, h⟩ := h
    split at h
    · cases h; simp
    · obtain ⟨w, _, h⟩ := Option.bind_eq_some_iff.1 h
      exact Nat.lt_succ_of_lt (ih h)

/-- Reads distances and puts their characters in place. `n` and `i` are the
code point and the place of the last one. -/
def readAll (s : List Char) (n i bias : Nat) (out : List Char) :
    Option (List Char) :=
  match s with
  | [] => some out
  | c :: cs =>
    match _h : readDistance bias (c :: cs) 36 1 i with
    | none => none
    | some (j, rest) => do
      let count := out.length + 1
      let n := n + j / count
      if n.isValidChar then
        readAll rest n (j % count + 1) (adapt (j - i) count (i == 0))
          (out.take (j % count) ++ Char.ofNat n :: out.drop (j % count))
      else none
termination_by s.length
decreasing_by exact length_readDistance _h

def decode (s : List Char) : Option (List Char) :=
  if maxDecoded < s.length then none
  else
    let tail := (s.reverse.takeWhile (· != '-')).reverse
    let basic := s.take (s.length - tail.length - 1)
    if basic.any fun c => decide (128 ≤ c.toNat) then none
    else if basic.isEmpty then readAll s 128 0 72 []
    else readAll tail 128 0 72 basic

end GraphCourier.Idna.Punycode
