/-!
# Reading from the front of a text

What a reader returns carries the proof that the text got shorter, so readers
that loop need no other argument for coming to an end. A reading of a later part
of a text is a reading of the text itself (`widen`, `after`, `behind`), and two
readings one after the other make one (`andThen`).
-/

namespace GraphCourier

/-- What a reader made of the text `s`: a value, and a shorter rest. -/
structure Parsed (α : Type) (s : List Char) where
  value : α
  rest : List Char
  shorter : rest.length < s.length

namespace Parsed

variable {α β : Type} {r s t : List Char}

def one (x : α) (c : Char) (t : List Char) : Parsed α (c :: t) :=
  ⟨x, t, Nat.lt_succ_self _⟩

def map (f : α → β) (p : Parsed α s) : Parsed β s :=
  ⟨f p.value, p.rest, p.shorter⟩

/-- A reading of the end of a text, seen from the whole text. -/
def widen (p : Parsed α r) (h : r.length ≤ s.length) : Parsed α s :=
  ⟨p.value, p.rest, Nat.lt_of_lt_of_le p.shorter h⟩

/-- A reading of what is left of a text, seen from the whole text. -/
def after (p : Parsed α r) (h : r.length < s.length) : Parsed α s :=
  p.widen (Nat.le_of_lt h)

/-- A reading of what follows a character, seen from the character on. -/
def behind (c : Char) (p : Parsed α t) : Parsed α (c :: t) :=
  p.after (Nat.lt_succ_self _)

/-- A reading of what another one left, seen from where that one began. -/
def andThen (p : Parsed α s) (q : Parsed β p.rest) : Parsed β s :=
  q.after p.shorter

theorem rest_lt (p : Parsed α r) (h : r.length ≤ s.length) :
    p.rest.length < s.length :=
  Nat.lt_of_lt_of_le p.shorter h

theorem lt_of_lt_rest {u : List Char} (p : Parsed α r)
    (hr : r.length ≤ s.length) (hu : u.length < p.rest.length) :
    u.length < s.length :=
  Nat.lt_trans hu (p.rest_lt hr)

theorem rest_lt_cons (p : Parsed α t) (c : Char) :
    p.rest.length < (c :: t).length :=
  Nat.lt_succ_of_lt p.shorter

theorem rest_lt_rest (p : Parsed α s) (q : Parsed β p.rest) :
    q.rest.length < s.length :=
  Nat.lt_trans q.shorter p.shorter

end Parsed

/-- A computation in two steps succeeds if both steps do. -/
theorem bind_eq_ok_iff {ε α β : Type} {x : Except ε α} {f : α → Except ε β} {b : β} :
    (x >>= f) = .ok b ↔ ∃ a, x = .ok a ∧ f a = .ok b := by
  cases x with
  | error e => exact ⟨nofun, fun ⟨_, h, _⟩ => nomatch h⟩
  | ok a => exact ⟨fun h => ⟨a, rfl, h⟩, fun ⟨_, ha, h⟩ => Except.ok.inj ha ▸ h⟩

theorem length_lt_cons (c : Char) (t : List Char) :
    t.length < (c :: t).length :=
  Nat.lt_succ_self _

end GraphCourier
