import GraphCourier.Operation

/-!
# Schedules

A `Schedule` is a finite list of operations whose tail is only worked out when
it is asked for, so a schedule of `2 ^ 64` nodes can be started without being
written down. `Schedule.toList` is its meaning; the other operations are
described through it.

- **lists are schedules** (`toList_ofList`), and chaining schedules chains
  their lists (`toList_append`).
- **taking** (`take_eq`) and **dropping** (`toList_drop`) are those of lists.
-/

namespace GraphCourier

/-- A finite sequence of operations, unfolded on demand. -/
inductive Schedule where
  | done
  | next (op : Operation) (rest : Unit → Schedule)

namespace Schedule

/-- The operations of a schedule, in order. -/
def toList : Schedule → List Operation
  | done => []
  | next op rest => op :: (rest ()).toList

def ofList : List Operation → Schedule
  | [] => done
  | op :: ops => next op fun _ => ofList ops

def append : Schedule → Schedule → Schedule
  | done, t => t
  | next op rest, t => next op fun _ => (rest ()).append t

instance : Append Schedule := ⟨append⟩

/-- The first `n` operations. -/
def take : Nat → Schedule → List Operation
  | 0, _ => []
  | _ + 1, done => []
  | n + 1, next op rest => op :: take n (rest ())

/-- What is left after the first `n` operations. -/
def drop : Nat → Schedule → Schedule
  | 0, s => s
  | _ + 1, done => done
  | n + 1, next _ rest => drop n (rest ())

/-- The operations at positions `skip` to `skip + count`, cut at the end. -/
def window (s : Schedule) (skip count : Nat) : List Operation :=
  (s.drop skip).take count

@[simp] theorem toList_ofList (ops : List Operation) :
    (ofList ops).toList = ops := by
  induction ops with
  | nil => rfl
  | cons op ops ih => simp [ofList, toList, ih]

theorem toList_append (s t : Schedule) :
    (s ++ t).toList = s.toList ++ t.toList := by
  show (s.append t).toList = _
  induction s with
  | done => rfl
  | next op rest ih => simp [append, toList, ih]

theorem take_eq (n : Nat) (s : Schedule) : s.take n = s.toList.take n := by
  induction n generalizing s with
  | zero => simp [take]
  | succ n ih => cases s <;> simp [take, toList, ih]

theorem toList_drop (n : Nat) (s : Schedule) :
    (s.drop n).toList = s.toList.drop n := by
  induction n generalizing s with
  | zero => simp [drop]
  | succ n ih => cases s <;> simp [drop, toList, ih]

theorem window_eq (s : Schedule) (skip count : Nat) :
    s.window skip count = (s.toList.drop skip).take count := by
  rw [window, take_eq, toList_drop]

end Schedule

end GraphCourier
