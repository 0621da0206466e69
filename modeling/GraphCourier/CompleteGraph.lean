import GraphCourier.Schedule

/-!
# The complete-graph schedule

For `n` nodes the schedule adds every node, joins every pair, removes the lower
half of the nodes, and then removes the chain of edges among the rest. Joining
every pair alone takes `n * (n - 1) / 2` operations, so the schedule is laid
out lazily and its length is computed apart (`length?`), in 64-bit arithmetic
that gives up instead of wrapping.
-/

namespace GraphCourier.CompleteGraph

/-- The operations `f lo, f (lo + 1), …, f (hi - 1)`, then `after`. -/
def sweep (f : NodeId → Operation) (after : Unit → Schedule) (lo hi : NodeId) :
    Schedule :=
  if lo < hi then .next (f lo) fun _ => sweep f after (lo + 1) hi
  else after ()
termination_by hi.toNat - lo.toNat
decreasing_by
  have h : lo.toNat < hi.toNat := UInt64.lt_iff_toNat_lt.1 ‹lo < hi›
  have := hi.toNat_lt
  rw [UInt64.toNat_add, show (1 : UInt64).toNat = 1 from rfl]
  omega

/-- Joins node `i` to all later nodes, then does the same for `i + 1`, and so
on up to `n`, then `after`. -/
def joins (n : NodeId) (after : Unit → Schedule) (i : NodeId) : Schedule :=
  if i < n then
    sweep (.addEdge i) (fun _ => joins n after (i + 1)) (i + 1) n
  else after ()
termination_by n.toNat - i.toNat
decreasing_by
  have h : i.toNat < n.toNat := UInt64.lt_iff_toNat_lt.1 ‹i < n›
  have := n.toNat_lt
  rw [UInt64.toNat_add, show (1 : UInt64).toNat = 1 from rfl]
  omega

/-- The whole schedule for `n` nodes. -/
def schedule (n : NodeId) : Schedule :=
  let half := n / 2
  sweep .addNode (fun _ =>
    joins n (fun _ =>
      sweep .removeNode (fun _ =>
        sweep (fun i => .removeEdge (i - 1) i) (fun _ => .done) (half + 1) n)
        0 half)
      0)
    0 n

/-! ## Its length -/

/-- A sum that must fit in 64 bits. -/
def sum? (a b : UInt64) : Option UInt64 :=
  if a.toNat + b.toNat < UInt64.size then some (a + b) else none

/-- A product that must fit in 64 bits. -/
def product? (a b : UInt64) : Option UInt64 :=
  if a.toNat * b.toNat < UInt64.size then some (a * b) else none

/-- The number of pairs of `n` nodes. The even one of `n` and `n - 1` is halved
first, so that the product overflows only if the result does. -/
def pairs? (n : NodeId) : Option UInt64 :=
  if n % 2 = 0 then product? (n / 2) (n - 1) else product? n ((n - 1) / 2)

/-- The number of operations of the schedule, if it fits in 64 bits. -/
def length? (n : NodeId) : Option UInt64 :=
  if n = 0 then some 0 else do
    let half := n / 2
    let withPairs ← sum? n (← pairs? n)
    let withRemovals ← sum? withPairs half
    sum? withRemovals (n - min (half + 1) n)

end GraphCourier.CompleteGraph
