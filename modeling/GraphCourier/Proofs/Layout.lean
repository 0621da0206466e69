import GraphCourier.CompleteGraph

/-!
# The complete-graph schedule as a list

The schedule is laid out by 64-bit loops that are only unfolded on demand. As a
list it has four parts, over natural numbers below the number of nodes
(`toList_schedule`). No identifier wraps around on the way: each is the
identifier of the number that its place in a part says.
-/

namespace GraphCourier.CompleteGraph

/-- The identifier of a number. -/
def node (k : Nat) : NodeId := UInt64.ofNat k

theorem toNat_node {k : Nat} (h : k < UInt64.size) : (node k).toNat = k :=
  UInt64.toNat_ofNat_of_lt' h

theorem node_toNat (v : NodeId) : node v.toNat = v := UInt64.ofNat_toNat

theorem toNat_succ {v w : NodeId} (h : v < w) : (v + 1).toNat = v.toNat + 1 := by
  have hv : v.toNat < w.toNat := UInt64.lt_iff_toNat_lt.mp h
  have hw := w.toNat_lt
  rw [UInt64.toNat_add, show (1 : UInt64).toNat = 1 from rfl]
  omega

/-- The edges of node `i` to later nodes. -/
def row (n i : Nat) : List Operation :=
  (List.range' (i + 1) (n - (i + 1))).map fun j => .addEdge (node i) (node j)

/-! ## The loops -/

theorem toList_sweep (f : NodeId → Operation) (after : Unit → Schedule) (lo hi : NodeId) :
    (sweep f after lo hi).toList =
      (List.range' lo.toNat (hi.toNat - lo.toNat)).map (fun k => f (node k)) ++
        (after ()).toList := by
  fun_induction sweep f after lo hi with
  | case1 lo h ih =>
      have hlt : lo.toNat < hi.toNat := UInt64.lt_iff_toNat_lt.mp h
      have hlen : hi.toNat - lo.toNat = hi.toNat - (lo.toNat + 1) + 1 := by omega
      rw [Schedule.toList, ih, toNat_succ h, hlen, List.range'_succ, List.map_cons, node_toNat,
        List.cons_append]
  | case2 lo h =>
      have hle : hi.toNat ≤ lo.toNat := Nat.not_lt.mp fun hlt => h (UInt64.lt_iff_toNat_lt.mpr hlt)
      rw [Nat.sub_eq_zero_of_le hle]
      rfl

theorem toList_joins (n : NodeId) (after : Unit → Schedule) (i : NodeId) :
    (joins n after i).toList =
      (List.range' i.toNat (n.toNat - i.toNat)).flatMap (row n.toNat) ++ (after ()).toList := by
  fun_induction joins n after i with
  | case1 i h ih =>
      have hlt : i.toNat < n.toNat := UInt64.lt_iff_toNat_lt.mp h
      have hlen : n.toNat - i.toNat = n.toNat - (i.toNat + 1) + 1 := by omega
      rw [toList_sweep, ih, toNat_succ h, hlen, List.range'_succ, List.flatMap_cons, row,
        node_toNat, List.append_assoc]
  | case2 i h =>
      have hle : n.toNat ≤ i.toNat := Nat.not_lt.mp fun hlt => h (UInt64.lt_iff_toNat_lt.mpr hlt)
      rw [Nat.sub_eq_zero_of_le hle]
      rfl

/-! ## The whole schedule -/

theorem toNat_half (n : NodeId) : (n / 2).toNat = n.toNat / 2 := UInt64.toNat_div n 2

/-- The place after half of the nodes is still an identifier. -/
theorem toNat_half_succ (n : NodeId) : (n / 2 + 1).toNat = n.toNat / 2 + 1 := by
  have hn := n.toNat_lt
  rw [UInt64.toNat_add, toNat_half, show (1 : UInt64).toNat = 1 from rfl]
  omega

theorem node_pred {k : Nat} (hk : k < UInt64.size) (hpos : 0 < k) : node k - 1 = node (k - 1) := by
  have hone : (1 : UInt64) ≤ node k := UInt64.le_iff_toNat_le.mpr (by rw [toNat_node hk]; exact hpos)
  apply UInt64.toNat.inj
  rw [UInt64.toNat_sub_of_le _ _ hone, toNat_node hk, toNat_node (by omega)]
  rfl

/-- The four parts of the schedule: the nodes, the edges from each node to the
later ones, the lower half of the nodes, and the edges between neighbours in the
upper half. -/
theorem toList_schedule (n : NodeId) {m : Nat} (hm : m = n.toNat) :
    (schedule n).toList =
      (List.range' 0 m).map (fun k => .addNode (node k)) ++
        ((List.range' 0 m).flatMap (row m) ++
          ((List.range' 0 (m / 2)).map (fun k => .removeNode (node k)) ++
            (List.range' (m / 2 + 1) (m - (m / 2 + 1))).map fun k =>
              .removeEdge (node (k - 1)) (node k))) := by
  subst hm
  have hn := n.toNat_lt
  have hchain : ∀ k ∈ List.range' (n.toNat / 2 + 1) (n.toNat - (n.toNat / 2 + 1)),
      Operation.removeEdge (node k - 1) (node k) = .removeEdge (node (k - 1)) (node k) := by
    intro k hk
    obtain ⟨hlo, hhi⟩ := List.mem_range'_1.mp hk
    rw [node_pred (show k < 2 ^ 64 by omega) (by omega)]
  simp only [schedule, toList_sweep, toList_joins, toNat_half, toNat_half_succ,
    Schedule.toList, List.append_nil, show (0 : UInt64).toNat = 0 from rfl, Nat.sub_zero]
  rw [List.map_congr_left hchain]

end GraphCourier.CompleteGraph
