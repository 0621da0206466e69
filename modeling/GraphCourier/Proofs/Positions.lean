import Mathlib.Algebra.Ring.Parity
import Mathlib.Data.List.Nodup
import GraphCourier.Proofs.Layout

/-!
# Where the operations of the schedule stand

The schedule for `n` nodes holds each operation it holds once, at a position
that can be told from the operation (`position`). The edges are the part that
takes counting: row `i` has `n - (i + 1)` of them, so it starts after
`i * n - i * (i + 1) / 2` others (`rowStart`).

Positions are natural numbers. There are far more of them than identifiers, and
no arithmetic on identifiers is done to find them.
-/

namespace GraphCourier.CompleteGraph

/-- The operations in the schedule for `n` nodes. -/
def Planned (n : Nat) : Operation → Prop
  | .addNode i => i.toNat < n
  | .addEdge i j => i.toNat < j.toNat ∧ j.toNat < n
  | .removeNode i => i.toNat < n / 2
  | .removeEdge h i => h.toNat + 1 = i.toNat ∧ n / 2 < i.toNat ∧ i.toNat < n
  | _ => False

/-- The position of an operation in the schedule for `n` nodes. -/
def position (n : Nat) : Operation → Nat
  | .addNode i => i.toNat
  | .addEdge i j =>
    n + i.toNat * n - i.toNat * (i.toNat + 1) / 2 + (j.toNat - i.toNat - 1)
  | .removeNode i => n + n * (n - 1) / 2 + i.toNat
  | .removeEdge _ i => n + n * (n - 1) / 2 + n / 2 + (i.toNat - n / 2 - 1)
  | _ => 0

/-! ## Rows of edges -/

variable {m i k : Nat}

/-- The number of edges from nodes below `i`. -/
def rowStart (m i : Nat) : Nat := i * m - i * (i + 1) / 2

theorem two_mul_triangle (i : Nat) : 2 * (i * (i + 1) / 2) = i * (i + 1) :=
  Nat.mul_div_cancel' (even_iff_two_dvd.mp (Nat.even_mul_succ_self i))

theorem triangle_le (h : i ≤ m) : i * (i + 1) / 2 ≤ i * m := by
  have htwo := two_mul_triangle i
  have hmul : i * i ≤ i * m := Nat.mul_le_mul_left i h
  have hle : i ≤ i * i := Nat.le_mul_self i
  rw [Nat.mul_succ] at htwo ⊢
  omega

theorem rowStart_succ (h : i < m) : rowStart m (i + 1) = rowStart m i + (m - (i + 1)) := by
  have htwo := two_mul_triangle i
  have htwo' := two_mul_triangle (i + 1)
  have hle := triangle_le (Nat.le_of_lt h)
  have hle' := triangle_le (Nat.succ_le_of_lt h)
  simp only [rowStart, Nat.succ_mul, Nat.mul_succ] at *
  omega

/-- All rows together have an edge for each pair. -/
theorem rowStart_self (m : Nat) : rowStart m m = m * (m - 1) / 2 := by
  cases m with
  | zero => rfl
  | succ m =>
      have htwo := two_mul_triangle m
      have htwo' := two_mul_triangle (m + 1)
      rw [Nat.add_sub_cancel, Nat.mul_comm (m + 1) m]
      simp only [rowStart, Nat.succ_mul, Nat.mul_succ] at *
      omega

theorem length_row (m i : Nat) : (row m i).length = m - (i + 1) := by
  rw [row, List.length_map, List.length_range']

theorem length_rows (h : i ≤ m) :
    ((List.range' 0 i).flatMap (row m)).length = rowStart m i := by
  induction i with
  | zero => simp [rowStart]
  | succ i ih =>
      rw [List.range'_1_concat, Nat.zero_add, List.flatMap_append, List.length_append,
        ih (Nat.le_of_succ_le h), List.flatMap_singleton, length_row, rowStart_succ h]

/-- The operations of a loop follow one another. -/
theorem getElem?_sweep (f : Nat → Operation) (lo : Nat) {len k : Nat} (hk : k < len) :
    ((List.range' lo len).map f)[k]? = some (f (lo + k)) := by
  rw [List.getElem?_map, List.getElem?_range' hk, Nat.one_mul, Option.map_some]

/-- Edge `k` of row `i` comes after the earlier rows and `k` more edges. -/
theorem getElem?_rows (hi : i < m) (hk : k < m - (i + 1)) :
    ((List.range' 0 m).flatMap (row m))[rowStart m i + k]? =
      some (.addEdge (node i) (node (i + 1 + k))) := by
  have hsplit : List.range' 0 m = List.range' 0 i ++ i :: List.range' (i + 1) (m - (i + 1)) := by
    have := List.range'_append_1 (s := 0) (m := i) (n := m - i)
    rw [Nat.zero_add, Nat.add_sub_cancel' (Nat.le_of_lt hi),
      show m - i = m - (i + 1) + 1 by omega, List.range'_succ] at this
    exact this.symm
  have hlength := length_rows (Nat.le_of_lt hi)
  rw [hsplit, List.flatMap_append, List.getElem?_append_right (by omega), hlength,
    Nat.add_sub_cancel_left, List.flatMap_cons,
    List.getElem?_append_left (by rw [length_row]; exact hk), row, getElem?_sweep _ _ hk]

theorem exists_row {p : Nat} (hi : i ≤ m) (hp : p < rowStart m i) :
    ∃ i' < i, ∃ k < m - (i' + 1), p = rowStart m i' + k := by
  induction i with
  | zero => simp [rowStart] at hp
  | succ i ih =>
      rcases Nat.lt_or_ge p (rowStart m i) with hlt | hge
      · obtain ⟨i', hi', k, hk, hp'⟩ := ih (Nat.le_of_succ_le hi) hlt
        exact ⟨i', Nat.lt_succ_of_lt hi', k, hk, hp'⟩
      · rw [rowStart_succ hi] at hp
        exact ⟨i, Nat.lt_succ_self i, p - rowStart m i, by omega, by omega⟩

/-! ## The whole schedule -/

/-- The number of operations in the schedule for `n` nodes. -/
def size (n : Nat) : Nat := n + n * (n - 1) / 2 + n / 2 + (n - n / 2 - 1)

theorem length_schedule (n : NodeId) : (schedule n).toList.length = size n.toNat := by
  rw [toList_schedule n rfl]
  simp only [List.length_append, List.length_map, List.length_range', length_rows (Nat.le_refl _),
    rowStart_self, size, Nat.sub_sub, Nat.add_assoc]

theorem position_edge {n : Nat} {i j : NodeId} (hi : i.toNat ≤ n) :
    position n (.addEdge i j) = n + (rowStart n i.toNat + (j.toNat - (i.toNat + 1))) := by
  have hle := triangle_le hi
  simp only [position, rowStart]
  omega

/-- Every operation of the schedule is at its position. -/
theorem getElem?_position (n : NodeId) {op : Operation} (hop : Planned n.toNat op) :
    (schedule n).toList[position n.toNat op]? = some op := by
  have hrows := length_rows (Nat.le_refl n.toNat)
  rw [toList_schedule n rfl]
  cases op with
  | addNode i =>
      have hi : i.toNat < n.toNat := hop
      rw [position, List.getElem?_append_left (by simpa using hi), getElem?_sweep _ _ hi,
        Nat.zero_add, node_toNat]
  | addEdge i j =>
      obtain ⟨hij, hj⟩ : i.toNat < j.toNat ∧ j.toNat < n.toNat := hop
      have hk : j.toNat - (i.toNat + 1) < n.toNat - (i.toNat + 1) := by omega
      have hedge := getElem?_rows (by omega) hk
      have hbound := (List.getElem?_eq_some_iff.mp hedge).1
      rw [position_edge (by omega), List.getElem?_append_right (by simp), List.length_map,
        List.length_range', Nat.add_sub_cancel_left, List.getElem?_append_left hbound, hedge,
        node_toNat, show i.toNat + 1 + (j.toNat - (i.toNat + 1)) = j.toNat by omega, node_toNat]
  | removeNode i =>
      have hi : i.toNat < n.toNat / 2 := hop
      rw [position, ← rowStart_self, Nat.add_assoc, List.getElem?_append_right (by simp),
        List.length_map, List.length_range', Nat.add_sub_cancel_left,
        List.getElem?_append_right (by omega), hrows, Nat.add_sub_cancel_left,
        List.getElem?_append_left (by simpa using hi), getElem?_sweep _ _ hi, Nat.zero_add,
        node_toNat]
  | removeEdge h i =>
      obtain ⟨hhi, hlo, hi⟩ : h.toNat + 1 = i.toNat ∧ n.toNat / 2 < i.toNat ∧
        i.toNat < n.toNat := hop
      have hk : i.toNat - n.toNat / 2 - 1 < n.toNat - (n.toNat / 2 + 1) := by omega
      rw [position, ← rowStart_self, Nat.add_assoc, Nat.add_assoc,
        List.getElem?_append_right (by simp), List.length_map, List.length_range',
        Nat.add_sub_cancel_left, List.getElem?_append_right (by omega), hrows,
        Nat.add_sub_cancel_left, List.getElem?_append_right (by simp), List.length_map,
        List.length_range', Nat.add_sub_cancel_left, getElem?_sweep _ _ hk,
        show n.toNat / 2 + 1 + (i.toNat - n.toNat / 2 - 1) = i.toNat by omega, node_toNat,
        show i.toNat - 1 = h.toNat by omega, node_toNat]
  | getNode | getEdge | getNeighbors | shortestPath | checkpoint => exact hop.elim

/-- Every position of the schedule is that of an operation. -/
theorem exists_planned {n : Nat} (hn : n < UInt64.size) {p : Nat} (hp : p < size n) :
    ∃ op, Planned n op ∧ position n op = p := by
  have hself := rowStart_self n
  rw [size] at hp
  rcases Nat.lt_or_ge p n with hnodes | hnodes
  · have hnode := toNat_node (k := p) (by omega)
    exact ⟨.addNode (node p), by rwa [Planned, hnode], by rw [position, hnode]⟩
  · rcases Nat.lt_or_ge p (n + n * (n - 1) / 2) with hedges | hedges
    · obtain ⟨i, hi, k, hk, hp'⟩ := exists_row (p := p - n) (Nat.le_refl n) (by omega)
      have hnodeI := toNat_node (k := i) (by omega)
      have hnodeJ := toNat_node (k := i + 1 + k) (by omega)
      refine ⟨.addEdge (node i) (node (i + 1 + k)), ?_, ?_⟩
      · rw [Planned, hnodeI, hnodeJ]
        omega
      · rw [position_edge (by omega), hnodeI, hnodeJ]
        omega
    · rcases Nat.lt_or_ge p (n + n * (n - 1) / 2 + n / 2) with hhalf | hhalf
      · have hnode := toNat_node (k := p - (n + n * (n - 1) / 2)) (by omega)
        refine ⟨.removeNode (node (p - (n + n * (n - 1) / 2))), ?_, ?_⟩
        · rw [Planned, hnode]
          omega
        · rw [position, hnode]
          omega
      · obtain ⟨k, rfl⟩ := Nat.exists_eq_add_of_le hhalf
        have hnodeH := toNat_node (k := n / 2 + k) (by omega)
        have hnodeI := toNat_node (k := n / 2 + 1 + k) (by omega)
        refine ⟨.removeEdge (node (n / 2 + k)) (node (n / 2 + 1 + k)), ?_, ?_⟩
        · rw [Planned, hnodeH, hnodeI]
          omega
        · rw [position, hnodeI]
          omega

theorem getElem?_schedule_iff (n : NodeId) (p : Nat) (op : Operation) :
    (schedule n).toList[p]? = some op ↔ Planned n.toNat op ∧ position n.toNat op = p := by
  constructor
  · intro hp
    have hlt : p < size n.toNat := by
      rw [← length_schedule]
      exact (List.getElem?_eq_some_iff.mp hp).1
    obtain ⟨op', hop', rfl⟩ := exists_planned n.toNat_lt hlt
    obtain rfl := Option.some.inj ((getElem?_position n hop').symm.trans hp)
    exact ⟨hop', rfl⟩
  · rintro ⟨hop, rfl⟩
    exact getElem?_position n hop

/-- **The schedule, position by position.** An operation is at a position of the
schedule exactly if it is planned and the position is its own. The schedule has as
many positions as the four parts have operations, and none holds an operation
that another one holds. No identifier wraps around when the one after a node, the
one after the half or the one before a later node is worked out. A window of the
schedule holds the operations whose positions it covers. -/
theorem schedule_positions (n : NodeId) :
    let m := n.toNat
    let ops := (schedule n).toList
    (∀ p op, ops[p]? = some op ↔ Planned m op ∧ position m op = p)
      ∧ ops.length = m + m * (m - 1) / 2 + m / 2 + (m - m / 2 - 1)
      ∧ ops.Nodup
      ∧ (∀ i : NodeId, i < n → (i + 1).toNat = i.toNat + 1)
      ∧ (n / 2 + 1).toNat = m / 2 + 1
      ∧ (∀ i : NodeId, n / 2 + 1 ≤ i → (i - 1).toNat + 1 = i.toNat)
      ∧ ∀ skip count k op, ((schedule n).window skip count)[k]? = some op ↔
          k < count ∧ Planned m op ∧ position m op = skip + k := by
  intro m ops
  have hat := getElem?_schedule_iff n
  refine ⟨hat, length_schedule n, ?_, fun i hi => toNat_succ hi, toNat_half_succ n,
    fun i hi => ?_, fun skip count k op => ?_⟩
  · rw [List.nodup_iff_getElem?_ne_getElem?]
    intro p q hpq hq heq
    obtain ⟨op, hop⟩ : ∃ op, ops[q]? = some op := ⟨ops[q], List.getElem?_eq_getElem hq⟩
    obtain ⟨-, hposition⟩ := (hat q op).mp hop
    obtain ⟨-, hposition'⟩ := (hat p op).mp (heq.trans hop)
    omega
  · have hle : m / 2 + 1 ≤ i.toNat := by
      rw [← toNat_half_succ]
      exact UInt64.le_iff_toNat_le.mp hi
    have hone : (1 : UInt64) ≤ i := UInt64.le_iff_toNat_le.mpr (Nat.le_of_add_left_le hle)
    rw [UInt64.toNat_sub_of_le _ _ hone]
    exact Nat.sub_add_cancel (Nat.le_of_add_left_le hle)
  · rw [Schedule.window_eq, List.getElem?_take]
    split
    · rename_i hk
      rw [List.getElem?_drop, hat]
      simp [hk, m]
    · rename_i hk
      simp [hk]

/-- The last operation for as many nodes as there are identifiers but one. -/
theorem schedule_positions_last :
    let n : NodeId := 18446744073709551615
    (schedule n).toList.length = 170141183460469231740910675752738881534
      ∧ (schedule n).toList[170141183460469231740910675752738881533]? =
          some (.removeEdge 18446744073709551613 18446744073709551614)
      ∧ ((schedule n).window 170141183460469231740910675752738881533 1000)[0]? =
          some (.removeEdge 18446744073709551613 18446744073709551614) := by
  intro n
  obtain ⟨hat, hlength, -, -, -, -, hwindow⟩ := schedule_positions n
  have hplanned : Planned n.toNat (.removeEdge 18446744073709551613 18446744073709551614) :=
    ⟨by decide, by decide, by decide⟩
  refine ⟨hlength.trans (by decide), (hat _ _).mpr ⟨hplanned, by decide⟩, ?_⟩
  exact (hwindow _ _ _ _).mpr ⟨by decide, hplanned, by decide⟩

end GraphCourier.CompleteGraph
