import GraphCourier.Proofs.GraphServer
import GraphCourier.Proofs.Layout
import GraphCourier.Proofs.Trace

/-!
# The complete-graph schedule against a graph

Started on the empty graph, every operation of the schedule applies when its
turn comes, for every number of nodes (`afterAll_schedule`). Each of the four
parts has an invariant that says which nodes and edges there are after so many
rounds; the second part is a double loop and has one for each of its loops.

A run against any server that keeps a graph therefore succeeds throughout, under
both policies, and leaves the upper half of the nodes with all edges among them
but the ones between neighbours (`run_complete_graph`).
-/

namespace GraphCourier

open CompleteGraph

/-! ## The four parts of the schedule -/

namespace CompleteGraph

variable {g : Graph} {m : Nat}

/-- After `k` rounds the nodes below `k` are there. -/
theorem afterAll_addNodes (hm : m < UInt64.size)
    (h : g.Is (fun _ => False) (fun _ _ => False)) :
    ∃ g', Graph.afterAll? ((List.range' 0 m).map fun k => .addNode (node k)) g = some g'
      ∧ g'.Is (· < m) (fun _ _ => False) := by
  obtain ⟨g', hg', hinv⟩ := Graph.exists_afterAll_map 0 m (fun k => .addNode (node k))
    (fun k g => g.Is (· < k) (fun _ _ => False))
    (fun k _ hk g hg => by
      have hnode := toNat_node (k := k) (by omega)
      obtain ⟨g', hg', hinv⟩ := hg.addNode (v := node k) (by omega)
      exact ⟨g', hg', hinv.congr (fun i _ => by omega) (fun _ _ _ _ => Iff.rfl)⟩)
    (h.congr (fun k _ => iff_of_false id (Nat.not_lt_zero k)) (fun _ _ _ _ => Iff.rfl))
  rw [Nat.zero_add] at hinv
  exact ⟨g', hg', hinv⟩

/-- In row `i`, after the edges to the nodes below `j`, there are the edges of
the earlier rows and these. -/
theorem afterAll_row {i : Nat} (hi : i < m) (hm : m < UInt64.size)
    (h : g.Is (· < m) (fun a b => a < i ∧ b < m)) :
    ∃ g', Graph.afterAll? (row m i) g = some g'
      ∧ g'.Is (· < m) (fun a b => a < i + 1 ∧ b < m) := by
  obtain ⟨g', hg', hinv⟩ := Graph.exists_afterAll_map (i + 1) (m - (i + 1))
    (fun j => .addEdge (node i) (node j))
    (fun j g => g.Is (· < m) (fun a b => (a < i ∧ b < m) ∨ (a = i ∧ b < j)))
    (fun j hlo hhi g hg => by
      have hnodeI := toNat_node (k := i) (by omega)
      have hnodeJ := toNat_node (k := j) (by omega)
      have hlt : node i < node j := UInt64.lt_iff_toNat_lt.mpr (by omega)
      obtain ⟨g', hg', hinv⟩ := hg.addEdge hlt (by omega) (by omega) (by omega)
      exact ⟨g', hg', hinv.congr (fun _ _ => Iff.rfl) (fun a b _ _ => by omega)⟩)
    (h.congr (fun _ _ => Iff.rfl) (fun a b _ _ => by omega))
  exact ⟨g', hg', hinv.congr (fun _ _ => Iff.rfl) (fun a b _ _ => by omega)⟩

/-- After `i` rows all edges are there whose lower node is below `i`. -/
theorem afterAll_rows (hm : m < UInt64.size) (h : g.Is (· < m) (fun _ _ => False)) :
    ∃ g', Graph.afterAll? ((List.range' 0 m).flatMap (row m)) g = some g'
      ∧ g'.Is (· < m) (fun _ b => b < m) := by
  obtain ⟨g', hg', hinv⟩ := Graph.exists_afterAll_flatMap 0 m (row m)
    (fun i g => g.Is (· < m) (fun a b => a < i ∧ b < m))
    (fun i _ hi g hg => afterAll_row (by omega) hm hg)
    (h.congr (fun _ _ => Iff.rfl) (fun a b _ _ => iff_of_false id (by omega)))
  rw [Nat.zero_add] at hinv
  exact ⟨g', hg', hinv.congr (fun _ _ => Iff.rfl) (fun a b _ _ => by omega)⟩

/-- After `k` rounds the nodes from `k` on are left, with all edges among them. -/
theorem afterAll_removeNodes {half : Nat} (hhalf : half ≤ m) (hm : m < UInt64.size)
    (h : g.Is (· < m) (fun _ b => b < m)) :
    ∃ g', Graph.afterAll? ((List.range' 0 half).map fun k => .removeNode (node k)) g = some g'
      ∧ g'.Is (fun k => half ≤ k ∧ k < m) (fun a b => half ≤ a ∧ b < m) := by
  obtain ⟨g', hg', hinv⟩ := Graph.exists_afterAll_map 0 half (fun k => .removeNode (node k))
    (fun k g => g.Is (fun i => k ≤ i ∧ i < m) (fun a b => k ≤ a ∧ b < m))
    (fun k _ hk g hg => by
      have hnode := toNat_node (k := k) (by omega)
      obtain ⟨g', hg', hinv⟩ := hg.removeNode (v := node k) (by omega)
      exact ⟨g', hg', hinv.congr (fun i _ => by omega) (fun a b _ _ => by omega)⟩)
    (h.congr (fun i _ => by omega) (fun a b _ _ => by omega))
  exact ⟨g', hg', hinv.congr (fun i _ => by omega) (fun a b _ _ => by omega)⟩

/-- After the rounds below `k` the edges between neighbours are gone up to
the one that ends in `k - 1`. -/
theorem afterAll_removeEdges {half : Nat} (hm : m < UInt64.size)
    (h : g.Is (fun k => half ≤ k ∧ k < m) (fun a b => half ≤ a ∧ b < m)) :
    ∃ g', Graph.afterAll? ((List.range' (half + 1) (m - (half + 1))).map
        fun k => .removeEdge (node (k - 1)) (node k)) g = some g'
      ∧ g'.Is (fun k => half ≤ k ∧ k < m) (fun a b => half ≤ a ∧ a + 1 < b ∧ b < m) := by
  obtain ⟨g', hg', hinv⟩ := Graph.exists_afterAll_map (half + 1) (m - (half + 1))
    (fun k => .removeEdge (node (k - 1)) (node k))
    (fun k g => g.Is (fun i => half ≤ i ∧ i < m)
      (fun a b => half ≤ a ∧ b < m ∧ ¬(b = a + 1 ∧ b < k)))
    (fun k hlo hhi g hg => by
      have hnode := toNat_node (k := k) (by omega)
      have hpred := toNat_node (k := k - 1) (by omega)
      have hlt : node (k - 1) < node k := UInt64.lt_iff_toNat_lt.mpr (by omega)
      obtain ⟨g', hg', hinv⟩ := hg.removeEdge hlt (by omega)
      exact ⟨g', hg', hinv.congr (fun _ _ => Iff.rfl) (fun a b _ _ => by omega)⟩)
    (h.congr (fun _ _ => Iff.rfl) (fun a b _ _ => by omega))
  exact ⟨g', hg', hinv.congr (fun _ _ => Iff.rfl) (fun a b _ _ => by omega)⟩

/-- All operations of the schedule apply, from the empty graph on. -/
theorem afterAll_schedule (n : NodeId) :
    ∃ g, Graph.afterAll? (schedule n).toList .empty = some g
      ∧ g.Is (fun k => n.toNat / 2 ≤ k ∧ k < n.toNat)
          (fun a b => n.toNat / 2 ≤ a ∧ a + 1 < b ∧ b < n.toNat) := by
  have hm : n.toNat < UInt64.size := n.toNat_lt
  obtain ⟨g₁, hafter₁, h₁⟩ := afterAll_addNodes hm Graph.is_empty
  obtain ⟨g₂, hafter₂, h₂⟩ := afterAll_rows hm h₁
  obtain ⟨g₃, hafter₃, h₃⟩ := afterAll_removeNodes (Nat.div_le_self n.toNat 2) hm h₂
  obtain ⟨g₄, hafter₄, h₄⟩ := afterAll_removeEdges hm h₃
  refine ⟨g₄, ?_, h₄⟩
  rw [toList_schedule n rfl, Graph.afterAll?_append, hafter₁, Option.bind_some,
    Graph.afterAll?_append, hafter₂, Option.bind_some, Graph.afterAll?_append, hafter₃,
    Option.bind_some, hafter₄]

end CompleteGraph

/-! ## Runs against a server -/

variable {σ : Type}

/-- A change that was answered with 200. -/
def Exchange.Applied (x : Exchange) : Prop :=
  x.operation.isMutation = true ∧ ∃ body, x.answer = .ok ⟨x.operation, 200, body⟩

theorem Exchange.Applied.verdict {x : Exchange} (h : x.Applied) (policy : FailurePolicy) :
    x.verdict policy = none := by
  obtain ⟨-, body, hanswer⟩ := h
  rw [Exchange.verdict, hanswer]
  rfl

theorem Exchange.Applied.count {x : Exchange} (h : x.Applied) (k : Nat) :
    x.count ⟨k, k, k, []⟩ = ⟨k + 1, k + 1, k + 1, []⟩ := by
  obtain ⟨hmutation, body, hanswer⟩ := h
  simp [Exchange.count, hanswer, Summary.record, Response.isSuccess, isSuccess, hmutation]

theorem foldl_count_of_applied {xs : List Exchange} (h : ∀ x ∈ xs, x.Applied) (k : Nat) :
    xs.foldl Exchange.count ⟨k, k, k, []⟩ =
      ⟨k + xs.length, k + xs.length, k + xs.length, []⟩ := by
  induction xs generalizing k with
  | nil => rfl
  | cons x xs ih =>
      have hx := (h x (List.mem_cons_self ..)).count k
      have hxs := ih (fun y hy => h y (List.mem_cons_of_mem _ hy)) (k + 1)
      rw [List.foldl_cons, hx, hxs, List.length_cons, Nat.add_right_comm]
      rfl

theorem tally_of_applied {xs : List Exchange} (h : ∀ x ∈ xs, x.Applied) :
    tally xs = ⟨xs.length, xs.length, xs.length, []⟩ := by
  have hcount := foldl_count_of_applied h 0
  rwa [Nat.zero_add] at hcount

/-- Changes that all apply are made by a server, and answered with 200. -/
theorem GraphServer.applied_of_afterAll (server : GraphServer σ) {ops : List Operation} {s : σ}
    {g : Graph} (h : Graph.afterAll? ops (server.graph s) = some g) :
    server.graph (server.service.after ops s) = g
      ∧ ∀ x ∈ server.service.exchanges ops s, x.Applied := by
  induction ops generalizing s with
  | nil => exact ⟨Option.some.inj h, fun x hx => (List.not_mem_nil hx).elim⟩
  | cons op ops ih =>
      obtain ⟨g', hop, hops⟩ := Option.bind_eq_some_iff.mp h
      obtain ⟨hgraph, body, hanswer⟩ := server.applied op s g' hop
      rw [← hgraph] at hops
      obtain ⟨hafter, happlied⟩ := ih hops
      refine ⟨hafter, fun x hx => ?_⟩
      rcases List.mem_cons.mp hx with rfl | hx
      · exact ⟨Graph.isMutation_of_after? hop, body, hanswer⟩
      · exact happlied x hx

/-- A run of changes that all apply makes them all and counts them all. -/
theorem GraphServer.run_of_afterAll (server : GraphServer σ) (policy : FailurePolicy)
    (schedule : Schedule) {s : σ} {g : Graph}
    (h : Graph.afterAll? schedule.toList (server.graph s) = some g) :
    let ops := schedule.toList
    let r := run server.service policy schedule s .unlimited
    r.sent = ops ∧ server.graph r.reached.state = g
      ∧ r.result = .ok ⟨ops.length, ops.length, ops.length, []⟩ := by
  intro ops r
  let xs := server.service.exchanges ops s
  obtain ⟨hgraph, happlied⟩ := server.applied_of_afterAll h
  have hgo : ∀ x ∈ xs, x.verdict policy = none := fun x hx => (happlied x hx).verdict policy
  obtain ⟨(hsteps : r.steps = _), (hresult : r.result = _)⟩ :=
    run_trace server.service policy schedule s .unlimited rfl rfl
  have hsent : r.sent = ops := by
    rw [Run.sent, hsteps, operations_of_go hgo]
    exact server.service.map_operation_exchanges ops s
  refine ⟨hsent, ?_, ?_⟩
  · rw [state_eq_after, ← hgraph]
    exact congrArg (fun l => server.graph (server.service.after l s)) hsent
  · have hlength : xs.length = ops.length := server.service.length_exchanges ops s
    rw [hresult, trace_unlimited_of_go hgo, ← hlength, ← tally_of_applied happlied]
    rfl

/-- **The complete-graph run.** Against any server that keeps a graph, started
empty, and under both policies, all operations of the schedule are sent, apply
one after the other, and are counted as changes. What is left are the nodes of
the upper half, with all edges among them but those between neighbours. The
counts are natural numbers, so the schedule may be of any length. -/
theorem run_complete_graph (server : GraphServer σ) (policy : FailurePolicy) (n : NodeId)
    (s : σ) (hempty : server.graph s = .empty) :
    let ops := (schedule n).toList
    let r := run server.service policy (schedule n) s .unlimited
    let g := server.graph r.reached.state
    r.sent = ops ∧ Graph.afterAll? ops .empty = some g
      ∧ r.result = .ok ⟨ops.length, ops.length, ops.length, []⟩
      ∧ (∀ v, v ∈ g.nodes ↔ n.toNat / 2 ≤ v.toNat ∧ v.toNat < n.toNat)
      ∧ ∀ e, e ∈ g.edges ↔ ∃ i j : NodeId, e = s(i, j)
          ∧ n.toNat / 2 ≤ i.toNat ∧ i.toNat + 1 < j.toNat ∧ j.toNat < n.toNat := by
  intro ops r g
  obtain ⟨left, hafter, hleft⟩ := afterAll_schedule n
  obtain ⟨hsent, (hgraph : g = left), hresult⟩ :=
    server.run_of_afterAll policy (schedule n) (hempty ▸ hafter)
  refine ⟨hsent, by rw [hgraph]; exact hafter, hresult, by rw [hgraph]; exact hleft.nodes,
    fun e => ?_⟩
  rw [hgraph, hleft.mem_edges]
  constructor
  · rintro ⟨i, j, he, -, hij⟩
    exact ⟨i, j, he, hij⟩
  · rintro ⟨i, j, he, hij⟩
    exact ⟨i, j, he, UInt64.lt_iff_toNat_lt.mpr (by omega), hij⟩

/-- Five nodes take nineteen operations, and leave one edge. -/
theorem run_complete_graph_five :
    Graph.server.graph Graph.empty = .empty
      ∧ (run Graph.server.service .abort (schedule 5) Graph.empty .unlimited).result =
          .ok ⟨19, 19, 19, []⟩
      ∧ s(2, 4) ∈ (run Graph.server.service .abort (schedule 5) Graph.empty
          .unlimited).reached.state.edges := by
  obtain ⟨-, -, hresult, -, hedges⟩ :=
    run_complete_graph Graph.server .abort 5 Graph.empty rfl
  have hlength : (schedule 5).toList.length = 19 := by decide +kernel
  rw [hlength] at hresult
  exact ⟨rfl, hresult, (hedges _).mpr ⟨2, 4, rfl, by decide, by decide, by decide⟩⟩

end GraphCourier
