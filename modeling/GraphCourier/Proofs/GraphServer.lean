import Mathlib.Data.Finset.Insert
import Mathlib.Data.Finset.Filter
import Mathlib.Data.Sym.Sym2
import GraphCourier.Service
import GraphCourier.Payload

/-!
# Services that keep a graph

The operations are meant for a service that keeps a simple undirected graph.
`Graph.after?` says what an operation does to it, if it applies, and a
`GraphServer` is any service that answers accordingly: 200 to what applies, and
something else to what does not, which then changes nothing. What else such a
service keeps, the bodies it sends and the status by which it refuses are left
open.

`Graph.Is` describes a graph by the numbers of its nodes. Each change takes one
description to another (`Graph.Is.addNode` and so on), and a loop over operations
takes one instance of an invariant to the next (`Graph.exists_afterAll_flatMap`).
-/

namespace GraphCourier

/-- A simple undirected graph: its edges join nodes of it, and no node to
itself. -/
structure Graph where
  nodes : Finset NodeId
  edges : Finset (Sym2 NodeId)
  ends : ∀ e ∈ edges, ∀ v ∈ e, v ∈ nodes
  loopless : ∀ e ∈ edges, ¬e.IsDiag

namespace Graph

/-! ## Changes -/

def empty : Graph where
  nodes := ∅
  edges := ∅
  ends e he := absurd he (Finset.notMem_empty e)
  loopless e he := absurd he (Finset.notMem_empty e)

def addNode (g : Graph) (v : NodeId) : Graph where
  nodes := insert v g.nodes
  edges := g.edges
  ends e he w hw := Finset.mem_insert_of_mem (g.ends e he w hw)
  loopless := g.loopless

def removeNode (g : Graph) (v : NodeId) : Graph where
  nodes := g.nodes.erase v
  edges := g.edges.filter (v ∉ ·)
  ends e he w hw := by
    obtain ⟨hedge, hv⟩ := Finset.mem_filter.mp he
    exact Finset.mem_erase.mpr ⟨fun h => hv (h ▸ hw), g.ends e hedge w hw⟩
  loopless e he := g.loopless e (Finset.mem_filter.mp he).1

def addEdge (g : Graph) {a b : NodeId} (hne : a ≠ b) (ha : a ∈ g.nodes) (hb : b ∈ g.nodes) :
    Graph where
  nodes := g.nodes
  edges := insert s(a, b) g.edges
  ends e he w hw := by
    rcases Finset.mem_insert.mp he with rfl | he
    · rcases Sym2.mem_iff.mp hw with rfl | rfl
      · exact ha
      · exact hb
    · exact g.ends e he w hw
  loopless e he := by
    rcases Finset.mem_insert.mp he with rfl | he
    · exact fun h => hne (Sym2.mk_isDiag_iff.mp h)
    · exact g.loopless e he

def removeEdge (g : Graph) (a b : NodeId) : Graph where
  nodes := g.nodes
  edges := g.edges.erase s(a, b)
  ends e he := g.ends e (Finset.mem_of_mem_erase he)
  loopless e he := g.loopless e (Finset.mem_of_mem_erase he)

/-- The graph after an operation that applies to it. Operations that are no
changes never do. -/
def after? (g : Graph) : Operation → Option Graph
  | .addNode v => if v ∈ g.nodes then none else some (g.addNode v)
  | .removeNode v => if v ∈ g.nodes then some (g.removeNode v) else none
  | .addEdge a b =>
    if h : a ≠ b ∧ a ∈ g.nodes ∧ b ∈ g.nodes ∧ s(a, b) ∉ g.edges then
      some (g.addEdge h.1 h.2.1 h.2.2.1)
    else none
  | .removeEdge a b => if s(a, b) ∈ g.edges then some (g.removeEdge a b) else none
  | .getNode _ | .getEdge _ _ | .getNeighbors _ | .shortestPath _ _ | .checkpoint => none

/-- The graph after operations all of which apply, one after the other. -/
def afterAll? : List Operation → Graph → Option Graph
  | [], g => some g
  | op :: ops, g => (g.after? op).bind (afterAll? ops)

theorem isMutation_of_after? {g g' : Graph} {op : Operation} (h : g.after? op = some g') :
    op.isMutation = true := by
  cases op with
  | addNode | removeNode | addEdge | removeEdge => rfl
  | getNode | getEdge | getNeighbors | shortestPath | checkpoint => cases h

end Graph

/-- A service that keeps a graph and answers changes by what they do to it. -/
structure GraphServer (σ : Type) where
  service : Service σ
  graph : σ → Graph
  /-- A change that applies is made, and answered with 200. -/
  applied : ∀ op s g, (graph s).after? op = some g →
    graph (service op s).state = g
      ∧ ∃ body, (service op s).answer = .ok ⟨op, 200, body⟩
  /-- A change that does not apply is answered otherwise, and nothing changes. -/
  refused : ∀ op s, op.isMutation = true → (graph s).after? op = none →
    graph (service op s).state = graph s
      ∧ ∃ status body, status ≠ 200 ∧ (service op s).answer = .ok ⟨op, status, body⟩

/-- The graph as a server: it repeats the payload of a change that applies, and
refuses all else as a bad request. -/
def Graph.server : GraphServer Graph where
  service op g :=
    match g.after? op with
    | some g' => ⟨.ok ⟨op, 200, some op.payload.json⟩, [], g'⟩
    | none => ⟨.ok ⟨op, 400, none⟩, [], g⟩
  graph g := g
  applied op g g' h := by
    rw [show g.after? op = some g' from h]
    exact ⟨rfl, _, rfl⟩
  refused op g _ h := by
    rw [show g.after? op = none from h]
    exact ⟨rfl, 400, none, by decide, rfl⟩

/-! ## Descriptions -/

namespace Graph

variable {g : Graph} {N N' : Nat → Prop} {E E' : Nat → Nat → Prop}

/-- The nodes of a graph are the ones whose number has the property `N`, and
its edges join two of them, the lower one first, if `E` holds. -/
structure Is (g : Graph) (N : Nat → Prop) (E : Nat → Nat → Prop) : Prop where
  nodes : ∀ v, v ∈ g.nodes ↔ N v.toNat
  edges : ∀ a b, a < b → (s(a, b) ∈ g.edges ↔ E a.toNat b.toNat)

theorem is_empty : empty.Is (fun _ => False) (fun _ _ => False) where
  nodes _ := iff_of_false (Finset.notMem_empty _) id
  edges _ _ _ := iff_of_false (Finset.notMem_empty _) id

theorem Is.congr (h : g.Is N E) (hN : ∀ k, k < UInt64.size → (N k ↔ N' k))
    (hE : ∀ i j, i < j → j < UInt64.size → (E i j ↔ E' i j)) : g.Is N' E' where
  nodes v := (h.nodes v).trans (hN _ v.toNat_lt)
  edges a b hab := (h.edges a b hab).trans (hE _ _ (UInt64.lt_iff_toNat_lt.mp hab) b.toNat_lt)

/-- Two edges, each with its lower node first, are one only if their nodes are. -/
theorem mk_eq_mk_iff {a b c d : NodeId} (hab : a < b) (hcd : c < d) :
    s(a, b) = s(c, d) ↔ a.toNat = c.toNat ∧ b.toNat = d.toNat := by
  rw [Sym2.eq_iff, UInt64.toNat_inj, UInt64.toNat_inj]
  constructor
  · rintro (h | ⟨rfl, rfl⟩)
    · exact h
    · exact absurd hab (UInt64.lt_asymm hcd)
  · exact Or.inl

theorem Is.addNode (h : g.Is N E) {v : NodeId} (hv : ¬N v.toNat) :
    ∃ g', g.after? (.addNode v) = some g' ∧ g'.Is (fun k => N k ∨ k = v.toNat) E := by
  refine ⟨g.addNode v, if_neg (mt (h.nodes v).mp hv), ⟨fun w => ?_, h.edges⟩⟩
  rw [Graph.addNode, Finset.mem_insert, h.nodes, UInt64.toNat_inj, or_comm]

theorem Is.removeNode (h : g.Is N E) {v : NodeId} (hv : N v.toNat) :
    ∃ g', g.after? (.removeNode v) = some g'
      ∧ g'.Is (fun k => N k ∧ k ≠ v.toNat) (fun i j => E i j ∧ i ≠ v.toNat ∧ j ≠ v.toNat) := by
  refine ⟨g.removeNode v, if_pos ((h.nodes v).mpr hv), ⟨fun w => ?_, fun a b hab => ?_⟩⟩
  · rw [Graph.removeNode, Finset.mem_erase, h.nodes, Ne, Ne, UInt64.toNat_inj, and_comm]
  · rw [Graph.removeNode, Finset.mem_filter, h.edges a b hab, Sym2.mem_iff, not_or]
    simp only [Ne, UInt64.toNat_inj, @eq_comm _ v]

theorem Is.addEdge (h : g.Is N E) {a b : NodeId} (hab : a < b) (ha : N a.toNat)
    (hb : N b.toNat) (hE : ¬E a.toNat b.toNat) :
    ∃ g', g.after? (.addEdge a b) = some g'
      ∧ g'.Is N (fun i j => E i j ∨ (i = a.toNat ∧ j = b.toNat)) := by
  have happlies : a ≠ b ∧ a ∈ g.nodes ∧ b ∈ g.nodes ∧ s(a, b) ∉ g.edges :=
    ⟨UInt64.ne_of_lt hab, (h.nodes a).mpr ha, (h.nodes b).mpr hb, mt (h.edges a b hab).mp hE⟩
  refine ⟨_, dif_pos happlies, ⟨h.nodes, fun c d hcd => ?_⟩⟩
  rw [Graph.addEdge, Finset.mem_insert, h.edges c d hcd, or_comm, mk_eq_mk_iff hcd hab]

theorem Is.removeEdge (h : g.Is N E) {a b : NodeId} (hab : a < b) (hE : E a.toNat b.toNat) :
    ∃ g', g.after? (.removeEdge a b) = some g'
      ∧ g'.Is N (fun i j => E i j ∧ ¬(i = a.toNat ∧ j = b.toNat)) := by
  refine ⟨_, if_pos ((h.edges a b hab).mpr hE), ⟨h.nodes, fun c d hcd => ?_⟩⟩
  rw [Graph.removeEdge, Finset.mem_erase, h.edges c d hcd, and_comm, Ne, mk_eq_mk_iff hcd hab]

theorem Is.mem_edges (h : g.Is N E) (e : Sym2 NodeId) :
    e ∈ g.edges ↔ ∃ a b, e = s(a, b) ∧ a < b ∧ E a.toNat b.toNat := by
  constructor
  · intro he
    induction e using Sym2.ind with
    | _ a b =>
        have hne : a ≠ b := fun hab => g.loopless _ he (Sym2.mk_isDiag_iff.mpr hab)
        rcases UInt64.lt_or_lt_of_ne hne with hab | hba
        · exact ⟨a, b, rfl, hab, (h.edges a b hab).mp he⟩
        · rw [Sym2.eq_swap] at he
          exact ⟨b, a, Sym2.eq_swap, hba, (h.edges b a hba).mp he⟩
  · rintro ⟨a, b, rfl, hab, hE⟩
    exact (h.edges a b hab).mpr hE

/-! ## Loops -/

theorem afterAll?_append (ops ops' : List Operation) (g : Graph) :
    afterAll? (ops ++ ops') g = (afterAll? ops g).bind (afterAll? ops') := by
  induction ops generalizing g with
  | nil => rfl
  | cons op ops ih =>
      rw [List.cons_append, afterAll?, afterAll?, Option.bind_assoc]
      exact congrArg _ (funext ih)

theorem afterAll?_single (op : Operation) (g : Graph) : afterAll? [op] g = g.after? op := by
  rw [afterAll?]
  exact Option.bind_fun_some _

/-- A loop over operations: if each round applies to what the rounds before it
have made, and makes what the next one needs, then all rounds apply. -/
theorem exists_afterAll_flatMap (lo len : Nat) (f : Nat → List Operation)
    (inv : Nat → Graph → Prop)
    (hstep : ∀ k, lo ≤ k → k < lo + len → ∀ g, inv k g →
      ∃ g', afterAll? (f k) g = some g' ∧ inv (k + 1) g')
    (h : inv lo g) :
    ∃ g', afterAll? ((List.range' lo len).flatMap f) g = some g' ∧ inv (lo + len) g' := by
  induction len generalizing lo g with
  | zero => exact ⟨g, rfl, h⟩
  | succ len ih =>
      obtain ⟨g', hg', h'⟩ := hstep lo (Nat.le_refl lo) (by omega) g h
      obtain ⟨g'', hg'', h''⟩ :=
        ih (lo + 1) (fun k hlo hhi => hstep k (by omega) (by omega)) h'
      refine ⟨g'', ?_, by rwa [show lo + (len + 1) = lo + 1 + len by omega]⟩
      rw [List.range'_succ, List.flatMap_cons, afterAll?_append, hg']
      exact hg''

/-- The same, with one operation a round. -/
theorem exists_afterAll_map (lo len : Nat) (f : Nat → Operation) (inv : Nat → Graph → Prop)
    (hstep : ∀ k, lo ≤ k → k < lo + len → ∀ g, inv k g →
      ∃ g', g.after? (f k) = some g' ∧ inv (k + 1) g')
    (h : inv lo g) :
    ∃ g', afterAll? ((List.range' lo len).map f) g = some g' ∧ inv (lo + len) g' := by
  rw [List.map_eq_flatMap]
  refine exists_afterAll_flatMap lo len _ inv (fun k hlo hhi g hg => ?_) h
  rw [afterAll?_single]
  exact hstep k hlo hhi g hg

end Graph

end GraphCourier
