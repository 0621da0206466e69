import GraphCourier.Decimal

/-!
# Operations on the remote graph

An `Operation` is one call against the graph service. Each kind carries the
node identifiers its endpoint takes, so a wrong number of arguments cannot be
written down. `Operation.name` is the last part of the request path,
`Operation.display` the printed call form.
-/

namespace GraphCourier

/-- A node of the remote graph is named by an unsigned 64-bit number. -/
abbrev NodeId := UInt64

namespace NodeId

def text (id : NodeId) : String := Decimal.text id.toNat

/-- Reads an identifier: an optional plus sign and digits, below `2 ^ 64`. -/
def ofText? (s : String) : Option NodeId :=
  (Decimal.read UInt64.size s.toList).map UInt64.ofNat

end NodeId

/-- One call against the graph service. -/
inductive Operation where
  | addNode (id : NodeId)
  | removeNode (id : NodeId)
  | addEdge (a b : NodeId)
  | removeEdge (a b : NodeId)
  /-- Asks whether a node is in the graph. -/
  | getNode (id : NodeId)
  /-- Asks whether an edge is in the graph. -/
  | getEdge (a b : NodeId)
  /-- Asks for the nodes joined to a node. -/
  | getNeighbors (id : NodeId)
  /-- Asks for the number of hops between two nodes. -/
  | shortestPath (a b : NodeId)
  /-- Asks the service to fold its log of changes. -/
  | checkpoint
deriving DecidableEq, Repr, Inhabited

namespace Operation

/-- The endpoint name, which ends the request path. -/
def name : Operation → String
  | addNode _ => "add_node"
  | removeNode _ => "remove_node"
  | addEdge _ _ => "add_edge"
  | removeEdge _ _ => "remove_edge"
  | getNode _ => "get_node"
  | getEdge _ _ => "get_edge"
  | getNeighbors _ => "get_neighbors"
  | shortestPath _ _ => "shortest_path"
  | checkpoint => "checkpoint"

/-- The identifiers an operation carries, in order. -/
def arguments : Operation → List NodeId
  | addNode id | removeNode id | getNode id | getNeighbors id => [id]
  | addEdge a b | removeEdge a b | getEdge a b | shortestPath a b => [a, b]
  | checkpoint => []

def isMutation : Operation → Bool
  | addNode _ | removeNode _ | addEdge _ _ | removeEdge _ _ => true
  | _ => false

/-- The call form: the name, then the arguments in parentheses. -/
def display (op : Operation) : String :=
  op.name ++ "(" ++ ", ".intercalate (op.arguments.map NodeId.text) ++ ")"

end Operation

end GraphCourier
