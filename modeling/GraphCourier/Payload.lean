import GraphCourier.Operation

/-!
# Request bodies

Every operation is sent as one compact JSON object whose members hold the
identifiers as decimal text: none, `node_id`, or `node_a_id` and `node_b_id`.
`Payload.json` is that text and `Payload.debug` the form used in log lines.
-/

namespace GraphCourier

/-- The body of a request, by the number of identifiers it names. -/
inductive Payload where
  | empty
  | node (id : NodeId)
  | edge (a b : NodeId)
deriving DecidableEq, Repr

namespace Payload

/-- The named members, in the order they are written. -/
def members : Payload → List (String × NodeId)
  | empty => []
  | node id => [("node_id", id)]
  | edge a b => [("node_a_id", a), ("node_b_id", b)]

def json (p : Payload) : String :=
  "\x7b" ++ ",".intercalate (p.members.map fun m =>
    "\"" ++ m.1 ++ "\":\"" ++ m.2.text ++ "\"") ++ "\x7d"

/-- The record form used in log lines. -/
def debug : Payload → String
  | empty => "Empty"
  | node id => "Node \x7b node_id: \"" ++ id.text ++ "\" \x7d"
  | edge a b => "Edge \x7b node_a_id: \"" ++ a.text ++
      "\", node_b_id: \"" ++ b.text ++ "\" \x7d"

end Payload

def Operation.payload : Operation → Payload
  | addNode id | removeNode id | getNode id | getNeighbors id => .node id
  | addEdge a b | removeEdge a b | getEdge a b | shortestPath a b => .edge a b
  | checkpoint => .empty

end GraphCourier
