import GraphCourier.ClientError
import GraphCourier.Outcome
import GraphCourier.Json.Record
import GraphCourier.Text.Blank

/-!
# Responses

A `Response` is the status the service answered with and, if it was read, the
text of the body. `Response.decode` reads a body as one of the answer types.
There is nothing to read unless the status is 200 and the body has more than
white space; that is no error.
-/

namespace GraphCourier

/-- The answer to one operation. -/
structure Response where
  operation : Operation
  status : UInt16
  body : Option String
deriving DecidableEq, Repr

/-! ## Answer types -/

/-- Types that the body of an answer can be read as. -/
class AnswerBody (α : Type) where
  /-- Reads the value off the front of a text. -/
  read : Json.Reader α

instance : AnswerBody Json.Value := ⟨Json.readValue Json.maxDepth⟩

/-- Whether a node or an edge is in the graph. -/
structure InGraph where
  present : Bool
deriving DecidableEq, Repr

/-- The members of `InGraph`. -/
def InGraph.shape : Json.Shape := ⟨"InGraph", [⟨"in_graph", .flag⟩]⟩

instance : AnswerBody InGraph where
  read s := do
    let p ← Json.readRecord InGraph.shape s
    return p.map fun r => match r with | (present, ()) => ⟨present⟩

/-- The nodes joined to a node. -/
structure Neighbors where
  node : NodeId
  neighbors : List NodeId
deriving DecidableEq, Repr

/-- The members of `Neighbors`. -/
def Neighbors.shape : Json.Shape :=
  ⟨"Neighbors", [⟨"node_id", .id⟩, ⟨"neighbors", .idList⟩]⟩

instance : AnswerBody Neighbors where
  read s := do
    let p ← Json.readRecord Neighbors.shape s
    return p.map fun r => match r with | (node, neighbors, ()) => ⟨node, neighbors⟩

/-- The number of hops between two nodes. -/
structure Distance where
  hops : UInt64
deriving DecidableEq, Repr

/-- The members of `Distance`. -/
def Distance.shape : Json.Shape := ⟨"Distance", [⟨"distance", .id⟩]⟩

instance : AnswerBody Distance where
  read s := do
    let p ← Json.readRecord Distance.shape s
    return p.map fun r => match r with | (hops, ()) => ⟨hops⟩

/-! ## Decoding -/

/-- Reads a whole text as an answer. The refusal is the finished message. -/
def parseAnswer (α : Type) [AnswerBody α] (body : String) :
    Except String α :=
  match Json.readWhole (AnswerBody.read : Json.Reader α) body.toList with
  | .ok x => .ok x
  | .error f => .error (f.message body.toList)

namespace Response

def outcome (r : Response) : Outcome := Outcome.ofStatus r.status

/-- Only status 200 counts as success. -/
def isSuccess (r : Response) : Bool := GraphCourier.isSuccess r.status

/-- The text there is to decode: the body of a success, unless it is blank. -/
def content? (r : Response) : Option String :=
  if r.isSuccess then r.body.filter fun b => !Text.isBlank b else none

/-- Reads the body as an `α`, if there is anything to read. -/
def decode (α : Type) [AnswerBody α] (r : Response) :
    Except ClientError (Option α) :=
  match r.content? with
  | none => .ok none
  | some body =>
    match parseAnswer α body with
    | .ok x => .ok (some x)
    | .error detail => .error (.decode r.operation detail)

end Response

end GraphCourier
