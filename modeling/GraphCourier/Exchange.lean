import GraphCourier.Client
import GraphCourier.Http
import GraphCourier.Payload
import GraphCourier.Service

/-!
# Sending operations

A client sends an operation as one request: the payload to the URL of the
operation. What comes back is a `Response`. For the four operations that ask a
question there are calls that also read the answer; they answer `none` where
the service said anything but 200.
-/

namespace GraphCourier.Client

/-- Tells of a request that is about to be sent. -/
def sendingLine (url : Url) (op : Operation) : LogLine where
  level := .debug
  target := "graph_driver::client"
  message := "sending request"
  fields := [("url", url.text), ("payload", op.payload.debug)]

def receivedLine (r : Response) : LogLine where
  level := .debug
  target := "graph_driver::client"
  message := "response received"
  fields := [("operation", r.operation.display),
    ("status", Decimal.text r.status.toNat),
    ("body_len", Decimal.text (r.body.getD "").utf8ByteSize)]

variable {σ : Type}

def post (c : Client) (network : Http.Network σ) (op : Operation) (state : σ) :
    Reply Response σ :=
  match c.endpoint op with
  | .error e => ⟨.error e, [], state⟩
  | .ok url =>
    match Http.exchange network url op.payload.json state with
    | (.error e, state) => ⟨.error e, [sendingLine url op], state⟩
    | (.ok (status, body), state) =>
      let r : Response := ⟨op, status, body⟩
      ⟨.ok r, [sendingLine url op, receivedLine r], state⟩

def service (c : Client) (network : Http.Network σ) : Service σ :=
  c.post network

/-- Sends an operation and reads the answer as an `α`, of which a part is
wanted. -/
def ask (α : Type) [AnswerBody α] {β : Type} (part : α → β) (c : Client)
    (network : Http.Network σ) (op : Operation) (state : σ) :
    Reply (Option β) σ :=
  (c.post network op state).andThen fun r =>
    (r.decode α).map fun x => x.map part

def getNode (c : Client) (network : Http.Network σ) (id : NodeId) (state : σ) :
    Reply (Option Bool) σ :=
  c.ask InGraph InGraph.present network (.getNode id) state

def getEdge (c : Client) (network : Http.Network σ) (a b : NodeId)
    (state : σ) : Reply (Option Bool) σ :=
  c.ask InGraph InGraph.present network (.getEdge a b) state

def getNeighbors (c : Client) (network : Http.Network σ) (id : NodeId)
    (state : σ) : Reply (Option (List NodeId)) σ :=
  c.ask Neighbors Neighbors.neighbors network (.getNeighbors id) state

def shortestPath (c : Client) (network : Http.Network σ) (a b : NodeId)
    (state : σ) : Reply (Option UInt64) σ :=
  c.ask Distance Distance.hops network (.shortestPath a b) state

end GraphCourier.Client
