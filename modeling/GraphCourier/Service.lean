import GraphCourier.LogLine
import GraphCourier.Response

/-!
# Services

A service is anything that answers an operation and changes its own state in
doing so, so its answers may depend on all operations before. Whoever carries
an operation to it may have something to say about that, which is handed out as
log lines next to the answer.
-/

namespace GraphCourier

/-- What came of an operation: an answer, log lines, and the state after it. -/
structure Reply (α σ : Type) where
  answer : Except ClientError α
  log : List LogLine
  state : σ

def Reply.andThen {α β σ : Type} (r : Reply α σ)
    (f : α → Except ClientError β) : Reply β σ :=
  ⟨r.answer.bind f, r.log, r.state⟩

/-- Answers operations; `σ` is what it remembers. -/
abbrev Service (σ : Type) := Operation → σ → Reply Response σ

end GraphCourier
