import GraphCourier.Decimal
import GraphCourier.Response
import GraphCourier.Text.Utf8

/-!
# Reports

A run reports every answer: the status on a line, then the body and a line end
if there is a body. Reports go to a `Sink`, which may have room for a number of
bytes only. A single write is cut to what fits, at whatever byte that is, and
the sink then refuses.

Whoever writes to a sink (`put`) goes on writing what a write left over until
all is accepted or the sink refuses. A report is written piece by piece
(`putAll`), and nothing more is written after a refusal.
-/

namespace GraphCourier

/-- The part of a report that belongs to one answer. -/
def Response.segment (r : Response) : Bytes :=
  utf8 (Decimal.text r.status.toNat ++ "\n" ++
    match r.body with
    | some body => body ++ "\n"
    | none => "")

/-- The pieces in which that part is written, in order. -/
def Response.pieces (r : Response) : List Bytes :=
  utf8 (Decimal.text r.status.toNat) :: utf8 "\n" ::
    match r.body with
    | some body => [utf8 body, utf8 "\n"]
    | none => []

/-- How a sink without room refuses. -/
inductive SinkFault where
  /-- It says that it is full. -/
  | full
  /-- It takes nothing and says nothing. -/
  | stalled
deriving DecidableEq, Repr

def SinkFault.text : SinkFault → String
  | full => "sink full"
  | stalled => "failed to write whole buffer"

structure Sink where
  /-- How many more bytes fit, if there is a limit. -/
  room : Option Nat
  /-- What happens to bytes that do not fit. -/
  fault : SinkFault
deriving DecidableEq, Repr

namespace Sink

def unlimited : Sink := ⟨none, .full⟩

/-- One write: how many of the bytes the sink accepts. -/
def write (bs : Bytes) (s : Sink) : Except SinkFault (Nat × Sink) :=
  match s.room, s.fault with
  | none, _ => .ok (bs.length, s)
  | some 0, .full => .error .full
  | some n, _ => .ok (min n bs.length, { s with room := some (n - bs.length) })

/-- What became of bytes given to a sink. -/
structure Put where
  taken : Bytes
  sink : Sink
  fault : Option SinkFault
deriving DecidableEq, Repr

/-- Writes until all bytes are accepted. A write that accepts none of them is
as good as a refusal. -/
def put (bs : Bytes) (s : Sink) : Put :=
  if bs.isEmpty then ⟨[], s, none⟩
  else
    match s.write bs with
    | .error fault => ⟨[], s, some fault⟩
    | .ok (0, s) => ⟨[], s, some .stalled⟩
    | .ok (n + 1, s) =>
      let rest := put (bs.drop (n + 1)) s
      { rest with taken := bs.take (n + 1) ++ rest.taken }
termination_by bs.length
decreasing_by
  have : bs ≠ [] := fun h => by simp_all
  have := List.length_pos_iff.2 this
  simp only [List.length_drop]
  omega

/-- Writes pieces one after the other, up to the first that is not accepted as
a whole. -/
def putAll : List Bytes → Sink → Put
  | [], s => ⟨[], s, none⟩
  | bs :: later, s =>
    let out := s.put bs
    match out.fault with
    | some _ => out
    | none =>
      let rest := putAll later out.sink
      { rest with taken := out.taken ++ rest.taken }

end Sink

end GraphCourier
