import GraphCourier.Http

/-!
# Tapes

A tape is a network made of deliveries that are at hand. Requests take them in
order; the first one for which there is none left is noted as open, and from
then on nothing is delivered. A program that runs on a tape can so be run as
far as its deliveries reach, and be run again once there is one more.
-/

namespace GraphCourier.Http

/-- Deliveries to come, and the request that was left open. -/
structure Tape where
  deliveries : List Delivery
  opened : Option Request
deriving DecidableEq, Repr

namespace Tape

def ofList (ds : List Delivery) : Tape := ⟨ds, none⟩

def network : Network Tape := fun r t =>
  match t.deliveries with
  | d :: ds => (d, { t with deliveries := ds })
  | [] => (.lost, { t with opened := t.opened.or (some r) })

end Tape

end GraphCourier.Http
