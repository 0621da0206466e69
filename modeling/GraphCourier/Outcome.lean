/-!
# What a status means

The graph service answers with an HTTP status. `Outcome.ofStatus` sorts the
statuses it is known to use; only 200 counts as success.
-/

namespace GraphCourier

/-- The meaning of a response status. -/
inductive Outcome where
  /-- 200: the operation was applied, or the question answered. -/
  | ok
  /-- 204: nothing changed, for instance because the node was there already. -/
  | noChange
  /-- 400: a node or an edge is missing, or the arguments make no sense. -/
  | badRequest
  /-- 507: the log of changes is full and needs a checkpoint. -/
  | storageFull
  /-- Any other status from 500 to 599. -/
  | serverError (code : UInt16)
  /-- Any status not named above. -/
  | other (code : UInt16)
deriving DecidableEq, Repr

namespace Outcome

def ofStatus (status : UInt16) : Outcome :=
  if status = 200 then ok
  else if status = 204 then noChange
  else if status = 400 then badRequest
  else if status = 507 then storageFull
  else if 500 ≤ status ∧ status ≤ 599 then serverError status
  else other status

/-- The wording used in log lines. -/
def text : Outcome → String
  | ok => "ok"
  | noChange => "no change"
  | badRequest => "bad request"
  | storageFull => "checkpoint needed"
  | serverError _ => "server error"
  | other _ => "unexpected status"

/-- The status kept by the two open-ended outcomes. -/
def code? : Outcome → Option UInt16
  | serverError code | other code => some code
  | _ => none

end Outcome

/-- Only status 200 counts as success. -/
def isSuccess (status : UInt16) : Bool := status == 200

end GraphCourier
