import GraphCourier.Response

/-!
# Summaries

A run keeps count of its answers: how many there were, how many were
successes, how many successes changed the graph, and for every other status how
often it came. The statuses are kept in increasing order.
-/

namespace GraphCourier

/-- How often each status came, in increasing order of the statuses. -/
abbrev StatusCounts := List (UInt16 × Nat)

namespace StatusCounts

def count (status : UInt16) : StatusCounts → StatusCounts
  | [] => [(status, 1)]
  | (s, n) :: rest =>
    if status < s then (status, 1) :: (s, n) :: rest
    else if status = s then (s, n + 1) :: rest
    else (s, n) :: count status rest

def total : StatusCounts → Nat
  | [] => 0
  | (_, n) :: rest => n + total rest

theorem total_count (status : UInt16) (counts : StatusCounts) :
    total (count status counts) = total counts + 1 := by
  induction counts with
  | nil => rfl
  | cons entry rest ih =>
    obtain ⟨s, n⟩ := entry
    simp only [count, total] at *
    split
    · simp only [total]; omega
    · split
      · simp only [total]; omega
      · simp only [total, ih]; omega

end StatusCounts

/-- The count of a run. -/
structure Summary where
  /-- Requests that got an answer. -/
  requests : Nat
  /-- Requests answered with 200. -/
  succeeded : Nat
  /-- Requests answered with 200 that change the graph. -/
  mutations : Nat
  /-- All other answers, by status. -/
  rejected : StatusCounts
deriving DecidableEq, Repr

namespace Summary

def empty : Summary := ⟨0, 0, 0, []⟩

def record (r : Response) (s : Summary) : Summary :=
  if r.isSuccess then
    { s with
      requests := s.requests + 1
      succeeded := s.succeeded + 1
      mutations := s.mutations + if r.operation.isMutation then 1 else 0 }
  else
    { s with
      requests := s.requests + 1
      rejected := s.rejected.count r.status }

/-- How many answers were not 200. -/
def rejectedTotal (s : Summary) : Nat := s.rejected.total

/-- The members of the `rejected` object. -/
def rejectedJson (s : Summary) : String :=
  ",".intercalate (s.rejected.map fun e =>
    "\"" ++ Decimal.text e.1.toNat ++ "\":" ++ Decimal.text e.2)

def json (s : Summary) : String :=
  "\x7b\"requests\":" ++ Decimal.text s.requests ++
    ",\"succeeded\":" ++ Decimal.text s.succeeded ++
    ",\"mutations\":" ++ Decimal.text s.mutations ++
    ",\"rejected\":\x7b" ++ s.rejectedJson ++ "\x7d\x7d"

end Summary

end GraphCourier
