import GraphCourier.FailurePolicy
import GraphCourier.Report
import GraphCourier.Schedule
import GraphCourier.Service
import GraphCourier.Summary

/-!
# Runs

A run sends the operations of a schedule one at a time, and the next one only
after the answer to the last was reported and counted. It ends early when an
operation gets no answer, when the report does not fit into its sink, or, if
the policy says so, when an answer is not 200.

- **runs chain** (`drive_append`): running one schedule after another goes on
  from where the first one came to, unless that one stopped.
-/

namespace GraphCourier

/-- Why a run ended early. -/
inductive RunError where
  /-- There was no answer to an operation, which is named by its call form. -/
  | transport (operation : String) (source : ClientError)
  /-- An answer was not 200, and the policy is to stop then. -/
  | rejected (operation : String) (status : UInt16)
  /-- The report did not fit. -/
  | output (fault : SinkFault)
deriving DecidableEq, Repr

namespace RunError

def message : RunError → String
  | transport operation source =>
    "request " ++ operation ++ " failed: " ++ source.message
  | rejected operation status =>
    "request " ++ operation ++ " rejected with HTTP " ++
      Decimal.text status.toNat
  | output fault => "failed to write report: " ++ fault.text

end RunError

/-- An operation that was sent, and what was reported after it and before the
next one. -/
structure Step where
  operation : Operation
  report : Bytes
deriving DecidableEq, Repr

/-- How far a run has come. -/
structure Progress (σ : Type) where
  state : σ
  sink : Sink
  summary : Summary
  steps : Array Step
  log : Array LogLine

namespace Progress

variable {σ : Type}

def start (state : σ) (sink : Sink) : Progress σ :=
  ⟨state, sink, .empty, #[], #[]⟩

def report (p : Progress σ) : Bytes := p.steps.toList.flatMap Step.report

end Progress

/-! ## Log lines -/

/-- Tells of an answer that is not 200. -/
def notAppliedLine (operation : Operation) (r : Response)
    (policy : FailurePolicy) : LogLine where
  level := .warn
  target := "graph_driver::driver"
  message := "request not applied"
  fields := [("operation", operation.display),
    ("status", Decimal.text r.status.toNat), ("outcome", r.outcome.text),
    ("policy", policy.text)]

def completeLine (s : Summary) : LogLine where
  level := .info
  target := "graph_driver::driver"
  message := "run complete"
  fields := [("requests", Decimal.text s.requests),
    ("succeeded", Decimal.text s.succeeded),
    ("mutations", Decimal.text s.mutations),
    ("rejected", Decimal.text s.rejectedTotal)]

/-! ## Running -/

variable {σ : Type}

/-- What a run does with an answer: report it, count it, and judge it. -/
def settle (policy : FailurePolicy) (op : Operation) (r : Response)
    (p : Progress σ) : Progress σ × Option RunError :=
  let out := p.sink.putAll r.pieces
  let p := { p with sink := out.sink, steps := p.steps.push ⟨op, out.taken⟩ }
  match out.fault with
  | some fault => (p, some (.output fault))
  | none =>
    let p := { p with summary := p.summary.record r }
    if r.isSuccess then (p, none)
    else
      ({ p with log := p.log.push (notAppliedLine op r policy) },
        match policy with
        | .proceed => none
        | .abort => some (.rejected op.display r.status))

def step (service : Service σ) (policy : FailurePolicy) (op : Operation)
    (p : Progress σ) : Progress σ × Option RunError :=
  let reply := service op p.state
  let p := { p with state := reply.state, log := p.log ++ reply.log }
  match reply.answer with
  | .ok r => settle policy op r p
  | .error e =>
    ({ p with steps := p.steps.push ⟨op, []⟩ }, some (.transport op.display e))

/-- Sends the operations of a schedule until one of them stops the run. -/
def drive (service : Service σ) (policy : FailurePolicy) :
    Schedule → Progress σ → Progress σ × Option RunError
  | .done, p => (p, none)
  | .next op rest, p =>
    match step service policy op p with
    | (p, none) => drive service policy (rest ()) p
    | (p, some e) => (p, some e)

/-- A run that is over. -/
structure Run (σ : Type) where
  /-- How far it came. -/
  reached : Progress σ
  result : Except RunError Summary

def run (service : Service σ) (policy : FailurePolicy) (schedule : Schedule)
    (state : σ) (sink : Sink) : Run σ :=
  match drive service policy schedule (.start state sink) with
  | (p, some e) => ⟨p, .error e⟩
  | (p, none) =>
    ⟨{ p with log := p.log.push (completeLine p.summary) }, .ok p.summary⟩

theorem drive_append (service : Service σ) (policy : FailurePolicy)
    (s t : Schedule) (p : Progress σ) :
    drive service policy (s ++ t) p =
      match drive service policy s p with
      | (q, none) => drive service policy t q
      | (q, some e) => (q, some e) := by
  show drive service policy (s.append t) p = _
  induction s generalizing p with
  | done => rfl
  | next op rest ih =>
    simp only [Schedule.append, drive]
    cases h : step service policy op p with
    | mk q stop => cases stop <;> simp [ih]

end GraphCourier
