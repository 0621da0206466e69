import GraphCourier.Run
import GraphCourier.Proofs.Sink

/-!
# Runs as traces

A service answers a list of operations with a list of exchanges, each answer
depending on all operations before it. A run never reorders or skips what it
sends, so whatever its policy and its sink, it goes through a prefix of these
exchanges: the ones of the whole list, up to the first that stops it.

`trace` is that walk. It reads the exchanges, the policy and the room in the
sink, and nothing of the service; `run_trace` says that a run is the trace of
its exchanges. Two runs against one service are then compared as two walks along
one list, though the service may tell them apart from the first operation on
that only one of them sends.
-/

namespace GraphCourier

variable {σ : Type}

/-! ## Exchanges -/

/-- An operation and what came of it. -/
structure Exchange where
  operation : Operation
  answer : Except ClientError Response

/-- The exchanges of a service to which operations are sent in order, whatever
it answers. -/
def Service.exchanges (service : Service σ) : List Operation → σ → List Exchange
  | [], _ => []
  | op :: ops, s => ⟨op, (service op s).answer⟩ :: service.exchanges ops (service op s).state

/-- The state of a service after operations were sent to it in order. -/
def Service.after (service : Service σ) : List Operation → σ → σ
  | [], s => s
  | op :: ops, s => service.after ops (service op s).state

def Service.answers (service : Service σ) (ops : List Operation) (s : σ) :
    List (Except ClientError Response) :=
  (service.exchanges ops s).map Exchange.answer

/-- A service whose answers are laid down beforehand. -/
def scripted : Service (List (Except ClientError Response)) := fun _ script =>
  match script with
  | [] => ⟨.error (.http .sending ""), [], []⟩
  | answer :: later => ⟨answer, [], later⟩

theorem Service.map_operation_exchanges (service : Service σ) (ops : List Operation) (s : σ) :
    (service.exchanges ops s).map Exchange.operation = ops := by
  induction ops generalizing s with
  | nil => rfl
  | cons op ops ih => rw [exchanges, List.map_cons, ih]

theorem Service.length_exchanges (service : Service σ) (ops : List Operation) (s : σ) :
    (service.exchanges ops s).length = ops.length := by
  have h := congrArg List.length (service.map_operation_exchanges ops s)
  rwa [List.length_map] at h

/-- Later operations do not change earlier answers. -/
theorem Service.exchanges_take (service : Service σ) (ops : List Operation) (s : σ) (k : Nat) :
    service.exchanges (ops.take k) s = (service.exchanges ops s).take k := by
  induction ops generalizing s k with
  | nil => simp [exchanges]
  | cons op ops ih =>
      cases k with
      | zero => rfl
      | succ k => rw [List.take_succ_cons, exchanges, exchanges, List.take_succ_cons, ih]

theorem Service.exchanges_split (service : Service σ) {ops : List Operation} {s : σ} {k : Nat}
    {op : Operation} {answer : Except ClientError Response} (hop : ops[k]? = some op)
    (hanswer : (service.answers ops s)[k]? = some answer) :
    service.exchanges ops s = (service.exchanges ops s).take k ++
      ⟨op, answer⟩ :: (service.exchanges ops s).drop (k + 1) := by
  induction ops generalizing s k with
  | nil => cases hop
  | cons first ops ih =>
      cases k with
      | zero =>
          obtain rfl := Option.some.inj hop
          obtain rfl := Option.some.inj hanswer
          rfl
      | succ k => exact congrArg (_ :: ·) (ih hop hanswer)

namespace Exchange

/-- The part of a report that belongs to an exchange: none without an answer. -/
def segment (x : Exchange) : Bytes :=
  match x.answer with
  | .ok r => r.segment
  | .error _ => []

/-- Why a run stops at an exchange that was reported in full. -/
def verdict (policy : FailurePolicy) (x : Exchange) : Option RunError :=
  match x.answer with
  | .error e => some (.transport x.operation.display e)
  | .ok r =>
    if r.isSuccess then none
    else
      match policy with
      | .proceed => none
      | .abort => some (.rejected x.operation.display r.status)

/-- Why a run stops at an exchange, if it does. -/
def stop (policy : FailurePolicy) (sink : Sink) (x : Exchange) : Option RunError :=
  match (sink.absorb x.segment).fault with
  | some fault => some (.output fault)
  | none => x.verdict policy

def step (sink : Sink) (x : Exchange) : Step :=
  ⟨x.operation, (sink.absorb x.segment).taken⟩

def count (summary : Summary) (x : Exchange) : Summary :=
  match x.answer with
  | .ok r => summary.record r
  | .error _ => summary

end Exchange

def segments (xs : List Exchange) : Bytes := xs.flatMap Exchange.segment

def tally (xs : List Exchange) : Summary := xs.foldl Exchange.count .empty

/-! ## Traces -/

/-- What can be seen of a run that goes along exchanges: its steps, why it
stopped before their end, and the sink it left. -/
structure Trace where
  steps : List Step
  stop : Option RunError
  sink : Sink

/-- How a run ends, if `summary` is the count of all its exchanges. -/
def Trace.result (t : Trace) (summary : Summary) : Except RunError Summary :=
  match t.stop with
  | some e => .error e
  | none => .ok summary

theorem Trace.stop_of_result {t : Trace} {summary summary' : Summary}
    (h : t.result summary = .ok summary') : t.stop = none := by
  cases hstop : t.stop with
  | none => rfl
  | some e =>
      rw [Trace.result, hstop] at h
      cases h

def Trace.report (t : Trace) : Bytes := t.steps.flatMap Step.report

/-- Goes along exchanges up to the first that stops a run. -/
def trace (policy : FailurePolicy) : List Exchange → Sink → Trace
  | [], sink => ⟨[], none, sink⟩
  | x :: xs, sink =>
    let next := (sink.absorb x.segment).sink
    match x.stop policy sink with
    | some e => ⟨[x.step sink], some e, next⟩
    | none => { trace policy xs next with steps := x.step sink :: (trace policy xs next).steps }

variable {policy : FailurePolicy} {x : Exchange} {xs : List Exchange} {sink : Sink} {e : RunError}

theorem trace_cons_of_stop (h : x.stop policy sink = some e) (xs : List Exchange) :
    trace policy (x :: xs) sink = ⟨[x.step sink], some e, (sink.absorb x.segment).sink⟩ := by
  simp only [trace, h]

theorem trace_cons_of_go (h : x.stop policy sink = none) (xs : List Exchange) :
    trace policy (x :: xs) sink =
      { trace policy xs (sink.absorb x.segment).sink with
        steps := x.step sink :: (trace policy xs (sink.absorb x.segment).sink).steps } := by
  simp only [trace, h]

theorem Trace.report_cons (step : Step) (t : Trace) (stop : Option RunError) (sink : Sink) :
    Trace.report ⟨step :: t.steps, stop, sink⟩ = step.report ++ t.report := rfl

theorem Trace.report_single (step : Step) (stop : Option RunError) (sink : Sink) :
    Trace.report ⟨[step], stop, sink⟩ = step.report := List.append_nil _

theorem segments_take_succ (x : Exchange) (xs : List Exchange) (i : Nat) :
    segments ((x :: xs).take (i + 1)) = x.segment ++ segments (xs.take i) := rfl

/-- A run that goes on after an exchange has reported it in full, and found no
fault with it. -/
theorem Exchange.stop_eq_none :
    x.stop policy sink = none ↔
      (sink.absorb x.segment).fault = none ∧ x.verdict policy = none := by
  unfold stop
  cases (sink.absorb x.segment).fault <;> simp

theorem Exchange.report_step_of_go (h : x.stop policy sink = none) :
    (x.step sink).report = x.segment :=
  Sink.absorb_taken (stop_eq_none.mp h).1

theorem trace_append (policy : FailurePolicy) (xs ys : List Exchange) (sink : Sink) :
    trace policy (xs ++ ys) sink =
      match (trace policy xs sink).stop with
      | some _ => trace policy xs sink
      | none =>
        { trace policy ys (trace policy xs sink).sink with
          steps := (trace policy xs sink).steps ++
            (trace policy ys (trace policy xs sink).sink).steps } := by
  induction xs generalizing sink with
  | nil => rfl
  | cons x xs ih =>
      cases h : x.stop policy sink with
      | some e => simp only [List.cons_append, trace_cons_of_stop h]
      | none =>
          simp only [List.cons_append, trace_cons_of_go h, ih]
          split <;> simp_all

theorem trace_unlimited_of_stop (h : x.verdict policy = some e) (xs : List Exchange) :
    trace policy (x :: xs) .unlimited = ⟨[⟨x.operation, x.segment⟩], some e, .unlimited⟩ :=
  trace_cons_of_stop (show x.stop policy .unlimited = some e from h) xs

theorem trace_unlimited_of_verdict_none (h : x.verdict policy = none) (xs : List Exchange) :
    trace policy (x :: xs) .unlimited =
      { trace policy xs .unlimited with
        steps := ⟨x.operation, x.segment⟩ :: (trace policy xs .unlimited).steps } :=
  trace_cons_of_go (show x.stop policy .unlimited = none from h) xs

/-- Exchanges that do not stop a run with room for all are reported one after
the other. -/
theorem trace_unlimited_of_go (h : ∀ x ∈ xs, x.verdict policy = none) :
    trace policy xs .unlimited =
      ⟨xs.map fun x => ⟨x.operation, x.segment⟩, none, .unlimited⟩ := by
  induction xs with
  | nil => rfl
  | cons x xs ih =>
      rw [trace_unlimited_of_verdict_none (h x (List.mem_cons_self ..)),
        ih fun y hy => h y (List.mem_cons_of_mem _ hy)]
      rfl

theorem operations_of_go (h : ∀ x ∈ xs, x.verdict policy = none) :
    (trace policy xs .unlimited).steps.map Step.operation = xs.map Exchange.operation := by
  rw [trace_unlimited_of_go h, List.map_map]
  rfl

/-- With room for everything, a trace that goes on reports its segments. -/
theorem report_of_go (h : ∀ x ∈ xs, x.verdict policy = none) :
    (trace policy xs .unlimited).report = segments xs := by
  rw [trace_unlimited_of_go h, Trace.report, List.flatMap_map]
  rfl

/-- A trace tells of a prefix of its exchanges. -/
theorem map_operation_trace (policy : FailurePolicy) (xs : List Exchange) (sink : Sink) :
    (trace policy xs sink).steps.map Step.operation =
      (xs.take (trace policy xs sink).steps.length).map Exchange.operation := by
  induction xs generalizing sink with
  | nil => rfl
  | cons x xs ih =>
      cases h : x.stop policy sink with
      | some e => rw [trace_cons_of_stop h]; rfl
      | none =>
          rw [trace_cons_of_go h, List.map_cons, List.length_cons, List.take_succ_cons,
            List.map_cons, ih]
          rfl

/-- The exchanges before a step did not stop the trace, and make the steps
before that one. -/
theorem trace_take {i : Nat} (hi : i < (trace policy xs sink).steps.length) :
    (trace policy (xs.take i) sink).stop = none
      ∧ (trace policy (xs.take i) sink).steps = (trace policy xs sink).steps.take i := by
  induction xs generalizing sink i with
  | nil => exact absurd hi (Nat.not_lt_zero i)
  | cons x xs ih =>
      cases i with
      | zero => exact ⟨rfl, rfl⟩
      | succ i =>
          cases h : x.stop policy sink with
          | some e =>
              rw [trace_cons_of_stop h] at hi
              exact absurd (Nat.lt_of_succ_lt_succ hi) (Nat.not_lt_zero i)
          | none =>
              rw [trace_cons_of_go h] at hi
              obtain ⟨hstop, hsteps⟩ := ih (Nat.lt_of_succ_lt_succ hi)
              rw [List.take_succ_cons, trace_cons_of_go h, trace_cons_of_go h]
              exact ⟨hstop, congrArg (_ :: ·) hsteps⟩

/-- A trace that is not stopped tells of all its exchanges. -/
theorem operations_of_trace (h : (trace policy xs sink).stop = none) :
    (trace policy xs sink).steps.map Step.operation = xs.map Exchange.operation := by
  induction xs generalizing sink with
  | nil => rfl
  | cons x xs ih =>
      cases hstop : x.stop policy sink with
      | some e =>
          rw [trace_cons_of_stop hstop] at h
          cases h
      | none =>
          rw [trace_cons_of_go hstop] at h ⊢
          exact congrArg (_ :: ·) (ih h)

theorem verdict_of_trace (h : (trace policy xs sink).stop = none) :
    ∀ x ∈ xs, x.verdict policy = none := by
  induction xs generalizing sink with
  | nil => exact fun x hx => (List.not_mem_nil hx).elim
  | cons y xs ih =>
      cases hstop : y.stop policy sink with
      | some e =>
          rw [trace_cons_of_stop hstop] at h
          cases h
      | none =>
          rw [trace_cons_of_go hstop] at h
          intro x hx
          rcases List.mem_cons.mp hx with rfl | hx
          · exact (Exchange.stop_eq_none.mp hstop).2
          · exact ih h x hx

/-! ## A run is the trace of its exchanges -/

theorem settle_exchange (policy : FailurePolicy) (op : Operation) (r : Response)
    (p : Progress σ) :
    ∃ q, settle policy op r p = (q, Exchange.stop policy p.sink ⟨op, .ok r⟩)
      ∧ q.state = p.state
      ∧ q.sink = (p.sink.absorb r.segment).sink
      ∧ q.steps.toList = p.steps.toList ++ [Exchange.step p.sink ⟨op, .ok r⟩]
      ∧ (Exchange.stop policy p.sink ⟨op, .ok r⟩ = none → q.summary = p.summary.record r) := by
  have hput : p.sink.putAll r.pieces = p.sink.absorb r.segment := by
    rw [Sink.putAll_eq_absorb, Response.flatten_pieces]
  simp only [settle, hput, Exchange.stop, Exchange.step, Exchange.segment]
  cases (p.sink.absorb r.segment).fault with
  | some fault => exact ⟨_, rfl, rfl, rfl, Array.toList_push,
      fun h => absurd h (Option.some_ne_none _)⟩
  | none =>
      simp only [Exchange.verdict]
      by_cases hr : r.isSuccess = true
      · simp only [if_pos hr]
        exact ⟨_, rfl, rfl, rfl, Array.toList_push, fun _ => rfl⟩
      · simp only [if_neg hr]
        exact ⟨_, rfl, rfl, rfl, Array.toList_push, fun _ => rfl⟩

/-- One step of a run, as the exchange it makes. -/
theorem step_exchange (service : Service σ) (policy : FailurePolicy) (op : Operation)
    (p : Progress σ) {x : Exchange} (hx : x = ⟨op, (service op p.state).answer⟩) :
    ∃ q, step service policy op p = (q, x.stop policy p.sink)
      ∧ q.state = (service op p.state).state
      ∧ q.sink = (p.sink.absorb x.segment).sink
      ∧ q.steps.toList = p.steps.toList ++ [x.step p.sink]
      ∧ (x.stop policy p.sink = none → q.summary = x.count p.summary) := by
  cases h : (service op p.state).answer with
  | ok r =>
      rw [h] at hx
      subst hx
      obtain ⟨q, hq, hstate, hsink, hsteps, hsummary⟩ :=
        settle_exchange policy op r { p with
          state := (service op p.state).state
          log := p.log ++ (service op p.state).log }
      exact ⟨q, by simp only [step, h, hq], hstate, hsink, hsteps, hsummary⟩
  | error e =>
      rw [h] at hx
      subst hx
      refine ⟨{ p with
          state := (service op p.state).state
          log := p.log ++ (service op p.state).log
          steps := p.steps.push ⟨op, []⟩ }, ?_, rfl, ?_, ?_, ?_⟩
      · simp only [step, h, Exchange.stop, Exchange.segment, Sink.absorb_nil,
          Exchange.verdict]
      · simp only [Exchange.segment, Sink.absorb_nil]
      · simp only [Exchange.step, Exchange.segment, Sink.absorb_nil, Array.toList_push]
      · simp [Exchange.stop, Exchange.segment, Sink.absorb_nil, Exchange.verdict]

/-- Driving a schedule goes along its exchanges, from whatever a run has come
to before. -/
theorem drive_trace (service : Service σ) (policy : FailurePolicy) (schedule : Schedule)
    (p : Progress σ) {t : Trace}
    (ht : t = trace policy (service.exchanges schedule.toList p.state) p.sink) :
    ∃ q, drive service policy schedule p = (q, t.stop)
      ∧ q.state = service.after (t.steps.map Step.operation) p.state
      ∧ q.sink = t.sink
      ∧ q.steps.toList = p.steps.toList ++ t.steps
      ∧ (t.stop = none → q.summary =
          (service.exchanges schedule.toList p.state).foldl Exchange.count p.summary) := by
  induction schedule generalizing p t with
  | done =>
      subst ht
      exact ⟨p, rfl, rfl, rfl, (List.append_nil _).symm, fun _ => rfl⟩
  | next op rest ih =>
      rw [Schedule.toList, Service.exchanges] at *
      obtain ⟨q, hq, hstate, hsink, hsteps, hsummary⟩ := step_exchange service policy op p rfl
      cases hstop : Exchange.stop policy p.sink ⟨op, (service op p.state).answer⟩ with
      | some e =>
          rw [trace_cons_of_stop hstop] at ht
          subst ht
          refine ⟨q, ?_, hstate, hsink, hsteps, fun h => absurd h (Option.some_ne_none _)⟩
          simp only [drive, hq, hstop]
      | none =>
          rw [trace_cons_of_go hstop, ← hstate, ← hsink] at ht
          obtain ⟨q', hq', hstate', hsink', hsteps', hsummary'⟩ := ih () q rfl
          subst ht
          refine ⟨q', ?_, ?_, hsink', ?_, ?_⟩
          · simp only [drive, hq, hstop, hq']
          · rw [hstate', hstate]; rfl
          · rw [hsteps', hsteps, List.append_assoc]; rfl
          · intro h
            rw [hsummary' h, hsummary hstop, hstate]; rfl

namespace Run

def steps (r : Run σ) : List Step := r.reached.steps.toList

/-- The operations that a run sent, in order. -/
def sent (r : Run σ) : List Operation := r.steps.map Step.operation

/-- All that a run reported: what its sink holds in the end. -/
def report (r : Run σ) : Bytes := r.steps.flatMap Step.report

end Run

/-- A run is the trace of its exchanges: it shows the steps of the trace, and it
ends with the error of the trace or, if there is none, with the count of all
exchanges. -/
theorem run_trace (service : Service σ) (policy : FailurePolicy) (schedule : Schedule)
    (s : σ) (sink : Sink) {xs : List Exchange} {t : Trace}
    (hxs : xs = service.exchanges schedule.toList s) (ht : t = trace policy xs sink) :
    (run service policy schedule s sink).steps = t.steps
      ∧ (run service policy schedule s sink).result = t.result (tally xs) := by
  subst hxs
  obtain ⟨q, hq, -, -, hsteps, hsummary⟩ :=
    drive_trace service policy schedule (.start s sink) ht
  rw [run, hq, Trace.result]
  cases hstop : t.stop with
  | some e => exact ⟨hsteps, rfl⟩
  | none => exact ⟨hsteps, congrArg Except.ok (hsummary hstop)⟩

/-- The service was sent the operations of a run, and no others. -/
theorem state_eq_after (service : Service σ) (policy : FailurePolicy) (schedule : Schedule)
    (s : σ) (sink : Sink) :
    (run service policy schedule s sink).reached.state =
      service.after (run service policy schedule s sink).sent s := by
  obtain ⟨t, ht⟩ : ∃ t, t = trace policy (service.exchanges schedule.toList s) sink := ⟨_, rfl⟩
  obtain ⟨q, hq, hstate, -⟩ := drive_trace service policy schedule (.start s sink) ht
  rw [Run.sent, (run_trace service policy schedule s sink rfl ht).1, run, hq]
  cases t.stop with
  | some e => exact hstate
  | none => exact hstate

/-- A run sends a prefix of its schedule. -/
theorem sent_eq_take (service : Service σ) (policy : FailurePolicy) (schedule : Schedule)
    (s : σ) (sink : Sink) :
    (run service policy schedule s sink).sent =
      schedule.toList.take (run service policy schedule s sink).steps.length := by
  obtain ⟨hsteps, -⟩ := run_trace service policy schedule s sink rfl rfl
  rw [Run.sent, hsteps, map_operation_trace, List.map_take, service.map_operation_exchanges]

theorem exchanges_sent (service : Service σ) (policy : FailurePolicy) (schedule : Schedule)
    (s : σ) (sink : Sink) :
    service.exchanges (run service policy schedule s sink).sent s =
      (service.exchanges schedule.toList s).take
        (run service policy schedule s sink).steps.length := by
  rw [sent_eq_take, service.exchanges_take]

end GraphCourier
