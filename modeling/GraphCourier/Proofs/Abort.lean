import Mathlib.Control.Monad.Basic
import GraphCourier.Proofs.Trace

/-!
# Stopping at the first refusal

The two policies part at the first answer that is not 200 and was reported in
full. Up to there a run that stops on refusals and one that goes on send the
same operations, so they get the same answers, and without such an answer they
do not part at all (`run_abort`).

An answer that is not 200 but was cut by the sink is no such answer: both runs
end there with an output error. The same holds of an operation without an answer.
-/

namespace GraphCourier

variable {σ : Type} {xs : List Exchange} {sink : Sink} {i : Nat} {r : Response}

/-- The answer `r` of exchange `i` is not 200, and the step for it tells the
whole of it. -/
def RefusedInFull (xs : List Exchange) (steps : List Step) (i : Nat) (r : Response) : Prop :=
  r.status ≠ 200 ∧ ∃ op, xs[i]? = some ⟨op, .ok r⟩ ∧ steps[i]? = some ⟨op, r.segment⟩

theorem refusedInFull_cons {x : Exchange} {step : Step} {steps : List Step} :
    RefusedInFull (x :: xs) (step :: steps) (i + 1) r ↔ RefusedInFull xs steps i r := by
  simp only [RefusedInFull, List.getElem?_cons_succ]

theorem RefusedInFull.lt_length {steps : List Step} (h : RefusedInFull xs steps i r) :
    i < steps.length := by
  obtain ⟨-, op, -, hstep⟩ := h
  exact (List.getElem?_eq_some_iff.mp hstep).1

/-- Only exchanges that there is a step for matter. -/
theorem refusedInFull_take {steps : List Step} :
    RefusedInFull (xs.take steps.length) steps i r ↔ RefusedInFull xs steps i r := by
  have htake : i < steps.length → (xs.take steps.length)[i]? = xs[i]? :=
    List.getElem?_take_of_lt
  constructor
  · intro h
    have hlt := h.lt_length
    rwa [RefusedInFull, htake hlt] at h
  · intro h
    rwa [RefusedInFull, htake h.lt_length]

/-! ## One exchange -/

/-- An exchange is judged by both policies alike, unless it was refused and
reported in full. -/
theorem Exchange.stop_abort (x : Exchange) (sink : Sink) :
    x.stop .abort sink = x.stop .proceed sink
      ∨ ∃ r, r.status ≠ 200 ∧ x.answer = .ok r ∧ x.step sink = ⟨x.operation, r.segment⟩
          ∧ x.stop .proceed sink = none
          ∧ x.stop .abort sink = some (.rejected x.operation.display r.status) := by
  obtain ⟨op, answer⟩ := x
  cases answer with
  | error e => exact Or.inl rfl
  | ok r =>
      by_cases hr : r.isSuccess = true
      · exact Or.inl (by simp only [stop, verdict, hr, if_true])
      · cases hfault : (sink.absorb r.segment).fault with
        | some fault => exact Or.inl (by simp only [stop, segment, hfault])
        | none =>
            refine Or.inr ⟨r, ?_, rfl, ?_, ?_, ?_⟩
            · simpa [Response.isSuccess, isSuccess] using hr
            · rw [step, segment, Sink.absorb_taken hfault]
            · simp only [stop, segment, hfault, verdict, hr]; rfl
            · simp only [stop, segment, hfault, verdict, hr]; rfl

/-- The policy to stop finds no fault with an answer of status 200 only. -/
theorem Exchange.status_of_verdict {x : Exchange} (h : x.verdict .abort = none) :
    ∃ r, x.answer = .ok r ∧ r.status = 200 := by
  obtain ⟨op, answer⟩ := x
  cases answer with
  | error e => cases h
  | ok r =>
      by_cases hr : r.isSuccess = true
      · exact ⟨r, rfl, by simpa [Response.isSuccess, isSuccess] using hr⟩
      · simp [verdict, hr] at h

/-- A refusal that was reported in full stops a run by policy only. -/
theorem Exchange.stop_of_refused {op : Operation} (hr : r.status ≠ 200)
    (hstep : Exchange.step sink ⟨op, .ok r⟩ = ⟨op, r.segment⟩) :
    Exchange.stop .proceed sink ⟨op, .ok r⟩ = none
      ∧ Exchange.stop .abort sink ⟨op, .ok r⟩ = some (.rejected op.display r.status) := by
  have hsuccess : r.isSuccess = false := by simpa [Response.isSuccess, isSuccess] using hr
  have htaken : (sink.absorb r.segment).taken = r.segment := congrArg Step.report hstep
  cases hfault : (sink.absorb r.segment).fault with
  | some fault =>
      have := Sink.length_taken_of_fault hfault
      rw [htaken] at this
      omega
  | none =>
      constructor
      · simp only [stop, segment, hfault, verdict, hsuccess]; rfl
      · simp only [stop, segment, hfault, verdict, hsuccess]; rfl

/-! ## Traces under the two policies -/

theorem getElem?_zero_trace (policy : FailurePolicy) (x : Exchange) (xs : List Exchange)
    (sink : Sink) : (trace policy (x :: xs) sink).steps[0]? = some (x.step sink) := by
  cases h : x.stop policy sink with
  | some e => rw [trace_cons_of_stop h]; rfl
  | none => rw [trace_cons_of_go h]; rfl

/-- Without a refusal that was reported in full, the policy does not show. -/
theorem trace_abort_of_none
    (h : ∀ i r, ¬RefusedInFull xs (trace .proceed xs sink).steps i r) :
    trace .abort xs sink = trace .proceed xs sink := by
  induction xs generalizing sink with
  | nil => rfl
  | cons x xs ih =>
      rcases x.stop_abort sink with hsame | ⟨r, hr, hanswer, hstep, -, -⟩
      · cases hstop : x.stop .proceed sink with
        | some e => rw [trace_cons_of_stop hstop, trace_cons_of_stop (hsame.trans hstop)]
        | none =>
            rw [trace_cons_of_go hstop] at h
            rw [trace_cons_of_go hstop, trace_cons_of_go (hsame.trans hstop),
              ih fun i r hi => h (i + 1) r (refusedInFull_cons.mpr hi)]
      · refine absurd ⟨hr, x.operation, ?_, ?_⟩ (h 0 r)
        · rw [List.getElem?_cons_zero, ← hanswer]
        · rw [getElem?_zero_trace, hstep]

/-- With such a refusal, aborting cuts the trace after the first one. -/
theorem trace_abort_of_first (hi : RefusedInFull xs (trace .proceed xs sink).steps i r)
    (hfirst : ∀ j < i, ∀ r', ¬RefusedInFull xs (trace .proceed xs sink).steps j r') :
    (trace .abort xs sink).steps = (trace .proceed xs sink).steps.take (i + 1)
      ∧ (trace .abort xs sink).report = segments (xs.take (i + 1))
      ∧ ∃ op, (xs.map Exchange.operation)[i]? = some op
          ∧ (trace .abort xs sink).stop = some (.rejected op.display r.status) := by
  induction xs generalizing sink i with
  | nil =>
      obtain ⟨-, op, hx, -⟩ := hi
      cases hx
  | cons x xs ih =>
      cases i with
      | zero =>
          obtain ⟨hr, op, hx, hstep⟩ := hi
          obtain rfl : x = ⟨op, .ok r⟩ := Option.some.inj hx
          rw [getElem?_zero_trace] at hstep
          obtain ⟨hgo, hstop⟩ := Exchange.stop_of_refused hr (Option.some.inj hstep)
          rw [trace_cons_of_go hgo, trace_cons_of_stop hstop, Option.some.inj hstep]
          exact ⟨rfl, rfl, op, rfl, rfl⟩
      | succ i =>
          cases hgo : x.stop .proceed sink with
          | some e =>
              -- Nothing comes after an exchange that stops the trace.
              obtain ⟨-, op, -, hstep⟩ := hi
              rw [trace_cons_of_stop hgo] at hstep
              cases hstep
          | none =>
              have hstop : x.stop .abort sink = none := by
                rcases x.stop_abort sink with hsame | ⟨r', hr', hanswer, hstep, -, -⟩
                · rw [hsame, hgo]
                · refine absurd ⟨hr', x.operation, ?_, ?_⟩ (hfirst 0 (Nat.succ_pos i) r')
                  · rw [List.getElem?_cons_zero, ← hanswer]
                  · rw [getElem?_zero_trace, hstep]
              rw [trace_cons_of_go hgo] at hi hfirst ⊢
              rw [trace_cons_of_go hstop]
              obtain ⟨hsteps, hreport, op, hop, hrejected⟩ := ih (refusedInFull_cons.mp hi)
                fun j hj r' hj' => hfirst (j + 1) (Nat.succ_lt_succ hj) r'
                  (refusedInFull_cons.mpr hj')
              refine ⟨congrArg (_ :: ·) hsteps, ?_, op, hop, hrejected⟩
              rw [Trace.report_cons, hreport, Exchange.report_step_of_go hstop,
                segments_take_succ]

/-! ## Runs -/

/-- A run that stops on refusals is the run that goes on, if that one got no
refusal it could report in full. Otherwise it is the part of that run up to the
first such answer: it sends these operations, reports these answers, and its
error names the last of these operations and its status. -/
theorem run_abort (service : Service σ) (schedule : Schedule) (s : σ) (sink : Sink) :
    let c := run service .proceed schedule s sink
    let a := run service .abort schedule s sink
    let xs := service.exchanges c.sent s
    ((∀ i r, ¬RefusedInFull xs c.steps i r) →
        a.steps = c.steps ∧ a.reached.state = c.reached.state ∧ a.result = c.result)
      ∧ (∀ i r, RefusedInFull xs c.steps i r →
          (∀ j < i, ∀ r', ¬RefusedInFull xs c.steps j r') →
          a.sent = c.sent.take (i + 1) ∧ a.report = segments (xs.take (i + 1))
            ∧ a.report <+: c.report
            ∧ ∃ op, c.sent[i]? = some op
                ∧ a.result = .error (.rejected op.display r.status))
      ∧ ∀ summary, a.result = .ok summary →
          ∀ x ∈ service.exchanges schedule.toList s,
            ∃ r, x.answer = .ok r ∧ r.status = 200 := by
  intro c a xs
  let all := service.exchanges schedule.toList s
  let t := trace .proceed all sink
  let u := trace .abort all sink
  obtain ⟨(hc : c.steps = t.steps), hcResult⟩ :=
    run_trace service .proceed schedule s sink rfl rfl
  obtain ⟨(ha : a.steps = u.steps), (haResult : a.result = u.result (tally all))⟩ :=
    run_trace service .abort schedule s sink rfl rfl
  have hxs : xs = all.take t.steps.length := by
    rw [← hc]
    exact exchanges_sent service .proceed schedule s sink
  have hrefused : ∀ i r, RefusedInFull xs c.steps i r ↔ RefusedInFull all t.steps i r :=
    fun i r => by rw [hxs, hc]; exact refusedInFull_take
  refine ⟨fun hnone => ?_, fun i r hi hfirst => ?_, fun summary hok => ?_⟩
  · have hsame : u = t := trace_abort_of_none fun i r hi => hnone i r ((hrefused i r).mpr hi)
    have hsteps : a.steps = c.steps := by rw [ha, hc, hsame]
    refine ⟨hsteps, ?_, by rw [haResult, hsame]; exact hcResult.symm⟩
    rw [state_eq_after, state_eq_after, Run.sent, Run.sent, hsteps]
  · obtain ⟨hsteps, hreport, op, hop, hstop⟩ :=
      trace_abort_of_first ((hrefused i r).mp hi) fun j hj r' hj' =>
        hfirst j hj r' ((hrefused j r').mpr hj')
    have hsteps' : a.steps = c.steps.take (i + 1) := by rw [ha, hc]; exact hsteps
    have hlt : i < t.steps.length := ((hrefused i r).mp hi).lt_length
    refine ⟨?_, ?_, ?_, op, ?_, ?_⟩
    · rw [Run.sent, hsteps', List.map_take, Run.sent]
    · rw [Run.report, ha, hxs, List.take_take, Nat.min_eq_left hlt]
      exact hreport
    · refine ⟨(c.steps.drop (i + 1)).flatMap Step.report, ?_⟩
      rw [Run.report, hsteps', ← List.flatMap_append, List.take_append_drop, Run.report]
    · have hsent : c.sent = schedule.toList.take t.steps.length := by
        rw [← hc]
        exact sent_eq_take service .proceed schedule s sink
      rw [hsent, List.getElem?_take_of_lt hlt, ← hop, service.map_operation_exchanges]
    · rw [haResult, Trace.result, show u.stop = _ from hstop]
  · have hstop : u.stop = none := Trace.stop_of_result (haResult.symm.trans hok)
    exact fun x hx => Exchange.status_of_verdict (verdict_of_trace hstop x hx)

/-- The node is there already when it is added again. A run that goes on after
that has no room for the next answer; one that stops does not send for it. -/
theorem run_abort_before_output_error :
    let ops : List Operation := [.addNode 1, .addNode 1, .addNode 2]
    let script : List (Except ClientError Response) :=
      [.ok ⟨.addNode 1, 200, none⟩, .ok ⟨.addNode 1, 409, none⟩, .ok ⟨.addNode 2, 200, none⟩]
    let sink : Sink := ⟨some 9, .stalled⟩
    let c := run scripted .proceed (.ofList ops) script sink
    let a := run scripted .abort (.ofList ops) script sink
    c.sent = ops ∧ c.result = .error (.output .stalled)
      ∧ a.sent = [.addNode 1, .addNode 1] ∧ a.report = utf8 "200\n409\n"
      ∧ a.result = .error (.rejected "add_node(1)" 409) := by
  intro ops script sink c a
  let xs := scripted.exchanges c.sent script
  have hsent : c.sent = ops := by decide +kernel
  have hresult : c.result = .error (.output .stalled) := by decide +kernel
  have hrefused : RefusedInFull xs c.steps 1 ⟨.addNode 1, 409, none⟩ := by
    refine ⟨by decide, .addNode 1, ?_, by decide +kernel⟩
    rw [show xs = scripted.exchanges ops script from hsent ▸ rfl]
    rfl
  have hfirst : ∀ j < 1, ∀ r, ¬RefusedInFull xs c.steps j r := by
    rintro j hj r ⟨hr, op, hx, -⟩
    obtain rfl : j = 0 := Nat.lt_one_iff.mp hj
    rw [show xs = scripted.exchanges ops script from hsent ▸ rfl] at hx
    cases hx
    exact hr rfl
  obtain ⟨-, hstops, -⟩ := run_abort scripted (.ofList ops) script sink
  obtain ⟨hasent, hareport, -, op, hop, haresult⟩ := hstops 1 _ hrefused hfirst
  rw [hsent] at hasent hop
  refine ⟨hsent, hresult, hasent, ?_, ?_⟩
  · rw [hareport, hsent]
    decide +kernel
  · rw [haresult, ← Option.some.inj hop]
    rfl

end GraphCourier
