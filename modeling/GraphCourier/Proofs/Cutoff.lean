import Mathlib.Control.Monad.Basic
import GraphCourier.Proofs.Trace

/-!
# Runs into a full sink

A sink with room for `k` bytes changes nothing about a run as long as the report
fits. If it does not fit, the run ends at the first exchange whose segment goes
beyond the room, whatever else would have stopped it there or later, and the
sink holds the first `k` bytes of what it would have got (`run_limited`).

Both runs send the same operations as long as both go on, so they get the same
answers: the comparison is one induction over the exchanges, in which `k` is the
room that is left.
-/

namespace GraphCourier

variable {σ : Type} {policy : FailurePolicy} {x : Exchange} {xs : List Exchange} {k : Nat}

/-! ## One exchange -/

theorem trace_limited_of_stop {e : RunError} (hle : x.segment.length ≤ k)
    (h : x.verdict policy = some e) (fault : SinkFault) :
    trace policy (x :: xs) ⟨some k, fault⟩ =
      ⟨[⟨x.operation, x.segment⟩], some e, ⟨some (k - x.segment.length), fault⟩⟩ := by
  have hstop : x.stop policy ⟨some k, fault⟩ = some e := by
    rw [Exchange.stop, Sink.absorb_of_le hle]; exact h
  rw [trace_cons_of_stop hstop, Exchange.step, Sink.absorb_of_le hle]

theorem trace_limited_of_verdict_none (hle : x.segment.length ≤ k)
    (h : x.verdict policy = none) (fault : SinkFault) :
    trace policy (x :: xs) ⟨some k, fault⟩ =
      { trace policy xs ⟨some (k - x.segment.length), fault⟩ with
        steps := ⟨x.operation, x.segment⟩ ::
          (trace policy xs ⟨some (k - x.segment.length), fault⟩).steps } := by
  have hgo : x.stop policy ⟨some k, fault⟩ = none := by
    rw [Exchange.stop, Sink.absorb_of_le hle]; exact h
  rw [trace_cons_of_go hgo, Exchange.step, Sink.absorb_of_le hle]

/-- That a segment does not fit goes before all other reasons to stop. -/
theorem trace_limited_of_lt (hlt : k < x.segment.length) (fault : SinkFault) :
    trace policy (x :: xs) ⟨some k, fault⟩ =
      ⟨[⟨x.operation, x.segment.take k⟩], some (.output fault), ⟨some 0, fault⟩⟩ := by
  have hstop : x.stop policy ⟨some k, fault⟩ = some (.output fault) := by
    rw [Exchange.stop, Sink.absorb_of_lt hlt]
  rw [trace_cons_of_stop hstop, Exchange.step, Sink.absorb_of_lt hlt]

/-! ## Traces with and without a limit -/

/-- With room for everything, the report is made of whole segments. -/
theorem report_unlimited (policy : FailurePolicy) (xs : List Exchange) :
    (trace policy xs .unlimited).report =
      segments (xs.take (trace policy xs .unlimited).steps.length) := by
  induction xs with
  | nil => rfl
  | cons x xs ih =>
      cases h : x.verdict policy with
      | some e =>
          rw [trace_unlimited_of_stop h]
          rfl
      | none =>
          rw [trace_unlimited_of_verdict_none h, Trace.report_cons, List.length_cons,
            segments_take_succ, ih]

/-- If the report fits, the limit does not show. -/
theorem trace_of_fits (fault : SinkFault)
    (h : (trace policy xs .unlimited).report.length ≤ k) :
    (trace policy xs ⟨some k, fault⟩).steps = (trace policy xs .unlimited).steps
      ∧ (trace policy xs ⟨some k, fault⟩).stop = (trace policy xs .unlimited).stop := by
  induction xs generalizing k with
  | nil => exact ⟨rfl, rfl⟩
  | cons x xs ih =>
      cases hx : x.verdict policy with
      | some e =>
          rw [trace_unlimited_of_stop hx] at h ⊢
          rw [Trace.report_single] at h
          rw [trace_limited_of_stop h hx]
          exact ⟨rfl, rfl⟩
      | none =>
          rw [trace_unlimited_of_verdict_none hx] at h ⊢
          simp only [Trace.report_cons, List.length_append] at h
          obtain ⟨hsteps, hstop⟩ := ih (k := k - x.segment.length) (by omega)
          rw [trace_limited_of_verdict_none (by omega) hx]
          exact ⟨congrArg (_ :: ·) hsteps, hstop⟩

/-- If the report does not fit, the trace stops at the first exchange whose
segment ends beyond the limit. -/
theorem trace_of_exceeds (fault : SinkFault)
    (h : k < (trace policy xs .unlimited).report.length) :
    (trace policy xs ⟨some k, fault⟩).stop = some (.output fault)
      ∧ (trace policy xs ⟨some k, fault⟩).report =
          (trace policy xs .unlimited).report.take k
      ∧ ∃ i < (trace policy xs .unlimited).steps.length,
          (segments (xs.take i)).length ≤ k
            ∧ k < (segments (xs.take (i + 1))).length
            ∧ (trace policy xs ⟨some k, fault⟩).steps.map Step.operation =
                ((trace policy xs .unlimited).steps.map Step.operation).take (i + 1) := by
  induction xs generalizing k with
  | nil => cases h
  | cons x xs ih =>
      rcases Nat.lt_or_ge k x.segment.length with hlt | hle
      · -- The first segment is cut, so nothing later matters.
        have hbeyond : k < (segments ((x :: xs).take (0 + 1))).length := by
          rw [segments_take_succ, List.length_append]; omega
        rw [trace_limited_of_lt hlt, Trace.report_single]
        cases hx : x.verdict policy with
        | some e =>
            rw [trace_unlimited_of_stop hx, Trace.report_single]
            exact ⟨rfl, rfl, 0, Nat.succ_pos _, Nat.zero_le k, hbeyond, rfl⟩
        | none =>
            rw [trace_unlimited_of_verdict_none hx, Trace.report_cons,
              List.take_append_of_le_length (Nat.le_of_lt hlt)]
            exact ⟨rfl, rfl, 0, Nat.succ_pos _, Nat.zero_le k, hbeyond, rfl⟩
      · cases hx : x.verdict policy with
        | some e =>
            rw [trace_unlimited_of_stop hx, Trace.report_single] at h
            exact absurd h (Nat.not_lt.mpr hle)
        | none =>
            rw [trace_unlimited_of_verdict_none hx] at h ⊢
            simp only [Trace.report_cons, List.length_append] at h
            obtain ⟨hstop, hcut, i, hi, hbefore, hbeyond, hsent⟩ :=
              ih (k := k - x.segment.length) (by omega)
            rw [trace_limited_of_verdict_none hle hx]
            refine ⟨hstop, ?_, i + 1, Nat.succ_lt_succ hi, ?_, ?_, congrArg (_ :: ·) hsent⟩
            · rw [Trace.report_cons, Trace.report_cons, hcut, List.take_append,
                List.take_of_length_le hle]
            · rw [segments_take_succ, List.length_append]; omega
            · rw [segments_take_succ, List.length_append]; omega

/-! ## Runs -/

/-- A run into a sink with room for `k` bytes is the run into one without limit
if that run's report fits. Otherwise it ends with an output error, the sink
holds the first `k` bytes of that report, and the operations sent are the ones
up to and with the first whose segment ends beyond `k`. -/
theorem run_limited (service : Service σ) (policy : FailurePolicy) (schedule : Schedule)
    (s : σ) (k : Nat) (fault : SinkFault) :
    let free := run service policy schedule s .unlimited
    let cut := run service policy schedule s ⟨some k, fault⟩
    let xs := service.exchanges free.sent s
    free.report = segments xs
      ∧ (free.report.length ≤ k →
          cut.steps = free.steps ∧ cut.reached.state = free.reached.state
            ∧ cut.result = free.result)
      ∧ (k < free.report.length →
          cut.result = .error (.output fault) ∧ cut.report = free.report.take k
            ∧ ∃ i < free.sent.length,
                (segments (xs.take i)).length ≤ k ∧ k < (segments (xs.take (i + 1))).length
                  ∧ cut.sent = free.sent.take (i + 1)) := by
  intro free cut xs
  let all := service.exchanges schedule.toList s
  let t := trace policy all .unlimited
  let u := trace policy all ⟨some k, fault⟩
  obtain ⟨(hfree : free.steps = t.steps), hfreeResult⟩ :=
    run_trace service policy schedule s .unlimited rfl rfl
  obtain ⟨(hcut : cut.steps = u.steps), hcutResult⟩ :=
    run_trace service policy schedule s ⟨some k, fault⟩ rfl rfl
  have hxs : xs = all.take t.steps.length := by
    rw [← hfree]
    exact exchanges_sent service policy schedule s .unlimited
  have hreport : free.report = t.report := congrArg (List.flatMap Step.report) hfree
  refine ⟨?_, fun hle => ?_, fun hlt => ?_⟩
  · rw [hreport, hxs]
    exact report_unlimited policy all
  · rw [hreport] at hle
    obtain ⟨(hsteps : u.steps = t.steps), (hstop : u.stop = t.stop)⟩ := trace_of_fits fault hle
    have hresult : u.result (tally all) = t.result (tally all) := by
      rw [Trace.result, hstop, Trace.result]
    have hsame : cut.steps = free.steps := by rw [hcut, hsteps, hfree]
    refine ⟨hsame, ?_, hcutResult.trans (hresult.trans hfreeResult.symm)⟩
    rw [state_eq_after, state_eq_after, Run.sent, Run.sent, hsame]
  · rw [hreport] at hlt
    obtain ⟨hstop, hbytes, i, hi, hbefore, hbeyond, hsent⟩ := trace_of_exceeds fault hlt
    have hresult : u.result (tally all) = .error (.output fault) := by
      rw [Trace.result, show u.stop = some (.output fault) from hstop]
    refine ⟨hcutResult.trans hresult, ?_, i, ?_, ?_, ?_, ?_⟩
    · rw [hreport, Run.report, hcut]
      exact hbytes
    · rw [Run.sent, hfree, List.length_map]
      exact hi
    · rw [hxs, List.take_take, Nat.min_eq_left (Nat.le_of_lt hi)]
      exact hbefore
    · rw [hxs, List.take_take, Nat.min_eq_left hi]
      exact hbeyond
    · rw [Run.sent, hcut, Run.sent, hfree]
      exact hsent

/-- A report of twelve bytes that ends in a refusal: with one byte less of room,
the output error takes the place of the refusal. -/
theorem run_limited_by_one_byte :
    let ops : List Operation := [.addNode 1, .addNode 2, .addNode 3]
    let script : List (Except ClientError Response) :=
      [.ok ⟨.addNode 1, 200, some "€"⟩, .ok ⟨.addNode 2, 400, none⟩]
    let free := run scripted .abort (.ofList ops) script .unlimited
    let whole := run scripted .abort (.ofList ops) script ⟨some 12, .full⟩
    let cut := run scripted .abort (.ofList ops) script ⟨some 11, .full⟩
    free.report.length = 12 ∧ free.result = .error (.rejected "add_node(2)" 400)
      ∧ whole.steps = free.steps ∧ whole.result = .error (.rejected "add_node(2)" 400)
      ∧ cut.report = free.report.take 11 ∧ cut.result = .error (.output .full) := by
  intro ops script free whole cut
  have hlength : free.report.length = 12 := by decide +kernel
  have hfree : free.result = .error (.rejected "add_node(2)" 400) := by decide +kernel
  obtain ⟨-, hfits, -⟩ := run_limited scripted .abort (.ofList ops) script 12 .full
  obtain ⟨-, -, hexceeds⟩ := run_limited scripted .abort (.ofList ops) script 11 .full
  obtain ⟨hsteps, -, hresult⟩ := hfits (Nat.le_of_eq hlength)
  obtain ⟨hcut, hbytes, -⟩ := hexceeds (hlength ▸ Nat.lt_succ_self 11)
  exact ⟨hlength, hfree, hsteps, hresult.trans hfree, hbytes, hcut⟩

end GraphCourier
