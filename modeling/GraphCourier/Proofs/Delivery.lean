import GraphCourier.Proofs.Trace

/-!
# Runs that go on

A run that goes on after refusals, into a sink with room for everything, ends
early for one reason only: an operation got no answer. Until then it sends one
operation after the other and has reported all answers, each by its segment,
before it sends the next (`run_proceed_unlimited`).
-/

namespace GraphCourier

variable {σ : Type}

/-! ## Answered exchanges -/

theorem verdict_proceed_eq_none {x : Exchange} :
    x.verdict .proceed = none ↔ ∃ r, x.answer = .ok r := by
  obtain ⟨op, answer⟩ := x
  cases answer with
  | error e => simp [Exchange.verdict]
  | ok r => simp [Exchange.verdict]

theorem verdict_of_answers {xs : List Exchange} {rs : List Response}
    (h : xs.map Exchange.answer = rs.map .ok) : ∀ x ∈ xs, x.verdict .proceed = none := by
  intro x hx
  have hmem : x.answer ∈ rs.map Except.ok := h ▸ List.mem_map_of_mem hx
  obtain ⟨r, -, hr⟩ := List.mem_map.mp hmem
  exact verdict_proceed_eq_none.mpr ⟨r, hr.symm⟩

theorem segments_of_answers {xs : List Exchange} {rs : List Response}
    (h : xs.map Exchange.answer = rs.map .ok) : segments xs = rs.flatMap Response.segment := by
  induction xs generalizing rs with
  | nil =>
      obtain rfl : rs = [] := List.map_eq_nil_iff.mp h.symm
      rfl
  | cons x xs ih =>
      cases rs with
      | nil => cases h
      | cons r rs =>
          obtain ⟨hx, hxs⟩ := List.cons.inj h
          rw [segments, List.flatMap_cons, List.flatMap_cons, ← ih hxs, Exchange.segment, hx]
          rfl

theorem exists_responses {xs : List Exchange}
    (h : ∀ x ∈ xs, x.verdict .proceed = none) :
    ∃ rs : List Response, xs.map Exchange.answer = rs.map .ok := by
  induction xs with
  | nil => exact ⟨[], rfl⟩
  | cons x xs ih =>
      obtain ⟨r, hr⟩ := verdict_proceed_eq_none.mp (h x (List.mem_cons_self ..))
      obtain ⟨rs, hrs⟩ := ih fun y hy => h y (List.mem_cons_of_mem _ hy)
      exact ⟨r :: rs, by rw [List.map_cons, List.map_cons, hr, hrs]⟩

/-- A trace that goes on up to an operation without an answer ends there. -/
theorem trace_unlimited_of_failure {policy : FailurePolicy} {xs ys : List Exchange}
    {op : Operation} {e : ClientError} (h : ∀ x ∈ xs, x.verdict policy = none) :
    trace policy (xs ++ ⟨op, .error e⟩ :: ys) .unlimited =
      ⟨(trace policy xs .unlimited).steps ++ [⟨op, []⟩], some (.transport op.display e),
        .unlimited⟩ := by
  have hstop : Exchange.stop policy .unlimited ⟨op, .error e⟩ =
      some (.transport op.display e) := rfl
  rw [trace_append, trace_unlimited_of_go h]
  simp only [trace_cons_of_stop hstop]
  rfl

/-! ## Runs -/

/-- **Delivery.** A run that goes on after refusals, into a sink without limit,
has sent the service exactly its `sent` operations. If all are answered, these
are all operations, and the report is made of the segments of the answers. If
the first to fail is operation `k`, they are the operations up to `k`, and
nothing is reported for it. Whenever operation `i` is about to be sent, the run
has come to some `q` whose report is made of the answers before `i`. -/
theorem run_proceed_unlimited (service : Service σ) (schedule : Schedule) (s : σ) :
    let ops := schedule.toList
    let answers := service.answers ops s
    let r := run service .proceed schedule s .unlimited
    r.reached.state = service.after r.sent s
      ∧ (∀ rs : List Response, answers = rs.map .ok →
          r.sent = ops ∧ r.report = rs.flatMap Response.segment
            ∧ ∃ summary, r.result = .ok summary)
      ∧ (∀ k op (rs : List Response) e, ops[k]? = some op →
          answers.take k = rs.map .ok → answers[k]? = some (.error e) →
          r.sent = ops.take (k + 1) ∧ r.report = rs.flatMap Response.segment
            ∧ r.result = .error (.transport op.display e))
      ∧ ∀ i < r.sent.length, ∃ q, ∃ rs : List Response,
          drive service .proceed (.ofList (ops.take i)) (.start s .unlimited) = (q, none)
            ∧ q.steps.toList = r.steps.take i
            ∧ answers.take i = rs.map .ok
            ∧ q.report = rs.flatMap Response.segment := by
  intro ops answers r
  let xs := service.exchanges ops s
  let t := trace .proceed xs .unlimited
  obtain ⟨(hsteps : r.steps = t.steps), (hresult : r.result = t.result (tally xs))⟩ :=
    run_trace service .proceed schedule s .unlimited rfl rfl
  have hops : xs.map Exchange.operation = ops := service.map_operation_exchanges ops s
  refine ⟨state_eq_after service .proceed schedule s .unlimited, fun rs hrs => ?_,
    fun k op rs e hop hrs he => ?_, fun i hi => ?_⟩
  · have hgo : ∀ x ∈ xs, x.verdict .proceed = none := verdict_of_answers hrs
    have ht : t = ⟨xs.map fun x => ⟨x.operation, x.segment⟩, none, .unlimited⟩ :=
      trace_unlimited_of_go hgo
    refine ⟨?_, ?_, tally xs, ?_⟩
    · rw [Run.sent, hsteps, ← hops]
      exact operations_of_go hgo
    · rw [Run.report, hsteps, ← segments_of_answers hrs]
      exact report_of_go hgo
    · rw [hresult, ht]
      rfl
  · have hrs' : (xs.take k).map Exchange.answer = rs.map .ok := by rw [List.map_take]; exact hrs
    have hgo : ∀ x ∈ xs.take k, x.verdict .proceed = none := verdict_of_answers hrs'
    have hsplit : xs = xs.take k ++ ⟨op, .error e⟩ :: xs.drop (k + 1) :=
      service.exchanges_split hop he
    have ht : t = ⟨(trace .proceed (xs.take k) .unlimited).steps ++ [⟨op, []⟩],
        some (.transport op.display e), .unlimited⟩ :=
      (congrArg (trace .proceed · .unlimited) hsplit).trans (trace_unlimited_of_failure hgo)
    refine ⟨?_, ?_, ?_⟩
    · rw [Run.sent, hsteps, ht, List.map_append, operations_of_go hgo, List.map_take, hops,
        List.take_add_one, hop]
      rfl
    · rw [Run.report, hsteps, ht, List.flatMap_append, ← segments_of_answers hrs',
        ← report_of_go hgo]
      exact List.append_nil _
    · rw [hresult, ht]
      rfl
  · rw [Run.sent, List.length_map, hsteps] at hi
    obtain ⟨hstop, htake⟩ := trace_take hi
    have hgo : ∀ x ∈ xs.take i, x.verdict .proceed = none := verdict_of_trace hstop
    obtain ⟨rs, hrs⟩ := exists_responses hgo
    have hexchanges : service.exchanges (Schedule.ofList (ops.take i)).toList s = xs.take i := by
      rw [Schedule.toList_ofList, service.exchanges_take]
    obtain ⟨q, hq, -, -, hqSteps, -⟩ :=
      drive_trace service .proceed (.ofList (ops.take i)) (.start s .unlimited)
        (t := trace .proceed (xs.take i) .unlimited) (by rw [← hexchanges]; rfl)
    have hqSteps' : q.steps.toList = (trace .proceed (xs.take i) .unlimited).steps := hqSteps
    refine ⟨q, rs, by rw [hq, hstop], ?_, ?_, ?_⟩
    · rw [hqSteps', hsteps, htake]
    · rw [← hrs, List.map_take]
      rfl
    · rw [Progress.report, hqSteps', ← segments_of_answers hrs]
      exact report_of_go hgo

/-- Two answers, the second with an empty body, and none to a third operation. -/
theorem run_proceed_without_answer :
    let ops : List Operation := [.addNode 1, .getNode 1, .addNode 2]
    let answered : List Response := [⟨.addNode 1, 204, none⟩, ⟨.getNode 1, 200, some ""⟩]
    let script := answered.map Except.ok
    let r := run scripted .proceed (.ofList ops) script .unlimited
    let r' := run scripted .proceed (.ofList (ops.take 2)) script .unlimited
    r.sent = ops ∧ r.report = utf8 "204\n200\n\n"
      ∧ r.result = .error (.transport "add_node(2)" (.http .sending ""))
      ∧ r'.sent = ops.take 2 ∧ r'.report = utf8 "204\n200\n\n"
      ∧ (∃ summary, r'.result = .ok summary)
      ∧ ∃ q, drive scripted .proceed (.ofList (ops.take 1)) (.start script .unlimited) = (q, none)
          ∧ q.steps.toList = r.steps.take 1 := by
  intro ops answered script r r'
  obtain ⟨-, -, hfails, hmoment⟩ := run_proceed_unlimited scripted (.ofList ops) script
  obtain ⟨hsent, hreport, hresult⟩ := hfails 2 (.addNode 2) answered (.http .sending "")
    rfl rfl rfl
  obtain ⟨-, hanswered, -, -⟩ := run_proceed_unlimited scripted (.ofList (ops.take 2)) script
  obtain ⟨hsent', hreport', hresult'⟩ := hanswered answered rfl
  have hsegments : answered.flatMap Response.segment = utf8 "204\n200\n\n" := by decide +kernel
  obtain ⟨q, -, hq, hsteps, -⟩ := hmoment 1 (hsent ▸ by decide)
  exact ⟨hsent, hreport.trans hsegments, hresult, hsent', hreport'.trans hsegments, hresult',
    q, hq, hsteps⟩

end GraphCourier
