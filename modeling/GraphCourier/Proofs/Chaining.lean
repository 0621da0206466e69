import GraphCourier.Proofs.Tally

/-!
# Runs in two parts

Running one schedule after another is running the first and then the second, on
the service and the sink that the first run has left (`run_append`). If the first
run ends early, nothing of the second schedule matters.

A run that goes on from some progress keeps what it has reported and counted and
adds to it what a fresh run would report and count: only the state of the service
and the room in the sink are carried over.
-/

namespace GraphCourier

variable {σ : Type}

/-! ## Sums of summaries -/

/-- A summary is the sum of two: all counts are, for each status as well. -/
structure Summary.IsSum (summary s₁ s₂ : Summary) : Prop where
  requests : summary.requests = s₁.requests + s₂.requests
  succeeded : summary.succeeded = s₁.succeeded + s₂.succeeded
  mutations : summary.mutations = s₁.mutations + s₂.mutations
  sorted : summary.rejected.Sorted
  rejected : ∀ status, summary.rejected.lookup status =
    (s₁.rejected.lookup status).merge (· + ·) (s₂.rejected.lookup status)

theorem Summary.Counts.isSum {summary s₁ s₂ : Summary} {rs₁ rs₂ : List Response}
    (h : summary.Counts (rs₁ ++ rs₂)) (h₁ : s₁.Counts rs₁) (h₂ : s₂.Counts rs₂) :
    summary.IsSum s₁ s₂ where
  requests := by rw [h.requests, h₁.requests, h₂.requests, List.length_append]
  succeeded := by rw [h.succeeded, h₁.succeeded, h₂.succeeded, List.countP_append]
  mutations := by rw [h.mutations, h₁.mutations, h₂.mutations, List.countP_append]
  sorted := h.sorted
  rejected status := by
    rw [h.lookup_eq, h₁.lookup_eq, h₂.lookup_eq, List.countP_append]
    by_cases hstatus : status = 200
    · simp [hstatus]
    · -- An entry is there on neither side, on one, or on both.
      rcases Nat.eq_zero_or_pos (rs₁.countP fun r => r.status = status) with hzero₁ | hpos₁
      · simp [hstatus, hzero₁]
      · rcases Nat.eq_zero_or_pos (rs₂.countP fun r => r.status = status) with hzero₂ | hpos₂
        · simp [hstatus, hzero₂]
        · simp [hstatus, Nat.ne_of_gt hpos₁, Nat.ne_of_gt hpos₂]

/-! ## Going on -/

variable {service : Service σ} {policy : FailurePolicy} {schedule : Schedule}

theorem run_of_drive {s : σ} {sink : Sink} {q : Progress σ} {stop : Option RunError}
    (h : drive service policy schedule (.start s sink) = (q, stop)) :
    (run service policy schedule s sink).steps = q.steps.toList
      ∧ (run service policy schedule s sink).reached.state = q.state
      ∧ (run service policy schedule s sink).reached.sink = q.sink
      ∧ (run service policy schedule s sink).result = stop.elim (.ok q.summary) .error := by
  rw [run, h]
  cases stop with
  | some e => exact ⟨rfl, rfl, rfl, rfl⟩
  | none => exact ⟨rfl, rfl, rfl, rfl⟩

/-- A run that goes on does what a fresh one would do on the same service and
sink. -/
theorem drive_from_start (service : Service σ) (policy : FailurePolicy) (schedule : Schedule)
    (p : Progress σ) :
    ∃ q q' stop, drive service policy schedule p = (q, stop)
      ∧ drive service policy schedule (.start p.state p.sink) = (q', stop)
      ∧ q.state = q'.state ∧ q.sink = q'.sink
      ∧ q.steps.toList = p.steps.toList ++ q'.steps.toList
      ∧ (stop = none → q.summary =
          (service.exchanges schedule.toList p.state).foldl Exchange.count p.summary) := by
  obtain ⟨q, hq, hstate, hsink, hsteps, hsummary⟩ := drive_trace service policy schedule p rfl
  obtain ⟨q', hq', hstate', hsink', hsteps', -⟩ :=
    drive_trace service policy schedule (.start p.state p.sink) rfl
  refine ⟨q, q', _, hq, hq', hstate.trans hstate'.symm, hsink.trans hsink'.symm, ?_, hsummary⟩
  rw [hsteps, hsteps']
  rfl

/-! ## Runs -/

/-- **Running one schedule after another.** If the first part ends early, the
second one changes nothing. Otherwise the whole is the first part followed by a
run of the second on the state and the sink that the first has left: the same
operations and bytes, the same error if there is one, and if not, the sum of the
two summaries. -/
theorem run_append (service : Service σ) (policy : FailurePolicy) (xs ys : Schedule)
    (s : σ) (sink : Sink) :
    let first := run service policy xs s sink
    let later := run service policy ys first.reached.state first.reached.sink
    let whole := run service policy (xs ++ ys) s sink
    (∀ e, first.result = .error e → whole = first)
      ∧ ∀ s₁, first.result = .ok s₁ →
          whole.steps = first.steps ++ later.steps
            ∧ whole.reached.state = later.reached.state
            ∧ whole.reached.sink = later.reached.sink
            ∧ (∀ e, later.result = .error e → whole.result = .error e)
            ∧ ∀ s₂, later.result = .ok s₂ →
                ∃ summary, whole.result = .ok summary ∧ summary.IsSum s₁ s₂ := by
  intro first later whole
  obtain ⟨q, stop, hq⟩ : ∃ q stop, drive service policy xs (.start s sink) = (q, stop) :=
    ⟨_, _, rfl⟩
  obtain ⟨(hsteps : first.steps = _), (hstate : first.reached.state = _),
    (hsink : first.reached.sink = _), (hresult : first.result = _)⟩ := run_of_drive hq
  cases stop with
  | some e =>
      refine ⟨fun _ _ => ?_, fun s₁ h₁ => ?_⟩
      · simp only [whole, first, run, drive_append, hq]
      · rw [hresult] at h₁
        cases h₁
  | none =>
      obtain ⟨p, p', stop, hp, hp', hpState, hpSink, hpSteps, hpSummary⟩ :=
        drive_from_start service policy ys q
      have hwhole : drive service policy (xs ++ ys) (.start s sink) = (p, stop) := by
        simp only [drive_append, hq, hp]
      have hlater : drive service policy ys (.start first.reached.state first.reached.sink) =
          (p', stop) := by
        rw [hstate, hsink, hp']
      obtain ⟨hwSteps, hwState, hwSink, hwResult⟩ := run_of_drive hwhole
      obtain ⟨hlSteps, hlState, hlSink, hlResult⟩ := run_of_drive hlater
      refine ⟨fun e h => ?_, fun s₁ h₁ => ⟨?_, ?_, ?_, fun e h => ?_, fun s₂ h₂ => ?_⟩⟩
      · rw [hresult] at h
        cases h
      · exact hwSteps.trans (hpSteps.trans (by rw [hsteps, hlSteps]))
      · exact hwState.trans (hpState.trans hlState.symm)
      · exact hwSink.trans (hpSink.trans hlSink.symm)
      · rw [hlResult] at h
        cases stop with
        | some e' =>
            obtain rfl := Except.error.inj h
            exact hwResult
        | none => cases h
      · obtain ⟨rs₁, -, -, hcounts₁⟩ := exists_counts_of_ok h₁
        obtain ⟨rs₂, hrs₂, -, hcounts₂⟩ := exists_counts_of_ok h₂
        rw [hlResult] at h₂
        cases stop with
        | some e => cases h₂
        | none =>
            obtain rfl := Except.ok.inj (hresult.symm.trans h₁)
            refine ⟨p.summary, hwResult, Summary.Counts.isSum ?_ hcounts₁ hcounts₂⟩
            rw [hpSummary rfl, ← hstate]
            exact counts_foldl hcounts₁ hrs₂

/-- Two operations, then two more. With room for all the two refusals are added
up; with room for ten bytes the second part does not come far; and a run that
stops on refusals does not come to it. -/
theorem run_append_refused_twice :
    let xs : Schedule := .ofList [.addNode 1, .addNode 1]
    let ys : Schedule := .ofList [.addNode 2, .addNode 3]
    let script : List (Except ClientError Response) := [.ok ⟨.addNode 1, 200, none⟩,
      .ok ⟨.addNode 1, 409, none⟩, .ok ⟨.addNode 2, 409, none⟩, .ok ⟨.addNode 3, 200, none⟩]
    (∃ summary, (run scripted .proceed (xs ++ ys) script .unlimited).result = .ok summary
        ∧ summary.requests = 4 ∧ summary.rejected.lookup 409 = some 2)
      ∧ (run scripted .proceed (xs ++ ys) script ⟨some 10, .full⟩).result =
          .error (.output .full)
      ∧ run scripted .abort (xs ++ ys) script .unlimited =
          run scripted .abort xs script .unlimited := by
  intro xs ys script
  refine ⟨?_, ?_, ?_⟩
  · obtain ⟨-, hok⟩ := run_append scripted .proceed xs ys script .unlimited
    obtain ⟨-, -, -, -, hsum⟩ := hok ⟨2, 1, 1, [(409, 1)]⟩ (by decide +kernel)
    obtain ⟨summary, hresult, h⟩ := hsum ⟨2, 1, 1, [(409, 1)]⟩ (by decide +kernel)
    exact ⟨summary, hresult, h.requests, h.rejected 409⟩
  · obtain ⟨-, hok⟩ := run_append scripted .proceed xs ys script ⟨some 10, .full⟩
    obtain ⟨-, -, -, hfails, -⟩ := hok ⟨2, 1, 1, [(409, 1)]⟩ (by decide +kernel)
    exact hfails (.output .full) (by decide +kernel)
  · obtain ⟨hstops, -⟩ := run_append scripted .abort xs ys script .unlimited
    exact hstops (.rejected "add_node(1)" 409) (by decide +kernel)

end GraphCourier
