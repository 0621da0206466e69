import Mathlib.Data.List.Perm.Basic
import Mathlib.Data.List.Sort
import GraphCourier.Proofs.Delivery

/-!
# What a summary counts

A summary is built up answer by answer, but it tells nothing of their order: it
is fixed by how many answers there were of each operation and status.

`Summary.Counts` says of a summary and a list of answers that the one counts the
other. Recording an answer keeps this up (`Summary.Counts.record`), from
whatever summary a run starts with, and so does a run (`counts_foldl`). The
statuses that were refused are kept as a sorted list, which is looked up like a
map; two such lists with the same entries are equal
(`StatusCounts.Sorted.eq_of_lookup`).
-/

namespace GraphCourier

variable {σ : Type}

/-! ## Counts of statuses -/

namespace StatusCounts

variable {status key : UInt16} {counts counts' : StatusCounts}

/-- The statuses are in increasing order, so none is there twice. -/
def Sorted (counts : StatusCounts) : Prop := counts.Pairwise (·.1 < ·.1)

theorem fst_of_mem_count {e : UInt16 × Nat} (h : e ∈ count status counts) :
    e.1 = status ∨ ∃ e' ∈ counts, e'.1 = e.1 := by
  induction counts with
  | nil =>
      obtain rfl := List.mem_singleton.mp h
      exact Or.inl rfl
  | cons entry rest ih =>
      obtain ⟨s, n⟩ := entry
      rw [count] at h
      split at h
      · rcases List.mem_cons.mp h with rfl | h
        · exact Or.inl rfl
        · exact Or.inr ⟨e, h, rfl⟩
      · split at h
        · rcases List.mem_cons.mp h with rfl | h
          · exact Or.inr ⟨(s, n), List.mem_cons_self .., rfl⟩
          · exact Or.inr ⟨e, List.mem_cons_of_mem _ h, rfl⟩
        · rcases List.mem_cons.mp h with rfl | h
          · exact Or.inr ⟨(s, n), List.mem_cons_self .., rfl⟩
          · refine (ih h).imp_right ?_
            rintro ⟨e', he', hfst⟩
            exact ⟨e', List.mem_cons_of_mem _ he', hfst⟩

theorem Sorted.nil : Sorted [] := List.Pairwise.nil

theorem Sorted.count (h : Sorted counts) (status : UInt16) :
    Sorted (counts.count status) := by
  induction counts with
  | nil => exact List.pairwise_singleton _ _
  | cons entry rest ih =>
      obtain ⟨s, n⟩ := entry
      obtain ⟨hhead, hrest⟩ := List.pairwise_cons.mp h
      rw [StatusCounts.count]
      split
      · rename_i hlt
        refine List.pairwise_cons.mpr ⟨fun e he => ?_, h⟩
        rcases List.mem_cons.mp he with rfl | he
        · exact hlt
        · exact UInt16.lt_trans hlt (hhead e he)
      · split
        · exact List.pairwise_cons.mpr ⟨hhead, hrest⟩
        · rename_i hnot hne
          refine List.pairwise_cons.mpr ⟨fun e he => ?_, ih hrest⟩
          rcases fst_of_mem_count he with hstatus | ⟨e', he', hfst⟩
          · rw [hstatus]
            exact UInt16.lt_of_le_of_ne (UInt16.not_lt.mp hnot) (Ne.symm hne)
          · rw [← hfst]
            exact hhead e' he'

theorem Sorted.lookup_of_lt {s : UInt16} {n : Nat} (h : Sorted ((s, n) :: counts))
    (hlt : key < s) : List.lookup key ((s, n) :: counts) = none := by
  rw [List.lookup_eq_none_iff]
  intro e he
  rw [bne_iff_ne]
  rcases List.mem_cons.mp he with rfl | he
  · exact UInt16.ne_of_lt hlt
  · exact UInt16.ne_of_lt (UInt16.lt_trans hlt ((List.pairwise_cons.mp h).1 e he))

theorem lookup_cons_of_ne {s : UInt16} (h : key ≠ s) (n : Nat) (counts : StatusCounts) :
    List.lookup key ((s, n) :: counts) = counts.lookup key := by
  rw [List.lookup_cons, beq_false_of_ne h]

/-- Counting a status adds one to its entry, or makes one, and leaves the others
alone. -/
theorem Sorted.lookup_count (h : Sorted counts) (status key : UInt16) :
    (counts.count status).lookup key =
      if key = status then some ((counts.lookup status).getD 0 + 1)
      else counts.lookup key := by
  induction counts with
  | nil =>
      by_cases hkey : key = status
      · simp [StatusCounts.count, hkey]
      · simp [StatusCounts.count, hkey, lookup_cons_of_ne]
  | cons entry rest ih =>
      obtain ⟨s, n⟩ := entry
      have ih := ih (List.pairwise_cons.mp h).2
      rw [StatusCounts.count]
      split
      · rename_i hlt
        rw [h.lookup_of_lt hlt]
        by_cases hkey : key = status
        · simp [hkey]
        · rw [lookup_cons_of_ne hkey, if_neg hkey]
      · split
        · rename_i hs
          subst hs
          by_cases hkey : key = status
          · simp [hkey]
          · rw [lookup_cons_of_ne hkey, lookup_cons_of_ne hkey, if_neg hkey]
        · rename_i hs
          rw [lookup_cons_of_ne hs]
          by_cases hkey : key = s
          · simp [hkey, Ne.symm hs]
          · rw [lookup_cons_of_ne hkey, lookup_cons_of_ne hkey, ih]

theorem Sorted.mem_iff_lookup (h : Sorted counts) {n : Nat} :
    (key, n) ∈ counts ↔ counts.lookup key = some n := by
  constructor
  · intro hmem
    induction counts with
    | nil => cases hmem
    | cons entry rest ih =>
        obtain ⟨hhead, hrest⟩ := List.pairwise_cons.mp h
        rcases List.mem_cons.mp hmem with rfl | hmem
        · exact List.lookup_cons_self
        · rw [lookup_cons_of_ne (UInt16.ne_of_lt (hhead _ hmem)).symm]
          exact ih hrest hmem
  · intro hlookup
    obtain ⟨before, after, rfl, -⟩ := List.lookup_eq_some_iff.mp hlookup
    exact List.mem_append_right _ (List.mem_cons_self ..)

theorem Sorted.nodup (h : Sorted counts) : counts.Nodup :=
  List.Pairwise.imp (fun hlt heq => UInt16.ne_of_lt hlt (congrArg Prod.fst heq)) h

/-- As maps are, sorted counts are fixed by what is looked up in them. -/
theorem Sorted.eq_of_lookup (h : Sorted counts) (h' : Sorted counts')
    (hlookup : ∀ status, counts.lookup status = counts'.lookup status) : counts = counts' := by
  refine List.Perm.eq_of_pairwise (fun e e' _ _ hlt hgt => ?_) h h' ?_
  · exact absurd hlt (UInt16.lt_asymm hgt)
  · rw [List.perm_ext_iff_of_nodup h.nodup h'.nodup]
    rintro ⟨status, n⟩
    rw [h.mem_iff_lookup, h'.mem_iff_lookup, hlookup]

end StatusCounts

/-! ## Summaries -/

/-- The endpoints of the operations that change the graph. -/
def changeNames : List String := ["add_node", "remove_node", "add_edge", "remove_edge"]

theorem Operation.isMutation_iff (op : Operation) :
    op.isMutation = true ↔ op.name ∈ changeNames := by
  cases op <;> simp [isMutation, name, changeNames]

/-- A summary tells how many of these answers there are of each kind. -/
structure Summary.Counts (summary : Summary) (rs : List Response) : Prop where
  requests : summary.requests = rs.length
  succeeded : summary.succeeded = rs.countP fun r => r.status = 200
  mutations : summary.mutations =
    rs.countP fun r => r.status = 200 ∧ r.operation.name ∈ changeNames
  total : summary.rejectedTotal = rs.countP fun r => r.status ≠ 200
  sorted : summary.rejected.Sorted
  /-- There is an entry for each status that came, 200 apart. -/
  rejected : ∀ status n, summary.rejected.lookup status = some n ↔
    status ≠ 200 ∧ 0 < n ∧ n = rs.countP fun r => r.status = status

namespace Summary.Counts

variable {summary summary' : Summary} {rs rs' : List Response}

theorem empty : Summary.empty.Counts [] where
  requests := rfl
  succeeded := rfl
  mutations := rfl
  total := rfl
  sorted := .nil
  rejected status n := by
    simp only [Summary.empty, List.lookup_nil, List.countP_nil]
    constructor
    · intro h
      cases h
    · rintro ⟨-, hpos, rfl⟩
      exact absurd hpos (Nat.lt_irrefl 0)

theorem lookup_eq (h : summary.Counts rs) (status : UInt16) :
    summary.rejected.lookup status =
      if status = 200 ∨ rs.countP (fun r => r.status = status) = 0 then none
      else some (rs.countP fun r => r.status = status) := by
  ext n
  rw [h.rejected]
  split
  · rename_i hnone
    refine iff_of_false ?_ (Option.not_mem_none n)
    rintro ⟨hstatus, hpos, rfl⟩
    exact hnone.elim hstatus (Nat.ne_of_gt hpos)
  · rename_i hsome
    rw [not_or] at hsome
    rw [Option.some.injEq]
    constructor
    · rintro ⟨-, -, rfl⟩
      rfl
    · rintro rfl
      exact ⟨hsome.1, Nat.pos_of_ne_zero hsome.2, rfl⟩

/-- Recording an answer counts it. -/
theorem record (h : summary.Counts rs) (r : Response) : (summary.record r).Counts (rs ++ [r]) := by
  have htotal : summary.rejected.total = rs.countP fun r => r.status ≠ 200 := h.total
  by_cases hr : r.status = 200
  · have hsuccess : r.isSuccess = true := by simpa [Response.isSuccess, isSuccess] using hr
    simp only [Summary.record, hsuccess, if_true]
    refine ⟨?_, ?_, ?_, ?_, h.sorted, fun status n => ?_⟩
    · simp [h.requests]
    · simp [h.succeeded, hr]
    · simp [h.mutations, hr, Operation.isMutation_iff, List.countP_append, List.countP_singleton]
    · simp [htotal, hr, Summary.rejectedTotal]
    · rw [h.rejected, List.countP_append]
      by_cases hstatus : status = 200
      · simp [hstatus]
      · simp [hr, Ne.symm hstatus]
  · have hsuccess : r.isSuccess = false := by simpa [Response.isSuccess, isSuccess] using hr
    simp only [Summary.record, hsuccess]
    refine ⟨?_, ?_, ?_, ?_, h.sorted.count r.status, fun status n => ?_⟩
    · simp [h.requests]
    · simp [h.succeeded, hr]
    · simp [h.mutations, hr]
    · simp [htotal, hr, Summary.rejectedTotal, StatusCounts.total_count]
    · have hbefore : (summary.rejected.lookup r.status).getD 0 =
          rs.countP fun r' => r'.status = r.status := by
        rw [h.lookup_eq]
        split
        · rename_i hzero
          exact (hzero.resolve_left hr).symm
        · rfl
      simp only [Bool.false_eq_true, if_false, h.sorted.lookup_count, hbefore]
      by_cases hstatus : status = r.status
      · subst hstatus
        simp [hr]
        omega
      · simp [hstatus, h.rejected, Ne.symm hstatus]

/-- What a summary counts fixes it, in whatever order it came. -/
theorem eq_of_perm (h : summary.Counts rs) (h' : summary'.Counts rs')
    (hperm : (rs.map fun r => (r.operation, r.status)).Perm
      (rs'.map fun r => (r.operation, r.status))) : summary = summary' := by
  have hcount : ∀ p : Operation × UInt16 → Bool,
      rs.countP (fun r => p (r.operation, r.status)) =
        rs'.countP (fun r => p (r.operation, r.status)) := by
    intro p
    have := hperm.countP_eq p
    rwa [List.countP_map, List.countP_map] at this
  have hrejected : summary.rejected = summary'.rejected :=
    h.sorted.eq_of_lookup h'.sorted fun status => Option.ext fun n => by
      rw [h.rejected, h'.rejected, hcount fun x => x.2 = status]
  have hlength : rs.length = rs'.length := by
    have := hperm.length_eq
    rwa [List.length_map, List.length_map] at this
  obtain ⟨requests, succeeded, mutations, rejected⟩ := summary
  obtain ⟨requests', succeeded', mutations', rejected'⟩ := summary'
  refine Summary.mk.injEq .. |>.mpr ⟨?_, ?_, ?_, hrejected⟩
  · exact h.requests.trans (hlength.trans h'.requests.symm)
  · exact h.succeeded.trans ((hcount fun x => x.2 = 200).trans h'.succeeded.symm)
  · exact h.mutations.trans
      ((hcount fun x => x.2 = 200 ∧ x.1.name ∈ changeNames).trans h'.mutations.symm)

end Summary.Counts

/-! ## Runs -/

/-- Whatever a run has counted before, in the end it has counted the answers to
its exchanges as well. -/
theorem counts_foldl {summary : Summary} {before rs : List Response} {xs : List Exchange}
    (h : summary.Counts before) (hxs : xs.map Exchange.answer = rs.map .ok) :
    (xs.foldl Exchange.count summary).Counts (before ++ rs) := by
  induction xs generalizing summary before rs with
  | nil =>
      obtain rfl : rs = [] := List.map_eq_nil_iff.mp hxs.symm
      rwa [List.append_nil]
  | cons x xs ih =>
      cases rs with
      | nil => cases hxs
      | cons r rs =>
          obtain ⟨hx, hxs⟩ := List.cons.inj hxs
          have hr : x.count summary = summary.record r := by rw [Exchange.count, hx]
          have := ih (h.record r) hxs
          rwa [List.append_assoc, ← hr] at this

theorem counts_tally {rs : List Response} {xs : List Exchange}
    (hxs : xs.map Exchange.answer = rs.map .ok) : (tally xs).Counts rs :=
  counts_foldl .empty hxs

theorem Exchange.answered_of_verdict {policy : FailurePolicy} {x : Exchange}
    (h : x.verdict policy = none) : ∃ r, x.answer = .ok r := by
  obtain ⟨op, answer⟩ := x
  cases answer with
  | error e => cases h
  | ok r => exact ⟨r, rfl⟩

/-- A run that comes to its end has an answer to every operation, and its summary
counts these answers. -/
theorem exists_counts_of_ok {service : Service σ} {policy : FailurePolicy} {schedule : Schedule}
    {s : σ} {sink : Sink} {summary : Summary}
    (h : (run service policy schedule s sink).result = .ok summary) :
    ∃ rs : List Response, service.answers schedule.toList s = rs.map .ok
      ∧ (run service policy schedule s sink).sent = schedule.toList
      ∧ summary.Counts rs := by
  obtain ⟨hsteps, hresult⟩ := run_trace service policy schedule s sink rfl rfl
  have hstop := Trace.stop_of_result (hresult.symm.trans h)
  obtain ⟨rs, hrs⟩ := exists_responses fun x hx =>
    verdict_proceed_eq_none.mpr (Exchange.answered_of_verdict (verdict_of_trace hstop x hx))
  refine ⟨rs, hrs, ?_, ?_⟩
  · rw [Run.sent, hsteps, operations_of_trace hstop, service.map_operation_exchanges]
  · rw [h, Trace.result, hstop] at hresult
    obtain rfl := Except.ok.inj hresult
    exact counts_tally hrs

/-- **The summary of a run.** A run that comes to its end has sent all operations
and got an answer to each. Its summary counts these answers: all of them, the
ones of status 200, those of them that name a change, and, under its status, each
of the others. Of two such runs with the same answers, but for their bodies and
their order, the summaries are equal. -/
theorem run_summary (service : Service σ) (policy : FailurePolicy) (schedule : Schedule)
    (s : σ) (sink : Sink) {summary : Summary}
    (h : (run service policy schedule s sink).result = .ok summary) :
    ∃ rs : List Response, service.answers schedule.toList s = rs.map .ok
      ∧ (run service policy schedule s sink).sent = schedule.toList
      ∧ summary.Counts rs
      ∧ summary.requests = schedule.toList.length
      ∧ summary.requests = summary.succeeded + summary.rejectedTotal
      ∧ summary.mutations ≤ summary.succeeded
      ∧ ∀ {τ : Type} (service' : Service τ) policy' schedule' s' sink' summary',
          (run service' policy' schedule' s' sink').result = .ok summary' →
          ∀ rs' : List Response, service'.answers schedule'.toList s' = rs'.map .ok →
            (rs.map fun r => (r.operation, r.status)).Perm
              (rs'.map fun r => (r.operation, r.status)) →
            summary = summary' := by
  obtain ⟨rs, hrs, hsent, hcounts⟩ := exists_counts_of_ok h
  have hlength : rs.length = schedule.toList.length := by
    have := congrArg List.length hrs
    rw [Service.answers, List.length_map, List.length_map, service.length_exchanges] at this
    exact this.symm
  refine ⟨rs, hrs, hsent, hcounts, hcounts.requests.trans hlength, ?_, ?_, ?_⟩
  · rw [hcounts.requests, hcounts.succeeded, hcounts.total,
      List.length_eq_countP_add_countP fun r : Response => r.status = 200]
    simp
  · rw [hcounts.mutations, hcounts.succeeded]
    refine List.countP_mono_left fun r _ hr => ?_
    simp only [decide_eq_true_eq] at hr ⊢
    exact hr.1
  · intro τ service' policy' schedule' s' sink' summary' h' rs' hrs' hperm
    obtain ⟨rs'', hrs'', -, hcounts'⟩ := exists_counts_of_ok h'
    obtain rfl : rs'' = rs' :=
      List.map_injective_iff.mpr (fun _ _ => Except.ok.inj) (hrs''.symm.trans hrs')
    exact hcounts.eq_of_perm hcounts' hperm

/-- Answers of which two name another operation than was sent: only one of the
changes that succeeded is counted as such. The same answers in reverse make the
same summary. -/
theorem run_summary_in_reverse :
    let ops : List Operation := [.addNode 1, .getNode 1, .addNode 2, .addNode 3, .addNode 4]
    let answered : List Response := [⟨.checkpoint, 200, none⟩, ⟨.addNode 9, 200, some ""⟩,
      ⟨.addNode 2, 507, none⟩, ⟨.addNode 3, 204, none⟩, ⟨.addNode 4, 507, none⟩]
    let summary : Summary := ⟨5, 2, 1, [(204, 1), (507, 2)]⟩
    let script := answered.map Except.ok
    let back := answered.reverse.map Except.ok
    (run scripted .proceed (.ofList ops) script .unlimited).result = .ok summary
      ∧ (run scripted .proceed (.ofList ops) back ⟨some 99, .full⟩).result = .ok summary
      ∧ summary.Counts answered ∧ summary.requests = summary.succeeded + summary.rejectedTotal := by
  intro ops answered summary script back
  have hresult : (run scripted .proceed (.ofList ops) script .unlimited).result = .ok summary := by
    decide +kernel
  obtain ⟨rs, hrs, -, hcounts, -, hsum, -, hsame⟩ :=
    run_summary scripted .proceed (.ofList ops) script .unlimited hresult
  obtain rfl : answered = rs :=
    List.map_injective_iff.mpr (fun _ _ => Except.ok.inj) hrs
  obtain ⟨summary', hback⟩ : ∃ summary',
      (run scripted .proceed (.ofList ops) back ⟨some 99, .full⟩).result = .ok summary' :=
    ⟨summary, by decide +kernel⟩
  have hperm : (answered.map fun r => (r.operation, r.status)).Perm
      (answered.reverse.map fun r => (r.operation, r.status)) :=
    (List.reverse_perm answered).symm.map _
  obtain rfl := hsame scripted .proceed (.ofList ops) back _ summary' hback answered.reverse rfl hperm
  exact ⟨hresult, hback, hcounts, hsum⟩

end GraphCourier
