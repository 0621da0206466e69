import GraphCourier.Report

/-!
# What a sink takes

A report reaches its sink in pieces, and a piece in as many writes as it takes.
None of this can be seen in the end: the sink holds what fits of the report, and
it has refused exactly if something did not fit (`putAll_eq_absorb`).

`absorb` is that description. It is what the theory of runs works with; the
loops of `Sink.put` and `Sink.putAll` are opened here and nowhere else.
-/

namespace GraphCourier

namespace Sink

/-- What becomes of bytes as a whole: those that fit are taken, and the sink
refuses if there are more. -/
def absorb (bs : Bytes) (s : Sink) : Put :=
  match s.room with
  | none => ⟨bs, s, none⟩
  | some n =>
    ⟨bs.take n, { s with room := some (n - bs.length) },
      if n < bs.length then some s.fault else none⟩

theorem absorb_nil (s : Sink) : s.absorb [] = ⟨[], s, none⟩ := by
  obtain ⟨room, fault⟩ := s
  cases room <;> simp [absorb]

theorem absorb_of_le {bs : Bytes} {n : Nat} (h : bs.length ≤ n) (fault : SinkFault) :
    absorb bs ⟨some n, fault⟩ = ⟨bs, ⟨some (n - bs.length), fault⟩, none⟩ := by
  simp only [absorb, List.take_of_length_le h, if_neg (Nat.not_lt.mpr h)]

theorem absorb_of_lt {bs : Bytes} {n : Nat} (h : n < bs.length) (fault : SinkFault) :
    absorb bs ⟨some n, fault⟩ = ⟨bs.take n, ⟨some 0, fault⟩, some fault⟩ := by
  simp only [absorb, Nat.sub_eq_zero_of_le (Nat.le_of_lt h), if_pos h]

/-- What a sink takes without refusing, it takes as it is. -/
theorem absorb_taken {bs : Bytes} {s : Sink} (h : (s.absorb bs).fault = none) :
    (s.absorb bs).taken = bs := by
  obtain ⟨room, fault⟩ := s
  cases room with
  | none => rfl
  | some n =>
      rcases Nat.lt_or_ge n bs.length with hlt | hle
      · rw [absorb_of_lt hlt] at h
        cases h
      · rw [absorb_of_le hle]

/-- A refused report is cut short. -/
theorem length_taken_of_fault {bs : Bytes} {s : Sink} {f : SinkFault}
    (h : (s.absorb bs).fault = some f) : (s.absorb bs).taken.length < bs.length := by
  obtain ⟨room, fault⟩ := s
  cases room with
  | none => cases h
  | some n =>
      rcases Nat.lt_or_ge n bs.length with hlt | hle
      · rw [absorb_of_lt hlt, List.length_take]
        omega
      · rw [absorb_of_le hle] at h
        cases h

/-- Bytes that follow others get what room the first ones left, and nothing
once the sink has refused. -/
theorem absorb_append (bs cs : Bytes) (s : Sink) :
    s.absorb (bs ++ cs) =
      match (s.absorb bs).fault with
      | some _ => s.absorb bs
      | none =>
        { (s.absorb bs).sink.absorb cs with
          taken := bs ++ ((s.absorb bs).sink.absorb cs).taken } := by
  obtain ⟨room, fault⟩ := s
  cases room with
  | none => rfl
  | some n =>
      rcases Nat.lt_or_ge n bs.length with hlt | hle
      · have hlt' : n < (bs ++ cs).length := by rw [List.length_append]; omega
        rw [absorb_of_lt hlt, absorb_of_lt hlt',
          List.take_append_of_le_length (Nat.le_of_lt hlt)]
      · rw [absorb_of_le hle]
        simp only [absorb, List.take_append, List.take_of_length_le hle,
          List.length_append, Nat.sub_add_eq]
        have hiff : n < bs.length + cs.length ↔ n - bs.length < cs.length := by omega
        simp only [hiff]

/-! ## The write loop -/

theorem put_nil (s : Sink) : s.put [] = ⟨[], s, none⟩ := by
  rw [put]
  rfl

/-- A sink without room refuses at the first write. -/
theorem put_full {bs : Bytes} (h : bs ≠ []) (fault : SinkFault) :
    put bs ⟨some 0, fault⟩ = ⟨[], ⟨some 0, fault⟩, some fault⟩ := by
  rw [put, if_neg (by simpa using h)]
  cases fault <;> simp [write]

/-- Writing on until all is accepted comes to taking what fits: the first write
takes that, and a second one is only made to be refused. -/
theorem put_eq_absorb (bs : Bytes) (s : Sink) : s.put bs = s.absorb bs := by
  by_cases hne : bs = []
  · rw [hne, put_nil, absorb_nil]
  obtain ⟨m, hm⟩ : ∃ m, bs.length = m + 1 :=
    Nat.exists_eq_succ_of_ne_zero (by simpa using hne)
  obtain ⟨room, fault⟩ := s
  match room with
  | none =>
      have hdrop : bs.drop (m + 1) = [] := by rw [← hm, List.drop_length]
      have htake : bs.take (m + 1) = bs := by rw [← hm, List.take_length]
      rw [put, if_neg (by simpa using hne)]
      simp only [write, hm, hdrop, htake, put_nil, List.append_nil, absorb]
  | some 0 =>
      rw [put_full hne, absorb_of_lt (by omega), List.take_zero]
  | some (n + 1) =>
      rw [put, if_neg (by simpa using hne)]
      rcases Nat.lt_or_ge (n + 1) bs.length with hlt | hle
      · have hrest : bs.drop (n + 1) ≠ [] := by
          rw [Ne, List.drop_eq_nil_iff]; omega
        have hmin : min (n + 1) bs.length = n + 1 := by omega
        have hroom : n + 1 - bs.length = 0 := by omega
        rw [absorb_of_lt hlt]
        simp only [write, hmin, hroom, put_full hrest, List.append_nil]
      · have hmin : min (n + 1) bs.length = m + 1 := by omega
        have hdrop : bs.drop (m + 1) = [] := by rw [← hm, List.drop_length]
        have htake : bs.take (m + 1) = bs := by rw [← hm, List.take_length]
        rw [absorb_of_le hle]
        simp only [write, hmin, hdrop, htake, put_nil, List.append_nil]

/-- The pieces of a report fare as the report as a whole. -/
theorem putAll_eq_absorb (ps : List Bytes) (s : Sink) :
    s.putAll ps = s.absorb ps.flatten := by
  induction ps generalizing s with
  | nil => rw [putAll, List.flatten_nil, absorb_nil]
  | cons bs later ih =>
      rw [putAll, List.flatten_cons, absorb_append, put_eq_absorb]
      cases h : (s.absorb bs).fault with
      | some f => rfl
      | none => simp only [ih, absorb_taken h]

end Sink

theorem Response.flatten_pieces (r : Response) : r.pieces.flatten = r.segment := by
  unfold pieces segment
  cases r.body <;> simp [utf8_append]

end GraphCourier
