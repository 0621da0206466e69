import GraphCourier.Proofs.Positions

/-!
# The length of the schedule

`length?` computes the length of the schedule in 64-bit arithmetic that gives up
where a sum or a product does not fit. It gives up no sooner than it must: what
it computes on the way is never more than the length (`length?_eq_some`). So it
is the length wherever that is below `2 ^ 64`, and none where it is not
(`length?_exact`).
-/

namespace GraphCourier.CompleteGraph

/-- A number is the one of an identifier if it is small enough. -/
theorem exists_toNat_eq {m : Nat} (h : m < UInt64.size) : ∃ a : UInt64, a.toNat = m :=
  ⟨UInt64.ofNat m, UInt64.toNat_ofNat_of_lt' h⟩

theorem sum?_eq_some {a b c : UInt64} : sum? a b = some c ↔ a.toNat + b.toNat = c.toNat := by
  have hc := c.toNat_lt
  unfold sum?
  by_cases h : a.toNat + b.toNat < UInt64.size
  · have hsum : (a + b).toNat = a.toNat + b.toNat := by
      rw [UInt64.toNat_add]
      exact Nat.mod_eq_of_lt h
    rw [if_pos h, Option.some.injEq, ← UInt64.toNat_inj, hsum]
  · rw [if_neg h]
    exact iff_of_false (by simp) fun heq => h (heq ▸ hc)

theorem product?_eq_some {a b c : UInt64} :
    product? a b = some c ↔ a.toNat * b.toNat = c.toNat := by
  have hc := c.toNat_lt
  unfold product?
  by_cases h : a.toNat * b.toNat < UInt64.size
  · have hproduct : (a * b).toNat = a.toNat * b.toNat := by
      rw [UInt64.toNat_mul]
      exact Nat.mod_eq_of_lt h
    rw [if_pos h, Option.some.injEq, ← UInt64.toNat_inj, hproduct]
  · rw [if_neg h]
    exact iff_of_false (by simp) fun heq => h (heq ▸ hc)

theorem one_le_of_ne_zero {n : NodeId} (hn : n ≠ 0) : 1 ≤ n := by
  have hpos : n.toNat ≠ 0 := fun h => hn (UInt64.toNat_inj.mp h)
  exact UInt64.le_iff_toNat_le.mpr (Nat.pos_of_ne_zero hpos)

theorem toNat_pred {n : NodeId} (hn : n ≠ 0) : (n - 1).toNat = n.toNat - 1 :=
  UInt64.toNat_sub_of_le _ _ (one_le_of_ne_zero hn)

/-- Halving the even one of two neighbours halves their product. -/
theorem pairs?_eq_some {n : NodeId} (hn : n ≠ 0) {c : UInt64} :
    pairs? n = some c ↔ n.toNat * (n.toNat - 1) / 2 = c.toNat := by
  have hmod : (n % 2).toNat = n.toNat % 2 := UInt64.toNat_mod n 2
  have hhalf : ((n - 1) / 2).toNat = (n.toNat - 1) / 2 := by
    rw [UInt64.toNat_div, toNat_pred hn]
    rfl
  unfold pairs?
  by_cases heven : n % 2 = 0
  · have hdvd : 2 ∣ n.toNat := by
      rw [heven] at hmod
      exact Nat.dvd_of_mod_eq_zero hmod.symm
    rw [if_pos heven, product?_eq_some, toNat_half, toNat_pred hn,
      Nat.div_mul_right_comm hdvd]
  · have hdvd : 2 ∣ n.toNat - 1 := by
      have hodd : n.toNat % 2 ≠ 0 := fun h => heven (UInt64.toNat_inj.mp (hmod.trans h))
      omega
    rw [if_neg heven, product?_eq_some, hhalf, Nat.mul_div_assoc _ hdvd]

theorem toNat_sub_min (n : NodeId) :
    (n - min (n / 2 + 1) n).toNat = n.toNat - n.toNat / 2 - 1 := by
  have hsucc := toNat_half_succ n
  by_cases hle : n / 2 + 1 ≤ n
  · rw [show min (n / 2 + 1) n = n / 2 + 1 from if_pos hle, UInt64.toNat_sub_of_le _ _ hle, hsucc,
      Nat.sub_sub]
  · have hlt : n.toNat < n.toNat / 2 + 1 := by
      rw [← hsucc]
      exact Nat.not_le.mp fun h => hle (UInt64.le_iff_toNat_le.mpr h)
    rw [show min (n / 2 + 1) n = n from if_neg hle, UInt64.sub_self, UInt64.toNat_zero]
    omega

/-- **The length that is computed is that of the schedule**, whenever it fits. -/
theorem length?_eq_some {n k : NodeId} : length? n = some k ↔ size n.toNat = k.toNat := by
  unfold length?
  by_cases hn : n = 0
  · subst hn
    rw [if_pos rfl, Option.some.injEq, ← UInt64.toNat_inj]
    rfl
  · simp only [if_neg hn, bind, Option.bind_eq_some_iff, sum?_eq_some, pairs?_eq_some hn,
      toNat_half, toNat_sub_min, size]
    constructor
    · rintro ⟨pairs, hpairs, withPairs, hwithPairs, withRemovals, hwithRemovals, h⟩
      omega
    · intro h
      have hk := k.toNat_lt
      -- No intermediate result is more than the last one.
      obtain ⟨pairs, hpairs⟩ := exists_toNat_eq
        (show n.toNat * (n.toNat - 1) / 2 < UInt64.size by simp only [UInt64.size]; omega)
      obtain ⟨withPairs, hwithPairs⟩ := exists_toNat_eq
        (show n.toNat + pairs.toNat < UInt64.size by simp only [UInt64.size]; omega)
      obtain ⟨withRemovals, hwithRemovals⟩ := exists_toNat_eq
        (show withPairs.toNat + n.toNat / 2 < UInt64.size by simp only [UInt64.size]; omega)
      exact ⟨pairs, hpairs.symm, withPairs, hwithPairs.symm, withRemovals, hwithRemovals.symm,
        by omega⟩

/-- All four parts together, as one polynomial. -/
theorem two_mul_size (m : Nat) (hm : m ≠ 0) : 2 * size m + 2 = m * m + 3 * m := by
  obtain ⟨k, rfl⟩ := Nat.exists_eq_succ_of_ne_zero hm
  have htwo := two_mul_triangle k
  rw [size, Nat.succ_sub_one, Nat.mul_comm k.succ k]
  simp only [Nat.succ_mul, Nat.mul_succ] at *
  omega

theorem size_eq (m : Nat) : size m = if m = 0 then 0 else (m * m + 3 * m - 2) / 2 := by
  split
  · rename_i hm
    subst hm
    rfl
  · rename_i hm
    have htwo := two_mul_size m hm
    omega

theorem min_half_succ_le (n : NodeId) : min (n / 2 + 1) n ≤ n := by
  show (if n / 2 + 1 ≤ n then n / 2 + 1 else n) ≤ n
  split
  · assumption
  · exact UInt64.le_refl n

/-- **The computed length is exact.** It is the number of operations of the
schedule wherever that fits in 64 bits, and is given up exactly where it does
not. The one sum that is not checked, that of the half and one, does not wrap
around, and neither of the two differences goes below zero. -/
theorem length?_exact (n : NodeId) :
    let m := n.toNat
    let count := (schedule n).toList.length
    (∀ k, length? n = some k ↔ k.toNat = count)
      ∧ (length? n = none ↔ 2 ^ 64 ≤ count)
      ∧ (n / 2 + 1).toNat = m / 2 + 1
      ∧ (n = 0 ∨ 1 ≤ n) ∧ min (n / 2 + 1) n ≤ n
      ∧ count = if m = 0 then 0 else (m * m + 3 * m - 2) / 2 := by
  intro m count
  have hcount : count = size m := length_schedule n
  have hsome : ∀ k, length? n = some k ↔ k.toNat = count := by
    intro k
    rw [length?_eq_some, hcount]
    exact eq_comm
  refine ⟨hsome, ?_, toNat_half_succ n, (eq_or_ne n 0).imp_right one_le_of_ne_zero,
    min_half_succ_le n, hcount.trans (size_eq m)⟩
  rw [Option.eq_none_iff_forall_ne_some]
  constructor
  · intro hnone
    refine Nat.not_lt.mp fun hlt => ?_
    obtain ⟨k, hk⟩ := exists_toNat_eq (m := count) hlt
    exact hnone k ((hsome k).mpr hk)
  · intro hle k hk
    have hlt := k.toNat_lt
    rw [(hsome k).mp hk] at hlt
    exact Nat.not_lt.mpr hle hlt

/-- The last number of nodes for which the length fits, and the one after it. -/
example : length? 6074000998 = some 18446744070963499498 ∧ length? 6074000999 = none :=
  ⟨rfl, rfl⟩

end GraphCourier.CompleteGraph
