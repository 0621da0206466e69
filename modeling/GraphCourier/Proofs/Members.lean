import Mathlib.Data.List.Induction
import Mathlib.Data.String.Basic
import GraphCourier.Json.Value

/-!
# Members by name

Of the members of an object that have one name the last one counts: a name and
a value are a member of the ordered object where the value is the last one with
that name (`Members.mem_sorted_iff`).
-/

namespace GraphCourier.Json

variable {α : Type}

/-- The values of all members with a name, in order. -/
def valuesOf (name : String) (ms : List (String × α)) : List α :=
  (ms.filter fun m => m.1 = name).map Prod.snd

theorem valuesOf_nil (name : String) : valuesOf name ([] : List (String × α)) = [] := rfl

theorem valuesOf_cons_self (name : String) (y : α) (ms : List (String × α)) :
    valuesOf name ((name, y) :: ms) = y :: valuesOf name ms := by
  simp [valuesOf]

theorem valuesOf_cons_of_ne {name name' : String} (h : name' ≠ name) (y : α)
    (ms : List (String × α)) : valuesOf name ((name', y) :: ms) = valuesOf name ms := by
  simp [valuesOf, h]

theorem valuesOf_append (name : String) (ms ms' : List (String × α)) :
    valuesOf name (ms ++ ms') = valuesOf name ms ++ valuesOf name ms' := by
  simp [valuesOf]

theorem mem_valuesOf {name : String} {x : α} {ms : List (String × α)} :
    x ∈ valuesOf name ms ↔ (name, x) ∈ ms := by
  simp [valuesOf]

theorem valuesOf_map {β : Type} (name : String) (f : α → β) (ms : List (String × α)) :
    valuesOf name (ms.map fun m => (m.1, f m.2)) = (valuesOf name ms).map f := by
  simp [valuesOf, List.filter_map, Function.comp_def]

theorem length_valuesOf (name : String) (ms : List (String × α)) :
    (valuesOf name ms).length = (ms.map Prod.fst).count name := by
  simp [valuesOf, List.count, List.countP_map, ← List.countP_eq_length_filter, Function.comp_def,
    beq_eq_decide]

namespace Members

/-- Members in strict order of their keys. -/
def InOrder (ms : List (String × α)) : Prop := ms.Pairwise fun m m' => m.1 < m'.1

variable {key k : String} {x y : α} {ms : List (String × α)}

theorem mem_insert_iff (h : InOrder ms) :
    (k, x) ∈ insert key y ms ↔ (k = key ∧ x = y) ∨ (k ≠ key ∧ (k, x) ∈ ms) := by
  induction ms with
  | nil => simp [insert]
  | cons m ms ih =>
      obtain ⟨k', z⟩ := m
      obtain ⟨hhead, hrest⟩ := List.pairwise_cons.mp h
      rw [insert]
      split
      · rename_i hlt
        have hne : (k, x) ∈ (k', z) :: ms → k ≠ key := by
          rintro hmem rfl
          rcases List.mem_cons.mp hmem with heq | hmem
          · cases heq
            exact String.lt_irrefl _ hlt
          · exact String.lt_irrefl _ (String.lt_trans hlt (hhead _ hmem))
        rw [List.mem_cons, Prod.mk.injEq]
        exact or_congr Iff.rfl ⟨fun hmem => ⟨hne hmem, hmem⟩, And.right⟩
      split
      · rename_i heq
        subst heq
        have hne : (k, x) ∈ ms → k ≠ key := by
          rintro hmem rfl
          exact String.lt_irrefl k (hhead (k, x) hmem)
        rw [List.mem_cons, List.mem_cons, Prod.mk.injEq, Prod.mk.injEq]
        grind
      · rw [List.mem_cons, List.mem_cons, ih hrest, Prod.mk.injEq]
        grind

theorem inOrder_insert (h : InOrder ms) (key : String) (y : α) : InOrder (insert key y ms) := by
  induction ms with
  | nil => exact List.pairwise_singleton _ _
  | cons m ms ih =>
      obtain ⟨k, z⟩ := m
      obtain ⟨hhead, hrest⟩ := List.pairwise_cons.mp h
      rw [insert]
      split
      · rename_i hlt
        refine List.pairwise_cons.mpr ⟨fun m hm => ?_, h⟩
        rcases List.mem_cons.mp hm with rfl | hm
        · exact hlt
        · exact String.lt_trans hlt (hhead m hm)
      split
      · rename_i heq
        subst heq
        exact List.pairwise_cons.mpr ⟨hhead, hrest⟩
      · rename_i hlt hne
        refine List.pairwise_cons.mpr ⟨fun m hm => ?_, ih hrest⟩
        obtain ⟨k', x⟩ := m
        rcases (mem_insert_iff hrest).mp hm with ⟨rfl, -⟩ | ⟨-, hm⟩
        · exact lt_of_le_of_ne (not_lt.mp hlt) (Ne.symm hne)
        · exact hhead _ hm

theorem sorted_concat (ms : List (String × α)) (k : String) (x : α) :
    sorted (ms ++ [(k, x)]) = insert k x (sorted ms) := by
  simp [sorted]

theorem inOrder_sorted (ms : List (String × α)) : InOrder (sorted ms) := by
  induction ms using List.reverseRecOn with
  | nil => exact .nil
  | append_singleton ms m ih =>
      obtain ⟨k, x⟩ := m
      rw [sorted_concat]
      exact inOrder_insert ih k x

/-- **Of several members with one key the last one counts.** -/
theorem mem_sorted_iff (ms : List (String × α)) :
    (k, x) ∈ sorted ms ↔ (valuesOf k ms).getLast? = some x := by
  induction ms using List.reverseRecOn with
  | nil => simp [sorted, valuesOf]
  | append_singleton ms m ih =>
      obtain ⟨k', y⟩ := m
      rw [sorted_concat, mem_insert_iff (inOrder_sorted ms), ih, valuesOf_append]
      by_cases hk : k' = k
      · subst hk
        simp [valuesOf_cons_self, valuesOf_nil, eq_comm]
      · simp [valuesOf_cons_of_ne hk, valuesOf_nil, Ne.symm hk]

end Members

end GraphCourier.Json
