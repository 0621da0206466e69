import GraphCourier.Toml.Value

/-!
# Tables that change member by member

Whatever a statement does to a table, it changes one member of it and leaves the
others (`Members.get?_modify_self`, `Members.get?_modify_ne`). So it commutes with
dropping members that it is not about, and with changing values as long as what it
makes of a value does.
-/

namespace GraphCourier.Toml

namespace Members

variable {key k : String} {f : Option Value → Option Value} {ms ms' : Members}

/-! ## Changes of one member -/

theorem get?_cons (key k : String) (v : Value) (ms : Members) :
    get? key ((k, v) :: ms) = if k = key then some v else get? key ms := by
  by_cases h : k = key <;> simp [get?, h]

theorem get?_modify_self (h : modify key f ms = some ms') :
    ∃ w, f (ms.get? key) = some w ∧ ms'.get? key = some w := by
  induction ms generalizing ms' with
  | nil =>
      obtain ⟨w, hw, rfl⟩ := Option.map_eq_some_iff.mp h
      exact ⟨w, hw, by rw [get?_cons, if_pos rfl]⟩
  | cons m ms ih =>
      obtain ⟨k, v⟩ := m
      rw [modify] at h
      split at h
      · rename_i hk
        obtain ⟨w, hw, rfl⟩ := Option.map_eq_some_iff.mp h
        rw [get?_cons, get?_cons, if_pos hk, if_pos hk]
        exact ⟨w, hw, rfl⟩
      · rename_i hk
        obtain ⟨rest, hrest, rfl⟩ := Option.map_eq_some_iff.mp h
        rw [get?_cons, get?_cons, if_neg hk, if_neg hk]
        exact ih hrest

theorem get?_modify_ne (h : modify key f ms = some ms') (hk : key ≠ k) :
    ms'.get? k = ms.get? k := by
  induction ms generalizing ms' with
  | nil =>
      obtain ⟨v, hv, rfl⟩ := Option.map_eq_some_iff.mp h
      rw [get?_cons, if_neg hk]
  | cons m ms ih =>
      obtain ⟨k', v⟩ := m
      rw [modify] at h
      split at h
      · rename_i hk'
        obtain ⟨w, -, rfl⟩ := Option.map_eq_some_iff.mp h
        rw [get?_cons, get?_cons, if_neg (hk' ▸ hk), if_neg (hk' ▸ hk)]
      · obtain ⟨rest, hrest, rfl⟩ := Option.map_eq_some_iff.mp h
        rw [get?_cons, get?_cons, ih hrest]

theorem modify_of_get? {w : Value} (h : f (ms.get? key) = some w) :
    ∃ ms', modify key f ms = some ms' := by
  induction ms with
  | nil => exact ⟨[(key, w)], by rw [modify]; exact congrArg _ h⟩
  | cons m ms ih =>
      obtain ⟨k, v⟩ := m
      rw [get?_cons] at h
      rw [modify]
      split
      · rename_i hk
        rw [if_pos hk] at h
        exact ⟨(k, w) :: ms, by rw [h]; rfl⟩
      · rename_i hk
        rw [if_neg hk] at h
        obtain ⟨ms', hms⟩ := ih h
        exact ⟨(k, v) :: ms', by rw [hms]; rfl⟩

/-- The members whose names do not pass a test. -/
def without (p : String → Bool) (ms : Members) : Members := ms.filter fun m => !p m.1

variable {p : String → Bool} {v : Value}

theorem without_cons_kept (hk : p k = false) (v : Value) (ms : Members) :
    without p ((k, v) :: ms) = (k, v) :: without p ms := by
  rw [without, List.filter_cons, if_pos (by rw [hk]; rfl), without]

theorem without_cons_dropped (hk : p k = true) (v : Value) (ms : Members) :
    without p ((k, v) :: ms) = without p ms := by
  rw [without, List.filter_cons, if_neg (by rw [hk]; nofun), without]

theorem modify_without (hp : p key = false) (f : Option Value → Option Value) (ms : Members) :
    modify key f (ms.without p) = (modify key f ms).map (without p) := by
  induction ms with
  | nil =>
      change (f none).map _ = ((f none).map _).map _
      rw [Option.map_map]
      exact congrArg (Option.map · (f none)) (funext fun v => (without_cons_kept hp v []).symm)
  | cons m ms ih =>
      obtain ⟨k, v⟩ := m
      by_cases hk : k = key
      · subst hk
        rw [without_cons_kept hp, modify, modify, if_pos rfl, if_pos rfl, Option.map_map]
        exact congrArg (Option.map · (f (some v)))
          (funext fun w => (without_cons_kept hp w ms).symm)
      · rw [modify, if_neg hk, Option.map_map]
        cases hpk : p k with
        | true =>
            rw [without_cons_dropped hpk, ih]
            exact congrArg (Option.map · (modify key f ms))
              (funext fun ms => (without_cons_dropped hpk v ms).symm)
        | false =>
            rw [without_cons_kept hpk, modify, if_neg hk, ih, Option.map_map]
            exact congrArg (Option.map · (modify key f ms))
              (funext fun ms => (without_cons_kept hpk v ms).symm)

theorem without_modify (hp : p key = true) (h : modify key f ms = some ms') :
    ms'.without p = ms.without p := by
  induction ms generalizing ms' with
  | nil =>
      obtain ⟨v, -, rfl⟩ := Option.map_eq_some_iff.mp h
      exact without_cons_dropped hp v []
  | cons m ms ih =>
      obtain ⟨k, v⟩ := m
      rw [modify] at h
      split at h
      · rename_i hk
        subst hk
        obtain ⟨w, -, rfl⟩ := Option.map_eq_some_iff.mp h
        rw [without_cons_dropped hp, without_cons_dropped hp]
      · obtain ⟨rest, hrest, rfl⟩ := Option.map_eq_some_iff.mp h
        cases hk : p k with
        | true => rw [without_cons_dropped hk, without_cons_dropped hk, ih hrest]
        | false => rw [without_cons_kept hk, without_cons_kept hk, ih hrest]

/-- The members with their values changed one by one. -/
def mapValues (g : String → Value → Value) (ms : Members) : Members :=
  ms.map fun m => (m.1, g m.1 m.2)

variable {g : String → Value → Value}

theorem modify_mapValues (hg : ∀ o, f (o.map (g key)) = (f o).map (g key)) (ms : Members) :
    modify key f (ms.mapValues g) = (modify key f ms).map (mapValues g) := by
  induction ms with
  | nil =>
      have hnone : f none = (f none).map (g key) := hg none
      calc (f none).map (fun v => [(key, v)])
          = ((f none).map (g key)).map (fun v => [(key, v)]) := congrArg _ hnone
        _ = ((f none).map fun v => [(key, v)]).map (mapValues g) := by
            rw [Option.map_map, Option.map_map]
            rfl
  | cons m ms ih =>
      obtain ⟨k, v⟩ := m
      change modify key f ((k, g k v) :: mapValues g ms) = _
      by_cases hk : k = key
      · subst hk
        have hsome : f (some (g k v)) = (f (some v)).map (g k) := hg (some v)
        rw [modify, modify, if_pos rfl, if_pos rfl, hsome, Option.map_map, Option.map_map]
        rfl
      · rw [modify, modify, if_neg hk, if_neg hk, ih, Option.map_map, Option.map_map]
        rfl

/-- Values may be changed before or after: what a change makes of one that is
changed to the same is the same. -/
theorem mapValues_modify {w : Value} (h : modify key f ms = some ms')
    (hold : ms.get? key = some v) (hnew : f (some v) = some w) (hg : g key w = g key v) :
    ms'.mapValues g = ms.mapValues g := by
  induction ms generalizing ms' with
  | nil => cases hold
  | cons m ms ih =>
      obtain ⟨k, u⟩ := m
      rw [get?_cons] at hold
      rw [modify] at h
      split at h
      · rename_i hk
        rw [if_pos hk] at hold
        obtain rfl := Option.some.inj hold
        obtain ⟨w', hw', rfl⟩ := Option.map_eq_some_iff.mp h
        obtain rfl := Option.some.inj (hnew.symm.trans hw')
        subst hk
        exact congrArg (fun x => (k, x) :: mapValues g ms) hg
      · rename_i hk
        rw [if_neg hk] at hold
        obtain ⟨rest, hrest, rfl⟩ := Option.map_eq_some_iff.mp h
        exact congrArg ((k, g k u) :: ·) (ih hrest hold)

/-! ## Changes along a path -/

variable {dotted : Bool} {change : Origin → Members → Option Members} {path : List String}

/-- What becomes of a value when a path is followed into it. -/
def enter (dotted : Bool) (change : Origin → Members → Option Members) (path : List String) :
    Option Value → Option Value
  | none =>
    let origin := if dotted then Origin.dotted else .passing
    (within dotted change path origin []).map (.table origin)
  | some (.table origin inner) =>
    if origin = .closed ∨ (dotted = true ∧ origin = .header) then none
    else (within dotted change path origin inner).map (.table origin)
  | some (.tables latest earlier) =>
    (within dotted change path .header latest).map (Value.tables · earlier)
  | some _ => none

/-- What becomes of the value that an entry gives. -/
def given (v : Value) : Option Value → Option Value
  | none => some v
  | some _ => none

/-- What becomes of the table that a header opens. -/
def opened : Option Value → Option Value
  | none => some (.table .header [])
  | some (.table .passing ms) => some (.table .header ms)
  | some _ => none

/-- What becomes of the list of tables that a header extends. -/
def extended : Option Value → Option Value
  | none => some (.tables [] [])
  | some (.tables latest earlier) => some (.tables [] (latest :: earlier))
  | some _ => none

theorem addEntry_eq (path : List String) (key : String) (v : Value) :
    addEntry path key v = within true (fun origin inner =>
      if path.isEmpty || origin == .dotted then modify key (given v) inner else none) path .header :=
  rfl

theorem openTable_eq (path : List String) (key : String) :
    openTable path key = within false (fun _ => modify key opened) path .header :=
  rfl

theorem startTable_eq (path : List String) (key : String) :
    startTable path key = within false (fun _ => modify key extended) path .header :=
  rfl

end Members

end GraphCourier.Toml
