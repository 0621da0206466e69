import GraphCourier.Proofs.TomlOutline

/-!
# Which statements go together

A statement that contradicts nothing has its effect, and what then stands where is what
its outline says (`Outline.Allows.step`). One that has an effect contradicts nothing
(`allows_of_step`). So statements go together exactly if they make a document
(`coherent_iff`).
-/

namespace GraphCourier.Toml

/-! ## What a statement does at each path -/

/-- Nothing can be added to a value. -/
def Value.IsSealed (v : Value) : Prop := v.kind = .value

/-- The values that a statement gives are sealed. -/
def Statement.IsSealed : Statement → Prop
  | .entry _ v => v.IsSealed
  | _ => True

section Statements

variable {o : Outline} {here : List String} {st : Statement} {ms : Members}
  {root : Option Value} {p q r : List String} {w W : Value} {dotted : Bool} {kind : Kind}

theorem not_prefix_of_below (hq : p <+: q) (hne : q ≠ p) : ¬q <+: p := fun h =>
  hne (h.eq_of_length (Nat.le_antisymm h.length_le hq.length_le))

/-- What a change does to an outline but for what is below. -/
theorem Put.outline (h : Put dotted root p w W) (hkind : w.kind = kind)
    (hq : p <+: q → q = p) :
    kindAt (some W) q = Outline.put (kindAt root) (fresh dotted) p kind q := by
  rw [Outline.put]
  split
  · rename_i heq
    rw [heq, kindAt, h.self]
    exact congrArg some hkind
  · rename_i hne
    split
    · rename_i hprefix
      exact h.before q (List.isPrefixOf_iff_prefix.mp hprefix) hne
    · rename_i hprefix
      rw [kindAt, h.apart q (fun hq => hprefix (List.isPrefixOf_iff_prefix.mpr hq))
        fun hp => hne (hq hp)]
      rfl

theorem Put.outline_kept (h : Put dotted root p w W) (hkind : w.kind = kind)
    (hbelow : ∀ key r, kindAt (some w) (key :: r) = kindAt (valueAt root p) (key :: r)) :
    kindAt (some W) = Outline.put (kindAt root) (fresh dotted) p kind := by
  funext q
  by_cases hq : p <+: q ∧ q ≠ p
  · obtain ⟨⟨_ | ⟨key, r⟩, rfl⟩, hne⟩ := hq
    · exact absurd (List.append_nil p) hne
    · rw [Outline.put, if_neg hne, if_neg fun hprefix => not_prefix_of_below
        (List.prefix_append p _) hne (List.isPrefixOf_iff_prefix.mp hprefix), kindAt_append,
        kindAt_append, h.self]
      exact hbelow key r
  · exact h.outline hkind fun hp => Classical.not_not.mp fun hne => hq ⟨hp, hne⟩

theorem Put.outline_cleared (h : Put dotted root p w W) (hkind : w.kind = kind)
    (hbelow : ∀ key r, kindAt (some w) (key :: r) = none) :
    kindAt (some W) = (Outline.put (kindAt root) (fresh dotted) p kind).clear p := by
  funext q
  rw [Outline.clear]
  split
  · rename_i heq
    exact h.outline hkind fun _ => heq
  · rename_i hne
    split
    · rename_i hprefix
      obtain ⟨_ | ⟨key, r⟩, rfl⟩ := List.isPrefixOf_iff_prefix.mp hprefix
      · exact absurd (List.append_nil p) hne
      · rw [kindAt_append, h.self]
        exact hbelow key r
    · rename_i hprefix
      exact h.outline hkind fun hp => absurd (List.isPrefixOf_iff_prefix.mpr hp) hprefix

/-- Nothing fresh is needed where all is there. -/
theorem Put.refresh (h : Put dotted root p w W) (dotted' : Bool)
    (hall : ∀ q, q <+: p → q ≠ p → kindAt root q ≠ none) : Put dotted' root p w W where
  self := h.self
  before := by
    intro q hq hne
    rw [h.before q hq hne]
    obtain ⟨kind, hkind⟩ := Option.ne_none_iff_exists'.mp (hall q hq hne)
    rw [hkind]
    rfl
  apart := h.apart

/-- A header changes the table that it leads to. -/
theorem within_modify {f : Option Value → Option Value} {key : Key}
    (hopen : ∀ q ∈ fronts key.path, outline ms q ≠ some .value)
    (hf : f (valueAt (some (.table .header ms)) (key.path ++ [key.last])) = some w) :
    ∃ ms', Members.within false (fun _ => Members.modify key.last f) key.path .header ms = some ms'
      ∧ Put false (some (.table .header ms)) (key.path ++ [key.last]) w (.table .header ms') := by
  obtain ⟨W, hW, hput⟩ := enter_modify false (fun _ => Members.modify key.last f) key.path
    (fun q hq => ⟨hopen q (mem_fronts.mpr hq), nofun⟩) rfl hf
  obtain ⟨ms', hms', rfl⟩ := Option.map_eq_some_iff.mp hW
  exact ⟨ms', hms', hput⟩

theorem opened_of_kind (h : root.map Value.kind = none ∨ root.map Value.kind = some .passed) :
    ∃ w, Members.opened root = some w ∧ w.kind = .table
      ∧ ∀ key r, kindAt (some w) (key :: r) = kindAt root (key :: r) := by
  rcases root with _ | _ | _ | _ | _ | _ | _ | ⟨_ | _ | _ | _, inner⟩ | _
  case none => exact ⟨_, rfl, rfl, fun key r => rfl⟩
  case some.table.passing => exact ⟨_, rfl, rfl, fun key r => rfl⟩
  all_goals rcases h with h | h <;> cases h

theorem extended_of_kind (h : root.map Value.kind = none ∨ root.map Value.kind = some .list) :
    ∃ w, Members.extended root = some w ∧ w.kind = .list
      ∧ ∀ key r, kindAt (some w) (key :: r) = none := by
  have hempty : ∀ earlier key r, kindAt (some (.tables [] earlier)) (key :: r) = none :=
    fun earlier key r => kindAt_none
  rcases root with _ | _ | _ | _ | _ | _ | _ | ⟨_ | _ | _ | _, inner⟩ | ⟨latest, earlier⟩
  case none => exact ⟨_, rfl, rfl, hempty _⟩
  case some.tables => exact ⟨_, rfl, rfl, hempty _⟩
  all_goals rcases h with h | h <;> cases h

/-- The tables on the way to where entries are added are there. -/
def Reached (o : Outline) (here : List String) : Prop :=
  ∀ q, q <+: here → o q ≠ none ∧ o q ≠ some .value

theorem Reached.put (hopen : ∀ q, q <+: p → q ≠ p → o q ≠ some .value) (hkind : kind ≠ .value) :
    Reached (o.put .passed p kind) p := by
  intro q hq
  rw [Outline.put]
  by_cases heq : q = p
  · rw [if_pos heq]
    exact ⟨nofun, fun h => hkind (Option.some.inj h)⟩
  · rw [if_neg heq, if_pos (List.isPrefixOf_iff_prefix.mpr hq)]
    refine ⟨nofun, ?_⟩
    cases hkind' : o q with
    | none => decide
    | some kind' =>
        rintro h
        exact hopen q hq heq (hkind'.trans h)

theorem Reached.clear (h : Reached o p) : Reached (o.clear p) p := by
  intro q hq
  rw [Outline.clear]
  by_cases heq : q = p
  · rw [if_pos heq]
    exact h q hq
  · rw [if_neg heq, if_neg fun hprefix =>
      not_prefix_of_below (List.isPrefixOf_iff_prefix.mp hprefix) heq hq]
    exact h q hq

theorem Reached.put_below (h : Reached o here) (key : String) (path : List String) :
    Reached (o.put .dotted (here ++ (path ++ [key])) .value) here := by
  intro q hq
  have hne : q ≠ here ++ (path ++ [key]) := by
    rintro rfl
    have := hq.length_le
    simp only [List.length_append, List.length_cons, List.length_nil] at this
    omega
  have hprefix : q <+: here ++ (path ++ [key]) := hq.trans (List.prefix_append ..)
  rw [Outline.put, if_neg hne, if_pos (List.isPrefixOf_iff_prefix.mpr hprefix)]
  obtain ⟨hnone, hvalue⟩ := h q hq
  obtain ⟨kind, hkind⟩ := Option.ne_none_iff_exists'.mp hnone
  rw [hkind] at hvalue ⊢
  exact ⟨nofun, hvalue⟩

/-- A table that dotted keys made, or are about to make, is taken for one. -/
theorem enter_dotted {change change' : Origin → Members → Option Members}
    (h : root.map Value.kind = none ∨ root.map Value.kind = some .dotted)
    (hchange : change .dotted = change' .dotted) :
    Members.enter true change [] root = Members.enter true change' [] root := by
  rcases root with _ | _ | _ | _ | _ | _ | _ | ⟨_ | _ | _ | _, inner⟩ | _
  case none => exact congrArg (fun f => (f []).map (Value.table .dotted)) hchange
  case some.table.dotted => exact congrArg (fun f => (f inner).map (Value.table .dotted)) hchange
  all_goals rcases h with h | h <;> cases h

/-- A key that contradicts nothing is added. -/
theorem enter_entry {key : Key} {v : Value}
    (hall : ∀ q, q <+: here → kindAt root q ≠ none ∧ kindAt root q ≠ some .value)
    (hopen : ∀ q, q <+: key.path → q ≠ [] → Enterable true (kindAt root (here ++ q)))
    (hlast : key.path = [] ∨ kindAt root (here ++ key.path) = none
      ∨ kindAt root (here ++ key.path) = some .dotted)
    (hnone : valueAt root (here ++ (key.path ++ [key.last])) = none) :
    ∃ W, Members.enter false (fun _ => Members.addEntry key.path key.last v) here root = some W
      ∧ Put true root (here ++ (key.path ++ [key.last])) v W := by
  have henter : ∀ q, q <+: here → Enterable false (kindAt root q) := fun q hq =>
    ⟨(hall q hq).2, nofun⟩
  have hthere : ∀ k q, q <+: here ++ [k] → q ≠ here ++ [k] → kindAt root q ≠ none :=
    fun k q hq hne => (hall q ((List.prefix_concat_iff.mp hq).resolve_left hne)).1
  obtain ⟨path, last⟩ := key
  cases path with
  | nil =>
      have hf : Members.given v (valueAt root (here ++ [last])) = some v := by
        rw [List.nil_append] at hnone
        rw [hnone]
        rfl
      obtain ⟨W, hW, hput⟩ := enter_modify false (fun _ => Members.addEntry [] last v) here
        henter rfl hf
      exact ⟨W, hW, hput.refresh true (hthere last)⟩
  | cons k path =>
      -- the key's own path starts at its first part
      have hvalue : ∀ q,
          valueAt (valueAt root (here ++ [k])) q = valueAt root (here ++ k :: q) := by
        intro q
        rw [← valueAt_append, List.append_assoc]
        rfl
      have hkinds : ∀ q, kindAt (valueAt root (here ++ [k])) q = kindAt root (here ++ k :: q) :=
        fun q => congrArg (Option.map Value.kind) (hvalue q)
      let check := fun (origin : Origin) inner => if (k :: path).isEmpty || origin == .dotted then
        Members.modify last (Members.given v) inner else none
      have hcheck : Members.enter true check [] (valueAt (valueAt root (here ++ [k])) path) =
          Members.enter true (fun _ => Members.modify last (Members.given v)) []
            (valueAt (valueAt root (here ++ [k])) path) := by
        have hkind := hlast.resolve_left (List.cons_ne_nil k path)
        rw [← hkinds] at hkind
        exact enter_dotted hkind rfl
      have hf :
          Members.given v (valueAt (valueAt root (here ++ [k])) (path ++ [last])) = some v := by
        rw [hvalue]
        rw [List.cons_append] at hnone
        rw [hnone]
        rfl
      obtain ⟨W₁, hW₁, hput₁⟩ := enter_modify true check path (fun q hq => by
        rw [hkinds]
        exact hopen (k :: q) ((List.prefix_cons_inj k).mpr hq) (List.cons_ne_nil k q)) hcheck hf
      obtain ⟨W, hW, hput⟩ := enter_modify false (fun _ => Members.addEntry (k :: path) last v) here
        henter rfl hW₁
      have htotal := hput.trans hput₁ fun q hq hne hkind => absurd hkind (hthere k q hq hne)
      rw [List.append_assoc] at htotal
      exact ⟨W, hW, htotal⟩

/-- **A statement that contradicts nothing has its effect**, and what then stands where
is what its outline says. -/
theorem Outline.Allows.step (h : (outline ms).Allows here st) (hhere : Reached (outline ms) here)
    (hsealed : st.IsSealed) :
    ∃ ms', step here st ms = some ms' ∧ outline ms' = (outline ms).after here st
      ∧ Reached (outline ms') (next here st) := by
  have hstrict : ∀ {path : List String} {last q}, (∀ q ∈ fronts path, outline ms q ≠ some .value) →
      q <+: path ++ [last] → q ≠ path ++ [last] → outline ms q ≠ some .value :=
    fun hopen hq hne => hopen _ (mem_fronts.mpr ((List.prefix_concat_iff.mp hq).resolve_left hne))
  cases st with
  | table key =>
      obtain ⟨hopen, hkind⟩ := h
      obtain ⟨w, hw, htable, hbelow⟩ := opened_of_kind hkind
      obtain ⟨ms', hms', hput⟩ := within_modify hopen hw
      have houtline : outline ms' = (outline ms).after here (.table key) :=
        hput.outline_kept htable hbelow
      refine ⟨ms', hms', houtline, ?_⟩
      rw [houtline]
      exact Reached.put (fun q => hstrict hopen) (by decide)
  | element key =>
      obtain ⟨hopen, hkind⟩ := h
      obtain ⟨w, hw, hlist, hbelow⟩ := extended_of_kind hkind
      obtain ⟨ms', hms', hput⟩ := within_modify hopen hw
      have houtline : outline ms' = (outline ms).after here (.element key) :=
        hput.outline_cleared hlist hbelow
      refine ⟨ms', hms', houtline, ?_⟩
      rw [houtline]
      exact Reached.clear (Reached.put (fun q => hstrict hopen) (by decide))
  | entry key v =>
      obtain ⟨hopen, hlast, hnone⟩ := h
      have hfree : valueAt (some (.table .header ms)) (here ++ (key.path ++ [key.last])) = none :=
        Option.map_eq_none_iff.mp hnone
      obtain ⟨W, hW, hput⟩ := enter_entry (v := v) hhere
        (fun q hq hne => ⟨(hopen q (mem_fronts.mpr hq) hne).1,
          fun _ => (hopen q (mem_fronts.mpr hq) hne).2⟩) hlast hfree
      obtain ⟨ms', hms', rfl⟩ := Option.map_eq_some_iff.mp hW
      have houtline : outline ms' = (outline ms).after here (.entry key v) := by
        refine hput.outline_kept hsealed fun k r => ?_
        rw [hfree, kindAt_none]
        exact kindAt_cons_of_closed (.inr (congrArg some hsealed))
      refine ⟨ms', hms', houtline, ?_⟩
      rw [houtline]
      exact hhere.put_below key.last key.path

theorem Outline.Coherent.addStatements {sts : List Statement}
    (h : (outline ms).Coherent here sts) (hhere : Reached (outline ms) here)
    (hsealed : ∀ st ∈ sts, st.IsSealed) : ∃ ms', addStatements here sts ms = some ms' := by
  induction sts generalizing here ms with
  | nil => exact ⟨ms, rfl⟩
  | cons st sts ih =>
      obtain ⟨hallows, hlater⟩ := h
      obtain ⟨hst, hsts⟩ := List.forall_mem_cons.mp hsealed
      obtain ⟨ms₁, hms₁, houtline, hnext⟩ := hallows.step hhere hst
      obtain ⟨ms', hms'⟩ := ih (houtline ▸ hlater) hnext hsts
      refine ⟨ms', ?_⟩
      rw [addStatements_cons, hms₁]
      exact hms'

theorem outline_nil : outline [] = Outline.empty := by
  funext q
  cases q with
  | nil => rfl
  | cons key q => exact kindAt_none

theorem reached_nil : Reached (outline []) [] := by
  intro q hq
  rw [List.prefix_nil.mp hq]
  exact ⟨nofun, nofun⟩

/-- **Statements that go together make a document.** -/
theorem Coherent.addStatements {sts : List Statement} (h : Coherent sts)
    (hsealed : ∀ st ∈ sts, st.IsSealed) : ∃ ms, addStatements [] sts [] = some ms :=
  Outline.Coherent.addStatements (outline_nil.symm ▸ h) reached_nil hsealed

/-- Headers of different tables go together. -/
theorem Outline.coherent_headers {tables : List String} (hnodup : tables.Nodup)
    (hroot : o [] ≠ some .value) (hnew : ∀ t ∈ tables, o [t] = none) :
    o.Coherent here (tables.map fun t => .table ⟨[], t⟩) := by
  induction tables generalizing here o with
  | nil => trivial
  | cons t tables ih =>
      obtain ⟨hnotMem, hnodup⟩ := List.nodup_cons.mp hnodup
      obtain ⟨ht, htables⟩ := List.forall_mem_cons.mp hnew
      have hput : ∀ q, q ≠ [t] → ¬q.isPrefixOf [t] = true → o.put .passed [t] .table q = o q :=
        fun q hne hapart => (if_neg hne).trans (if_neg hapart)
      refine ⟨⟨List.forall_mem_singleton.mpr hroot, .inl ht⟩, ih hnodup ?_ fun t' ht' => ?_⟩
      · have hpassed : ∀ q, q <+: [t] → q ≠ [t] → o q ≠ some .value := fun q hq hne => by
          rwa [List.prefix_nil.mp ((List.prefix_concat_iff.mp hq).resolve_left hne)]
        exact (Reached.put hpassed (by decide) [] List.nil_prefix).2
      · have hne : [t'] ≠ [t] := fun heq => hnotMem ((List.cons.inj heq).1 ▸ ht')
        refine (hput [t'] hne fun hprefix => hne ?_).trans (htables t' ht')
        exact (List.isPrefixOf_iff_prefix.mp hprefix).eq_of_length rfl

theorem coherent_headers {tables : List String} (hnodup : tables.Nodup) :
    Coherent (tables.map fun t => .table ⟨[], t⟩) :=
  Outline.coherent_headers hnodup nofun fun _ _ => rfl

end Statements

/-! ## What stands in the way -/

section Contradictions

variable {dotted : Bool} {change : Origin → Members → Option Members} {o : Option Value}
  {path here : List String} {key : String} {f : Option Value → Option Value} {v w W : Value}
  {st : Statement} {ms ms' : Members}

theorem enterable_of_enter (h : Members.enter dotted change path o = some W) :
    Enterable dotted (o.map Value.kind) := by
  rcases o with _ | _ | _ | _ | _ | _ | _ | ⟨origin, inner⟩ | ⟨latest, earlier⟩
  case none => simp [Enterable]
  case some.tables => simp [Enterable, Value.kind]
  case some.table =>
    rw [Members.enter] at h
    split at h
    · cases h
    · rename_i hopen
      rw [not_or, not_and] at hopen
      cases origin with
      | closed => exact absurd rfl hopen.1
      | header => simpa [Enterable, Value.kind] using hopen.2
      | passing | dotted => simp [Enterable, Value.kind]
  all_goals cases h

/-- Where a member is changed, it can be. -/
theorem change_of_enter
    (h : Members.enter dotted (fun _ => Members.modify key f) [] o = some W) :
    ∃ w, f (member? key o) = some w := by
  have hchanged : ∀ {inner ms}, Members.modify key f inner = some ms →
      ∃ w, f (inner.get? key) = some w := fun hmodify =>
    (Members.get?_modify_self hmodify).imp fun _ => And.left
  rcases o with _ | _ | _ | _ | _ | _ | _ | ⟨origin, inner⟩ | ⟨latest, earlier⟩
  case none =>
    obtain ⟨ms, hms, -⟩ := Option.map_eq_some_iff.mp h
    exact hchanged hms
  case some.tables =>
    obtain ⟨ms, hms, -⟩ := Option.map_eq_some_iff.mp h
    exact hchanged hms
  case some.table =>
    rw [Members.enter] at h
    split at h
    · cases h
    · rename_i hopen
      obtain ⟨ms, hms, -⟩ := Option.map_eq_some_iff.mp h
      rw [member?, if_neg fun horigin => hopen (.inl horigin)]
      exact hchanged hms
  all_goals cases h

/-- A path that is followed leads through tables that can be entered. -/
theorem enter_inv (h : Members.enter dotted change path o = some W) :
    (∀ q, q <+: path → Enterable dotted (kindAt o q))
      ∧ ∃ w, Members.enter dotted change [] (valueAt o path) = some w := by
  induction path generalizing o W with
  | nil =>
      refine ⟨fun q hq => ?_, W, h⟩
      rw [List.prefix_nil.mp hq]
      exact enterable_of_enter h
  | cons k path ih =>
      rw [enter_cons] at h
      obtain ⟨w, hw⟩ := change_of_enter h
      obtain ⟨hopen, hlast⟩ := ih hw
      refine ⟨fun q hq => ?_, hlast⟩
      rcases List.prefix_cons_iff.mp hq with rfl | ⟨t, rfl, ht⟩
      · exact enterable_of_enter h
      · exact hopen t ht

theorem kind_of_opened (h : Members.opened o = some w) :
    o.map Value.kind = none ∨ o.map Value.kind = some .passed := by
  rcases o with _ | _ | _ | _ | _ | _ | _ | ⟨_ | _ | _ | _, inner⟩ | _
  case none => exact .inl rfl
  case some.table.passing => exact .inr rfl
  all_goals cases h

theorem kind_of_extended (h : Members.extended o = some w) :
    o.map Value.kind = none ∨ o.map Value.kind = some .list := by
  rcases o with _ | _ | _ | _ | _ | _ | _ | _ | ⟨latest, earlier⟩
  case none => exact .inl rfl
  case some.tables => exact .inr rfl
  all_goals cases h

theorem none_of_given (h : Members.given v o = some w) : o = none := by
  cases o with
  | none => rfl
  | some _ => cases h

/-- A dotted key ends in a table that dotted keys made. -/
theorem kind_of_entry (key : Key) (hpath : key.path ≠ [])
    (h : Members.enter true (fun origin inner => if key.path.isEmpty || origin == .dotted then
      Members.modify key.last (Members.given v) inner else none) [] o = some W) :
    (o.map Value.kind = none ∨ o.map Value.kind = some .dotted) ∧ member? key.last o = none := by
  have hempty : key.path.isEmpty = false := List.isEmpty_eq_false_iff.mpr hpath
  have hkind : o.map Value.kind = none ∨ o.map Value.kind = some .dotted := by
    simp only [hempty, Bool.false_or] at h
    rcases o with _ | _ | _ | _ | _ | _ | _ | ⟨_ | _ | _ | _, inner⟩ | _
    case none => exact .inl rfl
    case some.table.dotted => exact .inr rfl
    all_goals cases h
  have hmodify : Members.enter true (fun _ => Members.modify key.last (Members.given v)) [] o =
      some W := (enter_dotted hkind (funext fun inner => (if_pos (by simp)).symm)).trans h
  obtain ⟨w, hw⟩ := change_of_enter hmodify
  exact ⟨hkind, none_of_given hw⟩

/-- **A statement that has an effect contradicts nothing.** -/
theorem allows_of_step (h : step here st ms = some ms') : (outline ms).Allows here st := by
  cases st with
  | table key =>
      have henter : Members.enter false (fun _ => Members.modify key.last Members.opened) key.path
          (some (.table .header ms)) = some (.table .header ms') :=
        congrArg (Option.map (Value.table .header)) h
      obtain ⟨hopen, w, hw⟩ := enter_inv henter
      obtain ⟨w', hw'⟩ := change_of_enter hw
      have hkind := kind_of_opened hw'
      rw [← valueAt_concat] at hkind
      exact ⟨fun q hq => (hopen q (mem_fronts.mp hq)).1, hkind⟩
  | element key =>
      have henter : Members.enter false (fun _ => Members.modify key.last Members.extended) key.path
          (some (.table .header ms)) = some (.table .header ms') :=
        congrArg (Option.map (Value.table .header)) h
      obtain ⟨hopen, w, hw⟩ := enter_inv henter
      obtain ⟨w', hw'⟩ := change_of_enter hw
      have hkind := kind_of_extended hw'
      rw [← valueAt_concat] at hkind
      exact ⟨fun q hq => (hopen q (mem_fronts.mp hq)).1, hkind⟩
  | entry key v =>
      have henter : Members.enter false (fun _ => Members.addEntry key.path key.last v) here
          (some (.table .header ms)) = some (.table .header ms') :=
        congrArg (Option.map (Value.table .header)) h
      obtain ⟨-, w, hw⟩ := enter_inv henter
      obtain ⟨path, last⟩ := key
      cases path with
      | nil =>
          have hmodify : Members.enter false (fun _ => Members.modify last (Members.given v)) []
              (valueAt (some (.table .header ms)) here) = some w := hw
          obtain ⟨w', hw'⟩ := change_of_enter hmodify
          have hnone := none_of_given hw'
          rw [← valueAt_concat] at hnone
          refine ⟨fun q hq hne => ?_, .inl rfl, Option.map_eq_none_iff.mpr hnone⟩
          exact absurd (List.mem_singleton.mp hq) hne
      | cons k path =>
          -- the key's own path starts at its first part
          have hkinds : ∀ q, kindAt (valueAt (some (.table .header ms)) (here ++ [k])) q =
              outline ms (here ++ k :: q) := by
            intro q
            rw [← kindAt_append, List.append_assoc]
            rfl
          have hmodify : Members.enter false (fun _ => Members.modify k (Members.enter true
              (fun origin inner => if (k :: path).isEmpty || origin == .dotted then
                Members.modify last (Members.given v) inner else none) path)) []
              (valueAt (some (.table .header ms)) here) = some w := hw
          obtain ⟨w₁, hw₁⟩ := change_of_enter hmodify
          rw [← valueAt_concat] at hw₁
          obtain ⟨hopen, w₂, hw₂⟩ := enter_inv hw₁
          obtain ⟨hkind, hnone⟩ := kind_of_entry ⟨k :: path, last⟩ (List.cons_ne_nil k path) hw₂
          refine ⟨fun q hq hne => ?_, .inr ?_, ?_⟩
          · cases q with
            | nil => exact absurd rfl hne
            | cons k' q =>
                obtain ⟨rfl, hprefix⟩ := List.cons_prefix_cons.mp (mem_fronts.mp hq)
                rw [← hkinds]
                exact ⟨(hopen q hprefix).1, (hopen q hprefix).2 rfl⟩
          · rw [← hkinds]
            exact hkind
          · rw [List.cons_append, ← hkinds, kindAt, valueAt_concat, hnone]
            rfl

/-- Statements that make a document contradict neither what is there nor each other. -/
theorem coherent_of_addStatements {sts : List Statement}
    (h : addStatements here sts ms = some ms') (hhere : Reached (outline ms) here)
    (hsealed : ∀ st ∈ sts, st.IsSealed) : (outline ms).Coherent here sts := by
  induction sts generalizing here ms with
  | nil => trivial
  | cons st sts ih =>
      obtain ⟨hst, hsts⟩ := List.forall_mem_cons.mp hsealed
      rw [addStatements_cons] at h
      obtain ⟨ms₁, hms₁, hlater⟩ := Option.bind_eq_some_iff.mp h
      have hallows := allows_of_step hms₁
      obtain ⟨ms₂, hms₂, houtline, hnext⟩ := hallows.step hhere hst
      obtain rfl := Option.some.inj (hms₁.symm.trans hms₂)
      exact ⟨hallows, houtline ▸ ih hlater hnext hsts⟩

/-- **Statements go together if they make a document**, and only then. -/
theorem coherent_iff {sts : List Statement} (hsealed : ∀ st ∈ sts, st.IsSealed) :
    Coherent sts ↔ ∃ ms, addStatements [] sts [] = some ms := by
  constructor
  · exact fun h => h.addStatements hsealed
  · rintro ⟨ms, hms⟩
    have h := coherent_of_addStatements hms reached_nil hsealed
    rwa [outline_nil] at h

end Contradictions
end GraphCourier.Toml
