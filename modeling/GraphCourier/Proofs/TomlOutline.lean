import GraphCourier.Toml.Document
import GraphCourier.Proofs.TomlTables

/-!
# Documents path by path

Whether the statements of a document contradict each other is told by what stands at
which path (`Outline`), without any tables: a key must be new, a header may open a table
only once, and neither may pass what is closed (`Coherent`). What a change does to a
document is told in the same way, path by path (`Put`).
-/

namespace GraphCourier.Toml

/-! ## Statements -/

/-- The table that the entries after a statement belong to. -/
def next (here : List String) : Statement → List String
  | .table key | .element key => key.path ++ [key.last]
  | .entry _ _ => here

/-- The path to what a statement adds. -/
def place (here : List String) : Statement → List String
  | .table key | .element key => key.path ++ [key.last]
  | .entry key _ => here ++ (key.path ++ [key.last])

/-- What one statement does to a document. -/
def step (here : List String) : Statement → Members → Option Members
  | .table key => Members.openTable key.path key.last
  | .element key => Members.startTable key.path key.last
  | .entry key v => Members.within false
      (fun _ => Members.addEntry key.path key.last v) here .header

theorem addStatements_cons (here : List String) (st : Statement) (sts : List Statement)
    (ms : Members) :
    addStatements here (st :: sts) ms =
      (step here st ms).bind (addStatements (next here st) sts) := by
  cases st <;> rfl

/-! ## Outlines -/

/-- What can stand at a path. -/
inductive Kind where
  /-- A value, be it a table in braces: nothing can be added. -/
  | value
  /-- A table with its own header. -/
  | table
  /-- A table that headers of other tables passed. -/
  | passed
  /-- A table that dotted keys made. -/
  | dotted
  /-- A list of tables; what is below is in its latest one. -/
  | list
deriving DecidableEq, Repr

/-- What stands at each path of a document. -/
abbrev Outline := List String → Option Kind

/-- The front parts of a path, the path itself among them. -/
def fronts : List String → List (List String)
  | [] => [[]]
  | key :: path => [] :: (fronts path).map (key :: ·)

namespace Outline

def empty : Outline := fun q => if q = [] then some .table else none

/-- Something comes to stand at a path. On the way to it there is something `fresh`
where nothing was. -/
def put (o : Outline) (fresh : Kind) (p : List String) (kind : Kind) : Outline := fun q =>
  if q = p then some kind
  else if q.isPrefixOf p = true then some ((o q).getD fresh)
  else o q

/-- Nothing stands below a path any more. -/
def clear (o : Outline) (p : List String) : Outline := fun q =>
  if q = p then o q else if p.isPrefixOf q = true then none else o q

/-- A statement contradicts nothing. A header passes no values, and the table that it
opens is new or was only passed; a list that it extends is a list of tables. A key is new
in its table, passes neither values nor tables with a header, and adds to no table but
those that dotted keys made. -/
def Allows (o : Outline) (here : List String) : Statement → Prop
  | .table key => (∀ q ∈ fronts key.path, o q ≠ some .value)
      ∧ (o (key.path ++ [key.last]) = none ∨ o (key.path ++ [key.last]) = some .passed)
  | .element key => (∀ q ∈ fronts key.path, o q ≠ some .value)
      ∧ (o (key.path ++ [key.last]) = none ∨ o (key.path ++ [key.last]) = some .list)
  | .entry key _ =>
      (∀ q ∈ fronts key.path, q ≠ [] → o (here ++ q) ≠ some .value ∧ o (here ++ q) ≠ some .table)
        ∧ (key.path = [] ∨ o (here ++ key.path) = none ∨ o (here ++ key.path) = some .dotted)
        ∧ o (here ++ (key.path ++ [key.last])) = none

/-- What stands where after a statement. -/
def after (o : Outline) (here : List String) : Statement → Outline
  | .table key => o.put .passed (key.path ++ [key.last]) .table
  | .element key =>
    (o.put .passed (key.path ++ [key.last]) .list).clear (key.path ++ [key.last])
  | .entry key _ => o.put .dotted (here ++ (key.path ++ [key.last])) .value

instance (o : Outline) (here : List String) (st : Statement) : Decidable (o.Allows here st) :=
  match st with
  | .table _ => inferInstanceAs (Decidable (_ ∧ (_ ∨ _)))
  | .element _ => inferInstanceAs (Decidable (_ ∧ (_ ∨ _)))
  | .entry _ _ => inferInstanceAs (Decidable (_ ∧ (_ ∨ _ ∨ _) ∧ _))

/-- Statements contradict neither what is there nor each other. -/
def Coherent (o : Outline) (here : List String) : List Statement → Prop
  | [] => True
  | st :: sts => o.Allows here st ∧ Coherent (o.after here st) (next here st) sts

instance decidableCoherent (o : Outline) (here : List String) (sts : List Statement) :
    Decidable (o.Coherent here sts) :=
  match sts with
  | [] => .isTrue trivial
  | st :: sts =>
    have := decidableCoherent (o.after here st) (next here st) sts
    inferInstanceAs (Decidable (_ ∧ _))

end Outline

/-- Statements go together. -/
def Coherent (sts : List Statement) : Prop := Outline.empty.Coherent [] sts

instance (sts : List Statement) : Decidable (Coherent sts) :=
  inferInstanceAs (Decidable (Outline.Coherent ..))

/-! ## What stands at a path -/

def Value.kind : Value → Kind
  | .table .header _ => .table
  | .table .passing _ => .passed
  | .table .dotted _ => .dotted
  | .tables _ _ => .list
  | _ => .value

/-- The value of a key in a table that keys can be added to, or in the latest of a list. -/
def member? (key : String) : Option Value → Option Value
  | some (.table origin ms) => if origin = .closed then none else Members.get? key ms
  | some (.tables latest _) => Members.get? key latest
  | _ => none

/-- What stands at a path below a value. -/
def valueAt (o : Option Value) (path : List String) : Option Value :=
  path.foldl (fun o key => member? key o) o

/-- The kind of what stands at a path below a value. -/
def kindAt (o : Option Value) (path : List String) : Option Kind := (valueAt o path).map Value.kind

/-- The outline of a document. -/
def outline (ms : Members) : Outline := kindAt (some (.table .header ms))

section Paths

variable {o : Option Value} {p q r : List String} {key : String}

theorem valueAt_append : valueAt o (p ++ q) = valueAt (valueAt o p) q := List.foldl_append ..

theorem valueAt_concat : valueAt o (p ++ [key]) = member? key (valueAt o p) := valueAt_append

theorem kindAt_append : kindAt o (p ++ q) = kindAt (valueAt o p) q := by
  rw [kindAt, valueAt_append, kindAt]

theorem kindAt_none : kindAt none q = none := by
  induction q with
  | nil => rfl
  | cons key q ih => exact ih

/-- There is nothing below a value, nor where nothing is. -/
theorem kindAt_cons_of_closed (h : o.map Value.kind = none ∨ o.map Value.kind = some .value) :
    kindAt o (key :: q) = none := by
  have hmember : member? key o = none := by
    rcases o with _ | _ | _ | _ | _ | _ | _ | ⟨_ | _ | _ | _, _⟩ | _
    all_goals first | rfl | rcases h with h | h <;> cases h
  have hfold : kindAt o (key :: q) = kindAt (member? key o) q := rfl
  rw [hfold, hmember, kindAt_none]

theorem mem_fronts : q ∈ fronts p ↔ q <+: p := by
  induction p generalizing q with
  | nil => simp [fronts]
  | cons key p ih =>
      rw [fronts, List.mem_cons, List.mem_map, List.prefix_cons_iff]
      constructor
      · rintro (rfl | ⟨t, ht, rfl⟩)
        · exact .inl rfl
        · exact .inr ⟨t, rfl, ih.mp ht⟩
      · rintro (rfl | ⟨t, rfl, ht⟩)
        · exact .inl rfl
        · exact .inr ⟨t, ih.mpr ht, rfl⟩

/-- A front part of two paths in a row is one of the first, or the first and a front part
of the second. -/
theorem prefix_append_cases (h : q <+: p ++ r) : q <+: p ∨ ∃ s, q = p ++ s ∧ s <+: r := by
  rcases List.prefix_or_prefix_of_prefix h (List.prefix_append p r) with hq | ⟨s, rfl⟩
  · exact .inl hq
  · exact .inr ⟨s, rfl, (List.prefix_append_right_inj p).mp h⟩

end Paths

/-! ## What a change does at each path -/

/-- What there is fresh on the way to a change. -/
def fresh (dotted : Bool) : Kind := if dotted then .dotted else .passed

/-- Something is changed at a path and nothing apart from it. -/
structure Put (dotted : Bool) (o : Option Value) (p : List String) (w W : Value) : Prop where
  self : valueAt (some W) p = some w
  before : ∀ q, q <+: p → q ≠ p → kindAt (some W) q = some ((kindAt o q).getD (fresh dotted))
  apart : ∀ q, ¬q <+: p → ¬p <+: q → valueAt (some W) q = valueAt o q

section Changes

variable {dotted dotted' : Bool} {change : Origin → Members → Option Members}
  {o : Option Value} {p p' q : List String} {key : String} {f : Option Value → Option Value}
  {v w w' W : Value}

/-- A change in two parts. -/
theorem Put.trans (h : Put dotted o p w' W) (h' : Put dotted' (valueAt o p) p' w w')
    (hfresh : ∀ q, q <+: p → q ≠ p → kindAt o q = none → dotted = dotted') :
    Put dotted' o (p ++ p') w W where
  self := by rw [valueAt_append, h.self, h'.self]
  before := by
    intro q hq hne
    have hself : ∀ s, s <+: p' → s ≠ p' →
        kindAt (some W) (p ++ s) = some ((kindAt o (p ++ s)).getD (fresh dotted')) := by
      intro s hs hsne
      rw [kindAt_append, kindAt_append, h.self]
      exact h'.before s hs hsne
    rcases prefix_append_cases hq with hq | ⟨s, rfl, hs⟩
    · by_cases heq : q = p
      · subst heq
        have := hself [] List.nil_prefix fun hnil => hne (by rw [← hnil, List.append_nil])
        rwa [List.append_nil] at this
      · rw [h.before q hq heq]
        cases hkind : kindAt o q with
        | some kind => rfl
        | none => rw [hfresh q hq heq hkind]
    · exact hself s hs fun heq => hne (heq ▸ rfl)
  apart := by
    intro q hq hq'
    by_cases hp : p <+: q
    · obtain ⟨s, rfl⟩ := hp
      rw [valueAt_append, valueAt_append, h.self]
      refine h'.apart s (fun hs => hq ?_) fun hs => hq' ?_
      · exact (List.prefix_append_right_inj p).mpr hs
      · exact (List.prefix_append_right_inj p).mpr hs
    · exact h.apart q (fun hqp => hq (hqp.trans (List.prefix_append p p'))) hp

/-- A table can be entered along a path. -/
def Enterable (dotted : Bool) (kind : Option Kind) : Prop :=
  kind ≠ some .value ∧ (dotted = true → kind ≠ some .table)

/-- A change of one member of a table. -/
theorem enter_modify_member (hopen : Enterable dotted (o.map Value.kind))
    (hf : f (member? key o) = some w) :
    ∃ W, Members.enter dotted (fun _ => Members.modify key f) [] o = some W
      ∧ Put dotted o [key] w W := by
  -- what the table is before and after the change
  have hput : ∀ {inner ms : Members} {W : Value}, Members.modify key f inner = some ms →
      (∀ k, member? k o = inner.get? k) → (∀ k, member? k (some W) = ms.get? k) →
      W.kind = (o.map Value.kind).getD (fresh dotted) → Put dotted o [key] w W := by
    intro inner ms W hmodify hinner hms hkind
    obtain ⟨w₁, hw₁, hself⟩ := Members.get?_modify_self hmodify
    rw [← hinner, hf] at hw₁
    obtain rfl := Option.some.inj hw₁
    constructor
    · exact (hms key).trans hself
    · intro q hq hne
      rcases List.prefix_cons_iff.mp hq with rfl | ⟨t, rfl, ht⟩
      · exact congrArg some hkind
      · exact absurd (List.prefix_nil.mp ht ▸ rfl) hne
    · intro q hq hq'
      cases q with
      | nil => exact absurd List.nil_prefix hq
      | cons k q =>
          have hk : key ≠ k := by
            rintro rfl
            exact hq' (List.prefix_cons_inj _ |>.mpr List.nil_prefix)
          have hmember : member? k (some W) = member? k o := by
            rw [hms, hinner, Members.get?_modify_ne hmodify hk]
          exact congrArg (valueAt · q) hmember
  have hmodify : ∀ inner : Members, (∀ k, member? k o = inner.get? k) →
      ∃ ms, Members.modify key f inner = some ms := fun inner hinner =>
    Members.modify_of_get? (hinner key ▸ hf)
  rcases o with _ | v
  · obtain ⟨ms, hms⟩ := hmodify [] fun _ => rfl
    refine ⟨.table (if dotted then .dotted else .passing) ms, ?_, hput hms (fun _ => rfl) ?_ ?_⟩
    · exact congrArg (Option.map _) hms
    · cases dotted <;> exact fun _ => rfl
    · cases dotted <;> rfl
  cases v with
  | table origin inner =>
      have horigin : origin ≠ .closed := by
        rintro rfl
        exact hopen.1 rfl
      have hheader : ¬(origin = .closed ∨ dotted = true ∧ origin = .header) := by
        rintro (h | ⟨h, rfl⟩)
        · exact horigin h
        · exact hopen.2 h rfl
      obtain ⟨ms, hms⟩ := hmodify inner fun k => by rw [member?, if_neg horigin]
      refine ⟨.table origin ms, ?_, hput hms (fun k => ?_) (fun k => ?_) ?_⟩
      · rw [Members.enter, if_neg hheader]
        exact congrArg (Option.map _) hms
      · rw [member?, if_neg horigin]
      · rw [member?, if_neg horigin]
      · cases origin <;> rfl
  | tables latest earlier =>
      obtain ⟨ms, hms⟩ := hmodify latest fun _ => rfl
      exact ⟨.tables ms earlier, congrArg (Option.map _) hms,
        hput hms (fun _ => rfl) (fun _ => rfl) rfl⟩
  | _ => exact absurd rfl hopen.1

theorem enter_cons (dotted : Bool) (change : Origin → Members → Option Members) (key : String)
    (path : List String) (o : Option Value) :
    Members.enter dotted change (key :: path) o =
      Members.enter dotted (fun _ => Members.modify key (Members.enter dotted change path))
        [] o := by
  rcases o with _ | _ | _ | _ | _ | _ | _ | _ | _ <;> rfl

/-- A change of one member of the table at the end of a path. -/
theorem enter_modify (dotted : Bool) (change : Origin → Members → Option Members)
    (path : List String)
    (hopen : ∀ q, q <+: path → Enterable dotted (kindAt o q))
    (hchange : Members.enter dotted change [] (valueAt o path) =
      Members.enter dotted (fun _ => Members.modify key f) [] (valueAt o path))
    (hf : f (valueAt o (path ++ [key])) = some w) :
    ∃ W, Members.enter dotted change path o = some W ∧ Put dotted o (path ++ [key]) w W := by
  induction path generalizing o with
  | nil =>
      obtain ⟨W, hW, hput⟩ := enter_modify_member (hopen [] List.nil_prefix) hf
      exact ⟨W, hchange.trans hW, hput⟩
  | cons k path ih =>
      obtain ⟨w', hw', hput'⟩ := @ih (member? k o)
        (fun q hq => hopen (k :: q) ((List.prefix_cons_inj k).mpr hq)) hchange hf
      obtain ⟨W, hW, hput⟩ := enter_modify_member (hopen [] List.nil_prefix) hw'
      exact ⟨W, (enter_cons ..).trans hW, hput.trans hput' fun _ _ _ _ => rfl⟩

end Changes

end GraphCourier.Toml
