import GraphCourier.Proofs.Assembly
import GraphCourier.Proofs.Precedence
import GraphCourier.Proofs.TomlText

/-!
# Settings that are written are read

A settings file is made of lines, and some of them give settings. If these stand in their
tables, each at most once, and the other lines go together without them, then the file
says what its settings are (`layer?_parts`), in whichever order they come and whatever
else is written. A setting with a value that it cannot have spoils the whole file
(`loadSettings_written`).
-/

namespace GraphCourier

/-! ## Layers and settings -/

/-- A setting and what it is set to. -/
inductive Setting where
  | scheme (s : String)
  | host (s : String)
  | port (p : UInt16)
  | apiPrefix (s : String)
  | nodes (n : NodeId)
  | policy (p : FailurePolicy)
  | logLevel (s : String)

def Layer.set (l : Layer) : Setting → Layer
  | .scheme s => { l with scheme := some s }
  | .host s => { l with host := some s }
  | .port p => { l with port := some p }
  | .apiPrefix s => { l with apiPrefix := some s }
  | .nodes n => { l with nodes := some n }
  | .policy p => { l with policy := some p }
  | .logLevel s => { l with logLevel := some s }

/-- The layer in which some settings are there, and no others. -/
def Layer.ofSettings (xs : List Setting) : Layer := xs.foldr (fun x l => l.set x) .empty

namespace Setting

open SettingsFile (Field)

def field : Setting → Field
  | scheme _ => .scheme
  | host _ => .host
  | port _ => .port
  | apiPrefix _ => .apiPrefix
  | nodes _ => .nodes
  | policy _ => .policy
  | logLevel _ => .logLevel

/-- The value that a settings file gives for a setting. -/
def value : Setting → Toml.Value
  | scheme s | host s | apiPrefix s | logLevel s => .text s
  | port p => .integer p.toNat
  | nodes n => .integer n.toNat
  | policy p => .text p.text

/-- The usual text of that value. -/
def text : Setting → List Char
  | scheme s | host s | apiPrefix s | logLevel s => Toml.quoted s
  | port p => Decimal.digits p.toNat
  | nodes n => Decimal.digits n.toNat
  | policy p => Toml.quoted p.text

theorem valueText (x : Setting) : Toml.ValueText Toml.maxDepth x.value x.text := by
  have hquoted : ∀ s : String, Toml.PlainText (.text s) (Toml.quoted s) := Toml.plainText_quoted
  refine Toml.PlainText.valueText ?_ _
  cases x with
  | port p => exact Toml.plainText_digits p.toNat
  | nodes n => exact Toml.plainText_digits n.toNat
  | policy p => exact hquoted p.text
  | scheme s | host s | apiPrefix s | logLevel s => exact hquoted s

/-- A value says what a setting is. A policy may also be the only key of a table, with
nothing in it. -/
inductive Says : Setting → Toml.Value → Prop where
  | plain (x : Setting) : Says x x.value
  | key (p : FailurePolicy) (origin : Toml.Origin) {w : Toml.Value}
      (hw : w = .list [] ∨ ∃ o, w = .table o []) : Says (.policy p) (.table origin [(p.text, w)])

theorem says_policy_iff {p : FailurePolicy} {v : Toml.Value} :
    Says (.policy p) v ↔ v = .text p.text
      ∨ ∃ origin w, v = .table origin [(p.text, w)] ∧ (w = .list [] ∨ ∃ o, w = .table o []) := by
  constructor
  · intro h
    cases h with
    | plain => exact .inl rfl
    | key p origin hw => exact .inr ⟨origin, _, rfl, hw⟩
  · rintro (rfl | ⟨origin, w, rfl, hw⟩)
    · exact .plain (.policy p)
    · exact .key p origin hw

/-- Only a policy has another value than its own. -/
theorem Says.value_eq {x : Setting} {v : Toml.Value} (h : x.Says v) (hx : ∀ p, x ≠ .policy p) :
    v = x.value := by
  cases h with
  | plain => rfl
  | key p => exact absurd rfl (hx p)

end Setting

namespace SettingsFile

open Toml (Members Statement Value)

/-- What a value says about a setting, which need not be there. -/
def optional? {α : Type} (read? : Value → Option α) : Option Value → Option (Option α)
  | some v => (read? v).map some
  | none => some none

/-- The layer that values for settings make up. -/
def layerOf? (find : Field → Option Value) : Option Layer := do
  let scheme ← optional? text? (find .scheme)
  let host ← optional? text? (find .host)
  let port ← optional? port? (find .port)
  let apiPrefix ← optional? text? (find .apiPrefix)
  let nodes ← optional? nodes? (find .nodes)
  let policy ← optional? policy? (find .policy)
  let logLevel ← optional? text? (find .logLevel)
  return ⟨scheme, host, port, apiPrefix, nodes, policy, logLevel⟩

theorem Group.find?_named {α : Type} (ms : Members) (index : Nat) (name : String)
    (read? : Value → Option α) :
    (Group.named ms).find? index name read? = optional? read? (ms.get? name) := by
  unfold find? optional?
  rfl

/-- A group of settings is a table, be it an empty one. -/
theorem Tabular.group {o : Option Value} (h : Tabular o) :
    ∃ g inner, optional? Group.ofValue? o = some g ∧ g.getD (.named []) = .named inner
      ∧ ∀ key, setting? key o = Members.get? key inner := by
  cases o with
  | none => exact ⟨none, [], rfl, rfl, fun key => rfl⟩
  | some v =>
      cases v with
      | table origin inner => exact ⟨some (.named inner), inner, rfl, rfl, fun key => rfl⟩
      | _ => exact h.elim

/-- What a document says depends on the values of its settings. -/
theorem layer?_eq {s : String} {ms : Members} (hparse : Toml.parse s = some ms)
    (hgrouped : Grouped ms) : layer? s = layerOf? fun f => f.find? ms := by
  obtain ⟨g, inner, hg, hinner, hendpoint⟩ := (hgrouped .scheme).group
  obtain ⟨g', inner', hg', hinner', hdriver⟩ := (hgrouped .nodes).group
  simp only [Field.table] at hg hg' hendpoint hdriver
  simp only [layer?, layerOf?, hparse, Group.find?_named, Option.bind_eq_bind, Option.bind_some,
    hg, hg', hinner, hinner', Field.find?, Field.table, Field.key, hendpoint, hdriver]

/-- A value can be that of a setting. -/
def Field.Accepts (f : Field) (v : Value) : Prop := ∃ x : Setting, x.field = f ∧ x.Says v

section Reading

variable {v : Value} {find find' : Field → Option Value} {l : Layer}

theorem text?_eq_some {s : String} : text? v = some s ↔ v = .text s := by
  cases v <;> simp [text?]

theorem natural?_eq_some {bound n : Nat} :
    natural? bound v = some n ↔ v = .integer n ∧ n < bound := by
  cases v with
  | integer m =>
      simp only [natural?, Value.integer.injEq]
      constructor
      · intro h
        split at h
        · rename_i hm
          obtain rfl := Option.some.inj h
          exact ⟨(Int.toNat_of_nonneg hm.1).symm, hm.2⟩
        · cases h
      · rintro ⟨rfl, hn⟩
        exact if_pos ⟨Int.natCast_nonneg n, hn⟩
  | _ => simp [natural?]

theorem port?_eq_some {p : UInt16} : port? v = some p ↔ v = .integer p.toNat := by
  rw [port?, Option.map_eq_some_iff]
  constructor
  · rintro ⟨n, hn, rfl⟩
    obtain ⟨rfl, hlt⟩ := natural?_eq_some.mp hn
    rw [UInt16.toNat_ofNat_of_lt' hlt]
  · rintro rfl
    exact ⟨p.toNat, natural?_eq_some.mpr ⟨rfl, p.toNat_lt⟩, UInt16.ofNat_toNat⟩

theorem nodes?_eq_some {n : NodeId} : nodes? v = some n ↔ v = .integer n.toNat := by
  rw [nodes?, Option.map_eq_some_iff]
  constructor
  · rintro ⟨m, hm, rfl⟩
    obtain ⟨rfl, hlt⟩ := natural?_eq_some.mp hm
    rw [UInt64.toNat_ofNat_of_lt' hlt]
  · rintro rfl
    exact ⟨n.toNat, natural?_eq_some.mpr ⟨rfl, n.toNat_lt⟩, UInt64.ofNat_toNat⟩

theorem isEmpty_iff : isEmpty v = true ↔ v = .list [] ∨ ∃ origin, v = .table origin [] := by
  unfold isEmpty
  split <;> simp_all

theorem policy?_eq_some {p : FailurePolicy} :
    policy? v = some p ↔ Setting.Says (.policy p) v := by
  rw [Setting.says_policy_iff]
  constructor
  · intro h
    unfold policy? at h
    split at h
    · rw [FailurePolicy.ofDocumentName?_eq] at h
      exact .inl (congrArg Value.text (FailurePolicy.ofText?_eq_some.mp h))
    · rename_i origin name w
      split at h
      · rename_i hempty
        rw [FailurePolicy.ofDocumentName?_eq] at h
        rw [FailurePolicy.ofText?_eq_some.mp h]
        exact .inr ⟨origin, w, rfl, isEmpty_iff.mp hempty⟩
      · cases h
    · cases h
  · rintro (rfl | ⟨origin, w, rfl, hw⟩)
    · rw [policy?, FailurePolicy.ofDocumentName?_eq]
      exact FailurePolicy.ofText?_text p
    · rw [policy?, if_pos (isEmpty_iff.mpr hw), FailurePolicy.ofDocumentName?_eq]
      exact FailurePolicy.ofText?_text p

theorem optional?_of_some {α : Type} {read? : Value → Option α} {o : Option Value} {x : Option α}
    (h : optional? read? o = some x) (hv : o = some v) : ∃ y, read? v = some y := by
  subst hv
  obtain ⟨y, hy, -⟩ := Option.map_eq_some_iff.mp h
  exact ⟨y, hy⟩

theorem layerOf?_eq_some :
    layerOf? find = some l ↔
      optional? text? (find .scheme) = some l.scheme ∧ optional? text? (find .host) = some l.host
        ∧ optional? port? (find .port) = some l.port
        ∧ optional? text? (find .apiPrefix) = some l.apiPrefix
        ∧ optional? nodes? (find .nodes) = some l.nodes
        ∧ optional? policy? (find .policy) = some l.policy
        ∧ optional? text? (find .logLevel) = some l.logLevel := by
  simp only [layerOf?, Option.bind_eq_bind, Option.bind_eq_some_iff]
  constructor
  · rintro ⟨_, h₁, _, h₂, _, h₃, _, h₄, _, h₅, _, h₆, _, h₇, h⟩
    cases h
    exact ⟨h₁, h₂, h₃, h₄, h₅, h₆, h₇⟩
  · rintro ⟨h₁, h₂, h₃, h₄, h₅, h₆, h₇⟩
    exact ⟨_, h₁, _, h₂, _, h₃, _, h₄, _, h₅, _, h₆, _, h₇, rfl⟩

/-- A file is read only if each setting in it has a value that it can have. -/
theorem accepts_of_layerOf? (h : layerOf? find = some l) {f : Field} (hv : find f = some v) :
    f.Accepts v := by
  obtain ⟨h₁, h₂, h₃, h₄, h₅, h₆, h₇⟩ := layerOf?_eq_some.mp h
  cases f with
  | scheme =>
      obtain ⟨s, hs⟩ := optional?_of_some h₁ hv
      exact ⟨.scheme s, rfl, text?_eq_some.mp hs ▸ .plain (.scheme s)⟩
  | host =>
      obtain ⟨s, hs⟩ := optional?_of_some h₂ hv
      exact ⟨.host s, rfl, text?_eq_some.mp hs ▸ .plain (.host s)⟩
  | port =>
      obtain ⟨p, hp⟩ := optional?_of_some h₃ hv
      exact ⟨.port p, rfl, port?_eq_some.mp hp ▸ .plain (.port p)⟩
  | apiPrefix =>
      obtain ⟨s, hs⟩ := optional?_of_some h₄ hv
      exact ⟨.apiPrefix s, rfl, text?_eq_some.mp hs ▸ .plain (.apiPrefix s)⟩
  | nodes =>
      obtain ⟨n, hn⟩ := optional?_of_some h₅ hv
      exact ⟨.nodes n, rfl, nodes?_eq_some.mp hn ▸ .plain (.nodes n)⟩
  | policy =>
      obtain ⟨p, hp⟩ := optional?_of_some h₆ hv
      exact ⟨.policy p, rfl, policy?_eq_some.mp hp⟩
  | logLevel =>
      obtain ⟨s, hs⟩ := optional?_of_some h₇ hv
      exact ⟨.logLevel s, rfl, text?_eq_some.mp hs ▸ .plain (.logLevel s)⟩

theorem exists_optional? {α : Type} {read? : Value → Option α} {f : Field}
    (h : ∀ v, find f = some v → f.Accepts v)
    (hread : ∀ x v, x.field = f → Setting.Says x v → ∃ y, read? v = some y) :
    ∃ y, optional? read? (find f) = some y := by
  cases hfind : find f with
  | none => exact ⟨none, rfl⟩
  | some v =>
      obtain ⟨x, hx, hmeans⟩ := h v hfind
      obtain ⟨y, hy⟩ := hread x v hx hmeans
      exact ⟨some y, by rw [optional?, hy, Option.map_some]⟩

/-- A file is read if each setting in it has a value that it can have. -/
theorem exists_layerOf? (h : ∀ f v, find f = some v → f.Accepts v) :
    ∃ l, layerOf? find = some l := by
  have htext : ∀ f : Field,
      (∀ x : Setting, x.field = f → ∃ s, x.value = .text s ∧ ∀ p, x ≠ .policy p) →
      ∃ y, optional? text? (find f) = some y := by
    refine fun f hf => exists_optional? (h f) fun x v hx hmeans => ?_
    obtain ⟨s, hs, hpolicy⟩ := hf x hx
    exact ⟨s, text?_eq_some.mpr ((hmeans.value_eq hpolicy).trans hs)⟩
  obtain ⟨scheme, h₁⟩ := htext .scheme fun x hx => by
    cases x <;> cases hx
    exact ⟨_, rfl, nofun⟩
  obtain ⟨host, h₂⟩ := htext .host fun x hx => by
    cases x <;> cases hx
    exact ⟨_, rfl, nofun⟩
  obtain ⟨port, h₃⟩ := exists_optional? (h .port) fun x v hx hmeans => by
    cases x <;> cases hx
    exact ⟨_, port?_eq_some.mpr (hmeans.value_eq nofun)⟩
  obtain ⟨apiPrefix, h₄⟩ := htext .apiPrefix fun x hx => by
    cases x <;> cases hx
    exact ⟨_, rfl, nofun⟩
  obtain ⟨nodes, h₅⟩ := exists_optional? (h .nodes) fun x v hx hmeans => by
    cases x <;> cases hx
    exact ⟨_, nodes?_eq_some.mpr (hmeans.value_eq nofun)⟩
  obtain ⟨policy, h₆⟩ := exists_optional? (h .policy) fun x v hx hmeans => by
    cases x <;> cases hx
    exact ⟨_, policy?_eq_some.mpr hmeans⟩
  obtain ⟨logLevel, h₇⟩ := htext .logLevel fun x hx => by
    cases x <;> cases hx
    exact ⟨_, rfl, nofun⟩
  exact ⟨⟨scheme, host, port, apiPrefix, nodes, policy, logLevel⟩,
    layerOf?_eq_some.mpr ⟨h₁, h₂, h₃, h₄, h₅, h₆, h₇⟩⟩

end Reading

/-! ## Parts of a file -/

/-- A line of a settings file: that of a setting, or any other. -/
inductive Part where
  | setting (f : Field) (v : Value) (text : List Char)
  | other (statements : List Statement) (text : List Char)

namespace Part

def text : Part → List Char
  | setting _ _ text => text
  | other _ text => text

def items : Part → List Item
  | setting f v _ => [.field f v]
  | other statements _ => statements.map .other

def given? : Part → Option (Field × Value)
  | setting f v _ => some (f, v)
  | other _ _ => none

/-- The text of a part is the line of what the part is taken for. -/
def IsLine (last : Bool) (p : Part) : Prop :=
  Toml.LineText last (p.items.map Item.statement) p.text

/-- The header of a table. -/
def header (table : String) : Part := .other [.table ⟨[], table⟩] (Toml.headerText table)

theorem isLine_header {table : String} (h : Toml.BareKey table.toList) (last : Bool) :
    (header table).IsLine last :=
  Toml.lineText_header h last

theorem isLine_setting {f : Field} {v : Value} {last : Bool} {t e : List Char}
    (hv : Toml.ValueText Toml.maxDepth v t) (he : Toml.Closing last e) :
    (setting f v (Toml.entryText f.key t e)).IsLine last :=
  have hkey : Toml.BareKey f.key.toList := by
    cases f <;> exact ⟨by simp [Field.key], List.all_eq_true.mp rfl⟩
  Toml.lineText_entry hkey hv he

end Part

/-- Each part is a line. Only the last one may go without a line break. -/
def Lines : List Part → Prop
  | [] => True
  | p :: parts => p.IsLine parts.isEmpty ∧ Lines parts

def fileText (parts : List Part) : String := String.ofList (parts.flatMap Part.text)

/-- The settings that a file gives, and their values. -/
def given (parts : List Part) : List (Field × Value) := parts.filterMap Part.given?

/-- The statements of a file that give no settings. -/
def others (parts : List Part) : List Statement :=
  (parts.flatMap Part.items).filterMap Item.foreign?

/-- A settings file: lines, the settings in their tables and none given twice. What else
there is may be anything that goes together by itself and keeps away from the settings. -/
structure WellFormed (parts : List Part) : Prop where
  lines : Lines parts
  placed : Placed [] (parts.flatMap Part.items)
  once : ((given parts).map Prod.fst).Nodup
  coherent : Toml.Coherent (others parts)

/-- Lines are read one by one. -/
theorem Lines.reads {parts : List Part} (h : Lines parts) :
    Toml.readStatements (parts.flatMap Part.text) =
      some ((parts.flatMap Part.items).map Item.statement) := by
  induction parts with
  | nil => exact Toml.readStatements_of_filler rfl
  | cons p parts ih =>
      obtain ⟨hp, hlater⟩ := h
      have hrest : parts.isEmpty = true → parts.flatMap Part.text = [] := fun hnil => by
        rw [List.isEmpty_iff.mp hnil]
        rfl
      rw [List.flatMap_cons, Toml.LineText.reads hp hrest, ih hlater,
        List.flatMap_cons (f := Part.items), List.map_append]
      rfl

theorem Lines.sealed {parts : List Part} (h : Lines parts) :
    ∀ st ∈ others parts, st.IsSealed := by
  induction parts with
  | nil => exact nofun
  | cons p parts ih =>
      obtain ⟨hp, hlater⟩ := h
      intro st hst
      rw [others, List.flatMap_cons, List.filterMap_append, List.mem_append] at hst
      rcases hst with hst | hst
      · obtain ⟨item, hitem, hforeign⟩ := List.mem_filterMap.mp hst
        refine Toml.LineText.sealed hp st (List.mem_map.mpr ⟨item, hitem, ?_⟩)
        cases item with
        | field f v => cases hforeign
        | other st' => exact Option.some.inj hforeign
      · exact ih hlater st hst

theorem value?_other (f : Field) (statements : List Statement) :
    (statements.map Item.other).findSome? (Item.value? f) = none := by
  rw [List.findSome?_eq_none_iff]
  intro item hitem
  obtain ⟨st, -, rfl⟩ := List.mem_map.mp hitem
  rfl

theorem lookup_given (parts : List Part) (f : Field) :
    (parts.flatMap Part.items).findSome? (Item.value? f) = (given parts).lookup f := by
  induction parts with
  | nil => rfl
  | cons p parts ih =>
      rw [List.flatMap_cons, List.findSome?_append, ih]
      cases p with
      | setting g v text =>
          have hgiven : given (.setting g v text :: parts) = (g, v) :: given parts := rfl
          rw [hgiven, List.lookup_cons]
          by_cases hg : g = f
          · simp [Part.items, Item.value?, hg]
          · simp [Part.items, Item.value?, hg, beq_eq_false_iff_ne.mpr (Ne.symm hg)]
      | other statements text => rw [Part.items, value?_other, Option.none_or]; rfl

theorem field?_items (parts : List Part) :
    (parts.flatMap Part.items).filterMap Item.field? = (given parts).map Prod.fst := by
  induction parts with
  | nil => rfl
  | cons p parts ih =>
      rw [List.flatMap_cons, List.filterMap_append, ih]
      cases p with
      | setting g v text => rfl
      | other statements text =>
          have hnone : (statements.map Item.other).filterMap Item.field? = [] := by
            rw [List.filterMap_map, List.filterMap_eq_nil_iff]
            exact fun st _ => rfl
          rw [Part.items, hnone]
          rfl

/-- **What a settings file says** is what the settings in it say, wherever they
stand. -/
theorem layer?_parts {parts : List Part} (h : WellFormed parts) :
    layer? (fileText parts) = layerOf? fun f => (given parts).lookup f := by
  have hparse : Toml.parse (fileText parts) = Toml.addStatements []
      ((parts.flatMap Part.items).map Item.statement) [] :=
    Toml.parse_of_statements (by rw [fileText, String.toList_ofList]; exact h.lines.reads)
  obtain ⟨rest, hrest⟩ := h.coherent.addStatements h.lines.sealed
  obtain ⟨ms, hms, hgrouped, hvalues⟩ := @addStatements_items _ [] [] rest h.placed
    (field?_items parts ▸ h.once) hrest (fun f => trivial) (fun f hf => nomatch hf) fun f _ => rfl
  rw [layer?_eq (hparse.trans hms) hgrouped]
  refine congrArg layerOf? (funext fun f => ?_)
  rw [hvalues f, lookup_given]
  exact Option.or_none

/-! ## Any choice of settings -/

theorem Lines.of_forall {parts : List Part} (h : ∀ p ∈ parts, ∀ last, p.IsLine last) :
    Lines parts := by
  induction parts with
  | nil => trivial
  | cons p parts ih =>
      obtain ⟨hp, hlater⟩ := List.forall_mem_cons.mp h
      exact ⟨hp _, ih hlater⟩

/-- A table of a settings file: its header, and a line for each of its settings. -/
structure Block where
  table : String
  lines : List (Field × Value × List Char)

namespace Block

def parts (b : Block) : List Part :=
  .header b.table :: b.lines.map fun (f, v, t) => .setting f v (Toml.entryText f.key t ['\n'])

/-- The settings of a block are its own, and their values are written as they
should be. -/
structure InOrder (b : Block) : Prop where
  bare : Toml.BareKey b.table.toList
  table : ∀ f v t, (f, v, t) ∈ b.lines → f.table = b.table
  written : ∀ f v t, (f, v, t) ∈ b.lines → Toml.ValueText Toml.maxDepth v t

variable {b : Block} {blocks : List Block}

theorem InOrder.isLine (h : b.InOrder) : ∀ p ∈ b.parts, ∀ last, p.IsLine last := by
  rw [parts, List.forall_mem_cons]
  refine ⟨Part.isLine_header h.bare, fun p hp last => ?_⟩
  obtain ⟨⟨f, v, t⟩, hline, rfl⟩ := List.mem_map.mp hp
  exact Part.isLine_setting (h.written f v t hline) (Toml.closing_newline last)

theorem given_parts (b : Block) : given b.parts = b.lines.map fun (f, v, _) => (f, v) := by
  change (b.lines.map _).filterMap Part.given? = _
  rw [List.filterMap_map]
  exact congrFun List.filterMap_eq_map b.lines

theorem given_blocks (blocks : List Block) :
    given (blocks.flatMap parts) = (blocks.flatMap lines).map fun (f, v, _) => (f, v) := by
  rw [given, List.filterMap_flatMap, List.map_flatMap]
  exact congrArg (List.flatMap · blocks) (funext given_parts)

/-- Without its settings a block is a header. -/
theorem others_parts (b : Block) : others b.parts = [.table ⟨[], b.table⟩] := by
  have hnone :
      (b.lines.flatMap fun (f, v, _) => [Item.field f v]).filterMap Item.foreign? = [] := by
    rw [List.filterMap_eq_nil_iff]
    intro item hitem
    obtain ⟨⟨f, v, t⟩, -, hitem⟩ := List.mem_flatMap.mp hitem
    rw [List.mem_singleton.mp hitem]
    rfl
  rw [others, parts, List.flatMap_cons, List.filterMap_append, List.flatMap_map]
  exact congrArg ([.table ⟨[], b.table⟩] ++ ·) hnone

theorem others_blocks (blocks : List Block) :
    others (blocks.flatMap parts) = (blocks.map table).map fun t => .table ⟨[], t⟩ := by
  rw [others, List.flatMap_assoc, List.filterMap_flatMap, List.map_map, List.map_eq_flatMap]
  exact congrArg (List.flatMap · blocks) (funext others_parts)

/-- Behind a header its settings are in their places. -/
theorem InOrder.placed (h : b.InOrder) {items : List Item} (hitems : ∀ here, Placed here items)
    (here : List String) : Placed here (b.parts.flatMap Part.items ++ items) := by
  have hlines : ∀ lines : List (Field × Value × List Char), (∀ l ∈ lines, l ∈ b.lines) →
      Placed [b.table] ((lines.map fun (f, v, t) =>
        Part.setting f v (Toml.entryText f.key t ['\n'])).flatMap Part.items ++ items) := by
    intro lines
    induction lines with
    | nil => exact fun _ => hitems _
    | cons line lines ih =>
        intro hmem
        obtain ⟨hline, hlater⟩ := List.forall_mem_cons.mp hmem
        obtain ⟨f, v, t⟩ := line
        exact ⟨by rw [h.table f v t hline], ih hlater⟩
  exact ⟨foreign_header here b.table, hlines b.lines fun _ hl => hl⟩

theorem placed_blocks (h : ∀ b ∈ blocks, b.InOrder) (here : List String) :
    Placed here ((blocks.flatMap parts).flatMap Part.items) := by
  induction blocks generalizing here with
  | nil => trivial
  | cons b blocks ih =>
      obtain ⟨hb, hlater⟩ := List.forall_mem_cons.mp h
      rw [List.flatMap_cons, List.flatMap_append]
      exact hb.placed (fun here => ih hlater here) here

/-- **Any settings in any order.** Tables that are in order make a file, whichever
comes first and in whatever order their lines are. -/
theorem wellFormed (h : ∀ b ∈ blocks, b.InOrder) (htables : (blocks.map table).Nodup)
    (honce : ((blocks.flatMap lines).map Prod.fst).Nodup) :
    WellFormed (blocks.flatMap parts) where
  lines := Lines.of_forall fun p hp =>
    have ⟨b, hb, hp⟩ := List.mem_flatMap.mp hp
    (h b hb).isLine p hp
  placed := placed_blocks h []
  once := by
    rw [given_blocks, List.map_map]
    exact honce
  coherent := by
    rw [others_blocks]
    exact Toml.coherent_headers htables

end Block

/-- The table of some settings. -/
def Block.ofSettings (table : String) (xs : List Setting) : Block :=
  ⟨table, xs.map fun x => (x.field, x.value, x.text)⟩

/-- A file with some tables of settings and nothing else. -/
def plainFile (tables : List (String × List Setting)) : List Part :=
  tables.flatMap fun (table, xs) => (Block.ofSettings table xs).parts

/-- Settings in their tables, none of them twice. -/
structure Arranged (tables : List (String × List Setting)) : Prop where
  bare : ∀ t ∈ tables, Toml.BareKey t.1.toList
  table : ∀ t ∈ tables, ∀ x ∈ t.2, x.field.table = t.1
  distinct : (tables.map Prod.fst).Nodup
  once : ((tables.flatMap Prod.snd).map Setting.field).Nodup

theorem Arranged.wellFormed {tables : List (String × List Setting)} (h : Arranged tables) :
    WellFormed (plainFile tables)
      ∧ given (plainFile tables) =
        (tables.flatMap Prod.snd).map fun x => (x.field, x.value) := by
  let blocks := tables.map fun (table, xs) => Block.ofSettings table xs
  have hparts : blocks.flatMap Block.parts = plainFile tables := List.flatMap_map ..
  have hlines : blocks.flatMap Block.lines =
      (tables.flatMap Prod.snd).map fun x => (x.field, x.value, x.text) := by
    rw [List.map_flatMap]
    exact List.flatMap_map ..
  have hinOrder : ∀ b ∈ blocks, b.InOrder := by
    intro b hb
    obtain ⟨⟨table, xs⟩, ht, rfl⟩ := List.mem_map.mp hb
    refine ⟨h.bare _ ht, fun f v t hline => ?_, fun f v t hline => ?_⟩
    all_goals
      obtain ⟨x, hx, heq⟩ := List.mem_map.mp hline
      cases heq
    · exact h.table _ ht x hx
    · exact x.valueText
  have htables : (blocks.map Block.table).Nodup := by
    rw [List.map_map]
    exact h.distinct
  have honce : ((blocks.flatMap Block.lines).map Prod.fst).Nodup := by
    rw [hlines, List.map_map]
    exact h.once
  rw [← hparts]
  refine ⟨Block.wellFormed hinOrder htables honce, ?_⟩
  rw [Block.given_blocks, hlines, List.map_map]
  rfl

end SettingsFile

open SettingsFile

theorem loadSettings_text (path s : String) (env : Environment) :
    loadSettings path (.file (utf8 s)) env =
      match layer? s with
      | some l => .ok (env.layer.orElse l).settings
      | none => .error .malformed := by
  rw [loadSettings, readSettings, textOf?_utf8]
  simp only [SettingsFile.parse_eq]
  cases layer? s with
  | none => rfl
  | some l => exact congrArg Except.ok (l.override_settings env)

theorem lookup_of_mem {entries : List (Field × Toml.Value)}
    (hnodup : (entries.map Prod.fst).Nodup) {f : Field} {v : Toml.Value} (h : (f, v) ∈ entries) :
    entries.lookup f = some v := by
  induction entries with
  | nil => cases h
  | cons entry entries ih =>
      obtain ⟨g, w⟩ := entry
      obtain ⟨hnotMem, hnodup⟩ := List.nodup_cons.mp hnodup
      rw [List.lookup_cons]
      rcases List.mem_cons.mp h with heq | hmem
      · cases heq
        rw [beq_self_eq_true]
      · have hne : f ≠ g := by
          rintro rfl
          exact hnotMem (List.mem_map.mpr ⟨(f, v), hmem, rfl⟩)
        rw [beq_eq_false_iff_ne.mpr hne]
        exact ih hnodup hmem

theorem mem_of_lookup {entries : List (Field × Toml.Value)} {f : Field} {v : Toml.Value}
    (h : entries.lookup f = some v) : (f, v) ∈ entries := by
  obtain ⟨_, _, rfl, -⟩ := List.lookup_eq_some_iff.mp h
  exact List.mem_append_right _ (List.mem_cons_self ..)

/-- A setting with a value that it cannot have makes the whole file fail. -/
theorem loadSettings_refused {parts : List Part} (h : WellFormed parts) {f : Field}
    {v : Toml.Value} (hmem : (f, v) ∈ given parts) (hrefused : ¬f.Accepts v) (path : String)
    (env : Environment) :
    loadSettings path (.file (utf8 (fileText parts))) env = .error .malformed := by
  have hnone : (layerOf? fun f => (given parts).lookup f) = none := by
    cases hlayer : layerOf? fun f => (given parts).lookup f with
    | none => rfl
    | some l => exact absurd (accepts_of_layerOf? hlayer (lookup_of_mem h.once hmem)) hrefused
  rw [loadSettings_text, layer?_parts h, hnone]

end GraphCourier
