import GraphCourier.Settings.File
import GraphCourier.Proofs.TomlOutline

/-!
# Settings among other statements

A settings file holds statements that give settings and, between them, any
others. Statements that keep away from the settings (`Statement.Foreign`) do not
see them: they do the same to a document in which the settings are stripped off,
and they leave the settings as they are (`Statement.Foreign.spares`). So a
document comes together exactly if the rest of it does, and each setting in it
has the value that its statement gives (`addStatements_items`).
-/

namespace GraphCourier.SettingsFile

open Toml (Key Members Origin Statement Value addStatements_cons next place step)

/-! ## Settings and where they stand -/

/-- The settings of a file. -/
inductive Field where
  | scheme
  | host
  | port
  | apiPrefix
  | nodes
  | policy
  | logLevel
deriving DecidableEq, Repr

namespace Field

/-- The table that a setting stands in. -/
def table : Field → String
  | scheme | host | port | apiPrefix => "endpoint"
  | nodes | policy | logLevel => "driver"

/-- The key of a setting in its table. -/
def key : Field → String
  | scheme => "scheme"
  | host => "host"
  | port => "port"
  | apiPrefix => "api_prefix"
  | nodes => "nodes"
  | policy => "failure_policy"
  | logLevel => "log_level"

def all : List Field := [scheme, host, port, apiPrefix, nodes, policy, logLevel]

theorem mem_all (f : Field) : f ∈ all := by cases f <;> simp [all]

theorem key_injective {f g : Field} (h : f.key = g.key) : f = g := by
  cases f <;> cases g <;> first | rfl | simp [key] at h

end Field

/-- A key of a table stands for a setting. -/
def isKnown (table key : String) : Bool :=
  Field.all.any fun f => f.table == table && f.key == key

theorem isKnown_iff {table key : String} :
    isKnown table key = true ↔ ∃ f : Field, f.table = table ∧ f.key = key := by
  simp [isKnown, Field.mem_all]

theorem isKnown_field (f : Field) : isKnown f.table f.key = true :=
  isKnown_iff.mpr ⟨f, rfl, rfl⟩

/-- A value of a document with the settings in it dropped. -/
def trim (table : String) : Value → Value
  | .table origin inner => .table origin (Members.without (isKnown table) inner)
  | v => v

/-- A document with all settings dropped. -/
def strip (ms : Members) : Members := ms.mapValues trim

/-- What a group says about one of its settings. -/
def setting? (key : String) : Option Value → Option Value
  | some (.table _ inner) => Members.get? key inner
  | _ => none

/-- The value of a setting in a document, if it is there. -/
def Field.find? (f : Field) (ms : Members) : Option Value := setting? f.key (ms.get? f.table)

/-- A value can hold settings: it is a table, or not there. -/
def Tabular : Option Value → Prop
  | none => True
  | some (.table _ _) => True
  | some _ => False

/-- No group of settings is anything but a table. -/
def Grouped (ms : Members) : Prop := ∀ f : Field, Tabular (ms.get? f.table)

/-! ## Changes that spare the settings -/

section Spares

variable {table key : String} {known : String → Bool} {path : List String} {dotted : Bool}
  {change : Origin → Members → Option Members} {act : Option Value → Option Value}

/-- A change of the members of a group has nothing to do with the known ones. -/
structure Spares (known : String → Bool) (change : Members → Option Members) : Prop where
  without : ∀ ms, change (ms.without known) = (change ms).map (Members.without known)
  get? : ∀ {ms ms' k}, known k = true → change ms = some ms' → ms'.get? k = ms.get? k

theorem Spares.modify (hkey : known key = false) (act : Option Value → Option Value) :
    Spares known (Members.modify key act) where
  without := Members.modify_without hkey act
  get? := by
    intro ms ms' k hk h
    refine Members.get?_modify_ne h ?_
    rintro rfl
    cases hk.symm.trans hkey

/-- A change along a path has nothing to do with settings if the path does not
start with a setting. -/
theorem Spares.within (hpath : ∀ k, path.head? = some k → known k = false)
    (hchange : path = [] → ∀ origin, Spares known (change origin)) (origin : Origin) :
    Spares known (Members.within dotted change path origin) := by
  cases path with
  | nil => exact hchange rfl origin
  | cons k path => exact Spares.modify (hpath k rfl) _

/-- A change of a value has nothing to do with the settings in it. -/
structure SparesValue (table : String) (act : Option Value → Option Value) : Prop where
  trim : ∀ o, act (o.map (trim table)) = (act o).map (trim table)
  keep : ∀ {f : Field} {o w}, f.table = table → Tabular o → act o = some w →
    Tabular (some w) ∧ setting? f.key (some w) = setting? f.key o

theorem SparesValue.enter
    (h : ∀ origin, Spares (isKnown table) (Members.within dotted change path origin)) :
    SparesValue table (Members.enter dotted change path) where
  trim := by
    have htable : ∀ origin inner, (Members.within dotted change path origin
        (Members.without (isKnown table) inner)).map (.table origin)
          = ((Members.within dotted change path origin inner).map (.table origin)).map
              (SettingsFile.trim table) := by
      intro origin inner
      rw [(h origin).without inner, Option.map_map, Option.map_map]
      rfl
    intro o
    cases o with
    | none => exact htable _ []
    | some v =>
        cases v with
        | table origin inner =>
            change Members.enter dotted change path (some (.table origin _)) = _
            rw [Members.enter, Members.enter]
            split
            · rfl
            · exact htable origin inner
        | tables latest earlier =>
            change (Members.within dotted change path .header latest).map (Value.tables · earlier) =
              ((Members.within dotted change path .header latest).map (Value.tables · earlier)).map _
            rw [Option.map_map]
            rfl
        | _ => rfl
  keep := by
    intro f o w htable ho hw
    have hknown : isKnown table f.key = true := htable ▸ isKnown_field f
    cases o with
    | none =>
        obtain ⟨inner, hinner, rfl⟩ := Option.map_eq_some_iff.mp hw
        exact ⟨trivial, (h _).get? hknown hinner⟩
    | some v =>
        cases v with
        | table origin inner =>
            rw [Members.enter] at hw
            split at hw
            · cases hw
            · obtain ⟨inner', hinner, rfl⟩ := Option.map_eq_some_iff.mp hw
              exact ⟨trivial, (h _).get? hknown hinner⟩
        | _ => exact ho.elim

/-- A change of a document has nothing to do with the settings. -/
structure SparesSettings (change : Members → Option Members) : Prop where
  strip : ∀ ms, change (strip ms) = (change ms).map strip
  keep : ∀ {ms ms'}, Grouped ms → change ms = some ms' →
    Grouped ms' ∧ ∀ f : Field, f.find? ms' = f.find? ms

theorem SparesSettings.modify (h : SparesValue key act) :
    SparesSettings (Members.modify key act) where
  strip := Members.modify_mapValues h.trim
  keep := by
    intro ms ms' hms hmodify
    have hgroup : ∀ f : Field, Tabular (ms'.get? f.table)
        ∧ setting? f.key (ms'.get? f.table) = setting? f.key (ms.get? f.table) := by
      intro f
      by_cases hf : f.table = key
      · obtain ⟨w, hw, hw'⟩ := Members.get?_modify_self hmodify
        rw [hf, hw']
        exact h.keep hf (hf ▸ hms f) hw
      · rw [Members.get?_modify_ne hmodify (Ne.symm hf)]
        exact ⟨hms f, rfl⟩
    exact ⟨fun f => (hgroup f).1, fun f => (hgroup f).2⟩

/-- A change along a path has nothing to do with the settings if neither where it
ends is one nor the path leads through one. -/
theorem SparesSettings.within {last : String}
    (hplace : ∀ t k rest, path ++ [last] = t :: k :: rest → isKnown t k = false)
    (hinner : ∀ known origin, known last = false → Spares known (change origin))
    (htop : path = [] → SparesSettings (change .header)) :
    SparesSettings (Members.within dotted change path .header) := by
  cases path with
  | nil => exact htop rfl
  | cons t path =>
      refine SparesSettings.modify (SparesValue.enter (Spares.within (fun k hk => ?_) fun h => ?_))
      · obtain ⟨rest, rfl⟩ := List.head?_eq_some_iff.mp hk
        exact hplace t k (rest ++ [last]) rfl
      · subst h
        exact fun origin => hinner _ origin (hplace t last [] rfl)

end Spares

/-! ## Statements that spare the settings -/

/-- A statement is about no setting, nor about anything inside one, and if it is
about a group of settings as a whole then it is its header. -/
structure Foreign (here : List String) (st : Statement) : Prop where
  field : ∀ f : Field, ¬[f.table, f.key] <+: place here st
  group : ∀ f : Field, place here st = [f.table] → ∃ key, st = .table key

section Statements

variable {here : List String} {st : Statement} {table : String}

theorem Foreign.not_known {t k : String} {rest : List String} (h : Foreign here st)
    (hplace : place here st = t :: k :: rest) : isKnown t k = false := by
  cases hk : isKnown t k with
  | false => rfl
  | true =>
      obtain ⟨f, rfl, rfl⟩ := isKnown_iff.mp hk
      exact absurd (hplace ▸ ⟨rest, rfl⟩) (h.field f)

/-- Headers of tables at the top are foreign, those of the groups included. -/
theorem foreign_header (here : List String) (table : String) :
    Foreign here (.table ⟨[], table⟩) where
  field f h := by
    have := h.length_le
    simp [place] at this
  group _ _ := ⟨_, rfl⟩

theorem isKnown_of_not_group (h : ∀ f : Field, f.table ≠ table) (key : String) :
    isKnown table key = false := by
  cases hk : isKnown table key with
  | false => rfl
  | true =>
      obtain ⟨f, hf, -⟩ := isKnown_iff.mp hk
      exact absurd hf (h f)

theorem trim_of_not_group (h : ∀ f : Field, f.table ≠ table) (v : Value) : trim table v = v := by
  cases v with
  | table origin inner =>
      rw [trim, Members.without, List.filter_eq_self.mpr]
      intro m _
      rw [isKnown_of_not_group h]
      rfl
  | _ => rfl

theorem sparesValue_of_not_group (h : ∀ f : Field, f.table ≠ table)
    (act : Option Value → Option Value) : SparesValue table act where
  trim := by
    have hid : ∀ o : Option Value, o.map (trim table) = o := fun o => by
      rw [funext (trim_of_not_group h), Option.map_id']
    intro o
    rw [hid, hid]
  keep := fun hf => absurd hf (h _)

theorem sparesValue_opened : SparesValue table Members.opened where
  trim := by
    rintro (_ | (_ | _ | _ | _ | _ | _ | ⟨_ | _ | _ | _, _⟩ | _)) <;> rfl
  keep := by
    intro f o w hf ho hw
    cases o with
    | none =>
        cases hw
        exact ⟨trivial, rfl⟩
    | some v =>
        cases v with
        | table origin inner =>
            cases origin with
            | passing =>
                cases hw
                exact ⟨trivial, rfl⟩
            | _ => cases hw
        | _ => exact ho.elim

theorem Spares.fails {known : String → Bool} : Spares known fun _ => none where
  without _ := rfl
  get? := nofun

theorem Spares.entry {known : String → Bool} {last : String} (hlast : known last = false)
    (path : List String) (v : Value) (origin : Origin) :
    Spares known fun inner => if path.isEmpty || origin == .dotted then
      Members.modify last (Members.given v) inner else none := by
  cases path.isEmpty || origin == .dotted with
  | true => exact Spares.modify hlast _
  | false => exact Spares.fails

/-- A foreign statement has nothing to do with the settings. -/
theorem Foreign.spares (h : Foreign here st) : SparesSettings (step here st) := by
  have hother : ∀ {last}, place here st = [last] → (∀ key, st ≠ .table key) →
      ∀ f : Field, f.table ≠ last := by
    rintro last hplace hst f rfl
    obtain ⟨key, hkey⟩ := h.group f hplace
    exact hst key hkey
  cases st with
  | table key =>
      rw [step, Members.openTable_eq]
      refine SparesSettings.within (fun t k rest => h.not_known)
        (fun known origin hlast => Spares.modify hlast _)
        fun hpath => SparesSettings.modify sparesValue_opened
  | element key =>
      rw [step, Members.startTable_eq]
      refine SparesSettings.within (fun t k rest => h.not_known)
        (fun known origin hlast => Spares.modify hlast _) fun hpath => SparesSettings.modify ?_
      refine sparesValue_of_not_group (hother ?_ nofun) _
      rw [place, hpath]
      rfl
  | entry key v =>
      rw [step, Members.addEntry_eq]
      cases here with
      | nil =>
          change SparesSettings (Members.within true _ key.path .header)
          refine SparesSettings.within (fun t k rest => h.not_known)
            (fun known origin hlast => Spares.entry hlast _ v origin) fun hpath => ?_
          rw [hpath]
          refine SparesSettings.modify (sparesValue_of_not_group (hother ?_ nofun) _)
          rw [place, hpath]
          rfl
      | cons t here =>
          refine SparesSettings.modify (SparesValue.enter (Spares.within (fun k hk => ?_) ?_))
          · obtain ⟨rest, rfl⟩ := List.head?_eq_some_iff.mp hk
            have hplace : place (t :: (k :: rest)) (.entry key v) =
                t :: k :: (rest ++ (key.path ++ [key.last])) := rfl
            exact h.not_known hplace
          · rintro rfl -
            refine Spares.within (fun k hk => ?_) (fun hpath origin => ?_) _
            · obtain ⟨rest, hrest⟩ := List.head?_eq_some_iff.mp hk
              have hplace : place [t] (.entry key v) = t :: k :: (rest ++ [key.last]) := by
                rw [place, hrest]
                rfl
              exact h.not_known hplace
            · have hplace : place [t] (.entry key v) = [t, key.last] := by
                rw [place, hpath]
                rfl
              exact Spares.entry (h.not_known hplace) _ v origin

end Statements

/-! ## Settings in their places -/

/-- If entries belong to a group of settings, then this is a table that can be
added to. -/
def Entered (here : List String) (ms : Members) : Prop :=
  ∀ f : Field, here = [f.table] → ∃ origin inner,
    ms.get? f.table = some (.table origin inner) ∧ origin ≠ .closed

section Placed

variable {here : List String} {st : Statement} {ms ms' : Members}

theorem opened_eq_some {o : Option Value} {w : Value} (h : Members.opened o = some w) :
    ∃ inner, w = .table .header inner := by
  unfold Members.opened at h
  split at h
  · cases h
    exact ⟨_, rfl⟩
  · cases h
    exact ⟨_, rfl⟩
  · cases h

theorem enter_open {origin : Origin} (h : origin ≠ .closed)
    (change : Origin → Members → Option Members) (inner : Members) :
    Members.enter false change [] (some (.table origin inner)) =
      (change origin inner).map (.table origin) := by
  rw [Members.enter, if_neg (by simp [h])]
  rfl

theorem step_entry (table : String) (key : Key) (v : Value) :
    step [table] (.entry key v) = Members.modify table
      (Members.enter false (fun _ => Members.addEntry key.path key.last v) []) :=
  rfl

/-- Entries leave the table that they are added to a table. -/
theorem Entered.entry {table : String} {key : Key} {v : Value} (hms : Entered [table] ms)
    (hstep : step [table] (.entry key v) ms = some ms') : Entered [table] ms' := by
  intro f hf
  obtain rfl := (List.cons.inj hf).1
  obtain ⟨origin, inner, hget, hopen⟩ := hms f rfl
  rw [step_entry] at hstep
  obtain ⟨w, hw, hget'⟩ := Members.get?_modify_self hstep
  rw [hget, enter_open hopen] at hw
  obtain ⟨inner', -, rfl⟩ := Option.map_eq_some_iff.mp hw
  exact ⟨origin, inner', hget', hopen⟩

theorem Foreign.entered (h : Foreign here st) (hms : Entered here ms)
    (hstep : step here st ms = some ms') : Entered (next here st) ms' := by
  intro f hf
  cases st with
  | table key =>
      obtain ⟨hpath, hlast⟩ : key.path = [] ∧ key.last = f.table := by
        simpa [next, List.append_eq_singleton_iff] using hf
      rw [step, Members.openTable_eq, hpath, hlast] at hstep
      obtain ⟨w, hw, hget⟩ := Members.get?_modify_self (show Members.modify _ _ _ = _ from hstep)
      obtain ⟨inner, rfl⟩ := opened_eq_some hw
      exact ⟨.header, inner, hget, nofun⟩
  | element key =>
      obtain ⟨_, hkey⟩ := h.group f hf
      cases hkey
  | entry key v =>
      obtain rfl : here = [f.table] := hf
      exact hms.entry hstep f rfl

/-- A setting in its place is added to its group, and that is all. -/
theorem step_field {f : Field} (hms : Entered [f.table] ms) (hnone : f.find? ms = none)
    (v : Value) :
    ∃ ms', step [f.table] (.entry ⟨[], f.key⟩ v) ms = some ms' ∧ strip ms' = strip ms
      ∧ f.find? ms' = some v ∧ (∀ g, g ≠ f → g.find? ms' = g.find? ms)
      ∧ (Grouped ms → Grouped ms') := by
  obtain ⟨origin, inner, hget, hopen⟩ := hms f rfl
  have hfree : Members.get? f.key inner = none := by
    rw [Field.find?, hget] at hnone
    exact hnone
  obtain ⟨inner', hinner⟩ : ∃ inner', Members.modify f.key (Members.given v) inner = some inner' :=
    Members.modify_of_get? (w := v) (by rw [hfree]; rfl)
  have hact : Members.enter false (fun _ => Members.addEntry [] f.key v) []
      (some (.table origin inner)) = some (.table origin inner') := by
    rw [enter_open hopen]
    exact congrArg (Option.map (Value.table origin)) hinner
  have hself : Members.enter false (fun _ => Members.addEntry [] f.key v) []
      (ms.get? f.table) = some (.table origin inner') := by rw [hget, hact]
  obtain ⟨ms', hmodify⟩ := Members.modify_of_get? hself
  obtain ⟨w, hw, hget'⟩ := Members.get?_modify_self hmodify
  obtain rfl := Option.some.inj (hw.symm.trans hself)
  have hvalue : Members.get? f.key inner' = some v := by
    obtain ⟨x, hx, hx'⟩ := Members.get?_modify_self hinner
    rw [hfree] at hx
    exact hx'.trans hx.symm
  refine ⟨ms', hmodify, ?_, ?_, fun g hg => ?_, fun hgrouped g => ?_⟩
  · exact Members.mapValues_modify hmodify hget hact
      (congrArg (Value.table origin) (Members.without_modify (isKnown_field f) hinner))
  · rw [Field.find?, hget']
    exact hvalue
  · by_cases htable : g.table = f.table
    · rw [Field.find?, Field.find?, htable, hget, hget']
      exact Members.get?_modify_ne hinner fun hkey => hg (Field.key_injective hkey.symm)
    · rw [Field.find?, Field.find?, Members.get?_modify_ne hmodify (Ne.symm htable)]
  · by_cases htable : g.table = f.table
    · rw [htable, hget']
      trivial
    · rw [Members.get?_modify_ne hmodify (Ne.symm htable)]
      exact hgrouped g

end Placed

/-- A statement of a settings file: a setting, or any other. -/
inductive Item where
  | field (f : Field) (v : Value)
  | other (st : Statement)

namespace Item

def statement : Item → Statement
  | field f v => .entry ⟨[], f.key⟩ v
  | other st => st

/-- The value of a setting that a statement gives. -/
def value? (f : Field) : Item → Option Value
  | field g v => if g = f then some v else none
  | other _ => none

def foreign? : Item → Option Statement
  | field _ _ => none
  | other st => some st

def field? : Item → Option Field
  | field f _ => some f
  | other _ => none

end Item

/-- Settings stand in their tables, and other statements keep away from them. -/
def Placed : List String → List Item → Prop
  | _, [] => True
  | here, .field f _ :: items => here = [f.table] ∧ Placed here items
  | here, .other st :: items => Foreign here st ∧ Placed (next here st) items

theorem findSome?_value?_of_notMem {f : Field} {items : List Item}
    (h : f ∉ items.filterMap Item.field?) : items.findSome? (Item.value? f) = none := by
  rw [List.findSome?_eq_none_iff]
  intro item hitem
  cases item with
  | field g v =>
      have hg : g ∈ items.filterMap Item.field? :=
        List.mem_filterMap.mpr ⟨.field g v, hitem, rfl⟩
      refine if_neg ?_
      rintro rfl
      exact h hg
  | other st => rfl

/-- **Putting a settings file together.** If settings stand in their tables and
none is given twice, then the file comes together if it does without them, and
then each setting has the value that it is given. -/
theorem addStatements_items {items : List Item} {here : List String} {ms rest : Members}
    (hplaced : Placed here items) (honce : (items.filterMap Item.field?).Nodup)
    (hrest : Toml.addStatements here (items.filterMap Item.foreign?) (strip ms) = some rest)
    (hgrouped : Grouped ms) (hentered : Entered here ms)
    (hnone : ∀ f ∈ items.filterMap Item.field?, f.find? ms = none) :
    ∃ ms', Toml.addStatements here (items.map Item.statement) ms = some ms' ∧ Grouped ms'
      ∧ ∀ f : Field, f.find? ms' = (items.findSome? (Item.value? f)).or (f.find? ms) := by
  induction items generalizing here ms with
  | nil => exact ⟨ms, rfl, hgrouped, fun f => rfl⟩
  | cons item items ih =>
      cases item with
      | field f v =>
          obtain ⟨rfl, hplaced⟩ := hplaced
          have hfields : (Item.field f v :: items).filterMap Item.field? =
              f :: items.filterMap Item.field? := rfl
          rw [hfields] at honce hnone
          obtain ⟨hnotMem, honce⟩ := List.nodup_cons.mp honce
          obtain ⟨ms₁, hstep, hstrip, hself, hothers, hgroup⟩ :=
            step_field hentered (hnone f (List.mem_cons_self ..)) v
          obtain ⟨ms', hms, hgrouped', hvalues⟩ := ih hplaced honce (hstrip ▸ hrest)
            (hgroup hgrouped) (hentered.entry hstep) fun g hg => by
              rw [hothers g (by rintro rfl; exact hnotMem hg)]
              exact hnone g (List.mem_cons_of_mem f hg)
          refine ⟨ms', ?_, hgrouped', fun g => ?_⟩
          · rw [List.map_cons, addStatements_cons, Item.statement, hstep]
            exact hms
          · rw [hvalues, List.findSome?_cons]
            by_cases hg : f = g
            · subst hg
              rw [findSome?_value?_of_notMem hnotMem, hself, Item.value?, if_pos rfl]
              rfl
            · rw [hothers g (Ne.symm hg), Item.value?, if_neg hg]
      | other st =>
          obtain ⟨hforeign, hplaced⟩ := hplaced
          have hcons : (Item.other st :: items).filterMap Item.foreign? =
              st :: items.filterMap Item.foreign? := rfl
          rw [hcons, addStatements_cons, hforeign.spares.strip, Option.bind_map] at hrest
          obtain ⟨ms₁, hstep, hrest⟩ := Option.bind_eq_some_iff.mp hrest
          obtain ⟨hgrouped₁, hkeep⟩ := hforeign.spares.keep hgrouped hstep
          obtain ⟨ms', hms, hgrouped', hvalues⟩ := ih hplaced honce hrest hgrouped₁
            (hforeign.entered hentered hstep) fun f hf => by
              rw [hkeep]
              exact hnone f hf
          refine ⟨ms', ?_, hgrouped', fun f => ?_⟩
          · rw [List.map_cons, addStatements_cons, Item.statement, hstep]
            exact hms
          · rw [hvalues, hkeep]
            rfl

end GraphCourier.SettingsFile
