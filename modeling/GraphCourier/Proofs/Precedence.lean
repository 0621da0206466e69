import GraphCourier.Proofs.WholeRun

/-!
# Where settings come from

What a source says about the settings is a `Layer`, in which each of them is
there or not. Layers are laid over each other setting by setting: the command
line over the environment, that over the settings file, and what is still open
has its standard value. `start_settings` says that runs and plans go by the
settings that come of this and by nothing else.

For each source there is a description of its layer that does not mention how
the source is read: `SettingsFile.layer?` for files, `Environment.Says` for the
environment. A source that makes no sense says nothing, except for a file: it is
read as a whole or not at all.
-/

namespace GraphCourier

variable {σ : Type}

/-! ## Layers -/

/-- What a source says about the settings. -/
@[ext]
structure Layer where
  scheme : Option String
  host : Option String
  port : Option UInt16
  apiPrefix : Option String
  nodes : Option NodeId
  policy : Option FailurePolicy
  logLevel : Option String
deriving DecidableEq, Repr

namespace Layer

def empty : Layer := ⟨none, none, none, none, none, none, none⟩

/-- Each setting from the first layer, or else from the second. -/
def orElse (a b : Layer) : Layer where
  scheme := a.scheme.or b.scheme
  host := a.host.or b.host
  port := a.port.or b.port
  apiPrefix := a.apiPrefix.or b.apiPrefix
  nodes := a.nodes.or b.nodes
  policy := a.policy.or b.policy
  logLevel := a.logLevel.or b.logLevel

/-- The settings of a layer. What it leaves open has its standard value. -/
def settings (l : Layer) : Settings where
  endpoint :=
    { scheme := l.scheme.getD Endpoint.standard.scheme
      host := l.host.getD Endpoint.standard.host
      port := l.port.getD Endpoint.standard.port
      apiPrefix := l.apiPrefix.getD Endpoint.standard.apiPrefix }
  run :=
    { nodes := l.nodes.getD RunSettings.standard.nodes
      policy := l.policy.getD RunSettings.standard.policy
      logLevel := l.logLevel.getD RunSettings.standard.logLevel }

end Layer

/-! ## The command line -/

/-- What the options of a command say. -/
def Command.layer : Command → Layer
  | .run nodes policy => { Layer.empty with nodes := nodes, policy := policy }
  | .plan nodes => { Layer.empty with nodes := nodes }
  | .call _ => .empty

/-! ## The environment -/

theorem textOf?_eq_some {bs : Bytes} {s : String} : textOf? bs = some s ↔ bs = utf8 s := by
  constructor
  · intro h
    unfold textOf? String.fromUTF8? at h
    split at h
    · rw [← Option.some.inj h]
      rfl
    · cases h
  · rintro rfl
    exact textOf?_utf8 s

/-- A variable is set to the bytes of a text. -/
def Environment.Sets (env : Environment) (name s : String) : Prop :=
  (env.find? fun v => v.1 == name) = some (name, utf8 s)

theorem Environment.text?_eq_some {env : Environment} {name s : String} :
    env.text? name = some s ↔ env.Sets name s := by
  rw [text?, Sets]
  cases h : env.find? fun v => v.1 == name with
  | none => simp
  | some v =>
      obtain ⟨name', bs⟩ := v
      obtain rfl : name' = name := by simpa using List.find?_some h
      simp [textOf?_eq_some]

/-- A text is a port: one or more digits, with an optional plus sign. -/
def IsPort (s : String) (p : UInt16) : Prop :=
  ∃ ds, (s.toList = ds ∨ s.toList = '+' :: ds) ∧ ds ≠ [] ∧ (∀ d ∈ ds, d.isDigit = true)
    ∧ Decimal.value ds = p.toNat

theorem Decimal.readDigits_eq_some {bound n : Nat} {cs : List Char} :
    readDigits bound cs = some n ↔
      cs ≠ [] ∧ (∀ d ∈ cs, d.isDigit = true) ∧ value cs = n ∧ n < bound := by
  unfold readDigits
  constructor
  · intro h
    split at h
    · rename_i hcs
      obtain rfl := Option.some.inj h
      exact ⟨List.isEmpty_eq_false_iff.mp hcs.1, List.all_eq_true.mp hcs.2.1, rfl, hcs.2.2⟩
    · cases h
  · rintro ⟨hne, hdigits, rfl, hlt⟩
    exact if_pos ⟨List.isEmpty_eq_false_iff.mpr hne, List.all_eq_true.mpr hdigits, hlt⟩

theorem portOfText?_eq_some {s : String} {p : UInt16} : portOfText? s = some p ↔ IsPort s p := by
  have hread : ∀ ds : List Char, (Decimal.readDigits UInt16.size ds).map UInt16.ofNat = some p ↔
      ds ≠ [] ∧ (∀ d ∈ ds, d.isDigit = true) ∧ Decimal.value ds = p.toNat := by
    intro ds
    simp only [Option.map_eq_some_iff, Decimal.readDigits_eq_some]
    constructor
    · rintro ⟨n, ⟨hne, hdigits, hvalue, hlt⟩, rfl⟩
      exact ⟨hne, hdigits, by rw [hvalue, UInt16.toNat_ofNat_of_lt' hlt]⟩
    · rintro ⟨hne, hdigits, hvalue⟩
      exact ⟨p.toNat, ⟨hne, hdigits, hvalue, p.toNat_lt⟩, UInt16.ofNat_toNat⟩
  unfold portOfText? IsPort Decimal.read
  split
  · rename_i cs hcs
    rw [hread]
    constructor
    · rintro ⟨hne, hdigits, hvalue⟩
      exact ⟨cs, .inr hcs, hne, hdigits, hvalue⟩
    · rintro ⟨ds, hds, h⟩
      rcases hds with rfl | hds
      · have hsign := h.2.1 '+' (hcs ▸ List.mem_cons_self ..)
        exact absurd hsign (by decide)
      · rwa [(List.cons.inj (hcs.symm.trans hds)).2]
  · rename_i hsign
    rw [hread]
    constructor
    · rintro ⟨hne, hdigits, hvalue⟩
      exact ⟨_, .inl rfl, hne, hdigits, hvalue⟩
    · rintro ⟨ds, hds, h⟩
      rcases hds with rfl | hds
      · exact h
      · exact absurd hds (hsign ds)

/-- The layer of an environment. Four settings have variables. -/
structure Environment.Says (env : Environment) (l : Layer) : Prop where
  host : ∀ s, l.host = some s ↔ env.Sets "GRAPH_DRIVER_HOST" s
  port : ∀ p, l.port = some p ↔ ∃ s, env.Sets "GRAPH_DRIVER_PORT" s ∧ IsPort s p
  policy : ∀ p, l.policy = some p ↔ env.Sets "GRAPH_DRIVER_POLICY" p.text
  logLevel : ∀ s, l.logLevel = some s ↔ env.Sets "GRAPH_DRIVER_LOG_LEVEL" s
  scheme : l.scheme = none
  apiPrefix : l.apiPrefix = none
  nodes : l.nodes = none

/-- The layer of an environment as it is read. -/
def Environment.layer (env : Environment) : Layer :=
  { Layer.empty with
    host := env.text? "GRAPH_DRIVER_HOST"
    port := (env.text? "GRAPH_DRIVER_PORT").bind portOfText?
    policy := (env.text? "GRAPH_DRIVER_POLICY").bind FailurePolicy.ofText?
    logLevel := env.text? "GRAPH_DRIVER_LOG_LEVEL" }

theorem FailurePolicy.ofText?_eq_some {s : String} {p : FailurePolicy} :
    ofText? s = some p ↔ s = p.text := by
  constructor
  · intro h
    unfold ofText? at h
    split at h
    · obtain rfl := Option.some.inj h
      assumption
    · split at h
      · obtain rfl := Option.some.inj h
        assumption
      · cases h
  · rintro rfl
    exact ofText?_text p

theorem Environment.says_layer (env : Environment) : env.Says env.layer where
  host _ := text?_eq_some
  port p := by
    simp only [layer, Option.bind_eq_some_iff, text?_eq_some, portOfText?_eq_some]
  policy p := by
    simp only [layer, Option.bind_eq_some_iff, text?_eq_some, FailurePolicy.ofText?_eq_some,
      exists_eq_right]
  logLevel _ := text?_eq_some
  scheme := rfl
  apiPrefix := rfl
  nodes := rfl

/-- An environment says one thing only. -/
theorem Environment.Says.eq {env : Environment} {l l' : Layer} (h : env.Says l) (h' : env.Says l') :
    l = l' := by
  refine Layer.ext ?_ ?_ ?_ ?_ ?_ ?_ ?_
  · rw [h.scheme, h'.scheme]
  · exact Option.ext fun s => (h.host s).trans (h'.host s).symm
  · exact Option.ext fun p => (h.port p).trans (h'.port p).symm
  · rw [h.apiPrefix, h'.apiPrefix]
  · rw [h.nodes, h'.nodes]
  · exact Option.ext fun p => (h.policy p).trans (h'.policy p).symm
  · exact Option.ext fun s => (h.logLevel s).trans (h'.logLevel s).symm

theorem Layer.override_settings (l : Layer) (env : Environment) :
    l.settings.override env = (env.layer.orElse l).settings := by
  simp only [Settings.override, settings, orElse, Environment.layer, empty, Option.getD_or,
    Option.none_or]

/-! ## Settings files -/

namespace SettingsFile

open Toml (Value)

/-- Reads a setting, if it is there. -/
def Group.find? {α : Type} (group : Group) (index : Nat) (name : String)
    (read? : Value → Option α) : Option (Option α) :=
  match group.get? index name with
  | some v => (read? v).map some
  | none => some none

theorem Group.read_eq {α : Type} (group : Group) (index : Nat) (name : String)
    (read? : Value → Option α) (standard : α) :
    group.read index name read? standard =
      (group.find? index name read?).map fun x => x.getD standard := by
  unfold read find?
  cases group.get? index name with
  | none => rfl
  | some v => cases h : read? v <;> simp [h]

/-- What the text of a settings file says, if it makes sense. A table that is
not there is one in which nothing is set. -/
def layer? (s : String) : Option Layer := do
  let file := Group.named (← Toml.parse s)
  let endpoint := (← file.find? 0 "endpoint" Group.ofValue?).getD (.named [])
  let scheme ← endpoint.find? 0 "scheme" text?
  let host ← endpoint.find? 1 "host" text?
  let port ← endpoint.find? 2 "port" port?
  let apiPrefix ← endpoint.find? 3 "api_prefix" text?
  let driver := (← file.find? 1 "driver" Group.ofValue?).getD (.named [])
  let nodes ← driver.find? 0 "nodes" nodes?
  let policy ← driver.find? 1 "failure_policy" policy?
  let logLevel ← driver.find? 2 "log_level" text?
  return ⟨scheme, host, port, apiPrefix, nodes, policy, logLevel⟩

/-- The endpoint that a table describes. -/
def Group.endpoint? (g : Group) : Option Endpoint := do
  return {
    scheme := ← g.read 0 "scheme" text? Endpoint.standard.scheme
    host := ← g.read 1 "host" text? Endpoint.standard.host
    port := ← g.read 2 "port" port? Endpoint.standard.port
    apiPrefix := ← g.read 3 "api_prefix" text? Endpoint.standard.apiPrefix }

/-- What a table says about runs. -/
def Group.run? (g : Group) : Option RunSettings := do
  return {
    nodes := ← g.read 0 "nodes" nodes? RunSettings.standard.nodes
    policy := ← g.read 1 "failure_policy" policy? RunSettings.standard.policy
    logLevel := ← g.read 2 "log_level" text? RunSettings.standard.logLevel }

/-- A table that is not there reads like one in which nothing is set. -/
theorem Group.read_table {α : Type} (file : Group) (index : Nat) (name : String)
    (f : Group → Option α) {standard : α} (h : f (.named []) = some standard) :
    file.read index name (fun v => (ofValue? v).bind f) standard =
      (file.find? index name ofValue?).bind fun g => f (g.getD (.named [])) := by
  unfold Group.read find?
  cases file.get? index name with
  | none => exact h.symm
  | some v => cases hv : ofValue? v <;> simp [hv]

/-- Reading a file is reading its layer and filling it up. -/
theorem parse_eq (s : String) : parse s = (layer? s).map Layer.settings := by
  have hendpoint : ∀ file : Group, file.read 0 "endpoint" endpoint? .standard =
      (file.find? 0 "endpoint" Group.ofValue?).bind fun g => (g.getD (.named [])).endpoint? :=
    fun file => file.read_table 0 "endpoint" Group.endpoint? rfl
  have hdriver : ∀ file : Group, file.read 1 "driver" run? .standard =
      (file.find? 1 "driver" Group.ofValue?).bind fun g => (g.getD (.named [])).run? :=
    fun file => file.read_table 1 "driver" Group.run? rfl
  unfold parse layer?
  simp only [Settings.standard, hendpoint, hdriver, Group.endpoint?, Group.run?, Group.read_eq,
    bind, pure, Option.bind_assoc, Option.map_bind, Option.bind_map, Option.bind_some,
    Function.comp_def]
  rfl

end SettingsFile

/-- What a file says. One that cannot be read says nothing. -/
def FileState.layer? : FileState → Option Layer
  | .missing => some .empty
  | .closed _ => none
  | .file content => (textOf? content).bind SettingsFile.layer?

theorem readSettings_of_layer {file : FileState} {l : Layer} (h : file.layer? = some l)
    (path : String) : readSettings path file = .ok l.settings := by
  cases file with
  | missing =>
      obtain rfl := Option.some.inj h
      rfl
  | closed fault => cases h
  | file content =>
      obtain ⟨text, htext, hlayer⟩ := Option.bind_eq_some_iff.mp h
      simp only [readSettings, htext, SettingsFile.parse_eq, hlayer, Option.map_some]

theorem readSettings_of_no_layer {file : FileState} (h : file.layer? = none) (path : String) :
    ∃ e, readSettings path file = .error e := by
  cases file with
  | missing => cases h
  | closed fault => exact ⟨_, rfl⟩
  | file content =>
      cases htext : textOf? content with
      | none => exact ⟨.unreadable path .notText, by simp only [readSettings, htext]⟩
      | some text =>
          rw [FileState.layer?, htext, Option.bind_some] at h
          refine ⟨.malformed, ?_⟩
          simp only [readSettings, htext, SettingsFile.parse_eq, h, Option.map_none]

/-- What stands where settings are looked for. Without a path that is nothing. -/
def Surroundings.source (world : Surroundings σ) (config : Option String) : FileState :=
  (Program.settingsPath? world.home config).elim .missing world.files

/-! ## Commands -/

namespace Program

variable {world : Surroundings σ} {i : Invocation} {s : σ}

/-- Whether there is a settings file or not, what it says is filled up and overridden. -/
theorem load_of_layer {config : Option String} {file : Layer}
    (h : (world.source config).layer? = some file) :
    world.load config = .ok (world.environment.layer.orElse file).settings := by
  unfold Surroundings.source at h
  unfold Surroundings.load
  cases hpath : settingsPath? world.home config with
  | none =>
      rw [hpath] at h
      obtain rfl := Option.some.inj h
      rw [← Layer.override_settings]
      rfl
  | some path =>
      rw [hpath, Option.elim_some] at h
      simp only [loadSettings, readSettings_of_layer h, Except.map, Layer.override_settings]

/-- What cannot be read is an error whatever the environment says. -/
theorem load_of_no_layer {config : Option String} (h : (world.source config).layer? = none) :
    ∃ e, ∀ environment,
      ({ world with environment := environment } : Surroundings σ).load config = .error e := by
  unfold Surroundings.source at h
  cases hpath : settingsPath? world.home config with
  | none =>
      rw [hpath] at h
      cases h
  | some path =>
      rw [hpath, Option.elim_some] at h
      obtain ⟨e, he⟩ := readSettings_of_no_layer h path
      refine ⟨e, fun environment => ?_⟩
      rw [Surroundings.load, hpath]
      simp only [loadSettings, he, Except.map]

/-- Of all settings a run itself looks at the endpoint only. -/
theorem runSchedule_congr {settings settings' : Settings}
    (h : settings.endpoint = settings'.endpoint) (n : NodeId) (policy : FailurePolicy) :
    runSchedule world settings n policy = runSchedule world settings' n policy := by
  unfold runSchedule
  rw [h]

/-- What a run is asked for on the command line goes over all other layers. -/
theorem perform_run (nodes : Option NodeId) (policy : Option FailurePolicy) (l : Layer) :
    let settings := ((Command.run nodes policy).layer.orElse l).settings
    perform world l.settings (.run nodes policy) =
      runSchedule world settings settings.run.nodes settings.run.policy := by
  intro settings
  have hnodes : settings.run.nodes = nodes.getD l.settings.run.nodes := Option.getD_or
  have hpolicy : settings.run.policy = policy.getD l.settings.run.policy := Option.getD_or
  have hendpoint : l.settings.endpoint = settings.endpoint := rfl
  funext s
  rw [hnodes, hpolicy, perform, runSchedule_congr hendpoint]

theorem perform_plan (nodes : Option NodeId) (l : Layer) :
    let settings := ((Command.plan nodes).layer.orElse l).settings
    perform world l.settings (.plan nodes) = plan settings settings.run.nodes := by
  intro settings
  have hnodes : settings.run.nodes = nodes.getD l.settings.run.nodes := Option.getD_or
  rw [hnodes]
  rfl

/-- Work is done by the network and by all settings but the one for log lines. -/
theorem perform_congr {world world' : Surroundings σ} {settings settings' : Settings}
    (hnetwork : world.network = world'.network) (hendpoint : settings.endpoint = settings'.endpoint)
    (hnodes : settings.run.nodes = settings'.run.nodes)
    (hpolicy : settings.run.policy = settings'.run.policy) (command : Command) :
    perform world settings command s = perform world' settings' command s := by
  cases command with
  | run nodes policy => simp only [perform, runSchedule, hnetwork, hendpoint, hnodes, hpolicy]
  | plan nodes => simp only [perform, plan, hendpoint, hnodes]
  | call op => simp only [perform, call, hnetwork, hendpoint]

/-- Surroundings in which the same is loaded, and that have the same network and the
same patterns, are the same to a command. -/
theorem invoke_congr {world world' : Surroundings σ}
    (hload : world.load i.config = world'.load i.config)
    (hnetwork : world.network = world'.network) (hmatcher : world.isMatcher = world'.isMatcher) :
    invoke world i s = invoke world' i s := by
  have hwork : ∀ settings, perform world settings i.command = perform world' settings i.command :=
    fun _ => funext fun _ => perform_congr hnetwork rfl rfl rfl i.command
  simp only [invoke, underFilter, hload, hwork, hmatcher]

/-- **Where settings come from.** If the settings file says something, or is not
there, then runs and plans go by the options of the command line over the
environment over the file. If it cannot be read, the program ends at once, and
no environment changes that. And only the file that the command line names
counts, if it names one. -/
theorem start_settings (world : Surroundings σ) {arguments : List String}
    (hparse : CommandLine.parse arguments = some (.invoke i)) (s : σ) :
    let source := world.source i.config
    (∀ file, source.layer? = some file → ∃ overrides, world.environment.Says overrides
        ∧ let settings := (i.command.layer.orElse (overrides.orElse file)).settings
          (∀ nodes policy, i.command = .run nodes policy →
              start world arguments s = underFilter world settings.run.logLevel
                (runSchedule world settings settings.run.nodes settings.run.policy) s)
            ∧ ∀ nodes, i.command = .plan nodes →
              start world arguments s = underFilter world settings.run.logLevel
                (plan settings settings.run.nodes) s)
      ∧ (source.layer? = none → ∃ failure, ∀ environment,
          start { world with environment := environment } arguments s =
            ⟨1, [], [], some failure, s⟩)
      ∧ ∀ config, i.config = some config → ∀ home files, files config = world.files config →
          start { world with home := home, files := files } arguments s =
            start world arguments s := by
  intro source
  refine ⟨fun file hfile => ?_, fun hnone => ?_, fun config hconfig home files hfiles => ?_⟩
  · refine ⟨world.environment.layer, world.environment.says_layer, ?_⟩
    have hstart := start_invoke hparse (load_of_layer hfile) s
    refine ⟨fun nodes policy hcommand => ?_, fun nodes hcommand => ?_⟩
    · rw [hcommand] at hstart ⊢
      rw [hstart, perform_run]
      rfl
    · rw [hcommand] at hstart ⊢
      rw [hstart, perform_plan]
      rfl
  · obtain ⟨e, he⟩ := load_of_no_layer hnone
    exact ⟨⟨e.message, e.cause?⟩, fun environment => start_of_load_error hparse (he environment) s⟩
  · have hload : ({ world with home := home, files := files } : Surroundings σ).load i.config =
        world.load i.config := by
      rw [Surroundings.load, Surroundings.load, hconfig]
      simp only [settingsPath?, Option.some_or, hfiles]
    simp only [start, hparse]
    exact invoke_congr hload rfl rfl

/-- A plan of which the host comes from the environment, which gives no port, the
prefix and the port from the file, and the number of nodes from the command line. -/
theorem start_settings_mixed :
    let content := "[driver]\nnodes = 7\n[endpoint]\nport = 81\napi_prefix = 'x'\n"
    let world : Surroundings Unit :=
      { home := "/root"
        files := fun path => if path = "here" then .file (utf8 content) else .closed .denied
        environment := [("GRAPH_DRIVER_PORT", utf8 "+65536"), ("GRAPH_DRIVER_HOST", utf8 "")]
        network := Http.unreachable }
    let broken := { world with files := fun _ => .file [0x66, 0xFF] }
    (start world ["--config=here", "plan", "--nodes", "1"] ()).output =
        utf8 "POST http://:81/x/add_node \x7b\"node_id\":\"0\"\x7d\n"
      ∧ start { world with home := "/", files := fun _ => .file (utf8 content) }
          ["--config=here", "plan", "--nodes", "1"] () =
            start world ["--config=here", "plan", "--nodes", "1"] ()
      ∧ ∃ failure, ∀ environment, start { broken with environment := environment } ["run"] () =
          ⟨1, [], [], some failure, ()⟩ := by
  intro content world broken
  have hparse : CommandLine.parse ["--config=here", "plan", "--nodes", "1"] =
      some (.invoke ⟨some "here", .plan (some 1)⟩) := by decide +kernel
  have hbare : CommandLine.parse ["run"] = some (.invoke ⟨none, .run none none⟩) := by
    decide +kernel
  have hfile : (world.files "here").layer? =
      some { Layer.empty with port := some 81, apiPrefix := some "x", nodes := some 7 } := by
    decide +kernel
  have hnone : FileState.layer? (.file [0x66, 0xFF]) = none := by decide +kernel
  obtain ⟨hlayers, -, hframe⟩ := start_settings world hparse ()
  obtain ⟨-, hfails, -⟩ := start_settings broken hbare ()
  obtain ⟨overrides, hsays, -, hplan⟩ := hlayers _ hfile
  obtain rfl := hsays.eq world.environment.says_layer
  refine ⟨?_, hframe "here" rfl "/" _ rfl, hfails hnone⟩
  rw [hplan (some 1) rfl]
  decide +kernel

end Program

end GraphCourier
