import GraphCourier.Proofs.FilterText
import GraphCourier.Proofs.Precedence

/-!
# Log lines and everything else

Which log lines are wanted is a setting like any other, but it is the one setting
that no work depends on (`perform_logging`). The lines are made in any case, and what
is wanted decides which of them pass (`start_logging`). So two runs of the program that
differ in nothing else end alike, and the log of each is part of the log of a run that
keeps everything (`start_logLevel`).

The exception is a text that would have to be cut inside a character. It stops the
program before any work, although a text that is simply no filter does not
(`start_logLevel_torn`).
-/

namespace GraphCourier

variable {σ : Type}

/-! ## Setting a variable -/

namespace Environment

/-- The environment in which a variable has a text, whatever it was before. -/
def set (env : Environment) (name s : String) : Environment :=
  (name, utf8 s) :: env.filter fun v => v.1 != name

variable {env : Environment} {name other s : String}

theorem text?_set_self : (env.set name s).text? name = some s := by
  refine text?_eq_some.mpr ?_
  rw [Sets, set, List.find?_cons_of_pos (by simp)]

theorem text?_set_of_ne (h : other ≠ name) : (env.set name s).text? other = env.text? other := by
  have hfind : ∀ vs : Environment, (vs.filter fun v => v.1 != name).find? (fun v => v.1 == other) =
      vs.find? fun v => v.1 == other := by
    intro vs
    rw [List.find?_filter]
    congr 1
    funext v
    by_cases hv : v.1 = other
    · simp [hv, h]
    · simp [hv]
  rw [text?, set, List.find?_cons_of_neg (by simpa using h.symm), hfind, text?]

end Environment

/-! ## Which lines pass -/

theorem LogFilter.ofText?_trace (isMatcher : List Char → Bool) :
    ofText? isMatcher "trace" = some [LogDirective.all] := rfl

theorem LogFilter.ofText?_info (isMatcher : List Char → Bool) :
    ofText? isMatcher "info" = some standard := rfl

/-- The filter that is called `trace` lets every line pass. -/
theorem LogFilter.allows_all (line : LogLine) : allows [LogDirective.all] line = true := by
  have hrank : line.level.rank ≤ 5 := by cases line.level <;> decide
  exact decide_eq_true hrank

/-- A text that is no filter lets the same lines pass as `info`. -/
theorem LogFilter.ofText?_of_invalid {isMatcher : List Char → Bool} {s : String}
    (h : read isMatcher s = .error .invalid) : ofText? isMatcher s = ofText? isMatcher "info" := by
  rw [ofText?_info, ofText?, h]

/-! ## Settings and work -/

/-- The same settings, but for the lines that are wanted. -/
def Settings.logging (s : Settings) (level : String) : Settings :=
  { s with run := { s.run with logLevel := level } }

/-- The same surroundings, but for the lines that the environment wants. -/
def Surroundings.logging (world : Surroundings σ) (level : String) : Surroundings σ :=
  { world with environment := world.environment.set "GRAPH_DRIVER_LOG_LEVEL" level }

theorem Settings.override_set (s : Settings) (env : Environment) (level : String) :
    s.override (env.set "GRAPH_DRIVER_LOG_LEVEL" level) = (s.override env).logging level := by
  have hother : ∀ name, name ≠ "GRAPH_DRIVER_LOG_LEVEL" →
      (env.set "GRAPH_DRIVER_LOG_LEVEL" level).text? name = env.text? name :=
    fun _ h => Environment.text?_set_of_ne h
  simp only [override, logging, Environment.text?_set_self, Option.getD_some,
    hother "GRAPH_DRIVER_HOST" (by decide), hother "GRAPH_DRIVER_PORT" (by decide),
    hother "GRAPH_DRIVER_POLICY" (by decide)]

theorem Surroundings.load_logging (world : Surroundings σ) (level : String)
    (config : Option String) :
    (world.logging level).load config = (world.load config).map (·.logging level) := by
  unfold load
  simp only [logging, loadSettings, Settings.override_set]
  cases Program.settingsPath? world.home config with
  | none => rfl
  | some path =>
      dsimp only
      cases readSettings path (world.files path) with
      | error e => rfl
      | ok settings => rfl

namespace Program

/-- No work depends on which lines are wanted. -/
theorem perform_logging (world : Surroundings σ) (settings : Settings) (level : String)
    (command : Command) :
    perform (world.logging level) (settings.logging level) command =
      perform world settings command := by
  funext s
  apply perform_congr <;> rfl

/-- The program ends before it looks which lines are wanted, or there is one work that
it does, whichever they are. -/
theorem start_logging (world : Surroundings σ) (arguments : List String) (s : σ) :
    (∃ f : Finish σ, ∀ level, start (world.logging level) arguments s = f)
      ∨ ∃ work : σ → Work σ, ∀ level,
          start (world.logging level) arguments s = underFilter world level work s := by
  cases hparse : CommandLine.parse arguments with
  | none => exact .inl ⟨_, fun level => by simp only [start, hparse]; rfl⟩
  | some wish =>
      cases wish with
      | help => exact .inl ⟨_, fun level => by simp only [start, hparse]; rfl⟩
      | version => exact .inl ⟨_, fun level => by simp only [start, hparse]; rfl⟩
      | invoke i =>
          cases hload : world.load i.config with
          | error e =>
              refine .inl ⟨⟨1, [], [], some ⟨e.message, e.cause?⟩, s⟩, fun level => ?_⟩
              have hlevel := world.load_logging level i.config
              rw [hload] at hlevel
              exact start_of_load_error hparse hlevel s
          | ok settings =>
              refine .inr ⟨perform world settings i.command, fun level => ?_⟩
              have hlevel := world.load_logging level i.config
              rw [hload] at hlevel
              rw [start_invoke hparse hlevel, perform_logging]
              rfl

/-- **Logging never interferes**, but for the texts that cannot be cut as a filter would
have to be. Two runs of the program under any others end alike, and have made the same
requests. Each line that is logged is logged by the run that keeps all lines, too, in
the same order, and a text that is no filter is as good as `info`. Under the texts that
cannot be cut either the program ends as it would under any other, before it looks for
the lines that are wanted, or it breaks down and has done nothing. A text cannot be of
that kind if each of its directives is ASCII or has no white space in front. -/
theorem start_logLevel (world : Surroundings σ) (arguments : List String) (s : σ) :
    let under (level : String) := start (world.logging level).recorded arguments (s, [])
    let torn (level : String) := LogFilter.read world.isMatcher level = .error .torn
    (∀ level level', ¬torn level → ¬torn level' →
        (under level).exitCode = (under level').exitCode
          ∧ (under level).output = (under level').output
          ∧ (under level).failure = (under level').failure
          ∧ (under level).state = (under level').state)
      ∧ (∀ level, (under level).log.Sublist (under "trace").log)
      ∧ (∀ level, LogFilter.read world.isMatcher level = .error .invalid →
          under level = under "info")
      ∧ ((∃ f, ∀ level, under level = f)
          ∨ ∀ level, torn level → under level = ⟨101, [], [], none, (s, [])⟩)
      ∧ ∀ level, (∀ part ∈ LogFilter.splitCommas level.toList, LogDirective.Steady part) →
          ¬torn level := by
  intro under torn
  have hsteady : ∀ level, (∀ part ∈ LogFilter.splitCommas level.toList, LogDirective.Steady part) →
      ¬torn level := fun _ h => LogFilter.read_ne_torn h
  obtain ⟨f, hf⟩ | ⟨work, hwork⟩ := start_logging world.recorded arguments (s, [])
  · have hunder : ∀ level, under level = f := hf
    refine ⟨fun level level' _ _ => ?_, fun level => ?_, fun level _ => ?_, .inl ⟨f, hf⟩, hsteady⟩
    · rw [hunder, hunder]
      exact ⟨rfl, rfl, rfl, rfl⟩
    · rw [hunder, hunder]
    · exact (hunder level).trans (hunder "info").symm
  · let done := work (s, [])
    have hunder : ∀ {level filter}, LogFilter.ofText? world.recorded.isMatcher level = some filter →
        under level = done.finish filter := fun h =>
      (hwork _).trans (underFilter_of_filter h work (s, []))
    have hfilter : ∀ level, ¬torn level →
        ∃ filter, LogFilter.ofText? world.isMatcher level = some filter := fun level h =>
      Option.ne_none_iff_exists'.mp fun hnone => h (LogFilter.ofText?_eq_none.mp hnone)
    have htorn : ∀ level, torn level → under level = ⟨101, [], [], none, (s, [])⟩ := by
      intro level h
      have hnone : LogFilter.ofText? world.recorded.isMatcher level = none :=
        LogFilter.ofText?_eq_none.mpr h
      have hunder : under level = underFilter world.recorded level work (s, []) := hwork level
      rw [hunder, underFilter, hnone]
    refine ⟨fun level level' h h' => ?_, fun level => ?_, fun level h => ?_, .inr htorn, hsteady⟩
    · obtain ⟨filter, hlevel⟩ := hfilter level h
      obtain ⟨filter', hlevel'⟩ := hfilter level' h'
      rw [hunder hlevel, hunder hlevel']
      exact ⟨rfl, rfl, rfl, rfl⟩
    · have hall : (under "trace").log = done.log := by
        rw [hunder (LogFilter.ofText?_trace _)]
        exact List.filter_eq_self.mpr fun line _ => LogFilter.allows_all line
      rw [hall]
      by_cases h : torn level
      · rw [htorn level h]
        exact List.nil_sublist _
      · obtain ⟨filter, hlevel⟩ := hfilter level h
        rw [hunder hlevel]
        exact List.filter_sublist
    · have hinfo := LogFilter.ofText?_info world.isMatcher
      rw [hunder hinfo, hunder ((LogFilter.ofText?_of_invalid h).trans hinfo)]

/-- An operation that is refused, under a text that is no filter and under one that lets
errors pass. -/
theorem start_logLevel_refused :
    let world := Surroundings.scripted [("GRAPH_DRIVER_HOST", utf8 "[::1]")]
    let script : List Http.Delivery := [.answered 400 (utf8 "no") true]
    let under (level : String) :=
      start (world.logging level).recorded ["checkpoint"] (script, [])
    (under "info=loud").output = utf8 "400\n" ∧ (under "graph_driver=error").output = utf8 "400\n"
      ∧ (under "graph_driver=error").exitCode = (under "info=loud").exitCode
      ∧ (under "graph_driver=error").state = (under "info=loud").state
      ∧ (under "info=loud").log = (under "info").log
      ∧ (under "graph_driver=error").log.Sublist (under "trace").log
      ∧ under " gé=info" = ⟨101, [], [], none, (script, [])⟩ := by
  intro world script under
  obtain ⟨hends, hlog, hinvalid, htorn, hsteady⟩ :=
    start_logLevel world ["checkpoint"] script
  have hnone : LogFilter.read world.isMatcher "info=loud" = .error .invalid := by decide +kernel
  have hwhole : LogFilter.read world.isMatcher "info=loud" ≠ .error .torn := by decide +kernel
  have hcut : LogFilter.read world.isMatcher " gé=info" = .error .torn := by decide +kernel
  have hascii : ∀ part ∈ LogFilter.splitCommas "graph_driver=error".toList,
      LogDirective.Steady part := by
    have hall : (LogFilter.splitCommas "graph_driver=error".toList).all
        (·.all fun c => decide (c.toNat < 0x80)) = true := by decide +kernel
    refine fun part hpart => .inr fun c hc => ?_
    exact of_decide_eq_true (List.all_eq_true.mp (List.all_eq_true.mp hall part hpart) c hc)
  have houtput : (under "info=loud").output = utf8 "400\n" := by decide +kernel
  obtain ⟨hcodes, houtputs, -, hstates⟩ :=
    hends "graph_driver=error" "info=loud" (hsteady _ hascii) hwhole
  refine ⟨houtput, houtputs.trans houtput, hcodes, hstates, ?_, hlog _, ?_⟩
  · exact congrArg Finish.log (hinvalid "info=loud" hnone)
  · obtain ⟨f, hf⟩ | htorn := htorn
    · have hall : (under "info=loud").output = (under " gé=info").output :=
        congrArg Finish.output ((hf _).trans (hf _).symm)
      have hother : (under " gé=info").output = [] := by decide +kernel
      rw [houtput, hother] at hall
      exact absurd hall (by decide +kernel)
    · exact htorn _ hcut

/-- A plan under a text that cannot be cut as it would have to be. It is not printed. -/
theorem start_logLevel_torn :
    let under (level : String) :=
      start ((Surroundings.scripted []).logging level).recorded ["plan", "--nodes", "1"] ([], [])
    (under " gé=info").exitCode = 101 ∧ (under " gé=info").output = []
      ∧ (under "info").exitCode = 0
      ∧ (under "info").output =
          utf8 "POST http://127.0.0.1:8000/api/v1/add_node \x7b\"node_id\":\"0\"\x7d\n" := by
  decide +kernel

end Program

end GraphCourier
