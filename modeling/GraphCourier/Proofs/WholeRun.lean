import GraphCourier.Program
import GraphCourier.Proofs.Joining
import GraphCourier.Proofs.Requests

/-!
# The command that runs a schedule

Between a command line and a run stand the settings, the client, the log and the
exit code. `start_run` says what they add to the run, which is little: without a
client there is no run, and with one the output is the report and nothing else,
the requests are those of the run, and the exit code tells whether it came to
its end. A report that was begun stays, whatever ends the run.

Into a sink with room for everything a run comes to its end if and only if its
policy puts up with every answer (`result_unlimited`).
-/

namespace GraphCourier

variable {σ : Type}

/-! ## Runs with room for everything -/

/-- An operation got an answer, and under `abort` a good one. -/
def Exchange.Accepted (policy : FailurePolicy) (x : Exchange) : Prop :=
  ∃ r, x.answer = .ok r ∧ (policy = .abort → r.status = 200)

theorem Exchange.verdict_eq_none {policy : FailurePolicy} {x : Exchange} :
    x.verdict policy = none ↔ x.Accepted policy := by
  obtain ⟨op, answer⟩ := x
  cases answer with
  | error e => simp [verdict, Accepted]
  | ok r =>
      have hsuccess : r.isSuccess = true ↔ r.status = 200 := by
        simp [Response.isSuccess, isSuccess]
      cases policy with
      | proceed => simp [verdict, Accepted]
      | abort => simp [verdict, Accepted, ← hsuccess]

theorem result_unlimited (service : Service σ) (policy : FailurePolicy) (schedule : Schedule)
    (s : σ) :
    (∃ summary, (run service policy schedule s .unlimited).result = .ok summary) ↔
      ∀ x ∈ service.exchanges schedule.toList s, x.Accepted policy := by
  obtain ⟨-, hresult⟩ := run_trace service policy schedule s .unlimited rfl rfl
  rw [hresult]
  constructor
  · rintro ⟨summary, h⟩ x hx
    exact Exchange.verdict_eq_none.mp (verdict_of_trace (Trace.stop_of_result h) x hx)
  · intro h
    have hgo := trace_unlimited_of_go fun x hx => Exchange.verdict_eq_none.mpr (h x hx)
    exact ⟨_, by rw [hgo]; rfl⟩

theorem sent_unlimited (service : Service σ) (policy : FailurePolicy) (schedule : Schedule) (s : σ)
    (h : ∀ x ∈ service.exchanges schedule.toList s, x.Accepted policy) :
    (run service policy schedule s .unlimited).sent = schedule.toList := by
  obtain ⟨hsteps, -⟩ := run_trace service policy schedule s .unlimited rfl rfl
  rw [Run.sent, hsteps, operations_of_go fun x hx => Exchange.verdict_eq_none.mpr (h x hx),
    service.map_operation_exchanges]

/-! ## Surroundings -/

namespace Surroundings

/-- Surroundings whose network keeps the requests that it is given. -/
def recorded (world : Surroundings σ) : Surroundings (σ × List Http.Request) where
  home := world.home
  files := world.files
  environment := world.environment
  network := world.network.recorded
  isMatcher := world.isMatcher

/-- Surroundings without files, in which a server answers what is laid down
beforehand. -/
def scripted (environment : Environment) : Surroundings (List Http.Delivery) where
  home := "/root"
  files := fun _ => .missing
  environment := environment
  network := Http.Server.scripted.network

end Surroundings

namespace Program

theorem start_invoke {world : Surroundings σ} {arguments : List String} {i : Invocation}
    {settings : Settings} (hparse : CommandLine.parse arguments = some (.invoke i))
    (hload : world.load i.config = .ok settings) (s : σ) :
    start world arguments s =
      underFilter world settings.run.logLevel (perform world settings i.command) s := by
  simp only [start, hparse, invoke, hload]

theorem start_of_load_error {world : Surroundings σ} {arguments : List String} {i : Invocation}
    {e : LoadError} (hparse : CommandLine.parse arguments = some (.invoke i))
    (hload : world.load i.config = .error e) (s : σ) :
    start world arguments s = ⟨1, [], [], some ⟨e.message, e.cause?⟩, s⟩ := by
  simp only [start, hparse, invoke, hload]

theorem underFilter_of_filter {world : Surroundings σ} {logLevel : String} {filter : LogFilter}
    (h : LogFilter.ofText? world.isMatcher logLevel = some filter) (work : σ → Work σ) (s : σ) :
    underFilter world logLevel work s = (work s).finish filter := by
  rw [underFilter, h]

/-- With a client the work of the command is a run, of which the report comes
out and the error, if there is one. -/
theorem runSchedule_of_client (world : Surroundings σ) {settings : Settings} {c : Client}
    (hc : Client.ofEndpoint settings.endpoint = .ok c) (n : NodeId) (policy : FailurePolicy)
    (s : σ) :
    let r := run (c.service world.network) policy (CompleteGraph.schedule n) s .unlimited
    let work := runSchedule world settings n policy s
    work.output = r.report ∧ work.state = r.reached.state
      ∧ (∀ summary, r.result = .ok summary → work.failure = none)
      ∧ ∀ e, r.result = .error e → work.failure = some (runFailure e) := by
  intro r work
  have hwork : work = runSchedule world settings n policy s := rfl
  simp only [runSchedule, hc] at hwork
  cases hresult : r.result with
  | ok summary =>
      rw [hresult] at hwork
      rw [hwork]
      exact ⟨rfl, rfl, fun _ _ => rfl, fun _ h => (nomatch h)⟩
  | error e =>
      rw [hresult] at hwork
      rw [hwork]
      refine ⟨rfl, rfl, fun _ h => (nomatch h), fun e' h => ?_⟩
      rw [Except.error.inj h]

/-- The same where requests are kept: they are those of the operations sent. -/
theorem runSchedule_recorded (world : Surroundings σ) {settings : Settings} {c : Client}
    (hc : Client.ofEndpoint settings.endpoint = .ok c) (n : NodeId) (policy : FailurePolicy)
    (s : σ) :
    let r := run (c.service world.network) policy (CompleteGraph.schedule n) s .unlimited
    let work := runSchedule world.recorded settings n policy (s, [])
    work.output = r.report ∧ work.state = (r.reached.state, r.sent.filterMap c.request?)
      ∧ (∀ summary, r.result = .ok summary → work.failure = none)
      ∧ ∀ e, r.result = .error e → work.failure = some (runFailure e) := by
  intro r work
  let r' := run (c.service world.network.recorded) policy (CompleteGraph.schedule n) (s, [])
    .unlimited
  obtain ⟨(hsteps : r'.steps = r.steps), (hresult : r'.result = r.result),
    (hstate : r'.reached.state = _)⟩ :=
    c.run_recorded world.network policy (CompleteGraph.schedule n) s .unlimited
  obtain ⟨(houtput : work.output = r'.report), (hwork : work.state = r'.reached.state),
    (hok : ∀ summary, r'.result = _ → work.failure = none),
    (herror : ∀ e, r'.result = _ → work.failure = some (runFailure e))⟩ :=
    runSchedule_of_client world.recorded hc n policy (s, [])
  rw [hresult] at hok herror
  rw [Run.report, hsteps] at houtput
  exact ⟨houtput, hwork.trans hstate, hok, herror⟩

theorem exitCode_of_result {failure : Option Failure} {result : Except RunError Summary}
    (hok : ∀ summary, result = .ok summary → failure = none)
    (herror : ∀ e, result = .error e → failure = some (runFailure e)) :
    exitCode failure = 0 ↔ ∃ summary, result = .ok summary := by
  cases result with
  | ok summary => simp [exitCode, hok summary rfl]
  | error e => simp [exitCode, herror e rfl]

/-- **The command is its run.** If no client can be made, nothing is sent and
nothing is printed. Otherwise the command sends what the run of the library sends
and prints its report; it succeeds if and only if the run comes to its end, that
is if every operation got an answer, and under `abort` a good one. -/
theorem start_run {world : Surroundings σ} {arguments : List String} {config : Option String}
    {nodes : Option NodeId} {policy : Option FailurePolicy} {settings : Settings}
    {filter : LogFilter}
    (hparse : CommandLine.parse arguments = some (.invoke ⟨config, .run nodes policy⟩))
    (hload : world.load config = .ok settings)
    (hfilter : LogFilter.ofText? world.isMatcher settings.run.logLevel = some filter) (s : σ) :
    let base := settings.endpoint.baseUrl
    let chosen := policy.getD settings.run.policy
    let schedule := CompleteGraph.schedule (nodes.getD settings.run.nodes)
    let f := start world.recorded arguments (s, [])
    (∀ e, Client.ofEndpoint settings.endpoint = .error e →
        (∃ fault : Url.UrlFault, Url.parse base = .error fault
          ∧ e.message = "invalid endpoint URL '" ++ base ++ "': " ++ fault.text)
        ∧ f = ⟨1, [], [], some ⟨"failed to build graph API client", some e.message⟩, (s, [])⟩)
      ∧ ∀ c, Client.ofEndpoint settings.endpoint = .ok c →
          let service := c.service world.network
          let r := run service chosen schedule s .unlimited
          f.state = (r.reached.state, r.sent.filterMap c.request?) ∧ f.output = r.report
            ∧ (f.exitCode = 0 ↔ ∃ summary, r.result = .ok summary)
            ∧ (∀ e, r.result = .error e →
                f.exitCode = 1 ∧ f.failure.map Failure.message = some e.message)
            ∧ (f.exitCode = 0 ↔ ∀ x ∈ service.exchanges schedule.toList s, x.Accepted chosen) := by
  intro base chosen schedule f
  have hload : world.recorded.load config = .ok settings := hload
  have hfilter' : LogFilter.ofText? world.recorded.isMatcher settings.run.logLevel = some filter :=
    hfilter
  let work := runSchedule world.recorded settings (nodes.getD settings.run.nodes) chosen (s, [])
  have hf : f = work.finish filter := by
    have hwork : f = underFilter world.recorded settings.run.logLevel
        (perform world.recorded settings (.run nodes policy)) (s, []) :=
      start_invoke hparse hload (s, [])
    rw [hwork, underFilter_of_filter hfilter']
    rfl
  have hcode : f.exitCode = exitCode work.failure := by rw [hf, Work.finish]
  have hfailure : f.failure = work.failure := by rw [hf, Work.finish]
  have houtput : f.output = work.output := by rw [hf, Work.finish]
  have hstate : f.state = work.state := by rw [hf, Work.finish]
  refine ⟨fun e he => ?_, fun c hc => ?_⟩
  · obtain ⟨fault, hfault, rfl⟩ := Client.invalidUrl_of_ofEndpoint he
    refine ⟨⟨fault, hfault, rfl⟩, hf.trans ?_⟩
    simp only [work, runSchedule, he]
    rfl
  · intro service r
    obtain ⟨(hreport : work.output = r.report), (hreached : work.state = _),
      (hok : ∀ summary, r.result = .ok summary → work.failure = none),
      (herror : ∀ e, r.result = .error e → work.failure = some (runFailure e))⟩ :=
      runSchedule_recorded world hc (nodes.getD settings.run.nodes) chosen s
    have hends : f.exitCode = 0 ↔ ∃ summary, r.result = .ok summary := by
      rw [hcode]
      exact exitCode_of_result hok herror
    refine ⟨hstate.trans hreached, houtput.trans hreport, hends, fun e he => ?_, ?_⟩
    · rw [hcode, hfailure, herror e he]
      exact ⟨rfl, rfl⟩
    · rw [hends]
      exact result_unlimited service chosen schedule s

/-- A run that is stopped by its second answer, of which the policy comes from
the environment, and one to a host that is none. -/
theorem start_run_stopped :
    let world := Surroundings.scripted
      [("GRAPH_DRIVER_HOST", utf8 "[::1]"), ("GRAPH_DRIVER_POLICY", utf8 "abort")]
    let astray := Surroundings.scripted [("GRAPH_DRIVER_HOST", utf8 "[::1")]
    let script : List Http.Delivery :=
      [.answered 200 (utf8 "ok") true, .answered 404 (utf8 "no") true, .lost]
    let f := start world.recorded ["run", "--nodes", "2"] (script, [])
    f.output = utf8 "200\nok\n404\n" ∧ f.exitCode = 1
      ∧ f.failure.map Failure.message = some "request add_node(1) rejected with HTTP 404"
      ∧ f.state.2.map Http.Request.operation? = [some (.addNode 0), some (.addNode 1)]
      ∧ start astray.recorded ["run"] (script, []) =
          ⟨1, [], [], some ⟨"failed to build graph API client",
            some "invalid endpoint URL 'http://[::1:8000/api/v1/': invalid IPv6 address"⟩,
            (script, [])⟩ := by
  intro world astray script f
  let settings (host : String) (policy : FailurePolicy) : Settings :=
    ⟨⟨"http", host, 8000, "api/v1"⟩, ⟨20, policy, "info"⟩⟩
  let c : Client := ⟨"http", some ⟨"", none, .ipv6 [0, 0, 0, 0, 0, 0, 0, 1], some 8000⟩,
    .rooted ["api", "v1"] "", none, none⟩
  have hload : world.load none = .ok (settings "[::1]" .abort) := by decide +kernel
  have hastray : astray.load none = .ok (settings "[::1" .proceed) := by decide +kernel
  have hclient : Client.ofEndpoint (settings "[::1]" .abort).endpoint = .ok c := by decide +kernel
  have hnone : Client.ofEndpoint (settings "[::1" .proceed).endpoint =
      .error (.invalidUrl "http://[::1:8000/api/v1/" "invalid IPv6 address") := by
    decide +kernel
  have hresult : (run (c.service world.network) .abort (CompleteGraph.schedule 2) script
      .unlimited).result = .error (.rejected "add_node(1)" 404) := by decide +kernel
  have hparse : CommandLine.parse ["run", "--nodes", "2"] =
      some (.invoke ⟨none, .run (some 2) none⟩) := by decide +kernel
  have hbare : CommandLine.parse ["run"] = some (.invoke ⟨none, .run none none⟩) := by
    decide +kernel
  have hfilter : LogFilter.ofText? world.isMatcher "info" = some .standard := by decide +kernel
  obtain ⟨-, hruns⟩ := start_run hparse hload hfilter script
  obtain ⟨hfails, -⟩ := start_run hbare hastray hfilter script
  obtain ⟨hstate, houtput, -, herror, -⟩ := hruns c hclient
  obtain ⟨hcode, hmessage⟩ := herror _ hresult
  refine ⟨?_, hcode, ?_, ?_, (hfails _ hnone).2⟩
  · rw [houtput]
    decide +kernel
  · rw [hmessage]
    decide +kernel
  · rw [hstate]
    decide +kernel

end Program

end GraphCourier
