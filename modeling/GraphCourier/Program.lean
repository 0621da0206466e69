import GraphCourier.CommandLine
import GraphCourier.CompleteGraph
import GraphCourier.Exchange
import GraphCourier.LogFilter
import GraphCourier.Run
import GraphCourier.Settings.Load
import GraphCourier.Text.Pattern

/-!
# The program

What the program does with a command line, in surroundings that give it files,
environment variables and a network. Results go to the standard output, log
lines and errors do not, so the output of a run is exactly its report.
-/

namespace GraphCourier

/-- Where the program runs; `σ` is the state of the network. -/
structure Surroundings (σ : Type) where
  /-- The directory of the user, if there is one. -/
  home : Option String
  files : String → FileState
  environment : Environment
  network : Http.Network σ
  /-- Whether a log filter may ask for a field by some value: a number, a truth value
  or a pattern. -/
  isMatcher : List Char → Bool := Text.Pattern.isPattern

/-- An error and, if there is more to it, its cause. -/
structure Failure where
  message : String
  cause : Option String
deriving DecidableEq, Repr

/-- What became of the program. -/
structure Finish (σ : Type) where
  exitCode : Nat
  output : Bytes
  log : List LogLine
  failure : Option Failure
  state : σ

variable {σ : Type}

/-! ## Settings -/

def Program.standardPath (home : String) : String :=
  home ++ "/.graph-driver/config.toml"

/-- The path of the settings file: the one that is named, or else the standard one,
which there is for a user with a directory. -/
def Program.settingsPath? (home config : Option String) : Option String :=
  config.or (home.map standardPath)

/-- What is loaded if a command line names the settings file `config`. -/
def Surroundings.load (world : Surroundings σ) (config : Option String) :
    Except LoadError Settings :=
  match Program.settingsPath? world.home config with
  | some path => loadSettings path (world.files path) world.environment
  | none => .ok (Settings.standard.override world.environment)

namespace Program

/-- The answer to `--version`. -/
def versionText : String := "graph-driver 0.2.0\n"

/-! ## Work -/

/-- What a command did, before its log lines were filtered. -/
structure Work (σ : Type) where
  output : Bytes
  log : List LogLine
  failure : Option Failure
  state : σ

/-- The failure of a client that could not be made. -/
def clientFailure (e : ClientError) : Failure :=
  ⟨"failed to build graph API client", some e.message⟩

/-! ### Plans -/

def planLine (base : String) (op : Operation) : String :=
  "POST " ++ base ++ op.name ++ " " ++ op.payload.json ++ "\n"

def plan (settings : Settings) (nodes : NodeId) (state : σ) : Work σ :=
  let base := settings.endpoint.baseUrl
  let lines := (CompleteGraph.schedule nodes).toList.map (planLine base)
  ⟨lines.flatMap utf8, [], none, state⟩

/-! ### Runs -/

def startingLine (client : Client) (nodes : NodeId) (policy : FailurePolicy) :
    LogLine where
  level := .info
  target := "graph_driver::cli::run"
  message := "starting run"
  fields := [("endpoint", client.baseUrl.text), ("nodes", nodes.text),
    ("requests", match CompleteGraph.length? nodes with
      | some n => "Some(" ++ NodeId.text n ++ ")"
      | none => "None"),
    ("policy", policy.text)]

def summaryLine (s : Summary) : LogLine where
  level := .info
  target := "graph_driver::cli::run"
  message := "run summary"
  fields := [("summary", s.json)]

def runFailure (e : RunError) : Failure where
  message := e.message
  cause := match e with
    | .transport _ source => some source.message
    | .rejected _ _ => none
    | .output fault => some fault.text

def runSchedule (world : Surroundings σ) (settings : Settings)
    (nodes : NodeId) (policy : FailurePolicy) (state : σ) : Work σ :=
  match Client.ofEndpoint settings.endpoint with
  | .error e => ⟨[], [], some (clientFailure e), state⟩
  | .ok client =>
    let r := run (client.service world.network) policy
      (CompleteGraph.schedule nodes) state .unlimited
    let log := startingLine client nodes policy :: r.reached.log.toList
    match r.result with
    | .ok summary =>
      ⟨r.reached.report, log ++ [summaryLine summary], none, r.reached.state⟩
    | .error e =>
      ⟨r.reached.report, log, some (runFailure e), r.reached.state⟩

/-! ### Single operations -/

/-- The failure of an answer that could not be read. -/
def decodeFailure (e : ClientError) : Failure where
  message := e.message
  cause := match e with
    | .decode _ detail => some detail
    | _ => none

def describe (r : Response) : Except ClientError (Option String) :=
  match r.operation with
  | .getNode id => do
    return (← r.decode InGraph).map fun x =>
      "node " ++ id.text ++ " in graph: " ++ toString x.present
  | .getEdge a b => do
    return (← r.decode InGraph).map fun x =>
      "edge (" ++ a.text ++ ", " ++ b.text ++ ") in graph: " ++
        toString x.present
  | .getNeighbors id => do
    return (← r.decode Neighbors).map fun x =>
      "node " ++ id.text ++ " has " ++ Decimal.text x.neighbors.length ++
        " neighbor(s): [" ++
        ", ".intercalate (x.neighbors.map NodeId.text) ++ "]"
  | .shortestPath a b => do
    return (← r.decode Distance).map fun x =>
      "distance from " ++ a.text ++ " to " ++ b.text ++ ": " ++
        NodeId.text x.hops
  | _ => .ok none

/-- Tells of an answer that is not 200. -/
def refusedLine (r : Response) : LogLine where
  level := .warn
  target := "graph_driver::cli::call"
  message := "request not applied"
  fields := [("operation", r.operation.display),
    ("status", Decimal.text r.status.toNat), ("outcome", r.outcome.text)]

/-- Shows an answer, and what it says if it answers a question. -/
def showResponse (r : Response) : Bytes × List LogLine × Option Failure :=
  if r.outcome = .ok then
    match describe r with
    | .ok (some line) => (r.segment ++ utf8 (line ++ "\n"), [], none)
    | .ok none => (r.segment, [], none)
    | .error e => (r.segment, [], some (decodeFailure e))
  else (r.segment, [refusedLine r], none)

def call (world : Surroundings σ) (settings : Settings) (op : Operation)
    (state : σ) : Work σ :=
  match Client.ofEndpoint settings.endpoint with
  | .error e => ⟨[], [], some (clientFailure e), state⟩
  | .ok client =>
    let reply := client.post world.network op state
    match reply.answer with
    | .error e =>
      ⟨[], reply.log,
        some ⟨"request " ++ op.display ++ " failed", some e.message⟩,
        reply.state⟩
    | .ok r =>
      let (output, log, failure) := showResponse r
      ⟨output, reply.log ++ log, failure, reply.state⟩

/-! ## The whole program -/

/-- Does what a command says. What the command line leaves open is taken from
the settings. -/
def perform (world : Surroundings σ) (settings : Settings)
    (command : Command) (state : σ) : Work σ :=
  match command with
  | .run nodes policy =>
    runSchedule world settings (nodes.getD settings.run.nodes)
      (policy.getD settings.run.policy) state
  | .plan nodes => plan settings (nodes.getD settings.run.nodes) state
  | .call op => call world settings op state

/-- The exit code that goes with a failure, or with none. -/
def exitCode (failure : Option Failure) : Nat :=
  if failure.isSome then 1 else 0

/-- What becomes of the program when it has done its work. -/
def Work.finish (work : Work σ) (filter : LogFilter) : Finish σ :=
  ⟨exitCode work.failure, work.output, work.log.filter filter.allows, work.failure,
    work.state⟩

/-- Does work under the log filter of some text. Without a filter to go by the program
breaks down before it does anything. -/
def underFilter (world : Surroundings σ) (logLevel : String) (work : σ → Work σ)
    (state : σ) : Finish σ :=
  match LogFilter.ofText? world.isMatcher logLevel with
  | some filter => (work state).finish filter
  | none => ⟨101, [], [], none, state⟩

def invoke (world : Surroundings σ) (i : Invocation) (state : σ) : Finish σ :=
  match world.load i.config with
  | .error e => ⟨1, [], [], some ⟨e.message, e.cause?⟩, state⟩
  | .ok settings =>
    underFilter world settings.run.logLevel (perform world settings i.command) state

/-- Does what a command line asks for. One that makes no sense has an exit code
of its own. -/
def start (world : Surroundings σ) (arguments : List String) (state : σ) :
    Finish σ :=
  match CommandLine.parse arguments with
  | none => ⟨2, [], [], none, state⟩
  | some .help => ⟨0, [], [], none, state⟩
  | some .version => ⟨0, utf8 versionText, [], none, state⟩
  | some (.invoke i) => invoke world i state

end Program

end GraphCourier
