import GraphCourier.Proofs.AnswerLines
import GraphCourier.Proofs.Answers
import GraphCourier.Proofs.WholeRun

/-!
# Single operations from the command line

A command for one operation sends the request that the client sends for it, and
prints what came back. If the operation asks a question, there is one more line
exactly where the client's method for that question finds an answer, and the
answer can be read off the line. Where the method fails, so does the command,
with the same message; what was printed before that stays (`start_call`).
-/

namespace GraphCourier

variable {σ τ : Type}

/-! ## Command lines -/

namespace Operation

/-- The name of the command for an operation. -/
def commandName : Operation → String
  | addNode _ => "add-node"
  | removeNode _ => "remove-node"
  | addEdge _ _ => "add-edge"
  | removeEdge _ _ => "remove-edge"
  | getNode _ => "get-node"
  | getEdge _ _ => "get-edge"
  | getNeighbors _ => "get-neighbors"
  | shortestPath _ _ => "shortest-path"
  | checkpoint => "checkpoint"

/-- The command for an operation: its name and the identifiers. -/
def commandLine (op : Operation) : List String := op.commandName :: op.arguments.map NodeId.text

end Operation

namespace CommandLine

/-- An identifier is nothing but a word. -/
theorem ofText_text (id : NodeId) : Argument.ofText id.text = .word id.text := by
  have hdash : ∀ t, id.text.toList ≠ '-' :: t := by
    intro t ht
    rw [NodeId.toList_text] at ht
    exact absurd (Decimal.isDigit_of_mem_digits (ht ▸ List.mem_cons_self ..)) (by decide)
  unfold Argument.ofText
  split
  · rename_i h
    exact absurd h (hdash _)
  · rename_i h
    exact absurd h (hdash _)
  · rename_i h
    exact absurd h (hdash _)
  · rfl

/-- Identifiers are taken as long as some are due. -/
theorem readArguments_texts (shape : Shape) (ids : List NodeId) (d : Draft)
    (h : d.ids.length + ids.length ≤ shape.arity) :
    readArguments shape none false d (ids.map NodeId.text) =
      some (.draft { d with ids := d.ids ++ ids }) := by
  induction ids generalizing d with
  | nil => simp [readArguments]
  | cons id ids ih =>
      rw [List.length_cons] at h
      have hdue : d.ids.length < shape.arity := by omega
      have hadd : shape.addId d id.text = some { d with ids := d.ids ++ [id] } := by
        rw [Shape.addId, if_pos hdue, NodeId.ofText?_text, Option.map_some]
      simp only [List.map_cons, readArguments, ofText_text, hadd, Option.bind_eq_bind,
        Option.bind_some, Bool.false_eq_true, if_false]
      rw [ih _ (by simp; omega), List.append_assoc, List.singleton_append]

theorem readLine_word {name : String} (hword : Argument.ofText name = .word name)
    (hhelp : name ≠ "help") (config : Option String) (rest : List String) :
    readLine false config (name :: rest) = readCommand config name rest := by
  simp only [readLine, hword, Bool.false_eq_true, if_false]

theorem ofText_commandName (op : Operation) :
    Argument.ofText op.commandName = .word op.commandName ∧ op.commandName ≠ "help" := by
  have hnames : ∀ name ∈ ["add-node", "remove-node", "add-edge", "remove-edge", "get-node",
      "get-edge", "get-neighbors", "shortest-path", "checkpoint"],
      Argument.ofText name = .word name ∧ name ≠ "help" := by
    intro name hname
    simp only [List.mem_cons, List.not_mem_nil, or_false] at hname
    rcases hname with rfl | rfl | rfl | rfl | rfl | rfl | rfl | rfl | rfl
    all_goals exact ⟨rfl, by simp⟩
  exact hnames _ (by cases op <;> simp [Operation.commandName])

/-- Every operation has a command. -/
theorem parse_commandLine (op : Operation) :
    parse op.commandLine = some (.invoke ⟨none, .call op⟩) := by
  obtain ⟨shape, hshape, harity, hbuild⟩ : ∃ shape, shape? op.commandName = some shape
      ∧ shape.arity = op.arguments.length
      ∧ shape.build ⟨none, none, none, op.arguments⟩ = some (.call op) := by
    cases op <;> exact ⟨_, rfl, rfl, rfl⟩
  have harguments : readArguments shape none false .empty (op.arguments.map NodeId.text) =
      some (.draft ⟨none, none, none, op.arguments⟩) :=
    readArguments_texts shape op.arguments .empty (by simp [Draft.empty, harity])
  obtain ⟨hword, hhelp⟩ := ofText_commandName op
  rw [parse, Operation.commandLine, readLine_word hword hhelp, readCommand, hshape]
  simp only [Option.bind_eq_bind, Option.bind_some, harguments, hbuild]
  rfl

end CommandLine

namespace Program

/-! ## Answers -/

/-- The command agrees with a method of the client that returns `answer`: behind
`head` it prints one line, of which `read?` makes what the method found, or
nothing, or it fails as the method does. -/
structure AgreesWith {β : Type} (f : Finish τ) (head : String)
    (answer : Except ClientError (Option β)) (read? : String → Option β) : Prop where
  found : ∀ v, answer = .ok (some v) → f.exitCode = 0 ∧ f.failure = none
    ∧ ∃ line, f.output = utf8 (head ++ (line ++ "\n")) ∧ '\n' ∉ line.toList ∧ read? line = some v
  nothing : answer = .ok none → f.exitCode = 0 ∧ f.failure = none ∧ f.output = utf8 head
  failed : ∀ e, answer = .error e → f.exitCode = 1 ∧ f.output = utf8 head
    ∧ ∃ op detail, e = .decode op detail ∧ f.failure = some ⟨e.message, some detail⟩
  /-- There is one more line exactly if something was found. -/
  more : f.output ≠ utf8 head ↔ ∃ v, answer = .ok (some v)

theorem utf8_append_ne (s : String) {t : String} (ht : t ≠ "") : utf8 (s ++ t) ≠ utf8 s := by
  intro h
  have hlength := congrArg List.length h
  rw [length_utf8, length_utf8, String.utf8ByteSize_append] at hlength
  exact ht (String.utf8ByteSize_eq_zero_iff.mp (by omega))

/-- What is described is what was decoded. -/
theorem agreesWith_of_describe {α β : Type} [AnswerBody α] {r : Response} {f : Finish τ}
    {part : α → β} {read? : String → Option β} (line : β → String)
    (hdescribe : describe r = (r.decode α).map (Option.map fun x => line (part x)))
    (hread : ∀ v, read? (line v) = some v) (hline : ∀ v, '\n' ∉ (line v).toList)
    {head : String} (hsegment : r.segment = utf8 head) (hstatus : r.outcome = .ok)
    (houtput : f.output = (showResponse r).1) (hfailure : f.failure = (showResponse r).2.2)
    (hcode : f.exitCode = exitCode f.failure) :
    AgreesWith f head ((r.decode α).map (Option.map part)) read? := by
  rw [hfailure] at hcode
  cases hdecode : r.decode α with
  | error e =>
      obtain ⟨detail, rfl⟩ := Response.decode_error hdecode
      simp only [showResponse, if_pos hstatus, hdescribe, hsegment, hdecode, Except.map]
        at houtput hfailure hcode
      refine ⟨nofun, nofun, ?_, ?_⟩
      · rintro _ ⟨⟩
        exact ⟨hcode, houtput, _, _, rfl, hfailure⟩
      · rw [houtput]
        exact ⟨fun h => absurd rfl h, fun ⟨_, h⟩ => nomatch h⟩
  | ok x =>
      cases x with
      | none =>
          simp only [showResponse, if_pos hstatus, hdescribe, hsegment, hdecode, Except.map,
            Option.map] at houtput hfailure hcode
          refine ⟨nofun, fun _ => ⟨hcode, hfailure, houtput⟩, nofun, ?_⟩
          rw [houtput]
          exact ⟨fun h => absurd rfl h, fun ⟨_, h⟩ => nomatch h⟩
      | some x =>
          simp only [showResponse, if_pos hstatus, hdescribe, hsegment, hdecode, Except.map,
            Option.map] at houtput hfailure hcode
          rw [← utf8_append] at houtput
          refine ⟨?_, nofun, nofun, ?_⟩
          · rintro _ ⟨⟩
            exact ⟨hcode, hfailure, line (part x), houtput, hline _, hread _⟩
          · rw [houtput]
            exact ⟨fun _ => ⟨part x, rfl⟩, fun _ => utf8_append_ne _ (by simp)⟩

theorem outcome_eq_ok_iff {r : Response} : r.outcome = .ok ↔ r.status = 200 := by
  unfold Response.outcome Outcome.ofStatus
  constructor
  · intro h
    by_contra hstatus
    rw [if_neg hstatus] at h
    repeat' split at h
    all_goals cases h
  · intro h
    rw [if_pos h]

theorem segment_success (op : Operation) (text : String) :
    (⟨op, 200, some text⟩ : Response).segment = utf8 ("200\n" ++ text ++ "\n") := by
  have hstatus : "200\n" = Decimal.text (200 : UInt16).toNat ++ "\n" := rfl
  rw [hstatus]
  simp only [Response.segment, String.append_assoc]

/-- The command agrees with the method of the client for a question. To other
operations there is nothing to say. -/
def AgreesWithClient (f : Finish τ) (head : String) (c : Client) (network : Http.Network σ)
    (op : Operation) (s : σ) : Prop :=
  match op with
  | .getNode id => AgreesWith f head (c.getNode network id s).answer Line.flag?
  | .getEdge a b => AgreesWith f head (c.getEdge network a b s).answer Line.flag?
  | .getNeighbors id => AgreesWith f head (c.getNeighbors network id s).answer Line.neighbors?
  | .shortestPath a b => AgreesWith f head (c.shortestPath network a b s).answer Line.hops?
  | _ => f.exitCode = 0 ∧ f.failure = none ∧ f.output = utf8 head

theorem agreesWithClient {f : Finish τ} {head : String} {c : Client} {network : Http.Network σ}
    {op : Operation} {s : σ} {body : Option String}
    (hanswer : (c.post network op s).answer = .ok ⟨op, 200, body⟩)
    (hsegment : (⟨op, 200, body⟩ : Response).segment = utf8 head)
    (houtput : f.output = (showResponse ⟨op, 200, body⟩).1)
    (hfailure : f.failure = (showResponse ⟨op, 200, body⟩).2.2)
    (hcode : f.exitCode = exitCode f.failure) : AgreesWithClient f head c network op s := by
  have hstatus : (⟨op, 200, body⟩ : Response).outcome = .ok := rfl
  have hask : ∀ (α β : Type) [AnswerBody α] (part : α → β), (c.ask α part network op s).answer =
      ((⟨op, 200, body⟩ : Response).decode α).map (Option.map part) := by
    intro α β _ part
    rw [Client.ask, Reply.andThen, hanswer]
    rfl
  cases op with
  | getNode id =>
      simp only [AgreesWithClient, Client.getNode, hask]
      exact agreesWith_of_describe (Line.node id) rfl (Line.flag?_node id)
        (Line.newline_notMem_node id) hsegment hstatus houtput hfailure hcode
  | getEdge a b =>
      simp only [AgreesWithClient, Client.getEdge, hask]
      exact agreesWith_of_describe (Line.edge a b) rfl (Line.flag?_edge a b)
        (Line.newline_notMem_edge a b) hsegment hstatus houtput hfailure hcode
  | getNeighbors id =>
      simp only [AgreesWithClient, Client.getNeighbors, hask]
      exact agreesWith_of_describe (Line.neighbors id) rfl (Line.neighbors?_neighbors id)
        (Line.newline_notMem_neighbors id) hsegment hstatus houtput hfailure hcode
  | shortestPath a b =>
      simp only [AgreesWithClient, Client.shortestPath, hask]
      exact agreesWith_of_describe (Line.distance a b) rfl (Line.hops?_distance a b)
        (Line.newline_notMem_distance a b) hsegment hstatus houtput hfailure hcode
  | _ =>
      refine ⟨hcode.trans ?_, hfailure, Eq.trans houtput hsegment⟩
      rw [hfailure]
      rfl

/-! ## The command -/

/-- With a client the work of the command is one operation. -/
theorem call_of_client (world : Surroundings σ) {settings : Settings} {c : Client}
    (hc : Client.ofEndpoint settings.endpoint = .ok c) (op : Operation) (s : σ) :
    let answer := (c.post world.network op s).answer
    let work := call world settings op s
    work.state = (c.post world.network op s).state
      ∧ (∀ e, answer = .error e → work.output = []
          ∧ work.failure = some ⟨"request " ++ op.display ++ " failed", some e.message⟩)
      ∧ ∀ r, answer = .ok r →
          work.output = (showResponse r).1 ∧ work.failure = (showResponse r).2.2 := by
  intro answer work
  have hanswer : answer = (c.post world.network op s).answer := rfl
  have hwork : work = call world settings op s := rfl
  simp only [call, hc] at hwork
  cases h : answer with
  | error e =>
      rw [← hanswer, h] at hwork
      rw [hwork]
      exact ⟨rfl, fun _ he => Except.error.inj he ▸ ⟨rfl, rfl⟩, fun _ he => nomatch he⟩
  | ok r =>
      rw [← hanswer, h] at hwork
      rw [hwork]
      exact ⟨rfl, fun _ he => (nomatch he), fun _ he => Except.ok.inj he ▸ ⟨rfl, rfl⟩⟩

/-- **A command for one operation agrees with the client**, and every operation
has a command. It sends the one request that asks for the operation. Without an
answer nothing is printed; an answer that is not 200 is printed as its status;
and of a good one the body is printed and what the client's method finds in it. -/
theorem start_call {world : Surroundings σ} {arguments : List String} {config : Option String}
    {op : Operation} {settings : Settings} {filter : LogFilter} {c : Client}
    {server : Http.Server σ}
    (hparse : CommandLine.parse arguments = some (.invoke ⟨config, .call op⟩))
    (hload : world.load config = .ok settings)
    (hfilter : LogFilter.ofText? world.isMatcher settings.run.logLevel = some filter)
    (hclient : Client.ofEndpoint settings.endpoint = .ok c)
    (hkind : Url.SchemeKind.ofScheme c.baseUrl.scheme = .internet)
    (hleads : c.LeadsTo world.network server) (s : σ) :
    let f := start world.recorded arguments (s, [])
    let delivery := (server op.name op.payload.json s).1
    CommandLine.parse op.commandLine = some (.invoke ⟨none, .call op⟩)
      ∧ (∃ request, f.state = ((server op.name op.payload.json s).2, [request]) ∧ request.Asks op)
      ∧ (delivery = .lost ∨ (∃ body, delivery = .answered 200 body false) →
          f.output = [] ∧ f.exitCode = 1
            ∧ f.failure.map Failure.message = some ("request " ++ op.display ++ " failed"))
      ∧ (∀ status body complete, delivery = .answered status body complete → status ≠ 200 →
          f.output = utf8 (Decimal.text status.toNat ++ "\n") ∧ f.exitCode = 0)
      ∧ ∀ body text, delivery = .answered 200 body true → Text.Reads body text →
          AgreesWithClient f ("200\n" ++ text ++ "\n") c world.network op s := by
  intro f delivery
  have hload : world.recorded.load config = .ok settings := hload
  let work := call world.recorded settings op (s, [])
  have hfilter' : LogFilter.ofText? world.recorded.isMatcher settings.run.logLevel = some filter :=
    hfilter
  have hf : f = work.finish filter := by
    have hwork : f = underFilter world.recorded settings.run.logLevel
        (perform world.recorded settings (.call op)) (s, []) :=
      start_invoke hparse hload (s, [])
    rw [hwork, underFilter_of_filter hfilter']
    rfl
  have hcode : f.exitCode = exitCode f.failure := by rw [hf, Work.finish]
  have hfailure : f.failure = work.failure := by rw [hf, Work.finish]
  have houtput : f.output = work.output := by rw [hf, Work.finish]
  have hstate : f.state = work.state := by rw [hf, Work.finish]
  obtain ⟨(hreached : work.state = _), hrefused, hanswered⟩ :=
    call_of_client world.recorded hclient op (s, [])
  obtain ⟨hanswer, hsent⟩ := c.service_recorded world.network op s []
  obtain ⟨dirs, hendpoint⟩ := Client.endpoint_ofBase hclient hkind
  have hears := Client.hears hclient hkind hleads
  have hheard : Http.Heard op (Http.withoutLogin (c.baseUrl.inDirectory dirs op.name)) delivery
      (c.post world.network op s).answer := hears.answer op _ (hendpoint op) s
  refine ⟨CommandLine.parse_commandLine op, ?_, ?_, ?_, ?_⟩
  · have hrequest : c.request? op =
        some (.to (c.baseUrl.inDirectory dirs op.name) op.payload.json) := by
      simp only [Client.request?, hendpoint, if_pos (hleads.sendable op _ (hendpoint op))]
    refine ⟨_, ?_, Client.asks_of_request? hclient hkind hrequest⟩
    rw [hstate, hreached]
    refine hsent.trans ?_
    rw [hears.state, hrequest]
    rfl
  · intro hlost
    obtain ⟨e, he⟩ : ∃ e, (c.post world.network op s).answer = .error e := by
      rcases hlost with hd | ⟨body, hd⟩
      · exact ⟨_, (hd ▸ hheard).eq .lost⟩
      · exact ⟨_, (hd ▸ hheard).eq .truncated⟩
    obtain ⟨hnothing, hfails⟩ := hrefused e (hanswer.trans he)
    rw [hcode, hfailure, houtput, hnothing, hfails]
    exact ⟨rfl, rfl, rfl⟩
  · intro status body complete hd hstatus
    have hanswer' : (c.post world.network op s).answer = .ok ⟨op, status, none⟩ :=
      (hd ▸ hheard).eq (.unread hstatus)
    obtain ⟨hshown, hfine⟩ := hanswered _ (hanswer.trans hanswer')
    have hnot : (⟨op, status, none⟩ : Response).outcome ≠ .ok := fun h =>
      hstatus (outcome_eq_ok_iff.mp h)
    rw [hcode, hfailure, houtput, hshown, hfine, showResponse, if_neg hnot]
    exact ⟨by simp [Response.segment], rfl⟩
  · intro body text hd htext
    have hanswer' : (c.post world.network op s).answer = .ok ⟨op, 200, some text⟩ :=
      (hd ▸ hheard).eq (.read htext)
    obtain ⟨hshown, hfine⟩ := hanswered _ (hanswer.trans hanswer')
    exact agreesWithClient hanswer' (segment_success op text) (houtput.trans hshown)
      (hfailure.trans hfine) hcode

/-- Two neighbors of the node 1. -/
theorem start_call_neighbors :
    let world := Surroundings.scripted [("GRAPH_DRIVER_HOST", utf8 "[::1]")]
    let body := "\x7b\"neighbors\":[5,0],\"node_id\":1\x7d"
    let script : List Http.Delivery := [.answered 200 (utf8 body) true]
    let f := start world.recorded ["get-neighbors", "1"] (script, [])
    (∃ request, f.state = ([], [request]) ∧ request.Asks (.getNeighbors 1))
      ∧ f.exitCode = 0
      ∧ ∃ line, f.output = utf8 ("200\n" ++ body ++ "\n" ++ (line ++ "\n"))
          ∧ '\n' ∉ line.toList ∧ Line.neighbors? line = some [5, 0] := by
  intro world body script f
  let settings : Settings := ⟨⟨"http", "[::1]", 8000, "api/v1"⟩, ⟨20, .proceed, "info"⟩⟩
  let c : Client := ⟨"http", some ⟨"", none, .ipv6 [0, 0, 0, 0, 0, 0, 0, 1], some 8000⟩,
    .rooted ["api", "v1"] "", none, none⟩
  have hparse : CommandLine.parse ["get-neighbors", "1"] =
      some (.invoke ⟨none, .call (.getNeighbors 1)⟩) := by decide +kernel
  have hload : world.load none = .ok settings := by decide +kernel
  have hfilter : LogFilter.ofText? world.isMatcher settings.run.logLevel = some .standard := by
    decide +kernel
  have hclient : Client.ofEndpoint settings.endpoint = .ok c := by decide +kernel
  have hleads : c.LeadsTo world.network .scripted := by
    refine ⟨fun op u hu => ?_, fun _ _ _ _ _ _ => rfl⟩
    obtain rfl := Except.ok.inj hu
    exact c.isSendable_of_short rfl (by decide +kernel) (by decide +kernel) op
  have hfound : (c.getNeighbors world.network 1 script).answer = .ok (some [5, 0]) := by
    decide +kernel
  have htext : Text.Reads (utf8 body) body := Text.reads_iff.mpr (by decide +kernel)
  obtain ⟨-, hsent, -, -, hprinted⟩ := start_call hparse hload hfilter hclient rfl hleads script
  have hagrees : AgreesWith f ("200\n" ++ body ++ "\n")
    (c.getNeighbors world.network 1 script).answer Line.neighbors? := hprinted _ body rfl htext
  obtain ⟨hcode, -, hline⟩ := hagrees.found _ hfound
  exact ⟨hsent, hcode, hline⟩

end Program

end GraphCourier
