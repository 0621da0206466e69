import Mathlib.Data.List.Forall2
import GraphCourier.Http.Wire
import GraphCourier.Proofs.OperationText
import GraphCourier.Proofs.OverHttp

/-!
# The requests of a client

`Network.recorded` is a network that keeps the requests it is given. Keeping
them changes nothing for the client (`Client.service_recorded`), so what is kept in
a run tells which requests any run makes: one for each operation sent, in order
(`run_recorded`).

A request names its operation in the last part of its path and carries the
identifiers in its body (`Request.Asks`), so the operations of a client can be
read off its requests (`requests_determine_operations`). An operation whose URL
fits into no request is the one exception. It is refused before anything is
sent (`Client.post_of_request?_none`).
-/

namespace GraphCourier

variable {σ : Type}

namespace Http

/-- A network that keeps the requests it is given, in order. -/
def Network.recorded (network : Network σ) : Network (σ × List Request) := fun r s =>
  ((network r s.1).1, (network r s.1).2, s.2 ++ [r])

/-- The request that brings a body to a URL. -/
def Request.to (url : Url) (body : String) : Request := ⟨withoutLogin url, login? url, body⟩

/-- The operation that the end of the path and the body of a request stand for. -/
def Request.operation? (r : Request) : Option Operation := Operation.ofWire? r.name r.body

/-- A request asks for an operation: it is a POST of JSON to a path that ends in
the name, and the body is an object of nothing but the identifiers. The name
and the body make up the call that is shown for the operation. -/
structure Request.Asks (r : Request) (op : Operation) : Prop where
  line : r.head.head? = some ("POST " ++ r.url.path.text ++ " HTTP/1.1")
  contentType : "content-type: application/json" ∈ r.head
  name : r.name = op.name
  body : r.body = op.body.text
  parsed : parseAnswer Json.Value r.body = .ok op.body
  call : Operation.callForm r.name op.body = op.display
  operation : r.operation? = some op

end Http

/-! ## Recording -/

namespace Client

variable (c : Client) (network : Http.Network σ)

/-- The request for an operation, unless its URL fits into none. -/
def request? (op : Operation) : Option Http.Request :=
  match c.endpoint op with
  | .error _ => none
  | .ok url =>
    if Http.isSendable (Http.withoutLogin url) then some (.to url op.payload.json) else none

/-- Whether there is a request for an operation. -/
def canAsk (op : Operation) : Bool := (c.request? op).isSome

theorem service_recorded (op : Operation) (s : σ) (seen : List Http.Request) :
    (c.service network.recorded op (s, seen)).answer = (c.service network op s).answer
      ∧ (c.service network.recorded op (s, seen)).state =
          ((c.service network op s).state, seen ++ (c.request? op).toList) := by
  unfold service post request?
  cases c.endpoint op with
  | error e => exact ⟨rfl, by simp⟩
  | ok url =>
      simp only [Http.exchange]
      by_cases hsend : Http.isSendable (Http.withoutLogin url) = true
      · obtain ⟨d, s', hnetwork⟩ :
            ∃ d s', network (.to url op.payload.json) s = (d, s') := ⟨_, _, rfl⟩
        rw [Http.Request.to] at hnetwork ⊢
        simp only [if_pos hsend, Http.Network.recorded, hnetwork]
        cases Http.received (Http.withoutLogin url) d with
        | error e => exact ⟨rfl, rfl⟩
        | ok received => exact ⟨rfl, rfl⟩
      · simp [if_neg hsend]

theorem after_recorded (ops : List Operation) (s : σ) (seen : List Http.Request) :
    (c.service network.recorded).after ops (s, seen) =
      ((c.service network).after ops s, seen ++ ops.filterMap c.request?) := by
  induction ops generalizing s seen with
  | nil => simp [Service.after]
  | cons op ops ih =>
      obtain ⟨-, hstate⟩ := c.service_recorded network op s seen
      rw [Service.after, Service.after, hstate, ih, List.append_assoc]
      cases h : c.request? op <;> simp [h]

/-- A run is the same on a network that keeps its requests. Those are one for
each operation that was sent, in order. -/
theorem run_recorded (policy : FailurePolicy) (schedule : Schedule) (s : σ) (sink : Sink) :
    let r := run (c.service network.recorded) policy schedule (s, []) sink
    let r' := run (c.service network) policy schedule s sink
    r.steps = r'.steps ∧ r.result = r'.result
      ∧ r.reached.state = (r'.reached.state, r'.sent.filterMap c.request?) := by
  intro r r'
  have hagree : (c.service network.recorded).Agree (c.service network) fun t s => t.1 = s := by
    rintro op ⟨s, seen⟩ _ rfl
    obtain ⟨hanswer, hstate⟩ := c.service_recorded network op s seen
    exact ⟨hanswer, congrArg Prod.fst hstate⟩
  obtain ⟨(hsteps : r.steps = r'.steps), (hresult : r.result = r'.result), -⟩ :=
    run_of_agree hagree (s := (s, [])) (t := s) rfl policy schedule sink
  refine ⟨hsteps, hresult, ?_⟩
  have hsent : r.sent = r'.sent := congrArg (List.map Step.operation) hsteps
  rw [state_eq_after, state_eq_after, after_recorded, hsent]
  rfl

/-- An operation without a request is refused before anything is sent. -/
theorem post_of_request?_none {op : Operation} {url : Url} (hurl : c.endpoint op = .ok url)
    (h : c.request? op = none) (s : σ) :
    (c.post network op s).answer = .error (.http .building (Http.withoutLogin url).text) := by
  simp only [request?, hurl] at h
  split at h
  · cases h
  · rename_i hsend
    simp only [post, hurl, Http.exchange, if_neg hsend]

variable {c}

/-- The request for an operation under a base of an Internet scheme asks for it. -/
theorem asks_of_request? {base : String} (hbase : ofBase base = .ok c)
    (hkind : Url.SchemeKind.ofScheme c.baseUrl.scheme = .internet) {op : Operation}
    {r : Http.Request} (h : c.request? op = some r) : r.Asks op := by
  obtain ⟨dirs, hendpoint⟩ := endpoint_ofBase hbase hkind
  simp only [request?, hendpoint] at h
  split at h
  · obtain rfl := Option.some.inj h
    have hpath : (Http.withoutLogin (c.baseUrl.inDirectory dirs op.name)).path =
        .rooted dirs op.name := Http.path_withoutLogin _
    have hquery : (Http.withoutLogin (c.baseUrl.inDirectory dirs op.name)).query = none := by
      unfold Http.withoutLogin
      split <;> rfl
    have hname : Http.Request.name (.to (c.baseUrl.inDirectory dirs op.name) op.payload.json) =
        op.name := by
      rw [Http.Request.name, Http.Request.to, hpath]
      exact Url.afterSlash_rooted dirs op.slash_notMem_name
    refine ⟨?_, ?_, hname, op.json_payload, op.parse_payload, ?_, ?_⟩
    · simp [Http.Request.head, Http.Request.target, Http.Request.to, hquery, Http.Request.method]
    · simp [Http.Request.head, Http.Request.contentType]
    · rw [hname, op.callForm_body]
    · rw [Http.Request.operation?, hname]
      exact op.ofWire?_payload
  · cases h

/-! ## Operations that have a request -/

/-- **For which bases an operation has a request**: for those to whose host requests
can go, unless the URL is too long. Before the name there stands the base URL up to
the last slash of its path, without credentials. -/
theorem canAsk_iff {base : String} (hbase : ofBase base = .ok c)
    (hkind : Url.SchemeKind.ofScheme c.baseUrl.scheme = .internet) :
    ∃ dirs last, c.baseUrl.path = .rooted dirs last
      ∧ ∀ op, c.canAsk op = true ↔ Http.Addressable c.baseUrl
        ∧ (utf8 (((Http.withoutLogin c.baseUrl).inDirectory dirs "").text ++ op.name)).length
            ≤ Http.maxUrlLength := by
  obtain ⟨dirs, last, hpath⟩ := Url.path_of_parse (parse_of_ofBase hbase) hkind
  refine ⟨dirs, last, hpath, fun op => ?_⟩
  rw [← Http.isSendable_inDirectory, canAsk, request?, endpoint_rooted hkind hpath]
  simp

/-- Under a short base there is a request for every operation, or for none. -/
theorem canAsk_of_short {base : String} (hbase : ofBase base = .ok c)
    (hkind : Url.SchemeKind.ofScheme c.baseUrl.scheme = .internet)
    (hshort : (utf8 (Http.withoutLogin c.baseUrl).text).length + 13 ≤ Http.maxUrlLength)
    (op : Operation) : c.canAsk op = true ↔ Http.Addressable c.baseUrl := by
  obtain ⟨dirs, last, hpath, hiff⟩ := canAsk_iff hbase hkind
  rw [hiff, and_iff_left_iff_imp]
  intro hhost
  exact (Http.isSendable_inDirectory.mp (isSendable_of_short hpath hhost hshort op)).2

end Client

/-- What was seen of operations that were sent: one request for each that has
one, in order, and from these requests the operations can be read. -/
structure Client.Seen (c : Client) (ops : List Operation) (seen : List Http.Request) : Prop where
  asks : List.Forall₂ Http.Request.Asks seen (ops.filter c.canAsk)
  operations : seen.map Http.Request.operation? = (ops.filter c.canAsk).map some

theorem Http.map_operation?_of_asks {rs : List Http.Request} {ops : List Operation}
    (h : List.Forall₂ Http.Request.Asks rs ops) :
    rs.map Http.Request.operation? = ops.map some := by
  induction h with
  | nil => rfl
  | cons hask _ ih => rw [List.map_cons, List.map_cons, hask.operation, ih]

theorem Client.seen_filterMap {base : String} {c : Client} (hbase : ofBase base = .ok c)
    (hkind : Url.SchemeKind.ofScheme c.baseUrl.scheme = .internet) (ops : List Operation) :
    c.Seen ops (ops.filterMap c.request?) := by
  have hasks : List.Forall₂ Http.Request.Asks (ops.filterMap c.request?) (ops.filter c.canAsk) := by
    induction ops with
    | nil => exact .nil
    | cons op ops ih =>
        cases h : c.request? op with
        | none => simpa [h, canAsk] using ih
        | some r => simpa [h, canAsk] using ⟨asks_of_request? hbase hkind h, ih⟩
  exact ⟨hasks, Http.map_operation?_of_asks hasks⟩

/-- **The requests of a client determine its operations**, whether they are sent
one by one, whatever the answers, or in a run. The server sees one request for
each operation that has one, and each asks for its operation. An operation that
has none is refused at once, with the failure to build a request. And no two
operations are shown as the same call. -/
theorem requests_determine_operations {base : String} {c : Client}
    (hbase : Client.ofBase base = .ok c)
    (hkind : Url.SchemeKind.ofScheme c.baseUrl.scheme = .internet) (network : Http.Network σ)
    (s : σ) :
    (∀ ops, c.Seen ops ((c.service network.recorded).after ops (s, [])).2)
      ∧ (∀ policy schedule sink,
          let r := run (c.service network.recorded) policy schedule (s, []) sink
          let r' := run (c.service network) policy schedule s sink
          c.Seen r.sent r.reached.state.2 ∧ r.steps = r'.steps ∧ r.result = r'.result)
      ∧ (∀ op, c.canAsk op = false → ∃ url, ∀ s,
          (c.post network op s).answer = .error (.http .building url))
      ∧ Function.Injective Operation.display := by
  refine ⟨fun ops => ?_, fun policy schedule sink => ?_, fun op hop => ?_,
    Operation.display_injective⟩
  · rw [c.after_recorded, List.nil_append]
    exact Client.seen_filterMap hbase hkind ops
  · obtain ⟨hsteps, hresult, hstate⟩ := c.run_recorded network policy schedule s sink
    refine ⟨?_, hsteps, hresult⟩
    rw [hstate, Run.sent, hsteps]
    exact Client.seen_filterMap hbase hkind _
  · obtain ⟨dirs, hendpoint⟩ := Client.endpoint_ofBase hbase hkind
    have hnone : c.request? op = none :=
      Option.isNone_iff_eq_none.mp (Option.isSome_eq_false_iff.mp hop)
    exact ⟨_, fun s => c.post_of_request?_none network (hendpoint op) hnone s⟩

/-- Three operations, the first on the largest identifier, to a server that says
yes to everything. -/
theorem requests_determine_operations_largest :
    let ops : List Operation := [.addEdge 7 18446744073709551615, .checkpoint, .getNode 0]
    let agreeing : Http.Network Unit := fun _ s => (.answered 200 [] true, s)
    ∃ c, Client.ofBase "http://me:secret@[::1]:8000/api/v1?x" = .ok c
      ∧ ((c.service agreeing.recorded).after ops ((), [])).2.map Http.Request.operation? =
          ops.map some
      ∧ (run (c.service agreeing.recorded) .abort (.ofList ops) ((), [])
          .unlimited).reached.state.2.map Http.Request.operation? = ops.map some := by
  intro ops agreeing
  let url : Url :=
    ⟨"http", some ⟨"me", some "secret", .ipv6 [0, 0, 0, 0, 0, 0, 0, 1], some 8000⟩,
      .rooted ["api"] "v1", some "x/", none⟩
  have hbase : Client.ofBase "http://me:secret@[::1]:8000/api/v1?x" = .ok ⟨url⟩ := by
    decide +kernel
  have hcan : ops.filter (Client.canAsk ⟨url⟩) = ops := List.filter_eq_self.mpr fun op _ =>
    (Client.canAsk_of_short hbase rfl (by decide +kernel) op).mpr
      (by decide +kernel)
  have hsent : (run (Client.service ⟨url⟩ agreeing.recorded) .abort (.ofList ops) ((), [])
      .unlimited).sent = ops := by decide +kernel
  obtain ⟨hposts, hruns, -⟩ := requests_determine_operations hbase rfl agreeing ()
  obtain ⟨hseen, -⟩ := hruns .abort (.ofList ops) .unlimited
  refine ⟨⟨url⟩, hbase, ?_, ?_⟩
  · rw [(hposts ops).operations, hcan]
  · rw [hseen.operations, hsent, hcan]

end GraphCourier
