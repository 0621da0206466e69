import Mathlib.Data.List.Forall2
import GraphCourier.Proofs.Decoding
import GraphCourier.Proofs.Endpoints
import GraphCourier.Proofs.Trace

/-!
# Runs over HTTP

A client is a service only by way of a network, and the network may take its
requests anywhere. `Client.LeadsTo` says that it takes them to a server, which
sees the name at the end of the path and the body, and no more of a request.

`Heard` says what becomes of a delivery: of a body, only if the status is 200.
A service that hears a server directly makes the same runs as a client that is
led to it (`run_over_http`), and so do two clients that are led to servers whose
answers differ in nothing that counts. Both are cases of one fact: services that
answer alike from related states make the same runs (`run_of_agree`).
-/

namespace GraphCourier

variable {σ τ : Type}

/-! ## Services that answer alike -/

/-- Two services that give the same answers in related states, and stay in such
states. -/
def Service.Agree (a : Service σ) (b : Service τ) (R : σ → τ → Prop) : Prop :=
  ∀ op s t, R s t → (a op s).answer = (b op t).answer ∧ R (a op s).state (b op t).state

theorem Service.exchanges_of_agree {a : Service σ} {b : Service τ} {R : σ → τ → Prop}
    (h : a.Agree b R) {s : σ} {t : τ} (hst : R s t) (ops : List Operation) :
    a.exchanges ops s = b.exchanges ops t ∧ R (a.after ops s) (b.after ops t) := by
  induction ops generalizing s t with
  | nil => exact ⟨rfl, hst⟩
  | cons op ops ih =>
      obtain ⟨hanswer, hstate⟩ := h op s t hst
      obtain ⟨hexchanges, hafter⟩ := ih hstate
      exact ⟨by rw [exchanges, exchanges, hanswer, hexchanges], hafter⟩

/-- What a run does depends on the answers of the service alone. -/
theorem run_of_agree {a : Service σ} {b : Service τ} {R : σ → τ → Prop} (h : a.Agree b R)
    {s : σ} {t : τ} (hst : R s t) (policy : FailurePolicy) (schedule : Schedule) (sink : Sink) :
    let r := run a policy schedule s sink
    let r' := run b policy schedule t sink
    r.steps = r'.steps ∧ r.result = r'.result ∧ R r.reached.state r'.reached.state := by
  intro r r'
  obtain ⟨(hsteps : r.steps = _), (hresult : r.result = _)⟩ :=
    run_trace a policy schedule s sink rfl rfl
  obtain ⟨(hsteps' : r'.steps = _), (hresult' : r'.result = _)⟩ :=
    run_trace b policy schedule t sink rfl rfl
  obtain ⟨hexchanges, -⟩ := Service.exchanges_of_agree h hst schedule.toList
  rw [hexchanges] at hsteps hresult
  have hsame : r.steps = r'.steps := hsteps.trans hsteps'.symm
  refine ⟨hsame, hresult.trans hresult'.symm, ?_⟩
  have hsent : r.sent = r'.sent := congrArg (List.map Step.operation) hsame
  have hstate : r.reached.state = a.after r.sent s := state_eq_after a policy schedule s sink
  have hstate' : r'.reached.state = b.after r'.sent t := state_eq_after b policy schedule t sink
  rw [hstate, hstate', ← hsent]
  exact (Service.exchanges_of_agree h hst r.sent).2

/-! ## Servers -/

namespace Http

/-- The name at the end of the path of a request. -/
def Request.name (r : Request) : String := Url.afterSlash r.url.path.text

/-- What a server answers, by the name at the end of the path and the body. -/
abbrev Server (σ : Type) := (name body : String) → σ → Delivery × σ

/-- What is heard of an operation that was sent to a URL. -/
inductive Heard (op : Operation) (url : Url) : Delivery → Except ClientError Response → Prop where
  | lost : Heard op url .lost (.error (.http .sending url.text))
  | truncated {body : Bytes} :
    Heard op url (.answered 200 body false) (.error (.http .receiving url.text))
  | read {body : Bytes} {text : String} (h : Text.Reads body text) :
    Heard op url (.answered 200 body true) (.ok ⟨op, 200, some text⟩)
  | unread {status : UInt16} {body : Bytes} {complete : Bool} (h : status ≠ 200) :
    Heard op url (.answered status body complete) (.ok ⟨op, status, none⟩)

/-- Deliveries that are the same but for a body that does not count, or the loss
of its end. -/
inductive Delivery.Alike : Delivery → Delivery → Prop where
  | refl (d : Delivery) : Alike d d
  | unread {status : UInt16} (h : status ≠ 200) (body body' : Bytes) (complete complete' : Bool) :
    Alike (.answered status body complete) (.answered status body' complete')

/-- Two servers whose answers are alike in related states, and that stay in such
states. -/
def Server.Alike (server : Server σ) (server' : Server τ) (R : σ → τ → Prop) : Prop :=
  ∀ name body s t, R s t → (server name body s).1.Alike (server' name body t).1
    ∧ R (server name body s).2 (server' name body t).2

variable {op : Operation} {url : Url} {d d' : Delivery} {x y : Except ClientError Response}

theorem Heard.eq (hx : Heard op url d x) (hy : Heard op url d y) : x = y := by
  cases hx with
  | lost => cases hy with
    | lost => rfl
  | truncated => cases hy with
    | truncated => rfl
    | unread h => exact absurd rfl h
  | read h => cases hy with
    | read h' => rw [Text.reads_iff.mp h, Text.reads_iff.mp h']
    | unread h => exact absurd rfl h
  | unread h => cases hy with
    | truncated | read => exact absurd rfl h
    | unread => rfl

theorem Heard.eq_of_unread {status : UInt16} {body : Bytes} {complete : Bool} (h : status ≠ 200)
    (hx : Heard op url (.answered status body complete) x) : x = .ok ⟨op, status, none⟩ :=
  hx.eq (.unread h)

theorem Heard.eq_of_alike (hx : Heard op url d x) (hd : d.Alike d') (hy : Heard op url d' y) :
    x = y := by
  cases hd with
  | refl => exact hx.eq hy
  | unread h => rw [hx.eq_of_unread h, hy.eq_of_unread h]

end Http

/-! ## Clients that are led to a server -/

/-- Requests for the endpoints of a client can be sent, and reach a server. -/
structure Client.LeadsTo (c : Client) (network : Http.Network σ) (server : Http.Server σ) :
    Prop where
  sendable : ∀ op url, c.endpoint op = .ok url → Http.isSendable (Http.withoutLogin url) = true
  carries : ∀ op url, c.endpoint op = .ok url → ∀ r : Http.Request, r.url = Http.withoutLogin url →
    ∀ s, network r s = server r.name r.body s

/-- A service that hears what a server answers to operations. The client tells
the URLs that failures name. -/
structure Service.Hears (service : Service σ) (c : Client) (server : Http.Server σ) : Prop where
  answer : ∀ op url, c.endpoint op = .ok url → ∀ s,
    Http.Heard op (Http.withoutLogin url) (server op.name op.payload.json s).1
      (service op s).answer
  state : ∀ op s, (service op s).state = (server op.name op.payload.json s).2

/-- What a client makes of a request that is delivered. -/
theorem Client.post_delivered {c : Client} {network : Http.Network σ} {op : Operation} {url : Url}
    {d : Http.Delivery} {s s' : σ} (hurl : c.endpoint op = .ok url)
    (hsendable : Http.isSendable (Http.withoutLogin url) = true)
    (hnetwork : network ⟨Http.withoutLogin url, Http.login? url, op.payload.json⟩ s = (d, s')) :
    Http.Heard op (Http.withoutLogin url) d (c.post network op s).answer
      ∧ (c.post network op s).state = s' := by
  simp only [post, hurl, Http.exchange, if_pos hsendable, hnetwork]
  cases d with
  | lost => exact ⟨.lost, rfl⟩
  | answered status body complete =>
      by_cases hstatus : status = 200
      · subst hstatus
        cases complete with
        | false => exact ⟨.truncated, rfl⟩
        | true => exact ⟨.read (Text.reads_iff.mpr rfl), rfl⟩
      · simp only [Http.received, if_neg hstatus]
        exact ⟨.unread hstatus, trivial⟩

/-- A client hears the server that it is led to. -/
theorem Client.hears {base : String} {c : Client} (hbase : ofBase base = .ok c)
    (hkind : Url.SchemeKind.ofScheme c.baseUrl.scheme = .internet) {network : Http.Network σ}
    {server : Http.Server σ} (hleads : c.LeadsTo network server) :
    (c.service network).Hears c server := by
  obtain ⟨dirs, hendpoint⟩ := endpoint_ofBase hbase hkind
  have hpost : ∀ op s, Http.Heard op (Http.withoutLogin (c.baseUrl.inDirectory dirs op.name))
      (server op.name op.payload.json s).1 (c.post network op s).answer
        ∧ (c.post network op s).state = (server op.name op.payload.json s).2 := by
    intro op s
    refine post_delivered (hendpoint op) (hleads.sendable op _ (hendpoint op)) ?_
    rw [hleads.carries op _ (hendpoint op) _ rfl, Http.Request.name, Http.path_withoutLogin,
      Url.inDirectory, Url.afterSlash_rooted dirs op.slash_notMem_name]
  refine ⟨fun op url hurl s => ?_, fun op s => (hpost op s).2⟩
  obtain rfl := Except.ok.inj ((hendpoint op).symm.trans hurl)
  exact (hpost op s).1

/-- Services that hear alike servers give the same answers. -/
theorem Service.Hears.agree {a : Service σ} {b : Service τ} {c : Client} {server : Http.Server σ}
    {server' : Http.Server τ} {R : σ → τ → Prop} (hc : ∀ op, ∃ url, c.endpoint op = .ok url)
    (ha : a.Hears c server) (hb : b.Hears c server') (h : server.Alike server' R) :
    a.Agree b R := by
  intro op s t hst
  obtain ⟨url, hurl⟩ := hc op
  obtain ⟨halike, hnext⟩ := h op.name op.payload.json s t hst
  rw [ha.state, hb.state]
  exact ⟨(ha.answer op url hurl s).eq_of_alike halike (hb.answer op url hurl t), hnext⟩

/-- **A run over HTTP** is a run of any service that hears the server itself, and
there is such a service. If the client is led to another server, which answers
alike, then the run is the same again. -/
theorem run_over_http {base : String} {c : Client} (hbase : Client.ofBase base = .ok c)
    (hkind : Url.SchemeKind.ofScheme c.baseUrl.scheme = .internet) {network : Http.Network σ}
    {server : Http.Server σ} (hleads : c.LeadsTo network server) (policy : FailurePolicy)
    (schedule : Schedule) (s : σ) (sink : Sink) :
    let r := run (c.service network) policy schedule s sink
    (∃ direct : Service σ, direct.Hears c server)
      ∧ (∀ direct : Service σ, direct.Hears c server →
          let r' := run direct policy schedule s sink
          r.steps = r'.steps ∧ r.result = r'.result ∧ r.reached.state = r'.reached.state)
      ∧ ∀ (τ : Type) (network' : Http.Network τ) (server' : Http.Server τ) (R : σ → τ → Prop)
          (t : τ), c.LeadsTo network' server' → server.Alike server' R → R s t →
          let r' := run (c.service network') policy schedule t sink
          r.steps = r'.steps ∧ r.result = r'.result ∧ R r.reached.state r'.reached.state := by
  intro r
  have hc : ∀ op, ∃ url, c.endpoint op = .ok url := by
    obtain ⟨dirs, h⟩ := Client.endpoint_ofBase hbase hkind
    exact fun op => ⟨_, h op⟩
  have hears := Client.hears hbase hkind hleads
  refine ⟨⟨_, hears⟩, fun direct hdirect => ?_, fun τ network' server' R t hleads' halike hst => ?_⟩
  · have hsame : server.Alike server Eq := by
      rintro name body s _ rfl
      exact ⟨.refl _, rfl⟩
    exact run_of_agree (hears.agree hc hdirect hsame) rfl policy schedule sink
  · have hears' := Client.hears hbase hkind hleads'
    exact run_of_agree (hears.agree hc hears' halike) hst policy schedule sink

/-! ## A server at hand -/

namespace Http

/-- A server whose deliveries are laid down beforehand. -/
def Server.scripted : Server (List Delivery) := fun _ _ script =>
  match script with
  | [] => (.lost, [])
  | delivery :: later => (delivery, later)

/-- A network that leads everywhere to one server. -/
def Server.network (server : Server σ) : Network σ := fun r s => server r.name r.body s

theorem Server.scripted_alike : Server.scripted.Alike .scripted (List.Forall₂ Delivery.Alike) := by
  intro name body s t hst
  cases hst with
  | nil => exact ⟨.refl _, .nil⟩
  | cons hd hlater => exact ⟨hd, hlater⟩

end Http

/-- Three operations: a text with a mark before it and a byte too much, a refusal
of which nobody reads the body, and a text that is cut off. -/
theorem run_over_http_until_cut_off :
    let base := "http://me:secret@[::1]:8000/api/v1"
    let schedule : Schedule := .ofList [.addNode 1, .addNode 2, .checkpoint]
    let read : Http.Delivery := .answered 200 [0xEF, 0xBB, 0xBF, 0x6F, 0x6B, 0xFF] true
    let script := [read, .answered 404 [0xC3] false, .answered 200 [0x6F] false]
    let script' := [read, .answered 404 [] true, .answered 200 [0x6F] false]
    let server := Http.Server.scripted
    ∃ c, Client.ofBase base = .ok c
      ∧ (∃ direct : Service (List Http.Delivery), direct.Hears c server
          ∧ (run direct .proceed schedule script .unlimited).report =
              utf8 "200\nok\ufffd\n404\n")
      ∧ (run (c.service server.network) .proceed schedule script' .unlimited).result =
          .error (.transport "checkpoint()"
            (.http .receiving "http://[::1]:8000/api/v1/checkpoint")) := by
  intro base schedule read script script' server
  let url : Url :=
    ⟨"http", some ⟨"me", some "secret", .ipv6 [0, 0, 0, 0, 0, 0, 0, 1], some 8000⟩,
      .rooted ["api", "v1"] "", none, none⟩
  have hbase : Client.ofBase base = .ok ⟨url⟩ := by decide +kernel
  have hleads : Client.LeadsTo ⟨url⟩ server.network server := by
    refine ⟨fun op u hu => ?_, fun _ _ _ _ _ _ => rfl⟩
    obtain rfl := Except.ok.inj hu
    exact Client.isSendable_of_short rfl (by decide +kernel) (by decide +kernel) op
  obtain ⟨⟨direct, hdirect⟩, hsame, halike⟩ :=
    run_over_http hbase rfl hleads .proceed schedule script .unlimited
  obtain ⟨-, hresult, -⟩ := halike _ server.network server _ script' hleads
    Http.Server.scripted_alike
    (.cons (.refl _) (.cons (.unread (by decide) ..) (.cons (.refl _) .nil)))
  obtain ⟨hsteps, -, -⟩ := hsame direct hdirect
  refine ⟨⟨url⟩, hbase, ⟨direct, hdirect, ?_⟩, ?_⟩
  · rw [Run.report, ← hsteps]
    decide +kernel
  · rw [← hresult]
    decide +kernel

end GraphCourier
