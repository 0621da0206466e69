import GraphCourier.Proofs.AnswerLines
import GraphCourier.Proofs.Length
import GraphCourier.Proofs.WholeRun

/-!
# Plans

A plan prints what a run would send, and makes the texts of its URLs without
reading any: it writes the names of operations behind the base of the endpoint.
A run puts them into the directory of the base URL. Both come to the same
(`Url.parse_append`), so the lines of a plan show the endpoints of a client, and
a run makes the requests that the lines stand for, one after the other, up to
where it ends (`plan_shows_run`). A URL may be written with line feeds in it, which
count for nothing where it is read. A plan prints them, and then what it prints for
an operation is no line (`plan_breaks_lines`).
-/

namespace GraphCourier

variable {σ : Type}

theorem Client.exists_request_of_canAsk {c : Client} {op : Operation} (h : c.canAsk op = true) :
    ∃ url, c.endpoint op = .ok url ∧ Http.isSendable (Http.withoutLogin url) = true
      ∧ c.request? op = some (.to url op.payload.json) := by
  obtain ⟨r, hr⟩ := Option.isSome_iff_exists.mp h
  cases hurl : c.endpoint op with
  | error e =>
      simp only [request?, hurl] at hr
      cases hr
  | ok url =>
      simp only [request?, hurl] at hr ⊢
      split at hr
      · rename_i hsend
        exact ⟨url, rfl, hsend, if_pos hsend⟩
      · cases hr

/-! ## Lines -/

/-- What a plan tells of an operation: the text of a URL, and a body. -/
structure PlannedLine where
  url : String
  body : String
deriving DecidableEq, Repr

namespace PlannedLine

def text (l : PlannedLine) : String := "POST " ++ l.url ++ " " ++ l.body

/-- What is printed for some lines, one below the other. -/
def printed (lines : List PlannedLine) : Bytes := lines.flatMap fun l => utf8 (l.text ++ "\n")

/-- What is printed for a line is one line. -/
def OneLine (l : PlannedLine) : Prop := '\n' ∉ l.text.toList

/-- The request that a line stands for. -/
def request? (l : PlannedLine) : Option Http.Request :=
  match Url.parse l.url with
  | .ok url => some (.to url l.body)
  | .error _ => none

/-- A line shows where a client sends an operation, and what it sends. -/
structure Shows (c : Client) (l : PlannedLine) (op : Operation) : Prop where
  url : ∃ url, Url.parse l.url = .ok url ∧ c.endpoint op = .ok url
  body : l.body = op.payload.json

variable {c : Client} {l : PlannedLine} {op : Operation}

/-- If there is a request for an operation, then it is the one of its line. -/
theorem Shows.request?_eq (h : l.Shows c op) (hask : c.canAsk op = true) :
    c.request? op = l.request? := by
  obtain ⟨⟨url, hparse, hendpoint⟩, hbody⟩ := h
  obtain ⟨url', hurl, -, hrequest⟩ := Client.exists_request_of_canAsk hask
  obtain rfl := Except.ok.inj (hendpoint.symm.trans hurl)
  rw [hrequest, request?, hparse, hbody]

/-- The line for an operation under a base text. -/
def ofOperation (base : String) (op : Operation) : PlannedLine := ⟨base ++ op.name, op.payload.json⟩

theorem text_ofOperation (base : String) (op : Operation) :
    (ofOperation base op).text ++ "\n" = Program.planLine base op := by
  simp only [text, ofOperation, Program.planLine, String.append_assoc]

theorem newline_notMem_json (p : Payload) : '\n' ∉ p.json.toList := by
  have hid := Line.newline_notMem_text
  cases p with
  | empty => decide
  | node id => simp [Payload.json, Payload.members, hid id]
  | edge a b => simp [Payload.json, Payload.members, hid a, hid b]

theorem newline_notMem_name (op : Operation) : '\n' ∉ op.name.toList := by
  cases op <;> simp [Operation.name]

/-- Line feeds can only come from the texts of the endpoint. -/
theorem oneLine_ofOperation {e : Endpoint} (hscheme : '\n' ∉ e.scheme.toList)
    (hhost : '\n' ∉ e.host.toList) (hapi : '\n' ∉ e.apiPrefix.toList) (op : Operation) :
    (ofOperation e.baseUrl op).OneLine := by
  have hne : ∀ {cs : List Char}, '\n' ∉ cs → ∀ c ∈ cs, c ≠ '\n' := fun hcs c hc heq =>
    hcs (heq ▸ hc)
  have hbase : '\n' ∉ e.baseUrl.toList := fun hmem =>
    e.forall_mem_baseUrl (hne hscheme) (hne hhost) (hne hapi) (by decide) (by decide)
      (fun c hc heq => by subst heq; cases hc) '\n' hmem rfl
  simp only [OneLine, text, ofOperation, String.toList_append, List.mem_append, not_or]
  exact ⟨⟨⟨by decide, hbase, newline_notMem_name op⟩, by decide⟩, newline_notMem_json _⟩

/-- The lines under the base of an endpoint show where its client sends. -/
theorem shows_ofOperation {e : Endpoint} {c : Client}
    (hscheme : e.scheme = "http" ∨ e.scheme = "https") (hhost : Url.Unmarked e.host.toList)
    (hapi : Url.Unmarked e.apiPrefix.toList) (hc : Client.ofEndpoint e = .ok c)
    (op : Operation) : (ofOperation e.baseUrl op).Shows c op := by
  have hparse := Client.parse_of_ofEndpoint hc
  have hkind : Url.SchemeKind.ofScheme c.baseUrl.scheme = .internet := by
    rw [e.scheme_of_parse hscheme hparse]
    rcases hscheme with hscheme | hscheme
    · rw [hscheme]
      rfl
    · rw [hscheme]
      rfl
  have hunmarked : Url.Unmarked e.scheme.toList := by
    rcases hscheme with hscheme | hscheme
    · simp [hscheme, Url.Unmarked]
    · simp [hscheme, Url.Unmarked]
  obtain ⟨dirs, hbase, hnames⟩ := Url.parse_append hparse hkind e.endsInSlash_baseUrl
    (e.unmarked_baseUrl hunmarked hhost hapi)
  have hpath : c.baseUrl.path = .rooted dirs "" := congrArg Url.path hbase
  exact ⟨⟨_, hnames op.name (Url.isName_operation op), Client.endpoint_rooted hkind hpath op⟩, rfl⟩

end PlannedLine

/-! ## Operations that are answered -/

theorem Service.answer_of_mem_exchanges {service : Service σ} {ops : List Operation} {s : σ}
    {x : Exchange} (h : x ∈ service.exchanges ops s) :
    ∃ s', x.answer = (service x.operation s').answer := by
  induction ops generalizing s with
  | nil => cases h
  | cons op ops ih =>
      rcases List.mem_cons.mp h with rfl | h
      · exact ⟨s, rfl⟩
      · exact ih h

namespace Client

variable {c : Client} {network : Http.Network σ}

/-- Only an operation that has a request is answered. -/
theorem canAsk_of_answer {x : Exchange} {ops : List Operation} {s : σ}
    (hx : x ∈ (c.service network).exchanges ops s) {r : Response} (h : x.answer = .ok r) :
    c.canAsk x.operation = true := by
  obtain ⟨s', hanswer⟩ := Service.answer_of_mem_exchanges hx
  have hpost : (c.post network x.operation s').answer = .ok r := hanswer.symm.trans h
  cases hask : c.request? x.operation with
  | some request => rw [canAsk, hask]; rfl
  | none =>
      cases hurl : c.endpoint x.operation with
      | ok url =>
          rw [c.post_of_request?_none network hurl hask s'] at hpost
          cases hpost
      | error e =>
          simp only [post, hurl] at hpost
          cases hpost

/-- A network that agrees to every request answers every operation that has one. -/
theorem answer_of_agreeing {ops : List Operation} (hask : ∀ op ∈ ops, c.canAsk op = true)
    (hagree : ∀ r s, ∃ body, (network r s).1 = .answered 200 body true) {s : σ} {x : Exchange}
    (hx : x ∈ (c.service network).exchanges ops s) :
    ∃ text, x.answer = .ok ⟨x.operation, 200, some text⟩ := by
  have hop : x.operation ∈ ops := by
    rw [← (c.service network).map_operation_exchanges ops s]
    exact List.mem_map_of_mem hx
  obtain ⟨url, hurl, hsend, -⟩ := exists_request_of_canAsk (hask _ hop)
  obtain ⟨s', hanswer⟩ := Service.answer_of_mem_exchanges hx
  obtain ⟨body, hbody⟩ :=
    hagree ⟨Http.withoutLogin url, Http.login? url, x.operation.payload.json⟩ s'
  obtain ⟨hheard, -⟩ := post_delivered hurl hsend (Prod.ext hbody rfl)
  have hheard : Http.Heard x.operation (Http.withoutLogin url) _ x.answer := hanswer ▸ hheard
  generalize x.answer = answer at hheard
  cases hheard with
  | read h => exact ⟨_, rfl⟩
  | unread h => exact absurd rfl h

/-- All operations that a run sends have a request, unless it is the last. -/
theorem canAsk_of_sent (network : Http.Network σ) (policy : FailurePolicy) (schedule : Schedule)
    (s : σ) (sink : Sink) :
    ∀ op ∈ (run (c.service network) policy schedule s sink).sent.dropLast,
      c.canAsk op = true := by
  intro op hop
  obtain ⟨hsteps, -⟩ := run_trace (c.service network) policy schedule s sink rfl rfl
  let xs := (c.service network).exchanges schedule.toList s
  let t := trace policy xs sink
  have hop : op ∈ ((xs.take t.steps.length).map Exchange.operation).dropLast := by
    rw [← map_operation_trace, ← hsteps]
    exact hop
  rw [← List.map_dropLast] at hop
  obtain ⟨x, hx, rfl⟩ := List.mem_map.mp hop
  have hpos : 0 < t.steps.length := by
    refine Nat.pos_of_ne_zero fun hzero => ?_
    rw [hzero] at hx
    cases hx
  have hx : x ∈ xs.take (t.steps.length - 1) := by
    rw [List.dropLast_eq_take, List.take_take, List.length_take] at hx
    exact List.take_subset_take_left _ (by omega) hx
  -- The run went on after `x`, so `x` was answered.
  obtain ⟨hstop, -⟩ := trace_take (show t.steps.length - 1 < t.steps.length by omega)
  obtain ⟨r, hr, -⟩ := Exchange.verdict_eq_none.mp (verdict_of_trace hstop x hx)
  exact canAsk_of_answer (List.mem_of_mem_take hx) hr

end Client

/-! ## Requests -/

theorem map_some_filterMap {α β : Type} {f : α → Option β} {l : List α}
    (h : ∀ a ∈ l, (f a).isSome = true) : (l.filterMap f).map some = l.map f := by
  induction l with
  | nil => rfl
  | cons a l ih =>
      obtain ⟨ha, hl⟩ := List.forall_mem_cons.mp h
      obtain ⟨b, hb⟩ := Option.isSome_iff_exists.mp ha
      rw [List.filterMap_cons_some hb, List.map_cons, List.map_cons, ih hl, hb]

/-- If only the last is missing, then what is there comes first. -/
theorem exists_take_filterMap {α β : Type} {f : α → Option β} {l : List α}
    (h : ∀ a ∈ l.dropLast, (f a).isSome = true) :
    ∃ k ≤ l.length, (∀ a ∈ l.take k, (f a).isSome = true)
      ∧ (l.filterMap f).map some = (l.take k).map f := by
  rcases List.eq_nil_or_concat' l with rfl | ⟨front, a, rfl⟩
  · exact ⟨0, Nat.le_refl 0, fun a ha => (List.not_mem_nil ha).elim, rfl⟩
  · rw [List.dropLast_concat] at h
    cases ha : f a with
    | none =>
        refine ⟨front.length, by simp, ?_, ?_⟩
        · rwa [List.take_left' rfl]
        · rw [List.take_left' rfl, List.filterMap_append, List.filterMap_cons_none ha,
            List.filterMap_nil, List.append_nil, map_some_filterMap h]
    | some b =>
        have hall : ∀ x ∈ front ++ [a], (f x).isSome = true :=
          List.forall_mem_append.mpr ⟨h, by simp [ha]⟩
        refine ⟨(front ++ [a]).length, Nat.le_refl _, ?_, ?_⟩
        · rwa [List.take_length]
        · rw [List.take_length, map_some_filterMap hall]

/-- The requests of operations that a client can ask are those of their lines. -/
theorem map_request?_of_shows {c : Client} {lines : List PlannedLine} {ops : List Operation}
    (hshows : List.Forall₂ (PlannedLine.Shows c) lines ops)
    (hask : ∀ op ∈ ops, c.canAsk op = true) :
    ops.map c.request? = lines.map PlannedLine.request? := by
  induction hshows with
  | nil => rfl
  | cons hl _ ih =>
      obtain ⟨hop, hops⟩ := List.forall_mem_cons.mp hask
      rw [List.map_cons, List.map_cons, hl.request?_eq hop, ih hops]

/-- Whatever the answers, a run makes the requests of the first lines. -/
theorem requests_of_run {c : Client} {lines : List PlannedLine} {schedule : Schedule}
    (hshows : List.Forall₂ (PlannedLine.Shows c) lines schedule.toList) (network : Http.Network σ)
    (policy : FailurePolicy) (s : σ) (sink : Sink) :
    ∃ k, ((run (c.service network) policy schedule s sink).sent.filterMap c.request?).map some =
      (lines.take k).map PlannedLine.request? := by
  obtain ⟨k, hk, hask, hrequests⟩ :=
    exists_take_filterMap (Client.canAsk_of_sent network policy schedule s sink)
  have hsent := sent_eq_take (c.service network) policy schedule s sink
  have htake : (run (c.service network) policy schedule s sink).sent.take k =
      schedule.toList.take k := by
    rw [hsent, List.length_take] at hk
    rw [hsent, List.take_take, Nat.min_eq_left (by omega)]
  rw [htake] at hask hrequests
  exact ⟨k, hrequests.trans (map_request?_of_shows (List.forall₂_take k hshows) hask)⟩

/-- A run that accepts every answer makes the requests of all lines. -/
theorem requests_of_accepted {c : Client} {lines : List PlannedLine} {schedule : Schedule}
    (hshows : List.Forall₂ (PlannedLine.Shows c) lines schedule.toList) (network : Http.Network σ)
    (policy : FailurePolicy) (s : σ)
    (h : ∀ x ∈ (c.service network).exchanges schedule.toList s, x.Accepted policy) :
    ((run (c.service network) policy schedule s .unlimited).sent.filterMap c.request?).map some =
      lines.map PlannedLine.request? := by
  have hask : ∀ op ∈ schedule.toList, c.canAsk op = true := by
    intro op hop
    rw [← (c.service network).map_operation_exchanges schedule.toList s] at hop
    obtain ⟨x, hx, rfl⟩ := List.mem_map.mp hop
    obtain ⟨r, hr, -⟩ := h x hx
    exact Client.canAsk_of_answer hx hr
  rw [sent_unlimited _ _ _ s h, map_some_filterMap hask, map_request?_of_shows hshows hask]

/-- **A plan shows what a run sends.** What it prints shows the endpoints and bodies of
the operations of the schedule, on a line each if no text of the endpoint brings a
line feed, and nothing is sent to print it. A run with as many nodes makes the
requests of the first lines, whatever the answers; those of all lines, if all answers
are 200 and can be read. -/
theorem plan_shows_run {settings : Settings} {c : Client}
    (hscheme : settings.endpoint.scheme = "http" ∨ settings.endpoint.scheme = "https")
    (hhost : Url.Unmarked settings.endpoint.host.toList)
    (hapi : Url.Unmarked settings.endpoint.apiPrefix.toList)
    (hc : Client.ofEndpoint settings.endpoint = .ok c) (nodes : Option NodeId) :
    let n := nodes.getD settings.run.nodes
    let ops := (CompleteGraph.schedule n).toList
    ∃ lines : List PlannedLine, List.Forall₂ (PlannedLine.Shows c) lines ops
      ∧ (∀ (σ : Type) (world : Surroundings σ) (s : σ),
          Program.perform world settings (.plan nodes) s =
            ⟨PlannedLine.printed lines, [], none, s⟩)
      ∧ ('\n' ∉ settings.endpoint.host.toList → '\n' ∉ settings.endpoint.apiPrefix.toList →
          ∀ l ∈ lines, l.OneLine)
      ∧ ∀ (σ : Type) (world : Surroundings σ) (policy : Option FailurePolicy) (s : σ),
          let seen := (Program.perform world.recorded settings (.run nodes policy) (s, [])).state.2
          (∃ k, seen.map some = (lines.take k).map PlannedLine.request?)
            ∧ ((∀ x ∈ (c.service world.network).exchanges ops s,
                  ∃ text, x.answer = .ok ⟨x.operation, 200, some text⟩) →
                seen.map some = lines.map PlannedLine.request?
                  ∧ ∀ m, CompleteGraph.length? n = some m → seen.length = m.toNat) := by
  intro n ops
  let base := settings.endpoint.baseUrl
  let lines := ops.map (PlannedLine.ofOperation base)
  have hshows : List.Forall₂ (PlannedLine.Shows c) lines ops := by
    rw [List.forall₂_map_left_iff, List.forall₂_same]
    exact fun op _ => PlannedLine.shows_ofOperation hscheme hhost hapi hc op
  refine ⟨lines, hshows, fun σ world s => ?_, fun hhost' hapi' => ?_, fun σ world policy s => ?_⟩
  · have hprint : PlannedLine.printed lines = (ops.map (Program.planLine base)).flatMap utf8 := by
      simp only [PlannedLine.printed, lines, List.flatMap_map, PlannedLine.text_ofOperation]
    rw [hprint]
    rfl
  · have hscheme' : '\n' ∉ settings.endpoint.scheme.toList := by
      rcases hscheme with hscheme | hscheme
      · rw [hscheme]
        decide
      · rw [hscheme]
        decide
    rw [List.forall_mem_map]
    exact fun op _ => PlannedLine.oneLine_ofOperation hscheme' hhost' hapi' op
  · intro seen
    let chosen := policy.getD settings.run.policy
    let r := run (c.service world.network) chosen (CompleteGraph.schedule n) s .unlimited
    let work := Program.runSchedule world.recorded settings n chosen (s, [])
    obtain ⟨-, (hstate : work.state = (r.reached.state, r.sent.filterMap c.request?)), -⟩ :=
      Program.runSchedule_recorded world hc n chosen s
    have hwork : Program.perform world.recorded settings (.run nodes policy) (s, []) = work := rfl
    have hseen : seen = r.sent.filterMap c.request? := by
      simp only [seen, hwork, hstate]
    rw [hseen]
    refine ⟨requests_of_run hshows world.network chosen s .unlimited, fun hgood => ?_⟩
    have hall := requests_of_accepted hshows world.network chosen s fun x hx => by
      obtain ⟨text, hanswer⟩ := hgood x hx
      exact ⟨_, hanswer, fun _ => rfl⟩
    refine ⟨hall, fun m hm => ?_⟩
    have hlength := congrArg List.length hall
    rw [List.length_map, List.length_map, hshows.length_eq,
      CompleteGraph.length_schedule] at hlength
    exact hlength.trans (CompleteGraph.length?_eq_some.mp hm)

/-- A plan for two nodes under a prefix that is written in a roundabout way, and
a run to a server that agrees to everything. -/
theorem plan_shows_run_roundabout :
    let settings : Settings := ⟨⟨"http", "[::1]", 80, "/a/../b c\\"⟩, .standard⟩
    let world : Surroundings Unit :=
      { home := "/root", files := fun _ => .missing, environment := []
        network := fun _ s => (.answered 200 (utf8 "ok") true, s) }
    let seen := (Program.perform world.recorded settings (.run (some 2) none) ((), [])).state.2
    ∃ c lines, Client.ofEndpoint settings.endpoint = .ok c
      ∧ c.baseUrl.text = "http://[::1]/b%20c//"
      ∧ List.Forall₂ (PlannedLine.Shows c) lines
          [.addNode 0, .addNode 1, .addEdge 0 1, .removeNode 0]
      ∧ Program.perform world settings (.plan (some 2)) () =
          ⟨PlannedLine.printed lines, [], none, ()⟩
      ∧ (∀ l ∈ lines, l.OneLine) ∧ seen.map some = lines.map PlannedLine.request?
      ∧ seen.length = 4 := by
  intro settings world seen
  let c : Client := ⟨"http", some ⟨"", none, .ipv6 [0, 0, 0, 0, 0, 0, 0, 1], none⟩,
    .rooted ["b%20c", ""] "", none, none⟩
  have hc : Client.ofEndpoint settings.endpoint = .ok c := by decide +kernel
  have hops : (CompleteGraph.schedule 2).toList =
      [.addNode 0, .addNode 1, .addEdge 0 1, .removeNode 0] := by decide +kernel
  have hlength : CompleteGraph.length? 2 = some 4 := by decide +kernel
  have hask : ∀ op ∈ (CompleteGraph.schedule 2).toList, c.canAsk op = true := fun op _ =>
    (Client.canAsk_of_short hc rfl (by decide +kernel) op).mpr
      (by decide +kernel)
  obtain ⟨lines, hshows, hplan, hsingle, hrun⟩ := @plan_shows_run settings c (.inl rfl)
    (by decide +kernel) (by decide +kernel) hc (some 2)
  obtain ⟨-, hall⟩ := hrun _ world none ()
  obtain ⟨hseen, hcount⟩ := hall fun x hx =>
    Client.answer_of_agreeing hask (fun _ _ => ⟨_, rfl⟩) hx
  exact ⟨c, lines, hc, by decide +kernel, hops ▸ hshows, hplan _ world (),
    hsingle (by decide +kernel) (by decide +kernel), hseen, hcount 4 hlength⟩

/-- With a line feed in the prefix, what is printed for an operation is two lines, none
of which shows it, though the client is the one without the line feed. -/
theorem plan_breaks_lines :
    let settings : Settings := ⟨⟨"http", "[::1]", 8000, "a\nb"⟩, .standard⟩
    let world : Surroundings Unit :=
      { home := "/root", files := fun _ => .missing, environment := []
        network := Http.unreachable }
    let output := (Program.perform world settings (.plan (some 1)) ()).output
    let text := "POST http://[::1]:8000/a\nb/add_node \x7b\"node_id\":\"0\"\x7d\n"
    ∃ c, Client.ofEndpoint settings.endpoint = .ok c
      ∧ c.baseUrl.text = "http://[::1]:8000/ab/"
      ∧ output = utf8 text
      ∧ ¬∃ lines : List PlannedLine,
          List.Forall₂ (PlannedLine.Shows c) lines (CompleteGraph.schedule 1).toList
            ∧ output = PlannedLine.printed lines ∧ ∀ l ∈ lines, l.OneLine := by
  intro settings world output text
  let c : Client := ⟨"http", some ⟨"", none, .ipv6 [0, 0, 0, 0, 0, 0, 0, 1], some 8000⟩,
    .rooted ["ab"] "", none, none⟩
  have hops : (CompleteGraph.schedule 1).toList = [.addNode 0] := by decide +kernel
  have houtput : output = utf8 text := by decide +kernel
  refine ⟨c, by decide +kernel, by decide +kernel, houtput, ?_⟩
  rintro ⟨lines, hshows, hprinted, hsingle⟩
  rw [hops] at hshows
  obtain ⟨l, _, -, hrest, rfl⟩ := List.forall₂_cons_right_iff.mp hshows
  obtain rfl := List.forall₂_nil_right_iff.mp hrest
  rw [houtput, PlannedLine.printed, List.flatMap_singleton] at hprinted
  have htext := Option.some.inj ((textOf?_utf8 _).symm.trans
    ((congrArg textOf? hprinted).trans (textOf?_utf8 _)))
  have hchars := congrArg (fun t => t.toList.dropLast) htext
  rw [String.toList_append, List.dropLast_append_of_ne_nil (by simp),
    show "\n".toList.dropLast = [] from rfl, List.append_nil] at hchars
  have hmem : '\n' ∈ text.toList.dropLast := by decide +kernel
  exact hsingle l (List.mem_singleton_self l) (hchars ▸ hmem)

end GraphCourier
