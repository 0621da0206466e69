import GraphCourier.Proofs.Encodings
import GraphCourier.Proofs.OperationText
import GraphCourier.Proofs.Tally

/-!
# Summaries as text

The text of a summary is an object with a member for each of its counts. What was
refused is an object again, with a member for each status (`Summary.Written`).
The statuses stand in it in the order of the numbers that they are, in which a
summary keeps them, and not in that of their texts.

A summary is read off any text of such an object, however long its numbers are
(`Summary.Written.ofJson?_eq`). For this an object is read member by member, in
the order in which they are written, and values are kept as they stand there
(`Json.readWhole_readObject`).
-/

namespace GraphCourier.Json

variable {s t r : List Char} {ms : List (String × List Char)}

/-! ## Members as they are written -/

/-- Reads a value as its text: what stands behind the blanks, up to the end of the
value. -/
def readRaw : Reader (List Char) := fun s => do
  let p ← skipValue s
  let t := skipBlanks s
  .ok (p.map fun _ => t.take (t.length - p.rest.length))

/-- Reads the members of an object, in the order in which they are written. -/
def readObject : Reader (List (String × List Char)) := fun s =>
  match ahead s with
  | .nothing => .error ⟨.eofInValue, [], 0⟩
  | .char c t ht =>
    if c = '\x7b' then do .ok ((← readMembers readRaw true t).after ht)
    else .error ⟨.expectedValue, c :: t, 1⟩

theorem readRaw_text (h : Stands ValueText s t r) : Reader.Reads readRaw s t r := by
  obtain ⟨hvalue, hs, hr⟩ := h
  obtain ⟨hlt, hskip⟩ := skipValue_of_skips (passedOver_valueText hvalue ⟨rfl, hs, hr⟩ rfl .done)
  refine ⟨hlt, ?_⟩
  have hlength : (t ++ r).length - r.length = t.length := by
    rw [List.length_append, Nat.add_sub_cancel]
  simp only [readRaw, hskip, hs, bind, Except.bind, Parsed.map, hlength, List.take_left]

theorem readObject_of_members (hs : skipBlanks s = '\x7b' :: t)
    (h : MembersRead (Reader.Reads readRaw) true t ms r) : Reader.Reads readObject s ms r := by
  obtain ⟨ht, ha⟩ := ahead_of_cons hs
  obtain ⟨hr, hread⟩ := h.reads
  refine ⟨Nat.lt_trans hr ht, ?_⟩
  simp only [readObject, ha, if_pos, hread, bind, Except.bind]
  rfl

/-- The members of an object are read off each of its texts. -/
theorem readWhole_readObject (h : ObjectText ms s) : readWhole readObject s = .ok ms := by
  obtain ⟨t, r, hs, hread, hend⟩ := h.membersRead fun h => readRaw_text h
  rw [List.map_id'] at hread
  exact readWhole_iff.mpr ⟨r, readObject_of_members hs hread, hend⟩

/-! ## Compact texts -/

/-- A member without blanks, with its name as it is. -/
def compactMember (m : String × List Char) : List Char :=
  '"' :: (m.1.toList ++ '"' :: ':' :: m.2)

def compactText (ms : List (String × List Char)) : List Char :=
  '\x7b' :: ([','].intercalate (ms.map compactMember) ++ ['\x7d'])

theorem separated_intercalate (t : List Char) (ts : List (List Char)) :
    Separated (t :: ts) ([','].intercalate (t :: ts)) := by
  induction ts generalizing t with
  | nil =>
      rw [List.intercalate_singleton]
      exact .last (.refl t)
  | cons t' ts ih =>
      rw [List.intercalate_cons_cons, List.append_assoc, List.singleton_append]
      exact .more (.refl t) (ih t')

theorem enclosed_intercalate (ts : List (List Char)) : Enclosed ts ([','].intercalate ts) := by
  cases ts with
  | nil => exact .none nofun
  | cons t ts => exact .some (separated_intercalate t ts)

theorem nameText_digits (n : Nat) : NameText (Decimal.digits n) (Decimal.digits n) := by
  refine .refl (List.all_eq_true.mpr fun c hc => decide_eq_true ?_)
  have hdigit := Decimal.isDigit_of_mem_digits hc
  have hlow : 0x30 ≤ c.toNat := (Char.isDigit_iff_toNat.mp hdigit).1
  refine ⟨?_, ?_, by omega⟩
  · rintro rfl
    cases hdigit
  · rintro rfl
    cases hdigit

theorem namedTexts_compact (hnames : ∀ m ∈ ms, NameText m.1.toList m.1.toList) :
    List.Forall₂ NamedText ms (ms.map compactMember) := by
  induction ms with
  | nil => exact .nil
  | cons m ms ih =>
      obtain ⟨hname, hnames⟩ := List.forall_mem_cons.mp hnames
      exact .cons ⟨_, hname, [], [], nofun, nofun, rfl⟩ (ih hnames)

theorem objectText_compact (hnames : ∀ m ∈ ms, NameText m.1.toList m.1.toList)
    (hvalues : ∀ m ∈ ms, ValueText m.2) : ObjectText ms (compactText ms) := by
  have hblanks : Blanks [] := nofun
  exact .mk hblanks hblanks (enclosed_intercalate _) (namedTexts_compact hnames) hvalues

theorem valueText_compact (hnames : ∀ m ∈ ms, NameText m.1.toList m.1.toList)
    (hvalues : ∀ m ∈ ms, ValueText m.2) : ValueText (compactText ms) := by
  obtain ⟨members, hmembers, hkeys, hvalues⟩ :=
    exists_memberTexts (namedTexts_compact hnames) hvalues
  exact .object (enclosed_intercalate _) hmembers hkeys hvalues

end GraphCourier.Json

namespace GraphCourier

open Json (NameText ValueText ObjectText compactMember compactText)

/-! ## Counts of statuses -/

/-- The number that is written with these digits. -/
def Decimal.ofDigits? (ds : List Char) : Option Nat :=
  if ds.isEmpty = false ∧ ds.all Char.isDigit = true then some (value ds) else none

theorem Decimal.ofDigits?_digits (n : Nat) : ofDigits? (digits n) = some n := by
  rw [ofDigits?, value_digits, if_pos ⟨isEmpty_digits n, all_isDigit_digits n⟩]

namespace StatusCounts

/-- A member for each status: its decimal text, and how often it came. -/
def members (counts : StatusCounts) : List (String × List Char) :=
  counts.map fun e => (Decimal.text e.1.toNat, Decimal.digits e.2)

def ofMember? (m : String × List Char) : Option (UInt16 × Nat) := do
  let status ← Decimal.readDigits UInt16.size m.1.toList
  return (UInt16.ofNat status, ← Decimal.ofDigits? m.2)

theorem ofMember?_text (e : UInt16 × Nat) :
    ofMember? (Decimal.text e.1.toNat, Decimal.digits e.2) = some e := by
  simp [ofMember?, Decimal.text, Decimal.readDigits_digits e.1.toNat_lt, Decimal.ofDigits?_digits]

theorem mapM_ofMember? (counts : StatusCounts) : counts.members.mapM ofMember? = some counts := by
  induction counts with
  | nil => rfl
  | cons e counts ih =>
      rw [members] at ih ⊢
      simp [List.mapM_cons, ofMember?_text, ih]

theorem nameText_members (counts : StatusCounts) :
    ∀ m ∈ counts.members, NameText m.1.toList m.1.toList := by
  rw [members, List.forall_mem_map]
  intro e _
  rw [Decimal.text, String.toList_ofList]
  exact Json.nameText_digits _

theorem valueText_members (counts : StatusCounts) : ∀ m ∈ counts.members, ValueText m.2 :=
  List.forall_mem_map.mpr fun e _ => Json.valueText_digits e.2

end StatusCounts

/-! ## Summaries -/

namespace Summary

/-- The members of a summary, with `rejected` for the value of the last one. -/
def members (s : Summary) (rejected : List Char) : List (String × List Char) :=
  [("requests", Decimal.digits s.requests), ("succeeded", Decimal.digits s.succeeded),
    ("mutations", Decimal.digits s.mutations), ("rejected", rejected)]

/-- The texts that say what a summary says, with all members in order. -/
def Written (s : Summary) (t : List Char) : Prop :=
  ∃ rejected, ObjectText (s.members rejected) t ∧ ObjectText s.rejected.members rejected

/-- The summary that a text says, whatever else it says. -/
def ofJson? (t : List Char) : Option Summary := do
  let ms ← (Json.readWhole Json.readObject t).toOption
  let rejected ← (Json.readWhole Json.readObject (← ms.lookup "rejected")).toOption
  return {
    requests := ← Decimal.ofDigits? (← ms.lookup "requests")
    succeeded := ← Decimal.ofDigits? (← ms.lookup "succeeded")
    mutations := ← Decimal.ofDigits? (← ms.lookup "mutations")
    rejected := ← rejected.mapM StatusCounts.ofMember? }

variable {s : Summary} {t : List Char}

/-- **A summary is read back** from every text that says what it says. -/
theorem Written.ofJson?_eq (h : s.Written t) : ofJson? t = some s := by
  obtain ⟨rejected, htext, hrejected⟩ := h
  have hrequests : (s.members rejected).lookup "requests" = some (Decimal.digits s.requests) := rfl
  have hsucceeded : (s.members rejected).lookup "succeeded" = some (Decimal.digits s.succeeded) :=
    rfl
  have hmutations : (s.members rejected).lookup "mutations" = some (Decimal.digits s.mutations) :=
    rfl
  have hlast : (s.members rejected).lookup "rejected" = some rejected := rfl
  simp [ofJson?, Json.readWhole_readObject htext, Json.readWhole_readObject hrejected,
    Except.toOption, hrequests, hsucceeded, hmutations, hlast, Decimal.ofDigits?_digits,
    StatusCounts.mapM_ofMember?]

theorem toList_rejectedJson (s : Summary) :
    '\x7b' :: (s.rejectedJson.toList ++ ['\x7d']) = compactText s.rejected.members := by
  have hmember : ∀ e : UInt16 × Nat,
      ("\"" ++ Decimal.text e.1.toNat ++ "\":" ++ Decimal.text e.2).toList =
        compactMember (Decimal.text e.1.toNat, Decimal.digits e.2) := by
    intro e
    simp [compactMember, Decimal.text]
  unfold rejectedJson compactText StatusCounts.members
  rw [String.toList_intercalate, List.map_map, List.map_map]
  refine congrArg (fun ts => '\x7b' :: ([','].intercalate ts ++ ['\x7d'])) ?_
  exact List.map_congr_left fun e _ => hmember e

theorem toList_json (s : Summary) :
    s.json.toList = compactText (s.members (compactText s.rejected.members)) := by
  rw [← toList_rejectedJson]
  unfold json compactText members
  simp [compactMember, Decimal.text, List.intercalate_cons_cons]

theorem forall_mem_members {rejected : List Char} {p : String × List Char → Prop} :
    (∀ m ∈ s.members rejected, p m) ↔
      p ("requests", Decimal.digits s.requests) ∧ p ("succeeded", Decimal.digits s.succeeded)
        ∧ p ("mutations", Decimal.digits s.mutations) ∧ p ("rejected", rejected) := by
  simp [members]

theorem written_json (s : Summary) : s.Written s.json.toList := by
  have hnames := s.rejected.nameText_members
  have hvalues := s.rejected.valueText_members
  refine ⟨compactText s.rejected.members, ?_, Json.objectText_compact hnames hvalues⟩
  rw [toList_json]
  refine Json.objectText_compact (forall_mem_members.mpr ?_) (forall_mem_members.mpr ?_)
  · dsimp only
    exact ⟨.refl rfl, .refl rfl, .refl rfl, .refl rfl⟩
  · exact ⟨Json.valueText_digits _, Json.valueText_digits _, Json.valueText_digits _,
      Json.valueText_compact hnames hvalues⟩

/-- There is an entry for a status if it came and was no success. -/
theorem Counts.mem_statuses_iff {rs : List Response} (h : s.Counts rs) (status : UInt16) :
    status ∈ s.rejected.map Prod.fst ↔ status ≠ 200 ∧ ∃ r ∈ rs, r.status = status := by
  have hcame : (0 < rs.countP fun r => r.status = status) ↔ ∃ r ∈ rs, r.status = status := by
    rw [List.countP_pos_iff]
    simp only [decide_eq_true_eq]
  rw [List.mem_map, ← hcame]
  constructor
  · rintro ⟨⟨_, n⟩, hmem, rfl⟩
    obtain ⟨hstatus, hpos, rfl⟩ := (h.rejected _ n).mp (h.sorted.mem_iff_lookup.mp hmem)
    exact ⟨hstatus, hpos⟩
  · rintro ⟨hstatus, hpos⟩
    have hlookup := (h.rejected status _).mpr ⟨hstatus, hpos, rfl⟩
    exact ⟨_, h.sorted.mem_iff_lookup.mpr hlookup, rfl⟩

end Summary

/-- **The text of the summary of a run** is an object with four members in a fixed
order. The last one has a member for each status that came, 200 apart, in
increasing order of the statuses. All of the summary is read back from its text,
so no other summary has the same. -/
theorem run_summary_text {σ : Type} (service : Service σ) (policy : FailurePolicy)
    (schedule : Schedule) (s : σ) (sink : Sink) {summary : Summary}
    (h : (run service policy schedule s sink).result = .ok summary) :
    summary.Written summary.json.toList
      ∧ (summary.rejected.map Prod.fst).Pairwise (· < ·)
      ∧ (∃ rs : List Response, service.answers schedule.toList s = rs.map .ok
          ∧ summary.Counts rs
          ∧ ∀ status, status ∈ summary.rejected.map Prod.fst ↔
              status ≠ 200 ∧ ∃ r ∈ rs, r.status = status)
      ∧ Summary.ofJson? summary.json.toList = some summary
      ∧ ∀ other : Summary, other.json = summary.json → other = summary := by
  obtain ⟨rs, hrs, -, hcounts⟩ := exists_counts_of_ok h
  have hread := summary.written_json.ofJson?_eq
  refine ⟨summary.written_json, List.pairwise_map.mpr hcounts.sorted,
    ⟨rs, hrs, hcounts, hcounts.mem_statuses_iff⟩, hread, fun other hother => ?_⟩
  have hread' := other.written_json.ofJson?_eq
  rw [hother, hread] at hread'
  exact (Option.some.inj hread').symm

/-- Statuses that do not come in their order, and of which the texts are in a third
one. -/
theorem run_summary_text_out_of_order :
    let ops : List Operation := [.addNode 1, .addNode 2, .getNode 1, .addNode 3, .checkpoint,
      .removeNode 2]
    let answered : List Response := [⟨.addNode 1, 1000, none⟩, ⟨.addNode 2, 200, some ""⟩,
      ⟨.getNode 1, 99, none⟩, ⟨.addNode 3, 65535, none⟩, ⟨.checkpoint, 507, none⟩,
      ⟨.removeNode 2, 99, none⟩]
    let summary : Summary := ⟨6, 1, 1, [(99, 2), (507, 1), (1000, 1), (65535, 1)]⟩
    let text := "\x7b\"requests\":6,\"succeeded\":1,\"mutations\":1,\"rejected\":\x7b\"99\":2," ++
      "\"507\":1,\"1000\":1,\"65535\":1\x7d\x7d"
    (run scripted .proceed (.ofList ops) (answered.map .ok) .unlimited).result = .ok summary
      ∧ summary.json = text ∧ (summary.rejected.map Prod.fst).Pairwise (· < ·)
      ∧ Summary.ofJson? text.toList = some summary := by
  intro ops answered summary text
  have hresult : (run scripted .proceed (.ofList ops) (answered.map .ok) .unlimited).result =
      .ok summary := by
    decide +kernel
  obtain ⟨-, hsorted, -, hread, -⟩ :=
    run_summary_text scripted .proceed (.ofList ops) (answered.map .ok) .unlimited hresult
  have htext : summary.json = text := by decide +kernel
  exact ⟨hresult, htext, hsorted, htext ▸ hread⟩

end GraphCourier
