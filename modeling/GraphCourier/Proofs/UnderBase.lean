import GraphCourier.Proofs.Joining

/-!
# Operations under a base

A base text is meant as a prefix: every operation is to go to the base URL with
its name behind it. That is so if the base has neither a query nor a fragment,
whatever else is in it, and it is so for no base that has one
(`endpoints_under_base`). A slash that is added to the end of such a base ends up
in its query or fragment, so the path is left as it was and the names take the
place of its last part (`endpoint_beside_base`).
-/

namespace GraphCourier

namespace Url

/-! ## Marks -/

theorem unmarked_iff {cs : List Char} : Unmarked cs ↔ '?' ∉ cs ∧ '#' ∉ cs := by
  constructor
  · intro h
    exact ⟨fun hc => (h _ hc).1 rfl, fun hc => (h _ hc).2 rfl⟩
  · rintro ⟨hquery, hfragment⟩ c hc
    exact ⟨ne_of_mem_of_not_mem hc hquery, ne_of_mem_of_not_mem hc hfragment⟩

/-- The characters at which a query or a fragment starts. -/
def isMark (c : Char) : Bool := c = '?' || c = '#'

theorem exists_mark {cs : List Char} (h : ¬ Unmarked cs) : ∃ c ∈ cs, isMark c = true := by
  by_contra hnone
  refine h fun c hc => ?_
  have hmark : ¬ isMark c = true := fun hmark => hnone ⟨c, hc, hmark⟩
  simpa [isMark, not_or] using hmark

theorem Unmarked.isMark_eq_false {cs : List Char} (h : Unmarked cs) {c : Char} (hc : c ∈ cs) :
    isMark c = false := by
  simp [isMark, h c hc]

/-- What is said of both marks is said of every mark. -/
theorem of_isMark {c : Char} (hc : isMark c = true) {p : Char → Bool} {b : Bool}
    (hquery : p '?' = b) (hfragment : p '#' = b) : p c = b := by
  rw [isMark, Bool.or_eq_true, decide_eq_true_eq, decide_eq_true_eq] at hc
  rcases hc with rfl | rfl
  · exact hquery
  · exact hfragment

theorem mem_dropWhile {p : Char → Bool} {cs : List Char} {c : Char} (hc : c ∈ cs)
    (hp : p c = false) : c ∈ cs.dropWhile p := by
  rw [← List.takeWhile_append_dropWhile (p := p) (l := cs)] at hc
  rcases List.mem_append.mp hc with hc | hc
  · rw [List.mem_takeWhile_imp hc] at hp
    cases hp
  · exact hc

/-- Behind the first mark of a text there is a query or a fragment. -/
theorem splitTail_marked {cs : List Char} (h : ¬ Unmarked cs) :
    (splitTail cs).2.1.isSome = true ∨ (splitTail cs).2.2.isSome = true := by
  obtain ⟨m, hm, hmark⟩ := exists_mark h
  have hmem : m ∈ cs.dropWhile fun c => !isMark c := mem_dropWhile hm (by rw [hmark]; rfl)
  obtain ⟨c, t, hdrop⟩ := List.exists_cons_of_ne_nil (List.ne_nil_of_mem hmem)
  have hc : isMark c = true := by
    have hhead := List.head_dropWhile_not (fun c => !isMark c) (l := cs) (by rw [hdrop]; simp)
    simpa [hdrop] using hhead
  unfold splitTail
  simp only [isMark] at hdrop
  simp only [hdrop]
  rw [isMark, Bool.or_eq_true, decide_eq_true_eq, decide_eq_true_eq] at hc
  rcases hc with rfl | rfl
  · exact .inl rfl
  · exact .inr rfl

/-- The characters of a scheme. -/
def isSchemePart (c : Char) : Bool := c.isAlphanum || c = '+' || c = '-' || c = '.'

theorem dropWhile_of_scheme? {cs rest : List Char} {scheme : String}
    (h : scheme? cs = some (scheme, rest)) : cs.dropWhile isSchemePart = ':' :: rest := by
  unfold scheme? at h
  simp only at h
  split at h
  · rename_i hdrop
    split at h
    · obtain ⟨-, rfl⟩ := Prod.mk.inj (Option.some.inj h)
      exact hdrop
    · cases h
  · cases h

/-- A mark in a base text that ends in a slash is still there behind the scheme. -/
theorem marked_rest {s scheme : String} {rest : List Char} (hlast : EndsInSlash s.toList)
    (hscheme : scheme? (cleaned s) = some (scheme, rest)) (h : ¬ Unmarked s.toList) :
    ¬ Unmarked rest := by
  intro hrest
  obtain ⟨c, hc, hmark⟩ := exists_mark h
  have hcleaned : c ∈ cleaned s := by
    rw [cleaned_eq hlast.isBlank_eq_false]
    have hdropped := mem_dropWhile hc (of_isMark hmark (p := isBlank) rfl rfl)
    exact List.mem_filter.mpr ⟨hdropped, of_isMark hmark rfl rfl⟩
  have hmem := mem_dropWhile hcleaned (of_isMark hmark (p := isSchemePart) (by decide) (by decide))
  rw [dropWhile_of_scheme? hscheme] at hmem
  rcases List.mem_cons.mp hmem with rfl | hmem
  · cases hmark
  · rw [hrest.isMark_eq_false hmem] at hmark
    cases hmark

theorem length_tailText_pos {u : Url} (h : u.query.isSome = true ∨ u.fragment.isSome = true) :
    0 < u.tailText.length := by
  rw [tailText, String.length_append]
  rcases h with h | h
  · obtain ⟨q, hq⟩ := Option.isSome_iff_exists.mp h
    simp only [hq, String.length_append]
    exact Nat.lt_add_right _ (Nat.lt_add_right _ (by decide))
  · obtain ⟨f, hf⟩ := Option.isSome_iff_exists.mp h
    simp only [hf, String.length_append]
    exact Nat.lt_add_left _ (Nat.lt_add_right _ (by decide))

end Url

/-! ## Bases -/

open Url (EndsInSlash Unmarked)

namespace Client

theorem endsInSlash_withSlash (base : String) : EndsInSlash (withSlash base).toList := by
  unfold withSlash
  split
  · assumption
  · rw [EndsInSlash, String.toList_append]
    exact List.getLast?_concat

theorem unmarked_withSlash {base : String} :
    Unmarked (withSlash base).toList ↔ Unmarked base.toList := by
  unfold withSlash
  split
  · rfl
  · have hslash : Unmarked "/".toList := by simp [Unmarked]
    rw [String.toList_append, Unmarked, List.forall_mem_append]
    exact and_iff_left hslash

/-- The base URL has a query or a fragment if the base text has a mark. -/
theorem tail_of_marked {base : String} {c : Client} (h : ofBase base = .ok c)
    (hkind : Url.SchemeKind.ofScheme c.baseUrl.scheme = .internet)
    (hmarked : ¬ Unmarked base.toList) :
    c.baseUrl.query.isSome = true ∨ c.baseUrl.fragment.isSome = true := by
  obtain ⟨rest, main, query, fragment, hscheme, hsplit, -, hquery, hfragment⟩ :=
    Url.parse_internet (parse_of_ofBase h) hkind
  have hrest := Url.marked_rest (endsInSlash_withSlash base) hscheme
    fun h => hmarked (unmarked_withSlash.mp h)
  have htail := Url.splitTail_marked hrest
  rw [hsplit] at htail
  rwa [hquery, hfragment]

/-- Every operation goes to the front of the base URL, up to the last slash of its
path. Nothing else stands in the URL of an unmarked base. -/
theorem exists_front {base : String} {c : Client} (h : ofBase base = .ok c)
    (hkind : Url.SchemeKind.ofScheme c.baseUrl.scheme = .internet) :
    ∃ front rest : String, c.baseUrl.text = front ++ rest
      ∧ (∀ op, ∃ url, c.endpoint op = .ok url ∧ url.text = front ++ op.name)
      ∧ (rest = "" ↔ Unmarked base.toList) := by
  have hparse := parse_of_ofBase h
  obtain ⟨_, _, _, _, -, -, hread, -⟩ := Url.parse_internet hparse hkind
  obtain ⟨a, ha⟩ := Url.authority_of_readNetwork hread
  by_cases hmarks : Unmarked base.toList
  · obtain ⟨dirs, hbase, -⟩ := Url.parse_append hparse hkind (endsInSlash_withSlash base)
      (unmarked_withSlash.mpr hmarks)
    have hpath : c.baseUrl.path = .rooted dirs "" := by rw [hbase, Url.inDirectory]
    refine ⟨c.baseUrl.text, "", by simp, fun op => ?_, iff_of_true rfl hmarks⟩
    refine ⟨_, endpoint_rooted hkind hpath op, ?_⟩
    rw [Url.text_inDirectory ha, ← hbase]
  · obtain ⟨dirs, last, hpath⟩ := Url.path_of_parse hparse hkind
    refine ⟨(c.baseUrl.inDirectory dirs "").text, last ++ c.baseUrl.tailText, ?_,
      fun op => ⟨_, endpoint_rooted hkind hpath op, Url.text_inDirectory ha dirs op.name⟩, ?_⟩
    · rw [Url.text_rooted ha hpath, String.append_assoc]
    · refine iff_of_false (fun hempty => ?_) hmarks
      have hpos := Url.length_tailText_pos (tail_of_marked h hkind hmarks)
      have hlength := congrArg String.length hempty
      rw [String.length_append, show "".length = 0 from rfl] at hlength
      omega

end Client

/-- **Which bases are prefixes.** Under a base of an Internet scheme there is a URL
for every operation, and no two names have the same. The text of the URL is that of
the base URL with the name behind it if and only if the base has neither a question
mark nor a number sign. -/
theorem endpoints_under_base {base : String} {c : Client} (h : Client.ofBase base = .ok c)
    (hkind : Url.SchemeKind.ofScheme c.baseUrl.scheme = .internet) :
    ∃ url : Operation → Url, (∀ op, c.endpoint op = .ok (url op))
      ∧ (∀ op op', op.name ≠ op'.name → (url op).text ≠ (url op').text)
      ∧ ∀ op, (url op).text = c.baseUrl.text ++ op.name ↔
          '?' ∉ base.toList ∧ '#' ∉ base.toList := by
  obtain ⟨front, rest, hbase, hendpoint, hrest⟩ := Client.exists_front h hkind
  choose url hurl htext using hendpoint
  refine ⟨url, hurl, fun op op' hne heq => hne ?_, fun op => ?_⟩
  · rw [htext, htext] at heq
    exact (String.append_right_inj front).mp heq
  · rw [← Url.unmarked_iff, ← hrest, htext, hbase, String.append_assoc,
      String.append_right_inj]
    constructor
    · intro heq
      have hlength := congrArg String.length heq
      rw [String.length_append] at hlength
      exact String.length_eq_zero_iff.mp (by omega)
    · rintro rfl
      exact String.empty_append.symm

/-- A base in which a good deal is put right when it is read, but which is a prefix,
and one that is none because of the number sign at its end. -/
theorem endpoints_under_base_roundabout :
    let base := " HTTP:me@[::1]:80\\a b/./c/..\\%2e/d "
    ∃ c c', Client.ofBase base = .ok c ∧ Client.ofBase (base ++ "#") = .ok c'
      ∧ (∃ url : Operation → Url, (∀ op, c.endpoint op = .ok (url op))
        ∧ ∀ op, (url op).text = "http://me@[::1]/a%20b/d%20/" ++ op.name)
      ∧ ∃ url : Operation → Url, (∀ op, c'.endpoint op = .ok (url op))
        ∧ ∀ op, (url op).text ≠ "http://me@[::1]/a%20b/d%20#/" ++ op.name := by
  intro base
  let authority : Url.Authority := ⟨"me", none, .ipv6 [0, 0, 0, 0, 0, 0, 0, 1], none⟩
  let c : Client := ⟨"http", some authority, .rooted ["a%20b", "d%20"] "", none, none⟩
  let c' : Client := ⟨"http", some authority, .rooted ["a%20b"] "d%20", none, some "/"⟩
  have hbase : Client.ofBase base = .ok c := by decide +kernel
  have hmarked : Client.ofBase (base ++ "#") = .ok c' := by decide +kernel
  have htext : c.baseUrl.text = "http://me@[::1]/a%20b/d%20/" := by decide +kernel
  have htext' : c'.baseUrl.text = "http://me@[::1]/a%20b/d%20#/" := by decide +kernel
  obtain ⟨url, hurl, -, hall⟩ := endpoints_under_base hbase rfl
  obtain ⟨url', hurl', -, hall'⟩ := endpoints_under_base hmarked rfl
  rw [htext] at hall
  rw [htext'] at hall'
  refine ⟨c, c', hbase, hmarked, ⟨url, hurl, fun op => ?_⟩, url', hurl', fun op heq => ?_⟩
  · exact (hall op).mpr (by decide +kernel)
  · exact absurd ((hall' op).mp heq) (by decide +kernel)

/-- A base with a query is no prefix: the name takes the place of the last part of
its path, although a slash was added that should have kept it there. -/
theorem endpoint_beside_base :
    ∃ c url, Client.ofBase "http://[::1]:8000/api?x=1" = .ok c
      ∧ c.baseUrl.text = "http://[::1]:8000/api?x=1/"
      ∧ c.endpoint (.addNode 1) = .ok url ∧ url.text = "http://[::1]:8000/add_node"
      ∧ url.text ≠ c.baseUrl.text ++ (Operation.addNode 1).name := by
  let authority : Url.Authority := ⟨"", none, .ipv6 [0, 0, 0, 0, 0, 0, 0, 1], some 8000⟩
  refine ⟨⟨"http", some authority, .rooted [] "api", some "x=1/", none⟩,
    ⟨"http", some authority, .rooted [] "add_node", none, none⟩, ?_⟩
  decide +kernel

end GraphCourier
