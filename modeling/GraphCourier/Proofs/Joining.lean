import Mathlib.Data.List.Basic
import Mathlib.Data.List.TakeWhile
import GraphCourier.Proofs.Endpoints
import GraphCourier.Proofs.OperationText

/-!
# Names behind a base URL

There are two ways from a base text that ends in a slash to the URL of a name:
writing the name behind the text and reading that, or reading the text and
putting the name in the place of the last part of its path. For a base with
neither query nor fragment they come to the same URL (`Url.parse_append`).

Reading takes a text apart from left to right, and each stage looks for a
character at which the part that it reads is over. A slash ends every part
before the path, so what stands behind the last one can only reach the path;
there a name is a part of its own that is kept as it is.
-/

namespace GraphCourier.Url

/-! ## Texts that end in a slash -/

def EndsInSlash (cs : List Char) : Prop := cs.getLast? = some '/'

theorem EndsInSlash.of_suffix {cs t : List Char} (h : EndsInSlash cs) (ht : t <:+ cs)
    (hne : t ≠ []) : EndsInSlash t := by
  obtain ⟨front, rfl⟩ := ht
  rwa [EndsInSlash, List.getLast?_append_of_ne_nil _ hne] at h

theorem EndsInSlash.append {t : List Char} (h : EndsInSlash t) (cs : List Char) :
    EndsInSlash (cs ++ t) := by
  rw [EndsInSlash, List.getLast?_append, h]
  rfl

theorem EndsInSlash.dropWhile_ne_nil {cs : List Char} (h : EndsInSlash cs) {p : Char → Bool}
    (hp : p '/' = false) : cs.dropWhile p ≠ [] := by
  obtain ⟨front, rfl⟩ := List.getLast?_eq_some_iff.mp h
  rw [List.dropWhile_append, List.dropWhile_cons_of_neg (by simp [hp])]
  split <;> simp_all

theorem dropWhile_append_of_ne_nil {p : Char → Bool} {cs : List Char} (h : cs.dropWhile p ≠ [])
    (w : List Char) : (cs ++ w).dropWhile p = cs.dropWhile p ++ w := by
  rw [List.dropWhile_append, if_neg (by simpa using h)]

theorem takeWhile_append_of_ne_nil {p : Char → Bool} {cs : List Char} (h : cs.dropWhile p ≠ [])
    (w : List Char) : (cs ++ w).takeWhile p = cs.takeWhile p := by
  have hsplit := congrArg List.length (List.takeWhile_append_dropWhile (p := p) (l := cs))
  have hpos := List.length_pos_iff.mpr h
  rw [List.length_append] at hsplit
  rw [List.takeWhile_append, if_neg (by omega)]

/-! ## Names -/

/-- The characters that are dropped on both sides of a URL. -/
def isBlank (c : Char) : Bool := decide (c.toNat ≤ 0x20)

/-- The characters that count inside a URL. -/
def isKept (c : Char) : Bool := c != '\t' && c != '\n' && c != '\r'

/-- A character stands for nothing but itself in a path. -/
@[mk_iff]
structure Plain (c : Char) : Prop where
  blank : isBlank c = false
  kept : isKept c = true
  mark : c ≠ '?' ∧ c ≠ '#'
  slash : SchemeKind.internet.isSlash c = false
  dot : c ≠ '.' ∧ c ≠ '%'
  encoded : (isAlwaysEncoded c || pathExtra.contains c) = false

instance (c : Char) : Decidable (Plain c) := decidable_of_iff _ (plain_iff c).symm

/-- A text is made of such characters. -/
def IsName (cs : List Char) : Prop := ∀ c ∈ cs, Plain c

instance (cs : List Char) : Decidable (IsName cs) :=
  decidable_of_iff (cs.all (fun c => decide (Plain c)) = true) (by simp [IsName])

theorem isName_operation (op : Operation) : IsName op.name.toList := by
  cases op <;> simp only [Operation.name] <;> decide

variable {w : List Char}

theorem percentEncode_name (hw : IsName w) : percentEncode pathExtra w = w := by
  induction w with
  | nil => rfl
  | cons c w ih =>
      obtain ⟨hc, hw⟩ := List.forall_mem_cons.mp hw
      have hplain := hc.encoded
      rw [percentEncode, List.flatMap_cons, hplain]
      exact congrArg (c :: ·) (ih hw)

theorem ofText_name (hw : IsName w) : Part.ofText w = .named w := by
  cases w with
  | nil => rfl
  | cons c w =>
      obtain ⟨hdot, hpercent⟩ := (hw c (List.mem_cons_self ..)).dot
      have hdots : Part.ofText.dots (c :: w) = none := by
        unfold Part.ofText.dots
        split <;> simp_all
      rw [Part.ofText, hdots]

/-! ## Cleaning, schemes and tails -/

theorem EndsInSlash.isBlank_eq_false {cs : List Char} (h : EndsInSlash cs) :
    ∀ c, cs.getLast? = some c → isBlank c = false := by
  intro c hc
  obtain rfl := Option.some.inj (h.symm.trans hc)
  rfl

theorem trimmed {p : Char → Bool} {cs : List Char} (h : ∀ c, cs.getLast? = some c → p c = false) :
    (cs.reverse.dropWhile p).reverse = cs := by
  rcases List.eq_nil_or_concat' cs with rfl | ⟨front, c, rfl⟩
  · rfl
  · have hc := h c (by simp)
    simp [List.dropWhile_cons_of_neg, hc]

theorem cleaned_eq {s : String} (h : ∀ c, s.toList.getLast? = some c → isBlank c = false) :
    cleaned s = (s.toList.dropWhile isBlank).filter isKept := by
  have hlast : ∀ c, (s.toList.dropWhile isBlank).getLast? = some c → isBlank c = false := by
    intro c hc
    obtain ⟨front, hfront⟩ := List.dropWhile_suffix (l := s.toList) isBlank
    refine h c ?_
    rw [← hfront, List.getLast?_append, hc]
    rfl
  exact congrArg (List.filter isKept) (trimmed hlast)

theorem cleaned_append {s : String} (hs : EndsInSlash s.toList) (name : String)
    (hname : IsName name.toList) :
    EndsInSlash (cleaned s) ∧ (∀ c ∈ cleaned s, c ∈ s.toList)
      ∧ cleaned (s ++ name) = cleaned s ++ name.toList := by
  have hblank := hs.isBlank_eq_false
  have hblank' : ∀ c, (s ++ name).toList.getLast? = some c → isBlank c = false := by
    intro c hc
    rw [String.toList_append, List.getLast?_append] at hc
    rcases Option.or_eq_some_iff.mp hc with hc | ⟨-, hc⟩
    · exact (hname c (List.mem_of_getLast? hc)).blank
    · exact hblank c hc
  have hkept : name.toList.filter isKept = name.toList := by
    rw [List.filter_eq_self]
    exact fun c hc => (hname c hc).kept
  have hne : s.toList.dropWhile isBlank ≠ [] := hs.dropWhile_ne_nil rfl
  rw [cleaned_eq hblank, cleaned_eq hblank']
  refine ⟨?_, fun c hc => ?_, ?_⟩
  · obtain ⟨front, hfront⟩ :=
      List.getLast?_eq_some_iff.mp (hs.of_suffix (List.dropWhile_suffix _) hne)
    rw [hfront, EndsInSlash, List.filter_append]
    exact List.getLast?_concat
  · exact (List.dropWhile_suffix _).subset (List.mem_of_mem_filter hc)
  · rw [String.toList_append, dropWhile_append_of_ne_nil hne, List.filter_append, hkept]

theorem scheme?_append {cs rest : List Char} {scheme : String}
    (h : scheme? cs = some (scheme, rest)) (w : List Char) :
    ':' :: rest <:+ cs ∧ scheme? (cs ++ w) = some (scheme, rest ++ w) := by
  unfold scheme? at h ⊢
  simp only at h ⊢
  split at h
  · rename_i c name rest' htake hdrop
    split at h
    · rename_i halpha
      obtain ⟨rfl, rfl⟩ := Prod.mk.inj (Option.some.inj h)
      refine ⟨hdrop ▸ List.dropWhile_suffix _, ?_⟩
      rw [takeWhile_append_of_ne_nil (by rw [hdrop]; simp), htake,
        dropWhile_append_of_ne_nil (by rw [hdrop]; simp), hdrop]
      simp only [List.cons_append]
      rw [if_pos halpha]
    · cases h
  · cases h

/-- A text in which neither a query nor a fragment starts. -/
def Unmarked (cs : List Char) : Prop := ∀ c ∈ cs, c ≠ '?' ∧ c ≠ '#'

instance (cs : List Char) : Decidable (Unmarked cs) :=
  decidable_of_iff (cs.all (fun c => c != '?' && c != '#') = true) (by simp [Unmarked])

theorem splitTail_unmarked {cs : List Char} (h : Unmarked cs) :
    splitTail cs = (cs, none, none) := by
  have hpos : ∀ c ∈ cs, (!(decide (c = '?') || decide (c = '#'))) = true := by
    intro c hc
    obtain ⟨hquery, hfragment⟩ := h c hc
    simp [hquery, hfragment]
  have htake := List.takeWhile_eq_self_iff.mpr hpos
  have hdrop := List.dropWhile_eq_nil_iff.mpr hpos
  unfold splitTail
  simp only [htake, hdrop]

/-! ## Paths -/

theorem splitPath_name (kind : SchemeKind) (h : ∀ c ∈ w, kind.isSlash c = false) :
    splitPath kind w = [w] := by
  induction w with
  | nil => rfl
  | cons c w ih =>
      obtain ⟨hc, hw⟩ := List.forall_mem_cons.mp h
      rw [splitPath, ih hw, hc]
      rfl

theorem splitPath_cons (kind : SchemeKind) (c : Char) (cs : List Char) :
    ∃ part parts, splitPath kind cs = part :: parts ∧ splitPath kind (c :: cs) =
      if kind.isSlash c then [] :: part :: parts else (c :: part) :: parts := by
  induction cs generalizing c with
  | nil => exact ⟨[], [], rfl, rfl⟩
  | cons d cs ih =>
      obtain ⟨part, parts, -, h⟩ := ih d
      by_cases hd : kind.isSlash d = true
      · rw [if_pos hd] at h
        exact ⟨_, _, h, by rw [splitPath, h]⟩
      · rw [if_neg hd] at h
        exact ⟨_, _, h, by rw [splitPath, h]⟩

/-- What follows the last slash is a part of its own. -/
theorem splitPath_append (kind : SchemeKind) (cs : List Char)
    (h : ∀ c ∈ w, kind.isSlash c = false) :
    splitPath kind (cs ++ '/' :: w) = splitPath kind cs ++ [w] := by
  induction cs with
  | nil =>
      have hslash : kind.isSlash '/' = true := rfl
      rw [List.nil_append]
      simp only [splitPath, splitPath_name kind h, hslash, if_true]
      rfl
  | cons c cs ih =>
      obtain ⟨part, parts, hcs, hcons⟩ := splitPath_cons kind c cs
      rw [hcs] at ih
      rw [List.cons_append, splitPath, ih, hcons]
      by_cases hc : kind.isSlash c = true
      · simp [hc]
      · simp [hc]

/-- Walking to a name leads to where the parts before it lead. -/
theorem walk_name (dirs : List String) (parts : List (List Char)) :
    ∃ dirs', ∀ w, IsName w →
      walk .internet dirs false (parts ++ [w]) = ⟨dirs', String.ofList w, false⟩ := by
  induction parts generalizing dirs with
  | nil =>
      refine ⟨dirs, fun w hw => ?_⟩
      rw [List.nil_append, walk, ofText_name hw]
      simp [percentEncode_name hw]
  | cons part parts ih =>
      cases hpart : Part.ofText part with
      | here =>
          obtain ⟨dirs', ih⟩ := ih dirs
          refine ⟨dirs', fun w hw => ?_⟩
          rw [List.cons_append, walk, hpart]
          exact ih w hw
      | up =>
          obtain ⟨dirs', ih⟩ := ih (leave dirs)
          refine ⟨dirs', fun w hw => ?_⟩
          rw [List.cons_append, walk, hpart]
          exact ih w hw
      | named text =>
          obtain ⟨dirs', ih⟩ := ih (String.ofList (percentEncode pathExtra text) :: dirs)
          refine ⟨dirs', fun w hw => ?_⟩
          rw [List.cons_append, walk, hpart]
          cases parts with
          | nil => exact ih w hw
          | cons next parts => exact ih w hw

/-- A path that is read up to its end or up to a slash leads into a directory,
in which a name can be read on. -/
theorem readPath_name {cs : List Char} (h : cs = [] ∨ EndsInSlash cs) :
    ∃ dirs, ∀ w, IsName w → (readPath .internet (cs ++ w)).1 = .rooted dirs (String.ofList w) := by
  have hslash : ∀ w, IsName w → ∀ c ∈ w, SchemeKind.internet.isSlash c = false :=
    fun w hw c hc => (hw c hc).slash
  obtain ⟨parts, hparts⟩ : ∃ parts, ∀ w, IsName w →
      splitPath .internet (cs ++ w) = parts ++ [w] := by
    rcases h with rfl | h
    · exact ⟨[], fun w hw => splitPath_name _ (hslash w hw)⟩
    · obtain ⟨front, rfl⟩ := List.getLast?_eq_some_iff.mp h
      refine ⟨splitPath .internet front, fun w hw => ?_⟩
      rw [List.append_assoc]
      exact splitPath_append _ front (hslash w hw)
  obtain ⟨dirs, hdirs⟩ := walk_name [] parts
  refine ⟨dirs.reverse, fun w hw => ?_⟩
  simp only [readPath, hparts w hw, hdirs w hw]
  rfl

/-! ## Whole URLs -/

theorem EndsInSlash.dropFirst {c : Char} {t : List Char} (h : EndsInSlash (c :: t)) :
    (if SchemeKind.internet.isSlash c then t else c :: t) = []
      ∨ EndsInSlash (if SchemeKind.internet.isSlash c then t else c :: t) := by
  split
  · rcases eq_or_ne t [] with rfl | ht
    · exact .inl rfl
    · exact .inr (h.of_suffix (List.suffix_cons c t) ht)
  · exact .inr h

theorem readNetwork_eq {scheme : String} {cs left t : List Char} {tail : Bool} {a : Authority}
    {c : Char}
    (ha : readAuthority .internet scheme (cs.takeWhile fun c => !SchemeKind.internet.isSlash c)
      (!(cs.dropWhile fun c => !SchemeKind.internet.isSlash c).isEmpty || tail) = .ok (a, left))
    (hrest : left ++ cs.dropWhile (fun c => !SchemeKind.internet.isSlash c) = c :: t) :
    readNetwork .internet scheme cs tail = .ok (some a,
      (readPath .internet (if SchemeKind.internet.isSlash c then t else c :: t)).1) := by
  simp only [readNetwork, ha, bind, Except.bind, hrest]
  rfl

/-- What is read before the path is over at the last slash at the latest. -/
theorem readNetwork_name {scheme : String} {cs : List Char} {tail : Bool}
    {authority : Option Authority} {path : Path} (hcs : EndsInSlash cs)
    (h : readNetwork .internet scheme cs tail = .ok (authority, path)) :
    ∃ dirs, ∀ w, IsName w → readNetwork .internet scheme (cs ++ w) tail =
      .ok (authority, .rooted dirs (String.ofList w)) := by
  obtain ⟨⟨a, left⟩, ha, h⟩ := bind_eq_ok_iff.mp h
  obtain ⟨rfl, -⟩ := Prod.mk.inj (Except.ok.inj h)
  have hne := hcs.dropWhile_ne_nil (p := fun c => !SchemeKind.internet.isSlash c) rfl
  -- What is left is the path, with the slash before it if there is one.
  have hpath := (hcs.of_suffix (List.dropWhile_suffix _) hne).append left
  obtain ⟨c, t, hrest⟩ := List.exists_cons_of_ne_nil (List.append_ne_nil_of_right_ne_nil left hne)
  rw [hrest] at hpath
  obtain ⟨dirs, hdirs⟩ := readPath_name hpath.dropFirst
  refine ⟨dirs, fun w hw => ?_⟩
  have hempty : (cs.dropWhile (fun c => !SchemeKind.internet.isSlash c) ++ w).isEmpty =
      (cs.dropWhile fun c => !SchemeKind.internet.isSlash c).isEmpty := by
    rw [List.isEmpty_eq_false_iff.mpr hne, List.isEmpty_eq_false_iff.mpr (by simp [hne])]
  have ha' : readAuthority .internet scheme
      ((cs ++ w).takeWhile fun c => !SchemeKind.internet.isSlash c)
      (!((cs ++ w).dropWhile fun c => !SchemeKind.internet.isSlash c).isEmpty || tail) =
        .ok (a, left) := by
    rw [takeWhile_append_of_ne_nil hne, dropWhile_append_of_ne_nil hne, hempty, ha]
  have hrest' : left ++ (cs ++ w).dropWhile (fun c => !SchemeKind.internet.isSlash c) =
      c :: (t ++ w) := by
    rw [dropWhile_append_of_ne_nil hne, ← List.append_assoc, hrest, List.cons_append]
  rw [← hdirs w hw, readNetwork_eq ha' hrest']
  split <;> rfl

theorem scheme_of_parse {s : String} {u : Url} (h : parse s = .ok u) :
    ∃ rest, scheme? (cleaned s) = some (u.scheme, rest) := by
  unfold parse at h
  split at h
  · cases h
  · rename_i scheme rest hscheme
    simp only at h
    cases hkind : SchemeKind.ofScheme scheme with
    | file | internet | other =>
        rw [hkind] at h
        obtain ⟨_, -, h⟩ := bind_eq_ok_iff.mp h
        obtain rfl := Except.ok.inj h
        exact ⟨rest, hscheme⟩

theorem parse_unmarked {s scheme : String} {rest : List Char}
    (hscheme : scheme? (cleaned s) = some (scheme, rest))
    (hkind : SchemeKind.ofScheme scheme = .internet) (hrest : Unmarked rest) :
    parse s = do
      let (authority, path) ←
        readNetwork .internet scheme (rest.dropWhile SchemeKind.internet.isSlash) false
      return ⟨scheme, authority, path, none, none⟩ := by
  simp only [parse, hscheme, splitTail_unmarked hrest, hkind]
  rfl

theorem readNetwork_nil (scheme : String) :
    readNetwork .internet scheme [] false = .error .emptyHost := rfl

/-- **Writing is joining.** What is read from a base text that ends in a slash,
with a name behind it, is the base URL with the name in its directory. -/
theorem parse_append {s : String} {u : Url} (hparse : parse s = .ok u)
    (hkind : SchemeKind.ofScheme u.scheme = .internet) (hlast : EndsInSlash s.toList)
    (hmarks : Unmarked s.toList) :
    ∃ dirs, u = u.inDirectory dirs "" ∧ ∀ name : String, IsName name.toList →
      parse (s ++ name) = .ok (u.inDirectory dirs name) := by
  obtain ⟨scheme, _, _, _, _⟩ := u
  obtain ⟨rest, hscheme⟩ := scheme_of_parse hparse
  obtain ⟨hclean, hmem, -⟩ := cleaned_append hlast "" (by simp [IsName])
  obtain ⟨hsuffix, -⟩ := scheme?_append hscheme []
  have hrest : Unmarked rest := fun c hc =>
    hmarks c (hmem c (hsuffix.subset (List.mem_cons_of_mem _ hc)))
  rw [parse_unmarked hscheme hkind hrest] at hparse
  obtain ⟨⟨authority, path⟩, hread, hu⟩ := bind_eq_ok_iff.mp hparse
  cases Except.ok.inj hu
  have hne : rest.dropWhile SchemeKind.internet.isSlash ≠ [] := by
    intro hnil
    rw [hnil, readNetwork_nil] at hread
    cases hread
  have hcs : EndsInSlash (rest.dropWhile SchemeKind.internet.isSlash) :=
    hclean.of_suffix ((List.dropWhile_suffix _).trans ((List.suffix_cons ':' rest).trans hsuffix))
      hne
  obtain ⟨dirs, hdirs⟩ := readNetwork_name hcs hread
  refine ⟨dirs, ?_, fun name hname => ?_⟩
  · have hpath := hdirs [] (by simp [IsName])
    rw [List.append_nil, hread] at hpath
    obtain ⟨-, rfl⟩ := Prod.mk.inj (Except.ok.inj hpath)
    rfl
  · obtain ⟨-, -, hname'⟩ := cleaned_append hlast name hname
    obtain ⟨-, hscheme'⟩ := scheme?_append hscheme name.toList
    have hrest' : Unmarked (rest ++ name.toList) := by
      intro c hc
      rcases List.mem_append.mp hc with hc | hc
      · exact hrest c hc
      · exact (hname c hc).mark
    rw [← hname'] at hscheme'
    rw [parse_unmarked hscheme' hkind hrest', dropWhile_append_of_ne_nil hne,
      hdirs name.toList hname, String.ofList_toList]
    rfl

end GraphCourier.Url

/-! ## Bases of endpoints -/

namespace GraphCourier

open Url (EndsInSlash Unmarked)

theorem Endpoint.endsInSlash_baseUrl (e : Endpoint) : EndsInSlash e.baseUrl.toList := by
  rw [EndsInSlash, List.getLast?_eq_some_iff, baseUrl]
  by_cases hinner : (trimSlashes e.apiPrefix).isEmpty = true
  · rw [if_pos hinner, String.append_empty, String.toList_append]
    exact ⟨_, rfl⟩
  · rw [if_neg hinner, ← String.append_assoc, String.toList_append]
    exact ⟨_, rfl⟩

/-- Nothing is added to the base of an endpoint. -/
theorem Client.withSlash_baseUrl (e : Endpoint) : withSlash e.baseUrl = e.baseUrl :=
  if_pos e.endsInSlash_baseUrl

theorem Client.parse_of_ofEndpoint {e : Endpoint} {c : Client} (h : ofEndpoint e = .ok c) :
    Url.parse e.baseUrl = .ok c.baseUrl := by
  rw [← withSlash_baseUrl]
  exact parse_of_ofBase h

theorem Client.invalidUrl_of_ofEndpoint {e : Endpoint} {error : ClientError}
    (h : ofEndpoint e = .error error) :
    ∃ fault, Url.parse e.baseUrl = .error fault ∧ error = .invalidUrl e.baseUrl fault.text := by
  rw [ofEndpoint, ofBase, withSlash_baseUrl] at h
  split at h
  · cases h
  · rename_i fault hfault
    exact ⟨fault, hfault, (Except.error.inj h).symm⟩

/-- What is read from the base of an endpoint has the scheme of the endpoint. -/
theorem Endpoint.scheme_of_parse {e : Endpoint} (hscheme : e.scheme = "http" ∨ e.scheme = "https")
    {u : Url} (h : Url.parse e.baseUrl = .ok u) : u.scheme = e.scheme := by
  obtain ⟨tail, htail⟩ : ∃ tail, e.baseUrl.toList = e.scheme.toList ++ ':' :: tail :=
    ⟨_, by simp only [baseUrl, String.toList_append, List.append_assoc]; rfl⟩
  obtain ⟨rest, hrest⟩ := Url.scheme_of_parse h
  rw [Url.cleaned_eq e.endsInSlash_baseUrl.isBlank_eq_false, htail] at hrest
  rcases hscheme with hscheme | hscheme
  · rw [hscheme] at hrest ⊢
    exact (Prod.mk.inj (Option.some.inj hrest)).1.symm
  · rw [hscheme] at hrest ⊢
    exact (Prod.mk.inj (Option.some.inj hrest)).1.symm

theorem Endpoint.forall_mem_trimSlashes {p : Char → Prop} {s : String}
    (h : ∀ c ∈ s.toList, p c) : ∀ c ∈ (trimSlashes s).toList, p c := by
  intro c hc
  rw [trimSlashes, String.toList_ofList, List.mem_reverse] at hc
  have hc := List.mem_reverse.mp ((List.dropWhile_suffix _).subset hc)
  exact h c ((List.dropWhile_suffix _).subset hc)

/-- The base of an endpoint brings no characters of its own but digits, colons and
slashes. -/
theorem Endpoint.forall_mem_baseUrl {p : Char → Prop} {e : Endpoint}
    (hscheme : ∀ c ∈ e.scheme.toList, p c) (hhost : ∀ c ∈ e.host.toList, p c)
    (hapi : ∀ c ∈ e.apiPrefix.toList, p c) (hcolon : p ':') (hslash : p '/')
    (hdigit : ∀ c, c.isDigit = true → p c) : ∀ c ∈ e.baseUrl.toList, p c := by
  have hport : ∀ c ∈ (Decimal.text e.port.toNat).toList, p c := by
    rw [Decimal.text, String.toList_ofList]
    exact fun c hc => hdigit c (Decimal.isDigit_of_mem_digits hc)
  have hsigns : (∀ c ∈ "://".toList, p c) ∧ (∀ c ∈ ":".toList, p c) ∧ ∀ c ∈ "/".toList, p c := by
    simp [hcolon, hslash]
  have hfront : ∀ c ∈ (e.scheme ++ "://" ++ e.host ++ ":" ++ Decimal.text e.port.toNat
      ++ "/").toList, p c := by
    simp only [String.toList_append, List.forall_mem_append]
    exact ⟨⟨⟨⟨⟨hscheme, hsigns.1⟩, hhost⟩, hsigns.2.1⟩, hport⟩, hsigns.2.2⟩
  rw [baseUrl, String.toList_append, List.forall_mem_append]
  refine ⟨hfront, ?_⟩
  split
  · simp
  · rw [String.toList_append, List.forall_mem_append]
    exact ⟨forall_mem_trimSlashes hapi, hsigns.2.2⟩

/-- There is no query and no fragment in the base of an endpoint unless one of
its texts brings it. -/
theorem Endpoint.unmarked_baseUrl {e : Endpoint} (hscheme : Unmarked e.scheme.toList)
    (hhost : Unmarked e.host.toList) (hapi : Unmarked e.apiPrefix.toList) :
    Unmarked e.baseUrl.toList := by
  refine forall_mem_baseUrl hscheme hhost hapi (by decide) (by decide) fun c hc => ⟨?_, ?_⟩
  · rintro rfl
    cases hc
  · rintro rfl
    cases hc

end GraphCourier
