import Mathlib.Tactic.MkIffOfInductiveProp
import GraphCourier.Exchange

/-!
# Where operations are sent

A URL of an Internet scheme has a path of directories, whatever text it was read
from (`Url.path_of_parse`). So a client of such a base puts the name of every
operation into the same directory: there is an endpoint for each
(`Client.endpoint_ofBase`), and a server can tell from what follows the last
slash of its path which one it is (`Url.afterSlash_rooted`).
-/

namespace GraphCourier

namespace Url

/-! ## Paths of Internet URLs -/

theorem readNetwork_internet {scheme : String} {cs : List Char} {tail : Bool}
    {authority : Option Authority} {path : Path}
    (h : readNetwork .internet scheme cs tail = .ok (authority, path)) :
    ∃ dirs last, path = .rooted dirs last := by
  obtain ⟨⟨_, left⟩, -, h⟩ := bind_eq_ok_iff.mp h
  obtain ⟨-, rfl⟩ := Prod.mk.inj (Except.ok.inj h)
  cases left ++ cs.dropWhile fun c => !SchemeKind.internet.isSlash c with
  | nil => exact ⟨_, _, rfl⟩
  | cons c t => exact ⟨_, _, rfl⟩

/-- How an Internet URL came about. Behind the scheme, the text before the first
question mark or number sign is read as authority and path. -/
theorem parse_internet {s : String} {u : Url} (h : parse s = .ok u)
    (hkind : SchemeKind.ofScheme u.scheme = .internet) :
    ∃ rest main query fragment, scheme? (cleaned s) = some (u.scheme, rest)
      ∧ splitTail rest = (main, query, fragment)
      ∧ readNetwork .internet u.scheme (main.dropWhile SchemeKind.internet.isSlash)
          (query.isSome || fragment.isSome) = .ok (u.authority, u.path)
      ∧ u.query.isSome = query.isSome ∧ u.fragment.isSome = fragment.isSome := by
  unfold parse at h
  split at h
  · cases h
  · rename_i scheme rest hscheme
    simp only at h
    -- Which reader ran was decided by the scheme, which is the one of the URL.
    cases hread : SchemeKind.ofScheme scheme with
    | internet =>
        rw [hread] at h
        obtain ⟨⟨authority, path⟩, hpath, h⟩ := bind_eq_ok_iff.mp h
        obtain rfl := Except.ok.inj h
        exact ⟨rest, _, _, _, hscheme, rfl, hpath, Option.isSome_map, Option.isSome_map⟩
    | file | other =>
        rw [hread] at h
        obtain ⟨_, -, h⟩ := bind_eq_ok_iff.mp h
        obtain rfl := Except.ok.inj h
        rw [hread] at hkind
        cases hkind

theorem authority_of_readNetwork {kind : SchemeKind} {scheme : String} {cs : List Char}
    {tail : Bool} {authority : Option Authority} {path : Path}
    (h : readNetwork kind scheme cs tail = .ok (authority, path)) : ∃ a, authority = some a := by
  obtain ⟨⟨a, _⟩, -, h⟩ := bind_eq_ok_iff.mp h
  exact ⟨a, (Prod.mk.inj (Except.ok.inj h)).1.symm⟩

theorem path_of_parse {s : String} {u : Url} (h : parse s = .ok u)
    (hkind : SchemeKind.ofScheme u.scheme = .internet) :
    ∃ dirs last, u.path = .rooted dirs last := by
  obtain ⟨_, _, _, _, -, -, hread, -⟩ := parse_internet h hkind
  exact readNetwork_internet hread

/-- The URL of a name in a directory, without query and fragment. -/
def inDirectory (u : Url) (dirs : List String) (name : String) : Url :=
  { u with path := .rooted dirs name, query := none, fragment := none }

theorem sibling_rooted {u : Url} {dirs : List String} {last : String}
    (hpath : u.path = .rooted dirs last) (hscheme : u.scheme ≠ "file") (name : String) :
    u.sibling name = .ok (u.inDirectory dirs name) := by
  have hdrive : ¬(u.scheme = "file" ∧ isDriveLetter last.toList = true ∧
      last.toList.contains ':' = true) := fun h => hscheme h.1
  simp only [sibling, hpath, if_neg hdrive]
  rfl

/-! ## Texts of URLs -/

/-- What stands in the text of a URL behind its path. -/
def tailText (u : Url) : String :=
  (match u.query with
    | some q => "?" ++ q
    | none => "") ++
    (match u.fragment with
      | some f => "#" ++ f
      | none => "")

variable {u : Url} {a : Authority}

theorem text_inDirectory (ha : u.authority = some a) (dirs : List String) (name : String) :
    (u.inDirectory dirs name).text = (u.inDirectory dirs "").text ++ name := by
  simp only [text, inDirectory, ha, Path.text, String.append_empty, String.append_assoc]

theorem text_rooted (ha : u.authority = some a) {dirs : List String} {last : String}
    (hpath : u.path = .rooted dirs last) :
    u.text = (u.inDirectory dirs "").text ++ last ++ u.tailText := by
  cases hquery : u.query <;> cases hfragment : u.fragment <;>
    simp only [text, inDirectory, ha, hpath, tailText, hquery, hfragment, Path.text,
      String.append_empty, String.empty_append, String.append_assoc]

/-! ## Names at the end of paths -/

/-- What follows the last slash of a text. -/
def afterSlash (s : String) : String :=
  String.ofList (s.toList.reverse.takeWhile (· != '/')).reverse

theorem exists_slash (dirs : List String) :
    ∃ front, ("/" ++ String.join (dirs.map (· ++ "/"))).toList = front ++ ['/'] := by
  induction dirs with
  | nil => exact ⟨[], rfl⟩
  | cons d dirs ih =>
      obtain ⟨front, h⟩ := ih
      refine ⟨'/' :: d.toList ++ front, ?_⟩
      rw [List.append_assoc, ← h]
      simp

theorem afterSlash_rooted (dirs : List String) {name : String} (h : '/' ∉ name.toList) :
    afterSlash (Path.rooted dirs name).text = name := by
  obtain ⟨front, hfront⟩ := exists_slash dirs
  have hname : ∀ c ∈ name.toList.reverse, (c != '/') = true := by
    intro c hc
    rw [bne_iff_ne]
    rintro rfl
    exact h (List.mem_reverse.mp hc)
  rw [afterSlash, Path.text, String.toList_append, hfront, List.append_assoc, List.reverse_append,
    List.reverse_append, List.append_assoc, List.takeWhile_append_of_pos hname]
  simp

end Url

theorem Operation.slash_notMem_name (op : Operation) : '/' ∉ op.name.toList := by
  cases op <;> simp only [name] <;> decide

/-- The endpoints of a client are in the directory of its base. -/
theorem Client.endpoint_rooted {c : Client}
    (hkind : Url.SchemeKind.ofScheme c.baseUrl.scheme = .internet) {dirs : List String}
    {last : String} (hpath : c.baseUrl.path = .rooted dirs last) (op : Operation) :
    c.endpoint op = .ok (c.baseUrl.inDirectory dirs op.name) := by
  have hscheme : c.baseUrl.scheme ≠ "file" := by
    intro hfile
    rw [hfile] at hkind
    cases hkind
  rw [endpoint, Url.sibling_rooted hpath hscheme]

theorem Client.parse_of_ofBase {base : String} {c : Client} (h : ofBase base = .ok c) :
    Url.parse (withSlash base) = .ok c.baseUrl := by
  unfold ofBase at h
  split at h
  · rename_i url hurl
    obtain rfl := Except.ok.inj h
    exact hurl
  · cases h

/-- **There is an endpoint for every operation** under a base of an Internet
scheme, and they all are in one directory. -/
theorem Client.endpoint_ofBase {base : String} {c : Client} (h : ofBase base = .ok c)
    (hkind : Url.SchemeKind.ofScheme c.baseUrl.scheme = .internet) :
    ∃ dirs, ∀ op, c.endpoint op = .ok (c.baseUrl.inDirectory dirs op.name) := by
  obtain ⟨dirs, last, hpath⟩ := Url.path_of_parse (parse_of_ofBase h) hkind
  exact ⟨dirs, endpoint_rooted hkind hpath⟩

/-! ## What can be sent -/

namespace Http

/-- Requests can go to the host of a URL: it is reached over HTTP, and its name has
none of the characters that no request may hold. -/
@[mk_iff]
structure Addressable (u : Url) : Prop where
  scheme : u.scheme = "http" ∨ u.scheme = "https"
  host : ∃ a, u.authority = some a
    ∧ ∀ x ∈ a.host.text.toList, x ∉ ['"', '\x60', '\x7b', '\x7d']

instance (u : Url) : Decidable (Addressable u) :=
  decidable_of_iff
    ((u.scheme = "http" ∨ u.scheme = "https") ∧ u.authority.any (fun a =>
      a.host.text.toList.all fun x => x ∉ ['"', '\x60', '\x7b', '\x7d']) = true)
    (by rw [addressable_iff]; cases u.authority <;> simp)

theorem isSendable_iff {u : Url} :
    isSendable u = true ↔ Addressable u ∧ (utf8 u.text).length ≤ maxUrlLength := by
  rw [isSendable, Bool.and_eq_true, Bool.and_eq_true, decide_eq_true_eq, addressable_iff]
  refine and_congr_left' (and_congr (by simp) ?_)
  cases u.authority with
  | none => simp
  | some a => simp

theorem path_withoutLogin (url : Url) : (withoutLogin url).path = url.path := by
  unfold withoutLogin
  split <;> rfl

theorem withoutLogin_inDirectory (u : Url) (dirs : List String) (name : String) :
    withoutLogin (u.inDirectory dirs name) = (withoutLogin u).inDirectory dirs name := by
  have hlogin : login? (u.inDirectory dirs name) = login? u := rfl
  unfold withoutLogin
  rw [hlogin]
  split <;> rfl

theorem addressable_withoutLogin {u : Url} : Addressable (withoutLogin u) ↔ Addressable u := by
  unfold withoutLogin
  split
  · rw [addressable_iff, addressable_iff]
    cases u.authority <;> simp
  · rfl

/-- The text of a URL to which a request goes is that of the directory and the name. -/
theorem isSendable_inDirectory {u : Url} {dirs : List String} {name : String} :
    isSendable (withoutLogin (u.inDirectory dirs name)) = true ↔ Addressable u
      ∧ (utf8 (((withoutLogin u).inDirectory dirs "").text ++ name)).length ≤ maxUrlLength := by
  have hsame : Addressable ((withoutLogin u).inDirectory dirs name) ↔ Addressable u :=
    Iff.trans ⟨fun h => ⟨h.scheme, h.host⟩, fun h => ⟨h.scheme, h.host⟩⟩ addressable_withoutLogin
  rw [withoutLogin_inDirectory, isSendable_iff, hsame]
  refine and_congr_right fun h => ?_
  obtain ⟨a, ha, -⟩ := (addressable_withoutLogin.mpr h).host
  rw [Url.text_inDirectory ha]

end Http

/-- **Everything can be sent under a short base** if requests can go to its host at
all. The credentials do not count. -/
theorem Client.isSendable_of_short {c : Client} {dirs : List String} {last : String}
    (hpath : c.baseUrl.path = .rooted dirs last) (hhost : Http.Addressable c.baseUrl)
    (hshort : (utf8 (Http.withoutLogin c.baseUrl).text).length + 13 ≤ Http.maxUrlLength)
    (op : Operation) :
    Http.isSendable (Http.withoutLogin (c.baseUrl.inDirectory dirs op.name)) = true := by
  obtain ⟨a, ha, -⟩ := (Http.addressable_withoutLogin.mpr hhost).host
  rw [Url.text_rooted ha ((Http.path_withoutLogin _).trans hpath), utf8_append, utf8_append,
    List.length_append, List.length_append] at hshort
  have hname : (utf8 op.name).length ≤ 13 := by
    cases op <;> simp only [Operation.name] <;> decide
  rw [Http.isSendable_inDirectory, utf8_append, List.length_append]
  exact ⟨hhost, by omega⟩

end GraphCourier
