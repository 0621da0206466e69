import GraphCourier.Proofs.Joining

/-!
# API prefixes

The API prefix of an endpoint may be given with slashes around it. `Trimmed` says
what is left without them, by how the prefix is put together again: there is
always one such text, and it is the one that the base URL is made with
(`Endpoint.trimmed_iff`). It stands in the base URL as a folder, with one slash
behind it, or not at all if it is empty (`Endpoint.baseUrl_of_trimmed`). Two
folders are the same only if their names are, so the base URL tells the prefix up
to the slashes around it (`Endpoint.baseUrl_folder`).
-/

namespace GraphCourier.Endpoint

open Url (EndsInSlash)

variable {e : Endpoint} {s t : String}

/-! ## Slashes at the ends -/

def slashes (n : Nat) : String := String.ofList (List.replicate n '/')

theorem toList_slashes (n : Nat) : (slashes n).toList = List.replicate n '/' :=
  String.toList_ofList

theorem slashes_append (m n : Nat) : slashes m ++ slashes n = slashes (m + n) := by
  rw [slashes, slashes, slashes, ← String.ofList_append, List.replicate_append_replicate]

/-- What is left of `s` without the slashes at its ends is `t`. -/
structure Trimmed (s t : String) : Prop where
  around : ∃ m n, s = slashes m ++ t ++ slashes n
  first : t.toList.head? ≠ some '/'
  last : t.toList.getLast? ≠ some '/'

theorem dropWhile_replicate_append {cs : List Char} (h : cs.head? ≠ some '/') (n : Nat) :
    (List.replicate n '/' ++ cs).dropWhile (· == '/') = cs := by
  rw [List.dropWhile_append_of_pos fun c hc => by simp [List.eq_of_mem_replicate hc]]
  cases cs with
  | nil => rfl
  | cons c cs =>
      have hc : (c == '/') = false := beq_false_of_ne fun hc => h (congrArg some hc)
      rw [List.dropWhile_cons, hc]
      rfl

theorem exists_replicate_append (cs : List Char) :
    ∃ n, cs = List.replicate n '/' ++ cs.dropWhile (· == '/') := by
  refine ⟨(cs.takeWhile (· == '/')).length, ?_⟩
  have htake : cs.takeWhile (· == '/') = List.replicate (cs.takeWhile (· == '/')).length '/' :=
    List.eq_replicate_of_mem fun c hc => by simpa using List.mem_takeWhile_imp hc
  rw [← htake, List.takeWhile_append_dropWhile]

theorem head?_dropWhile_ne (cs : List Char) : (cs.dropWhile (· == '/')).head? ≠ some '/' := by
  intro h
  have hnot := List.head?_dropWhile_not (· == '/') cs
  rw [h] at hnot
  cases hnot

/-- Slashes are trimmed from the front, and then from the end. -/
theorem trimmed_trimSlashes (s : String) : Trimmed s (trimSlashes s) := by
  obtain ⟨m, hfront⟩ := exists_replicate_append s.toList
  obtain ⟨n, hback⟩ := exists_replicate_append (s.toList.dropWhile (· == '/')).reverse
  have hlast := head?_dropWhile_ne (s.toList.dropWhile (· == '/')).reverse
  have hfirst := head?_dropWhile_ne s.toList
  have htrim : (trimSlashes s).toList =
      ((s.toList.dropWhile (· == '/')).reverse.dropWhile (· == '/')).reverse :=
    String.toList_ofList
  have hrest : s.toList.dropWhile (· == '/') = (trimSlashes s).toList ++ List.replicate n '/' := by
    rw [htrim, ← List.reverse_replicate, ← List.reverse_append, ← hback, List.reverse_reverse]
  refine ⟨⟨m, n, ?_⟩, ?_, ?_⟩
  · rw [← String.toList_inj, String.toList_append, String.toList_append, toList_slashes,
      toList_slashes, List.append_assoc, ← hrest]
    exact hfront
  · -- what is trimmed at the end leaves the first character alone
    intro h
    rw [hrest, List.head?_append, h] at hfirst
    exact hfirst rfl
  · rwa [htrim, List.getLast?_reverse]

theorem Trimmed.trimSlashes_eq (h : Trimmed s t) : trimSlashes s = t := by
  obtain ⟨⟨m, n, rfl⟩, hfirst, hlast⟩ := h
  rw [trimSlashes, String.toList_append, String.toList_append, toList_slashes, toList_slashes,
    List.append_assoc]
  by_cases ht : t.toList = []
  · -- all slashes are at the front then
    rw [ht, List.nil_append, List.replicate_append_replicate, ← List.append_nil (.replicate _ _),
      dropWhile_replicate_append (by simp), String.toList_eq_nil_iff.mp ht]
    rfl
  · have hback : (t.toList ++ List.replicate n '/').reverse.dropWhile (· == '/') =
        t.toList.reverse := by
      rw [List.reverse_append, List.reverse_replicate, dropWhile_replicate_append]
      rwa [List.head?_reverse]
    rw [dropWhile_replicate_append, hback, List.reverse_reverse, String.ofList_toList]
    rwa [List.head?_append_of_ne_nil _ ht]

theorem trimmed_iff : Trimmed s t ↔ trimSlashes s = t :=
  ⟨Trimmed.trimSlashes_eq, fun h => h ▸ trimmed_trimSlashes s⟩

/-- Slashes that are added at the ends do not count. -/
theorem Trimmed.slashes (h : Trimmed s t) (m n : Nat) :
    Trimmed (slashes m ++ s ++ slashes n) t := by
  obtain ⟨⟨m', n', rfl⟩, hfirst, hlast⟩ := h
  refine ⟨⟨m + m', n' + n, ?_⟩, hfirst, hlast⟩
  simp only [← slashes_append, String.append_assoc]

theorem trimmed_empty_iff : Trimmed s "" ↔ ∀ c ∈ s.toList, c = '/' := by
  constructor
  · rintro ⟨⟨m, n, rfl⟩, -, -⟩ c hc
    rw [String.append_empty, slashes_append, toList_slashes] at hc
    exact List.eq_of_mem_replicate hc
  · intro h
    refine ⟨⟨s.toList.length, 0, ?_⟩, nofun, nofun⟩
    rw [← String.toList_inj, String.append_empty, slashes_append, toList_slashes]
    exact List.eq_replicate_of_mem h

/-! ## Folders -/

/-- A prefix as it stands in a base URL: with a slash behind it, if there is one. -/
def folder (t : String) : String := if t.isEmpty then "" else t ++ "/"

theorem folder_of_ne_empty (h : t ≠ "") : folder t = t ++ "/" := by
  rw [folder, if_neg (by simpa using h)]

theorem folder_eq_empty_iff : folder t = "" ↔ t = "" := by
  constructor
  · intro h
    by_contra hne
    rw [folder_of_ne_empty hne] at h
    have hlength := congrArg String.length h
    rw [String.length_append] at hlength
    exact absurd hlength (Nat.succ_ne_zero _)
  · rintro rfl
    rfl

theorem folder_injective : Function.Injective folder := by
  intro t t' h
  by_cases ht : t = ""
  · subst ht
    exact (folder_eq_empty_iff.mp h.symm).symm
  · have ht' : t' ≠ "" := fun ht' => ht (folder_eq_empty_iff.mp (h.trans (by rw [ht']; rfl)))
    rw [folder_of_ne_empty ht, folder_of_ne_empty ht'] at h
    exact (String.append_left_inj _).mp h

theorem baseUrl_of_trimmed (h : Trimmed e.apiPrefix t) :
    e.baseUrl =
      e.scheme ++ "://" ++ e.host ++ ":" ++ Decimal.text e.port.toNat ++ "/" ++ folder t := by
  rw [← h.trimSlashes_eq, baseUrl, folder]

/-- Base URLs that differ in their prefix alone are equal if the same is left of it. -/
theorem baseUrl_eq_iff {p q : String} :
    { e with apiPrefix := p }.baseUrl = { e with apiPrefix := q }.baseUrl ↔
      ∃ t, Trimmed p t ∧ Trimmed q t := by
  have hp := trimmed_trimSlashes p
  have hq := trimmed_trimSlashes q
  rw [baseUrl_of_trimmed (e := { e with apiPrefix := p }) hp,
    baseUrl_of_trimmed (e := { e with apiPrefix := q }) hq]
  constructor
  · intro h
    have htrim := folder_injective ((String.append_right_inj _).mp h)
    exact ⟨_, hp, htrim ▸ hq⟩
  · rintro ⟨t, hp', hq'⟩
    rw [hp'.trimSlashes_eq, hq'.trimSlashes_eq]

/-! ## Clients -/

theorem ofBase_eq_ok_iff {c : Client} :
    Client.ofBase e.baseUrl = .ok c ↔ Url.parse e.baseUrl = .ok c.baseUrl := by
  obtain ⟨url⟩ := c
  unfold Client.ofBase
  rw [Client.withSlash_baseUrl]
  cases Url.parse e.baseUrl with
  | ok url' => simp
  | error fault => exact iff_of_false nofun nofun

theorem ofBase_eq_error_iff {error : ClientError} :
    Client.ofBase e.baseUrl = .error error ↔
      ∃ fault, Url.parse e.baseUrl = .error fault ∧ error = .invalidUrl e.baseUrl fault.text := by
  unfold Client.ofBase
  rw [Client.withSlash_baseUrl]
  cases Url.parse e.baseUrl with
  | ok url => simp
  | error fault => simp [eq_comm]

/-- **The base URL of an endpoint** ends in a slash and is read as it is. Behind the
slash after the port there is nothing if the prefix is made of slashes alone, and
otherwise what is left of the prefix without the slashes at its ends, with one slash
behind it. Nothing else of the prefix matters: neither the base URL nor the endpoint
of an operation changes with slashes that are added at its ends, and if two prefixes
have the same base URL, the same is left of them. -/
theorem baseUrl_folder (e : Endpoint) :
    EndsInSlash e.baseUrl.toList
      ∧ Client.withSlash e.baseUrl = e.baseUrl
      ∧ (∀ c, Client.ofBase e.baseUrl = .ok c ↔ Url.parse e.baseUrl = .ok c.baseUrl)
      ∧ (∀ error, Client.ofBase e.baseUrl = .error error ↔ ∃ fault,
          Url.parse e.baseUrl = .error fault ∧ error = .invalidUrl e.baseUrl fault.text)
      ∧ (∃ path, e.baseUrl =
            e.scheme ++ "://" ++ e.host ++ ":" ++ Decimal.text e.port.toNat ++ "/" ++ path
          ∧ (path = "" ↔ ∀ c ∈ e.apiPrefix.toList, c = '/')
          ∧ (path ≠ "" → ∃ t, path = t ++ "/" ∧ t ≠ "" ∧ Trimmed e.apiPrefix t))
      ∧ (∀ p q, { e with apiPrefix := p }.baseUrl = { e with apiPrefix := q }.baseUrl ↔
          ∃ t, Trimmed p t ∧ Trimmed q t)
      ∧ ∀ m n, let e' := { e with apiPrefix := slashes m ++ e.apiPrefix ++ slashes n }
          e'.baseUrl = e.baseUrl ∧ Client.ofEndpoint e' = Client.ofEndpoint e
            ∧ ∀ op, (Client.ofEndpoint e' >>= fun c => c.endpoint op) =
                Client.ofEndpoint e >>= fun c => c.endpoint op := by
  have htrimmed := trimmed_trimSlashes e.apiPrefix
  refine ⟨e.endsInSlash_baseUrl, Client.withSlash_baseUrl e, fun c => ofBase_eq_ok_iff,
    fun error => ofBase_eq_error_iff, ?_, fun p q => baseUrl_eq_iff, ?_⟩
  · refine ⟨folder (trimSlashes e.apiPrefix), baseUrl_of_trimmed htrimmed, ?_, fun hpath => ?_⟩
    · rw [folder_eq_empty_iff, ← trimmed_iff, trimmed_empty_iff]
    · have hne : trimSlashes e.apiPrefix ≠ "" := fun h => hpath (folder_eq_empty_iff.mpr h)
      exact ⟨_, folder_of_ne_empty hne, hne, htrimmed⟩
  · intro m n e'
    have hbase : e'.baseUrl = e.baseUrl :=
      baseUrl_eq_iff.mpr ⟨_, htrimmed.slashes m n, htrimmed⟩
    have hclient : Client.ofEndpoint e' = Client.ofEndpoint e := congrArg Client.ofBase hbase
    exact ⟨hbase, hclient, fun op => by rw [hclient]⟩

example : { standard with apiPrefix := "//api///v1/" }.baseUrl =
    "http://127.0.0.1:8000/api///v1/" :=
  rfl

end GraphCourier.Endpoint
