import GraphCourier.LogFilter
import Mathlib.Data.List.TakeWhile

/-!
# Where the text of a filter is cut

The reader of a directive counts places without the white space around the directive
and cuts names out of the text with it. If there is white space in front, the names
begin and end too far to the left, which matters to the program when a cut falls inside
a character: there is no filter then, not even the standard one.

A directive is safe from that if it has no white space in front, for then the places
are the right ones, or if it is ASCII, for then any place will do (`Steady`). The reader
only ever keeps places that can be cut at (`Place.Sound`), so it cuts a safe
directive without fail (`untorn_read`).
-/

namespace GraphCourier

namespace Text

/-- A place between two characters, or at an end of the text. -/
def Boundary (cs : List Char) (n : Nat) : Prop :=
  ∃ front back, cs = front ++ back ∧ byteLength front = n

theorem byteLength_cons (c : Char) (cs : List Char) :
    byteLength (c :: cs) = c.utf8Size + byteLength cs := rfl

theorem byteLength_append (cs ds : List Char) :
    byteLength (cs ++ ds) = byteLength cs + byteLength ds := by
  induction cs with
  | nil => rw [List.nil_append, byteLength, Nat.zero_add]
  | cons c cs ih => rw [List.cons_append, byteLength_cons, byteLength_cons, ih, Nat.add_assoc]

/-- In front of a character there is at least one byte to come. -/
theorem exists_byteLength_cons (c : Char) (cs : List Char) :
    ∃ n, byteLength (c :: cs) = n + 1 ∧ c.utf8Size ≤ n + 1
      ∧ n + 1 - c.utf8Size = byteLength cs := by
  have hpos := c.utf8Size_pos
  have hcons := byteLength_cons c cs
  exact ⟨byteLength (c :: cs) - 1, by omega, by omega, by omega⟩

theorem dropBytes?_append (front back : List Char) :
    dropBytes? (byteLength front) (front ++ back) = some back := by
  induction front with
  | nil => cases back <;> rfl
  | cons c front ih =>
      obtain ⟨n, hn, hle, hsub⟩ := exists_byteLength_cons c front
      rw [hn, List.cons_append, dropBytes?, if_pos hle, hsub, ih]

theorem takeBytes?_append (front back : List Char) :
    takeBytes? (byteLength front) (front ++ back) = some front := by
  induction front with
  | nil => cases back <;> rfl
  | cons c front ih =>
      obtain ⟨n, hn, hle, hsub⟩ := exists_byteLength_cons c front
      rw [hn, List.cons_append, takeBytes?, if_pos hle, hsub, ih]
      rfl

theorem Boundary.exists_drop {cs : List Char} {n : Nat} (h : Boundary cs n) :
    ∃ back, dropBytes? n cs = some back := by
  obtain ⟨front, back, rfl, rfl⟩ := h
  exact ⟨back, dropBytes?_append front back⟩

/-- Between two boundaries there is a piece of the text. -/
theorem Boundary.exists_slice {cs : List Char} {start stop : Nat} (hstart : Boundary cs start)
    (hstop : Boundary cs stop) (hle : start ≤ stop) :
    ∃ piece, slice? start stop cs = some piece := by
  obtain ⟨front, back, rfl, rfl⟩ := hstart
  obtain ⟨front', back', happend, rfl⟩ := hstop
  rw [slice?, dropBytes?_append, Option.bind_some]
  obtain ⟨piece, rfl, rfl⟩ | ⟨extra, rfl, -⟩ := List.append_eq_append_iff.mp happend
  · rw [byteLength_append, Nat.add_sub_cancel_left]
    exact ⟨piece, takeBytes?_append piece back'⟩
  · have hzero : byteLength front' - byteLength (front' ++ extra) = 0 := Nat.sub_eq_zero_of_le
      (byteLength_append front' extra ▸ Nat.le_add_right ..)
    rw [hzero]
    exact ⟨[], by cases back <;> rfl⟩

end Text

namespace LogDirective

variable {isMatcher : List Char → Bool} {source : List Char} {i : Nat}

open Text (Boundary byteLength)

/-- No white space stands in front, or all characters are ASCII. -/
def Steady (part : List Char) : Prop :=
  (∀ c cs, part = c :: cs → Text.isWhiteSpace c = false) ∨ ∀ c ∈ part, c.toNat < 0x80

/-! ## What the reader keeps -/

/-- A place that is kept lies between characters, and not behind where the reader is. -/
def Place.Sound (source : List Char) (i : Nat) : Place → Prop
  | .word since | .span since | .field since | .level since => since ≤ i ∧ Boundary source since
  | .start | .fieldsEnd | .bracketsEnd => True

theorem cut_of_boundary {start stop : Nat} (hstart : Boundary source start)
    (hstop : Boundary source stop) (hle : start ≤ stop) :
    ∃ piece, cut source start stop = .ok piece := by
  obtain ⟨piece, hpiece⟩ := hstart.exists_slice hstop hle
  exact ⟨piece, by rw [cut, hpiece]⟩

theorem cutFrom_of_boundary {start : Nat} (hstart : Boundary source start) :
    ∃ piece, cutFrom source start = .ok piece := by
  obtain ⟨piece, hpiece⟩ := hstart.exists_drop
  exact ⟨piece, by rw [cutFrom, hpiece]⟩

/-- A reading that is good, and of which something is kept, or that finds the text
invalid. -/
def Untorn {α : Type} (kept : α → Prop) (r : Except LogFault α) : Prop :=
  (∃ x, r = .ok x ∧ kept x) ∨ r = .error .invalid

theorem Untorn.ne {α : Type} {kept : α → Prop} {r : Except LogFault α} (h : Untorn kept r) :
    r ≠ .error .torn := by
  obtain ⟨x, rfl, -⟩ | rfl := h
  · exact nofun
  · exact nofun

theorem untorn_addField (text : List Char) (d : LogDirective) :
    Untorn (fun _ => True) (addField isMatcher text d) := by
  unfold addField
  split
  · exact .inl ⟨_, rfl, trivial⟩
  · split
    · exact .inl ⟨_, rfl, trivial⟩
    · exact .inr rfl

/-- One character is read without a cut inside one, and what is kept stays sound. -/
theorem untorn_readChar {c : Char} {place : Place} (d : LogDirective)
    (hplace : place.Sound source i) (hi : Boundary source i)
    (hnext : Boundary source (i + c.utf8Size)) :
    Untorn (fun next => next.1.Sound source (i + c.utf8Size))
      (readChar isMatcher source i c place d) := by
  have hmark : ∀ {m : Char}, c = m → m.utf8Size = 1 →
      i + 1 ≤ i + c.utf8Size ∧ Boundary source (i + 1) := by
    rintro m rfl hm
    rw [hm] at hnext ⊢
    exact ⟨Nat.le_refl _, hnext⟩
  have hstay : ∀ {since : Nat}, since ≤ i ∧ Boundary source since →
      since ≤ i + c.utf8Size ∧ Boundary source since :=
    fun h => ⟨Nat.le_add_right_of_le h.1, h.2⟩
  cases place with
  | start =>
      simp only [readChar]
      split
      · exact .inl ⟨_, rfl, hmark ‹_› rfl⟩
      · split
        · exact .inl ⟨_, rfl, hstay ⟨Nat.le_refl i, hi⟩⟩
        · exact .inr rfl
  | word since =>
      obtain ⟨piece, hpiece⟩ := cut_of_boundary hplace.2 hi hplace.1
      simp only [readChar, hpiece]
      split
      · exact .inl ⟨_, rfl, hmark ‹_› rfl⟩
      · split
        · exact .inl ⟨_, rfl, hmark ‹_› rfl⟩
        · exact .inl ⟨_, rfl, hstay hplace⟩
  | span since =>
      obtain ⟨piece, hpiece⟩ := cut_of_boundary hplace.2 hi hplace.1
      simp only [readChar, hpiece]
      split
      · exact .inl ⟨_, rfl, trivial⟩
      · split
        · exact .inl ⟨_, rfl, hmark ‹_› rfl⟩
        · exact .inl ⟨_, rfl, hstay hplace⟩
  | field since =>
      obtain ⟨piece, hpiece⟩ := cut_of_boundary hplace.2 hi hplace.1
      simp only [readChar, hpiece]
      split
      · by_cases hempty : piece.isEmpty = true
        · exact .inr (if_pos hempty)
        · obtain ⟨d', hadd, -⟩ | hadd := @untorn_addField isMatcher piece d
          · exact .inl ⟨(.fieldsEnd, d'), (if_neg hempty).trans (by rw [hadd]; rfl), trivial⟩
          · exact .inr ((if_neg hempty).trans (by rw [hadd]; rfl))
      · exact .inl ⟨_, rfl, hstay hplace⟩
  | fieldsEnd =>
      simp only [readChar]
      split
      · exact .inl ⟨_, rfl, trivial⟩
      · exact .inr rfl
  | bracketsEnd =>
      simp only [readChar]
      split
      · exact .inl ⟨_, rfl, hmark ‹_› rfl⟩
      · exact .inr rfl
  | level since => exact .inl ⟨_, rfl, hstay hplace⟩

/-- The characters from a place on are read so if all places among them are boundaries. -/
theorem untorn_readChars (cs : List Char) {place : Place} (d : LogDirective)
    (hplace : place.Sound source i)
    (hall : ∀ front, front <+: cs → Boundary source (i + byteLength front)) :
    Untorn (fun next => next.1.Sound source (i + byteLength cs))
      (readChars isMatcher source i cs place d) := by
  induction cs generalizing i place d with
  | nil => exact .inl ⟨_, rfl, hplace⟩
  | cons c cs ih =>
      have hi : Boundary source i := hall [] List.nil_prefix
      have hnext : Boundary source (i + c.utf8Size) := by
        simpa [byteLength] using hall [c] ⟨cs, rfl⟩
      rw [readChars]
      obtain ⟨⟨place', d'⟩, hread, hplace'⟩ | hread :=
        @untorn_readChar isMatcher source i c place d hplace hi hnext
      · rw [hread, Text.byteLength_cons, ← Nat.add_assoc]
        refine ih d' hplace' fun front hfront => ?_
        rw [Nat.add_assoc, ← Text.byteLength_cons]
        exact hall (c :: front) (List.cons_prefix_cons.mpr ⟨rfl, hfront⟩)
      · rw [hread]
        exact .inr rfl

theorem untorn_readEnd {place : Place} (d : LogDirective) (hplace : place.Sound source i) :
    Untorn (fun _ => True) (readEnd source place d) := by
  cases place with
  | word since =>
      obtain ⟨piece, hpiece⟩ := cutFrom_of_boundary hplace.2
      simp only [readEnd, hpiece, bind, Except.bind]
      split
      · exact .inl ⟨_, rfl, trivial⟩
      · exact .inl ⟨_, rfl, trivial⟩
  | level since =>
      obtain ⟨piece, hpiece⟩ := cutFrom_of_boundary hplace.2
      simp only [readEnd, hpiece, bind, Except.bind]
      split
      · exact .inl ⟨_, rfl, trivial⟩
      · exact .inr rfl
  | bracketsEnd => exact .inl ⟨_, rfl, trivial⟩
  | start => exact .inr rfl
  | span since => exact .inr rfl
  | field since => exact .inr rfl
  | fieldsEnd => exact .inr rfl

/-! ## Steady directives -/

theorem byteLength_of_ascii {cs : List Char} (h : ∀ c ∈ cs, c.toNat < 0x80) :
    byteLength cs = cs.length := by
  induction cs with
  | nil => rfl
  | cons c cs ih =>
      obtain ⟨hc, hcs⟩ := List.forall_mem_cons.mp h
      have hsize : c.utf8Size = 1 := Char.utf8Size_eq_one_iff.mpr (Nat.le_of_lt_succ hc)
      rw [Text.byteLength_cons, hsize, ih hcs, List.length_cons, Nat.add_comm]

theorem trimmed_eq (cs : List Char) :
    ∃ front back, cs = front ++ trimmed cs ++ back ∧ ∀ c ∈ front, Text.isWhiteSpace c = true := by
  let rest := cs.dropWhile Text.isWhiteSpace
  refine ⟨cs.takeWhile Text.isWhiteSpace, (rest.reverse.takeWhile Text.isWhiteSpace).reverse, ?_,
    fun c hc => List.mem_takeWhile_imp hc⟩
  have hrest : rest = trimmed cs ++ (rest.reverse.takeWhile Text.isWhiteSpace).reverse := by
    rw [trimmed, ← List.reverse_append, List.takeWhile_append_dropWhile, List.reverse_reverse]
  rw [List.append_assoc, ← hrest, List.takeWhile_append_dropWhile]

/-- Counted without the white space around it, a place of a steady directive is still
one where the directive can be cut. -/
theorem boundary_of_steady (h : Steady source) {front : List Char}
    (hfront : front <+: trimmed source) :
    Boundary source (byteLength front) := by
  obtain ⟨blank, back, hsource, hblank⟩ := trimmed_eq source
  obtain ⟨middle, hmiddle⟩ := hfront
  have hall : source = blank ++ (front ++ (middle ++ back)) := by
    rw [hsource, ← hmiddle]
    simp
  obtain hstart | hascii := h
  · cases blank with
    | nil => exact ⟨front, middle ++ back, hall, rfl⟩
    | cons c blank =>
        have hwhite := hblank c (List.mem_cons_self ..)
        rw [hstart c _ hall] at hwhite
        cases hwhite
  · refine ⟨source.take front.length, source.drop front.length, (List.take_append_drop ..).symm, ?_⟩
    have hle : front.length ≤ source.length := by
      rw [hall]
      simp only [List.length_append]
      omega
    have hsub : ∀ c ∈ front, c ∈ source := by
      intro c hc
      rw [hall]
      simp [hc]
    rw [byteLength_of_ascii fun c hc => hascii c (List.mem_of_mem_take hc),
      List.length_take_of_le hle,
      byteLength_of_ascii fun c hc => hascii c (hsub c hc)]

theorem untorn_read (h : Steady source) : Untorn (fun _ => True) (read isMatcher source) := by
  have hplaces : ∀ front, front <+: trimmed source → Boundary source (0 + byteLength front) :=
    fun front hfront => (Nat.zero_add (byteLength front)).symm ▸ boundary_of_steady h hfront
  obtain ⟨⟨place, d⟩, hread, hplace⟩ | hread :=
    @untorn_readChars isMatcher source 0 (trimmed source) .start all trivial hplaces
  · rw [read, hread]
    exact untorn_readEnd d hplace
  · rw [read, hread]
    exact .inr rfl

end LogDirective

namespace LogFilter

variable {isMatcher : List Char → Bool}

theorem bind_ne_torn {α β : Type} {x : Except LogFault α} {f : α → Except LogFault β}
    (hx : x ≠ .error .torn) (hf : ∀ a, f a ≠ .error .torn) : (x >>= f) ≠ .error .torn := by
  cases x with
  | error e => exact fun h => hx (congrArg _ (Except.error.inj h))
  | ok a => exact hf a

theorem mapM_ne_torn {parts : List (List Char)}
    (h : ∀ part ∈ parts, LogDirective.read isMatcher part ≠ .error .torn) :
    parts.mapM (LogDirective.read isMatcher) ≠ .error .torn := by
  induction parts with
  | nil => exact nofun
  | cons part parts ih =>
      obtain ⟨hpart, hparts⟩ := List.forall_mem_cons.mp h
      rw [List.mapM_cons]
      exact bind_ne_torn hpart fun _ => bind_ne_torn (ih hparts) fun _ => nofun

/-- A filter of steady directives can be cut as it has to be. -/
theorem read_ne_torn {s : String} (h : ∀ part ∈ splitCommas s.toList, LogDirective.Steady part) :
    read isMatcher s ≠ .error .torn := by
  refine bind_ne_torn (mapM_ne_torn fun part hpart => ?_) fun _ => nofun
  exact (LogDirective.untorn_read (h part (List.mem_filter.mp hpart).1)).ne

theorem ofText?_eq_none {s : String} :
    ofText? isMatcher s = none ↔ read isMatcher s = .error .torn := by
  rw [ofText?]
  split
  · simp [*]
  · simp [*]
  · simp [*]

end LogFilter

end GraphCourier
