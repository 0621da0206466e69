/-!
# Texts as bytes

Texts travel as UTF-8. `textOf?` takes bytes only if they are UTF-8;
`lossyText` takes any bytes and puts a replacement character for each stretch
that cannot be part of a text: as long a beginning of a character as there is,
or else a single byte.

- **text survives** (`textOf?_utf8`): the bytes of a text are taken for that
  text.
-/

namespace GraphCourier

abbrev Bytes := List UInt8

/-- The bytes of a text in UTF-8. -/
def utf8 (s : String) : Bytes := s.toUTF8.data.toList

/-- The text of bytes in UTF-8. -/
def textOf? (bs : Bytes) : Option String := String.fromUTF8? ⟨bs.toArray⟩

theorem utf8_append (s t : String) : utf8 (s ++ t) = utf8 s ++ utf8 t := by
  simp [utf8]

theorem length_utf8 (s : String) : (utf8 s).length = s.utf8ByteSize := by
  simp [utf8]

theorem textOf?_utf8 (s : String) : textOf? (utf8 s) = some s := by
  simp only [textOf?, utf8, String.fromUTF8?]
  exact dif_pos s.isValidUTF8

namespace Text

/-- A character begun: the value so far, how many bytes are missing, and the
bounds of the next one. -/
structure Begun where
  value : Nat
  missing : Nat
  lo : Nat
  hi : Nat

/-- What a byte begins that is no character by itself. -/
def begin? (b : Nat) : Option Begun :=
  if 0xC2 ≤ b ∧ b ≤ 0xDF then some ⟨b - 0xC0, 1, 0x80, 0xBF⟩
  else if b = 0xE0 then some ⟨0, 2, 0xA0, 0xBF⟩
  else if b = 0xED then some ⟨0xD, 2, 0x80, 0x9F⟩
  else if 0xE1 ≤ b ∧ b ≤ 0xEF then some ⟨b - 0xE0, 2, 0x80, 0xBF⟩
  else if b = 0xF0 then some ⟨0, 3, 0x90, 0xBF⟩
  else if 0xF1 ≤ b ∧ b ≤ 0xF3 then some ⟨b - 0xF0, 3, 0x80, 0xBF⟩
  else if b = 0xF4 then some ⟨4, 3, 0x80, 0x8F⟩
  else none

/-- What stands for bytes that are no text. -/
def replacement : Char := '\ufffd'

/-- Reads bytes, given the character begun before them. -/
def lossyChars : Option Begun → Bytes → List Char
  | none, [] => []
  | some _, [] => [replacement]
  | none, b :: bs =>
    if b.toNat < 0x80 then Char.ofNat b.toNat :: lossyChars none bs
    else
      match begin? b.toNat with
      | some begun => lossyChars (some begun) bs
      | none => replacement :: lossyChars none bs
  | some c, b :: bs =>
    let n := b.toNat
    if c.lo ≤ n ∧ n ≤ c.hi then
      let value := 64 * c.value + (n - 0x80)
      if c.missing = 1 then Char.ofNat value :: lossyChars none bs
      else lossyChars (some ⟨value, c.missing - 1, 0x80, 0xBF⟩) bs
    else if n < 0x80 then
      replacement :: Char.ofNat n :: lossyChars none bs
    else
      match begin? n with
      | some begun => replacement :: lossyChars (some begun) bs
      | none => replacement :: replacement :: lossyChars none bs

def dropMark : Bytes → Bytes
  | 0xEF :: 0xBB :: 0xBF :: bs => bs
  | bs => bs

/-- The text of any bytes, without a byte order mark at their start. -/
def lossyText (bs : Bytes) : String :=
  String.ofList (lossyChars none (dropMark bs))

end Text

end GraphCourier
