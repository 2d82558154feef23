/-!
Text read from bytes.  Bytes are read as UTF-8 one character at a time; a byte that starts
no well-formed sequence (a stray byte) is read on its own and kept in the text as the
private-use character U+10FF00 plus the byte.  Only bytes from 0x80 up can be stray, so
their characters are U+10FF80 to U+10FFFF.

Writing such a text back gives the very bytes it was read from (a text that no bytes read as
is written in UTF-8), a reader that takes the text character by character sees the
replacement character U+FFFD for each stray byte, and a quoted text shows a stray byte as a
hexadecimal byte escape.
-/

namespace NativeExports.Text

/-- The first private-use code point of the block that carries stray bytes. -/
def strayBase : Nat := 0x10FF00

/-- The character that carries a stray byte. -/
def strayChar (b : UInt8) : Char := Char.ofNat (strayBase + b.toNat)

/-- The byte a character carries, when it carries one. -/
def stray? (c : Char) : Option UInt8 :=
  if strayBase + 0x80 ≤ c.toNat then some (c.toNat - strayBase).toUInt8 else none

/-- The replacement character, which a stray byte reads as. -/
def replacementChar : Char := '�'

/-- A character as a reader of characters sees it: a stray byte is the replacement character. -/
def seenChar (c : Char) : Char := if (stray? c).isSome then replacementChar else c

/-- A text with each stray byte replaced by the replacement character. -/
def replaceStray (s : String) : String := String.ofList (s.toList.map seenChar)

/-- The length of the UTF-8 sequence a lead byte starts, 0 when it starts none. -/
def utf8Length (lead : UInt8) : Nat :=
  if lead < 0x80 then 1
  else if 0xc2 ≤ lead && lead ≤ 0xdf then 2
  else if 0xe0 ≤ lead && lead ≤ 0xef then 3
  else if 0xf0 ≤ lead && lead ≤ 0xf4 then 4
  else 0

/-- The character a UTF-8 sequence of 2 to 4 bytes spells, when it is a well-formed one:
as many continuation bytes after the lead as the lead announces, no overlong form, no
surrogate, nothing past U+10FFFF. -/
def utf8Char? (lead : UInt8) (tail : List UInt8) : Option Char :=
  let cont := tail.all fun b => b &&& 0xc0 = 0x80
  let low := tail.foldl (fun acc b => acc * 64 + (b &&& 0x3f).toNat) 0
  if !cont || tail.length + 1 != utf8Length lead then none else
  match tail.length with
  | 1 => let n := (lead &&& 0x1f).toNat * 64 + low
    if 0x80 ≤ n then some (Char.ofNat n) else none
  | 2 => let n := (lead &&& 0x0f).toNat * 4096 + low
    if 0x800 ≤ n && !(0xd800 ≤ n && n ≤ 0xdfff) then some (Char.ofNat n) else none
  | 3 => let n := (lead &&& 0x07).toNat * 262144 + low
    if 0x10000 ≤ n && n ≤ 0x10ffff then some (Char.ofNat n) else none
  | _ => none

/-- The characters bytes spell in UTF-8, a stray byte standing for itself. -/
def decodeBytes : List UInt8 → List Char
  | [] => []
  | b :: rest =>
    let n := utf8Length b
    if n = 1 then Char.ofNat b.toNat :: decodeBytes rest
    else match utf8Char? b (rest.take (n - 1)) with
      | some c => if n = 0 then strayChar b :: decodeBytes rest
        else c :: decodeBytes (rest.drop (n - 1))
      | none => strayChar b :: decodeBytes rest
termination_by bs => bs.length
decreasing_by
  all_goals simp only [List.length_drop, List.length_cons]
  all_goals omega

/-- The text bytes spell in UTF-8, stray bytes kept. -/
def ofBytes (bs : List UInt8) : String :=
  match String.fromUTF8? ⟨bs.toArray⟩ with
  | some s => s
  | none => String.ofList (decodeBytes bs)

/-- The bytes of one character: its UTF-8 form, or the stray byte it carries. -/
def charBytes (c : Char) : List UInt8 :=
  match stray? c with
  | some b => [b]
  | none => (String.singleton c).toUTF8.toList

/-- The bytes of a text: each stray byte written as itself when the bytes so written read back
as the text, and otherwise every character in its UTF-8 form. -/
def toBytes (s : String) : List UInt8 :=
  if s.any fun c => (stray? c).isSome then
    let raw := s.toList.flatMap charBytes
    if ofBytes raw = s then raw else s.toUTF8.toList
  else s.toUTF8.toList

/-- The number of bytes of a character. -/
def charByteSize (c : Char) : Nat := if (stray? c).isSome then 1 else c.utf8Size

/-- The character a lead byte and the bytes after it begin, as a decoder reads it that
gives up on a malformed sequence after its first byte: the character (the replacement
character for a malformed sequence), the number of bytes it takes, and the bytes after it. -/
def nextRune (b : UInt8) (rest : List UInt8) : Char × Nat × List UInt8 :=
  let n := utf8Length b
  if n = 1 then (Char.ofNat b.toNat, 1, rest)
  else match utf8Char? b (rest.take (n - 1)) with
    | some c => (c, n, rest.drop (n - 1))
    | none => (replacementChar, 1, rest)

/-- Reading a character never leaves more bytes than followed its lead byte. -/
theorem nextRune_rest_length (b : UInt8) (rest : List UInt8) :
    (nextRune b rest).2.2.length ≤ rest.length := by
  simp only [nextRune]
  split
  · exact Nat.le_refl _
  · split <;> simp

/-- The code point of the character that carries a byte. -/
theorem toNat_strayChar (b : UInt8) : (strayChar b).toNat = strayBase + b.toNat := by
  have hb := b.toNat_lt
  have hv : Nat.isValidChar (strayBase + b.toNat) := by
    simp only [Nat.isValidChar, strayBase]; omega
  -- a valid code point makes a character of its own, whose code point it is by definition
  have hchar : strayChar b = Char.ofNatAux _ hv := dif_pos hv
  rw [hchar]
  rfl

/-- The character of a byte from 0x80 up carries that byte. -/
theorem stray?_strayChar (b : UInt8) (h : 0x80 ≤ b.toNat) : stray? (strayChar b) = some b := by
  have hb := b.toNat_lt
  rw [stray?, toNat_strayChar, if_pos (by omega), Nat.add_sub_cancel_left]
  simp

end NativeExports.Text
