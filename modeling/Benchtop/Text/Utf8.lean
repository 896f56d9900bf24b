/-!
# UTF-8

Decoding that never fails: every maximal prefix of a character's bytes that cannot be completed
becomes one U+FFFD. `decode` reads one byte at a time and carries what the character begun so far
still needs, so it is a plain recursion over the bytes.
-/

namespace Benchtop.Text

/-- A character of which some bytes have been read: the bits so far, how many bytes are still
needed (one more than `more`), and the range of the next of them. -/
structure Begun where
  bits : Nat
  more : Nat
  low : UInt8
  high : UInt8
  deriving DecidableEq, Repr

/-- What stands in for bytes that are no character. -/
def replacement : Char := Char.ofNat 0xFFFD

/-- What a byte at the start of a character is: a whole character, the first byte of a longer
one, or neither. The ranges of the second byte leave out overlong forms, surrogates and values
above U+10FFFF. -/
def leadByte (b : UInt8) : Char ⊕ Begun :=
  if b < 0x80 then .inl (Char.ofNat b.toNat)
  else if 0xC2 ≤ b ∧ b ≤ 0xDF then .inr ⟨b.toNat % 32, 0, 0x80, 0xBF⟩
  else if b = 0xE0 then .inr ⟨0, 1, 0xA0, 0xBF⟩
  else if b = 0xED then .inr ⟨13, 1, 0x80, 0x9F⟩
  else if 0xE1 ≤ b ∧ b ≤ 0xEF then .inr ⟨b.toNat % 16, 1, 0x80, 0xBF⟩
  else if b = 0xF0 then .inr ⟨0, 2, 0x90, 0xBF⟩
  else if 0xF1 ≤ b ∧ b ≤ 0xF3 then .inr ⟨b.toNat % 8, 2, 0x80, 0xBF⟩
  else if b = 0xF4 then .inr ⟨4, 2, 0x80, 0x8F⟩
  else .inl replacement

/-- Decodes the bytes after a character's first bytes, if any. -/
def decodeFrom : Option Begun → List UInt8 → List Char
  | none, [] => []
  | some _, [] => [replacement]
  | none, b :: rest =>
    match leadByte b with
    | .inl c => c :: decodeFrom none rest
    | .inr p => decodeFrom (some p) rest
  | some p, b :: rest =>
    if p.low ≤ b ∧ b ≤ p.high then
      let bits := p.bits * 64 + b.toNat % 64
      match p.more with
      | 0 => Char.ofNat bits :: decodeFrom none rest
      | more + 1 => decodeFrom (some ⟨bits, more, 0x80, 0xBF⟩) rest
    else
      match leadByte b with
      | .inl c => replacement :: c :: decodeFrom none rest
      | .inr q => replacement :: decodeFrom (some q) rest

/-- The text of a byte string, with U+FFFD for every maximal prefix that is no character. -/
def decode (bytes : List UInt8) : List Char := decodeFrom none bytes

/-- The UTF-8 bytes of a text. -/
def encode (text : List Char) : List UInt8 := text.flatMap String.utf8EncodeChar

/-- The bytes of a string. -/
def bytesOf (text : String) : List UInt8 := encode text.toList

/-- The text of a byte string that is UTF-8: one that decoding and encoding gives back. -/
def decode? (bytes : List UInt8) : Option (List Char) :=
  if encode (decode bytes) = bytes then some (decode bytes) else none

end Benchtop.Text
