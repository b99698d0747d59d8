/-!
UTF-8: the bytes of a text, and texts of bytes that may be broken. A byte sequence is cut into
well-formed characters and broken parts; a broken part is a longest start of some character's form
that is not finished, or a byte that starts no character at all.
-/

namespace Rulebook.Text.Utf8

def encode (s : String) : List UInt8 := s.toList.flatMap String.utf8EncodeChar

def byteCount (s : String) : Nat := s.utf8ByteSize

/-! ## Decoding -/

/-- A character that has begun: the bits read so far, how many bytes it still needs, and the range
of the next one. The range leaves out longer forms of shorter characters, surrogates and values
beyond U+10FFFF. -/
structure Pending where
  bits : Nat
  missing : Nat
  low : UInt8
  high : UInt8
deriving DecidableEq, Repr

/-- What has been read: characters, last first, with nothing in the place of each broken part, and
the character that has begun. -/
structure Decoder where
  found : List (Option Char)
  pending : Option Pending
deriving Repr

namespace Decoder

def idle : Decoder := ⟨[], none⟩

def begin (found : List (Option Char)) (b : UInt8) : Decoder :=
  if b < 0x80 then ⟨some (Char.ofNat b.toNat) :: found, none⟩
  else if b < 0xC2 then ⟨none :: found, none⟩
  else if b < 0xE0 then ⟨found, some ⟨b.toNat % 32, 1, 0x80, 0xBF⟩⟩
  else if b = 0xE0 then ⟨found, some ⟨b.toNat % 16, 2, 0xA0, 0xBF⟩⟩
  else if b = 0xED then ⟨found, some ⟨b.toNat % 16, 2, 0x80, 0x9F⟩⟩
  else if b < 0xF0 then ⟨found, some ⟨b.toNat % 16, 2, 0x80, 0xBF⟩⟩
  else if b = 0xF0 then ⟨found, some ⟨b.toNat % 8, 3, 0x90, 0xBF⟩⟩
  else if b < 0xF4 then ⟨found, some ⟨b.toNat % 8, 3, 0x80, 0xBF⟩⟩
  else if b = 0xF4 then ⟨found, some ⟨b.toNat % 8, 3, 0x80, 0x8F⟩⟩
  else ⟨none :: found, none⟩

/-- Takes the next byte. One that does not go on with the character that has begun leaves a broken
part behind and begins anew. -/
def next (d : Decoder) (b : UInt8) : Decoder :=
  match d.pending with
  | none => begin d.found b
  | some p =>
    if p.low ≤ b ∧ b ≤ p.high then
      let bits := p.bits * 64 + b.toNat % 64
      if p.missing ≤ 1 then ⟨some (Char.ofNat bits) :: d.found, none⟩
      else ⟨d.found, some ⟨bits, p.missing - 1, 0x80, 0xBF⟩⟩
    else begin (none :: d.found) b

def finish (d : Decoder) : List (Option Char) :=
  match d.pending with
  | none => d.found.reverse
  | some _ => (none :: d.found).reverse

end Decoder

/-- The characters of a byte sequence, with nothing in the place of each broken part. -/
def parts (bytes : List UInt8) : List (Option Char) :=
  (bytes.foldl Decoder.next Decoder.idle).finish

def decode? (bytes : List UInt8) : Option String :=
  let found := parts bytes
  if found.all Option.isSome then some (String.ofList (found.filterMap id)) else none

def replacement : Char := '\uFFFD'

def decodeLossy (bytes : List UInt8) : String :=
  String.ofList ((parts bytes).map fun c => c.getD replacement)

end Rulebook.Text.Utf8
