/-!
# UTF-8

Bytes are read piece by piece: a piece is either a character or a maximal run of bytes
that starts like a character and breaks off, which stands for one error. A text that is
required to be well-formed has no such piece; a text that is shown to a person has the
replacement character in the place of each of them.
-/

namespace Enrollment.Utf8

/-- A character of which only the first bytes have been seen: how many are missing, the
bits so far, and the range that the next byte has to lie in. -/
structure Partway where
  missing : Nat
  bits : Nat
  lower : UInt8 := 0x80
  upper : UInt8 := 0xBF
  deriving DecidableEq, Repr

/-- The first byte of a character. The ranges of the second byte leave out encodings that
are longer than needed, surrogates, and what lies above U+10FFFF. -/
def lead (b : UInt8) : List (Option Char) × Option Partway :=
  let bits := b.toNat
  if b < 0x80 then ([some (Char.ofNat bits)], none)
  else if b < 0xC2 then ([none], none)
  else if b < 0xE0 then ([], some ⟨1, bits % 0x20, 0x80, 0xBF⟩)
  else if b = 0xE0 then ([], some ⟨2, bits % 0x10, 0xA0, 0xBF⟩)
  else if b = 0xED then ([], some ⟨2, bits % 0x10, 0x80, 0x9F⟩)
  else if b < 0xF0 then ([], some ⟨2, bits % 0x10, 0x80, 0xBF⟩)
  else if b = 0xF0 then ([], some ⟨3, bits % 0x8, 0x90, 0xBF⟩)
  else if b < 0xF4 then ([], some ⟨3, bits % 0x8, 0x80, 0xBF⟩)
  else if b = 0xF4 then ([], some ⟨3, bits % 0x8, 0x80, 0x8F⟩)
  else ([none], none)

/-- One more byte: the pieces that it completes, and the character it leaves open. A byte
that does not continue the open character breaks it off and is read afresh. -/
def step : Option Partway → UInt8 → List (Option Char) × Option Partway
  | none, b => lead b
  | some p, b =>
    if p.lower ≤ b ∧ b ≤ p.upper then
      let bits := p.bits * 0x40 + b.toNat % 0x40
      if p.missing = 1 then ([some (Char.ofNat bits)], none)
      else ([], some ⟨p.missing - 1, bits, 0x80, 0xBF⟩)
    else ((none :: (lead b).1), (lead b).2)

/-- The pieces of `bytes` when a character may be open already. -/
def piecesFrom : Option Partway → List UInt8 → List (Option Char)
  | none, [] => []
  | some _, [] => [none]
  | p, b :: rest => (step p b).1 ++ piecesFrom (step p b).2 rest

/-- The pieces of `bytes`: its characters, and `none` for each broken one. -/
def pieces (bytes : List UInt8) : List (Option Char) := piecesFrom none bytes

/-- The characters, if every piece is one. -/
def decode? (bytes : List UInt8) : Option (List Char) := (pieces bytes).mapM id

/-- The characters, with U+FFFD for every broken one. -/
def decodeLossy (bytes : List UInt8) : List Char :=
  (pieces bytes).map (·.getD '\uFFFD')

def encode (cs : List Char) : List UInt8 := cs.flatMap String.utf8EncodeChar

@[simp] theorem encode_nil : encode [] = [] := rfl

@[simp] theorem encode_cons (c : Char) (cs : List Char) :
    encode (c :: cs) = String.utf8EncodeChar c ++ encode cs := List.flatMap_cons

@[simp] theorem encode_append (xs ys : List Char) :
    encode (xs ++ ys) = encode xs ++ encode ys := List.flatMap_append

example : decode? [0xC3, 0xA9, 0xE6, 0x97, 0xA5] = some ['é', '日'] := by decide +kernel

/-- A surrogate is not a character; each of its bytes is an error of its own. -/
example : decodeLossy [0xED, 0xA0, 0x80, 0x61] = ['\uFFFD', '\uFFFD', '\uFFFD', 'a'] := by
  decide +kernel

/-- A character that breaks off is one error. -/
example : decodeLossy [0xF0, 0x9F, 0x98, 0x61] = ['\uFFFD', 'a'] := by decide +kernel

end Enrollment.Utf8
