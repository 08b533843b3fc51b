import PreimageProof.Bytes

/-!
# Bytes read as text, whatever they are

A tag that is not the expected one is shown as text, and any four bytes can
stand in its place. `decodeLossy` reads UTF-8 and writes the replacement
character for each maximal part that is not a beginning of any character.

The decoder is a machine that takes one byte at a time, so it is a recursion
on the bytes. Between bytes it either holds nothing or a character begun: how
many bytes it still needs, the span the next one has to lie in, and the bits
so far. The spans rule out surrogates, overlong forms and numbers above the
last code point, so what is completed is always a character.
-/

namespace PreimageProof

namespace Text

/-- A character of which some bytes have been read. -/
structure Partial where
  missing : Nat
  low : UInt8
  high : UInt8
  bits : Nat

/-- The character shown for bytes that are not part of any. -/
def replacement : Char := '\ufffd'

/-- A byte at the start of a character: what it completes, or what it begins. -/
def startByte (b : UInt8) : List Char × Option Partial :=
  let n := b.toNat
  if n < 0x80 then ([Char.ofNat n], none)
  else if n < 0xC2 then ([replacement], none)
  else if n < 0xE0 then ([], some ⟨1, 0x80, 0xBF, n - 0xC0⟩)
  else if n = 0xE0 then ([], some ⟨2, 0xA0, 0xBF, 0⟩)
  else if n = 0xED then ([], some ⟨2, 0x80, 0x9F, 0xD⟩)
  else if n < 0xF0 then ([], some ⟨2, 0x80, 0xBF, n - 0xE0⟩)
  else if n = 0xF0 then ([], some ⟨3, 0x90, 0xBF, 0⟩)
  else if n < 0xF4 then ([], some ⟨3, 0x80, 0xBF, n - 0xF0⟩)
  else if n = 0xF4 then ([], some ⟨3, 0x80, 0x8F, 4⟩)
  else ([replacement], none)

/-- A byte after others: it continues the character begun, or ends it as
unreadable and starts another. -/
def nextByte (held : Option Partial) (b : UInt8) : List Char × Option Partial :=
  match held with
  | none => startByte b
  | some p =>
      if p.low ≤ b && b ≤ p.high then
        let bits := p.bits * 64 + (b.toNat - 0x80)
        if p.missing ≤ 1 then ([Char.ofNat bits], none)
        else ([], some ⟨p.missing - 1, 0x80, 0xBF, bits⟩)
      else
        let (out, held) := startByte b
        (replacement :: out, held)

def decodeFrom : Option Partial → Bytes → List Char
  | none, [] => []
  | some _, [] => [replacement]
  | held, b :: rest =>
      let (out, held) := nextByte held b
      out ++ decodeFrom held rest

/-- The text of the bytes, unreadable parts replaced. -/
def decodeLossy (bytes : Bytes) : String := String.ofList (decodeFrom none bytes)

end Text

end PreimageProof
