import PreimageProof.Curve.Groups
import PreimageProof.Groth16.Verify
import PreimageProof.Text.Digits

/-!
# Words of the virtual machine

On the chain a proof is eight words of 256 bits: the coordinates of `A`, of
`B` and of `C`, in `Fq2` the imaginary part before the real one, and zeros for
the point at infinity, which no other point has for coordinates. Reading is
strict: words below the modulus, points of the right group.
-/

namespace PreimageProof

/-- A word of the virtual machine. -/
abbrev Word : Type := BitVec 256

namespace Word

/-- The 32 bytes of a word, highest first. -/
def toBytes (w : Word) : Bytes := Bytes.bigEndian 32 w.toNat

/-- The word of at most 32 bytes, highest first. -/
def ofBytes (bytes : Bytes) : Word := BitVec.ofNat 256 (Bytes.ofBigEndian bytes)

/-- The decimal form of a word. -/
def decimal (w : Word) : String := toString w.toNat

/-- Add digits to the number read so far, as long as it stays below `2 ^ 256`. -/
def readDigits (n : Nat) : List Char → Except DecimalFault Word
  | [] => .ok (BitVec.ofNat 256 n)
  | c :: rest =>
      if !Text.isDigit c then .error .invalidCharacter
      else
        let next := n * 10 + Text.digitValue c
        if next < 1 <<< 256 then readDigits next rest else .error .invalidLength

/-- The word whose decimal form is given, leading zeros or nothing at all
included. -/
def ofDecimal (text : String) : Except DecimalFault Word := readDigits 0 text.toList

end Word

namespace Residue

variable {p : Nat}

def toWord (a : Residue p) : Word := BitVec.ofNat 256 a.val

/-- The residue that a word is the number of. -/
def ofWord? (p : Nat) (w : Word) : Option (Residue p) := ofNat? p w.toNat

end Residue

/-- The scalar that a word is the number of. -/
def Fr.ofWord? (w : Word) : Option Fr := Residue.ofWord? scalarModulus w

/-- A coordinate of a point; `part` names the point in the error. -/
def coordinate (part : String) (w : Word) : Except ProofDefect Fq :=
  match Residue.ofWord? baseModulus w with
  | some a => .ok a
  | none => .error (.notCanonical part)

namespace G1

def toWords : G1 → Vector Word 2
  | .infinity => #v[0, 0]
  | .affine x y => #v[x.toWord, y.toWord]

/-- The point with the given coordinates, zeros standing for infinity. -/
def ofWords (part : String) (w : Vector Word 2) : Except ProofDefect G1 := do
  let x ← coordinate part w[0]
  let y ← coordinate part w[1]
  if x = 0 ∧ y = 0 then return .infinity
  let p : G1 := .affine x y
  if SourceOps.isValid p then return p else throw (.badPoint ⟨part, .first⟩)

end G1

namespace G2

def toWords : G2 → Vector Word 4
  | .infinity => #v[0, 0, 0, 0]
  | .affine x y => #v[x.im.toWord, x.re.toWord, y.im.toWord, y.re.toWord]

/-- The point with the given coordinates, zeros standing for infinity. -/
def ofWords (part : String) (w : Vector Word 4) : Except ProofDefect G2 := do
  let x : Fq2 := ⟨← coordinate part w[1], ← coordinate part w[0]⟩
  let y : Fq2 := ⟨← coordinate part w[3], ← coordinate part w[2]⟩
  if x = 0 ∧ y = 0 then return .infinity
  let p : G2 := .affine x y
  if SourceOps.isValid p then return p else throw (.badPoint ⟨part, .second⟩)

end G2

namespace Proof

/-- `[A.x, A.y, B.x.im, B.x.re, B.y.im, B.y.re, C.x, C.y]`. -/
def toWords (proof : Proof G1 G2) : Vector Word 8 :=
  G1.toWords proof.a ++ G2.toWords proof.b ++ G1.toWords proof.c

/-- The proof that the words stand for. -/
def ofWords (w : Vector Word 8) : Except ProofDefect (Proof G1 G2) := do
  let a ← G1.ofWords "A" #v[w.get 0, w.get 1]
  let b ← G2.ofWords "B" #v[w.get 2, w.get 3, w.get 4, w.get 5]
  let c ← G1.ofWords "C" #v[w.get 6, w.get 7]
  return ⟨a, b, c⟩

end Proof

end PreimageProof
