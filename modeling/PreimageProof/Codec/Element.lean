import PreimageProof.Codec.Reader
import PreimageProof.Curve.Groups

/-!
# Elements as bytes

A field element is its number, in 32 bytes, lowest first. A point is its
coordinates, component by component; the two highest bits of the last byte,
which no component needs, say whether it is the point at infinity and whether
the second coordinate is the larger of the two that the first one admits.

The reader insists that every number is below its modulus and that a point
belongs to its group, but it is not strict about the flags: under the flag of
infinity the coordinates do not matter, and the other flag is not compared
with the coordinate it describes.
-/

namespace PreimageProof

/-- A type whose values are encoded in a fixed number of bytes. -/
class ElementCodec (α : Type) where
  width : Nat
  encode : α → Bytes
  decode : Bytes → Except ElementFault α

/-! ## Field elements -/

namespace Residue

variable {p : Nat}

def toBytes (a : Residue p) : Bytes := Bytes.littleEndian 32 a.val

def ofBytes (bytes : Bytes) : Except ElementFault (Residue p) :=
  match ofNat? p (Bytes.ofLittleEndian bytes) with
  | some a => .ok a
  | none => .error .invalid

instance : ElementCodec (Residue p) := ⟨32, toBytes, ofBytes⟩

end Residue

/-! ## Points -/

namespace Point

/-- The flags of a point, in the two highest bits of the last byte. -/
inductive Flags where
  | plain
  | infinity
  | larger
  deriving DecidableEq

namespace Flags

def bits : Flags → Nat
  | plain => 0
  | infinity => 1
  | larger => 2

/-- Both flags at once mean nothing. -/
def ofBits? : Nat → Option Flags
  | 0 => some plain
  | 1 => some infinity
  | 2 => some larger
  | _ => none

end Flags

/-- Whether the first list is larger, the last entries counting most. -/
def isLarger : List Fq → List Fq → Bool
  | a :: as, b :: bs => isLarger as bs || (as = bs && decide (b.val < a.val))
  | _, _ => false

/-- The components of the second coordinate, flags on top of the last. -/
def flaggedBytes (flags : Flags) : List Fq → Bytes
  | [] => []
  | [a] => Bytes.littleEndian 32 (a.val + (flags.bits <<< 254))
  | a :: rest => a.toBytes ++ flaggedBytes flags rest

/-- The components of a coordinate from their bytes. -/
def readComponents : (degree : Nat) → Bytes → Except ElementFault (List Fq)
  | 0, _ => .ok []
  | degree + 1, bytes => do
      let a ← Residue.ofBytes (bytes.take 32)
      let rest ← readComponents degree (bytes.drop 32)
      return a :: rest

/-- The components of the second coordinate from their bytes, and the flags. -/
def readFlagged : (degree : Nat) → Bytes → Except ElementFault (List Fq × Flags)
  | 0, _ => .error .invalid
  | 1, bytes => do
      let n := Bytes.ofLittleEndian (bytes.take 32)
      match Flags.ofBits? (n >>> 254) with
      | none => throw .flags
      | some flags =>
          match Residue.ofNat? baseModulus (n % (1 <<< 254)) with
          | none => throw .invalid
          | some a => return ([a], flags)
  | degree + 1, bytes => do
      let a ← Residue.ofBytes (bytes.take 32)
      let (rest, flags) ← readFlagged degree (bytes.drop 32)
      return (a :: rest, flags)

variable {F : Type} [Coordinate F]

def toBytes : Point F → Bytes
  | .infinity =>
      let zeros := Coordinate.components (0 : F)
      zeros.flatMap Residue.toBytes ++ flaggedBytes .infinity zeros
  | .affine x y =>
      let components := Coordinate.components y
      let flags : Flags :=
        if isLarger components (Coordinate.components (-y)) then .larger else .plain
      (Coordinate.components x).flatMap Residue.toBytes ++ flaggedBytes flags components

def ofBytes [SourceOps (Point F)] (bytes : Bytes) : Except ElementFault (Point F) := do
  let degree := Coordinate.degree F
  let xs ← readComponents degree (bytes.take (32 * degree))
  let (ys, flags) ← readFlagged degree (bytes.drop (32 * degree))
  if flags = .infinity then return .infinity
  match Coordinate.ofComponents? xs, Coordinate.ofComponents? ys with
  | some x, some y =>
      let p : Point F := .affine x y
      if SourceOps.isValid p then return p else throw .invalid
  | _, _ => throw .invalid

instance [SourceOps (Point F)] : ElementCodec (Point F) :=
  ⟨64 * Coordinate.degree F, toBytes, ofBytes⟩

end Point

end PreimageProof
