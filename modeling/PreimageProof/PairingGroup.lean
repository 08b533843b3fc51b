import PreimageProof.Field.Bn254

/-!
# Groups with a pairing

What the proof system asks of its groups, and all it uses of them: two source
groups whose elements can be scaled by the scalar field, and a map from pairs
of their elements to a third group that can only be compared. The curve is
one instance; any three groups of the order of the scalar field with a
bilinear map are another, and what is proved about keys and proofs is proved
about all of them.

Representations of a group need not all be elements of it. `isValid` tells
those that are, and whoever receives an element checks it.
-/

namespace PreimageProof

/-- A group written additively, with a generator. -/
class SourceOps (G : Type) extends Zero G, Add G, Neg G where
  /-- The multiple of the generator. -/
  generate : Fr → G
  /-- The sum of the multiples, `Σ kᵢ * Pᵢ`. -/
  combine : List (Fr × G) → G
  isValid : G → Bool

/-- The multiple of one element. -/
def SourceOps.scale {G : Type} [SourceOps G] (k : Fr) (p : G) : G := combine [(k, p)]

/-- A map from pairs of elements to a third group, given by the product of its
values on a list of pairs. -/
class PairingOps (G₁ G₂ : Type) (GT : outParam Type) where
  product : List (G₁ × G₂) → GT

end PreimageProof
