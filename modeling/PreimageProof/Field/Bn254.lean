import PreimageProof.Field.Residue

/-!
# The two prime fields of the curve

The curve is defined over the field of order `baseModulus`, and its group of
points has order `scalarModulus`. Circuits, witnesses and polynomials live in
the scalar field `Fr`; coordinates of points live in the base field `Fq`.
-/

namespace PreimageProof

/-- The order of the group of points, a prime with `2 ^ 28 ∣ scalarModulus - 1`. -/
def scalarModulus : Nat :=
  21888242871839275222246405745257275088548364400416034343698204186575808495617

/-- The number of binary digits of `scalarModulus`. -/
def scalarDigits : Nat := 254

theorem scalarModulus_lt : scalarModulus < 1 <<< scalarDigits := by decide

/-- The order of the field of coordinates. -/
def baseModulus : Nat :=
  21888242871839275222246405745257275088696311157297823662689037894645226208583

instance : Modulus scalarModulus := ⟨by decide⟩

instance : Modulus baseModulus := ⟨by decide⟩

/-- The scalar field. -/
abbrev Fr : Type := Residue scalarModulus

/-- The base field. -/
abbrev Fq : Type := Residue baseModulus

namespace Fr

/-- A generator of the multiplicative group: the powers of it that are roots
of unity generate the evaluation domains, and it shifts them to a coset. -/
def generator : Fr := (5 : Nat)

/-- `2 ^ twoAdicity` is the largest power of two dividing `scalarModulus - 1`,
and so the size of the largest evaluation domain. -/
def twoAdicity : Nat := 28

end Fr

end PreimageProof
