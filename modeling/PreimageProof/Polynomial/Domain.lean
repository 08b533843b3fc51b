import PreimageProof.Field.Bn254

/-!
# Evaluation domains

A polynomial of degree below `n = 2 ^ k` is the list of its `n` coefficients
or, just as well, the list of its values at the powers `1, ω, …, ω ^ (n - 1)`
of a root of unity `ω` of order `n`. `transform` goes from the first to the
second by splitting into even and odd places: with `E` and `O` the transforms
of the halves at `ω²`, the values at `ω ^ i` and `ω ^ (i + n / 2)` are
`E i + ω ^ i * O i` and `E i - ω ^ i * O i`. The way back is the transform at
`ω⁻¹`, divided by `n`.
-/

namespace PreimageProof

/-- `[x, x * g, x * g², …]`. -/
def powersFrom (x g : Fr) : (count : Nat) → List Fr
  | 0 => []
  | count + 1 => x :: powersFrom (x * g) g count

/-- The powers of `g` from the zeroth on. -/
def powers (g : Fr) (count : Nat) : List Fr := powersFrom 1 g count

/-- The entry at place `i` times `g ^ i`: the coefficients of `f (g * X)`. -/
def scaleByPowers (g : Fr) (xs : List Fr) : List Fr :=
  List.zipWith (· * ·) xs (powers g xs.length)

/-- The entries at even places and those at odd places. -/
def deal {α : Type} : List α → List α × List α
  | [] => ([], [])
  | [x] => ([x], [])
  | x :: y :: rest =>
      let halves := deal rest
      (x :: halves.1, y :: halves.2)

/-- The values of a polynomial of `2 ^ k` coefficients at the powers of `root`. -/
def transform : (k : Nat) → (root : Fr) → List Fr → List Fr
  | 0, _, xs => xs
  | k + 1, root, xs =>
      let halves := deal xs
      let even := transform k (root * root) halves.1
      let odd := scaleByPowers root (transform k (root * root) halves.2)
      List.zipWith (· + ·) even odd ++ List.zipWith (· - ·) even odd

/-- A power of two that has a root of unity in the scalar field. -/
structure Domain where
  logSize : Nat
  logSize_le : logSize ≤ Fr.twoAdicity

namespace Domain

def size (d : Domain) : Nat := 1 <<< d.logSize

/-- The generator of the domain. -/
def root (d : Domain) : Fr := Fr.generator ^ ((scalarModulus - 1) / d.size)

/-- The elements, the powers of the generator in order. -/
def elements (d : Domain) : List Fr := powers d.root d.size

/-- The exponent of the smallest power of two that is at least `n`. -/
def ceilLog2 (n : Nat) : Nat := if n ≤ 1 then 0 else (n - 1).log2 + 1

/-- The smallest domain with room for the given number of rows. -/
def ofRows? (rows : Nat) : Option Domain :=
  if h : ceilLog2 rows ≤ Fr.twoAdicity then some ⟨ceilLog2 rows, h⟩ else none

/-- `x ^ n - 1`, which vanishes on the domain and nowhere else. -/
def vanishing (d : Domain) (x : Fr) : Fr := x ^ d.size - 1

/-- The values at `x`, outside the domain, of the polynomials that are 1 at
one element of the domain and 0 at all others. -/
def lagrange (d : Domain) (x : Fr) : List Fr :=
  let scale := d.vanishing x * ((d.size : Nat) : Fr)⁻¹
  d.elements.map fun w => scale * w * (x - w)⁻¹

/-- The values on the domain, from the coefficients. -/
def evaluate (d : Domain) (coefficients : List Fr) : List Fr :=
  transform d.logSize d.root coefficients

/-- The coefficients, from the values on the domain. -/
def interpolate (d : Domain) (values : List Fr) : List Fr :=
  let scale := ((d.size : Nat) : Fr)⁻¹
  (transform d.logSize d.root⁻¹ values).map (· * scale)

/-- The values on the domain shifted by `g`, from those on the domain. -/
def shift (d : Domain) (g : Fr) (values : List Fr) : List Fr :=
  d.evaluate (scaleByPowers g (d.interpolate values))

/-- The coefficients, from the values on the domain shifted by `g`. -/
def interpolateShifted (d : Domain) (g : Fr) (values : List Fr) : List Fr :=
  scaleByPowers g⁻¹ (d.interpolate values)

end Domain

end PreimageProof
