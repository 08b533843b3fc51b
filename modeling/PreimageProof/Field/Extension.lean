import PreimageProof.Field.Bn254

/-!
# Extension fields

Points of the second group have coordinates in `Fq2`, and the pairing takes
its values in `Fq12`. The second is reached from the first in two steps:

* `Fq2 = Fq[u] / (u² + 1)`,
* `Fq6 = Fq2[v] / (v³ - (9 + u))`,
* `Fq12 = Fq6[w] / (w² - v)`.

Products save what they can: over `Fq2` each component is a sum of two
products that is reduced once, over the other two a cross term is the
product of sums less the products already at hand.
-/

namespace PreimageProof

/-- The operations of a field, its laws left aside. -/
class FieldOps (F : Type) extends Zero F, One F, Add F, Sub F, Neg F, Mul F, Inv F

instance {p : Nat} [Modulus p] : FieldOps (Residue p) where

/-- `re + im * u` with `u² = -1`. -/
@[ext] structure Fq2 where
  re : Fq
  im : Fq
  deriving DecidableEq

/-- `c0 + c1 * v + c2 * v²` with `v³ = 9 + u`. -/
@[ext] structure Fq6 where
  c0 : Fq2
  c1 : Fq2
  c2 : Fq2
  deriving DecidableEq

/-- `re + im * w` with `w² = v`, an element of the field the pairing maps into. -/
@[ext] structure Fq12 where
  re : Fq6
  im : Fq6
  deriving DecidableEq

namespace Fq2

def add (a b : Fq2) : Fq2 := ⟨a.re + b.re, a.im + b.im⟩

def sub (a b : Fq2) : Fq2 := ⟨a.re - b.re, a.im - b.im⟩

def neg (a : Fq2) : Fq2 := ⟨-a.re, -a.im⟩

def mul (a b : Fq2) : Fq2 :=
  ⟨Residue.dot a.re b.re (-a.im) b.im, Residue.dot a.re b.im a.im b.re⟩

/-- The image under `u ↦ -u`, which is also the `q`-th power. -/
def conjugate (a : Fq2) : Fq2 := ⟨a.re, -a.im⟩

/-- The conjugate over the norm; zero for zero. -/
def inv (a : Fq2) : Fq2 :=
  let scale := (Residue.dot a.re a.re a.im a.im)⁻¹
  ⟨a.re * scale, -a.im * scale⟩

instance : FieldOps Fq2 where
  zero := ⟨0, 0⟩
  one := ⟨1, 0⟩
  add := add
  sub := sub
  neg := neg
  mul := mul
  inv := inv

/-- The element of the base field, as one of the extension. -/
def ofBase (a : Fq) : Fq2 := ⟨a, 0⟩

/-- `9 + u`, the element that gets a cube root and then a sixth root. -/
def xi : Fq2 := ⟨(9 : Nat), 1⟩

end Fq2

namespace Fq6

/-- The product of an element of `Fq2` with `9 + u`. -/
def timesXi (a : Fq2) : Fq2 :=
  let double := a + a
  let octuple := double + double + (double + double)
  let nine := octuple + a
  ⟨nine.re - a.im, nine.im + a.re⟩

/-- The product with `v`. -/
def timesV (a : Fq6) : Fq6 := ⟨timesXi a.c2, a.c0, a.c1⟩

def mul (a b : Fq6) : Fq6 :=
  let p0 := a.c0 * b.c0
  let p1 := a.c1 * b.c1
  let p2 := a.c2 * b.c2
  ⟨p0 + timesXi ((a.c1 + a.c2) * (b.c1 + b.c2) - p1 - p2),
    (a.c0 + a.c1) * (b.c0 + b.c1) - p0 - p1 + timesXi p2,
    (a.c0 + a.c2) * (b.c0 + b.c2) - p0 - p2 + p1⟩

/-- The adjugate over the norm; zero for zero. -/
def inv (a : Fq6) : Fq6 :=
  let d0 := a.c0 * a.c0 - timesXi (a.c1 * a.c2)
  let d1 := timesXi (a.c2 * a.c2) - a.c0 * a.c1
  let d2 := a.c1 * a.c1 - a.c0 * a.c2
  let scale := (a.c0 * d0 + timesXi (a.c2 * d1 + a.c1 * d2))⁻¹
  ⟨d0 * scale, d1 * scale, d2 * scale⟩

instance : FieldOps Fq6 where
  zero := ⟨0, 0, 0⟩
  one := ⟨1, 0, 0⟩
  add a b := ⟨a.c0 + b.c0, a.c1 + b.c1, a.c2 + b.c2⟩
  sub a b := ⟨a.c0 - b.c0, a.c1 - b.c1, a.c2 - b.c2⟩
  neg a := ⟨-a.c0, -a.c1, -a.c2⟩
  mul := mul
  inv := inv

end Fq6

namespace Fq12

def mul (a b : Fq12) : Fq12 :=
  let p0 := a.re * b.re
  let p1 := a.im * b.im
  ⟨p0 + p1.timesV, (a.re + a.im) * (b.re + b.im) - p0 - p1⟩

/-- The image under `w ↦ -w`, which is also the `q ^ 6`-th power. -/
def conjugate (a : Fq12) : Fq12 := ⟨a.re, -a.im⟩

/-- The conjugate over the norm; zero for zero. -/
def inv (a : Fq12) : Fq12 :=
  let scale := (a.re * a.re - (a.im * a.im).timesV)⁻¹
  ⟨a.re * scale, -a.im * scale⟩

instance : FieldOps Fq12 where
  zero := ⟨0, 0⟩
  one := ⟨1, 0⟩
  add a b := ⟨a.re + b.re, a.im + b.im⟩
  sub a b := ⟨a.re - b.re, a.im - b.im⟩
  neg a := ⟨-a.re, -a.im⟩
  mul := mul
  inv := inv

/-- The coefficient of `w ^ i` times `g ^ i`, once `f` has been applied to it. -/
def scale (f : Fq2 → Fq2) (g : Fq2) (a : Fq12) : Fq12 :=
  let g2 := g * g
  let g3 := g2 * g
  let g4 := g2 * g2
  let g5 := g4 * g
  ⟨⟨f a.re.c0, f a.re.c1 * g2, f a.re.c2 * g4⟩, ⟨f a.im.c0 * g, f a.im.c1 * g3, f a.im.c2 * g5⟩⟩

/-- `w ^ (q - 1)`, a power of `w⁶ = 9 + u`. -/
def frobeniusFactor : Fq2 := power Fq2.xi ((baseModulus - 1) / 6)

/-- The `q`-th power: it conjugates the coefficients and moves `w`. -/
def frobenius : Fq12 → Fq12 := scale Fq2.conjugate frobeniusFactor

end Fq12

end PreimageProof
