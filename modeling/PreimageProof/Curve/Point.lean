import PreimageProof.Field.Extension

/-!
# Points of the two curves

Both source groups of the pairing are groups of points on a curve
`y² = x³ + b`: the first over `Fq` with `b = 3`, the second over `Fq2` with
`b = 3 / (9 + u)`. Everything here is written once, over any field of
coordinates.

A `Point` is whatever coordinates its holder was given. Being on the curve,
and being in the subgroup of prime order, are properties that a reader of
points checks (`Point.isValid`); the group operations mean something only
for points that pass.

Sums are computed in Jacobian coordinates, where `(x, y, z)` stands for
`(x / z², y / z³)` and no operation but the last needs an inverse. A linear
combination follows Horner's rule on the binary digits of its coefficients:
double the sum of the digits read so far, then add every point whose
coefficient has the next digit set.
-/

namespace PreimageProof

/-- A field of coordinates with the constant of its curve, and its elements
as lists of base-field components, lowest first. -/
class Coordinate (F : Type) extends FieldOps F where
  constant : F
  components : F → List Fq
  degree : Nat
  ofComponents? : List Fq → Option F

/-- The point at infinity, or a pair of coordinates, on the curve or not. -/
inductive Point (F : Type) where
  | infinity
  | affine (x y : F)
  deriving DecidableEq

/-- `(x / z², y / z³)`, or the point at infinity when `z = 0`. -/
structure Jacobian (F : Type) where
  x : F
  y : F
  z : F

instance {F : Type} : Inhabited (Point F) := ⟨.infinity⟩

namespace Jacobian

variable {F : Type} [FieldOps F]

def infinity : Jacobian F := ⟨1, 1, 0⟩

def ofPoint : Point F → Jacobian F
  | .infinity => infinity
  | .affine x y => ⟨x, y, 1⟩

/-- The tangent construction; it sends infinity to infinity. -/
@[specialize] def double (p : Jacobian F) : Jacobian F :=
  let a := p.x * p.x
  let b := p.y * p.y
  let c := b * b
  let s := p.x * b
  let d := s + s + (s + s)
  let e := a + a + a
  let x := e * e - (d + d)
  let c2 := c + c
  let c4 := c2 + c2
  let yz := p.y * p.z
  ⟨x, e * (d - x) - (c4 + c4), yz + yz⟩

variable [DecidableEq F]

/-- The chord construction, one summand having `z = 1`. -/
@[specialize] def addPoint (p : Jacobian F) : Point F → Jacobian F
  | .infinity => p
  | .affine x y =>
      if p.z = 0 then ⟨x, y, 1⟩
      else
        let zz := p.z * p.z
        let h := x * zz - p.x
        let s := y * (zz * p.z) - p.y
        if h = 0 then
          if s = 0 then double p else infinity
        else
          let hh := h * h
          let hhh := hh * h
          let v := p.x * hh
          let x' := s * s - hhh - (v + v)
          ⟨x', s * (v - x') - p.y * hhh, p.z * h⟩

@[specialize] def toPoint (p : Jacobian F) : Point F :=
  if p.z = 0 then .infinity
  else
    let w := p.z⁻¹
    let ww := w * w
    .affine (p.x * ww) (p.y * (ww * w))

/-- One step of Horner's rule: double, then add the points selected by the
binary digit at `place`. -/
@[specialize] def hornerStep (terms : List (Nat × Point F)) (place : Nat) (acc : Jacobian F) :
    Jacobian F :=
  terms.foldl (fun sum term => if term.1.testBit place then sum.addPoint term.2 else sum)
    acc.double

/-- Horner's rule over the lowest `digits` binary digits. -/
@[specialize] def combine (terms : List (Nat × Point F)) : (digits : Nat) → Jacobian F → Jacobian F
  | 0, acc => acc
  | place + 1, acc => combine terms place (hornerStep terms place acc)

/-- The sum of the points whose place in `table` holds a set binary digit of
`k`: with `table` the doublings of a point, `k` times the point. -/
@[specialize] def select : (table : List (Point F)) → (k : Nat) → (acc : Jacobian F) → Jacobian F
  | [], _, acc => acc
  | p :: table, k, acc => select table (k / 2) (if k % 2 = 1 then acc.addPoint p else acc)

end Jacobian

namespace Point

section

variable {F : Type} [FieldOps F] [DecidableEq F]

@[specialize] def add (p q : Point F) : Point F := ((Jacobian.ofPoint p).addPoint q).toPoint

def neg : Point F → Point F
  | .infinity => .infinity
  | .affine x y => .affine x (-y)

/-- `Σ kᵢ·Pᵢ` for coefficients of at most `digits` binary digits. -/
@[specialize] def combine (digits : Nat) (terms : List (Nat × Point F)) : Point F :=
  (Jacobian.combine terms digits Jacobian.infinity).toPoint

/-- `P, 2·P, 4·P, …`, as many as asked for. -/
@[specialize] def doublings : (count : Nat) → Point F → List (Point F)
  | 0, _ => []
  | count + 1, p => p :: doublings count (Jacobian.ofPoint p).double.toPoint

/-- `k·P` from the doublings of `P`. -/
@[specialize] def multipleFrom (table : List (Point F)) (k : Nat) : Point F :=
  (Jacobian.select table k Jacobian.infinity).toPoint

end

variable {F : Type} [Coordinate F] [DecidableEq F]

/-- Infinity is on the curve; coordinates are if they satisfy its equation. -/
@[specialize] def isOnCurve : Point F → Bool
  | .infinity => true
  | .affine x y => y * y = x * x * x + Coordinate.constant

/-- The order of the point divides the order of the scalar field. -/
@[specialize] def isInSubgroup (p : Point F) : Bool :=
  combine scalarDigits [(scalarModulus, p)] = .infinity

end Point

end PreimageProof
