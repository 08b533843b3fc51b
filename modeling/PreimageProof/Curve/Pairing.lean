import PreimageProof.Curve.Groups

/-!
# The pairing

The optimal ate pairing of the curve, into the roots of unity of order
`scalarModulus` in `Fq12`. Pairing a point `P` of the first group with a
point `Q` of the second walks `Q` up to `6t + 2` times itself, `t` being the
parameter of the curve, and multiplies up the values at `P` of the lines used
on the way. Raising the product to `(q ^ 12 - 1) / r` makes the value depend
on the points alone and the map bilinear.

A product of pairings needs that last step only once, and every check of the
proof system is a comparison of two such products.
-/

namespace PreimageProof

namespace AtePairing

/-- The parameter of the curve: its moduli are the values at `t` of two quartics. -/
def parameter : Nat := 4965661367192848881

/-- A line on the twisted curve that is not vertical: `y = slope * x + offset`. -/
structure Line where
  slope : Fq2
  offset : Fq2

/-- The value of a line at a point of the first group. On the curve over
`Fq12` the twisted point `(x, y)` is `(x * w², y * w³)`, so a slope gains a
factor `w` and an offset a factor `w³`. -/
def Line.valueAt (line : Line) (x y : Fq) : Fq12 :=
  ⟨⟨Fq2.ofBase y, 0, 0⟩, ⟨-(line.slope * Fq2.ofBase x), -line.offset, 0⟩⟩

/-- The state of a walk: the product of the lines so far, and the point reached. -/
structure Walk where
  product : Fq12
  x : Fq2
  y : Fq2

namespace Walk

/-- Follow the line of the given slope through the point reached to the sum
of the two points it joins, the second having first coordinate `x`. -/
def along (px py : Fq) (slope x : Fq2) (s : Walk) : Walk :=
  let line : Line := ⟨slope, s.y - slope * s.x⟩
  let x3 := slope * slope - s.x - x
  ⟨s.product * line.valueAt px py, x3, slope * (s.x - x3) - s.y⟩

/-- Double the point reached. -/
def double (px py : Fq) (s : Walk) : Walk :=
  let xx := s.x * s.x
  along px py ((xx + xx + xx) * (s.y + s.y)⁻¹) s.x ⟨s.product * s.product, s.x, s.y⟩

/-- Add a point to the point reached. -/
def add (px py : Fq) (x y : Fq2) (s : Walk) : Walk :=
  along px py ((y - s.y) * (x - s.x)⁻¹) x s

/-- Double and add along the lowest `digits` binary digits of `n`. -/
def climb (px py : Fq) (x y : Fq2) (n : Nat) : (digits : Nat) → Walk → Walk
  | 0, s => s
  | place + 1, s =>
      let s := s.double px py
      climb px py x y n place (if n.testBit place then s.add px py x y else s)

end Walk

/-- The `q`-th power of the coordinates, brought back to the twisted curve. -/
def frobenius (x y : Fq2) : Fq2 × Fq2 :=
  let g := Fq12.frobeniusFactor
  (x.conjugate * (g * g), y.conjugate * (g * g * g))

/-- The product of the lines for one pair of points. -/
def lines : G1 → G2 → Fq12
  | .affine px py, .affine x y =>
      let n := 6 * parameter + 2
      let s := Walk.climb px py x y n n.log2 ⟨1, x, y⟩
      let (x1, y1) := frobenius x y
      let (x2, y2) := frobenius x1 y1
      ((s.add px py x1 y1).add px py x2 (-y2)).product
  | _, _ => 1

/-- The product of the powers `a ^ n` over the lowest `digits` binary digits
of the exponents, with the squarings shared. -/
def powers (terms : List (Fq12 × Nat)) : (digits : Nat) → Fq12 → Fq12
  | 0, acc => acc
  | place + 1, acc =>
      powers terms place
        (terms.foldl (fun product term =>
          if term.2.testBit place then product * term.1 else product) (acc * acc))

/-- The power `(q ^ 12 - 1) / r`, in three factors: `q ^ 6 - 1`, where the
`q ^ 6`-th power is conjugation, `q ^ 2 + 1`, and `(q ^ 4 - q ^ 2 + 1) / r`,
whose digits in base `q` are exponents for the first three `q`-th powers. -/
def finalPower (a : Fq12) : Fq12 :=
  let b := a.conjugate * a⁻¹
  let c := b.frobenius.frobenius * b
  let square := baseModulus * baseModulus
  let n := (square * square - square + 1) / scalarModulus
  powers [(c, n % baseModulus), (c.frobenius, n / baseModulus % baseModulus),
    (c.frobenius.frobenius, n / square)] (baseModulus.log2 + 1) 1

/-- The product of the pairings of the given pairs. -/
def product (pairs : List (G1 × G2)) : Fq12 :=
  finalPower (pairs.foldl (fun acc pair => acc * lines pair.1 pair.2) 1)

instance : PairingOps G1 G2 Fq12 := ⟨product⟩

end AtePairing

end PreimageProof
