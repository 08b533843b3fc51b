import PreimageProof.Curve.Point
import PreimageProof.PairingGroup

/-!
# The two groups of points

`G1` is the curve `y² = x³ + 3` over `Fq`, all of which has prime order. `G2`
is the subgroup of prime order of the twisted curve over `Fq2`. Fixed
generators are scaled often, so their doublings are kept.
-/

namespace PreimageProof

instance : Coordinate Fq where
  constant := (3 : Nat)
  components a := [a]
  degree := 1
  ofComponents?
    | [a] => some a
    | _ => none

instance : Coordinate Fq2 where
  constant := Fq2.ofBase (3 : Nat) * Fq2.xi⁻¹
  components a := [a.re, a.im]
  degree := 2
  ofComponents?
    | [re, im] => some ⟨re, im⟩
    | _ => none

abbrev G1 : Type := Point Fq

abbrev G2 : Type := Point Fq2

namespace G1

def generator : G1 := .affine 1 (2 : Nat)

def generatorDoublings : List G1 := generator.doublings scalarDigits

/-- Every point of the curve is in the group: its order is the number of points. -/
instance : SourceOps G1 where
  zero := .infinity
  add := Point.add
  neg := Point.neg
  generate k := Point.multipleFrom generatorDoublings k.val
  combine terms := Point.combine scalarDigits (terms.map fun t => (t.1.val, t.2))
  isValid := Point.isOnCurve

end G1

namespace G2

def generator : G2 :=
  .affine
    ⟨(10857046999023057135944570762232829481370756359578518086990519993285655852781 : Nat),
      (11559732032986387107991004021392285783925812861821192530917403151452391805634 : Nat)⟩
    ⟨(8495653923123431417604973247489272438418190587263600148770280649306958101930 : Nat),
      (4082367875863433681332203403145435568316851327593401208105741076214120093531 : Nat)⟩

def generatorDoublings : List G2 := generator.doublings scalarDigits

/-- The twisted curve has more points than the group. -/
instance : SourceOps G2 where
  zero := .infinity
  add := Point.add
  neg := Point.neg
  generate k := Point.multipleFrom generatorDoublings k.val
  combine terms := Point.combine scalarDigits (terms.map fun t => (t.1.val, t.2))
  isValid p := p.isOnCurve && p.isInSubgroup

end G2

end PreimageProof
