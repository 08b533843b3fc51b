import Mathlib
import PreimageProof.Proofs.Field.InnerProduct

/-!
# Elements by their exponents

What is proved about keys and proofs is proved about their exponents. A
source group is lawful when its operations are those of the exponents, and a
pairing is bilinear when the product over a list of pairs depends only on
the sum of the products of their exponents; it is nondegenerate when that sum
can be told from it. A linear combination of published elements is then the
element of an inner product.

The exponents themselves are such groups, with the product of the field for
the pairing, so none of the laws contradict each other.
-/

namespace PreimageProof

open SourceOps (generate combine isValid)

/-! ## The laws -/

/-- The multiples of the generator are valid, and the operations on them are
those of their exponents. -/
class LawfulSource (G : Type) [SourceOps G] : Prop where
  isValid_generate : ∀ x : Fr, isValid (generate x : G) = true
  generate_zero : (generate 0 : G) = 0
  generate_add : ∀ x y : Fr, (generate (x + y) : G) = generate x + generate y
  generate_neg : ∀ x : Fr, (generate (-x) : G) = -generate x
  combine_generate : ∀ terms : List (Fr × Fr),
    combine (terms.map fun t => (t.1, (generate t.2 : G))) =
      generate (terms.map fun t => t.1 * t.2).sum

/-- A group of the order of the scalar field: every valid element is exactly
one multiple of the generator. -/
class PrimeOrder (G : Type) [SourceOps G] : Prop extends LawfulSource G where
  generate_injective : Function.Injective (generate : Fr → G)
  exists_generate : ∀ p : G, isValid p = true → ∃ x : Fr, p = generate x

section

variable (G₁ G₂ : Type) {GT : Type} [SourceOps G₁] [SourceOps G₂] [PairingOps G₁ G₂ GT]

/-- The power of the pairing of the generators. -/
def pairingPower (x : Fr) : GT := PairingOps.product [((generate x : G₁), (generate 1 : G₂))]

/-- The product of pairings is the power by the sum of the products. -/
class BilinearPairing : Prop where
  product_generate : ∀ pairs : List (Fr × Fr),
    PairingOps.product (pairs.map fun p => ((generate p.1 : G₁), (generate p.2 : G₂))) =
      pairingPower G₁ G₂ (pairs.map fun p => p.1 * p.2).sum

/-- Different powers are different. -/
class NondegeneratePairing : Prop extends BilinearPairing G₁ G₂ where
  pairingPower_injective : Function.Injective (pairingPower G₁ G₂)

theorem product_generate [BilinearPairing G₁ G₂] (pairs : List (Fr × Fr)) :
    PairingOps.product (pairs.map fun p => ((generate p.1 : G₁), (generate p.2 : G₂))) =
      pairingPower G₁ G₂ (pairs.map fun p => p.1 * p.2).sum :=
  BilinearPairing.product_generate pairs

end

/-! ## Inner products of exponents -/

namespace LawfulSource

variable {G : Type} [SourceOps G] [LawfulSource G]

theorem combine_zip (ks xs : List Fr) :
    combine (ks.zip (xs.map (generate : Fr → G))) = generate (inner ks xs) := by
  have hterms : ks.zip (xs.map (generate : Fr → G)) =
      (ks.zip xs).map fun t => (t.1, (generate t.2 : G)) := by
    rw [List.zip_map_right]
    rfl
  have hsum : ((ks.zip xs).map fun t => t.1 * t.2).sum = inner ks xs := by
    rw [inner, List.zip, List.map_zipWith]
  rw [hterms, combine_generate, hsum]

theorem scale_generate (k x : Fr) :
    SourceOps.scale k (generate x : G) = generate (k * x) := by
  have h := combine_zip (G := G) [k] [x]
  rwa [inner_cons_cons, inner_nil_left, add_zero] at h

end LawfulSource

/-! ## The groups of exponents -/

/-- An element of the group of exponents. -/
structure Exponent where
  log : Fr
  deriving DecidableEq

namespace Exponent

instance : SourceOps Exponent where
  zero := ⟨0⟩
  add x y := ⟨x.log + y.log⟩
  neg x := ⟨-x.log⟩
  generate := .mk
  combine terms := ⟨(terms.map fun t => t.1 * t.2.log).sum⟩
  isValid _ := true

instance : PairingOps Exponent Exponent Exponent where
  product pairs := ⟨(pairs.map fun p => p.1.log * p.2.log).sum⟩

instance : LawfulSource Exponent where
  isValid_generate _ := rfl
  generate_zero := rfl
  generate_add _ _ := rfl
  generate_neg _ := rfl
  combine_generate terms := by
    show Exponent.mk _ = Exponent.mk _
    rw [List.map_map]
    rfl

instance : PrimeOrder Exponent where
  generate_injective _ _ h := congrArg log h
  exists_generate p _ := ⟨p.log, rfl⟩

theorem pairingPower_eq (x : Fr) : pairingPower Exponent Exponent x = ⟨x⟩ := by
  show Exponent.mk (List.sum [x * 1]) = _
  simp

instance : NondegeneratePairing Exponent Exponent where
  product_generate pairs := by
    rw [pairingPower_eq]
    show Exponent.mk (List.map _ _).sum = _
    rw [List.map_map]
    rfl
  pairingPower_injective x y h := by
    rw [pairingPower_eq, pairingPower_eq] at h
    exact congrArg log h

end Exponent

end PreimageProof
