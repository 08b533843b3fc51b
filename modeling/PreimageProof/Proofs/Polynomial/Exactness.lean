import Mathlib
import PreimageProof.Proofs.Bounds.Prover
import PreimageProof.Proofs.Polynomial.Columns

/-!
# The quotient is exact

A key is made from columns evaluated at a secret point, a proof from rows
evaluated at an assignment and divided on a shifted domain. What makes the two
agree is one identity between polynomials. It is stated here without any of
the program's transforms: the polynomials of an assignment are those of least
degree through the values of the rows, by Lagrange's formula, and the product
of the quotient with `X ^ n - 1` is `A B - C` coefficient by coefficient.

The values of the public variables come right behind those of the
constraints, in the first polynomial only. Whatever is said of them is said of
both sides: the identity is between polynomials, and at a point it is what the
columns give there.
-/

namespace PreimageProof

open Polynomial

namespace Domain

variable {d : Domain}

/-! ## Polynomials through given values -/

/-- The polynomial of degree below the size with the given values at the
elements, zero where no value is given. -/
noncomputable def through (d : Domain) (values : List Fr) : Fr[X] :=
  Lagrange.interpolate (Finset.range d.size) (fun i => d.root ^ i) fun i => values.getD i 0

theorem degree_through_lt (values : List Fr) : (d.through values).degree < d.size :=
  (interpolates_interpolate d _).degree

theorem eval_through_root (values : List Fr) {i : Nat} (hi : i < d.size) :
    (d.through values).eval (d.root ^ i) = values.getD i 0 :=
  (interpolates_interpolate d _).eval i hi

end Domain

namespace QuadraticProgram

variable {d : Domain} {m : Matrices} {shape : Shape} {z : List Fr}

theorem rowPolynomial_eq_through (rows : List Row) (z : List Fr) :
    rowPolynomial d rows z = d.through (valuesAt rows z) := by
  refine d.eq_of_eval_root (degree_rowPolynomial_lt d rows z) (Domain.degree_through_lt _)
    fun i hi => ?_
  rw [eval_rowPolynomial_root hi, Domain.eval_through_root _ hi]

theorem residual_eq_through (hpublics : shape.publics ≤ z.length) :
    residual m shape.publics d z =
      d.through (valuesAt m.a z ++ z.take shape.publics) * d.through (valuesAt m.b z) -
        d.through (valuesAt m.c z) := by
  rw [residual, rowPolynomial_eq_through, rowPolynomial_eq_through, rowPolynomial_eq_through,
    valuesAt_extendedA hpublics]

/-! ## The coefficient left out -/

theorem getD_eq_zero_of_degree_lt {cs : List Fr} {n i : Nat}
    (h : (ofCoefficients cs).degree < n) (hi : n ≤ i) : cs.getD i 0 = 0 := by
  have hzero := coeff_eq_zero_of_degree_lt (h.trans_le (Nat.cast_le.2 hi))
  rwa [coeff_ofCoefficients] at hzero

/-- The division gives one coefficient more than are kept, and it is zero. -/
theorem fullQuotient_eq_append {n : Nat} (shape : Shape) (d : Domain) (hz : m.Satisfied z)
    (haligned : m.Aligned n) : fullQuotient m shape d z = quotient m shape d z ++ [0] := by
  -- The degree is below the place of the last coefficient.
  obtain ⟨hlen, hdegree, -⟩ := residual_eq_fullQuotient shape d hz haligned
  have hlast := getD_eq_zero_of_degree_lt hdegree le_rfl
  have hlt : d.size - 1 < (fullQuotient m shape d z).length := by
    rw [hlen]
    exact Nat.sub_lt d.size_pos Nat.one_pos
  rw [List.getD_eq_getElem _ _ hlt] at hlast
  have hsplit := List.take_append_drop (d.size - 1) (fullQuotient m shape d z)
  have hdrop : (fullQuotient m shape d z).drop (d.size - 1) = [0] := by
    rw [List.drop_eq_getElem_cons hlt, hlast, List.drop_eq_nil_of_le (by omega)]
  rw [← hsplit, hdrop, quotient_eq_take]

/-! ## Both sides of the identity -/

/-- For matrices with as many rows as the shape has constraints, whose columns
are those of variables, and a domain with room for the constraints and the
public variables: when every row holds, the prover's division stays within
bounds and drops a zero, what it returns are the coefficients of the exact
quotient, and at every point outside the domain the columns of the setup,
weighted by the assignment, satisfy the same identity. -/
theorem quotient_exact (haligned : m.Aligned shape.constraints)
    (hcolumns : ∀ row ∈ m.a ++ m.b ++ m.c, ∀ entry ∈ row, entry.2 < shape.width)
    (hrows : shape.constraints + shape.publics ≤ d.size) (hz : z.length = shape.width)
    (hsatisfied : m.Satisfied z) :
    let h := ofCoefficients (quotient m shape d z)
    quotient? m shape d z = some (quotient m shape d z) ∧
      (quotient m shape d z).length = d.size - 1 ∧
      fullQuotient m shape d z = quotient m shape d z ++ [0] ∧
      d.through (valuesAt m.a z ++ z.take shape.publics) * d.through (valuesAt m.b z) -
        d.through (valuesAt m.c z) = h * (X ^ d.size - 1) ∧
      ∀ tau : Fr, tau ^ d.size ≠ 1 →
        ∃ e, evaluateAt m shape d tau = .ok e ∧ e.target = tau ^ d.size - 1 ∧
          inner e.a z * inner e.b z - inner e.c z = h.eval tau * e.target := by
  have hpublics : shape.publics ≤ z.length := by
    rw [hz, Shape.width]
    omega
  obtain ⟨hlen, hexact⟩ := residual_eq_quotient shape d hsatisfied haligned
  refine ⟨quotient?_eq (haligned.1 ▸ hrows) hz (hz ▸ hcolumns), hlen,
    fullQuotient_eq_append shape d hsatisfied haligned, ?_, fun tau htau => ?_⟩
  · rw [← residual_eq_through hpublics, hexact, mul_comm]
    rfl
  · have houtside : d.vanishing tau ≠ 0 := d.vanishing_ne_zero_iff.2 htau
    refine ⟨_, if_neg houtside, rfl, ?_⟩
    have hpoint := eval_residual m shape.publics hz.le houtside
    rw [hexact, eval_mul, d.eval_target, mul_comm] at hpoint
    rw [inner_comm _ z, inner_comm _ z, inner_comm _ z, ← hpoint]

end QuadraticProgram

theorem squareSystem_quotient_exact :
    let h := QuadraticProgram.quotient squareSystem.matrices squareSystem.shape squareDomain
      [1, 9, 3, 9]
    h.length = 3 ∧
      ∃ e, QuadraticProgram.evaluateAt squareSystem.matrices squareSystem.shape squareDomain 11 =
          .ok e ∧
        inner e.a [1, 9, 3, 9] * inner e.b [1, 9, 3, 9] - inner e.c [1, 9, 3, 9] =
          (ofCoefficients h).eval 11 * e.target := by
  have hsatisfied : squareSystem.matrices.Satisfied [1, 9, 3, 9] := by
    intro row hrow
    fin_cases hrow <;> rfl
  have houtside : (11 : Fr) ^ squareDomain.size ≠ 1 := by
    show (11 : Fr) ^ 4 ≠ 1
    rw [pow_succ, pow_succ, pow_succ, pow_one]
    decide
  obtain ⟨-, hlen, -, -, hpoint⟩ := QuadraticProgram.quotient_exact (d := squareDomain)
    squareSystem_built.aligned (by decide) (by decide) rfl hsatisfied
  obtain ⟨e, he, -, hidentity⟩ := hpoint 11 houtside
  exact ⟨hlen, e, he, hidentity⟩

end PreimageProof
