import Mathlib
import PreimageProof.Proofs.Polynomial.Columns

/-!
# Public columns are independent of all others

Behind the constraints the first matrix has a row for each public variable
that holds this variable alone. At the element of the domain that belongs to
this row, the polynomial of its column is 1 and the polynomials of all other
columns are 0. So no combination of columns that contains a public one is
zero, be the variable used in a constraint or not.

A setup sees the columns at a single point outside the domain only. But there
are enough such points: the domain shifted by a generator of the field has as
many elements as a polynomial of that degree has coefficients.
-/

namespace PreimageProof

open Polynomial

namespace Domain

variable {d : Domain}

/-- A polynomial is known from its values outside the domain. -/
theorem eq_zero_of_eval_outside {p : Fr[X]} (hp : p.degree < d.size)
    (h : ∀ tau, d.vanishing tau ≠ 0 → p.eval tau = 0) : p = 0 := by
  refine d.eq_of_eval_shifted hp ?_ Fr.generator_ne_zero fun i _ => ?_
  · rw [degree_zero]
    exact WithBot.bot_lt_coe _
  · rw [eval_zero]
    refine h _ ?_
    rw [vanishing_shifted]
    exact d.vanishing_generator_ne_zero

end Domain

namespace QuadraticProgram

variable {m : Matrices} {shape : Shape} {d : Domain}

/-! ## The columns at a point -/

theorem exists_evaluateAt_iff {tau : Fr} :
    (∃ e, evaluateAt m shape d tau = .ok e) ↔ d.vanishing tau ≠ 0 := by
  by_cases htau : d.vanishing tau = 0
  · refine iff_of_false ?_ (not_not_intro htau)
    rintro ⟨e, he⟩
    rw [evaluateAt, if_pos htau] at he
    cases he
  · exact iff_of_true ⟨_, if_neg htau⟩ htau

/-- The column of the first matrix for a variable. -/
noncomputable def columnA (m : Matrices) (shape : Shape) (d : Domain) (i : Nat) : Fr[X] :=
  columnPolynomial d (m.extendedA shape.publics) i

theorem of_evaluateAt {tau : Fr} {e : Evaluations} (he : evaluateAt m shape d tau = .ok e) :
    e.a.length = shape.width ∧
      ∀ i < shape.width, e.a.getD i 0 = (columnA m shape d i).eval tau := by
  have htau : d.vanishing tau ≠ 0 := exists_evaluateAt_iff.1 ⟨e, he⟩
  rw [evaluateAt, if_neg htau] at he
  cases he
  exact ⟨length_columnValues _ _ _, fun _ hi => getD_columnValues _ hi htau⟩

/-! ## The rows of the public variables -/

theorem entry_inputRow (m : Matrices) {publics j : Nat} (hj : j < publics) (i : Nat) :
    ((m.extendedA publics).getD (m.a.length + j) []).entry i = if i = j then 1 else 0 := by
  rw [Matrices.extendedA, List.getD_append_right _ _ _ _ (Nat.le_add_right _ _),
    Nat.add_sub_cancel_left, getD_map_range hj, Row.entry_cons, Row.entry_nil, add_zero]
  simp only [eq_comm]

/-- At the element of a public variable its column is 1 and all others are 0. -/
theorem eval_columnA_inputRow (hrows : m.a.length + shape.publics ≤ d.size) {j : Nat}
    (hj : j < shape.publics) (i : Nat) :
    (columnA m shape d i).eval (d.root ^ (m.a.length + j)) = if i = j then 1 else 0 := by
  rw [columnA, eval_columnPolynomial_root d _ (by omega), entry_inputRow m hj]

/-- A combination of columns that is zero at every point that a setup may use. -/
theorem coefficient_eq_zero (hrows : m.a.length + shape.publics ≤ d.size)
    {coefficients : Fin shape.width → Fr}
    (hzero : ∀ tau e, evaluateAt m shape d tau = .ok e →
      ∑ i, coefficients i * e.a.getD i 0 = 0) {j : Fin shape.width} (hj : j < shape.publics) :
    coefficients j = 0 := by
  have hpolynomial : ∑ i, coefficients i • columnA m shape d i = 0 := by
    refine Domain.eq_zero_of_eval_outside (d := d) ?_ fun tau htau => ?_
    · refine mem_degreeLT.1 (Submodule.sum_mem _ fun i _ => Submodule.smul_mem _ _ ?_)
      exact mem_degreeLT.2 (degree_columnPolynomial_lt d _ i)
    · obtain ⟨e, he⟩ := exists_evaluateAt_iff.2 htau
      rw [← hzero tau e he, eval_finsetSum]
      refine Finset.sum_congr rfl fun i _ => ?_
      rw [eval_smul, smul_eq_mul, (of_evaluateAt he).2 i i.isLt]
  have hvalue := congrArg (eval (d.root ^ (m.a.length + j))) hpolynomial
  simpa [eval_finsetSum, eval_columnA_inputRow hrows hj, Fin.val_inj] using hvalue

/-- The column of a public variable is no combination of other columns. -/
theorem columnA_notMem_span (hrows : m.a.length + shape.publics ≤ d.size) {j : Nat}
    (hj : j < shape.publics) :
    columnA m shape d j ∉ Submodule.span Fr (columnA m shape d '' {i | i ≠ j}) := by
  -- Evaluation at the element of the variable is zero on the others.
  let value : Fr[X] →ₗ[Fr] Fr := leval (d.root ^ (m.a.length + j))
  have hspan : Submodule.span Fr (columnA m shape d '' {i | i ≠ j}) ≤ LinearMap.ker value := by
    rw [Submodule.span_le]
    rintro _ ⟨i, hi, rfl⟩
    exact (eval_columnA_inputRow hrows hj i).trans (if_neg hi)
  intro hmem
  have hzero : (columnA m shape d j).eval (d.root ^ (m.a.length + j)) = 0 := hspan hmem
  rw [eval_columnA_inputRow hrows hj, if_pos rfl] at hzero
  exact one_ne_zero hzero

/-- A setup has the values of the columns at every point outside the domain. A
combination of them that is zero at all of these points leaves out the public
variables, the constant included, and the column of a public variable is no
combination of the columns of others. -/
theorem public_columns_independent (haligned : m.Aligned shape.constraints)
    (hd : Domain.ofShape shape = .ok d) :
    (∀ tau : Fr, tau ^ d.size ≠ 1 → ∃ e, evaluateAt m shape d tau = .ok e ∧
      e.a.length = shape.width ∧
      ∀ i < shape.width, e.a.getD i 0 = (columnA m shape d i).eval tau) ∧
    (∀ coefficients : Fin shape.width → Fr,
      (∀ tau e, evaluateAt m shape d tau = .ok e → ∑ i, coefficients i * e.a.getD i 0 = 0) →
        ∀ j : Fin shape.width, j < shape.publics → coefficients j = 0) ∧
    ∀ j < shape.publics,
      columnA m shape d j ∉ Submodule.span Fr (columnA m shape d '' {i | i ≠ j}) := by
  have hrows : m.a.length + shape.publics ≤ d.size := haligned.1 ▸ Domain.rows_le_size hd
  refine ⟨fun tau htau => ?_, fun _ hzero _ hj => coefficient_eq_zero hrows hzero hj,
    fun _ hj => columnA_notMem_span hrows hj⟩
  obtain ⟨e, he⟩ := exists_evaluateAt_iff.2 (d.vanishing_ne_zero_iff.2 htau)
  exact ⟨e, he, of_evaluateAt he⟩

/-- A circuit with an input that no constraint mentions. -/
def idleShape : Shape := ⟨1, 2, 0, 0⟩

def idleMatrices : Matrices := ⟨[[]], [[]], [[]]⟩

theorem idleInput_independent :
    ∃ d, Domain.ofShape idleShape = .ok d ∧
      (∃ tau e, evaluateAt idleMatrices idleShape d tau = .ok e ∧
        5 * e.a.getD 0 0 + 7 * e.a.getD 1 0 ≠ 0) ∧
      columnA idleMatrices idleShape d 1 ∉
        Submodule.span Fr (columnA idleMatrices idleShape d '' {i | i ≠ 1}) := by
  have haligned : idleMatrices.Aligned idleShape.constraints := ⟨rfl, rfl, rfl⟩
  have hdomain : Domain.ofShape idleShape = .ok ⟨2, by decide⟩ := rfl
  obtain ⟨-, hcombination, hspan⟩ := public_columns_independent haligned hdomain
  refine ⟨⟨2, by decide⟩, hdomain, ?_, hspan 1 (by decide)⟩
  by_contra hnone
  simp only [not_exists, not_and, not_not] at hnone
  have hseven : (7 : Fr) = 0 := by
    refine hcombination ![5, 7] (fun tau e he => ?_) ⟨1, by decide⟩ (by decide)
    exact (Fin.sum_univ_two fun i : Fin 2 => ![(5 : Fr), 7] i * e.a.getD i 0).trans
      (hnone tau e he)
  exact absurd hseven (by decide)

end QuadraticProgram

end PreimageProof
