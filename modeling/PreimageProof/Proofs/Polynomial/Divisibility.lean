import Mathlib
import PreimageProof.Proofs.Polynomial.Interpolation

/-!
# Satisfied rows and exact quotients

For an assignment `z` each matrix has one polynomial, the interpolant of the
values of its rows at `z`. Two facts tie the program to these polynomials.
The columns that `columnValues` computes at a point, weighted by `z`, are the
value of that polynomial there; and when `z` satisfies every row, `quotient`
returns the coefficients of the exact quotient of `A B - C` by `X ^ n - 1`,
the coefficient left out being zero.

The rows of the public variables that only the first matrix has do not
disturb either: at their places the other two polynomials vanish.
-/

namespace PreimageProof

open Polynomial

/-! ## Assignments that satisfy a system -/

/-- Every row holds. -/
def Matrices.Satisfied (m : Matrices) (z : List Fr) : Prop :=
  ∀ row ∈ m.rows,
    row.1.value z.toArray * row.2.1.value z.toArray = row.2.2.value z.toArray

/-- The three matrices have one row for each constraint. -/
def Matrices.Aligned (m : Matrices) (constraints : Nat) : Prop :=
  m.a.length = constraints ∧ m.b.length = constraints ∧ m.c.length = constraints

theorem getD_toArray (z : List Fr) (i : Nat) : z.toArray.getD i 0 = z.getD i 0 := by
  simp [Array.getD_eq_getD_getElem?, List.getD_eq_getElem?_getD]

/-- The values of rows at an assignment. -/
def valuesAt (rows : List Row) (z : List Fr) : List Fr :=
  rows.map fun row => row.value z.toArray

@[simp] theorem length_valuesAt (rows : List Row) (z : List Fr) :
    (valuesAt rows z).length = rows.length := List.length_map _

theorem getD_valuesAt_of_le (rows : List Row) {z : List Fr} {i : Nat} (h : rows.length ≤ i) :
    (valuesAt rows z).getD i 0 = 0 :=
  List.getD_eq_default _ _ (by rwa [length_valuesAt])

theorem Matrices.Satisfied.row {m : Matrices} {z : List Fr} {n : Nat} (h : m.Satisfied z)
    (haligned : m.Aligned n) (i : Nat) :
    (valuesAt m.a z).getD i 0 * (valuesAt m.b z).getD i 0 = (valuesAt m.c z).getD i 0 := by
  obtain ⟨ha, hb, hc⟩ := haligned
  rcases Nat.lt_or_ge i n with hlt | hge
  · have hmem : (m.a[i], m.b[i], m.c[i]) ∈ m.rows := by
      refine List.mem_iff_getElem.2 ⟨i, ?_, ?_⟩
      · simp [Matrices.rows, ha, hb, hc, hlt]
      · simp [Matrices.rows]
    have hrow := h _ hmem
    simpa [valuesAt, ha, hb, hc, hlt] using hrow
  · rw [getD_valuesAt_of_le m.a (by omega), zero_mul,
      getD_valuesAt_of_le m.c (by omega)]

theorem Matrices.satisfied_of_rows {m : Matrices} {z : List Fr} {n : Nat}
    (haligned : m.Aligned n)
    (h : ∀ i < n, (valuesAt m.a z).getD i 0 * (valuesAt m.b z).getD i 0 =
      (valuesAt m.c z).getD i 0) : m.Satisfied z := by
  obtain ⟨ha, hb, hc⟩ := haligned
  intro row hrow
  obtain ⟨i, hi, rfl⟩ := List.mem_iff_getElem.1 hrow
  have hlt : i < n := by
    simp only [Matrices.rows, List.length_zip] at hi
    omega
  have hvalues := h i hlt
  simpa [valuesAt, Matrices.rows, ha, hb, hc, hlt] using hvalues

/-! ## The domain of a shape -/

namespace Domain

theorem ceilLog2_le_iff (n k : Nat) : ceilLog2 n ≤ k ↔ n ≤ 2 ^ k := by
  rw [ceilLog2]
  split
  · next h => exact iff_of_true k.zero_le (h.trans Nat.one_le_two_pow)
  · next h =>
      rw [Nat.add_one_le_iff, Nat.log2_lt (by omega)]
      omega

/-- The domain of a shape has room for the constraints and for the rows of the
public variables behind them. -/
theorem rows_le_size {shape : Shape} {d : Domain} (h : ofShape shape = .ok d) :
    shape.constraints + shape.publics ≤ d.size := by
  simp only [ofShape, ofRows?] at h
  split at h
  · next heq =>
      split at heq
      · cases heq
        cases h
        rw [size_eq]
        exact (ceilLog2_le_iff _ _).1 le_rfl
      · cases heq
  · cases h

end Domain

/-! ## The values of the rows on the domain -/

theorem getD_extendedA {m : Matrices} {z : List Fr} {publics i : Nat} (h : i < m.a.length) :
    (valuesAt (m.extendedA publics) z).getD i 0 = (valuesAt m.a z).getD i 0 := by
  rw [valuesAt, Matrices.extendedA, List.map_append, List.getD_append _ _ _ _ (by simpa using h)]
  rfl

theorem Matrices.Satisfied.extended {m : Matrices} {z : List Fr} {n : Nat} (h : m.Satisfied z)
    (haligned : m.Aligned n) (publics i : Nat) :
    (valuesAt (m.extendedA publics) z).getD i 0 * (valuesAt m.b z).getD i 0 =
      (valuesAt m.c z).getD i 0 := by
  rcases Nat.lt_or_ge i n with hlt | hge
  · rw [getD_extendedA (haligned.1 ▸ hlt), h.row haligned]
  · obtain ⟨ha, hb, hc⟩ := haligned
    rw [getD_valuesAt_of_le m.b (by omega), mul_zero,
      getD_valuesAt_of_le m.c (by omega)]

namespace QuadraticProgram

theorem rowValues_eq (d : Domain) (rows : List Row) (z : List Fr) :
    rowValues d rows z.toArray =
      (valuesAt rows z).take d.size ++ List.replicate (d.size - rows.length) 0 := by
  simp [rowValues, valuesAt]

@[simp] theorem length_rowValues (d : Domain) (rows : List Row) (z : Array Fr) :
    (rowValues d rows z).length = d.size := by
  simp only [rowValues, List.length_append, List.length_take, List.length_map,
    List.length_replicate]
  omega

theorem getD_rowValues {d : Domain} {rows : List Row} {z : List Fr} {i : Nat} (h : i < d.size) :
    (rowValues d rows z.toArray).getD i 0 = (valuesAt rows z).getD i 0 := by
  rw [rowValues_eq]
  rcases Nat.lt_or_ge i rows.length with hlt | hge
  · rw [List.getD_append _ _ _ _ (by simp; omega)]
    simp [List.getD_eq_getElem?_getD, h]
  · rw [getD_valuesAt_of_le rows hge, List.getD_append_right _ _ _ _ (by simp; omega)]
    exact List.getD_replicate 0 (by simp; omega)

/-- The polynomial of a matrix at an assignment. -/
noncomputable def rowPolynomial (d : Domain) (rows : List Row) (z : List Fr) : Fr[X] :=
  d.interpolant (rowValues d rows z.toArray)

theorem degree_rowPolynomial_lt (d : Domain) (rows : List Row) (z : List Fr) :
    (rowPolynomial d rows z).degree < d.size :=
  d.degree_interpolant_lt (length_rowValues d rows z.toArray)

theorem eval_rowPolynomial_root {d : Domain} {rows : List Row} {z : List Fr} {i : Nat}
    (h : i < d.size) :
    (rowPolynomial d rows z).eval (d.root ^ i) = (valuesAt rows z).getD i 0 := by
  rw [rowPolynomial, d.eval_interpolant_root (length_rowValues d rows z.toArray) h,
    getD_rowValues h]

/-! ## Columns at a point -/

theorem inner_addRow {z : List Fr} {columns : Array Fr} (h : z.length ≤ columns.size)
    (row : Row) (weight : Fr) :
    (addRow columns (row, weight)).size = columns.size ∧
      inner z (addRow columns (row, weight)).toList =
        inner z columns.toList + row.value z.toArray * weight := by
  unfold addRow Row.value
  induction row generalizing columns with
  | nil => simp
  | cons e row ih =>
      have hle : z.length ≤ (columns.modify e.2 (· + weight * e.1)).size := by
        rwa [Array.size_modify]
      obtain ⟨hsize, hinner⟩ := ih hle
      simp only [List.foldl_cons, List.map_cons, List.sum_cons]
      refine ⟨by rw [hsize, Array.size_modify], ?_⟩
      rw [hinner, Array.toList_modify, inner_modify _ _ (by simpa using h)]
      rw [getD_toArray]
      ring

theorem inner_foldl_addRow {z : List Fr} {columns : Array Fr} (h : z.length ≤ columns.size)
    (rows : List Row) (weights : List Fr) :
    inner z ((rows.zip weights).foldl addRow columns).toList =
      inner z columns.toList + inner (valuesAt rows z) weights := by
  induction rows generalizing columns weights with
  | nil => simp [valuesAt]
  | cons row rows ih =>
      cases weights with
      | nil => simp
      | cons weight weights =>
          obtain ⟨hsize, hinner⟩ := inner_addRow h row weight
          rw [List.zip_cons_cons, List.foldl_cons, ih (by rwa [hsize]), hinner, add_assoc]
          rfl

/-- The columns at a point, weighted by an assignment, are the value of the
polynomial of the rows there. -/
theorem inner_columnValues {d : Domain} {width : Nat} {z : List Fr} (hz : z.length ≤ width)
    (rows : List Row) {tau : Fr} (htau : d.vanishing tau ≠ 0) :
    inner z (columnValues width rows (d.lagrange tau)) = (rowPolynomial d rows z).eval tau := by
  have hzeros : inner z (List.replicate width 0) = 0 := by
    have h := inner_append_zeros z [] width
    rwa [List.nil_append, inner_nil_right] at h
  have hlen : (d.lagrange tau).length ≤ d.size := (d.length_lagrange tau).le
  rw [rowPolynomial, ← d.inner_lagrange (length_rowValues d rows z.toArray) htau, columnValues,
    inner_foldl_addRow (by simpa using hz), Array.toList_replicate, hzeros, zero_add,
    rowValues_eq, inner_comm, inner_comm (_ ++ _), inner_append_zeros, inner_comm,
    inner_comm (d.lagrange tau), inner_take_left _ _ hlen]

theorem size_addRow (columns : Array Fr) (entry : Row × Fr) :
    (addRow columns entry).size = columns.size := by
  obtain ⟨row, weight⟩ := entry
  exact (inner_addRow (z := []) (Nat.zero_le _) row weight).1

theorem length_columnValues (width : Nat) (rows : List Row) (weights : List Fr) :
    (columnValues width rows weights).length = width := by
  have hfold : ∀ (entries : List (Row × Fr)) (columns : Array Fr),
      (entries.foldl addRow columns).size = columns.size := by
    intro entries
    induction entries with
    | nil => exact fun _ => rfl
    | cons entry entries ih =>
        intro columns
        rw [List.foldl_cons, ih, size_addRow]
  rw [columnValues, Array.length_toList, hfold, Array.size_replicate]

/-! ## The quotient -/

/-- `A B - C` for the polynomials of the three matrices at an assignment. -/
noncomputable def residual (m : Matrices) (publics : Nat) (d : Domain) (z : List Fr) : Fr[X] :=
  rowPolynomial d (m.extendedA publics) z * rowPolynomial d m.b z - rowPolynomial d m.c z

theorem natDegree_rowPolynomial_le (d : Domain) (rows : List Row) (z : List Fr) :
    (rowPolynomial d rows z).natDegree ≤ d.size - 1 := by
  rw [natDegree_le_iff_coeff_eq_zero]
  intro i hi
  exact (degree_lt_iff_coeff_zero _ _).1 (degree_rowPolynomial_lt d rows z) i (by omega)

theorem natDegree_residual_le (m : Matrices) (publics : Nat) (d : Domain) (z : List Fr) :
    (residual m publics d z).natDegree ≤ 2 * (d.size - 1) := by
  have ha := natDegree_rowPolynomial_le d (m.extendedA publics) z
  have hb := natDegree_rowPolynomial_le d m.b z
  have hc := natDegree_rowPolynomial_le d m.c z
  have hmul := natDegree_mul_le (p := rowPolynomial d (m.extendedA publics) z)
    (q := rowPolynomial d m.b z)
  refine (natDegree_sub_le _ _).trans (max_le ?_ ?_)
  · omega
  · omega

/-- When every row holds, the residual vanishes on the domain, and the
quotient has degree at most `n - 2`. -/
theorem residual_eq_mul {m : Matrices} {n : Nat} {z : List Fr} (publics : Nat) (d : Domain)
    (hz : m.Satisfied z) (haligned : m.Aligned n) :
    ∃ q : Fr[X], residual m publics d z = d.target * q ∧ q.degree < (d.size - 1 : Nat) := by
  obtain ⟨q, hq⟩ := d.target_dvd (f := residual m publics d z) fun i hi => by
    rw [residual, eval_sub, eval_mul, eval_rowPolynomial_root hi, eval_rowPolynomial_root hi,
      eval_rowPolynomial_root hi, hz.extended haligned, sub_self]
  refine ⟨q, hq, ?_⟩
  rcases eq_or_ne q 0 with rfl | hne
  · rw [degree_zero]
    exact WithBot.bot_lt_coe _
  · have hdegree := natDegree_residual_le m publics d z
    have htarget : d.target.natDegree = d.size := natDegree_eq_of_degree_eq_some d.degree_target
    rw [hq, d.monic_target.natDegree_mul' hne, htarget] at hdegree
    rw [degree_eq_natDegree hne, Nat.cast_lt]
    have hpos := d.size_pos
    omega

theorem zipWith_map_range (f g h : Nat → Fr) (k : Fr) (n : Nat) :
    List.zipWith (fun ab c => (ab - c) * k)
      (List.zipWith (· * ·) ((List.range n).map f) ((List.range n).map g))
        ((List.range n).map h) =
      (List.range n).map fun i => (f i * g i - h i) * k := by
  simp [List.zipWith_map, List.zipWith_self]

theorem take_of_degree_lt {cs : List Fr} {n : Nat} (h : (ofCoefficients cs).degree < n) :
    ofCoefficients (cs.take n) = ofCoefficients cs := by
  ext i
  rw [coeff_ofCoefficients, coeff_ofCoefficients]
  rcases Nat.lt_or_ge i n with hlt | hge
  · simp [List.getD_eq_getElem?_getD, hlt]
  · have hzero := coeff_eq_zero_of_degree_lt (lt_of_lt_of_le h (Nat.cast_le.2 hge))
    rw [coeff_ofCoefficients] at hzero
    rw [hzero, List.getD_eq_default _ _ (by simp; omega)]

/-- The coefficients of the quotient before the last one is left out. -/
def fullQuotient (m : Matrices) (shape : Shape) (d : Domain) (z : List Fr) : List Fr :=
  let g := Fr.generator
  let shifted (rows : List Row) := d.shift g (rowValues d rows z.toArray)
  let divisor := (d.vanishing g)⁻¹
  let products := List.zipWith (· * ·) (shifted (m.extendedA shape.publics)) (shifted m.b)
  d.interpolateShifted g
    (List.zipWith (fun ab c => (ab - c) * divisor) products (shifted m.c))

theorem quotient_eq_take (m : Matrices) (shape : Shape) (d : Domain) (z : List Fr) :
    quotient m shape d z = (fullQuotient m shape d z).take (d.size - 1) := rfl

/-- The division on the shifted domain is the division of polynomials, with a
quotient of degree at most `n - 2`. -/
theorem residual_eq_fullQuotient {m : Matrices} {n : Nat} {z : List Fr} (shape : Shape)
    (d : Domain) (hz : m.Satisfied z) (haligned : m.Aligned n) :
    (fullQuotient m shape d z).length = d.size ∧
      (ofCoefficients (fullQuotient m shape d z)).degree < (d.size - 1 : Nat) ∧
      residual m shape.publics d z = d.target * ofCoefficients (fullQuotient m shape d z) := by
  obtain ⟨q, hq, hdegree⟩ := residual_eq_mul shape.publics d hz haligned
  have hvalues : ∀ i, (residual m shape.publics d z).eval (Fr.generator * d.root ^ i) *
      (d.vanishing Fr.generator)⁻¹ = q.eval (Fr.generator * d.root ^ i) := by
    intro i
    rw [hq, eval_mul, d.eval_target, d.vanishing_shifted, mul_comm, ← mul_assoc,
      inv_mul_cancel₀ d.vanishing_generator_ne_zero, one_mul]
  simp only [residual, eval_sub, eval_mul] at hvalues
  have hfull : fullQuotient m shape d z = d.interpolateShifted Fr.generator
      ((List.range d.size).map fun i => q.eval (Fr.generator * d.root ^ i)) := by
    simp only [fullQuotient, d.shift_eq (length_rowValues d _ z.toArray), zipWith_map_range]
    exact congrArg _ (List.map_congr_left fun i _ => hvalues i)
  have hq_lt : q.degree < d.size :=
    hdegree.trans (Nat.cast_lt.2 (Nat.sub_lt d.size_pos Nat.one_pos))
  obtain ⟨hlen, hexact⟩ := d.interpolateShifted_values hq_lt Fr.generator_ne_zero
  rw [hfull, hexact]
  exact ⟨hlen, hdegree, hq⟩

/-- The quotient is exact: nothing is lost by leaving out its last
coefficient, and times `X ^ n - 1` it is `A B - C`. -/
theorem residual_eq_quotient {m : Matrices} {n : Nat} {z : List Fr} (shape : Shape) (d : Domain)
    (hz : m.Satisfied z) (haligned : m.Aligned n) :
    (quotient m shape d z).length = d.size - 1 ∧
      residual m shape.publics d z = d.target * ofCoefficients (quotient m shape d z) := by
  obtain ⟨hlen, hdegree, hexact⟩ := residual_eq_fullQuotient shape d hz haligned
  rw [quotient_eq_take]
  refine ⟨?_, ?_⟩
  · rw [List.length_take, hlen]
    omega
  · rw [take_of_degree_lt hdegree, hexact]

/-! ## The identity at a point -/

/-- What the columns at a point say about an assignment: `A B - C` there. -/
theorem eval_residual (m : Matrices) (publics : Nat) {width : Nat} {d : Domain} {z : List Fr}
    (hz : z.length ≤ width) {tau : Fr} (htau : d.vanishing tau ≠ 0) :
    (residual m publics d z).eval tau =
      inner z (columnValues width (m.extendedA publics) (d.lagrange tau)) *
        inner z (columnValues width m.b (d.lagrange tau)) -
      inner z (columnValues width m.c (d.lagrange tau)) := by
  rw [inner_columnValues hz _ htau, inner_columnValues hz _ htau, inner_columnValues hz _ htau,
    residual, eval_sub, eval_mul]

/-- If the vanishing polynomial divides `A B - C`, every row holds. -/
theorem satisfied_of_target_dvd {m : Matrices} {publics n : Nat} {d : Domain} {z : List Fr}
    (haligned : m.Aligned n) (hn : n ≤ d.size) (h : d.target ∣ residual m publics d z) :
    m.Satisfied z := by
  refine m.satisfied_of_rows haligned fun i hi => ?_
  obtain ⟨q, hq⟩ := h
  have hlt : i < d.size := lt_of_lt_of_le hi hn
  have hzero := congrArg (eval (d.root ^ i)) hq
  rw [eval_mul, d.eval_target, Domain.vanishing_eq, d.root_pow_size, sub_self, zero_mul,
    residual, eval_sub, eval_mul, eval_rowPolynomial_root hlt, eval_rowPolynomial_root hlt,
    eval_rowPolynomial_root hlt, getD_extendedA (haligned.1 ▸ hi)] at hzero
  exact sub_eq_zero.1 hzero

end QuadraticProgram

end PreimageProof
