import Mathlib
import PreimageProof.Proofs.Polynomial.Divisibility

/-!
# Column polynomials

The columns of a matrix are evaluated all at once: the rows are added up,
each weighted by the Lagrange basis at its place. Read column by column, the
result is the value of the polynomial that interpolates the entries of the
column on the domain. The step between the two is an assignment that is 1 at
one variable and 0 at all others, for which the polynomial of the rows is the
polynomial of that column.
-/

namespace PreimageProof

open Polynomial

/-- The entry of a row in a column. What is written there more than once adds
up. -/
def Row.entry (row : Row) (j : Nat) : Fr := ((row.filter fun e => e.2 = j).map Prod.fst).sum

@[simp] theorem Row.entry_nil (j : Nat) : Row.entry [] j = 0 := rfl

theorem Row.entry_cons (e : Fr × Nat) (row : Row) (j : Nat) :
    Row.entry (e :: row) j = (if e.2 = j then e.1 else 0) + Row.entry row j := by
  by_cases hj : e.2 = j
  · simp [Row.entry, hj]
  · simp [Row.entry, hj]

/-! ## Reading one column -/

/-- The assignment that is 1 at one variable. -/
def indicator (j : Nat) : List Fr := List.replicate j 0 ++ [1]

theorem getD_indicator (i j : Nat) : (indicator j).getD i 0 = if i = j then 1 else 0 := by
  rw [indicator]
  rcases Nat.lt_trichotomy i j with hlt | rfl | hgt
  · rw [List.getD_append _ _ _ _ (by simpa using hlt), List.getD_replicate 0 hlt,
      if_neg hlt.ne]
  · rw [List.getD_append_right _ _ _ _ (by simp), if_pos rfl]
    simp
  · rw [List.getD_eq_default _ _ (by simpa using hgt), if_neg hgt.ne']

theorem inner_indicator (j : Nat) (xs : List Fr) : inner (indicator j) xs = xs.getD j 0 := by
  rw [inner_eq_sum]
  simp only [getD_indicator, ite_mul, one_mul, zero_mul, Finset.sum_ite_eq', Finset.mem_range]
  split
  · rfl
  · next hge => rw [List.getD_eq_default _ _ (not_lt.1 hge)]

theorem Row.value_indicator (row : Row) (j : Nat) :
    row.value (indicator j).toArray = row.entry j := by
  induction row with
  | nil => rfl
  | cons e row ih =>
      have hsplit : Row.value (e :: row) (indicator j).toArray =
          e.1 * (indicator j).getD e.2 0 + Row.value row (indicator j).toArray := by
        simp only [Row.value, List.map_cons, List.sum_cons, getD_toArray]
      rw [hsplit, ih, getD_indicator, mul_ite, mul_one, mul_zero, Row.entry_cons]

/-! ## Interpolation -/

/-- The polynomial of degree below the size of a domain with the given values at
its elements. -/
structure Interpolates (d : Domain) (values : Nat → Fr) (p : Fr[X]) : Prop where
  degree : p.degree < d.size
  eval : ∀ i < d.size, p.eval (d.root ^ i) = values i

theorem Domain.injOn_root_pow (d : Domain) :
    Set.InjOn (fun i => d.root ^ i) (Finset.range d.size) :=
  fun _ hi _ hj hij => d.isPrimitiveRoot_root.injOn_pow hi hj hij

section

variable {d : Domain} {values : Nat → Fr}

theorem Interpolates.unique {p q : Fr[X]} (hp : Interpolates d values p)
    (hq : Interpolates d values q) : p = q :=
  d.eq_of_eval_root hp.degree hq.degree fun i hi => by rw [hp.eval i hi, hq.eval i hi]

theorem interpolates_interpolate (d : Domain) (values : Nat → Fr) : Interpolates d values
    (Lagrange.interpolate (Finset.range d.size) (fun i => d.root ^ i) values) where
  degree := by
    have hdegree := Lagrange.degree_interpolate_lt values d.injOn_root_pow
    rwa [Finset.card_range] at hdegree
  eval _ hi := Lagrange.eval_interpolate_at_node _ d.injOn_root_pow
    (Finset.mem_range.2 hi)

theorem existsUnique_interpolates (d : Domain) (values : Nat → Fr) :
    ∃! p, Interpolates d values p :=
  ⟨_, interpolates_interpolate d values, fun _ h => h.unique (interpolates_interpolate d values)⟩

end

/-! ## The polynomial of a column -/

namespace QuadraticProgram

variable (d : Domain) (rows : List Row)

/-- The polynomial of degree below the size of the domain whose value at the
`i`-th element is the entry of row `i`. -/
noncomputable def columnPolynomial (j : Nat) : Fr[X] :=
  Lagrange.interpolate (Finset.range d.size) (fun i => d.root ^ i)
    fun i => (rows.getD i []).entry j

theorem interpolates_columnPolynomial (j : Nat) :
    Interpolates d (fun i => (rows.getD i []).entry j) (columnPolynomial d rows j) :=
  interpolates_interpolate d _

theorem degree_columnPolynomial_lt (j : Nat) : (columnPolynomial d rows j).degree < d.size :=
  (interpolates_columnPolynomial d rows j).degree

theorem eval_columnPolynomial_root {i : Nat} (hi : i < d.size) (j : Nat) :
    (columnPolynomial d rows j).eval (d.root ^ i) = (rows.getD i []).entry j :=
  (interpolates_columnPolynomial d rows j).eval i hi

theorem getD_valuesAt_indicator (i j : Nat) :
    (valuesAt rows (indicator j)).getD i 0 = (rows.getD i []).entry j := by
  rcases Nat.lt_or_ge i rows.length with hlt | hge
  · simp [valuesAt, hlt, Row.value_indicator]
  · rw [getD_valuesAt_of_le rows hge, List.getD_eq_default _ _ hge, Row.entry_nil]

theorem rowPolynomial_indicator (j : Nat) :
    rowPolynomial d rows (indicator j) = columnPolynomial d rows j := by
  refine d.eq_of_eval_root (degree_rowPolynomial_lt d rows _)
    (degree_columnPolynomial_lt d rows j) fun i hi => ?_
  rw [eval_rowPolynomial_root hi, eval_columnPolynomial_root d rows hi, getD_valuesAt_indicator]

variable {d}

/-- Outside the domain, each computed column is the value of its polynomial. -/
theorem getD_columnValues {width j : Nat} (hj : j < width) {tau : Fr}
    (htau : d.vanishing tau ≠ 0) :
    (columnValues width rows (d.lagrange tau)).getD j 0 =
      (columnPolynomial d rows j).eval tau := by
  have hlen : (indicator j).length ≤ width := by
    rw [indicator, List.length_append, List.length_replicate]
    exact hj
  rw [← inner_indicator, inner_columnValues hlen rows htau, rowPolynomial_indicator]

end QuadraticProgram

end PreimageProof
