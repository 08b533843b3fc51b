import Mathlib
import PreimageProof.Proofs.Field.Prime

/-!
# The value of a linear combination

Whatever values the variables have, evaluating commutes with every operation
that builds linear combinations. Merging a term is where it is decided: a
coefficient that becomes zero takes its variable with it, which changes no
value.
-/

namespace PreimageProof

namespace LinearCombination

variable (assign : Variable → Fr)

theorem sum_insertTerm (v : Variable) (c : Fr) (terms : List Term) :
    ((insertTerm v c terms).map fun t => t.2 * assign t.1).sum =
      (terms.map fun t => t.2 * assign t.1).sum + c * assign v := by
  induction terms with
  | nil =>
      rw [insertTerm]
      split
      · next hc => simp [hc]
      · simp
  | cons t rest ih =>
      rw [insertTerm]
      split
      · next hv =>
          split
          · next hsum =>
              have hcancel : t.2 * assign v + c * assign v = 0 := by
                rw [← add_mul, hsum, zero_mul]
              simp only [List.map_cons, List.sum_cons, ← hv]
              linear_combination -hcancel
          · simp only [List.map_cons, List.sum_cons, ← hv]
            ring
      · split
        · split
          · next hc => simp [hc]
          · simp only [List.map_cons, List.sum_cons]
            ring
        · simp only [List.map_cons, List.sum_cons, ih]
          ring

@[simp] theorem value_zero : (0 : LinearCombination).value assign = 0 := rfl

@[simp] theorem value_addTerm (a : LinearCombination) (v : Variable) (c : Fr) :
    (a.addTerm v c).value assign = a.value assign + c * assign v :=
  sum_insertTerm assign v c a.terms

@[simp] theorem value_ofTerm (v : Variable) (c : Fr) :
    (ofTerm v c).value assign = c * assign v :=
  (value_addTerm assign zero v c).trans (zero_add _)

@[simp] theorem value_ofVariable (v : Variable) : (ofVariable v).value assign = assign v := by
  rw [ofVariable, value_ofTerm, one_mul]

@[simp] theorem value_constant (c : Fr) :
    (constant c).value assign = c * assign Variable.one :=
  value_ofTerm assign Variable.one c

@[simp] theorem value_add (a b : LinearCombination) :
    (a + b).value assign = a.value assign + b.value assign := by
  have hfold : ∀ (terms : List Term) (sum : LinearCombination),
      (terms.foldl (fun sum t => sum.addTerm t.1 t.2) sum).value assign =
        sum.value assign + (terms.map fun t => t.2 * assign t.1).sum := by
    intro terms
    induction terms with
    | nil => intro sum; simp
    | cons t rest ih =>
        intro sum
        rw [List.foldl_cons, ih, value_addTerm, List.map_cons, List.sum_cons, add_assoc]
  exact hfold b.terms a

@[simp] theorem value_neg (a : LinearCombination) : (-a).value assign = -a.value assign := by
  show (List.map _ (a.terms.map fun t => (t.1, -t.2))).sum = -(a.terms.map _).sum
  rw [List.map_map]
  induction a.terms with
  | nil => simp
  | cons t rest ih =>
      simp only [List.map_cons, List.sum_cons, ih, Function.comp_apply]
      ring

@[simp] theorem value_sub (a b : LinearCombination) :
    (a - b).value assign = a.value assign - b.value assign := by
  show (a + -b).value assign = _
  rw [value_add, value_neg, sub_eq_add_neg]

/-! ## Coefficients -/

theorem coefficient_ne_zero_iff {lc : LinearCombination} {v : Variable} :
    lc.coefficient v ≠ 0 ↔ ∃ t ∈ lc.terms, t.1 = v := by
  rw [coefficient]
  cases hfind : lc.terms.find? fun t => t.1 = v with
  | none =>
      rw [List.find?_eq_none] at hfind
      refine iff_of_false (by simp) fun ⟨t, ht, hv⟩ => ?_
      exact hfind t ht (by simpa using hv)
  | some t =>
      have hmem := List.mem_of_find?_eq_some hfind
      have hv := List.find?_some hfind
      exact iff_of_true (by simpa using lc.nonzero t hmem) ⟨t, hmem, by simpa using hv⟩

end LinearCombination

end PreimageProof
