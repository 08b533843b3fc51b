import Mathlib
import PreimageProof.Proofs.Field.InnerProduct

/-!
# The transform evaluates polynomials

A list of coefficients is read as a polynomial, and each list operation of
the evaluation domains is said as what it does to that polynomial: scaling by
powers substitutes `g * X`, dealing splits into even and odd part, and the
transform at a primitive root of unity of order `2 ^ k` lists the values at
its powers. The step of the transform is the split `f (x) = E (x²) + x O (x²)`
read at `ω ^ i` and at `ω ^ (i + 2 ^ k) = -ω ^ i`.
-/

namespace PreimageProof

open Polynomial

/-! ## Coefficients -/

/-- The polynomial with the given coefficients, the constant first. -/
noncomputable def ofCoefficients : List Fr → Fr[X]
  | [] => 0
  | c :: rest => C c + X * ofCoefficients rest

@[simp] theorem ofCoefficients_nil : ofCoefficients [] = 0 := rfl

@[simp] theorem ofCoefficients_cons (c : Fr) (rest : List Fr) :
    ofCoefficients (c :: rest) = C c + X * ofCoefficients rest := rfl

theorem coeff_ofCoefficients (cs : List Fr) (i : Nat) :
    (ofCoefficients cs).coeff i = cs.getD i 0 := by
  induction cs generalizing i with
  | nil => simp
  | cons c rest ih =>
      cases i with
      | zero => simp
      | succ i => simp [ih]

theorem degree_ofCoefficients_lt (cs : List Fr) :
    (ofCoefficients cs).degree < cs.length := by
  rw [degree_lt_iff_coeff_zero]
  intro i hi
  rw [coeff_ofCoefficients, List.getD_eq_default _ _ hi]

/-! ## Powers -/

theorem getD_map_range {α : Type} {n i : Nat} (h : i < n) (f : Nat → α) {x : α} :
    ((List.range n).map f).getD i x = f i := by
  simp [h]

@[simp] theorem length_powersFrom (s g : Fr) (n : Nat) : (powersFrom s g n).length = n := by
  induction n generalizing s with
  | zero => rfl
  | succ n ih => rw [powersFrom, List.length_cons, ih]

theorem powersFrom_eq_map (s g : Fr) (n : Nat) :
    powersFrom s g n = (List.range n).map fun i => s * g ^ i := by
  induction n generalizing s with
  | zero => rfl
  | succ n ih =>
      rw [powersFrom, ih, List.range_succ_eq_map, List.map_cons, List.map_map, pow_zero, mul_one]
      congr 1
      refine List.map_congr_left fun i _ => ?_
      simp only [Function.comp_apply, Nat.succ_eq_add_one, pow_succ]
      ring

theorem powers_eq_map (g : Fr) (n : Nat) : powers g n = (List.range n).map (g ^ ·) := by
  simp [powers, powersFrom_eq_map]

/-- A sum of multiples of powers is the value of a polynomial. -/
theorem inner_powersFrom (cs : List Fr) (s x : Fr) (n : Nat) :
    inner cs (powersFrom s x n) = s * (ofCoefficients (cs.take n)).eval x := by
  induction n generalizing cs s with
  | zero => simp [powersFrom]
  | succ n ih =>
      cases cs with
      | nil => simp
      | cons c cs =>
          rw [powersFrom, inner_cons_cons, ih, List.take_succ_cons, ofCoefficients_cons]
          simp only [eval_add, eval_C, eval_mul, eval_X]
          ring

theorem eval_ofCoefficients (cs : List Fr) (x : Fr) :
    (ofCoefficients cs).eval x = ∑ i ∈ Finset.range cs.length, cs.getD i 0 * x ^ i := by
  have h := inner_powersFrom cs 1 x cs.length
  rw [List.take_length, one_mul, inner_eq_sum, length_powersFrom] at h
  rw [← h]
  refine Finset.sum_congr rfl fun i hi => ?_
  rw [powersFrom_eq_map, getD_map_range (Finset.mem_range.1 hi), one_mul]

/-! ## Scaling and dealing -/

@[simp] theorem length_scaleByPowers (g : Fr) (xs : List Fr) :
    (scaleByPowers g xs).length = xs.length := by
  simp [scaleByPowers, powers]

theorem eval_scaleByPowers (g x : Fr) (cs : List Fr) :
    (ofCoefficients (scaleByPowers g cs)).eval x = (ofCoefficients cs).eval (g * x) := by
  have hgen : ∀ s, (ofCoefficients (List.zipWith (· * ·) cs (powersFrom s g cs.length))).eval x
      = s * (ofCoefficients cs).eval (g * x) := by
    induction cs with
    | nil => simp
    | cons c cs ih =>
        intro s
        simp only [List.length_cons, powersFrom, List.zipWith_cons_cons, ofCoefficients_cons,
          eval_add, eval_C, eval_mul, eval_X, ih]
        ring
  rw [scaleByPowers, powers, hgen, one_mul]

theorem scaleByPowers_map_range (g : Fr) (n : Nat) (f : Nat → Fr) :
    scaleByPowers g ((List.range n).map f) = (List.range n).map fun i => f i * g ^ i := by
  simp [scaleByPowers, powers_eq_map, List.zipWith_map]

/-- The even part at `x²`, and `x` times the odd part there. -/
theorem eval_deal (cs : List Fr) (x : Fr) :
    (ofCoefficients (deal cs).1).eval (x * x) + x * (ofCoefficients (deal cs).2).eval (x * x) =
      (ofCoefficients cs).eval x := by
  induction cs using deal.induct with
  | case1 => simp [deal]
  | case2 c => simp [deal]
  | case3 c d rest ih =>
      simp only [deal, ofCoefficients_cons, eval_add, eval_C, eval_mul, eval_X, ← ih]
      ring

theorem length_deal {α : Type} (xs : List α) (n : Nat) (h : xs.length = 2 * n) :
    (deal xs).1.length = n ∧ (deal xs).2.length = n := by
  induction xs using deal.induct generalizing n with
  | case1 =>
      have hn : n = 0 := by simpa using h
      simp [deal, hn]
  | case2 x =>
      rw [List.length_singleton] at h
      omega
  | case3 x y rest ih =>
      simp only [List.length_cons] at h
      obtain ⟨heven, hodd⟩ := ih (n - 1) (by omega)
      simp only [deal, List.length_cons, heven, hodd]
      omega

/-! ## The transform -/

theorem pow_half_eq_neg_one {k : Nat} {root : Fr} (h : IsPrimitiveRoot root (2 ^ (k + 1))) :
    root ^ 2 ^ k = -1 :=
  (h.pow (by positivity) (pow_succ 2 k)).eq_neg_one_of_two_right

/-- The transform lists the values at the powers of the root. -/
theorem transform_eq {k : Nat} {root : Fr} (hroot : IsPrimitiveRoot root (2 ^ k))
    {cs : List Fr} (hlen : cs.length = 2 ^ k) :
    transform k root cs =
      (List.range (2 ^ k)).map fun i => (ofCoefficients cs).eval (root ^ i) := by
  induction k generalizing root cs with
  | zero =>
      obtain ⟨c, rfl⟩ := List.length_eq_one_iff.1 (by simpa using hlen)
      simp [transform]
  | succ k ih =>
      have hsquare : IsPrimitiveRoot (root * root) (2 ^ k) := by
        rw [← sq]
        exact hroot.pow (by positivity) (pow_succ' 2 k)
      have hhalf := pow_half_eq_neg_one hroot
      obtain ⟨heven, hodd⟩ := length_deal cs (2 ^ k) (by rw [hlen, pow_succ'])
      have hpow : ∀ i, (root * root) ^ i = root ^ i * root ^ i := fun i => mul_pow root root i
      simp only [transform, ih hsquare heven, ih hsquare hodd, scaleByPowers_map_range,
        List.zipWith_map, List.zipWith_self, hpow]
      rw [pow_succ, mul_two, List.range_add, List.map_append, List.map_map]
      congr 1
      · refine List.map_congr_left fun i _ => ?_
        rw [← eval_deal cs]
        ring
      · refine List.map_congr_left fun i _ => ?_
        rw [Function.comp_apply, ← eval_deal cs, pow_add, hhalf]
        ring_nf

end PreimageProof
