import Mathlib
import PreimageProof.Proofs.Polynomial.Transform

/-!
# Interpolation on a domain

The transform at `ω⁻¹`, divided by the size, gives the coefficients of the
one polynomial of degree below the size with the given values on the domain.
Written out, its value at `x` is `Σⱼ vⱼ (1/n) Σᵢ (ω⁻ʲ x)ⁱ`, and the inner sum
is geometric: at an element of the domain it selects one value, and outside
it is the Lagrange basis polynomial that `lagrange` lists. Both facts about
interpolation are that one sum, read at two kinds of points.
-/

namespace PreimageProof

open Polynomial

namespace Domain

variable (d : Domain)

/-! ## The root of unity -/

theorem size_eq : d.size = 2 ^ d.logSize := Nat.one_shiftLeft _

theorem size_pos : 0 < d.size := by
  rw [size_eq]
  positivity

theorem size_dvd : d.size ∣ 2 ^ 28 := by
  rw [size_eq]
  exact pow_dvd_pow 2 d.logSize_le

theorem size_le : d.size ≤ 2 ^ 28 := Nat.le_of_dvd (by positivity) d.size_dvd

theorem size_dvd_order : d.size ∣ scalarModulus - 1 :=
  d.size_dvd.trans (Nat.dvd_of_mod_eq_zero (by decide))

/-- The power `(scalarModulus - 1) / 2` of 5 is `-1`, so the root of a domain
of size `2 ^ (k + 1)` has a power `2 ^ k` that is not one. -/
theorem isPrimitiveRoot_root : IsPrimitiveRoot d.root d.size := by
  have hfull : Fr.generator ^ (scalarModulus - 1) = 1 := by
    have hsquare := congrArg (· ^ 2) Fr.generator_pow_half
    simp only [← pow_mul, neg_one_sq] at hsquare
    exact hsquare
  have hsize : d.root ^ d.size = 1 := by
    show (Fr.generator ^ ((scalarModulus - 1) / d.size)) ^ d.size = 1
    rw [← pow_mul, Nat.div_mul_cancel d.size_dvd_order, hfull]
  have hdvd := d.size_dvd_order
  rw [size_eq] at hsize hdvd ⊢
  cases hk : d.logSize with
  | zero =>
      rw [hk, pow_zero, pow_one] at hsize
      rw [hsize, pow_zero]
      exact IsPrimitiveRoot.one
  | succ k =>
      rw [hk] at hsize hdvd
      have hhalf : d.root ^ 2 ^ k = -1 := by
        obtain ⟨c, hc⟩ := hdvd
        show (Fr.generator ^ ((scalarModulus - 1) / d.size)) ^ 2 ^ k = -1
        rw [← pow_mul, ← Fr.generator_pow_half, size_eq, hk, hc]
        congr 1
        rw [Nat.mul_div_cancel_left _ (by positivity), pow_succ, mul_right_comm,
          Nat.mul_div_cancel _ (by norm_num), mul_comm]
      have hne : d.root ^ 2 ^ k ≠ 1 := by
        rw [hhalf]
        decide
      have horder := orderOf_eq_prime_pow hne hsize
      exact horder ▸ IsPrimitiveRoot.orderOf d.root

theorem root_pow_size (j : Nat) : (d.root ^ j) ^ d.size = 1 := by
  rw [← pow_mul, mul_comm, pow_mul, d.isPrimitiveRoot_root.pow_eq_one, one_pow]

theorem root_pow_ne_zero (j : Nat) : d.root ^ j ≠ 0 := by
  intro hzero
  have hone := d.root_pow_size j
  rw [hzero, zero_pow d.size_pos.ne'] at hone
  exact zero_ne_one hone

theorem natCast_size_ne_zero : ((d.size : Nat) : Fr) ≠ 0 := by
  rw [Residue.ne_zero_iff, Residue.val_natCast]
  have hlt : d.size < scalarModulus := lt_of_le_of_lt d.size_le (by decide)
  rw [Nat.mod_eq_of_lt hlt]
  exact d.size_pos.ne'

theorem vanishing_eq (x : Fr) : d.vanishing x = x ^ d.size - 1 := rfl

theorem vanishing_ne_zero_iff {x : Fr} : d.vanishing x ≠ 0 ↔ x ^ d.size ≠ 1 := by
  rw [vanishing_eq, sub_ne_zero]

/-- The vanishing polynomial has one value on a shifted domain. -/
theorem vanishing_shifted (g : Fr) (i : Nat) : d.vanishing (g * d.root ^ i) = d.vanishing g := by
  rw [vanishing_eq, mul_pow, d.root_pow_size, mul_one, vanishing_eq]

/-- The generator of the field lies outside every domain: its order is not a
power of two. -/
theorem vanishing_generator_ne_zero : d.vanishing Fr.generator ≠ 0 := by
  rw [vanishing_ne_zero_iff]
  intro hone
  have hthird : Fr.generator ^ ((scalarModulus - 1) / 3) = 1 := by
    obtain ⟨c, hc⟩ := d.size_dvd.trans
      (Nat.dvd_of_mod_eq_zero (by decide) : 2 ^ 28 ∣ (scalarModulus - 1) / 3)
    rw [hc, pow_mul, hone, one_pow]
  exact Fr.generator_pow_third_ne_one hthird

/-! ## Values and coefficients -/

theorem evaluate_eq {cs : List Fr} (hlen : cs.length = d.size) :
    d.evaluate cs =
      (List.range d.size).map fun i => (ofCoefficients cs).eval (d.root ^ i) := by
  have hroot := d.isPrimitiveRoot_root
  rw [size_eq] at hlen hroot ⊢
  exact transform_eq hroot hlen

theorem interpolate_eq {values : List Fr} (hlen : values.length = d.size) :
    d.interpolate values = (List.range d.size).map fun i =>
      (ofCoefficients values).eval (d.root⁻¹ ^ i) * ((d.size : Nat) : Fr)⁻¹ := by
  have hroot := d.isPrimitiveRoot_root.inv
  have hsize := d.size_eq
  rw [hsize] at hlen hroot
  rw [interpolate, transform_eq hroot hlen, List.map_map, ← hsize]
  rfl

theorem length_interpolate {values : List Fr} (hlen : values.length = d.size) :
    (d.interpolate values).length = d.size := by
  rw [d.interpolate_eq hlen, List.length_map, List.length_range]

/-- The polynomial of degree below the size with the given values. -/
noncomputable def interpolant (values : List Fr) : Fr[X] := ofCoefficients (d.interpolate values)

theorem degree_interpolant_lt {values : List Fr} (hlen : values.length = d.size) :
    (d.interpolant values).degree < d.size := by
  have h := degree_ofCoefficients_lt (d.interpolate values)
  rwa [d.length_interpolate hlen] at h

/-- The value of an interpolant as a sum over the values it interpolates. -/
theorem eval_interpolant {values : List Fr} (hlen : values.length = d.size) (x : Fr) :
    (d.interpolant values).eval x = ∑ j ∈ Finset.range d.size, values.getD j 0 *
      (((d.size : Nat) : Fr)⁻¹ * ∑ i ∈ Finset.range d.size, (d.root⁻¹ ^ j * x) ^ i) := by
  rw [interpolant, eval_ofCoefficients, d.length_interpolate hlen]
  have hterm : ∀ i ∈ Finset.range d.size, (d.interpolate values).getD i 0 * x ^ i =
      ∑ j ∈ Finset.range d.size,
        values.getD j 0 * (((d.size : Nat) : Fr)⁻¹ * (d.root⁻¹ ^ j * x) ^ i) := by
    intro i hi
    rw [d.interpolate_eq hlen, getD_map_range (Finset.mem_range.1 hi), eval_ofCoefficients,
      hlen, Finset.sum_mul, Finset.sum_mul]
    refine Finset.sum_congr rfl fun j _ => ?_
    rw [mul_pow, ← pow_mul, ← pow_mul, mul_comm i j]
    ring
  rw [Finset.sum_congr rfl hterm, Finset.sum_comm]
  refine Finset.sum_congr rfl fun j _ => ?_
  rw [Finset.mul_sum, Finset.mul_sum]

/-- At an element of the domain only the value given there remains. -/
theorem eval_interpolant_root {values : List Fr} (hlen : values.length = d.size) {l : Nat}
    (hl : l < d.size) : (d.interpolant values).eval (d.root ^ l) = values.getD l 0 := by
  rw [d.eval_interpolant hlen, Finset.sum_eq_single_of_mem l (Finset.mem_range.2 hl)]
  · have hself : d.root⁻¹ ^ l * d.root ^ l = 1 := by
      rw [inv_pow, inv_mul_cancel₀ (d.root_pow_ne_zero l)]
    simp only [hself, one_pow, Finset.sum_const, Finset.card_range, nsmul_eq_mul, mul_one]
    rw [inv_mul_cancel₀ d.natCast_size_ne_zero, mul_one]
  · intro j hj hne
    have hquot : d.root⁻¹ ^ j * d.root ^ l ≠ 1 := by
      rw [inv_pow]
      intro hone
      have heq : d.root ^ l = d.root ^ j := (inv_mul_eq_one₀ (d.root_pow_ne_zero j)).1 hone |>.symm
      exact hne (d.isPrimitiveRoot_root.pow_inj (Finset.mem_range.1 hj) hl heq.symm)
    have hpow : (d.root⁻¹ ^ j * d.root ^ l) ^ d.size = 1 := by
      rw [inv_pow, mul_pow, inv_pow, root_pow_size, root_pow_size, inv_one, mul_one]
    rw [geom_sum_eq hquot, hpow, sub_self, zero_div, mul_zero, mul_zero]

/-! ## The Lagrange basis -/

theorem getD_lagrange (x : Fr) {j : Nat} (hj : j < d.size) :
    (d.lagrange x).getD j 0 =
      d.vanishing x * ((d.size : Nat) : Fr)⁻¹ * d.root ^ j * (x - d.root ^ j)⁻¹ := by
  rw [lagrange, elements, powers_eq_map, List.map_map, getD_map_range hj]
  rfl

@[simp] theorem length_lagrange (x : Fr) : (d.lagrange x).length = d.size := by
  simp [lagrange, elements, powers]

theorem geom_sum_outside {x w : Fr} {n : Nat} (hw : w ≠ 0) (hwn : w ^ n = 1)
    (hxn : x ^ n ≠ 1) :
    ∑ i ∈ Finset.range n, (w⁻¹ * x) ^ i = (x ^ n - 1) * w * (x - w)⁻¹ := by
  have hne : x - w ≠ 0 := by
    intro hzero
    rw [sub_eq_zero.1 hzero] at hxn
    exact hxn hwn
  have hquot : w⁻¹ * x - 1 = (x - w) * w⁻¹ := by
    rw [sub_mul, mul_inv_cancel₀ hw, mul_comm]
  have hquot_ne : w⁻¹ * x ≠ 1 := by
    rw [← sub_ne_zero, hquot]
    exact mul_ne_zero hne (inv_ne_zero hw)
  have hpow : (w⁻¹ * x) ^ n = x ^ n := by
    rw [mul_pow, inv_pow, hwn, inv_one, one_mul]
  rw [geom_sum_eq hquot_ne, hpow, hquot, div_eq_mul_inv, mul_inv, inv_inv]
  ring

/-- Outside the domain the Lagrange basis evaluates interpolants. -/
theorem inner_lagrange {values : List Fr} (hlen : values.length = d.size) {x : Fr}
    (hx : d.vanishing x ≠ 0) :
    inner values (d.lagrange x) = (d.interpolant values).eval x := by
  rw [d.eval_interpolant hlen, inner_eq_sum, length_lagrange]
  refine Finset.sum_congr rfl fun j hj => ?_
  have hgeom := geom_sum_outside (d.root_pow_ne_zero j) (d.root_pow_size j)
    (d.vanishing_ne_zero_iff.1 hx)
  rw [d.getD_lagrange x (Finset.mem_range.1 hj), inv_pow, hgeom, vanishing_eq]
  ring

/-! ## Shifted domains -/

theorem shift_eq {values : List Fr} (hlen : values.length = d.size) (g : Fr) :
    d.shift g values =
      (List.range d.size).map fun i => (d.interpolant values).eval (g * d.root ^ i) := by
  rw [shift, d.evaluate_eq (by rw [length_scaleByPowers, d.length_interpolate hlen])]
  refine List.map_congr_left fun i _ => ?_
  rw [eval_scaleByPowers, interpolant]

theorem eval_interpolateShifted {values : List Fr} (hlen : values.length = d.size) {g : Fr}
    (hg : g ≠ 0) {i : Nat} (hi : i < d.size) :
    (ofCoefficients (d.interpolateShifted g values)).eval (g * d.root ^ i) =
      values.getD i 0 := by
  rw [interpolateShifted, eval_scaleByPowers, ← mul_assoc, inv_mul_cancel₀ hg, one_mul]
  exact d.eval_interpolant_root hlen hi

/-- Two polynomials of degree below the size that agree on a shifted domain
are equal. -/
theorem eq_of_eval_shifted {f h : Fr[X]} (hf : f.degree < d.size) (hh : h.degree < d.size)
    {g : Fr} (hg : g ≠ 0)
    (heval : ∀ i < d.size, f.eval (g * d.root ^ i) = h.eval (g * d.root ^ i)) : f = h := by
  have hinj : Set.InjOn (fun i => g * d.root ^ i) (Finset.range d.size) := by
    intro i hi j hj hij
    exact d.isPrimitiveRoot_root.injOn_pow hi hj (mul_left_cancel₀ hg hij)
  refine eq_of_degrees_lt_of_eval_index_eq _ hinj ?_ ?_ ?_
  · rwa [Finset.card_range]
  · rwa [Finset.card_range]
  · intro i hi
    exact heval i (Finset.mem_range.1 hi)

theorem eq_of_eval_root {f h : Fr[X]} (hf : f.degree < d.size) (hh : h.degree < d.size)
    (heval : ∀ i < d.size, f.eval (d.root ^ i) = h.eval (d.root ^ i)) : f = h := by
  refine d.eq_of_eval_shifted hf hh one_ne_zero fun i hi => ?_
  rw [one_mul]
  exact heval i hi

/-- A polynomial comes back from its values on a shifted domain. -/
theorem interpolateShifted_values {f : Fr[X]} (hf : f.degree < d.size) {g : Fr} (hg : g ≠ 0) :
    (d.interpolateShifted g
      ((List.range d.size).map fun i => f.eval (g * d.root ^ i))).length = d.size ∧
    ofCoefficients (d.interpolateShifted g
      ((List.range d.size).map fun i => f.eval (g * d.root ^ i))) = f := by
  have hlen : ((List.range d.size).map fun i => f.eval (g * d.root ^ i)).length = d.size := by
    rw [List.length_map, List.length_range]
  have hshifted : (d.interpolateShifted g
      ((List.range d.size).map fun i => f.eval (g * d.root ^ i))).length = d.size := by
    rw [interpolateShifted, length_scaleByPowers, d.length_interpolate hlen]
  refine ⟨hshifted, d.eq_of_eval_shifted ?_ hf hg fun i hi => ?_⟩
  · have hdegree := degree_ofCoefficients_lt (d.interpolateShifted g
      ((List.range d.size).map fun i => f.eval (g * d.root ^ i)))
    rwa [hshifted] at hdegree
  · rw [d.eval_interpolateShifted hlen hg hi, getD_map_range hi]

/-! ## The vanishing polynomial -/

/-- `X ^ n - 1`. -/
noncomputable def target : Fr[X] := X ^ d.size - 1

theorem eval_target (x : Fr) : d.target.eval x = d.vanishing x := by
  simp [target, vanishing_eq]

theorem monic_target : d.target.Monic := monic_X_pow_sub_C 1 d.size_pos.ne'

theorem degree_target : d.target.degree = d.size := degree_X_pow_sub_C d.size_pos 1

/-- The vanishing polynomial divides what is zero on the domain. -/
theorem target_dvd {f : Fr[X]} (hf : ∀ i < d.size, f.eval (d.root ^ i) = 0) : d.target ∣ f := by
  have hrem : f %ₘ d.target = 0 := by
    refine d.eq_of_eval_root ?_ ?_ fun i hi => ?_
    · rw [← d.degree_target]
      exact degree_modByMonic_lt f d.monic_target
    · rw [degree_zero]
      exact WithBot.bot_lt_coe _
    · have hsplit := congrArg (eval (d.root ^ i)) (modByMonic_add_div f d.target)
      rw [eval_add, eval_mul, eval_target, vanishing_eq, root_pow_size, sub_self, zero_mul,
        add_zero, hf i hi] at hsplit
      rw [hsplit, eval_zero]
  exact (modByMonic_eq_zero_iff_dvd d.monic_target).1 hrem

end Domain

end PreimageProof
