import Mathlib

/-!
# Comparing coefficients

A prover who only combines published elements commits to coefficients before
any secret is known, so the verifier's equation, if it holds for every
trapdoor, holds between the coefficients. At a fixed secret point the three
elements of such a proof depend on `α` and `β` through affine functions, and
on `δ` through a few powers of it. Comparing the coefficients of `δ⁻¹` and
`δ⁰`, and in these the coefficients of `α β`, `β²`, `β`, `α` and 1, leaves
exactly one equation between the parts that the prover chose.

Only the values 0, 1, -1, 2 and -2 are substituted, which are as many as are
needed when 2 and 3 are not zero.
-/

namespace PreimageProof

/-- `constant + alpha * α + beta * β`, as a function of `α` and `β`. -/
structure Affine (F : Type) where
  constant : F
  alpha : F
  beta : F

variable {F : Type} [Field F]

def Affine.value (f : Affine F) (alpha beta : F) : F :=
  f.constant + f.alpha * alpha + f.beta * beta

/-- The two lowest coefficients of a cubic that vanishes away from zero. -/
theorem lower_coefficients_eq_zero (h2 : (2 : F) ≠ 0) (h3 : (3 : F) ≠ 0) {c₀ c₁ : F} (c₂ c₃ : F)
    (h : ∀ x ≠ 0, c₀ + c₁ * x + c₂ * x ^ 2 + c₃ * x ^ 3 = 0) : c₀ = 0 ∧ c₁ = 0 := by
  have hone := h 1 one_ne_zero
  have hneg := h (-1) (neg_ne_zero.2 one_ne_zero)
  have htwo := h 2 h2
  have hneg_two := h (-2) (neg_ne_zero.2 h2)
  have h6 : (2 : F) * 3 ≠ 0 := mul_ne_zero h2 h3
  have h12 : (2 : F) * (2 * 3) ≠ 0 := mul_ne_zero h2 h6
  constructor
  · have hzero : 2 * 3 * c₀ = 0 := by
      linear_combination 4 * hone + 4 * hneg - htwo - hneg_two
    exact (mul_eq_zero.1 hzero).resolve_left h6
  · have hzero : 2 * (2 * 3) * c₁ = 0 := by
      linear_combination 8 * hone - 8 * hneg - htwo + hneg_two
    exact (mul_eq_zero.1 hzero).resolve_left h12

/-- What is left of the verifier's equation. The first element is
`low * δ⁻¹ + mid + high * δ`, the second `b + bBeta * β + bDelta * δ`, the
third the same as the first with other coefficients, and `pub` is the element
of the statement. -/
theorem extracted_equation (h2 : (2 : F) ≠ 0) (h3 : (3 : F) ≠ 0)
    {low mid low' mid' pub : Affine F} {high high' b bBeta bDelta : F}
    (h : ∀ alpha beta delta : F, delta ≠ 0 →
      (low.value alpha beta * delta⁻¹ + mid.value alpha beta + high * delta) *
          (b + bBeta * beta + bDelta * delta) =
        alpha * beta + pub.value alpha beta +
          (low'.value alpha beta * delta⁻¹ + mid'.value alpha beta + high' * delta) * delta) :
    (pub.beta + low'.beta) * (pub.alpha + low'.alpha) = pub.constant + low'.constant := by
  -- The coefficients of the powers of `δ`, after multiplying by `δ`.
  have hdelta : ∀ alpha beta : F, low.value alpha beta * (b + bBeta * beta) = 0 ∧
      low.value alpha beta * bDelta + mid.value alpha beta * (b + bBeta * beta) -
        alpha * beta - pub.value alpha beta - low'.value alpha beta = 0 := by
    intro alpha beta
    refine lower_coefficients_eq_zero h2 h3
      (mid.value alpha beta * bDelta + high * (b + bBeta * beta) - mid'.value alpha beta)
      (high * bDelta - high') ?_
    intro delta hne
    have hinv : delta⁻¹ * delta = 1 := inv_mul_cancel₀ hne
    linear_combination delta * h alpha beta delta hne -
      (low.value alpha beta * (b + bBeta * beta) +
        (low.value alpha beta * bDelta - low'.value alpha beta) * delta) * hinv
  simp only [Affine.value] at hdelta
  obtain ⟨low₀₀, mid₀₀⟩ := hdelta 0 0
  obtain ⟨low₁₀, mid₁₀⟩ := hdelta 1 0
  obtain ⟨low₀₁, mid₀₁⟩ := hdelta 0 1
  obtain ⟨low₁₁, mid₁₁⟩ := hdelta 1 1
  obtain ⟨low₀₂, mid₀₂⟩ := hdelta 0 (-1)
  -- The second element contains `β`, and what it meets in the first is its inverse.
  have hmixed : mid.alpha * bBeta = 1 := by
    linear_combination mid₁₁ - mid₁₀ - mid₀₁ + mid₀₀
  have hbeta : bBeta ≠ 0 := right_ne_zero_of_mul_eq_one hmixed
  have hcancel : ∀ {x : F}, x * bBeta = 0 → x = 0 := fun hx =>
    (mul_eq_zero.1 hx).resolve_right hbeta
  have hhalf : ∀ {x : F}, 2 * x = 0 → x = 0 := fun hx => (mul_eq_zero.1 hx).resolve_left h2
  -- So the first contains neither `δ⁻¹` nor `β`.
  have hmid_beta : mid.beta = 0 := hcancel (hhalf (by
    linear_combination mid₀₁ + mid₀₂ - 2 * mid₀₀))
  have hlow_beta : low.beta = 0 := hcancel (hhalf (by
    linear_combination low₀₁ + low₀₂ - 2 * low₀₀))
  have hlow_alpha : low.alpha = 0 := hcancel (by
    linear_combination low₁₁ - low₁₀ - low₀₁ + low₀₀)
  have hlow : low.constant = 0 := hcancel (hhalf (by
    linear_combination low₀₁ - low₀₂ - 2 * b * hlow_beta))
  -- What is left of the coefficients of `β`, of `α` and of 1.
  have hbeta_part : pub.beta + low'.beta = mid.constant * bBeta := by
    have hzero : 2 * (mid.constant * bBeta - (pub.beta + low'.beta)) = 0 := by
      linear_combination mid₀₁ - mid₀₂ - 2 * b * hmid_beta - 2 * bDelta * hlow_beta
    exact (sub_eq_zero.1 (hhalf hzero)).symm
  have halpha_part : pub.alpha + low'.alpha = mid.alpha * b := by
    linear_combination mid₀₀ - mid₁₀ + bDelta * hlow_alpha
  have hconstant_part : pub.constant + low'.constant = mid.constant * b := by
    linear_combination bDelta * hlow - mid₀₀
  rw [hbeta_part, halpha_part, hconstant_part]
  linear_combination mid.constant * b * hmixed

end PreimageProof
