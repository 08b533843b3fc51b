import Mathlib
import PreimageProof.Proofs.Groth16.Completeness
import PreimageProof.Proofs.Polynomial.Columns

/-!
# What a verdict means

The verifier computes with negated elements, a pairing computed in advance
and a sum divided by `γ`. For a key of a setup all of this comes to one
equation between the exponents of a proof and the columns of the matrices at
the secret point. The statement enters it linearly: a proof that is accepted
for one statement is accepted for exactly those others whose difference the
columns of the public variables do not see.
-/

namespace PreimageProof

open SourceOps (generate)
open QuadraticProgram (columnPolynomial)

section

variable (system : ConstraintSystem) (d : Domain) (t : Trapdoor)

/-- `(β Aⱼ + α Bⱼ + Cⱼ)(τ)`. -/
noncomputable def mixtureAt (j : Nat) : Fr :=
  t.beta * (columnPolynomial d (system.matrices.extendedA system.shape.publics) j).eval t.tau +
    t.alpha * (columnPolynomial d system.matrices.b j).eval t.tau +
      (columnPolynomial d system.matrices.c j).eval t.tau

/-- `Σⱼ pⱼ (β Aⱼ + α Bⱼ + Cⱼ)(τ)` over the public variables, the constant first. -/
noncomputable def statementSum (p : List Fr) : Fr :=
  ∑ j ∈ Finset.range system.shape.publics, (1 :: p).getD j 0 * mixtureAt system d t j

variable {system d t}

theorem getD_mixedColumns (houtside : d.vanishing t.tau ≠ 0) {j : Nat}
    (hj : j < system.shape.width) :
    (mixedColumns system d t).getD j 0 = mixtureAt system d t j := by
  rw [mixtureAt, ← QuadraticProgram.getD_columnValues _ hj houtside,
    ← QuadraticProgram.getD_columnValues _ hj houtside,
    ← QuadraticProgram.getD_columnValues _ hj houtside, ← inner_indicator, mixedColumns,
    inner_mix _ (by simp) (by simp), inner_indicator, inner_indicator, inner_indicator]
  rfl

theorem inner_statement_eq_sum (houtside : d.vanishing t.tau ≠ 0) (p : List Fr) :
    inner (1 :: p) ((mixedColumns system d t).take system.shape.publics) =
      statementSum system d t p := by
  have hwidth : system.shape.publics ≤ system.shape.width := by
    rw [Shape.width]
    omega
  have hlen : ((mixedColumns system d t).take system.shape.publics).length =
      system.shape.publics := by
    rw [List.length_take, length_mixedColumns, Nat.min_eq_left hwidth]
  rw [inner_eq_sum, hlen, statementSum]
  refine Finset.sum_congr rfl fun j hj => ?_
  have hlt := Finset.mem_range.1 hj
  have hentry : ((mixedColumns system d t).take system.shape.publics).getD j 0 =
      (mixedColumns system d t).getD j 0 := by
    rw [List.getD_eq_getElem?_getD, List.getElem?_take_of_lt hlt, List.getD_eq_getElem?_getD]
  rw [hentry, getD_mixedColumns houtside (hlt.trans_le hwidth)]

theorem statementSum_sub (p p' : List Fr) :
    statementSum system d t p' - statementSum system d t p =
      ∑ j ∈ Finset.range system.shape.publics,
        ((1 :: p').getD j 0 - (1 :: p).getD j 0) * mixtureAt system d t j := by
  rw [statementSum, statementSum, ← Finset.sum_sub_distrib]
  exact Finset.sum_congr rfl fun j _ => (sub_mul _ _ _).symm

/-! ## The equation of a verdict -/

section

variable (G₁ G₂ : Type) {GT : Type} [SourceOps G₁] [SourceOps G₂] [PairingOps G₁ G₂ GT]
  [DecidableEq GT] [LawfulSource G₁] [LawfulSource G₂] [NondegeneratePairing G₁ G₂]

theorem verify_keysOf_eq_decide (husable : t.Usable d) (hpublics : 0 < system.shape.publics)
    {p : List Fr} (hp : p.length = system.shape.publics - 1) (a b c : Fr) :
    (keysOf system d G₁ G₂ t).verifying.verify ⟨p⟩ ⟨generate a, generate b, generate c⟩ =
      .ok (decide (a * b =
        t.alpha * t.beta + statementSum system d t p + t.delta * c)) := by
  refine (verify_keysOf hpublics husable.gamma_ne_zero hp a b c).trans ?_
  rw [inner_statement_eq_sum husable.outside, Except.ok.injEq, decide_eq_decide,
    NondegeneratePairing.pairingPower_injective.eq_iff]
  constructor
  · intro h
    linear_combination h
  · intro h
    linear_combination h

/-- Two statements share an accepted proof exactly when their sums agree. -/
theorem verify_keysOf_iff_of_accepted (husable : t.Usable d) (hpublics : 0 < system.shape.publics)
    {p p' : List Fr} (hp : p.length = system.shape.publics - 1) (hp' : p'.length = p.length)
    {a b c : Fr}
    (haccepted : (keysOf system d G₁ G₂ t).verifying.verify ⟨p⟩
      ⟨generate a, generate b, generate c⟩ = .ok true) :
    (keysOf system d G₁ G₂ t).verifying.verify ⟨p'⟩
        ⟨generate a, generate b, generate c⟩ = .ok true ↔
      statementSum system d t p' - statementSum system d t p = 0 := by
  rw [verify_keysOf_eq_decide G₁ G₂ husable hpublics hp, Except.ok.injEq,
    decide_eq_true_iff] at haccepted
  rw [verify_keysOf_eq_decide G₁ G₂ husable hpublics (hp'.trans hp), Except.ok.injEq,
    decide_eq_true_iff]
  constructor
  · intro h
    linear_combination haccepted - h
  · intro hsub
    linear_combination haccepted - hsub

end

end

/-- What it means that a proof is accepted, and for which other statements the
same proof is accepted. -/
theorem verify_decides_equation {G₁ G₂ GT : Type} [SourceOps G₁] [SourceOps G₂]
    [PairingOps G₁ G₂ GT] [DecidableEq GT] [LawfulSource G₁] [LawfulSource G₂]
    [NondegeneratePairing G₁ G₂] {system : ConstraintSystem} (hbuilt : system.Built) {t : Trapdoor}
    {keys : Keys G₁ G₂} (hsetup : setup system t = .ok keys) :
    ∃ d, Domain.ofShape system.shape = .ok d ∧
      ∀ p : List Fr, p.length = system.shape.publics - 1 → ∀ a b c : Fr,
        let proof : Proof G₁ G₂ := ⟨generate a, generate b, generate c⟩
        let verdict := decide (a * b = t.alpha * t.beta +
          ∑ j ∈ Finset.range system.shape.publics, (1 :: p).getD j 0 * mixtureAt system d t j +
            t.delta * c)
        keys.verifying.verify ⟨p⟩ proof = .ok verdict ∧
        (keys.verifying.prepare : PreparedKey G₁ G₂ GT).verify ⟨p⟩ proof = .ok verdict ∧
        (keys.verifying.verify ⟨p⟩ proof = .ok true → ∀ p' : List Fr, p'.length = p.length →
          (keys.verifying.verify ⟨p'⟩ proof = .ok true ↔
            ∑ j ∈ Finset.range system.shape.publics,
              ((1 :: p').getD j 0 - (1 :: p).getD j 0) * mixtureAt system d t j = 0)) := by
  obtain ⟨hrows, d, hd⟩ := of_setup_eq_ok hsetup
  obtain ⟨husable, rfl⟩ := (setup_eq_ok_iff hrows hd).1 hsetup
  refine ⟨d, hd, fun p hp a b c => ?_⟩
  have hverdict := verify_keysOf_eq_decide G₁ G₂ husable hbuilt.publics_pos hp a b c
  refine ⟨hverdict, hverdict, fun haccepted p' hp' => ?_⟩
  rw [← statementSum_sub]
  exact verify_keysOf_iff_of_accepted G₁ G₂ husable hbuilt.publics_pos hp hp' haccepted

/-! Whoever knows the trapdoor can find the third element of a proof that 9 is a
square; any other third element is refused. -/

theorem squareSystem_verdicts :
    ∃ keys : Keys Exponent Exponent, setup squareSystem ⟨2, 3, 5, 7, 11⟩ = .ok keys ∧
      ∃ c : Fr, keys.verifying.verify ⟨[9]⟩ ⟨generate 1, generate 1, generate c⟩ = .ok true ∧
        keys.verifying.verify ⟨[9]⟩ ⟨generate 1, generate 1, generate (c + 1)⟩ = .ok false := by
  obtain ⟨d, -, hlaw⟩ := verify_decides_equation squareSystem_built squareSystem_setup
  set sum := statementSum squareSystem d ⟨2, 3, 5, 7, 11⟩ [9]
  have hverdict : ∀ c : Fr, (keysOf squareSystem squareDomain Exponent Exponent
      ⟨2, 3, 5, 7, 11⟩).verifying.verify ⟨[9]⟩ ⟨generate 1, generate 1, generate c⟩ =
        .ok (decide (1 * 1 = 2 * 3 + sum + 7 * c)) :=
    fun c => (hlaw [9] rfl 1 1 c).1
  have hseven : (7 : Fr) ≠ 0 := by decide
  have hforged : 1 * 1 = 2 * 3 + sum + 7 * (7⁻¹ * (1 * 1 - (2 * 3 + sum))) := by
    rw [mul_inv_cancel_left₀ hseven, add_sub_cancel]
  refine ⟨_, squareSystem_setup, 7⁻¹ * (1 * 1 - (2 * 3 + sum)), ?_, ?_⟩
  · rw [hverdict, decide_eq_true hforged]
  · rw [hverdict, decide_eq_false]
    rw [mul_add, ← add_assoc, ← hforged, left_eq_add, mul_one]
    exact hseven

end PreimageProof
