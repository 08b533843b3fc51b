import Mathlib
import PreimageProof.Proofs.Groth16.Completeness

/-!
# Proofs reveal only the statement

Two witnesses of one statement give proofs that differ in the blinding alone.
The first two elements of a proof are affine in the two blinding scalars, with
the slope `δ`, so a shift of the blinding by the difference of the witnesses
there, divided by `δ`, makes them agree; and the verifier's equation, which
both proofs satisfy, leaves no choice for the third element once the first two
and the statement are given. The shift permutes the blindings. Hence the
proofs of the two witnesses are the same, each as often as the other.
-/

namespace PreimageProof

open SourceOps (generate)

/-! ## Blindings -/

namespace Blinding

/-- Both scalars, moved. -/
def shift (r s : Fr) : Blinding ≃ Blinding where
  toFun blind := ⟨blind.r + r, blind.s + s⟩
  invFun blind := ⟨blind.r - r, blind.s - s⟩
  left_inv blind := by simp
  right_inv blind := by simp

@[simp] theorem shift_zero (blind : Blinding) : shift 0 0 blind = blind := by
  simp [shift]

instance : Fintype Blinding :=
  Fintype.ofEquiv (Fr × Fr) ⟨fun p => ⟨p.1, p.2⟩, fun b => (b.r, b.s), fun _ => rfl, fun _ => rfl⟩

instance : Nonempty Blinding := ⟨⟨0, 0⟩⟩

end Blinding

/-- What is uniform stays so when it is permuted. -/
theorem map_uniform_perm {α : Type} [Fintype α] [Nonempty α] (e : α ≃ α) :
    (PMF.uniformOfFintype α).map e = PMF.uniformOfFintype α := by
  ext x
  rw [PMF.map_apply, tsum_eq_single (e.symm x)]
  · simp
  · intro y hy
    rw [if_neg]
    rintro rfl
    exact hy (e.symm_apply_apply y).symm

/-! ## Proofs by their exponents -/

section

variable (system : ConstraintSystem) (d : Domain) (t : Trapdoor)

/-- The exponent of the first element of a proof. -/
def exponentA (z : List Fr) (r : Fr) : Fr :=
  t.alpha + inner z (columnsA system d t.tau) + r * t.delta

/-- The exponent of the second element. -/
def exponentB (z : List Fr) (s : Fr) : Fr :=
  t.beta + inner z (columnsB system d t.tau) + s * t.delta

/-- What the statement contributes to the verifier's equation. -/
def statementExponent (z : List Fr) : Fr :=
  inner (z.take system.shape.publics) ((mixedColumns system d t).take system.shape.publics)

variable {system d t}

/-- The blindings that make the first elements of two witnesses agree. -/
theorem exponentA_eq_iff (hdelta : t.delta ≠ 0) (z₁ z₂ : List Fr) (r r' : Fr) :
    exponentA system d t z₁ r = exponentA system d t z₂ r' ↔
      r' = r + (inner z₁ (columnsA system d t.tau) - inner z₂ (columnsA system d t.tau)) *
        t.delta⁻¹ := by
  rw [← sub_eq_iff_eq_add', eq_mul_inv_iff_mul_eq₀ hdelta, exponentA, exponentA]
  constructor
  · intro h
    linear_combination -h
  · intro h
    linear_combination -h

theorem exponentB_eq_iff (hdelta : t.delta ≠ 0) (z₁ z₂ : List Fr) (s s' : Fr) :
    exponentB system d t z₁ s = exponentB system d t z₂ s' ↔
      s' = s + (inner z₁ (columnsB system d t.tau) - inner z₂ (columnsB system d t.tau)) *
        t.delta⁻¹ := by
  rw [← sub_eq_iff_eq_add', eq_mul_inv_iff_mul_eq₀ hdelta, exponentB, exponentB]
  constructor
  · intro h
    linear_combination -h
  · intro h
    linear_combination -h

/-- A witness the prover accepts with the keys of a setup. -/
structure Provable (system : ConstraintSystem) (w : Witness) : Prop where
  shape : w.shape = system.shape
  length : w.values.length = system.shape.width
  one : w.values.head? = some 1
  satisfied : system.matrices.Satisfied w.values

theorem provable_of_assign {secrets publics : List Fr} {w : Witness}
    (h : assign system secrets publics = .ok w) : Provable system w := by
  obtain ⟨hshape, hcheck⟩ := of_assign_eq_ok h
  obtain ⟨hlength, hone, hsatisfied⟩ := ConstraintSystem.check_eq_ok_iff.1 hcheck
  exact ⟨hshape, hlength, hone, hsatisfied⟩

variable {G₁ G₂ : Type} [SourceOps G₁] [SourceOps G₂]

theorem provable_of_prove (hd : Domain.ofShape system.shape = .ok d)
    (haligned : system.matrices.Aligned system.shape.constraints) {w : Witness}
    (hw : w.Obtained) {blind : Blinding} {proof : Proof G₁ G₂}
    (h : prove (keysOf system d G₁ G₂ t).proving w blind = .ok proof) : Provable system w := by
  obtain ⟨hshape, hone, hsatisfied, -⟩ := (prove_keysOf_eq_ok_iff hd haligned).1 h
  exact ⟨hshape, by rw [hw.length_values, hshape], hone, hsatisfied⟩

variable (G₁ G₂) [LawfulSource G₁] [LawfulSource G₂]

/-- The three elements of a proof: two carry the blinding, and the verifier's
equation says what the third one is. -/
theorem prove_eq_exponents (husable : t.Usable d) (hd : Domain.ofShape system.shape = .ok d)
    (haligned : system.matrices.Aligned system.shape.constraints) {w : Witness}
    (hw : Provable system w) (blind : Blinding) :
    ∃ c : Fr,
      prove (keysOf system d G₁ G₂ t).proving w blind =
        .ok ⟨generate (exponentA system d t w.values blind.r),
          generate (exponentB system d t w.values blind.s), generate c⟩ ∧
      exponentA system d t w.values blind.r * exponentB system d t w.values blind.s -
        statementExponent system d t w.values - c * t.delta = t.alpha * t.beta := by
  have hequation := proof_equation husable haligned hw.length hw.satisfied blind
  refine ⟨_, (prove_keysOf_eq_ok_iff hd haligned).2 ⟨hw.shape, hw.one, hw.satisfied, ?_⟩,
    hequation⟩
  rw [combineProof_keysOf]
  rfl

end

section

variable (G₁ G₂ : Type) [SourceOps G₁] [SourceOps G₂] [PrimeOrder G₁] [PrimeOrder G₂]
  {system : ConstraintSystem} {d : Domain} {t : Trapdoor} {w₁ w₂ : Witness}

/-- The distance between the blindings of two witnesses. -/
def blindingShift (system : ConstraintSystem) (d : Domain) (t : Trapdoor) (w₁ w₂ : Witness) :
    Blinding ≃ Blinding :=
  Blinding.shift
    ((inner w₁.values (columnsA system d t.tau) - inner w₂.values (columnsA system d t.tau)) *
      t.delta⁻¹)
    ((inner w₁.values (columnsB system d t.tau) - inner w₂.values (columnsB system d t.tau)) *
      t.delta⁻¹)

/-- Two witnesses of one statement give the same proof exactly when their
blindings differ by the shift. -/
theorem prove_eq_prove_iff (husable : t.Usable d) (hd : Domain.ofShape system.shape = .ok d)
    (haligned : system.matrices.Aligned system.shape.constraints) (hw₁ : Provable system w₁)
    (hw₂ : Provable system w₂)
    (hstatement : w₁.values.take system.shape.publics = w₂.values.take system.shape.publics)
    (blind blind' : Blinding) :
    prove (keysOf system d G₁ G₂ t).proving w₁ blind =
        prove (keysOf system d G₁ G₂ t).proving w₂ blind' ↔
      blind' = blindingShift system d t w₁ w₂ blind := by
  obtain ⟨c₁, hprove₁, hequation₁⟩ :=
    prove_eq_exponents G₁ G₂ husable hd haligned hw₁ blind
  obtain ⟨c₂, hprove₂, hequation₂⟩ :=
    prove_eq_exponents G₁ G₂ husable hd haligned hw₂ blind'
  rw [hprove₁, hprove₂, Except.ok.injEq, Proof.mk.injEq, PrimeOrder.generate_injective.eq_iff,
    PrimeOrder.generate_injective.eq_iff, PrimeOrder.generate_injective.eq_iff]
  obtain ⟨r', s'⟩ := blind'
  have hshift : (⟨r', s'⟩ : Blinding) = blindingShift system d t w₁ w₂ blind ↔
      exponentA system d t w₁.values blind.r = exponentA system d t w₂.values r' ∧
        exponentB system d t w₁.values blind.s = exponentB system d t w₂.values s' := by
    rw [exponentA_eq_iff husable.delta_ne_zero, exponentB_eq_iff husable.delta_ne_zero]
    exact Blinding.mk.injEq .. ▸ Iff.rfl
  rw [hshift, ← and_assoc, and_iff_left_iff_imp]
  rintro ⟨ha, hb⟩
  -- With equal first two elements and statements, the two equations differ in `c` alone.
  have hsame : statementExponent system d t w₁.values = statementExponent system d t w₂.values := by
    rw [statementExponent, statementExponent, hstatement]
  refine mul_right_cancel₀ husable.delta_ne_zero ?_
  rw [ha, hb, hsame] at hequation₁
  linear_combination hequation₂ - hequation₁

end

/-- Which of the witnesses of a statement was used cannot be told from a proof:
every proof of one is a proof of the other, for exactly one blinding. -/
theorem groth16_zero_knowledge {G₁ G₂ : Type} [SourceOps G₁] [SourceOps G₂] [PrimeOrder G₁]
    [PrimeOrder G₂] {system : ConstraintSystem} (hbuilt : system.Built) {t : Trapdoor}
    {keys : Keys G₁ G₂} (hsetup : setup system t = .ok keys) {w₁ w₂ : Witness}
    (hw₁ : w₁.Obtained) (hw₂ : w₂.Obtained) {blind₁ blind₂ : Blinding} {proof₁ proof₂ : Proof G₁ G₂}
    (hproof₁ : prove keys.proving w₁ blind₁ = .ok proof₁)
    (hproof₂ : prove keys.proving w₂ blind₂ = .ok proof₂)
    (hstatement : w₁.publicProjection = w₂.publicProjection) :
    (∀ blind, ∃ proof, prove keys.proving w₁ blind = .ok proof) ∧
    (∀ blind, ∃! blind', prove keys.proving w₁ blind = prove keys.proving w₂ blind') ∧
    Function.Injective (prove keys.proving w₁) ∧
    Set.range (prove keys.proving w₁) = Set.range (prove keys.proving w₂) ∧
    (PMF.uniformOfFintype Blinding).map (prove keys.proving w₁) =
      (PMF.uniformOfFintype Blinding).map (prove keys.proving w₂) := by
  obtain ⟨hrows, d, hd⟩ := of_setup_eq_ok hsetup
  obtain ⟨husable, rfl⟩ := (setup_eq_ok_iff hrows hd).1 hsetup
  have h₁ := provable_of_prove hd hbuilt.aligned hw₁ hproof₁
  have h₂ := provable_of_prove hd hbuilt.aligned hw₂ hproof₂
  have htake : w₁.values.take system.shape.publics = w₂.values.take system.shape.publics := by
    have hpos := hbuilt.publics_pos
    have htake₁ := cons_publicProjection h₁.one (h₁.shape ▸ hpos)
    have htake₂ := cons_publicProjection h₂.one (h₂.shape ▸ hpos)
    rw [h₁.shape] at htake₁
    rw [h₂.shape] at htake₂
    rw [← htake₁, ← htake₂, hstatement]
  have hshift := prove_eq_prove_iff G₁ G₂ husable hd hbuilt.aligned h₁ h₂ htake
  have hself := prove_eq_prove_iff G₁ G₂ husable hd hbuilt.aligned h₁ h₁ rfl
  have hcomp : prove (keysOf system d G₁ G₂ t).proving w₁ =
      prove (keysOf system d G₁ G₂ t).proving w₂ ∘ blindingShift system d t w₁ w₂ :=
    funext fun blind => (hshift blind _).2 rfl
  refine ⟨fun blind => ?_, fun blind => ?_, fun blind blind' heq => ?_, ?_, ?_⟩
  · obtain ⟨c, hprove, -⟩ :=
      prove_eq_exponents G₁ G₂ husable hd hbuilt.aligned h₁ blind
    exact ⟨_, hprove⟩
  · exact ⟨blindingShift system d t w₁ w₂ blind, (hshift blind _).2 rfl,
      fun blind' => (hshift blind blind').1⟩
  · have hblind := (hself blind blind').1 heq
    rw [blindingShift, sub_self, sub_self, zero_mul, Blinding.shift_zero] at hblind
    exact hblind.symm
  · rw [hcomp, Set.range_comp, (blindingShift system d t w₁ w₂).surjective.range_eq,
      Set.image_univ]
  · rw [hcomp, ← PMF.map_comp, map_uniform_perm]

/-! Both 3 and -3 are square roots of 9. -/

theorem squareSystem_zero_knowledge :
    ∃ keys : Keys Exponent Exponent, setup squareSystem ⟨2, 3, 5, 7, 11⟩ = .ok keys ∧
      ∃ w₁ w₂, assign squareSystem [3] [9] = .ok w₁ ∧ assign squareSystem [-3] [9] = .ok w₂ ∧
        w₁ ≠ w₂ ∧ (∃ proof, prove keys.proving w₁ ⟨13, 17⟩ = .ok proof) ∧
        ∀ blind, ∃! blind', prove keys.proving w₁ blind = prove keys.proving w₂ blind' := by
  have hassign₁ : assign squareSystem [3] [9] = .ok ⟨squareSystem.shape, [1, 9, 3, 9]⟩ := by rfl
  have hassign₂ : assign squareSystem [-3] [9] = .ok ⟨squareSystem.shape, [1, 9, -3, 9]⟩ := by rfl
  have hdomain : Domain.ofShape squareSystem.shape = .ok squareDomain := by rfl
  obtain ⟨husable, -⟩ := (setup_eq_ok_iff (by decide) hdomain).1 squareSystem_setup
  obtain ⟨c₁, hproof₁, -⟩ := prove_eq_exponents Exponent Exponent husable hdomain
    squareSystem_built.aligned (provable_of_assign hassign₁) ⟨13, 17⟩
  obtain ⟨c₂, hproof₂, -⟩ := prove_eq_exponents Exponent Exponent husable hdomain
    squareSystem_built.aligned (provable_of_assign hassign₂) ⟨13, 17⟩
  have hlaw := groth16_zero_knowledge squareSystem_built squareSystem_setup (.assigned hassign₁)
    (.assigned hassign₂) hproof₁ hproof₂ rfl
  exact ⟨_, squareSystem_setup, _, _, hassign₁, hassign₂, by decide, ⟨_, hproof₁⟩, hlaw.2.1⟩

end PreimageProof
