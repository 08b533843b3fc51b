import Mathlib
import PreimageProof.Groth16.Prove
import PreimageProof.Proofs.Circuit.Assignment
import PreimageProof.Proofs.Codec.Artifact
import PreimageProof.Proofs.Groth16.Keys

/-!
# Completeness

A proof made with the keys of a setup consists of elements with known
exponents, and for them the verifier's equation is the identity
`A B - C = (X ^ n - 1) H` at the secret point, once the blinding scalars have
cancelled. The identity holds because the witness satisfies the matrices of
the key, which is checked before anything is combined; and nothing else is
asked of a witness but that its values are as many as its shape says.
-/

namespace PreimageProof

open SourceOps (generate combine)

/-! ## Witnesses -/

/-- A witness comes from assigning inputs of some circuit or from some bytes. -/
inductive Witness.Obtained : Witness → Prop where
  | assigned {system : ConstraintSystem} {secrets publics : List Fr} {w : Witness}
      (h : assign system secrets publics = .ok w) : Obtained w
  | decoded {bytes : Bytes} {w : Witness} (h : Artifact.decode bytes = .ok w) : Obtained w

/-- What a check of a full assignment says. -/
theorem ConstraintSystem.check_eq_ok_iff {system : ConstraintSystem} {z : List Fr} :
    system.check z = .ok () ↔
      z.length = system.shape.width ∧ z.head? = some 1 ∧ system.matrices.Satisfied z := by
  rw [check, ← Matrices.check_eq_ok_iff]
  by_cases hlen : z.length = system.shape.width
  · by_cases hone : z.head? = some 1
    · simp [hlen, hone]
    · simp [hlen, hone]
  · simp [hlen]

theorem of_assign_eq_ok {system : ConstraintSystem} {secrets publics : List Fr} {w : Witness}
    (h : assign system secrets publics = .ok w) :
    w.shape = system.shape ∧ system.check w.values = .ok () := by
  by_cases hlengths : publics.length = system.shape.publicInputs ∧
      secrets.length = system.shape.secrets
  · rw [assign_of_lengths hlengths.1 hlengths.2] at h
    obtain ⟨u, hcheck, h⟩ := of_bind_eq_ok h
    cases h
    exact ⟨rfl, hcheck⟩
  · obtain ⟨cause, hcause⟩ := assign_of_not_lengths hlengths
    rw [hcause] at h
    cases h

theorem satisfied_of_assign {system : ConstraintSystem} {secrets publics : List Fr} {w : Witness}
    (h : assign system secrets publics = .ok w) : system.matrices.Satisfied w.values := by
  obtain ⟨-, hcheck⟩ := of_assign_eq_ok h
  exact (ConstraintSystem.check_eq_ok_iff.1 hcheck).2.2

theorem Witness.Obtained.length_values {w : Witness} (h : w.Obtained) :
    w.values.length = w.shape.width := by
  cases h with
  | assigned h =>
      obtain ⟨hshape, hcheck⟩ := of_assign_eq_ok h
      rw [hshape]
      exact (ConstraintSystem.check_eq_ok_iff.1 hcheck).1
  | decoded h => exact (Artifact.of_decode returns_witness h).length_values

/-! ## Built systems -/

theorem ConstraintSystem.Built.publics_pos {system : ConstraintSystem} (h : system.Built) :
    0 < system.shape.publics := by
  obtain ⟨calls, hcalls⟩ := h
  rw [(Builder.lowered (Builder.completion_eq_ok hcalls).2).shape]
  exact (Builder.consistent_empty.afterAll calls).publics_pos

theorem ConstraintSystem.Built.aligned {system : ConstraintSystem} (h : system.Built) :
    system.matrices.Aligned system.shape.constraints := by
  obtain ⟨calls, hcalls⟩ := h
  exact (Builder.lowered (Builder.completion_eq_ok hcalls).2).aligned

/-! ## The prover -/

section

variable {G₁ G₂ : Type} [SourceOps G₁] [SourceOps G₂]

theorem prove_of_otherShape {pk : ProvingKey G₁ G₂} {w : Witness} (h : w.shape ≠ pk.shape)
    (blind : Blinding) : prove pk w blind = .error (.mismatch (.shapes pk.shape w.shape)) := by
  rw [prove, if_pos h]
  rfl

/-- Where witness and key fit together, the rows decide. -/
theorem prove_of_fits {pk : ProvingKey G₁ G₂} {w : Witness} {d : Domain}
    (hd : Domain.ofShape pk.shape = .ok d) (hshape : w.shape = pk.shape)
    (hlayout : pk.layoutFault = none) (hone : w.values.head? = some 1) (blind : Blinding) :
    prove pk w blind = (do
      pk.matrices.check w.values
      return combineProof pk w.values
        (QuadraticProgram.quotient pk.matrices pk.shape d w.values) blind) := by
  rw [prove, hlayout]
  simp only [hshape, hone, ne_eq, not_true_eq_false, if_false, hd]

/-- When the prover succeeds and what it makes. -/
theorem prove_eq_ok_iff {pk : ProvingKey G₁ G₂} {w : Witness} {blind : Blinding}
    {proof : Proof G₁ G₂} {d : Domain} (hd : Domain.ofShape pk.shape = .ok d) :
    prove pk w blind = .ok proof ↔
      w.shape = pk.shape ∧ pk.layoutFault = none ∧ w.values.head? = some 1 ∧
        pk.matrices.Satisfied w.values ∧
        proof = combineProof pk w.values
          (QuadraticProgram.quotient pk.matrices pk.shape d w.values) blind := by
  -- The refusals in the order the prover makes them.
  by_cases hshape : w.shape = pk.shape
  case neg =>
    refine iff_of_false (fun h => ?_) fun h => hshape h.1
    rw [prove_of_otherShape hshape] at h
    cases h
  cases hfault : pk.layoutFault with
  | some fault =>
      refine iff_of_false (fun h => ?_) (by simp)
      rw [prove, hfault] at h
      simp only [hshape, ne_eq, not_true_eq_false, if_false] at h
      cases h
  | none =>
      by_cases hone : w.values.head? = some 1
      case neg =>
        refine iff_of_false (fun h => ?_) fun h => hone h.2.2.1
        rw [prove, hfault] at h
        simp only [hshape, hone, ne_eq, not_true_eq_false, not_false_eq_true, if_false,
          if_true] at h
        cases h
      rw [prove_of_fits hd hshape hfault hone, bind_eq_ok_iff]
      constructor
      · rintro ⟨u, hcheck, h⟩
        cases h
        exact ⟨hshape, rfl, hone, Matrices.check_eq_ok_iff.1 hcheck, rfl⟩
      · rintro ⟨-, -, -, hsatisfied, rfl⟩
        exact ⟨(), Matrices.check_eq_ok_iff.2 hsatisfied, rfl⟩

/-- What fits together and is not proved violates a row, and the first one is
reported. -/
theorem prove_eq_unsatisfied {pk : ProvingKey G₁ G₂} {w : Witness} {d : Domain}
    (hd : Domain.ofShape pk.shape = .ok d) (hshape : w.shape = pk.shape)
    (hlayout : pk.layoutFault = none) (hone : w.values.head? = some 1)
    (hviolated : ¬ pk.matrices.Satisfied w.values) (blind : Blinding) :
    ∃ k, prove pk w blind = .error (.unsatisfied k) ∧
      IsLeast {k | pk.matrices.Violates w.values k} k := by
  rw [prove_of_fits hd hshape hlayout hone]
  cases hcheck : pk.matrices.check w.values with
  | ok u => exact absurd (Matrices.check_eq_ok_iff.1 hcheck) hviolated
  | error e =>
      obtain ⟨k, rfl, hleast⟩ := Matrices.check_eq_error hcheck
      exact ⟨k, rfl, hleast⟩

variable {system : ConstraintSystem} {d : Domain} {t : Trapdoor}

/-- The keys of a setup have the lengths that their shape implies. -/
theorem layoutFault_keysOf (hd : Domain.ofShape system.shape = .ok d)
    (haligned : system.matrices.Aligned system.shape.constraints) :
    (keysOf system d G₁ G₂ t).proving.layoutFault = none := by
  have hshape : (keysOf system d G₁ G₂ t).proving.shape = system.shape := rfl
  have hle : system.shape.publics ≤ system.shape.width := by
    rw [Shape.width]
    omega
  have hfit : ((keysOf system d G₁ G₂ t).proving.lengths d).find?
      (fun part => part.2.1 ≠ part.2.2) = none := by
    simp [ProvingKey.lengths, ProvingKey.shape, keysOf, length_powersFrom, haligned.1, hle]
  rw [ProvingKey.layoutFault, hshape, hd]
  show Option.map _ (List.find? _ _) = _
  rw [hfit]
  rfl

/-- With the keys of a setup the prover asks for nothing but a satisfying
assignment of the circuit. -/
theorem prove_keysOf_eq_ok_iff (hd : Domain.ofShape system.shape = .ok d)
    (haligned : system.matrices.Aligned system.shape.constraints) {w : Witness}
    {blind : Blinding} {proof : Proof G₁ G₂} :
    prove (keysOf system d G₁ G₂ t).proving w blind = .ok proof ↔
      w.shape = system.shape ∧ w.values.head? = some 1 ∧
        system.matrices.Satisfied w.values ∧
        proof = combineProof (keysOf system d G₁ G₂ t).proving w.values
          (QuadraticProgram.quotient system.matrices system.shape d w.values) blind := by
  have hkeys : Domain.ofShape (keysOf system d G₁ G₂ t).proving.shape = .ok d := hd
  rw [prove_eq_ok_iff hkeys, layoutFault_keysOf hd haligned]
  exact and_congr_right fun _ => and_iff_right rfl

variable [LawfulSource G₁] [LawfulSource G₂]

theorem combineProof_keysOf (z h : List Fr) (blind : Blinding) :
    let a := t.alpha + inner z (columnsA system d t.tau) + blind.r * t.delta
    let b := t.beta + inner z (columnsB system d t.tau) + blind.s * t.delta
    let c := inner h (powersFrom (d.vanishing t.tau * t.delta⁻¹) t.tau (d.size - 1)) +
      inner (z.drop system.shape.publics) ((mixedColumns system d t).drop system.shape.publics) *
        t.delta⁻¹ + blind.s * a + blind.r * b + -(blind.r * blind.s * t.delta)
    combineProof (keysOf system d G₁ G₂ t).proving z h blind =
      ⟨generate a, generate b, generate c⟩ := by
  simp only [combineProof, keysOf, ProvingKey.shape, LawfulSource.combine_zip,
    LawfulSource.scale_generate, ← LawfulSource.generate_add, ← LawfulSource.generate_neg,
    inner_map_mul]

end

/-! ## The identity -/

/-- The statement of a witness, the constant in front. -/
theorem cons_publicProjection {w : Witness} (hone : w.values.head? = some 1)
    (hpos : 0 < w.shape.publics) :
    1 :: w.publicProjection.inputs = w.values.take w.shape.publics := by
  obtain ⟨rest, hvalues⟩ := List.head?_eq_some_iff.1 hone
  obtain ⟨n, hn⟩ := Nat.exists_eq_add_one_of_ne_zero hpos.ne'
  rw [Witness.publicProjection, hvalues, hn]
  rfl

/-- What the three elements of a proof satisfy. `u`, `v` and `w` stand for the
three matrices at the secret point, `pub` and `priv` for the two parts of their
mixture, and `quot` for the quotient there. -/
theorem blinding_cancels {alpha beta delta r s u v w pub priv quot target : Fr}
    (hdelta : delta ≠ 0) (hmixed : pub + priv = beta * u + alpha * v + w)
    (hquot : u * v - w = target * quot) :
    (alpha + u + r * delta) * (beta + v + s * delta) - pub -
      (target * delta⁻¹ * quot + priv * delta⁻¹ + s * (alpha + u + r * delta) +
        r * (beta + v + s * delta) + -(r * s * delta)) * delta = alpha * beta := by
  have hinv : delta⁻¹ * delta = 1 := inv_mul_cancel₀ hdelta
  have hpub : pub = beta * u + alpha * v + w - priv := eq_sub_of_add_eq hmixed
  have hw : w = u * v - target * quot := by
    rw [← hquot]
    ring
  rw [hpub, hw]
  linear_combination (-(target * quot) - priv) * hinv

section

variable {system : ConstraintSystem} {d : Domain} {t : Trapdoor}

/-- The verifier's equation for the exponents of a proof. -/
theorem proof_equation (husable : t.Usable d)
    (haligned : system.matrices.Aligned system.shape.constraints) {z : List Fr}
    (hz : z.length = system.shape.width) (hsatisfied : system.matrices.Satisfied z)
    (blind : Blinding) :
    let h := QuadraticProgram.quotient system.matrices system.shape d z
    let a := t.alpha + inner z (columnsA system d t.tau) + blind.r * t.delta
    let b := t.beta + inner z (columnsB system d t.tau) + blind.s * t.delta
    let c := inner h (powersFrom (d.vanishing t.tau * t.delta⁻¹) t.tau (d.size - 1)) +
      inner (z.drop system.shape.publics) ((mixedColumns system d t).drop system.shape.publics) *
        t.delta⁻¹ + blind.s * a + blind.r * b + -(blind.r * blind.s * t.delta)
    a * b - inner (z.take system.shape.publics)
      ((mixedColumns system d t).take system.shape.publics) - c * t.delta =
        t.alpha * t.beta := by
  intro h a b c
  obtain ⟨hlen, hresidual⟩ := QuadraticProgram.residual_eq_quotient system.shape d
    hsatisfied haligned
  have hpoint := QuadraticProgram.eval_residual system.matrices system.shape.publics hz.le
    husable.outside
  have hquot : inner z (columnsA system d t.tau) * inner z (columnsB system d t.tau) -
      inner z (columnsC system d t.tau) =
        d.vanishing t.tau * (ofCoefficients h).eval t.tau := by
    rw [← Domain.eval_target, ← Polynomial.eval_mul, ← hresidual, hpoint]
    rfl
  have hmixed := inner_take_add_drop system.shape.publics z (mixedColumns system d t)
  rw [mixedColumns, inner_mix z (by simp) (by simp), ← mixedColumns] at hmixed
  have hpowers : inner h (powersFrom (d.vanishing t.tau * t.delta⁻¹) t.tau (d.size - 1)) =
      d.vanishing t.tau * t.delta⁻¹ * (ofCoefficients h).eval t.tau := by
    rw [inner_powersFrom, List.take_of_length_le hlen.le]
  simp only [a, b, c, hpowers]
  exact blinding_cancels husable.delta_ne_zero hmixed hquot

end

/-! ## Completeness -/

/-- Proofs made with the keys of a setup are accepted, and whoever has an
assignment of the circuit of the keys can make one. -/
theorem groth16_complete {G₁ G₂ GT : Type} [SourceOps G₁] [SourceOps G₂]
    [PairingOps G₁ G₂ GT] [DecidableEq GT] [LawfulSource G₁] [LawfulSource G₂]
    [BilinearPairing G₁ G₂] {system : ConstraintSystem} (hbuilt : system.Built) {t : Trapdoor}
    {keys : Keys G₁ G₂} (hsetup : setup system t = .ok keys) (blind : Blinding) :
    (∀ w proof, w.Obtained → prove keys.proving w blind = .ok proof →
      keys.verifying.verify w.publicProjection proof = .ok true) ∧
    ∀ secrets publics w, assign system secrets publics = .ok w →
      ∃ proof, prove keys.proving w blind = .ok proof := by
  obtain ⟨hrows, d, hd⟩ := of_setup_eq_ok hsetup
  obtain ⟨husable, rfl⟩ := (setup_eq_ok_iff hrows hd).1 hsetup
  refine ⟨fun w proof hw hproof => ?_, fun secrets publics w hassign => ?_⟩
  · obtain ⟨hshape, hone, hsatisfied, rfl⟩ := (prove_keysOf_eq_ok_iff hd hbuilt.aligned).1 hproof
    have hlen : w.values.length = system.shape.width := by
      rw [hw.length_values, hshape]
    have hinputs : w.publicProjection.inputs.length = system.shape.publics - 1 := by
      rw [Witness.publicProjection, List.length_drop, List.length_take, hlen, hshape, Shape.width]
      omega
    have hstatement := cons_publicProjection hone (hshape ▸ hbuilt.publics_pos)
    rw [hshape] at hstatement
    rw [combineProof_keysOf]
    refine (verify_keysOf hbuilt.publics_pos husable.gamma_ne_zero hinputs _ _ _).trans ?_
    rw [hstatement, proof_equation husable hbuilt.aligned hlen hsatisfied blind, decide_eq_true rfl]
  · obtain ⟨hshape, hcheck⟩ := of_assign_eq_ok hassign
    obtain ⟨-, hone, hsatisfied⟩ := ConstraintSystem.check_eq_ok_iff.1 hcheck
    exact ⟨_, (prove_keysOf_eq_ok_iff hd hbuilt.aligned).2 ⟨hshape, hone, hsatisfied, rfl⟩⟩

/-! The circuit of a square has keys, and a proof that 9 is one is accepted. -/

def squareDomain : Domain := ⟨2, by decide⟩

theorem squareSystem_setup :
    (setup squareSystem ⟨2, 3, 5, 7, 11⟩ : Except Error (Keys Exponent Exponent)) =
      .ok (keysOf squareSystem squareDomain Exponent Exponent ⟨2, 3, 5, 7, 11⟩) := by
  have hdomain : Domain.ofShape squareSystem.shape = .ok squareDomain := by rfl
  have houtside : squareDomain.vanishing 11 ≠ 0 := by
    rw [Domain.vanishing_eq]
    show (11 : Fr) ^ 4 - 1 ≠ 0
    rw [pow_succ, pow_succ, pow_succ, pow_one]
    decide
  exact (setup_eq_ok_iff (by decide) hdomain).2 ⟨⟨by decide, by decide, houtside⟩, rfl⟩

theorem squareSystem_complete :
    ∃ keys : Keys Exponent Exponent, setup squareSystem ⟨2, 3, 5, 7, 11⟩ = .ok keys ∧
      ∃ w proof, assign squareSystem [3] [9] = .ok w ∧
        prove keys.proving w ⟨13, 17⟩ = .ok proof ∧
        keys.verifying.verify w.publicProjection proof = .ok true := by
  have hbuilt : squareSystem.Built := ⟨squareCalls, by rfl⟩
  have hassign : assign squareSystem [3] [9] = .ok ⟨squareSystem.shape, [1, 9, 3, 9]⟩ := by rfl
  obtain ⟨hverify, hprove⟩ := groth16_complete hbuilt squareSystem_setup ⟨13, 17⟩
  obtain ⟨proof, hproof⟩ := hprove [3] [9] _ hassign
  exact ⟨_, squareSystem_setup, _, proof, hassign, hproof,
    hverify _ proof (.assigned hassign) hproof⟩

end PreimageProof
