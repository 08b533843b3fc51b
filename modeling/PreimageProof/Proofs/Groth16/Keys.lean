import Mathlib
import PreimageProof.Groth16.Setup
import PreimageProof.Groth16.Verify
import PreimageProof.Proofs.Groth16.Groups
import PreimageProof.Proofs.Polynomial.Divisibility

/-!
# Keys in the exponent

A setup succeeds exactly when its divisors are not zero and its point is
outside the domain, and then its keys are the elements of known exponents:
the columns of the matrices at the secret point, and their mixture
`β A + α B + C`, split at the number of public variables. For elements with
known exponents the verifier's verdict is an equation in the field.
-/

namespace PreimageProof

open SourceOps (generate combine)

/-! ## Mixed columns -/

/-- `β a + α b + c`, entry by entry. -/
def mix (alpha beta : Fr) (as bs cs : List Fr) : List Fr :=
  List.zipWith (fun ab c => ab + c) (List.zipWith (fun a b => beta * a + alpha * b) as bs) cs

section

variable {alpha beta : Fr} {as bs cs : List Fr}

theorem length_mix (hb : as.length = bs.length) (hc : as.length = cs.length) :
    (mix alpha beta as bs cs).length = as.length := by
  rw [mix, List.length_zipWith, List.length_zipWith]
  omega

theorem take_mix (n : Nat) :
    (mix alpha beta as bs cs).take n = mix alpha beta (as.take n) (bs.take n) (cs.take n) := by
  rw [mix, List.take_zipWith, List.take_zipWith, mix]

theorem drop_mix (n : Nat) :
    (mix alpha beta as bs cs).drop n = mix alpha beta (as.drop n) (bs.drop n) (cs.drop n) := by
  rw [mix, List.drop_zipWith, List.drop_zipWith, mix]

theorem inner_mix (xs : List Fr) (hb : as.length = bs.length) (hc : as.length = cs.length) :
    inner xs (mix alpha beta as bs cs) =
      beta * inner xs as + alpha * inner xs bs + inner xs cs := by
  induction as generalizing xs bs cs with
  | nil =>
      obtain rfl := List.length_eq_zero_iff.1 hb.symm
      obtain rfl := List.length_eq_zero_iff.1 hc.symm
      simp [mix]
  | cons a as ih =>
      obtain ⟨b, bs, rfl⟩ := List.exists_cons_of_length_eq_add_one hb.symm
      obtain ⟨c, cs, rfl⟩ := List.exists_cons_of_length_eq_add_one hc.symm
      cases xs with
      | nil => simp
      | cons x xs =>
          have htail := ih xs (Nat.succ.inj hb) (Nat.succ.inj hc)
          rw [mix] at htail
          simp only [mix, List.zipWith_cons_cons, inner_cons_cons, htail]
          ring

end

/-! ## The exponents of a setup -/

section

variable (system : ConstraintSystem) (d : Domain)

/-- The columns of the first matrix at a point. -/
def columnsA (tau : Fr) : List Fr :=
  QuadraticProgram.columnValues system.shape.width
    (system.matrices.extendedA system.shape.publics) (d.lagrange tau)

def columnsB (tau : Fr) : List Fr :=
  QuadraticProgram.columnValues system.shape.width system.matrices.b (d.lagrange tau)

def columnsC (tau : Fr) : List Fr :=
  QuadraticProgram.columnValues system.shape.width system.matrices.c (d.lagrange tau)

/-- The mixture of the columns that the keys of a trapdoor contain. -/
def mixedColumns (t : Trapdoor) : List Fr :=
  mix t.alpha t.beta (columnsA system d t.tau) (columnsB system d t.tau)
    (columnsC system d t.tau)

@[simp] theorem length_columnsA (tau : Fr) :
    (columnsA system d tau).length = system.shape.width :=
  QuadraticProgram.length_columnValues _ _ _

@[simp] theorem length_columnsB (tau : Fr) :
    (columnsB system d tau).length = system.shape.width :=
  QuadraticProgram.length_columnValues _ _ _

@[simp] theorem length_columnsC (tau : Fr) :
    (columnsC system d tau).length = system.shape.width :=
  QuadraticProgram.length_columnValues _ _ _

@[simp] theorem length_mixedColumns (t : Trapdoor) :
    (mixedColumns system d t).length = system.shape.width := by
  rw [mixedColumns, length_mix (by simp) (by simp), length_columnsA]

theorem inner_take_mixedColumns (t : Trapdoor) (xs : List Fr) (n : Nat) :
    inner xs ((mixedColumns system d t).take n) =
      t.beta * inner xs ((columnsA system d t.tau).take n) +
        t.alpha * inner xs ((columnsB system d t.tau).take n) +
          inner xs ((columnsC system d t.tau).take n) := by
  rw [mixedColumns, take_mix, inner_mix _ (by simp) (by simp)]

theorem inner_drop_mixedColumns (t : Trapdoor) (xs : List Fr) (n : Nat) :
    inner xs ((mixedColumns system d t).drop n) =
      t.beta * inner xs ((columnsA system d t.tau).drop n) +
        t.alpha * inner xs ((columnsB system d t.tau).drop n) +
          inner xs ((columnsC system d t.tau).drop n) := by
  rw [mixedColumns, drop_mix, inner_mix _ (by simp) (by simp)]

variable (G₁ G₂ : Type) [SourceOps G₁] [SourceOps G₂]

/-- The keys of a trapdoor, element by element. -/
def keysOf (t : Trapdoor) : Keys G₁ G₂ :=
  let vk : VerifyingKey G₁ G₂ := {
    shape := system.shape
    alpha := generate t.alpha
    beta := generate t.beta
    gamma := generate t.gamma
    delta := generate t.delta
    gammaAbc := (((mixedColumns system d t).take system.shape.publics).map
      (· * t.gamma⁻¹)).map generate }
  { verifying := vk
    proving := {
      vk := vk
      beta := generate t.beta
      delta := generate t.delta
      aQuery := (columnsA system d t.tau).map generate
      b1Query := (columnsB system d t.tau).map generate
      b2Query := (columnsB system d t.tau).map generate
      hQuery := (powersFrom (d.vanishing t.tau * t.delta⁻¹) t.tau (d.size - 1)).map generate
      lQuery := (((mixedColumns system d t).drop system.shape.publics).map
        (· * t.delta⁻¹)).map generate
      matrices := system.matrices } }

end

/-- A trapdoor a setup can use on a domain. -/
structure Trapdoor.Usable (t : Trapdoor) (d : Domain) : Prop where
  gamma_ne_zero : t.gamma ≠ 0
  delta_ne_zero : t.delta ≠ 0
  outside : d.vanishing t.tau ≠ 0

section

variable {G₁ G₂ : Type} [SourceOps G₁] [SourceOps G₂] {system : ConstraintSystem} {d : Domain}
  {t : Trapdoor}

theorem deriveKeys_of_usable (h : t.Usable d) :
    deriveKeys system d t = .ok (keysOf system d G₁ G₂ t) := by
  obtain ⟨hgamma, hdelta, houtside⟩ := h
  simp only [deriveKeys, QuadraticProgram.evaluateAt, if_neg hgamma, if_neg hdelta,
    if_neg houtside]
  simp only [keysOf, mixedColumns, mix, columnsA, columnsB, columnsC, List.map_map]
  rfl

theorem usable_of_deriveKeys {keys : Keys G₁ G₂} (h : deriveKeys system d t = .ok keys) :
    t.Usable d := by
  rw [deriveKeys] at h
  by_cases hgamma : t.gamma = 0
  · rw [if_pos hgamma] at h
    cases h
  by_cases hdelta : t.delta = 0
  · rw [if_neg hgamma, if_pos hdelta] at h
    cases h
  by_cases houtside : d.vanishing t.tau = 0
  · rw [if_neg hgamma, if_neg hdelta, QuadraticProgram.evaluateAt, if_pos houtside] at h
    cases h
  exact ⟨hgamma, hdelta, houtside⟩

theorem setup_of_domain (hrows : system.shape.constraints ≠ 0)
    (hd : Domain.ofShape system.shape = .ok d) :
    (setup system t : Except Error (Keys G₁ G₂)) = (deriveKeys system d t).mapError .setup := by
  rw [setup, if_neg hrows, hd]

/-- When a setup succeeds and what it makes. -/
theorem setup_eq_ok_iff {keys : Keys G₁ G₂} (hrows : system.shape.constraints ≠ 0)
    (hd : Domain.ofShape system.shape = .ok d) :
    setup system t = .ok keys ↔ t.Usable d ∧ keys = keysOf system d G₁ G₂ t := by
  rw [setup_of_domain hrows hd]
  constructor
  · intro h
    cases hkeys : (deriveKeys system d t : Except SetupError (Keys G₁ G₂)) with
    | error e =>
        rw [hkeys] at h
        cases h
    | ok keys' =>
        rw [hkeys] at h
        cases h
        have husable := usable_of_deriveKeys hkeys
        rw [deriveKeys_of_usable husable] at hkeys
        cases hkeys
        exact ⟨husable, rfl⟩
  · rintro ⟨husable, rfl⟩
    rw [deriveKeys_of_usable husable]
    rfl

theorem of_setup_eq_ok {keys : Keys G₁ G₂} (h : setup system t = .ok keys) :
    system.shape.constraints ≠ 0 ∧ ∃ d, Domain.ofShape system.shape = .ok d := by
  rw [setup] at h
  split at h
  · cases h
  · next hrows =>
      cases hd : Domain.ofShape system.shape with
      | error e =>
          rw [hd] at h
          cases h
      | ok d => exact ⟨hrows, d, rfl⟩

end

/-! ## The verdict -/

section

variable {G : Type} [SourceOps G] [LawfulSource G]

theorem checkPoint_generate (part : String) (group : SourceGroup) (x : Fr) :
    checkPoint part group (generate x : G) = .ok () := by
  rw [checkPoint, if_pos (LawfulSource.isValid_generate x)]

theorem forM_checkPoint_generate (part : String) (group : SourceGroup) (xs : List Fr) :
    (xs.map (generate : Fr → G)).forM (checkPoint part group) = .ok () := by
  induction xs with
  | nil => rfl
  | cons x xs ih =>
      rw [List.map_cons, List.forM_eq_forM, List.forM_cons, checkPoint_generate]
      exact ih

end

section

variable {G₁ G₂ GT : Type} [SourceOps G₁] [SourceOps G₂] [PairingOps G₁ G₂ GT]

omit [SourceOps G₂] in
theorem accumulate_generate [LawfulSource G₁] (vk : VerifyingKey G₁ G₂) {x : Fr} {xs : List Fr}
    (h : vk.gammaAbc = (x :: xs).map generate) (inputs : List Fr) :
    vk.accumulate inputs = generate (inner (1 :: inputs) (x :: xs)) := by
  rw [VerifyingKey.accumulate, h, List.map_cons, List.tail_cons, LawfulSource.combine_zip,
    inner_cons_cons, one_mul, LawfulSource.generate_add]
  rfl

variable {system : ConstraintSystem} {d : Domain} {t : Trapdoor}

theorem length_gammaAbc_keysOf :
    (keysOf system d G₁ G₂ t).verifying.gammaAbc.length = system.shape.publics := by
  simp [keysOf, Shape.width]
  omega

theorem accumulate_keysOf [LawfulSource G₁] (hpublics : 0 < system.shape.publics)
    (inputs : List Fr) :
    (keysOf system d G₁ G₂ t).verifying.accumulate inputs =
      generate (inner (1 :: inputs) ((mixedColumns system d t).take system.shape.publics) *
        t.gamma⁻¹) := by
  have hlen : (((mixedColumns system d t).take system.shape.publics).map
      (· * t.gamma⁻¹)).length = system.shape.publics := by
    simp [Shape.width]
    omega
  rw [← inner_map_mul]
  cases hvalues : ((mixedColumns system d t).take system.shape.publics).map
      (· * t.gamma⁻¹) with
  | nil =>
      rw [hvalues] at hlen
      exact absurd hlen.symm hpublics.ne'
  | cons x xs => exact accumulate_generate _ (congrArg (List.map generate) hvalues) inputs

/-- The product of the verifier in the exponent. -/
theorem product_keysOf [LawfulSource G₂] [BilinearPairing G₁ G₂] (hgamma : t.gamma ≠ 0)
    (a b c acc : Fr) :
    PairingOps.product [((generate a : G₁), (generate b : G₂)),
      (generate (acc * t.gamma⁻¹), -generate t.gamma), (generate c, -generate t.delta)] =
      pairingPower G₁ G₂ (a * b - acc - c * t.delta) := by
  have hproduct := product_generate G₁ G₂
    [(a, b), (acc * t.gamma⁻¹, -t.gamma), (c, -t.delta)]
  simp only [List.map_cons, List.map_nil, LawfulSource.generate_neg] at hproduct
  rw [hproduct]
  congr 1
  simp only [List.sum_cons, List.sum_nil]
  rw [mul_neg, mul_assoc, inv_mul_cancel₀ hgamma]
  ring

variable [LawfulSource G₁] [LawfulSource G₂]

theorem check_keysOf (hpublics : 0 < system.shape.publics) :
    (keysOf system d G₁ G₂ t).verifying.check = .ok () := by
  have hlen : (keysOf system d G₁ G₂ t).verifying.gammaAbc.length = system.shape.publics :=
    length_gammaAbc_keysOf
  have hne : (keysOf system d G₁ G₂ t).verifying.gammaAbc.isEmpty = false := by
    rw [List.isEmpty_eq_false_iff, ← List.length_pos_iff, hlen]
    exact hpublics
  have hcount : ¬ ((keysOf system d G₁ G₂ t).verifying.gammaAbc.isEmpty ||
      decide ((keysOf system d G₁ G₂ t).verifying.gammaAbc.length ≠ system.shape.publics)) := by
    simp [hne, hlen]
  rw [VerifyingKey.check]
  refine (if_neg hcount).trans ?_
  simp only [keysOf, checkPoint_generate, forM_checkPoint_generate]
  rfl

theorem check_generate (a b c : Fr) :
    (⟨generate a, generate b, generate c⟩ : Proof G₁ G₂).check = .ok () := by
  simp only [Proof.check, checkPoint_generate]
  rfl

/-- The verdict on a proof with known exponents. -/
theorem verify_keysOf [BilinearPairing G₁ G₂] [DecidableEq GT]
    (hpublics : 0 < system.shape.publics) (hgamma : t.gamma ≠ 0)
    {p : List Fr} (hp : p.length = system.shape.publics - 1) (a b c : Fr) :
    (keysOf system d G₁ G₂ t).verifying.verify ⟨p⟩ ⟨generate a, generate b, generate c⟩ =
      .ok (decide (pairingPower G₁ G₂ (a * b -
        inner (1 :: p) ((mixedColumns system d t).take system.shape.publics) - c * t.delta) =
          pairingPower G₁ G₂ (t.alpha * t.beta))) := by
  have hcount : (keysOf system d G₁ G₂ t).verifying.publicInputs = system.shape.publics - 1 :=
    congrArg (· - 1) length_gammaAbc_keysOf
  have htarget : PairingOps.product [((generate t.alpha : G₁), (generate t.beta : G₂))] =
      pairingPower G₁ G₂ (t.alpha * t.beta) := by
    have hproduct := product_generate G₁ G₂ [(t.alpha, t.beta)]
    simpa only [List.map_cons, List.map_nil, List.sum_cons, List.sum_nil, add_zero]
      using hproduct
  have hacc : (keysOf system d G₁ G₂ t).verifying.accumulate p = _ :=
    accumulate_keysOf hpublics p
  rw [← htarget, ← product_keysOf hgamma, ← hacc]
  simp only [VerifyingKey.verify, PreparedKey.verify, VerifyingKey.prepare,
    check_keysOf hpublics, check_generate, hcount, hp]
  simp
  rfl

end

end PreimageProof
