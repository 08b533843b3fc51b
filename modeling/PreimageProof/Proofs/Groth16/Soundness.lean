import Mathlib
import PreimageProof.Proofs.Groth16.Completeness
import PreimageProof.Proofs.Groth16.Trapdoors

/-!
# Soundness against linear provers

A prover who forms the elements of a proof as fixed linear combinations of
the elements a setup publishes, and is accepted whatever the trapdoor, has
written an assignment into the coefficients: the statement, followed by the
coefficients of `lQuery` in the third element. Comparing coefficients gives
`A B - C = (X ^ n - 1) H` for it at every secret point outside the domain,
`H` having the coefficients of `hQuery`; these are more points than the degree
of either side, so the identity holds, and every row is satisfied.
-/

namespace PreimageProof

open SourceOps (generate combine)

/-! ## Linear provers -/

/-- The coefficients of an element of the first group. Entries beyond the
length of a query do not count, and missing ones are zero. -/
structure FirstCoefficients where
  generator : Fr
  alpha : Fr
  beta : Fr
  delta : Fr
  aQuery : List Fr
  b1Query : List Fr
  hQuery : List Fr
  lQuery : List Fr
  gammaAbc : List Fr

/-- The coefficients of an element of the second group. -/
structure SecondCoefficients where
  generator : Fr
  beta : Fr
  gamma : Fr
  delta : Fr
  b2Query : List Fr

section

variable {G₁ G₂ : Type} [SourceOps G₁] [SourceOps G₂]

/-- The element with the given coefficients over what a setup publishes. -/
def FirstCoefficients.element (k : FirstCoefficients) (keys : Keys G₁ G₂) : G₁ :=
  combine [(k.generator, generate 1), (k.alpha, keys.verifying.alpha),
    (k.beta, keys.proving.beta), (k.delta, keys.proving.delta)] +
  combine (k.aQuery.zip keys.proving.aQuery) + combine (k.b1Query.zip keys.proving.b1Query) +
  combine (k.hQuery.zip keys.proving.hQuery) + combine (k.lQuery.zip keys.proving.lQuery) +
  combine (k.gammaAbc.zip keys.verifying.gammaAbc)

def SecondCoefficients.element (k : SecondCoefficients) (keys : Keys G₁ G₂) : G₂ :=
  combine [(k.generator, generate 1), (k.beta, keys.verifying.beta),
    (k.gamma, keys.verifying.gamma), (k.delta, keys.verifying.delta)] +
  combine (k.b2Query.zip keys.proving.b2Query)

end

/-! ## The elements in the exponent -/

/-- The parts of the columns that an inner product with `xs` selects. -/
def selected (xs as bs cs : List Fr) : Affine Fr := ⟨inner xs cs, inner xs bs, inner xs as⟩

section

variable (system : ConstraintSystem) (d : Domain)

/-- What a statement selects from the columns of the public variables. -/
def statementPart (xs : List Fr) (tau : Fr) : Affine Fr :=
  selected xs ((columnsA system d tau).take system.shape.publics)
    ((columnsB system d tau).take system.shape.publics)
    ((columnsC system d tau).take system.shape.publics)

/-- What coefficients select from the columns of the other variables. -/
def privatePart (xs : List Fr) (tau : Fr) : Affine Fr :=
  selected xs ((columnsA system d tau).drop system.shape.publics)
    ((columnsB system d tau).drop system.shape.publics)
    ((columnsC system d tau).drop system.shape.publics)

theorem value_statementPart (t : Trapdoor) (xs : List Fr) :
    inner xs ((mixedColumns system d t).take system.shape.publics) =
      (statementPart system d xs t.tau).value t.alpha t.beta := by
  rw [inner_take_mixedColumns, statementPart, selected, Affine.value]
  ring

theorem value_privatePart (t : Trapdoor) (xs : List Fr) :
    inner xs ((mixedColumns system d t).drop system.shape.publics) =
      (privatePart system d xs t.tau).value t.alpha t.beta := by
  rw [inner_drop_mixedColumns, privatePart, selected, Affine.value]
  ring

/-- The quotient that the coefficients of `hQuery` stand for. -/
noncomputable def FirstCoefficients.quotient (k : FirstCoefficients) : Polynomial Fr :=
  ofCoefficients (k.hQuery.take (d.size - 1))

/-- The coefficient of `δ⁻¹` in an element of the first group. -/
noncomputable def FirstCoefficients.low (k : FirstCoefficients) (tau : Fr) : Affine Fr :=
  let part := privatePart system d k.lQuery tau
  { part with constant := part.constant + d.vanishing tau * (k.quotient d).eval tau }

/-- The coefficient of `δ⁰` in an element of the first group, when `γ` is 1. -/
def FirstCoefficients.mid (k : FirstCoefficients) (tau : Fr) : Affine Fr :=
  let part := statementPart system d k.gammaAbc tau
  { constant := part.constant + k.generator + inner k.aQuery (columnsA system d tau) +
      inner k.b1Query (columnsB system d tau)
    alpha := part.alpha + k.alpha
    beta := part.beta + k.beta }

end

section

variable {G₁ G₂ : Type} [SourceOps G₁] [SourceOps G₂] {system : ConstraintSystem} {d : Domain}
  {t : Trapdoor}

theorem FirstCoefficients.element_keysOf [LawfulSource G₁] (k : FirstCoefficients) :
    k.element (keysOf system d G₁ G₂ t) =
      generate (k.generator + k.alpha * t.alpha + k.beta * t.beta + k.delta * t.delta +
        inner k.aQuery (columnsA system d t.tau) + inner k.b1Query (columnsB system d t.tau) +
        inner k.hQuery (powersFrom (d.vanishing t.tau * t.delta⁻¹) t.tau (d.size - 1)) +
        inner k.lQuery ((mixedColumns system d t).drop system.shape.publics) * t.delta⁻¹ +
        inner k.gammaAbc ((mixedColumns system d t).take system.shape.publics) *
          t.gamma⁻¹) := by
  have hsingle : combine [(k.generator, (generate 1 : G₁)), (k.alpha, generate t.alpha),
      (k.beta, generate t.beta), (k.delta, generate t.delta)] =
        generate (inner [k.generator, k.alpha, k.beta, k.delta]
          [1, t.alpha, t.beta, t.delta]) :=
    LawfulSource.combine_zip [k.generator, k.alpha, k.beta, k.delta]
      [1, t.alpha, t.beta, t.delta]
  simp only [element, keysOf, hsingle, LawfulSource.combine_zip, ← LawfulSource.generate_add,
    inner_map_mul]
  refine congrArg generate ?_
  simp only [inner_cons_cons, inner_nil_left]
  ring

theorem SecondCoefficients.element_keysOf [LawfulSource G₂] (k : SecondCoefficients) :
    k.element (keysOf system d G₁ G₂ t) =
      generate (k.generator + k.beta * t.beta + k.gamma * t.gamma + k.delta * t.delta +
        inner k.b2Query (columnsB system d t.tau)) := by
  have hsingle : combine [(k.generator, (generate 1 : G₂)), (k.beta, generate t.beta),
      (k.gamma, generate t.gamma), (k.delta, generate t.delta)] =
        generate (inner [k.generator, k.beta, k.gamma, k.delta]
          [1, t.beta, t.gamma, t.delta]) :=
    LawfulSource.combine_zip [k.generator, k.beta, k.gamma, k.delta]
      [1, t.beta, t.gamma, t.delta]
  simp only [element, keysOf, hsingle, LawfulSource.combine_zip, ← LawfulSource.generate_add]
  refine congrArg generate ?_
  simp only [inner_cons_cons, inner_nil_left]
  ring

/-- By powers of `δ`, when `γ` is 1. -/
theorem FirstCoefficients.element_of_gamma [LawfulSource G₁] (k : FirstCoefficients)
    (hgamma : t.gamma = 1) :
    k.element (keysOf system d G₁ G₂ t) =
      generate ((k.low system d t.tau).value t.alpha t.beta * t.delta⁻¹ +
        (k.mid system d t.tau).value t.alpha t.beta + k.delta * t.delta) := by
  have hpriv := value_privatePart system d t k.lQuery
  have hpub := value_statementPart system d t k.gammaAbc
  rw [element_keysOf, inner_powersFrom, hpriv, hpub, hgamma]
  refine congrArg generate ?_
  simp only [low, mid, quotient, Affine.value, inv_one]
  ring

theorem SecondCoefficients.element_of_gamma [LawfulSource G₂] (k : SecondCoefficients)
    (hgamma : t.gamma = 1) :
    k.element (keysOf system d G₁ G₂ t) =
      generate (k.generator + k.gamma + inner k.b2Query (columnsB system d t.tau) +
        k.beta * t.beta + k.delta * t.delta) := by
  rw [element_keysOf, hgamma]
  refine congrArg generate ?_
  ring

end

/-! ## The assignment in the coefficients -/

/-- As many entries as asked for, with zeros for those that are missing. -/
def fill (n : Nat) (xs : List Fr) : List Fr := xs.take n ++ List.replicate (n - xs.length) 0

theorem length_fill (n : Nat) (xs : List Fr) : (fill n xs).length = n := by
  rw [fill, List.length_append, List.length_take, List.length_replicate]
  omega

theorem inner_fill {n : Nat} {ys : List Fr} (xs : List Fr) (h : ys.length ≤ n) :
    inner (fill n xs) ys = inner xs ys := by
  rw [fill, inner_comm, inner_append_zeros, inner_comm, inner_take_left xs ys h]

section

variable (system : ConstraintSystem) (d : Domain)

/-- The statement, followed by the coefficients of `lQuery`. -/
def extracted (statement coefficients : List Fr) : List Fr :=
  statement ++ fill (system.shape.width - system.shape.publics) coefficients

theorem inner_extracted {statement : List Fr} (hlen : statement.length = system.shape.publics)
    (coefficients : List Fr) {column : List Fr} (hcolumn : column.length = system.shape.width) :
    inner (extracted system statement coefficients) column =
      inner statement (column.take system.shape.publics) +
        inner coefficients (column.drop system.shape.publics) := by
  have hsplit := inner_take_add_drop system.shape.publics
    (extracted system statement coefficients) column
  rw [← hsplit, extracted, List.take_left' hlen, List.drop_left' hlen,
    inner_fill coefficients (by rw [List.length_drop, hcolumn])]

end

section

variable {G₁ G₂ GT : Type} [SourceOps G₁] [SourceOps G₂] [PairingOps G₁ G₂ GT] [DecidableEq GT]
  [LawfulSource G₁] [LawfulSource G₂] [NondegeneratePairing G₁ G₂]

variable {system : ConstraintSystem} {d : Domain} {p : List Fr}

/-- The equation that a verdict stands for. -/
theorem equation_of_verify {t : Trapdoor} (hpublics : 0 < system.shape.publics)
    (hgamma : t.gamma ≠ 0) (hp : p.length = system.shape.publics - 1) {a b c : Fr}
    (h : (keysOf system d G₁ G₂ t).verifying.verify ⟨p⟩
      ⟨generate a, generate b, generate c⟩ = .ok true) :
    a * b = t.alpha * t.beta +
      inner (1 :: p) ((mixedColumns system d t).take system.shape.publics) + c * t.delta := by
  have hpower := (verify_keysOf hpublics hgamma hp a b c).symm.trans h
  rw [Except.ok.injEq, decide_eq_true_iff] at hpower
  have hexponent := NondegeneratePairing.pairingPower_injective hpower
  linear_combination hexponent

/-- What a prover who is always accepted has written into the coefficients, at
every point outside the domain. -/
theorem equation_of_coefficients (hpublics : 0 < system.shape.publics)
    (hrows : system.shape.constraints ≠ 0) (hd : Domain.ofShape system.shape = .ok d)
    (hp : p.length = system.shape.publics - 1)
    {a c : FirstCoefficients} {b : SecondCoefficients}
    (hverify : ∀ (t : Trapdoor) (keys : Keys G₁ G₂), setup system t = .ok keys →
      keys.verifying.verify ⟨p⟩ ⟨a.element keys, b.element keys, c.element keys⟩ = .ok true)
    {tau : Fr} (htau : d.vanishing tau ≠ 0) :
    let z := extracted system (1 :: p) c.lQuery
    inner z (columnsA system d tau) * inner z (columnsB system d tau) =
      inner z (columnsC system d tau) + d.vanishing tau * (c.quotient d).eval tau := by
  intro z
  have hstatement : (1 :: p).length = system.shape.publics := by
    rw [List.length_cons, hp]
    omega
  have hequation : ∀ alpha beta delta : Fr, delta ≠ 0 →
      ((a.low system d tau).value alpha beta * delta⁻¹ + (a.mid system d tau).value alpha beta +
          a.delta * delta) *
        (b.generator + b.gamma + inner b.b2Query (columnsB system d tau) + b.beta * beta +
          b.delta * delta) =
      alpha * beta + (statementPart system d (1 :: p) tau).value alpha beta +
        ((c.low system d tau).value alpha beta * delta⁻¹ +
          (c.mid system d tau).value alpha beta + c.delta * delta) * delta := by
    -- Trapdoors with `γ = 1` are enough; `δ` stays free, which keeps `lQuery` apart
    -- from the statement.
    intro alpha beta delta hdelta
    have husable : Trapdoor.Usable ⟨alpha, beta, 1, delta, tau⟩ d := ⟨one_ne_zero, hdelta, htau⟩
    have haccepted := hverify _ _ ((setup_eq_ok_iff hrows hd).2 ⟨husable, rfl⟩)
    rw [a.element_of_gamma rfl, b.element_of_gamma rfl, c.element_of_gamma rfl] at haccepted
    have hexponents := equation_of_verify hpublics one_ne_zero hp haccepted
    rwa [value_statementPart] at hexponents
  have hextracted := extracted_equation (by decide) (by decide) hequation
  rw [inner_extracted system hstatement _ (length_columnsA system d tau),
    inner_extracted system hstatement _ (length_columnsB system d tau),
    inner_extracted system hstatement _ (length_columnsC system d tau)]
  refine hextracted.trans ?_
  rw [FirstCoefficients.low, ← add_assoc]
  rfl

end

/-! ## From points to polynomials -/

namespace Domain

theorem constraints_le_size {shape : Shape} {d : Domain} (h : ofShape shape = .ok d) :
    shape.constraints ≤ d.size := (Nat.le_add_right _ _).trans (rows_le_size h)

end Domain

open Polynomial in
/-- An identity at all points outside the domain is an identity of polynomials,
since the field is much larger than any domain. -/
theorem residual_eq_of_points {m : Matrices} (publics : Nat) {d : Domain} {z : List Fr}
    {q : Fr[X]} (hq : q.natDegree ≤ d.size)
    (h : ∀ tau, d.vanishing tau ≠ 0 →
      (QuadraticProgram.residual m publics d z).eval tau = d.vanishing tau * q.eval tau) :
    QuadraticProgram.residual m publics d z = d.target * q := by
  have htarget : d.target.natDegree = d.size := natDegree_eq_of_degree_eq_some d.degree_target
  have hdegree : ((QuadraticProgram.residual m publics d z - d.target * q) *
      d.target).natDegree < scalarModulus := by
    have hresidual := QuadraticProgram.natDegree_residual_le m publics d z
    have hproduct : (d.target * q).natDegree ≤ 2 * d.size := by
      refine natDegree_mul_le.trans ?_
      omega
    have hdifference : (QuadraticProgram.residual m publics d z - d.target * q).natDegree ≤
        2 * d.size := by
      refine (natDegree_sub_le _ _).trans (max_le ?_ hproduct)
      omega
    have hsize := d.size_le
    have hlarge : 3 * 2 ^ 28 < scalarModulus := by decide
    refine lt_of_le_of_lt natDegree_mul_le ?_
    omega
  -- The second factor takes care of the points of the domain, of which nothing is assumed.
  have hzero : (QuadraticProgram.residual m publics d z - d.target * q) * d.target = 0 := by
    refine eq_zero_of_natDegree_lt_card_of_eval_eq_zero _ Function.injective_id (fun x => ?_)
      (hdegree.trans_eq (Residue.card_eq (p := scalarModulus)).symm)
    rw [id, eval_mul, eval_sub, eval_mul, d.eval_target]
    by_cases hx : d.vanishing x = 0
    · rw [hx, mul_zero]
    · rw [h x hx, sub_self, zero_mul]
  have hne : d.target ≠ 0 := d.monic_target.ne_zero
  exact sub_eq_zero.1 ((mul_eq_zero.1 hzero).resolve_right hne)

/-! ## Soundness -/

/-- A linear prover who is accepted for every trapdoor knows an assignment. -/
theorem groth16_linear_sound {G₁ G₂ GT : Type} [SourceOps G₁] [SourceOps G₂]
    [PairingOps G₁ G₂ GT] [DecidableEq GT] [LawfulSource G₁] [LawfulSource G₂]
    [NondegeneratePairing G₁ G₂] {system : ConstraintSystem} (hbuilt : system.Built)
    (hrows : 1 ≤ system.shape.constraints) {d : Domain}
    (hd : Domain.ofShape system.shape = .ok d) {p : List Fr}
    (hp : p.length = system.shape.publics - 1) (a c : FirstCoefficients) (b : SecondCoefficients)
    (hverify : ∀ (t : Trapdoor) (keys : Keys G₁ G₂), setup system t = .ok keys →
      keys.verifying.verify ⟨p⟩ ⟨a.element keys, b.element keys, c.element keys⟩ = .ok true) :
    ∃ z, z.length = system.shape.width ∧ 1 :: p <+: z ∧ system.matrices.Satisfied z := by
  have hpublics := hbuilt.publics_pos
  have hlen : (extracted system (1 :: p) c.lQuery).length = system.shape.width := by
    rw [extracted, List.length_append, length_fill, List.length_cons, hp, Shape.width]
    omega
  have hdegree : (c.quotient d).natDegree ≤ d.size := by
    refine Polynomial.natDegree_le_of_degree_le ((degree_ofCoefficients_lt _).le.trans ?_)
    rw [List.length_take]
    exact Nat.cast_le.2 ((Nat.min_le_left _ _).trans (Nat.sub_le _ _))
  refine ⟨extracted system (1 :: p) c.lQuery, hlen, List.prefix_append _ _, ?_⟩
  refine QuadraticProgram.satisfied_of_target_dvd hbuilt.aligned (Domain.constraints_le_size hd)
    ⟨c.quotient d, residual_eq_of_points system.shape.publics hdegree fun tau htau => ?_⟩
  have hpoint := equation_of_coefficients hpublics (by omega) hd hp hverify htau
  refine (QuadraticProgram.eval_residual _ _ hlen.le htau).trans ?_
  exact sub_eq_of_eq_add' hpoint

/-! A prover with an assignment who does not blind the proof is linear. -/

section

variable (system : ConstraintSystem) (d : Domain) (z : List Fr)

def plainA : FirstCoefficients := ⟨0, 1, 0, 0, z, [], [], [], []⟩

def plainB : SecondCoefficients := ⟨0, 1, 0, 0, z⟩

def plainC : FirstCoefficients :=
  ⟨0, 0, 0, 0, [], [], QuadraticProgram.quotient system.matrices system.shape d z,
    z.drop system.shape.publics, []⟩

variable {G₁ G₂ GT : Type} [SourceOps G₁] [SourceOps G₂] [PairingOps G₁ G₂ GT] [DecidableEq GT]
  [LawfulSource G₁] [LawfulSource G₂] [BilinearPairing G₁ G₂]

variable {system d z}

theorem verify_plain {t : Trapdoor} {p : List Fr} (husable : t.Usable d)
    (haligned : system.matrices.Aligned system.shape.constraints)
    (hpublics : 0 < system.shape.publics) (hz : z.length = system.shape.width)
    (hp : 1 :: p = z.take system.shape.publics) (hsatisfied : system.matrices.Satisfied z) :
    (keysOf system d G₁ G₂ t).verifying.verify ⟨p⟩
      ⟨(plainA z).element (keysOf system d G₁ G₂ t), (plainB z).element (keysOf system d G₁ G₂ t),
        (plainC system d z).element (keysOf system d G₁ G₂ t)⟩ = .ok true := by
  have hlen : p.length = system.shape.publics - 1 := by
    have hcons := congrArg List.length hp
    rw [List.length_cons, List.length_take, hz, Shape.width] at hcons
    omega
  rw [FirstCoefficients.element_keysOf, SecondCoefficients.element_keysOf,
    FirstCoefficients.element_keysOf]
  refine (verify_keysOf hpublics husable.gamma_ne_zero hlen _ _ _).trans ?_
  rw [hp]
  have hequation := proof_equation husable haligned hz hsatisfied ⟨0, 0⟩
  simp only [zero_mul, add_zero, neg_zero] at hequation
  simp only [plainA, plainB, plainC, zero_mul, one_mul, zero_add, add_zero, inner_nil_left,
    hequation, decide_true]

end

theorem squareSystem_linear_sound :
    ∃ (a c : FirstCoefficients) (b : SecondCoefficients),
      (∀ (t : Trapdoor) (keys : Keys Exponent Exponent), setup squareSystem t = .ok keys →
        keys.verifying.verify ⟨[9]⟩ ⟨a.element keys, b.element keys, c.element keys⟩ =
          .ok true) ∧
      ∃ z, z.length = 4 ∧ [1, 9] <+: z ∧ squareSystem.matrices.Satisfied z := by
  have hbuilt : squareSystem.Built := ⟨squareCalls, by rfl⟩
  have hdomain : Domain.ofShape squareSystem.shape = .ok squareDomain := by rfl
  have hsatisfied : squareSystem.matrices.Satisfied [1, 9, 3, 9] :=
    Matrices.check_eq_ok_iff.1 (by rfl)
  have hverify : ∀ (t : Trapdoor) (keys : Keys Exponent Exponent),
      setup squareSystem t = .ok keys →
        keys.verifying.verify ⟨[9]⟩ ⟨(plainA [1, 9, 3, 9]).element keys,
          (plainB [1, 9, 3, 9]).element keys,
          (plainC squareSystem squareDomain [1, 9, 3, 9]).element keys⟩ = .ok true := by
    intro t keys hsetup
    obtain ⟨husable, rfl⟩ := (setup_eq_ok_iff (by decide) hdomain).1 hsetup
    exact verify_plain husable hbuilt.aligned hbuilt.publics_pos rfl rfl hsatisfied
  exact ⟨_, _, _, hverify,
    groth16_linear_sound hbuilt (by decide) hdomain rfl _ _ _ hverify⟩

end PreimageProof
