import PreimageProof.Circuit.Witness
import PreimageProof.Groth16.Keys

/-!
# Verifying

One equation between products of pairings decides. A proof for which it fails
is simply not valid; an error means that the key, the proof or the number of
inputs is not what it has to be for the equation to mean anything.
-/

namespace PreimageProof

section

variable {G : Type} [SourceOps G]

/-- A received element has to belong to its group. -/
def checkPoint (part : String) (group : SourceGroup) (p : G) : Except BadPoint Unit :=
  if SourceOps.isValid p then .ok () else .error ⟨part, group⟩

end

variable {G₁ G₂ GT : Type} [SourceOps G₁] [SourceOps G₂] [PairingOps G₁ G₂ GT]

/-- A key has one element for each public variable, the constant at least, and
all its elements belong to their groups. -/
def VerifyingKey.check (vk : VerifyingKey G₁ G₂) : Except KeyDefect Unit :=
  if vk.gammaAbc.isEmpty || vk.gammaAbc.length ≠ vk.shape.publics then
    .error (.gammaCount vk.gammaAbc.length vk.shape.publics)
  else Except.mapError .badPoint do
    checkPoint "alpha_g1" .first vk.alpha
    checkPoint "beta_g2" .second vk.beta
    checkPoint "gamma_g2" .second vk.gamma
    checkPoint "delta_g2" .second vk.delta
    vk.gammaAbc.forM (checkPoint "gamma_abc_g1" .first)

/-- The elements of a proof belong to their groups. -/
def Proof.check (proof : Proof G₁ G₂) : Except ProofDefect Unit :=
  Except.mapError .badPoint do
    checkPoint "A" .first proof.a
    checkPoint "B" .second proof.b
    checkPoint "C" .first proof.c

/-- The element that stands for the public inputs: the key's element of the
constant, and those of the inputs times the inputs. -/
def VerifyingKey.accumulate (vk : VerifyingKey G₁ G₂) (inputs : List Fr) : G₁ :=
  vk.gammaAbc.headD 0 + SourceOps.combine (inputs.zip vk.gammaAbc.tail)

/-- Verify with a prepared key: `e(A, B) * e(acc, -γ) * e(C, -δ) = e(α, β)`. -/
def PreparedKey.verify [DecidableEq GT] (pvk : PreparedKey G₁ G₂ GT) (publics : PublicWitness)
    (proof : Proof G₁ G₂) : Except Error Bool := do
  let vk := pvk.key
  vk.check.mapError fun defect => .verification (.malformedKey defect)
  if publics.inputs.length ≠ vk.publicInputs then
    throw (.verification (.inputCount vk.publicInputs publics.inputs.length))
  proof.check.mapError fun defect => .verification (.malformedProof defect)
  let acc := vk.accumulate publics.inputs
  return PairingOps.product [(proof.a, proof.b), (acc, pvk.negGamma), (proof.c, pvk.negDelta)] =
    pvk.target

/-- Verify with a key as it is. -/
def VerifyingKey.verify [DecidableEq GT] (vk : VerifyingKey G₁ G₂) (publics : PublicWitness)
    (proof : Proof G₁ G₂) : Except Error Bool :=
  (vk.prepare : PreparedKey G₁ G₂ GT).verify publics proof

end PreimageProof
