import PreimageProof.Mimc.Gadget
import PreimageProof.Groth16.Setup
import PreimageProof.Groth16.Prove
import PreimageProof.Groth16.Verify

/-!
# Proofs of a preimage

The whole pipeline for the one circuit the program is about: knowledge of a
preimage under the standard hash.
-/

namespace PreimageProof

namespace Preimage

/-- The circuit, compiled. -/
def circuit : Except Error CompiledCircuit := compile (preimageCircuit Mimc.bn254)

variable {G₁ G₂ GT : Type} [SourceOps G₁] [SourceOps G₂] [PairingOps G₁ G₂ GT]

/-- Compile the circuit and make its keys. -/
def setup (t : Trapdoor) : Except Error (CompiledCircuit × Keys G₁ G₂) := do
  let compiled ← circuit
  let keys ← PreimageProof.setup compiled.system t
  return (compiled, keys)

/-- Prove knowledge of a preimage of a hash, with a key made for the circuit. -/
def prove (pk : ProvingKey G₁ G₂) (preimage hash : Fr) (blind : Blinding) :
    Except Error (Proof G₁ G₂ × PublicWitness) := do
  let compiled ← circuit
  (pk.vk.checkCircuit compiled.system).mapError .verification
  let witness ← compiled.assign [preimage] [hash]
  let proof ← PreimageProof.prove pk witness blind
  return (proof, witness.publicProjection)

/-- Whether a proof shows knowledge of a preimage of a hash. -/
def verify [DecidableEq GT] (vk : VerifyingKey G₁ G₂) (hash : Fr) (proof : Proof G₁ G₂) :
    Except Error Bool :=
  vk.verify ⟨[hash]⟩ proof

end Preimage

end PreimageProof
