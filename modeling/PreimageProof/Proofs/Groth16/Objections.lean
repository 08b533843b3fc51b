import Mathlib
import PreimageProof.Curve.Pairing
import PreimageProof.Export.Document
import PreimageProof.Proofs.Bounds.Prover
import PreimageProof.Proofs.Codec.Faithful
import PreimageProof.Proofs.Export.Words

/-!
# What verification objects to

Verification goes through its checks in a fixed order and reports the first
that fails. Here everything that is wrong with a key, a number of inputs and a
proof is listed, in that order, and the checks are shown to report the head of
the list. That leaves no order of evaluation to argue about: two lists of
objections one after the other are two checks in sequence.

The readers refuse what verification would object to in a key or in a proof,
each in its own words. So of what was read nothing but the number of inputs is
left to object to.

The pairing of `α` and `β` is computed when a key is prepared, before anything
is checked. Nothing is asked of it but that it has a value.
-/

namespace PreimageProof

open SourceOps (isValid)

/-! ## Checks in sequence -/

section

variable {ε ε' : Type}

end

/-! ## Points -/

section

variable {G G₁ G₂ : Type} [SourceOps G] [SourceOps G₁] [SourceOps G₂]

/-- The objection to a point that does not belong to its group. -/
def badPoint (part : String) (group : SourceGroup) (p : G) : List BadPoint :=
  if isValid p then [] else [⟨part, group⟩]

namespace VerifyingKey

end VerifyingKey

namespace Proof

end Proof

/-! ## Verification -/

namespace VerifyingKey

end VerifyingKey

variable {GT : Type} [PairingOps G₁ G₂ GT] [DecidableEq GT]

namespace PreparedKey

end PreparedKey

namespace VerifyingKey

end VerifyingKey

end

/-- Proofs as they arrive: as bytes, as words or as a document. -/
inductive Proof.Received : Proof G1 G2 → Prop
  | decoded {bytes : Bytes} {proof : Proof G1 G2} (h : Artifact.decode bytes = .ok proof) :
      Received proof
  | words {w : Vector Word 8} {proof : Proof G1 G2} (h : Proof.ofWords w = .ok proof) :
      Received proof
  | document {doc : ProofDocument} {proof : Proof G1 G2} {inputs : PublicWitness}
      (h : doc.parse = .ok (proof, inputs)) : Received proof

theorem Proof.Received.valid {proof : Proof G1 G2} (h : proof.Received) : proof.Valid := by
  cases h with
  | decoded h => exact Artifact.of_decode (returns_proof G1.lawful G2.lawful) h
  | words h => exact (Proof.ofWords_eq_ok_iff.1 h).1
  | document h =>
      obtain ⟨w, -, h⟩ := of_bind_eq_ok h
      obtain ⟨read, hread, h⟩ := of_bind_eq_ok h
      obtain ⟨inputs, -, h⟩ := of_bind_eq_ok h
      cases h
      exact (Proof.ofWords_eq_ok_iff.1 hread).1

end PreimageProof
