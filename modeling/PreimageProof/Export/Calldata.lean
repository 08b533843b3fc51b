import PreimageProof.Digest.Keccak
import PreimageProof.Export.Word

/-!
# The call of a verifier contract

A call begins with four bytes that select the function, the first of the
digest of its name with its parameter types; the arguments follow. Arrays of
fixed length are their words, one after the other, and nothing else.
-/

namespace PreimageProof

namespace Calldata

/-- The function of the contract, with its types for the number of inputs. -/
def signature (inputs : Nat) : String := s!"verifyProof(uint256[8],uint256[{inputs}])"

def selector (inputs : Nat) : Bytes := (Keccak.digest (Bytes.ofString (signature inputs))).take 4

/-- The arguments: the words of the proof, and those of the inputs. -/
def words (proof : Proof G1 G2) (publics : PublicWitness) : List Word :=
  proof.toWords.toList ++ publics.inputs.map Residue.toWord

/-- The bytes of the call that verifies a proof. -/
def encode (proof : Proof G1 G2) (publics : PublicWitness) : Bytes :=
  selector publics.inputs.length ++ (words proof publics).flatMap Word.toBytes

end Calldata

end PreimageProof
