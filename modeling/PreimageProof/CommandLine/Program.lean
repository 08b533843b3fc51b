import PreimageProof.CommandLine.Help
import PreimageProof.CommandLine.Storage
import PreimageProof.Contract
import PreimageProof.Curve.Pairing
import PreimageProof.Export.Document
import PreimageProof.Preimage

/-!
# The commands

Each command works on the artifact directory and on nothing that another
command left in memory: proving reads the key that setup wrote, verifying
reads key, proof and public inputs. The commands are the same for all groups
with a pairing whose elements can be stored and shown to a contract.

Nothing is written before everything it depends on has been computed, so a
setup or proof that fails on its inputs leaves the directory as it was.
-/

namespace PreimageProof

namespace CommandLine

/-- How keys and proofs are written for a contract. -/
class Exported (G₁ G₂ : Type) where
  contract : VerifyingKey G₁ G₂ → String
  document : Proof G₁ G₂ → PublicWitness → String

instance : Exported G1 G2 where
  contract := Contract.source
  document proof publics := (ProofDocument.ofProof proof publics).toJson

section

variable {m : Type → Type} [Monad m] [Surroundings m]

variable {G₁ G₂ GT : Type} [SourceOps G₁] [SourceOps G₂] [PairingOps G₁ G₂ GT] [DecidableEq GT]
  [ElementCodec G₁] [ElementCodec G₂] [Exported G₁ G₂]

def showHash (preimage : Fr) : Attempt m Unit := print ((mimcHash preimage).decimal ++ "\n")

/-- Make keys and the contract that verifies with them. -/
def makeKeys (folder : String) : Attempt m (Keys G₁ G₂) := do
  let trapdoor ← ExceptT.lift (Trapdoor.draw Surroundings.scalar)
  let (_, keys) ← attempt .setup (pure (Preimage.setup trapdoor))
  save folder .provingKey keys.proving
  save folder .verifyingKey keys.verifying
  saveText folder .contract (Exported.contract keys.verifying)
  print s!"✅ Keys saved to {folder}\n"
  print s!"✅ Verifier contract saved to {Stored.contract.path folder}\n"
  return keys

/-- What a failure to prove means: an unsatisfied circuit, that the preimage
is not one. -/
def provingFailure (preimage hash : Fr) (error : Error) : Failure :=
  if error.isUnsatisfied then .notPreimage preimage hash error else .proving error

def makeProof (folder : String) (pk : ProvingKey G₁ G₂) (preimage hash : Fr) :
    Attempt m (Proof G₁ G₂ × PublicWitness) := do
  let blind ← ExceptT.lift (Blinding.draw Surroundings.scalar)
  let (proof, publics) ←
    attempt (provingFailure preimage hash) (pure (Preimage.prove pk preimage hash blind))
  save folder .proof proof
  save folder .publicWitness publics
  saveText folder .calldata (Exported.document proof publics)
  print s!"✅ Proof saved to {Stored.proof.path folder}\n"
  print s!"✅ Calldata saved to {Stored.calldata.path folder}\n"
  return (proof, publics)

/-- Print whether a proof is valid, and answer it. -/
def checkProof (vk : VerifyingKey G₁ G₂) (publics : PublicWitness) (proof : Proof G₁ G₂) :
    Attempt m Bool := do
  let valid ← attempt .verifying (pure (vk.verify publics proof))
  print ("Proof is valid: " ++ (if valid then "true" else "false") ++ "\n")
  return valid

variable (G₁ G₂)

/-- Prove with the stored key. -/
def proveStored (folder : String) (preimage hash : Fr) : Attempt m Unit := do
  let pk : ProvingKey G₁ G₂ ← load folder .provingKey
  let _ ← makeProof folder pk preimage hash

/-- Verify what is stored. -/
def verifyStored (folder : String) : Attempt m Bool := do
  let vk : VerifyingKey G₁ G₂ ← load folder .verifyingKey
  let proof : Proof G₁ G₂ ← load folder .proof
  let publics : PublicWitness ← load folder .publicWitness
  checkProof vk publics proof

/-- Do what was asked for. Only a proof that does not verify answers `false`. -/
def Invocation.perform (invocation : Invocation) : Attempt m Bool := do
  let folder := invocation.folder
  match invocation.task with
  | .hash preimage =>
      showHash preimage
      return true
  | .setup =>
      let _ : Keys G₁ G₂ ← makeKeys folder
      return true
  | .prove preimage hash =>
      proveStored G₁ G₂ folder preimage hash
      return true
  | .verify => verifyStored G₁ G₂ folder
  | .run preimage hash =>
      let keys : Keys G₁ G₂ ← makeKeys folder
      let (proof, publics) ← makeProof folder keys.proving preimage hash
      checkProof keys.verifying publics proof

end

/-- How a run ends: what it says on the error channel, and its exit code. -/
structure Ending where
  code : Nat
  complaint : String
  deriving DecidableEq

namespace Ending

def ofOutcome : Except Failure Bool → Ending
  | .ok true => ⟨0, ""⟩
  | .ok false => ⟨1, ""⟩
  | .error failure => ⟨2, s!"error: {failure.message}\n"⟩

end Ending

section

variable {m : Type → Type} [Monad m] [Surroundings m]

/-- Run the program on its arguments. -/
def runProgram (arguments : List String) : m Ending := do
  match readArguments arguments with
  | .ok invocation => return .ofOutcome (← (invocation.perform G1 G2).run)
  | .error (.help topic) =>
      Surroundings.print (Help.text topic)
      return ⟨0, ""⟩
  | .error (.usage .nothing) => return ⟨2, Help.text .program⟩
  | .error (.usage error) => return ⟨2, error.message⟩

end

end CommandLine

end PreimageProof
