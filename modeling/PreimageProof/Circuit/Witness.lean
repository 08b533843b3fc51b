import PreimageProof.Circuit.Builder

/-!
# Witnesses

A full assignment of a circuit with the shape of the circuit it belongs to,
and the part of it that the verifier gets to see.
-/

namespace PreimageProof

/-- The values a verifier supplies, in the order of the circuit's statement. -/
structure PublicWitness where
  inputs : List Fr
  deriving DecidableEq

/-- A full assignment `[1, statement…, secret…, internal…]`. -/
structure Witness where
  shape : Shape
  values : List Fr
  deriving DecidableEq

namespace Witness

/-- The statement, without the constant. -/
def publicProjection (w : Witness) : PublicWitness := ⟨(w.values.take w.shape.publics).drop 1⟩

/-- The witness for a log: the values are secret. -/
def describe (w : Witness) : String :=
  "Witness \x7b shape: " ++ w.shape.describe ++ s!", values: [{w.values.length} redacted] \x7d"

end Witness

/-- The witness with the given inputs, in the order of their declaration. The
internal values are computed, and then every constraint is checked. -/
def assign (system : ConstraintSystem) (secrets publics : List Fr) : Except Error Witness := do
  let shape := system.shape
  if publics.length ≠ shape.publicInputs then
    throw (.mismatch (.publicInputs shape.publicInputs publics.length))
  if secrets.length ≠ shape.secrets then
    throw (.mismatch (.secretInputs shape.secrets secrets.length))
  let values := system.solve (1 :: (publics ++ secrets))
  system.check values
  return ⟨shape, values⟩

def CompiledCircuit.assign (circuit : CompiledCircuit) (secrets publics : List Fr) :
    Except Error Witness :=
  PreimageProof.assign circuit.system secrets publics

end PreimageProof
