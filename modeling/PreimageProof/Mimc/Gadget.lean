import PreimageProof.Circuit.Witness
import PreimageProof.Mimc.Cipher

/-!
# MiMC inside a circuit

The cipher and the hash over linear combinations instead of values. A round
takes three products, for the second, fourth and fifth power; all additions
stay inside linear combinations and cost nothing.
-/

namespace PreimageProof

namespace Mimc

/-- One round over linear combinations. -/
def roundGadget (key state : LinearCombination) (c : Fr) : Build LinearCombination := do
  let t := state + key + LinearCombination.constant c
  let t2 ← Build.mul t t
  let t4 ← Build.mul t2 t2
  let t5 ← Build.mul t4 t
  return t5

def encryptGadget (m : Mimc) (message key : LinearCombination) : Build LinearCombination := do
  let state ← m.constants.foldlM (roundGadget key) message
  return state + key

def absorbGadget (m : Mimc) (state block : LinearCombination) : Build LinearCombination := do
  let encrypted ← m.encryptGadget block state
  return state + encrypted + block

/-- The hash of at least one block. -/
def hashGadget (m : Mimc) (blocks : List LinearCombination) : Build LinearCombination :=
  if blocks.isEmpty then throw (.gadget .noInputs)
  else blocks.foldlM m.absorbGadget 0

end Mimc

/-! ## The preimage circuit -/

/-- "I know a preimage of this hash": a secret `x`, a public `y`, and the
constraints that `y` is the hash of `x`. -/
def preimageCircuit (m : Mimc) : Build Unit := do
  let preimage ← Build.allocate .secret
  let hash ← Build.allocate .statement
  let computed ← m.hashGadget [preimage]
  Build.assertEqual hash computed

end PreimageProof
