import PreimageProof.Circuit.Witness
import PreimageProof.Groth16.Keys
import PreimageProof.Groth16.Randomness

/-!
# Proving

A proof is three linear combinations of the elements of a proving key. The
coefficients are the witness and the quotient of the constraints by the
vanishing polynomial; two more scalars blind the result, so that proofs of one
statement cannot be told apart.
-/

namespace PreimageProof

/-- The scalars that blind a proof. -/
structure Blinding where
  r : Fr
  s : Fr
  deriving DecidableEq

namespace Blinding

/-- Two scalars, drawn in order. -/
def draw {m : Type → Type} [Monad m] (scalar : m Fr) : m Blinding := do
  return ⟨← scalar, ← scalar⟩

/-- Two scalars of a source. -/
def sample {σ : Type} [ScalarSource σ] (source : σ) : Blinding × σ :=
  (draw ScalarSource.next : StateM σ Blinding).run source

end Blinding

variable {G₁ G₂ : Type} [SourceOps G₁] [SourceOps G₂]

/-- The three elements of a proof, once witness and key are known to match. -/
def combineProof (pk : ProvingKey G₁ G₂) (z h : List Fr) (blind : Blinding) : Proof G₁ G₂ :=
  let priv := z.drop pk.shape.publics
  let a := pk.vk.alpha + SourceOps.combine (z.zip pk.aQuery) +
    SourceOps.scale blind.r pk.delta
  let b2 := pk.vk.beta + SourceOps.combine (z.zip pk.b2Query) +
    SourceOps.scale blind.s pk.vk.delta
  let b1 := pk.beta + SourceOps.combine (z.zip pk.b1Query) +
    SourceOps.scale blind.s pk.delta
  let c := SourceOps.combine (h.zip pk.hQuery) + SourceOps.combine (priv.zip pk.lQuery) +
    SourceOps.scale blind.s a + SourceOps.scale blind.r b1 +
    -SourceOps.scale (blind.r * blind.s) pk.delta
  ⟨a, b2, c⟩

/-- A proof that a witness satisfies the circuit of a key. Key and witness have
to agree in shape, the key has to have the lengths its shape implies, and the
witness has to satisfy the matrices of the key. -/
def prove (pk : ProvingKey G₁ G₂) (w : Witness) (blind : Blinding) :
    Except Error (Proof G₁ G₂) := do
  let shape := pk.shape
  if w.shape ≠ shape then throw (.mismatch (.shapes shape w.shape))
  if let some fault := pk.layoutFault then throw (.mismatch (.provingKey fault))
  if w.values.head? ≠ some 1 then throw (.mismatch .constant)
  pk.matrices.check w.values
  match Domain.ofShape shape with
  | .error cause => throw (.setup cause)
  | .ok d =>
      let h := QuadraticProgram.quotient pk.matrices shape d w.values
      return combineProof pk w.values h blind

end PreimageProof
