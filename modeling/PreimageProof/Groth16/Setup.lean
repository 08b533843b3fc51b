import PreimageProof.Groth16.Keys
import PreimageProof.Groth16.Randomness

/-!
# Trusted setup

The keys of a circuit are group elements whose logarithms are the column
polynomials at a secret point, mixed by four more secrets. Whoever knows the
secrets can forge proofs; whoever knows only the keys can evaluate exactly the
polynomials that a proof needs.
-/

namespace PreimageProof

/-- The secrets of a setup. -/
structure Trapdoor where
  alpha : Fr
  beta : Fr
  gamma : Fr
  delta : Fr
  tau : Fr
  deriving DecidableEq

namespace Trapdoor

/-- Five scalars, drawn in order. -/
def draw {m : Type → Type} [Monad m] (scalar : m Fr) : m Trapdoor := do
  return ⟨← scalar, ← scalar, ← scalar, ← scalar, ← scalar⟩

/-- Five scalars of a source. -/
def sample {σ : Type} [ScalarSource σ] (source : σ) : Trapdoor × σ :=
  (draw ScalarSource.next : StateM σ Trapdoor).run source

end Trapdoor

/-- What a setup makes. -/
structure Keys (G₁ G₂ : Type) where
  proving : ProvingKey G₁ G₂
  verifying : VerifyingKey G₁ G₂

variable {G₁ G₂ : Type} [SourceOps G₁] [SourceOps G₂]

/-- The keys of a circuit, on a domain with room for it. The divisors have to
be invertible and the point outside the domain. -/
def deriveKeys (system : ConstraintSystem) (d : Domain) (t : Trapdoor) :
    Except SetupError (Keys G₁ G₂) := do
  let shape := system.shape
  if t.gamma = 0 then throw .zeroGamma
  if t.delta = 0 then throw .zeroDelta
  let columns ← QuadraticProgram.evaluateAt system.matrices shape d t.tau
  let abc := List.zipWith (fun ab c => ab + c)
    (List.zipWith (fun a b => t.beta * a + t.alpha * b) columns.a columns.b) columns.c
  let gammaInv := t.gamma⁻¹
  let deltaInv := t.delta⁻¹
  let vk : VerifyingKey G₁ G₂ := {
    shape := shape
    alpha := SourceOps.generate t.alpha
    beta := SourceOps.generate t.beta
    gamma := SourceOps.generate t.gamma
    delta := SourceOps.generate t.delta
    gammaAbc := (abc.take shape.publics).map fun v => SourceOps.generate (v * gammaInv) }
  let pk : ProvingKey G₁ G₂ := {
    vk := vk
    beta := SourceOps.generate t.beta
    delta := SourceOps.generate t.delta
    aQuery := columns.a.map SourceOps.generate
    b1Query := columns.b.map SourceOps.generate
    b2Query := columns.b.map SourceOps.generate
    hQuery := (powersFrom (columns.target * deltaInv) t.tau (d.size - 1)).map SourceOps.generate
    lQuery := (abc.drop shape.publics).map fun v => SourceOps.generate (v * deltaInv)
    matrices := system.matrices }
  return ⟨pk, vk⟩

/-- The keys of a circuit that has at least one constraint. -/
def setup (system : ConstraintSystem) (t : Trapdoor) : Except Error (Keys G₁ G₂) :=
  if system.shape.constraints = 0 then .error (.setup .emptySystem)
  else
    match Domain.ofShape system.shape with
    | .error cause => .error (.setup cause)
    | .ok d => (deriveKeys system d t).mapError .setup

end PreimageProof
