import PreimageProof.PairingGroup
import PreimageProof.Circuit.Builder
import PreimageProof.Polynomial.QuadraticProgram

/-!
# Keys and proofs

The data of the proof system, over any two source groups. A verifying key is
bound to the shape of the circuit it was made for; a proving key contains the
verifying key, one element of each query for each variable or power, and the
matrices, from which the quotient is computed.
-/

namespace PreimageProof

/-- A proof: two elements of the first group and one of the second, whatever
the size of the circuit. -/
structure Proof (G₁ G₂ : Type) where
  a : G₁
  b : G₂
  c : G₁
  deriving DecidableEq

structure VerifyingKey (G₁ G₂ : Type) where
  shape : Shape
  alpha : G₁
  beta : G₂
  gamma : G₂
  delta : G₂
  /-- `(β * Aᵢ + α * Bᵢ + Cᵢ)(τ) / γ` for each public variable, the constant first. -/
  gammaAbc : List G₁
  deriving DecidableEq

structure ProvingKey (G₁ G₂ : Type) where
  vk : VerifyingKey G₁ G₂
  beta : G₁
  delta : G₁
  /-- `Aᵢ(τ)` for each variable. -/
  aQuery : List G₁
  /-- `Bᵢ(τ)` for each variable. -/
  b1Query : List G₁
  b2Query : List G₂
  /-- `τ ^ i * (τ ^ n - 1) / δ` for each `i < n - 1`. -/
  hQuery : List G₁
  /-- `(β * Aᵢ + α * Bᵢ + Cᵢ)(τ) / δ` for each variable that is not public. -/
  lQuery : List G₁
  matrices : Matrices
  deriving DecidableEq

/-- A verifying key with what every verification needs computed once. -/
structure PreparedKey (G₁ G₂ GT : Type) where
  key : VerifyingKey G₁ G₂
  /-- The pairing of `α` and `β`. -/
  target : GT
  negGamma : G₂
  negDelta : G₂

namespace VerifyingKey

variable {G₁ G₂ : Type}

def publicInputs (vk : VerifyingKey G₁ G₂) : Nat := vk.gammaAbc.length - 1

/-- Refuse a key made for a circuit of another shape. -/
def checkCircuit (vk : VerifyingKey G₁ G₂) (system : ConstraintSystem) :
    Except VerificationError Unit :=
  if vk.shape = system.shape then .ok ()
  else .error (.otherCircuit vk.shape system.shape)

def prepare {GT : Type} [SourceOps G₁] [SourceOps G₂] [PairingOps G₁ G₂ GT]
    (vk : VerifyingKey G₁ G₂) : PreparedKey G₁ G₂ GT :=
  ⟨vk, PairingOps.product [(vk.alpha, vk.beta)], -vk.gamma, -vk.delta⟩

end VerifyingKey

namespace ProvingKey

variable {G₁ G₂ : Type}

def shape (pk : ProvingKey G₁ G₂) : Shape := pk.vk.shape

/-- Each part of the key with its length and the length its shape implies. -/
def lengths (pk : ProvingKey G₁ G₂) (d : Domain) : List (String × Nat × Nat) :=
  let shape := pk.shape
  [("a_query", pk.aQuery.length, shape.width),
    ("b_g1_query", pk.b1Query.length, shape.width),
    ("b_g2_query", pk.b2Query.length, shape.width),
    ("h_query", pk.hQuery.length, d.size - 1),
    ("l_query", pk.lQuery.length, shape.width - shape.publics),
    ("gamma_abc_g1", pk.vk.gammaAbc.length, shape.publics),
    ("constraints", pk.matrices.a.length, shape.constraints)]

/-- The first part of the key that does not fit its shape. -/
def layoutFault (pk : ProvingKey G₁ G₂) : Option KeyFault :=
  match Domain.ofShape pk.shape with
  | .error cause => some (.setup cause)
  | .ok d =>
      (pk.lengths d).find? (fun part => part.2.1 ≠ part.2.2) |>.map fun part =>
        .entries part.1 part.2.1 part.2.2

end ProvingKey

end PreimageProof
