import PreimageProof.Error
import PreimageProof.Digest.Keccak

/-!
# MiMC

A block cipher on the scalar field, made for circuits. Each round adds the key
and a constant and takes the fifth power, the smallest power that permutes
the field; the key is added once more at the end. Hashing chains the cipher:
each block is encrypted under the state, and the state takes in the block and
its encryption.
-/

namespace PreimageProof

/-- The cipher with the given round constants, of which there is at least one. -/
structure Mimc where
  constants : List Fr
  nonempty : constants ≠ []

namespace Mimc

def ofConstants (constants : List Fr) : Except Error Mimc :=
  if h : constants ≠ [] then .ok ⟨constants, h⟩ else .error (.gadget .noRounds)

/-! ## Round constants -/

/-- Iterated digests, each read as a number highest byte first and reduced. -/
def digestChain : (rounds : Nat) → (digest : Bytes) → List Fr
  | 0, _ => []
  | rounds + 1, digest =>
      let next := Keccak.digest digest
      ((Bytes.ofBigEndian next : Nat) : Fr) :: digestChain rounds next

/-- The constants that a seed stands for: the chain begins after its digest. -/
def deriveConstants (seed : Bytes) (rounds : Nat) : List Fr :=
  digestChain rounds (Keccak.digest seed)

def ofSeed (seed : Bytes) (rounds : Nat) : Except Error Mimc :=
  ofConstants (deriveConstants seed rounds)

/-- The number of rounds that a field of 254 bits asks for. -/
def standardRounds : Nat := 110

/-- The instance that the preimage circuit uses. -/
def bn254 : Mimc where
  constants := deriveConstants (Bytes.ofString "seed") standardRounds
  nonempty := by simp [deriveConstants, standardRounds, digestChain]

def rounds (m : Mimc) : Nat := m.constants.length

/-! ## Encryption and hashing -/

/-- One round, `x ↦ (x + key + c)⁵`. -/
def round (key : Fr) (x c : Fr) : Fr :=
  let t := x + key + c
  let t2 := t * t
  t2 * t2 * t

def encrypt (m : Mimc) (message key : Fr) : Fr := m.constants.foldl (round key) message + key

/-- The state of a hash after one more block. -/
def absorb (m : Mimc) (state block : Fr) : Fr := state + (m.encrypt block state + block)

/-- The hash of a list of blocks; the state begins at zero. -/
def hash (m : Mimc) (blocks : List Fr) : Fr := blocks.foldl m.absorb 0

/-- A hash that is fed block by block. -/
structure Hasher where
  cipher : Mimc
  state : Fr

def hasher (m : Mimc) : Hasher := ⟨m, 0⟩

def Hasher.update (h : Hasher) (block : Fr) : Hasher :=
  { h with state := h.cipher.absorb h.state block }

def Hasher.reset (h : Hasher) : Hasher := { h with state := 0 }

def Hasher.finish (h : Hasher) : Fr := h.state

end Mimc

/-- The hash whose preimages are proved. -/
def mimcHash (preimage : Fr) : Fr := Mimc.bn254.hash [preimage]

end PreimageProof
