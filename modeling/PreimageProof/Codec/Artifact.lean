import PreimageProof.Circuit.Witness
import PreimageProof.Codec.Element
import PreimageProof.Groth16.Keys

/-!
# Artifacts as bytes

Keys, proofs and witnesses are stored behind a tag of four letters and the
version of the format. Lists are preceded by their length, and everything has
a fixed order, so that no encoding is the beginning of another. The reader
accepts only artifacts that hang together: lengths that agree with the shape,
columns that exist, a first value that is 1.
-/

namespace PreimageProof

/-- A value with a tagged, versioned encoding. -/
class Artifact (α : Type) where
  tag : Bytes
  write : α → Bytes
  read : Read α

namespace Artifact

def formatVersion : UInt8 := 1

variable {α : Type} [Artifact α]

def encode (x : α) : Bytes := tag α ++ formatVersion :: write x

/-- Read behind tag and version. -/
def readTagged : Read α := do
  let found ← Read.take 4
  if found ≠ tag α then throw (.wrongTag (tag α) found)
  let version ← Read.take 1
  if version ≠ [formatVersion] then
    throw (.unsupportedVersion (Bytes.ofLittleEndian version))
  read

/-- The artifact that the bytes are an encoding of, all of them. -/
def decode (bytes : Bytes) : Except CodecError α :=
  Read.onBytes (do
    let x ← readTagged
    Read.finish
    return x) bytes

end Artifact

/-! ## Parts of artifacts -/

namespace Codec

def writeCount (n : Nat) : Bytes := Bytes.littleEndian 8 n

section

variable {α : Type} [ElementCodec α]

def writeElements (xs : List α) : Bytes :=
  writeCount xs.length ++ xs.flatMap ElementCodec.encode

/-- One element; `part` names it in the error. -/
def readElement (part : String) : Read α := do
  let bytes ← Read.take (ElementCodec.width α)
  match ElementCodec.decode bytes with
  | .ok x => return x
  | .error fault => throw (.invalidElement part fault)

def readElements (part : String) : Read (List α) :=
  Read.counted (ElementCodec.width α) (readElement part)

end

def writeShape (shape : Shape) : Bytes :=
  writeCount shape.constraints ++ writeCount shape.publics ++ writeCount shape.secrets ++
    writeCount shape.internals

/-- What makes a shape impossible, in the order it is looked for. -/
def shapeFault (shape : Shape) : Option Inconsistency :=
  if shape.publics = 0 then some .noConstant
  else if Read.maxCount < shape.width then some .variableOverflow
  else if Read.maxCount < shape.constraints + shape.publics then some .rowOverflow
  else none

def readShape : Read Shape := do
  let constraints ← Read.count
  let publics ← Read.count
  let secrets ← Read.count
  let internals ← Read.count
  let shape : Shape := ⟨constraints, publics, secrets, internals⟩
  if let some cause := shapeFault shape then throw (.inconsistent cause)
  return shape

def writeRow (row : Row) : Bytes :=
  writeCount row.length ++ row.flatMap fun entry => entry.1.toBytes ++ writeCount entry.2

def writeMatrix (rows : List Row) : Bytes :=
  writeCount rows.length ++ rows.flatMap writeRow

/-- A coefficient and its column, which has to be that of a variable. -/
def readEntry (width : Nat) : Read (Fr × Nat) := do
  let coefficient ← readElement "matrix coefficient"
  let column ← Read.count
  if width ≤ column then throw (.inconsistent (.column column width))
  return (coefficient, column)

/-- Rows; each has at least its own length, and an entry takes 40 bytes. -/
def readMatrix (width : Nat) : Read (List Row) :=
  Read.counted 8 (Read.counted 40 (readEntry width))

end Codec

/-! ## The artifacts -/

section

open Codec

variable {G₁ G₂ : Type} [ElementCodec G₁] [ElementCodec G₂]

instance : Artifact (Proof G₁ G₂) where
  tag := Bytes.ofString "HPPF"
  write proof :=
    ElementCodec.encode proof.a ++ ElementCodec.encode proof.b ++ ElementCodec.encode proof.c
  read := do
    let a ← readElement "proof.a"
    let b ← readElement "proof.b"
    let c ← readElement "proof.c"
    return ⟨a, b, c⟩

/-- The elements of a verifying key, behind its shape. -/
def VerifyingKey.write (vk : VerifyingKey G₁ G₂) : Bytes :=
  writeShape vk.shape ++ ElementCodec.encode vk.alpha ++ ElementCodec.encode vk.beta ++
    ElementCodec.encode vk.gamma ++ ElementCodec.encode vk.delta ++ writeElements vk.gammaAbc

def VerifyingKey.read : Read (VerifyingKey G₁ G₂) := do
  let shape ← readShape
  let alpha ← readElement "alpha_g1"
  let beta ← readElement "beta_g2"
  let gamma ← readElement "gamma_g2"
  let delta ← readElement "delta_g2"
  let gammaAbc ← readElements "gamma_abc_g1"
  if gammaAbc.length ≠ shape.publics then
    throw (.inconsistent (.gammaEntries gammaAbc.length shape.publics))
  return ⟨shape, alpha, beta, gamma, delta, gammaAbc⟩

instance : Artifact (VerifyingKey G₁ G₂) where
  tag := Bytes.ofString "HPVK"
  write := VerifyingKey.write
  read := VerifyingKey.read

/-- A proving key that hangs together: as many rows in each matrix, and the
lengths that its shape implies. -/
def ProvingKey.ensureConsistent (pk : ProvingKey G₁ G₂) : Read Unit := do
  let rows := pk.matrices.a.length
  if pk.matrices.b.length ≠ rows ∨ pk.matrices.c.length ≠ rows then
    throw (.inconsistent .rowCounts)
  if let some fault := pk.layoutFault then throw (.inconsistent (.provingKey fault))

instance : Artifact (ProvingKey G₁ G₂) where
  tag := Bytes.ofString "HPPK"
  write pk :=
    pk.vk.write ++ ElementCodec.encode pk.beta ++ ElementCodec.encode pk.delta ++
      writeElements pk.aQuery ++ writeElements pk.b1Query ++ writeElements pk.b2Query ++
      writeElements pk.hQuery ++ writeElements pk.lQuery ++
      writeMatrix pk.matrices.a ++ writeMatrix pk.matrices.b ++ writeMatrix pk.matrices.c
  read := do
    let vk ← VerifyingKey.read
    let width := vk.shape.width
    let beta ← readElement "beta_g1"
    let delta ← readElement "delta_g1"
    let aQuery ← readElements "a_query"
    let b1Query ← readElements "b_g1_query"
    let b2Query ← readElements "b_g2_query"
    let hQuery ← readElements "h_query"
    let lQuery ← readElements "l_query"
    let a ← readMatrix width
    let b ← readMatrix width
    let c ← readMatrix width
    let pk : ProvingKey G₁ G₂ :=
      ⟨vk, beta, delta, aQuery, b1Query, b2Query, hQuery, lQuery, ⟨a, b, c⟩⟩
    pk.ensureConsistent
    return pk

instance : Artifact Witness where
  tag := Bytes.ofString "HPWT"
  write w := writeShape w.shape ++ writeElements w.values
  read := do
    let shape ← readShape
    let values : List Fr ← readElements "witness value"
    if values.length ≠ shape.width then
      throw (.inconsistent (.witnessValues values.length shape.width))
    if values.head? ≠ some 1 then throw (.inconsistent .witnessConstant)
    return ⟨shape, values⟩

instance : Artifact PublicWitness where
  tag := Bytes.ofString "HPPW"
  write p := writeElements p.inputs
  read := do
    return ⟨← readElements "public input"⟩

end

end PreimageProof
