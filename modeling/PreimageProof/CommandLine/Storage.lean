import PreimageProof.Codec.Artifact
import PreimageProof.CommandLine.Scalar
import PreimageProof.CommandLine.Surroundings

/-!
# The artifact directory

The six files that commands leave for each other and for other programs. Four
hold artifacts and two hold texts. A file is named by what it holds, and a
failure says what was being done to which path.
-/

namespace PreimageProof

namespace CommandLine

inductive Stored where
  | provingKey
  | verifyingKey
  | contract
  | proof
  | publicWitness
  | calldata
  deriving DecidableEq

def Stored.fileName : Stored → String
  | .provingKey => "proving_key.bin"
  | .verifyingKey => "verifying_key.bin"
  | .contract => "HashProofVerifier.sol"
  | .proof => "proof.bin"
  | .publicWitness => "public_witness.bin"
  | .calldata => "proof_calldata.json"

/-- The path of a file in a directory. -/
def Stored.path (folder : String) (file : Stored) : String :=
  if folder.toList.getLast? = some '/' then folder ++ file.fileName
  else folder ++ "/" ++ file.fileName

/-- Why a command failed. -/
inductive Failure where
  | creating (path : String) (error : FileError)
  | writing (path : String) (error : FileError)
  | reading (path : String) (error : FileError)
  | decoding (path : String) (error : CodecError)
  | setup (error : Error)
  /-- What was to be proved is false. -/
  | notPreimage (preimage hash : Fr) (error : Error)
  | proving (error : Error)
  | verifying (error : Error)
  deriving DecidableEq

def Failure.message : Failure → String
  | .creating path error => s!"creating {path}: {error.message}"
  | .writing path error => s!"writing {path}: {error.message}"
  | .reading path error => s!"reading {path}: {error.message}"
  | .decoding path error => s!"decoding {path}: {error.message}"
  | .setup error => s!"trusted setup: {error.message}"
  | .notPreimage preimage hash error =>
      s!"MiMC({preimage.decimal}) != {hash.decimal}; no proof can be made ({error.message})"
  | .proving error => s!"proving: {error.message}"
  | .verifying error => s!"verifying: {error.message}"

/-- An action that may fail; what it did before stays done. -/
abbrev Attempt (m : Type → Type) : Type → Type := ExceptT Failure m

variable {m : Type → Type} [Monad m] [Surroundings m]

/-- The answer of an operation, its error put in context. -/
def attempt {ε α : Type} (context : ε → Failure) (outcome : m (Except ε α)) : Attempt m α :=
  ExceptT.mk do return (← outcome).mapError context

def print (text : String) : Attempt m Unit := ExceptT.lift (Surroundings.print text)

/-! ## Directories -/

/-- The paths of the directories that a directory is in, the nearest first. A
dot in a path is not a directory of its own. -/
def ancestors (path : String) : List String :=
  let names := (path.splitOn "/").filter fun name => name ≠ "" ∧ name ≠ "."
  let root := if path.toList.head? = some '/' then "/" else ""
  ((List.range names.length).drop 1).reverse.map fun n => root ++ "/".intercalate (names.take n)

/-- Whether there is a directory, which is what reading one as a file tells. -/
def isFolder (path : String) : m Bool := do
  return (← Surroundings.read path) matches .error ⟨_, 21⟩

/-- Make the first of some paths, or find it made. Where it has nothing to be
in, the others are made before it. -/
def makeFolders : (path : String) → (ancestors : List String) → m (Except FileError Unit)
  | path, above => do
      match ← Surroundings.makeFolder path with
      | .ok () => return .ok ()
      | .error error =>
          match above with
          | next :: above =>
              if error = .notFound then
                if let .error error ← makeFolders next above then return .error error
                orExisting path (← Surroundings.makeFolder path)
              else orExisting path (.error error)
          | [] => orExisting path (.error error)
where
  /-- A directory that cannot be made may be there already. -/
  orExisting (path : String) (outcome : Except FileError Unit) : m (Except FileError Unit) := do
    match outcome with
    | .ok () => return .ok ()
    | .error error => return if ← isFolder path then .ok () else .error error

/-! ## Saving and loading -/

/-- Write a file into the directory, which is made if it does not exist. -/
def saveBytes (folder : String) (file : Stored) (bytes : Bytes) : Attempt m Unit := do
  attempt (.creating folder) (makeFolders folder (ancestors folder))
  attempt (.writing (file.path folder)) (Surroundings.write (file.path folder) bytes)

def saveText (folder : String) (file : Stored) (text : String) : Attempt m Unit :=
  saveBytes folder file (Bytes.ofString text)

def save {α : Type} [Artifact α] (folder : String) (file : Stored) (x : α) : Attempt m Unit :=
  saveBytes folder file (Artifact.encode x)

def load {α : Type} [Artifact α] (folder : String) (file : Stored) : Attempt m α := do
  let bytes ← attempt (.reading (file.path folder)) (Surroundings.read (file.path folder))
  attempt (.decoding (file.path folder)) (pure (Artifact.decode bytes))

end CommandLine

end PreimageProof
