import PreimageProof.Circuit.Shape
import PreimageProof.Circuit.Variable
import PreimageProof.Text.Quoted
import PreimageProof.Text.Utf8

/-!
# What can go wrong

Errors are kept as causes; the text a user reads is computed from the cause
by `message`, here and nowhere else. One of them is no defect at all:
`unsatisfied` says that the inputs do not satisfy the circuit, which is how
the prover learns that a preimage is not one.
-/

namespace PreimageProof

/-! ## Building a circuit -/

inductive GadgetError where
  /-- A cipher without rounds. -/
  | noRounds
  /-- A hash of nothing, inside a circuit. -/
  | noInputs
  /-- A variable that the builder never handed out. -/
  | unallocated (v : Variable)
  /-- An internal variable without a rule for its value. -/
  | underived (index : Nat)
  /-- An internal variable computed from one that gets its value later. -/
  | forwardReference (index : Nat)
  deriving DecidableEq

def GadgetError.message : GadgetError → String
  | .noRounds => "MiMC round-constant table is empty"
  | .noInputs => "MiMC gadget needs at least one input"
  | .unallocated v =>
      s!"{v.role.name} variable {v.index} was not allocated by this builder"
  | .underived i => s!"internal variable {i} has no derivation"
  | .forwardReference i => s!"internal variable {i} depends on a later variable"

/-! ## Making keys -/

inductive SetupError where
  | emptySystem
  /-- No power of two with a root of unity is as large as the rows need. -/
  | noDomain (rows : Nat)
  | zeroGamma
  | zeroDelta
  /-- The secret point is a root of unity, where the target polynomial vanishes. -/
  | tauInDomain
  deriving DecidableEq

def SetupError.message : SetupError → String
  | .emptySystem => "constraint system is empty"
  | .noDomain rows => s!"no radix-2 domain of size >= {rows}"
  | .zeroGamma => "gamma is zero"
  | .zeroDelta => "delta is zero"
  | .tauInDomain => "tau lies in the evaluation domain"

/-- The first part of a proving key that does not fit its shape. -/
inductive KeyFault where
  | setup (cause : SetupError)
  | entries (part : String) (found expected : Nat)
  deriving DecidableEq

def KeyFault.message : KeyFault → String
  | .setup cause => "trusted setup failed: " ++ cause.message
  | .entries part found expected => s!"{part} has {found} entries, expected {expected}"

/-! ## Matching values with a circuit -/

inductive Mismatch where
  | values (expected found : Nat)
  | constant
  | publicInputs (expected found : Nat)
  | secretInputs (expected found : Nat)
  | shapes (expected found : Shape)
  | provingKey (fault : KeyFault)
  deriving DecidableEq

def Mismatch.expected : Mismatch → String
  | .values expected _ => s!"{expected} variables"
  | .constant => "variable 0 = 1"
  | .publicInputs expected _ => s!"{expected} public inputs"
  | .secretInputs expected _ => s!"{expected} secret inputs"
  | .shapes expected _ => expected.describe
  | .provingKey _ => "consistent proving key"

def Mismatch.found : Mismatch → String
  | .values _ found => s!"{found} variables"
  | .constant => "variable 0 != 1"
  | .publicInputs _ found => toString found
  | .secretInputs _ found => toString found
  | .shapes _ found => found.describe
  | .provingKey fault => fault.message

/-! ## Verifying -/

/-- The two groups that points of keys and proofs belong to. -/
inductive SourceGroup where
  | first
  | second
  deriving DecidableEq

def SourceGroup.name : SourceGroup → String
  | .first => "G1"
  | .second => "G2"

/-- A point that is off its curve or outside its subgroup. -/
structure BadPoint where
  part : String
  group : SourceGroup
  deriving DecidableEq

def BadPoint.message (point : BadPoint) : String :=
  s!"{point.part} is not a point of {point.group.name}"

inductive KeyDefect where
  | gammaCount (found publics : Nat)
  | badPoint (point : BadPoint)
  deriving DecidableEq

def KeyDefect.message : KeyDefect → String
  | .gammaCount found publics =>
      s!"gamma_abc_g1 has {found} entries but the circuit has {publics} public variables"
  | .badPoint point => point.message

/-- Why a text is not the decimal form of a 256-bit number. -/
inductive DecimalFault where
  | invalidCharacter
  | invalidLength
  deriving DecidableEq

def DecimalFault.name : DecimalFault → String
  | .invalidCharacter => "InvalidCharacter"
  | .invalidLength => "InvalidLength"

inductive ProofDefect where
  | badPoint (point : BadPoint)
  | notCanonical (part : String)
  | notDecimal (text : String) (fault : DecimalFault)
  | inputTooLarge (text : String)
  deriving DecidableEq

def ProofDefect.message : ProofDefect → String
  | .badPoint point => point.message
  | .notCanonical part => s!"{part} is not a canonical Fq"
  | .notDecimal text fault => Text.quote text ++ " is not a uint256: " ++ fault.name
  | .inputTooLarge text => s!"input {text} exceeds the scalar field"

inductive VerificationError where
  | inputCount (expected found : Nat)
  | malformedKey (defect : KeyDefect)
  | malformedProof (defect : ProofDefect)
  | otherCircuit (key circuit : Shape)
  deriving DecidableEq

def VerificationError.message : VerificationError → String
  | .inputCount expected found => s!"expected {expected} public inputs, got {found}"
  | .malformedKey defect => "verifying key is malformed: " ++ defect.message
  | .malformedProof defect => "proof is malformed: " ++ defect.message
  | .otherCircuit key circuit =>
      "verifying key was derived from a different circuit: key expects " ++ key.describe ++
        ", circuit has " ++ circuit.describe

/-! ## Decoding -/

/-- Why bytes of the right number are not an element. -/
inductive ElementFault where
  /-- A number above its modulus, or a point outside its group. -/
  | invalid
  /-- Flags that contradict each other. -/
  | flags
  deriving DecidableEq

def ElementFault.message : ElementFault → String
  | .invalid => "the input buffer contained invalid data"
  | .flags => "the call expects empty flags"

inductive Inconsistency where
  | noConstant
  | variableOverflow
  | rowOverflow
  | gammaEntries (found publics : Nat)
  | column (index width : Nat)
  | rowCounts
  | provingKey (fault : KeyFault)
  | witnessValues (found width : Nat)
  | witnessConstant
  deriving DecidableEq

def Inconsistency.message : Inconsistency → String
  | .noConstant => "circuit has no constant variable"
  | .variableOverflow => "variable count overflows"
  | .rowOverflow => "row count overflows"
  | .gammaEntries found publics =>
      s!"{found} gamma_abc_g1 entries for {publics} public variables"
  | .column index width => s!"matrix references variable {index} of {width}"
  | .rowCounts => "constraint matrices differ in row count"
  | .provingKey fault => fault.message
  | .witnessValues found width => s!"{found} witness values for {width} variables"
  | .witnessConstant => "witness does not start with the constant 1"

inductive CodecError where
  | truncated (needed available : Nat)
  | wrongTag (expected found : Bytes)
  | unsupportedVersion (version : Nat)
  | trailingBytes (count : Nat)
  | invalidElement (part : String) (fault : ElementFault)
  | inconsistent (cause : Inconsistency)
  deriving DecidableEq

def CodecError.message : CodecError → String
  | .truncated needed available => s!"buffer truncated: need {needed} bytes, have {available}"
  | .wrongTag expected found =>
      "unexpected artifact tag " ++ Text.quote (Text.decodeLossy found) ++
        ", expected " ++ Text.quote (Text.decodeLossy expected)
  | .unsupportedVersion version => s!"unsupported format version {version}"
  | .trailingBytes count => s!"{count} trailing bytes after artifact"
  | .invalidElement part fault => s!"invalid element encoding: {part}: {fault.message}"
  | .inconsistent cause => "artifact is internally inconsistent: " ++ cause.message

/-! ## All of them -/

inductive Error where
  /-- The circuit is complete; nothing can be added to it. -/
  | frozen
  | gadget (cause : GadgetError)
  | setup (cause : SetupError)
  /-- The assignment does not satisfy the constraint of the given row. -/
  | unsatisfied (row : Nat)
  | mismatch (cause : Mismatch)
  | verification (cause : VerificationError)
  | codec (cause : CodecError)
  deriving DecidableEq

namespace Error

def message : Error → String
  | frozen => "constraint system is frozen; no further variables or constraints may be added"
  | gadget cause => "gadget construction failed: " ++ cause.message
  | setup cause => "trusted setup failed: " ++ cause.message
  | unsatisfied row => s!"assignment violates constraint #{row}"
  | mismatch cause => s!"witness layout mismatch: expected {cause.expected}, found {cause.found}"
  | verification cause => cause.message
  | codec cause => cause.message

/-- Whether the error only says that the inputs do not satisfy the circuit. -/
def isUnsatisfied : Error → Bool
  | unsatisfied _ => true
  | _ => false

end Error

end PreimageProof
