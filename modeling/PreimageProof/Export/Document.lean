import PreimageProof.Export.Word
import PreimageProof.Json.Read
import PreimageProof.Json.Quote

/-!
# The document of a proof

What is handed to wallets and scripts that call the contract: the words of the
proof and the inputs in decimal, and once more the words of the proof in
hexadecimal, in one piece. Reading a document back checks every word and every
point; the hexadecimal form is for the eye and is not looked at.
-/

namespace PreimageProof

structure ProofDocument where
  /-- The eight words of the proof, in decimal. -/
  proof : Vector String 8
  /-- The public inputs, in decimal. -/
  input : List String
  /-- `0x` and the hexadecimal form of the 256 bytes of the proof. -/
  fullProofHex : String
  deriving DecidableEq

namespace ProofDocument

def ofProof (proof : Proof G1 G2) (publics : PublicWitness) : ProofDocument where
  proof := proof.toWords.map Word.decimal
  input := publics.inputs.map fun a => a.toWord.decimal
  fullProofHex := "0x" ++ Bytes.hex (proof.toWords.toList.flatMap Word.toBytes)

/-! ## From the document to the proof -/

def readWord (text : String) : Except ProofDefect Word :=
  (Word.ofDecimal text).mapError (.notDecimal text)

/-- A public input: a word below the order of the scalar field. -/
def readInput (text : String) : Except ProofDefect Fr := do
  match Fr.ofWord? (← readWord text) with
  | some a => return a
  | none => throw (.inputTooLarge text)

/-- The proof and the inputs of a document: first the words of the proof are
read, then its points, then the inputs. -/
def parse (doc : ProofDocument) : Except ProofDefect (Proof G1 G2 × PublicWitness) := do
  let words ← doc.proof.mapM readWord
  let proof ← Proof.ofWords words
  let inputs ← doc.input.mapM readInput
  return (proof, ⟨inputs⟩)

/-! ## Writing JSON -/

/-- The entries of a list or object, each on its own line, one level deeper
than the brackets. -/
def lines (indent : Nat) (opening closing : Char) (entries : List (List Char)) : List Char :=
  match entries with
  | [] => [opening, closing]
  | first :: rest =>
      let line (entry : List Char) := '\n' :: List.replicate (indent + 2) ' ' ++ entry
      opening :: line first ++ rest.flatMap (fun entry => ',' :: line entry) ++
        '\n' :: List.replicate indent ' ' ++ [closing]

/-- A member of an object. -/
def member (name : String) (value : List Char) : List Char :=
  Json.quoteString name ++ ':' :: ' ' :: value

/-- The names of the fields, in the order in which they are written. -/
def proofName : String := "proof"

def inputName : String := "input"

def hexName : String := "fullProofHex"

/-- The document as JSON, indented by two spaces at each level. -/
def toJson (doc : ProofDocument) : String :=
  let strings (xs : List String) := lines 2 '[' ']' (xs.map Json.quoteString)
  String.ofList (lines 0 '\x7b' '\x7d'
    [member proofName (strings doc.proof.toList),
      member inputName (strings doc.input),
      member hexName (Json.quoteString doc.fullProofHex)])

/-! ## Reading JSON -/

/-- The fields found so far. -/
structure Fields where
  proof : Option (Vector String 8)
  input : Option (List String)
  fullProofHex : Option String

/-- A document needs all of its fields. -/
def Fields.complete (fields : Fields) : Except Json.Fault ProofDocument :=
  match fields with
  | ⟨some proof, some input, some hex⟩ => .ok ⟨proof, input, hex⟩
  | _ => .error .unexpected

/-- Read the value of a member. A field must not come twice; members with other
names are skipped. -/
def Fields.readMember (fields : Fields) (name : String) (text : Json.Rest) :
    Except Json.Fault (Fields × Json.Rest) := do
  if name = proofName then
    if fields.proof.isSome then throw .unexpected
    let (proof, text) ← Json.expectVector 8 (← Json.expectColon text)
    return ({ fields with proof := some proof }, text)
  else if name = inputName then
    if fields.input.isSome then throw .unexpected
    let (input, text) ← Json.expectStrings (← Json.expectColon text)
    return ({ fields with input := some input }, text)
  else if name = hexName then
    if fields.fullProofHex.isSome then throw .unexpected
    let (hex, text) ← Json.expectString (← Json.expectColon text)
    return ({ fields with fullProofHex := some hex }, text)
  else
    return (fields, ← Json.skipValue (← Json.expectColon text))

/-- The members of an object up to its closing brace, at most `fuel` of them. -/
def readMembers : (fuel : Nat) → (first : Bool) → Fields → Json.Rest →
    Except Json.Fault (Fields × Json.Rest)
  | 0, _, _, _ => .error .malformed
  | fuel + 1, first, fields, text => do
      match ← Json.nextMember first text with
      | none => return (fields, (Json.skipSpace text).tail)
      | some text =>
          let (name, text) ← Json.readString text
          let (fields, text) ← fields.readMember name text
          readMembers fuel false fields text

/-- A document as an object, behind its opening brace. -/
def readObject (text : Json.Rest) : Except Json.Fault (ProofDocument × Json.Rest) := do
  let (fields, text) ← readMembers (text.length + 1) true ⟨none, none, none⟩ text
  return (← fields.complete, text)

/-- The next entry of a list, which has to be there. -/
def expectEntry (first : Bool) (text : Json.Rest) : Except Json.Fault Json.Rest := do
  match ← Json.nextEntry first text with
  | some text => return text
  | none => throw .unexpected

/-- A document as the list of its fields, behind its opening bracket. -/
def readList (text : Json.Rest) : Except Json.Fault (ProofDocument × Json.Rest) := do
  let (proof, text) ← Json.expectVector 8 (← expectEntry true text)
  let (input, text) ← Json.expectStrings (← expectEntry false text)
  let (hex, text) ← Json.expectString (← expectEntry false text)
  return (⟨proof, input, hex⟩, ← Json.closeList text)

/-- The document that a text is, with nothing behind it. -/
def ofJson (json : String) : Except Json.Fault ProofDocument := do
  let (doc, text) ← match Json.skipSpace json.toList with
    | '\x7b' :: text => readObject text
    | '[' :: text => readList text
    | text => throw (Json.wrongKind text)
  Json.expectEnd text
  return doc

end ProofDocument

end PreimageProof
