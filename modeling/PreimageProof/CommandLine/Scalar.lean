import PreimageProof.Field.Bn254
import PreimageProof.Text.Digits
import PreimageProof.Text.Quoted

/-!
# Scalars as arguments

A scalar is typed in decimal. Leading zeros are allowed and nothing else is:
no sign, no separators, no digits of other scripts, and no number that would
have to be reduced. What is accepted is therefore what is printed, up to
leading zeros.
-/

namespace PreimageProof

/-- Why a text is not a scalar. -/
inductive ScalarFault where
  | notDecimal (text : String)
  | tooLarge (text : String)
  deriving DecidableEq

def ScalarFault.message : ScalarFault → String
  | .notDecimal text => Text.quote text ++ " is not a decimal integer"
  | .tooLarge text => text ++ " is not below the BN254 scalar field modulus"

namespace Fr

/-- The scalar that a text is the decimal form of. -/
def ofDecimal (text : String) : Except ScalarFault Fr :=
  let digits := text.toList
  if digits.isEmpty || !digits.all Text.isDigit then .error (.notDecimal text)
  else
    match Residue.ofNat? scalarModulus (Text.ofDigits digits) with
    | some x => .ok x
    | none => .error (.tooLarge text)

/-- The decimal form of a scalar. -/
def decimal (x : Fr) : String := toString x.val

end Fr

end PreimageProof
