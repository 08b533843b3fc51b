/-!
# Decimal digits

The ten digits, as characters and as numbers. Digits of other scripts are not
among them.
-/

namespace PreimageProof

namespace Text

def isDigit (c : Char) : Bool := '0' ≤ c && c ≤ '9'

def digitValue (c : Char) : Nat := c.toNat - '0'.toNat

/-- The number that digits write, the highest first. -/
def ofDigits (digits : List Char) : Nat := digits.foldl (fun n c => n * 10 + digitValue c) 0

end Text

end PreimageProof
