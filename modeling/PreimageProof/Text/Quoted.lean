import PreimageProof.Text.Unprintable
import PreimageProof.Text.Combining

/-!
# Quoted text

How a message shows a text that came from outside: between double quotes,
with everything escaped that a reader could not see or could take for
something else. Quotes and backslashes get a backslash, the common controls
their letter, and every other unprintable or combining character its code
point in hexadecimal.
-/

namespace PreimageProof

namespace Text

/-- The lowercase hexadecimal digits of `n`, without leading zeros. -/
def hexDigits (n : Nat) : List Char := Nat.toDigits 16 n

/-- Whether a character has to be written as its code point. -/
def isHidden (c : Char) : Bool := isWithin combiningEnds c.toNat || isWithin unprintableEnds c.toNat

/-- One character of a quoted text. -/
def escape (c : Char) : List Char :=
  match c with
  | '"' => ['\\', '"']
  | '\\' => ['\\', '\\']
  | '\n' => ['\\', 'n']
  | '\r' => ['\\', 'r']
  | '\t' => ['\\', 't']
  | '\x00' => ['\\', '0']
  | c => if isHidden c then ['\\', 'u', '\x7b'] ++ hexDigits c.toNat ++ ['\x7d'] else [c]

/-- The text between double quotes, escaped. -/
def quote (s : String) : String :=
  String.ofList ('"' :: s.toList.flatMap escape ++ ['"'])

end Text

end PreimageProof
