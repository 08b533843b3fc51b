import PreimageProof.Bytes

/-!
# Strings in JSON

Quotes, backslashes and control characters are escaped, the common ones by a
letter, the others by their code; everything else stands for itself.
-/

namespace PreimageProof

namespace Json

/-- One character of a string. -/
def escapeChar (c : Char) : List Char :=
  match c with
  | '"' => ['\\', '"']
  | '\\' => ['\\', '\\']
  | '\x08' => ['\\', 'b']
  | '\x0c' => ['\\', 'f']
  | '\n' => ['\\', 'n']
  | '\r' => ['\\', 'r']
  | '\t' => ['\\', 't']
  | c =>
      if c.toNat < 0x20 then
        ['\\', 'u', '0', '0', Bytes.hexDigit (c.toNat / 16), Bytes.hexDigit c.toNat]
      else [c]

/-- A string with its quotes. -/
def quoteString (s : String) : List Char := '"' :: s.toList.flatMap escapeChar ++ ['"']

end Json

end PreimageProof
