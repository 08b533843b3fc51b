import PreimageProof.Text.Digits

/-!
# Scanning JSON

The lexical part of a strict reader: white space, words, strings and numbers.
Reading stops at the first character that cannot be right, and what a failure
says is only of what kind it is: the text is malformed, it ends too early, or
it is fine so far but not what was asked for.

Strings come in two strengths. One that is read has to be text, so surrogates
have to come in pairs; one that is skipped only has to have the form of a
string.
-/

namespace PreimageProof

namespace Json

open Text (isDigit digitValue ofDigits)

/-- Why a text is not what was asked for. -/
inductive Fault where
  /-- It is not JSON. -/
  | malformed
  /-- It could be the beginning of JSON. -/
  | ended
  /-- It is JSON of the wrong kind. -/
  | unexpected
  deriving DecidableEq

/-- What is left of the text behind a part that has been read. -/
abbrev Rest : Type := List Char

def isSpace (c : Char) : Bool := c = ' ' || c = '\n' || c = '\t' || c = '\r'

/-- The text from the next character that is not white space. -/
def skipSpace (text : Rest) : Rest := text.dropWhile isSpace

/-- The rest of a word, letter by letter. -/
def scanWord : (letters : List Char) → Rest → Except Fault Rest
  | [], text => .ok text
  | _ :: _, [] => .error .ended
  | l :: letters, c :: text => if c = l then scanWord letters text else .error .malformed

/-! ## Strings -/

def hexValue? (c : Char) : Option Nat :=
  if '0' ≤ c ∧ c ≤ '9' then some (c.toNat - '0'.toNat)
  else if 'a' ≤ c ∧ c ≤ 'f' then some (c.toNat - 'a'.toNat + 10)
  else if 'A' ≤ c ∧ c ≤ 'F' then some (c.toNat - 'A'.toNat + 10)
  else none

/-- The character of a letter behind a backslash. -/
def escaped? : Char → Option Char
  | '"' => some '"'
  | '\\' => some '\\'
  | '/' => some '/'
  | 'b' => some '\x08'
  | 'f' => some '\x0c'
  | 'n' => some '\n'
  | 'r' => some '\r'
  | 't' => some '\t'
  | _ => none

/-- Where the reader of a string stands. -/
inductive Place where
  | plain
  /-- Behind a backslash. -/
  | escape
  /-- Behind `\u` and some of its four digits; `lead` is the first half of a
  surrogate pair. -/
  | digits (lead : Option Nat) (seen value : Nat)
  /-- Behind the first half of a surrogate pair. -/
  | pair (lead : Nat)
  /-- Behind the first half of a surrogate pair and a backslash. -/
  | pairEscape (lead : Nat)

def isLead (n : Nat) : Bool := 0xD800 ≤ n && n ≤ 0xDBFF

def isTrail (n : Nat) : Bool := 0xDC00 ≤ n && n ≤ 0xDFFF

/-- The number of bytes of a text in UTF-8. -/
def byteLength (text : Rest) : Nat := text.foldl (fun n c => n + c.utf8Size) 0

/-- What four hexadecimal digits complete: the characters they add, and where
the reader stands then. -/
def completeDigits (strict : Bool) (lead : Option Nat) (n : Nat) :
    Except Fault (List Char × Place) :=
  if !strict then .ok ([], .plain)
  else
    match lead with
    | none =>
        if isTrail n then .error .malformed
        else if isLead n then .ok ([], .pair n)
        else .ok ([Char.ofNat n], .plain)
    | some lead =>
        if isTrail n then
          .ok ([Char.ofNat (0x10000 + (lead - 0xD800) * 0x400 + (n - 0xDC00))], .plain)
        else .error .malformed

/-- Read a string up to its closing quote, `done` being its characters so far,
last first. An escape of which not even the bytes are there ends too early,
whatever they are. -/
def scanString (strict : Bool) (done : List Char) : Place → Rest → Except Fault (String × Rest)
  | _, [] => .error .ended
  | .plain, c :: text =>
      if c = '"' then .ok (String.ofList done.reverse, text)
      else if c = '\\' then scanString strict done .escape text
      else if c.toNat < 0x20 then .error .malformed
      else scanString strict (c :: done) .plain text
  | .escape, c :: text =>
      if c = 'u' then scanString strict done (.digits none 0 0) text
      else
        match escaped? c with
        | some e => scanString strict (e :: done) .plain text
        | none => .error .malformed
  | .digits lead seen value, c :: text =>
      match hexValue? c with
      | none => .error (if seen + byteLength (c :: text) < 4 then .ended else .malformed)
      | some digit =>
          if seen < 3 then
            scanString strict done (.digits lead (seen + 1) (value * 16 + digit)) text
          else
            match completeDigits strict lead (value * 16 + digit) with
            | .error fault => .error fault
            | .ok (added, place) => scanString strict (added ++ done) place text
  | .pair lead, c :: text =>
      if c = '\\' then scanString strict done (.pairEscape lead) text else .error .malformed
  | .pairEscape lead, c :: text =>
      if c = 'u' then scanString strict done (.digits (some lead) 0 0) text
      else .error .malformed

/-- The string behind an opening quote. -/
def readString (text : Rest) : Except Fault (String × Rest) := scanString true [] .plain text

/-- Behind the string that an opening quote begins. -/
def skipString (text : Rest) : Except Fault Rest := (·.2) <$> scanString false [] .plain text

/-! ## Numbers -/

/-- The digits of a number, and whether its exponent is negative. -/
structure Number where
  whole : List Char
  fraction : List Char
  negative : Bool
  exponent : List Char

/-- At least one digit; `atEnd` is the fault when the text ends instead. -/
def scanDigits (atEnd : Fault) (text : Rest) : Except Fault (List Char × Rest) :=
  match text with
  | [] => .error atEnd
  | c :: _ =>
      if isDigit c then .ok (text.takeWhile isDigit, text.dropWhile isDigit)
      else .error .malformed

/-- The whole part: a zero alone, or digits that begin with another one. -/
def scanWhole (atEnd : Fault) (text : Rest) : Except Fault (List Char × Rest) :=
  match text with
  | '0' :: c :: rest => if isDigit c then .error .malformed else .ok (['0'], c :: rest)
  | text => scanDigits atEnd text

def scanFraction (atEnd : Fault) (text : Rest) : Except Fault (List Char × Rest) :=
  match text with
  | '.' :: text => scanDigits atEnd text
  | text => .ok ([], text)

def scanExponent (atEnd : Fault) (text : Rest) : Except Fault ((Bool × List Char) × Rest) :=
  match text with
  | c :: rest =>
      if c = 'e' || c = 'E' then
        let (negative, digits) := match rest with
          | '-' :: rest => (true, rest)
          | '+' :: rest => (false, rest)
          | _ => (false, rest)
        (fun (exponent, rest) => ((negative, exponent), rest)) <$> scanDigits atEnd digits
      else .ok ((false, []), text)
  | [] => .ok ((false, []), [])

/-- The number at the beginning of a text, its sign taken off. -/
def scanNumber (atEnd : Fault) (text : Rest) : Except Fault (Number × Rest) := do
  let (whole, text) ← scanWhole atEnd text
  let (fraction, text) ← scanFraction atEnd text
  let ((negative, exponent), text) ← scanExponent atEnd text
  return (⟨whole, fraction, negative, exponent⟩, text)

/-! ## The range of numbers

A number is read as a significand of at most 64 bits and a power of ten, and
it has to be below what a floating-point number of double precision holds.
-/

/-- The nearest number with at most 53 significant binary digits, an even one
when two are equally near. -/
def roundTo53 (n : Nat) : Nat :=
  let excess := n.log2 + 1 - 53
  let unit := 1 <<< excess
  let low := n / unit
  let remainder := n % unit
  if 2 * remainder > unit ∨ (2 * remainder = unit ∧ low % 2 = 1) then (low + 1) * unit
  else low * unit

/-- Take digits into a significand while 64 bits hold it: the significand, and
the number of digits that were left out. -/
def significand : (n : Nat) → List Char → Nat × Nat
  | n, [] => (n, 0)
  | n, c :: rest =>
      if n * 10 + digitValue c < 1 <<< 64 then significand (n * 10 + digitValue c) rest
      else (n, rest.length + 1)

/-- Half a unit above the largest number of double precision. -/
def doubleLimit : Nat := (1 <<< 1024) - (1 <<< 970)

/-- Whether the number is too large for double precision. -/
def Number.isTooLarge (number : Number) : Bool :=
  let (whole, left) := significand 0 number.whole
  let (n, unread) := significand whole number.fraction
  let written : Int := (ofDigits number.exponent : Nat)
  let exponent : Int :=
    left - ((number.fraction.length - unread : Nat) : Int) +
      (if number.negative then -written else written)
  n ≠ 0 && 0 ≤ exponent &&
    (308 < exponent || doubleLimit ≤ roundTo53 n * roundTo53 (Nat.pow 10 exponent.toNat))

end Json

end PreimageProof
