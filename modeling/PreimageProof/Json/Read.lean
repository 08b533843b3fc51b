import PreimageProof.Json.Scan

/-!
# Reading JSON by what is expected

A document of a known form is read in one pass: at each place the reader knows
what kind of value has to follow, and anything else is a fault of the kind
`unexpected`, unless it is not even JSON. Values nobody asked for are skipped.
Errors are found in reading order.
-/

namespace PreimageProof

namespace Json

open Text (isDigit)

/-- The fault of a value that is not of the kind asked for. Words, strings and
numbers are read to their end first; of a list or an object, the bracket is
enough. -/
def wrongKind (text : Rest) : Fault :=
  let fromScan {α : Type} : Except Fault α → Fault
    | .error fault => fault
    | .ok _ => .unexpected
  let number (text : Rest) : Fault :=
    match scanNumber .ended text with
    | .error fault => fault
    | .ok (n, _) => if n.isTooLarge then .malformed else .unexpected
  match text with
  | [] => .ended
  | '[' :: _ => .unexpected
  | '\x7b' :: _ => .unexpected
  | '"' :: text => fromScan (readString text)
  | 'n' :: text => fromScan (scanWord ['u', 'l', 'l'] text)
  | 't' :: text => fromScan (scanWord ['r', 'u', 'e'] text)
  | 'f' :: text => fromScan (scanWord ['a', 'l', 's', 'e'] text)
  | '-' :: text => number text
  | c :: _ => if isDigit c then number text else .malformed

/-- A string, after white space. -/
def expectString (text : Rest) : Except Fault (String × Rest) :=
  match skipSpace text with
  | '"' :: text => readString text
  | text => .error (wrongKind text)

/-! ## Lists -/

/-- Before an entry of a list: the text of the entry, or none at the closing
bracket, which stays. -/
def nextEntry (first : Bool) (text : Rest) : Except Fault (Option Rest) :=
  match skipSpace text with
  | [] => .error .ended
  | ']' :: _ => .ok none
  | c :: text =>
      if first then .ok (some (c :: text))
      else if c = ',' then
        match skipSpace text with
        | [] => .error .ended
        | ']' :: _ => .error .malformed
        | text => .ok (some text)
      else .error .malformed

/-- The closing bracket of a list. -/
def closeList (text : Rest) : Except Fault Rest :=
  match skipSpace text with
  | [] => .error .ended
  | ']' :: text => .ok text
  | _ => .error .malformed

/-- The strings of a list up to its closing bracket, at most `fuel` of them. -/
def readStrings : (fuel : Nat) → (first : Bool) → Rest → Except Fault (List String × Rest)
  | 0, _, _ => .error .malformed
  | fuel + 1, first, text => do
      match ← nextEntry first text with
      | none => return ([], text)
      | some text =>
          let (s, text) ← expectString text
          let (rest, text) ← readStrings fuel false text
          return (s :: rest, text)

/-- A list of strings of any length. -/
def expectStrings (text : Rest) : Except Fault (List String × Rest) := do
  match skipSpace text with
  | '[' :: text =>
      let (strings, text) ← readStrings (text.length + 1) true text
      return (strings, ← closeList text)
  | text => throw (wrongKind text)

/-- Exactly `n` strings of a list, behind those in `done`. -/
def readVector {k : Nat} (done : Vector String k) :
    (n : Nat) → (first : Bool) → Rest → Except Fault (Vector String (k + n) × Rest)
  | 0, _, text => .ok (done, text)
  | n + 1, first, text => do
      match ← nextEntry first text with
      | none => throw .unexpected
      | some text =>
          let (s, text) ← expectString text
          let (all, text) ← readVector (done.push s) n false text
          return (all.cast (by omega), text)

/-- A list of exactly `n` strings. -/
def expectVector (n : Nat) (text : Rest) : Except Fault (Vector String n × Rest) := do
  match skipSpace text with
  | '[' :: text =>
      let (strings, text) ← readVector #v[] n true text
      return (strings.cast (by omega), ← closeList text)
  | text => throw (wrongKind text)

/-! ## Objects -/

/-- Before a member of an object: the text behind the opening quote of its
name, or none at the closing brace, which stays. -/
def nextMember (first : Bool) (text : Rest) : Except Fault (Option Rest) :=
  let name : Rest → Except Fault (Option Rest)
    | [] => .error .ended
    | '"' :: text => .ok (some text)
    | _ => .error .malformed
  match skipSpace text with
  | '\x7d' :: _ => .ok none
  | c :: text =>
      if first then name (c :: text)
      else if c = ',' then name (skipSpace text)
      else .error .malformed
  | [] => .error .ended

/-- The colon between name and value of a member. -/
def expectColon (text : Rest) : Except Fault Rest :=
  match skipSpace text with
  | [] => .error .ended
  | ':' :: text => .ok text
  | _ => .error .malformed

/-! ## Values nobody asked for -/

/-- What surrounds the place where the reader stands. -/
inductive Frame where
  | list
  | object
  deriving DecidableEq

/-- What has to come next. -/
inductive Awaiting where
  | value
  /-- The first entry of the innermost frame, or its end. -/
  | firstEntry
  /-- A comma, or the end of the innermost frame. -/
  | more

/-- The text of the value that an entry of a frame brings. -/
def entryValue (frame : Frame) (text : Rest) : Except Fault Rest :=
  match frame with
  | .list => .ok text
  | .object =>
      match skipSpace text with
      | [] => .error .ended
      | '"' :: text => do expectColon (← skipString text)
      | _ => .error .malformed

/-- A word, a string or a number, or the frame that a bracket opens. -/
def skipAtom (text : Rest) : Except Fault (Option Frame × Rest) :=
  let atom (scan : Except Fault Rest) : Except Fault (Option Frame × Rest) :=
    (fun rest => (none, rest)) <$> scan
  let number (text : Rest) : Except Fault Rest := (·.2) <$> scanNumber .malformed text
  match text with
  | [] => .error .ended
  | '[' :: text => .ok (some .list, text)
  | '\x7b' :: text => .ok (some .object, text)
  | '"' :: text => atom (skipString text)
  | 'n' :: text => atom (scanWord ['u', 'l', 'l'] text)
  | 't' :: text => atom (scanWord ['r', 'u', 'e'] text)
  | 'f' :: text => atom (scanWord ['a', 'l', 's', 'e'] text)
  | '-' :: text => atom (number text)
  | c :: _ => if isDigit c then atom (number text) else .error .malformed

/-- Skip until no frame is left. Of two steps at least one reads a character,
so twice the length of the text is enough fuel. -/
def skipFrames : (fuel : Nat) → List Frame → Awaiting → Rest → Except Fault Rest
  | _, [], .more, text => .ok text
  | _, [], .firstEntry, text => .ok text
  | 0, _, _, _ => .error .malformed
  | fuel + 1, frames, .value, text => do
      match ← skipAtom (skipSpace text) with
      | (none, text) => skipFrames fuel frames .more text
      | (some frame, text) => skipFrames fuel (frame :: frames) .firstEntry text
  | fuel + 1, frame :: outer, awaiting, text => do
      match frame, skipSpace text with
      | _, [] => throw .ended
      | .list, ']' :: text => skipFrames fuel outer .more text
      | .object, '\x7d' :: text => skipFrames fuel outer .more text
      | _, c :: text =>
          match awaiting with
          | .more =>
              if c = ',' then skipFrames fuel (frame :: outer) .value (← entryValue frame text)
              else throw .malformed
          | _ => skipFrames fuel (frame :: outer) .value (← entryValue frame (c :: text))

/-- Behind a value of any kind. -/
def skipValue (text : Rest) : Except Fault Rest :=
  skipFrames (2 * text.length + 2) [] .value text

/-- Nothing but white space may be left. -/
def expectEnd (text : Rest) : Except Fault Unit :=
  match skipSpace text with
  | [] => .ok ()
  | _ => .error .malformed

end Json

end PreimageProof
