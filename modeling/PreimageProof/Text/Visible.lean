/-!
# The visible part of a text

A message may quote what a user typed, control characters and all. Written
somewhere that is no terminal, a control sequence is noise, so `visible` keeps
the characters that print, spaces and line ends, and nothing that would only
have moved the cursor or changed a colour.

A sequence starts with an escape character, and the characters after it tell
its form: a few characters, parameters up to a letter, or a whole string that
the terminal keeps to itself. `Phase` is how far a sequence has come. Another
escape starts anew wherever it stands.

White space in a sequence that is not yet a string is shown and pauses it: the
text after it is shown as well, up to a control character, with which the
sequence resumes, or a character outside ASCII, with which it is over.
-/

namespace PreimageProof

namespace Text

/-- Where in a control sequence a text is. -/
inductive Phase where
  | printing
  /-- After an escape character. -/
  | escape
  /-- After an escape character and some of those that come before the last one. -/
  | designation
  /-- Inside a sequence of parameters, which a letter ends. -/
  | parameters
  /-- At the start of a string for the device, which may have parameters. -/
  | device
  | deviceParameters
  /-- After the parameters of a string for the device. -/
  | deviceDesignation
  /-- Inside a string for the device or an application, which a terminator ends. -/
  | content
  /-- Inside a command to the system that runs the terminal, which a bell ends. -/
  | command
  deriving DecidableEq

def isControl (c : Char) : Bool := c.toNat < 0x20 || c.toNat == 0x7f

/-- Controls that are white space. -/
def isLayout (c : Char) : Bool := c == '\t' || c == '\n' || c == '\x0c' || c == '\r'

/-- The characters that control sequences are made of. -/
def isPlain (c : Char) : Bool := 0x20 ≤ c.toNat && c.toNat < 0x7f

/-- Whether the byte that terminates a string is one of those of a character:
terminals look for it byte by byte. -/
def terminates (c : Char) : Bool := (String.utf8EncodeChar c).contains 0x9C

namespace Phase

/-- Where a plain character leads that belongs to a sequence. Parameters are
digits and the punctuation up to `?`, and what is below them designates. -/
def next (phase : Phase) (c : Char) : Phase :=
  match phase with
  | printing => printing
  | escape =>
      if c = '[' then parameters
      else if c = ']' then command
      else if c = 'P' then device
      else if c = 'X' ∨ c = '^' ∨ c = '_' then content
      else if c < '0' then designation
      else printing
  | designation => if c < '0' then designation else printing
  | parameters => if c < '@' then parameters else printing
  | device =>
      if c < '0' then deviceDesignation else if c < '@' then deviceParameters else content
  | deviceParameters =>
      if c < '0' then deviceDesignation else if c < '<' then deviceParameters else content
  | deviceDesignation => if c < '0' then deviceDesignation else content
  | content => content
  | command => command

end Phase

/-- How far a text has come: its phase, and whether the sequence is paused. -/
structure Progress where
  phase : Phase
  paused : Bool
  deriving DecidableEq

namespace Progress

def start : Progress := ⟨.printing, false⟩

/-- Whether a character is shown in a pause, and where the text is after it. -/
def stepPaused (phase : Phase) (c : Char) : Bool × Progress :=
  if isLayout c || isPlain c then (true, ⟨phase, true⟩)
  else if isControl c then (false, ⟨phase, false⟩)
  else (true, start)

/-- Whether a character is shown outside pauses, and where the text is after
it. A character that has no place in a sequence is dropped without ending it. -/
def stepPhase (phase : Phase) (c : Char) : Bool × Progress :=
  match phase with
  | .printing => (!isControl c || isLayout c, start)
  | .escape | .designation | .parameters =>
      if isLayout c then (true, ⟨phase, true⟩)
      else (false, ⟨if isPlain c then phase.next c else phase, false⟩)
  | .device | .deviceParameters | .deviceDesignation =>
      (false, ⟨if isPlain c then phase.next c else phase, false⟩)
  | .content => (false, ⟨if terminates c then .printing else .content, false⟩)
  | .command => (false, ⟨if c = '\x07' then .printing else .command, false⟩)

/-- Whether a character is shown, and where the text is after it. An escape
starts a sequence and two other controls cancel one, wherever they stand. -/
def step (progress : Progress) (c : Char) : Bool × Progress :=
  if c = '\x1b' then (false, ⟨.escape, false⟩)
  else if c = '\x18' ∨ c = '\x1a' then (false, start)
  else if progress.paused then stepPaused progress.phase c
  else stepPhase progress.phase c

end Progress

def visibleFrom : Progress → List Char → List Char
  | _, [] => []
  | progress, c :: rest =>
      let (shown, progress) := progress.step c
      if shown then c :: visibleFrom progress rest else visibleFrom progress rest

/-- The text without control characters and control sequences. -/
def visible (text : String) : String := String.ofList (visibleFrom .start text.toList)

/-- A text that stands out in colour on a terminal. Where the colours are
taken out again, the escape after the text ends any sequence begun in it. -/
def highlighted (text : String) : String := "\x1b[33m" ++ text ++ "\x1b[0m"

end Text

end PreimageProof
