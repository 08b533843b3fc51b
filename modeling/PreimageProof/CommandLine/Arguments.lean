import PreimageProof.CommandLine.Usage

/-!
# Reading the arguments

Arguments are read from left to right at two levels: before the command, where
only general flags are known, and after it. A value can be attached to its
flag (`--hash=5`) or follow it (`--hash 5`). One that follows is only looked
at when the next flag has been recognised or the arguments have ended, so an
argument that is no flag at all is reported before an earlier value that is no
scalar.

A general flag can be given at both levels; the level nearer to the command
wins.
-/

namespace PreimageProof

namespace CommandLine

/-- What flags have said so far. -/
structure Settings where
  outDir : Option String
  verbose : Bool
  preimage : Option Fr
  hash : Option Fr
  deriving DecidableEq

namespace Settings

def empty : Settings := ⟨none, false, none, none⟩

def isEmpty (s : Settings) : Bool := s == empty

/-- The first value of a flag that has to be a scalar. -/
def readScalar (flag : Flag) (before : Option Fr) (text : String) :
    Except UsageError (Option Fr) :=
  match before, Fr.ofDecimal text with
  | some _, _ => .error (.repeated flag)
  | none, .ok x => .ok (some x)
  | none, .error fault => .error (.invalidValue flag text fault)

/-- Take the value of a flag, or its absence. -/
def accept (s : Settings) : Flag → Option String → Except UsageError Settings
  | .verbose, _ => .ok { s with verbose := true }
  | .help, _ => .ok s
  | flag, none => .error (.missingValue flag)
  | .outDir, some text =>
      if s.outDir.isSome then .error (.repeated .outDir)
      else if text.isEmpty then .error (.missingValue .outDir)
      else .ok { s with outDir := some text }
  | .preimage, some text => do
      return { s with preimage := ← readScalar .preimage s.preimage text }
  | .hash, some text => do
      return { s with hash := ← readScalar .hash s.hash text }

end Settings

/-- A level of arguments in the middle of being read. -/
structure Progress where
  settings : Settings
  /-- A flag whose value has not been looked at, and that value if it has come. -/
  waiting : Option (Flag × Option String)

namespace Progress

def start : Progress := ⟨.empty, none⟩

/-- Take the value that was waiting. -/
def settle (p : Progress) : Except UsageError Settings :=
  match p.waiting with
  | none => .ok p.settings
  | some (flag, value) => p.settings.accept flag value

/-- Whether the next argument that is no flag is a value. -/
def expectsValue (p : Progress) : Bool := p.waiting matches some (_, none)

end Progress

/-- What help is asked for: the program, a command, or help itself. -/
inductive Topic where
  | program
  | command (command : Command)
  | help
  deriving DecidableEq

def Topic.ofLevel : Option Command → Topic
  | none => .program
  | some given => .command given

/-- Why reading stops before the end. -/
inductive Stop where
  | help (topic : Topic)
  | usage (error : UsageError)
  deriving DecidableEq

/-! ## Single arguments -/

/-- An argument by its shape. -/
inductive Shaped where
  /-- What follows `--` is no flag, whatever it looks like. -/
  | separator
  | long (name : String) (value : Option String)
  | short (letters : List Char)
  | plain

/-- The parts before and after the first equals sign. -/
def splitValue (text : List Char) : String × Option String :=
  let value := match text.dropWhile (· ≠ '=') with
    | [] => none
    | _ :: rest => some (String.ofList rest)
  (String.ofList (text.takeWhile (· ≠ '=')), value)

def Shaped.ofArgument (argument : String) : Shaped :=
  match argument.toList with
  | ['-', '-'] => .separator
  | '-' :: '-' :: rest =>
      let (name, value) := splitValue rest
      .long name value
  | ['-'] => .plain
  | '-' :: letters => .short letters
  | _ => .plain

namespace Progress

/-- Take a flag without a value. -/
def takeSwitch (level : Option Command) (p : Progress) (flag : Flag) : Except Stop Progress := do
  let settings ← p.settle.mapError .usage
  if flag = .help then throw (.help (.ofLevel level))
  return ⟨← (settings.accept flag none).mapError .usage, none⟩

def takeLong (level : Option Command) (p : Progress) (name : String) (value : Option String) :
    Except Stop Progress :=
  match (flagsOf level).find? fun flag => flag.name == name, value with
  | none, _ => .error (.usage (.unexpected ("--" ++ name)))
  | some flag, some text =>
      if flag.takesValue then do
        let settings ← p.settle.mapError .usage
        return ⟨← (settings.accept flag (some text)).mapError .usage, none⟩
      else .error (.usage (.unwantedValue flag text))
  | some flag, none =>
      if flag.takesValue then do
        return ⟨← p.settle.mapError .usage, some (flag, none)⟩
      else p.takeSwitch level flag

def takeLetter (level : Option Command) (p : Progress) (letter : Char) : Except Stop Progress :=
  match (flagsOf level).find? fun flag => flag.letter? == some letter with
  | none => .error (.usage (.unexpected (String.ofList ['-', letter])))
  | some flag => p.takeSwitch level flag

end Progress

/-! ## Levels -/

/-- An argument that nothing is waiting for. Before the command it can only be
meant as one, unless `--` came before it and it is the name of one. -/
def stray (level : Option Command) (separated : Bool) (argument : String) : UsageError :=
  let isName := argument = helpName || (Command.ofName? argument).isSome
  if level.isSome || (separated && isName) then .unexpected argument
  else .unknownCommand argument

/-- What a level ends with: the end of the arguments, or the name of a command
or of help and what comes after it. -/
inductive Next where
  | done
  | command (command : Command) (rest : List String)
  | help (rest : List String)

/-- Read the arguments of a level. -/
def readLevel (level : Option Command) : Progress → List String → Except Stop (Progress × Next)
  | p, [] => .ok (p, .done)
  | p, argument :: rest =>
      let named := if level.isNone && !p.expectsValue then
          if argument = helpName then some (Next.help rest)
          else (Command.ofName? argument).map fun command => Next.command command rest
        else none
      match named, Shaped.ofArgument argument with
      | some next, _ => .ok (p, next)
      | none, .separator =>
          match rest with
          | [] => .ok (p, .done)
          | argument :: _ => .error (.usage (stray level true argument))
      | none, .long name value => do readLevel level (← p.takeLong level name value) rest
      | none, .short letters => do readLevel level (← letters.foldlM (·.takeLetter level) p) rest
      | none, .plain =>
          match p.waiting with
          | some (flag, none) =>
              readLevel level { p with waiting := some (flag, some argument) } rest
          | _ => .error (.usage (stray level false argument))

/-! ## The whole -/

/-- Something to do. -/
inductive Task where
  | hash (preimage : Fr)
  | setup
  | prove (preimage hash : Fr)
  | verify
  | run (preimage hash : Fr)
  deriving DecidableEq

/-- A task and the directory its files are in. -/
structure Invocation where
  folder : String
  task : Task
  deriving DecidableEq

def defaultFolder : String := "artifacts"

/-- The task that a command and its settings describe, if they are enough. -/
def Settings.task? (s : Settings) : Command → Option Task
  | .hash => s.preimage.map .hash
  | .setup => some .setup
  | .prove => do return .prove (← s.preimage) (← s.hash)
  | .verify => some .verify
  | .run => do return .run (← s.preimage) (← s.hash)

/-- The required flags that were not given. -/
def Settings.missing (s : Settings) (command : Command) : List Flag :=
  command.required.filter fun flag =>
    match flag with
    | .preimage => s.preimage.isNone
    | .hash => s.hash.isNone
    | _ => false

/-- Read what follows the name of a command. -/
def readCommand (command : Command) (arguments : List String) : Except Stop (Settings × Task) := do
  let (progress, _) ← readLevel (some command) .start arguments
  let settings ← progress.settle.mapError .usage
  match settings.task? command with
  | some task => return (settings, task)
  | none => throw (.usage (.missingFlags (settings.missing command)))

/-- The topic that the arguments of `help` name. -/
def readTopic : List String → Except Stop Topic
  | [] => .ok .program
  | name :: rest =>
      match Command.ofName? name, rest with
      | some command, [] => .ok (.command command)
      | none, [] => if name = helpName then .ok .help else .error (.usage (.unknownCommand name))
      | some _, other :: _ => .error (.usage (.unknownCommand other))
      | none, other :: _ =>
          .error (.usage (.unknownCommand (if name = helpName then other else name)))

/-- The invocation that the arguments describe. -/
def readArguments (arguments : List String) : Except Stop Invocation := do
  let (progress, next) ← readLevel none .start arguments
  match next with
  | .help rest => throw (.help (← readTopic rest))
  | .command command rest =>
      let (inner, task) ← readCommand command rest
      let outer ← progress.settle.mapError .usage
      return ⟨(inner.outDir <|> outer.outDir).getD defaultFolder, task⟩
  | .done =>
      let settings ← progress.settle.mapError .usage
      throw (.usage (if settings.isEmpty then .nothing else .missingCommand))

end CommandLine

end PreimageProof
