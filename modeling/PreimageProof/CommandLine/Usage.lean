import PreimageProof.CommandLine.Scalar
import PreimageProof.Text.Visible

/-!
# What can be typed

The commands, the options they take, and what is said to a user who types
something else. Every option but the ones for help and verbosity takes a
value; those of a command are required and can be given once.
-/

namespace PreimageProof

namespace CommandLine

def programName : String := "zkcli"

inductive Flag where
  | outDir
  | verbose
  | preimage
  | hash
  | help
  deriving DecidableEq

namespace Flag

def name : Flag → String
  | outDir => "out-dir"
  | verbose => "verbose"
  | preimage => "preimage"
  | hash => "hash"
  | help => "help"

def letter? : Flag → Option Char
  | verbose => some 'v'
  | help => some 'h'
  | _ => none

/-- The word for the value, for flags that take one. -/
def value? : Flag → Option String
  | outDir => some "OUT_DIR"
  | preimage => some "PREIMAGE"
  | hash => some "HASH"
  | verbose => none
  | help => none

def takesValue (flag : Flag) : Bool := flag.value?.isSome

/-- The flag as usage texts write it; three dots say that it can be repeated. -/
def usage (flag : Flag) : String :=
  "--" ++ flag.name ++
    match flag, flag.value? with
    | _, some value => " <" ++ value ++ ">"
    | verbose, none => "..."
    | _, none => ""

/-- Flags that every command takes, and that can be given before it. -/
def general : List Flag := [outDir, verbose, help]

end Flag

inductive Command where
  | hash
  | setup
  | prove
  | verify
  | run
  deriving DecidableEq

namespace Command

def all : List Command := [hash, setup, prove, verify, run]

def name : Command → String
  | hash => "hash"
  | setup => "setup"
  | prove => "prove"
  | verify => "verify"
  | run => "run"

def ofName? (text : String) : Option Command := all.find? fun command => command.name == text

/-- The flags a command cannot do without. -/
def required : Command → List Flag
  | hash => [.preimage]
  | prove => [.preimage, .hash]
  | run => [.preimage, .hash]
  | setup => []
  | verify => []

end Command

/-- The command that lists the others. -/
def helpName : String := "help"

/-- The flags understood before a command, or after the given one. -/
def flagsOf : Option Command → List Flag
  | none => Flag.general
  | some command => command.required ++ Flag.general

/-- Why the arguments are none. -/
inductive UsageError where
  | nothing
  | missingCommand
  | unknownCommand (text : String)
  | unexpected (argument : String)
  | missingFlags (flags : List Flag)
  | missingValue (flag : Flag)
  | unwantedValue (flag : Flag) (text : String)
  | repeated (flag : Flag)
  | invalidValue (flag : Flag) (text : String) (fault : ScalarFault)
  deriving DecidableEq

namespace UsageError

/-- What is wrong, with the user's words highlighted. -/
def summary : UsageError → String
  | nothing => ""
  | missingCommand => s!"'{programName}' requires a subcommand but one was not provided"
  | unknownCommand text => s!"unrecognized subcommand '{Text.highlighted text}'"
  | unexpected argument => s!"unexpected argument '{Text.highlighted argument}' found"
  | missingFlags flags =>
      "the following required arguments were not provided:" ++
        String.join (flags.map fun flag => "\n  " ++ flag.usage)
  | missingValue flag => s!"a value is required for '{flag.usage}' but none was supplied"
  | unwantedValue flag text =>
      s!"unexpected value '{Text.highlighted text}' for '{flag.usage}' found; " ++
        "no more were expected"
  | repeated flag => s!"the argument '{flag.usage}' cannot be used multiple times"
  | invalidValue flag text fault =>
      s!"invalid value '{Text.highlighted text}' for '{flag.usage}': {fault.message}"

/-- What the user reads, where nothing is shown in colour. -/
def message (error : UsageError) : String :=
  Text.visible ("error: " ++ error.summary ++ "\n\nFor more information, try '--help'.\n")

end UsageError

end CommandLine

end PreimageProof
