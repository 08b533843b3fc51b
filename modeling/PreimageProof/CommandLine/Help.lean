import PreimageProof.CommandLine.Arguments

/-!
# Help

What `--help` prints, for the program and for each command, from the same
tables that the arguments are read with.
-/

namespace PreimageProof

namespace CommandLine

def Command.purpose : Command → String
  | .hash => "Print MiMC(preimage) in decimal"
  | .setup => "Run the trusted setup and export the verifier contract"
  | .prove => "Prove knowledge of a preimage of the given hash"
  | .verify => "Check the stored proof against the stored verifying key"
  | .run => "Setup, prove and verify in one go"

def Flag.purpose : Flag → String
  | .outDir =>
      s!"Directory artifacts are read from and written to [default: {defaultFolder}]"
  | .verbose => "Repeat for more log output (-v, -vv, -vvv)"
  | .preimage => ""
  | .hash => ""
  | .help => "Print help"

namespace Help

def programPurpose : String := "Generate and check zkSNARK proofs of a MiMC preimage"

def helpPurpose : String := "Print this message or the help of the given subcommand(s)"

/-- Two columns under a title, the second beginning at one place in all rows. -/
def table (title : String) (rows : List (String × String)) : List String :=
  let width := (rows.map fun row => row.1.length).foldl max 0
  title :: rows.map fun (left, right) =>
    "  " ++ left ++ String.ofList (List.replicate (width + 2 - left.length) ' ') ++ right

/-- A flag in the list of flags; those without a letter leave its place blank. -/
def flagRow (flag : Flag) : String × String :=
  let letter := match flag.letter? with
    | some c => String.ofList ['-', c, ',', ' ']
    | none => "    "
  (letter ++ flag.usage, flag.purpose)

/-- The flags in the order they are listed. -/
def listed : Option Command → List Flag
  | some .hash => [.outDir, .preimage, .verbose, .help]
  | some .prove => [.outDir, .preimage, .hash, .verbose, .help]
  | some .run => [.outDir, .preimage, .hash, .verbose, .help]
  | _ => [.outDir, .verbose, .help]

def flags (level : Option Command) : List String := table "Options:" ((listed level).map flagRow)

def commands : List String :=
  table "Commands:" (Command.all.map (fun c => (c.name, c.purpose)) ++ [(helpName, helpPurpose)])

def lines : Topic → List String
  | .program =>
      [programPurpose, "", s!"Usage: {programName} [OPTIONS] <COMMAND>", ""] ++ commands ++ [""] ++
        flags none
  | .command command =>
      let required := String.join (command.required.map fun flag => " " ++ flag.usage)
      [command.purpose, "", s!"Usage: {programName} {command.name} [OPTIONS]{required}", ""] ++
        flags (some command)
  | .help =>
      [helpPurpose, "", s!"Usage: {programName} {helpName} [COMMAND]...", ""] ++
        table "Arguments:" [("[COMMAND]...", "Print help for the subcommand(s)")]

def text (topic : Topic) : String := String.join ((lines topic).map (· ++ "\n"))

end Help

end CommandLine

end PreimageProof
