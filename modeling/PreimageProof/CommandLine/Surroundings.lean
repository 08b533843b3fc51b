import PreimageProof.Bytes
import PreimageProof.Field.Bn254

/-!
# What a command finds around it

A command reads and writes files, prints, and uses up random scalars. It asks
for these of its surroundings and for nothing else, so that the same command
runs on a real machine, where operations have effects, and on a value that
stands for one, where they can be reasoned about.
-/

namespace PreimageProof

namespace CommandLine

/-- Why an operation on files failed: its description and its number. -/
structure FileError where
  description : String
  number : Nat
  deriving DecidableEq

namespace FileError

def message (error : FileError) : String := s!"{error.description} (os error {error.number})"

def notFound : FileError := ⟨"No such file or directory", 2⟩

def alreadyExists : FileError := ⟨"File exists", 17⟩

def notFolder : FileError := ⟨"Not a directory", 20⟩

def isFolder : FileError := ⟨"Is a directory", 21⟩

def nameTooLong : FileError := ⟨"File name too long", 36⟩

end FileError

/-- The operations that commands are made of. -/
class Surroundings (m : Type → Type) where
  /-- Make a directory where there is nothing, in one that exists. -/
  makeFolder : (path : String) → m (Except FileError Unit)
  /-- Replace the content of a file, or make one. -/
  write : (path : String) → Bytes → m (Except FileError Unit)
  read : (path : String) → m (Except FileError Bytes)
  print : String → m Unit
  /-- A random scalar. -/
  scalar : m Fr

end CommandLine

end PreimageProof
