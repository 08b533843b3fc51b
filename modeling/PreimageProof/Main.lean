import PreimageProof.CommandLine.Program

/-!
# The program on a real machine

Files, output and randomness as the operating system gives them. Everything
else is in `runProgram`.
-/

namespace PreimageProof

namespace CommandLine

/-- An error of the operating system, as it describes it. -/
def FileError.ofSystem : IO.Error → FileError
  | .noFileOrDirectory _ code details => ⟨details, code.toNat⟩
  | .alreadyExists _ code details => ⟨details, code.toNat⟩
  | .inappropriateType _ code details => ⟨details, code.toNat⟩
  | .permissionDenied _ code details => ⟨details, code.toNat⟩
  | .invalidArgument _ code details => ⟨details, code.toNat⟩
  | .resourceExhausted _ code details => ⟨details, code.toNat⟩
  | .noSuchThing _ code details => ⟨details, code.toNat⟩
  | .resourceBusy code details => ⟨details, code.toNat⟩
  | .resourceVanished code details => ⟨details, code.toNat⟩
  | .unsatisfiedConstraints code details => ⟨details, code.toNat⟩
  | .unsupportedOperation code details => ⟨details, code.toNat⟩
  | .hardwareFault code details => ⟨details, code.toNat⟩
  | .illegalOperation code details => ⟨details, code.toNat⟩
  | .otherError code details => ⟨details, code.toNat⟩
  | error => ⟨toString error, 0⟩

/-- Run an action, its errors as values. -/
def caught {α : Type} (action : IO α) : IO (Except FileError α) := do
  try
    return .ok (← action)
  catch error => return .error (.ofSystem error)

/-- Words enough that their number is close to uniform below the modulus. -/
def randomScalar : IO Fr := do
  let bytes ← IO.getRandomBytes 64
  return (Bytes.ofLittleEndian bytes.toList : Fr)

instance : Surroundings IO where
  makeFolder path := caught (IO.FS.createDir path)
  write path bytes := caught (IO.FS.writeBinFile path ⟨bytes.toArray⟩)
  read path := caught (IO.FS.withFile path .read fun file => do
    return (← file.readBinToEnd).toList)
  print text := do (← IO.getStdout).putStr text
  scalar := randomScalar

end CommandLine

end PreimageProof

open PreimageProof.CommandLine in
def main (arguments : List String) : IO UInt32 := do
  let ending ← (runProgram arguments : IO Ending)
  (← IO.getStderr).putStr ending.complaint
  return UInt32.ofNat ending.code
