import PreimageProof.CommandLine.Disk
import PreimageProof.CommandLine.Program

/-!
# A machine as a value

Surroundings that are a state: a disk, the directory to work in, a source of
scalars, and the text printed so far. Running the program in them is a
function of the arguments and the state before.
-/

namespace PreimageProof

namespace CommandLine

structure Session (σ : Type) where
  disk : Disk
  here : Place
  source : σ
  printed : String

namespace Session

variable {σ : Type}

/-- A directory of its own on an otherwise empty disk. Its name is empty, so a
path from outside does not lead into it. -/
def start (source : σ) : Session σ :=
  let here := [""]
  ⟨Disk.empty.put here .folder, here, source, ""⟩

/-- Change the disk, or leave it when the change fails. -/
def changeDisk (path : String)
    (change : Disk → Place → List String → Except FileError Disk) :
    StateM (Session σ) (Except FileError Unit) := fun session =>
  let changed := do
    let (place, components) ← Disk.parsePath session.here path
    change session.disk place components
  match changed with
  | .ok disk => (.ok (), { session with disk })
  | .error error => (.error error, session)

instance [ScalarSource σ] : Surroundings (StateM (Session σ)) where
  makeFolder path := changeDisk path Disk.makeFolder
  write path content := changeDisk path fun disk start components =>
    disk.write start components content
  read path := fun session =>
    let answer := do
      let (place, components) ← Disk.parsePath session.here path
      session.disk.read place components
    (answer, session)
  print text := modify fun session => { session with printed := session.printed ++ text }
  scalar := fun session =>
    let (x, source) := ScalarSource.next session.source
    (x, { session with source })

/-- Put a file where a path says, with the directories it is in. -/
def install [ScalarSource σ] (path : String) (content : Bytes) :
    StateM (Session σ) (Except FileError Unit) := do
  let made : Except FileError Unit ←
    match ancestors path with
    | folder :: above => makeFolders folder above
    | [] => pure (.ok ())
  match made with
  | .ok () => Surroundings.write path content
  | .error error => return .error error

/-- Run the program: how it ends, what it prints, and the session after it. -/
def run [ScalarSource σ] (arguments : List String) (session : Session σ) :
    Ending × String × Session σ :=
  let (ending, after) := (runProgram arguments : StateM (Session σ) Ending).run
    { session with printed := "" }
  (ending, after.printed, after)

/-- The files in the working directory, in order. -/
def files (session : Session σ) : List String :=
  (session.disk.filesBelow session.here).mergeSort

end Session

end CommandLine

end PreimageProof
