import PreimageProof.CommandLine.Surroundings

/-!
# A disk as a value

Directories and files by their paths, for running commands without a machine.
A path leads from component to component, and every component but the last
has to be a directory on the way; `.` stays where it is and `..` goes back.
Names and paths have a largest size in bytes. Operations fail as they do on a
machine, for the same reasons and with the same errors.
-/

namespace PreimageProof

namespace CommandLine

inductive Node where
  | folder
  | file (content : Bytes)
  deriving DecidableEq

/-- The names that lead to a node from the root. -/
abbrev Place : Type := List String

/-- Every node but the root, each behind the directory it is in. -/
structure Disk where
  nodes : List (Place × Node)
  deriving DecidableEq

namespace Disk

def empty : Disk := ⟨[]⟩

def node? (disk : Disk) : Place → Option Node
  | [] => some .folder
  | place => disk.nodes.lookup place

/-- Put a node in a place, in exchange for one that is there. -/
def put (disk : Disk) (place : Place) (node : Node) : Disk :=
  ⟨disk.nodes.filter (fun entry => entry.1 ≠ place) ++ [(place, node)]⟩

/-! ## Paths -/

/-- How many bytes the name of a file or directory has at most. -/
def longestName : Nat := 255

/-- How many bytes a path has at most. -/
def longestPath : Nat := 4095

/-- Where a path starts, and its components. -/
def parsePath (here : Place) (path : String) : Except FileError (Place × List String) :=
  if longestPath < path.utf8ByteSize then .error .nameTooLong
  else
    let components := (path.splitOn "/").filter fun name => name ≠ ""
    .ok (if path.toList.head? = some '/' then [] else here, components)

/-- One component further. Whether a name is too long is seen where it is looked
for, which is in a directory. -/
def enter (disk : Disk) (place : Place) (name : String) : Except FileError Place :=
  match disk.node? place with
  | none => .error .notFound
  | some (.file _) => .error .notFolder
  | some .folder =>
      if name = "." then .ok place
      else if name = ".." then .ok place.dropLast
      else if longestName < name.utf8ByteSize then .error .nameTooLong
      else .ok (place ++ [name])

/-- The place that components lead to. All but the last have to exist. -/
def follow (disk : Disk) (start : Place) (components : List String) : Except FileError Place :=
  components.foldlM disk.enter start

/-! ## Operations -/

/-- Make the directory that the components lead to. -/
def makeFolder (disk : Disk) (start : Place) (components : List String) :
    Except FileError Disk := do
  let place ← disk.follow start components
  match disk.node? place with
  | some _ => .error .alreadyExists
  | none => .ok (disk.put place .folder)

def read (disk : Disk) (start : Place) (components : List String) : Except FileError Bytes := do
  match disk.node? (← disk.follow start components) with
  | none => .error .notFound
  | some .folder => .error .isFolder
  | some (.file content) => .ok content

def write (disk : Disk) (start : Place) (components : List String) (content : Bytes) :
    Except FileError Disk := do
  let place ← disk.follow start components
  match disk.node? place with
  | some .folder => .error .isFolder
  | _ => .ok (disk.put place (.file content))

/-- The files below a place, by their path from there. -/
def filesBelow (disk : Disk) (here : Place) : List String :=
  disk.nodes.filterMap fun (place, node) =>
    match node with
    | .folder => none
    | .file _ =>
        if here.isPrefixOf place then some ("/".intercalate (place.drop here.length)) else none

end Disk

end CommandLine

end PreimageProof
