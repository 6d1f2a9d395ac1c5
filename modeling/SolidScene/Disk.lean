import SolidScene.Fault

/-!
# Disks

A tree of files and directories, as far as a scene reads and writes it. A name leads through it from
the root or from the working directory. A file can only be created in a directory that exists and
takes files; there is no other way for reading or writing to fail, apart from a name that is too
long, a directory in the place of a file, and content that is not text.
-/
namespace SolidScene

/-- The text of a file, or why it has none. -/
abbrev Content := Except FileFault String

/-- What stands behind each name; nothing if there is no such file. -/
abbrev Files := String → Option Content

def Files.read (files : Files) (name : String) : Content := (files name).getD (.error .missing)

structure Disk where
  files : List (List String × Content)
  directories : List (List String)

namespace Disk

/-! ## Names -/

/-- The path of the working directory: one of its own among the temporary ones. It is known by no
name, so its last part is one that no step of a name can be. -/
def workingDirectory : List String := ["tmp", "/"]

def longestName : Nat := 255

/-- The most bytes of a name with all its steps. -/
def longestPath : Nat := 4095

def steps (name : String) : List String := (name.toList.splitOn '/').map String.ofList

/-- Where the steps of a name begin. -/
def start (name : String) : List String := if name.startsWith "/" then [] else workingDirectory

/-- The directory of what a run has open. -/
def openDirectory : List String := ["proc", "self", "fd"]

/-- Paths that stand for another one. -/
def links : List (List String × List String) :=
  [(["dev", "stdin"], openDirectory ++ ["0"]), (["dev", "stdout"], openDirectory ++ ["1"]),
    (["dev", "stderr"], openDirectory ++ ["2"]), (["dev", "fd"], openDirectory),
    (["proc", "self", "cwd"], workingDirectory), (["proc", "self", "root"], [])]

/-- Where a step leads: nowhere else, upwards, or to what a name stands for. The root is above
itself. -/
def advance (here : List String) (step : String) : List String :=
  if step = "" || step = "." then here
  else if step = ".." then here.dropLast
  else
    let path := here ++ [step]
    (links.lookup path).getD path

/-- A step, which has to start in a directory. -/
def step? (d : Disk) (here : List String) (step : String) : Option (List String) :=
  if d.directories.contains here && step.utf8ByteSize ≤ longestName then some (advance here step)
  else none

def path? (d : Disk) (name : String) : Option (List String) :=
  if name.isEmpty || longestPath < name.utf8ByteSize then none
  else (steps name).foldlM d.step? (start name)

/-! ## Reading and writing -/

def file? (d : Disk) (path : List String) : Option Content :=
  (d.files.find? (·.1 == path)).map (·.2)

/-- The files of a disk by their names. A directory has a name too, but no text. -/
def contents (d : Disk) : Files := fun name => do
  let path ← d.path? name
  match d.file? path with
  | some content => return content
  | none => if d.directories.contains path then some (.error .directory) else none

/-- Whether a file may be at a path: not right below the root, nor where the system keeps its own
names. -/
def takesFile (path : List String) : Bool :=
  1 < path.length && path.head? != some "dev" && path.head? != some "proc"

/-- The disk with a file replaced or created. -/
def write (d : Disk) (name text : String) : Except FileFault Disk :=
  match d.path? name with
  | none => .error .missing
  | some path =>
    if d.directories.contains path then .error .directory
    else if !takesFile path then .error (.refused "Permission denied (os error 13)")
    else .ok { d with files := (path, .ok text) :: d.files.filter (·.1 != path) }

/-- The disk with an empty file under a name, whatever the file held. -/
def create (d : Disk) (name : String) : Except FileFault Disk := d.write name ""

/-- The disk with text behind what a file holds. -/
def append (d : Disk) (name text : String) : Disk :=
  match d.path? name with
  | none => d
  | some path =>
    { d with files := d.files.map fun f =>
        if f.1 == path then (f.1, f.2.map (· ++ text)) else f }

/-! ## Building -/

def commonDirectories : List (List String) :=
  [[], ["dev"], ["proc"], ["proc", "self"], openDirectory, ["tmp"], workingDirectory]

/-- A disk that holds the given files in their directories. Of two files at one path the later one
is there. -/
def ofFiles (files : List (String × Content)) : Disk :=
  let entries := files.map fun f => ((steps f.1).foldl advance (start f.1), f.2)
  { files := entries.reverse
    directories :=
      commonDirectories ++ entries.flatMap fun e => (List.range e.1.length).map e.1.take }

end Disk

end SolidScene
