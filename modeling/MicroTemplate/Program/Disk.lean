import MicroTemplate.Program.Platform
import MicroTemplate.Text.Search

/-!
# Disks in memory

A tree of files and directories as a value. A path is followed from the top of the tree, name by
name; all names but the last have to lead to directories. The top is its own parent.
-/

namespace MicroTemplate.Program

open Calendar

/-- What a path leads to. -/
inductive Entry where
  /-- A file and what it holds. -/
  | file (content : ByteArray)
  /-- A directory. -/
  | directory

/-- A tree of files and directories. -/
structure Disk where
  /-- The entries below the top, under the names that lead to them. -/
  entries : List (List String × Entry)

/-- The end of a path: the directory that the names before the last one lead to, and the last name,
if it stands for something in that directory. -/
structure Place where
  /-- The names that lead to the directory. -/
  parent : List String
  /-- The last name. -/
  name : Option String
  /-- Whether a slash follows, so that only a directory is meant. -/
  slashed : Bool

namespace Disk

/-- What some names lead to. -/
def entry? (disk : Disk) (names : List String) : Option Entry :=
  if names.isEmpty then some .directory else disk.entries.lookup names

/-- The entries with one of them put in place of what was there. -/
def putEntry (names : List String) (entry : Entry) :
    List (List String × Entry) → List (List String × Entry)
  | [] => [(names, entry)]
  | e :: rest =>
    if e.1 = names then (names, entry) :: rest else e :: putEntry names entry rest

/-- The disk with an entry put in place of what was there. -/
def put (disk : Disk) (names : List String) (entry : Entry) : Disk :=
  ⟨putEntry names entry disk.entries⟩

/-- The directory that a name leads to from another one. -/
def descend (disk : Disk) (directory : List String) (name : String) :
    Except FileFault (List String) :=
  if name = "." then .ok directory
  else if name = ".." then .ok directory.dropLast
  else if 255 < name.utf8ByteSize then .error .nameTooLong
  else
    match disk.entry? (directory ++ [name]) with
    | some .directory => .ok (directory ++ [name])
    | some (.file _) => .error .notDirectory
    | none => .error .notFound

/-- The names that a path is made of. -/
def namesOf (path : String) : List String :=
  ((path.toList.splitBy fun a b => a != '/' && b != '/').map String.ofList).filter (· != "/")

/-- The end of a path. -/
def place (disk : Disk) (path : String) : Except FileFault Place :=
  if path.isEmpty then .error .notFound
  else if 4095 < path.utf8ByteSize then .error .nameTooLong
  else do
    let names := namesOf path
    let slashed := path.toList.getLast? = some '/'
    let parent ← names.dropLast.foldlM disk.descend []
    match names.getLast? with
    | none => return ⟨parent, none, slashed⟩
    | some name =>
      if name = "." || name = ".." then
        return ⟨← disk.descend parent name, none, slashed⟩
      else if 255 < name.utf8ByteSize then .error .nameTooLong
      else return ⟨parent, some name, slashed⟩

/-- What the file of a path holds. -/
def read (disk : Disk) (path : String) : Except FileFault ByteArray := do
  let place ← disk.place path
  match place.name with
  | none => .error .isDirectory
  | some name =>
    match disk.entry? (place.parent ++ [name]) with
    | none => .error .notFound
    | some .directory => .error .isDirectory
    | some (.file content) => if place.slashed then .error .notDirectory else .ok content

/-- Whether a path leads to something. -/
def pathExists (disk : Disk) (path : String) : Bool :=
  match disk.read path with
  | .ok _ => true
  | .error fault => fault = .isDirectory

/-- The disk with the file of a path holding something else. The file is made if there is none. -/
def write (disk : Disk) (path : String) (content : ByteArray) : Except FileFault Disk := do
  let place ← disk.place path
  match place.name, place.slashed with
  | some name, false =>
    match disk.entry? (place.parent ++ [name]) with
    | some .directory => .error .isDirectory
    | _ => .ok (disk.put (place.parent ++ [name]) (.file content))
  | _, _ => .error .isDirectory

end Disk

/-- A system with a clock, a disk in memory, a home directory on it and an input. -/
def Platform.inMemory (clock : Stage → DateTime) (capacity : Nat) (home : String)
    (input : ByteArray) : Platform (StateM Disk) where
  now stage := return clock stage
  capacity := capacity
  home := return home
  pathExists path := return (← get).pathExists path
  readFile path := return (← get).read path
  readInput := return .ok input
  writeFile path text := do
    match (← get).write path text.toUTF8 with
    | .ok disk => set disk; return .ok ()
    | .error fault => return .error fault

end MicroTemplate.Program
