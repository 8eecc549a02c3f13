import EventRelay.Settings.FileError
import EventRelay.Text.Number

/-!
# Files and their names

A path leads from the working directory, or from the root, through directories to a file. Each part
of it is looked up where the parts before it lead.

* `FileTree.open?`: what a path leads to, or why it leads nowhere.
* `FileTree.put`: the files once there is one more.
* `walk_singleton`: a name that is known leads to what has it.
* `walk_file`: nothing lies below a file.
-/

namespace EventRelay

/-- What a name stands for. -/
inductive FileEntry where
  | directory
  | file (content : ByteArray)

/-- A place: directories above the working directory, or above everything when there is no number,
and the names that lead down from there, the last one first. -/
structure FilePlace where
  above : Option Nat
  names : List String
  deriving DecidableEq

namespace FilePlace

/-- The working directory. -/
def here : FilePlace := ⟨some 0, []⟩

/-- The directory above everything. -/
def root : FilePlace := ⟨none, []⟩

/-- The place that a part of a path leads to. -/
def step (place : FilePlace) (part : String) : FilePlace :=
  if part = "" ∨ part = "." then place
  else if part = ".." then
    match place.names with
    | _ :: names => { place with names := names }
    | [] => { place with above := place.above.map (· + 1) }
  else { place with names := part :: place.names }

/-- Where a path starts. -/
def start (path : String) : FilePlace := if path.toList.head? = some '/' then root else here

end FilePlace

/-- The files and directories that are there. Directories without a name always are. -/
structure FileTree where
  entries : List (FilePlace × FileEntry)

namespace FileTree

/-- No files at all. -/
def empty : FileTree := ⟨[]⟩

/-- What is at a place. -/
def find? (tree : FileTree) (place : FilePlace) : Option FileEntry :=
  if place.names.isEmpty then some .directory
  else (tree.entries.find? (fun e => e.1 = place)).map (·.2)

/-- The parts of a path. -/
def parts (path : String) : List String := Text.splitString '/' path

/-- The places that parts of a path lead through. -/
def passed (place : FilePlace) : List String → List FilePlace
  | [] => []
  | part :: rest => place.step part :: passed (place.step part) rest

/-- The files once a path leads to an entry, through directories. -/
def put (tree : FileTree) (path : String) (entry : FileEntry) : FileTree :=
  let places := (passed (.start path) (parts path)).reverse
  ⟨(places.take 1).map (·, entry) ++ (places.drop 1).map (·, .directory) ++ tree.entries⟩

/-- The longest name that a directory can hold, in bytes. -/
def maxNameBytes : Nat := 255

/-- The longest path, in bytes. -/
def maxPathBytes : Nat := 4095

/-- What the rest of a path leads to from an entry at a place. -/
def walk (tree : FileTree) (place : FilePlace) (entry : FileEntry) :
    List String → Except FileError FileEntry
  | [] => .ok entry
  | part :: rest =>
    match entry with
    | .file _ => .error .notDirectory
    | .directory =>
      if maxNameBytes < part.utf8ByteSize then .error .nameTooLong
      else match tree.find? (place.step part) with
        | some entry => walk tree (place.step part) entry rest
        | none => .error .notFound

/-- What a path leads to, or why it leads nowhere. -/
def open? (tree : FileTree) (path : String) : Except FileError FileEntry :=
  if path.toList.contains '\x00' then .error .nulInName
  else if path.isEmpty then .error .notFound
  else if maxPathBytes < path.utf8ByteSize then .error .nameTooLong
  else walk tree (.start path) .directory (parts path)

/-- A short name that is known leads to what has it. -/
theorem walk_singleton {tree : FileTree} {place : FilePlace} {part : String} {entry : FileEntry}
    (hsize : part.utf8ByteSize ≤ maxNameBytes) (h : tree.find? (place.step part) = some entry) :
    tree.walk place .directory [part] = .ok entry := by
  simp [walk, h, Nat.not_lt.2 hsize]

/-- Nothing lies below a file. -/
theorem walk_file (tree : FileTree) (place : FilePlace) (content : ByteArray) (part : String)
    (rest : List String) :
    tree.walk place (.file content) (part :: rest) = .error .notDirectory := rfl

end FileTree
end EventRelay
