import NativeDeps.Files.Path

/-!
# Files and directories

The part of a file system that the program can see: directories and files by the
names that lead to them from the root.  Every operation says which fault stops it,
and a fault leaves the tree as it was.
-/

namespace NativeDeps.Files

/-- The content of a file: a text, or bytes that are no text. -/
inductive Content
  | text (value : String)
  | bytes (value : List UInt8)
deriving Repr, DecidableEq

/-- What stands at a place. -/
inductive Entry
  | directory
  | file (content : Content)
deriving Repr, DecidableEq

/-- The names that lead to a place from the root. -/
abbrev Location := List Spelling

/-- What can stop an operation on files. -/
inductive Fault
  | missing
  | denied
  | exists
  | notDirectory
  | isDirectory
  | nameTooLong
deriving Repr, DecidableEq

namespace Fault

def number : Fault → Nat
  | .missing => 2
  | .denied => 13
  | .exists => 17
  | .notDirectory => 20
  | .isDirectory => 21
  | .nameTooLong => 36

def text : Fault → String
  | .missing => "No such file or directory"
  | .denied => "Permission denied"
  | .exists => "File exists"
  | .notDirectory => "Not a directory"
  | .isDirectory => "Is a directory"
  | .nameTooLong => "File name too long"

end Fault

namespace Content

def ofBytes (bytes : List UInt8) : Content :=
  match String.fromUTF8? ⟨bytes.toArray⟩ with
  | some decoded => .text decoded
  | none => .bytes bytes

/-- What is left of a text of which only so many bytes can be written. -/
def beginning (text : String) (size : Nat) : Content :=
  ofBytes (text.toUTF8.data.toList.take size)

/-- Add a text at the end. -/
def append (content : Content) (addition : String) : Content :=
  match content with
  | .text value => .text (value ++ addition)
  | .bytes value => .bytes (value ++ addition.toUTF8.data.toList)

end Content

/--
The directories and files, the directory in which relative paths are read, and how many
bytes the files at some places can take; the others take as many as come.
-/
structure Tree where
  entries : List (Location × Entry)
  directory : Location
  limits : List (Location × Nat) := []
deriving Repr, DecidableEq

namespace Tree

/-- What stands at a place; the root is always a directory. -/
def get? (tree : Tree) (location : Location) : Option Entry :=
  if location = [] then
    some .directory
  else
    tree.entries.lookup location

/-- Replace the entry of a place, or add it at the end. -/
def setEntry (location : Location) (entry : Entry) :
    List (Location × Entry) → List (Location × Entry)
  | [] => [(location, entry)]
  | (place, old) :: rest =>
      if place = location then
        (location, entry) :: rest
      else
        (place, old) :: setEntry location entry rest

def set (tree : Tree) (location : Location) (entry : Entry) : Tree :=
  { tree with entries := setEntry location entry tree.entries }

/-- The longest name, and the longest path, in bytes. -/
def nameLimit : Nat := 255

def pathLimit : Nat := 4095

/--
Walk from a place along names: every name but the last has to lead to a
directory, and what the last one leads to may be missing.
-/
def walk (tree : Tree) (location : Location) :
    List Spelling → Except Fault Location
  | [] => .ok location
  | name :: rest =>
      match tree.get? location with
      | none => .error .missing
      | some (.file _) => .error .notDirectory
      | some .directory =>
          if name = ".." then
            walk tree location.dropLast rest
          else if nameLimit < name.byteSize then
            .error .nameTooLong
          else
            walk tree (location ++ [name]) rest

def find (tree : Tree) (path : Path) : Except Fault Location :=
  if pathLimit < path.spelling.byteSize then
    .error .nameTooLong
  else
    tree.walk (if path.anchor = .here then tree.directory else []) path.parts

def entry (tree : Tree) (path : Path) : Except Fault Entry :=
  match tree.find path with
  | .error fault => .error fault
  | .ok location =>
      match tree.get? location with
      | some entry => .ok entry
      | none => .error .missing

/-- Whether a path leads to anything; a name that is too long is a fault. -/
def exists? (tree : Tree) (path : Path) : Except Fault Bool :=
  match tree.entry path with
  | .ok _ => .ok true
  | .error .nameTooLong => .error .nameTooLong
  | .error _ => .ok false

def isDirectory (tree : Tree) (path : Path) : Bool :=
  match tree.entry path with
  | .ok .directory => true
  | _ => false

/-- The content of the file that a path leads to. -/
def read (tree : Tree) (path : Path) : Except Fault Content :=
  match tree.entry path with
  | .error fault => .error fault
  | .ok .directory => .error .isDirectory
  | .ok (.file content) => .ok content

def makeDirectory (tree : Tree) (path : Path) : Except Fault Tree :=
  match tree.find path with
  | .error fault => .error fault
  | .ok location =>
      match tree.get? location with
      | some _ => .error .exists
      | none => .ok (tree.set location .directory)

/-- A fault of making a directory does not matter if the directory is there. -/
def settle (tree : Tree) (path : Path) (fault : Fault) :
    Tree × Option (Fault × Path) :=
  if tree.isDirectory path then (tree, none) else (tree, some (fault, path))

/--
Make a directory and, where they are missing, those above it, `depth` of them at
most.  What was made stays when a fault stops the work.
-/
def makeDirectories (tree : Tree) (path : Path) :
    Nat → Tree × Option (Fault × Path)
  | 0 =>
      match tree.makeDirectory path with
      | .ok made => (made, none)
      | .error .missing => (tree, some (.missing, path))
      | .error fault => settle tree path fault
  | depth + 1 =>
      match tree.makeDirectory path with
      | .ok made => (made, none)
      | .error .missing =>
          match makeDirectories tree path.parent depth with
          | (above, some failure) => (above, some failure)
          | (above, none) =>
              match above.makeDirectory path with
              | .ok made => (made, none)
              | .error fault => settle above path fault
      | .error fault => settle tree path fault

/-- Make a directory with all that are missing above it. -/
def ensureDirectory (tree : Tree) (path : Path) :
    Tree × Option (Fault × Path) :=
  tree.makeDirectories path path.parts.length

/-- Replace the content of a file, or make the file. -/
def write (tree : Tree) (path : Path) (content : Content) :
    Except Fault Tree :=
  match tree.find path with
  | .error fault => .error fault
  | .ok location =>
      match tree.get? location with
      | some .directory => .error .isDirectory
      | _ => .ok (tree.set location (.file content))

/-- The number of bytes after which the writing of a text to a file breaks off. -/
def cut? (tree : Tree) (location : Location) (text : String) : Option Nat :=
  (tree.limits.lookup location).filter (· < text.utf8ByteSize)

/-- What a file holds when a text has been written to it. -/
def kept (tree : Tree) (location : Location) (text : String) : Content :=
  match tree.cut? location text with
  | none => .text text
  | some size => .beginning text size

/-- Open a file for additions: a missing file is made empty, an old one is kept. -/
def openForAppend (tree : Tree) (path : Path) :
    Except Fault (Tree × Location) :=
  match tree.find path with
  | .error fault => .error fault
  | .ok location =>
      match tree.get? location with
      | some .directory => .error .isDirectory
      | some (.file _) => .ok (tree, location)
      | none => .ok (tree.set location (.file (.text "")), location)

/-- Add a text to the file at a place. -/
def append (tree : Tree) (location : Location) (addition : String) : Tree :=
  match tree.get? location with
  | some (.file content) =>
      tree.set location (.file (content.append addition))
  | _ => tree.set location (.file (.text addition))

/-- The entries that are new or changed since an earlier tree. -/
def changesSince (tree earlier : Tree) : List (Location × Entry) :=
  tree.entries.filter fun (location, entry) =>
    earlier.get? location != some entry

end Tree

end NativeDeps.Files
