import NativeDeps.Text.Spelling

/-!
# Paths

Paths as they are written.  A path is read once into its parts: doubled and
closing slashes and the parts `.` carry no meaning and are dropped, while `..` is
kept until the path is resolved, because what it leads to is a matter of the files.
-/

namespace NativeDeps.Files

/-- Where a path starts; two opening slashes are told apart from one. -/
inductive Anchor
  | here
  | root
  | doubleRoot
deriving Repr, DecidableEq

/-- A path: where it starts and the parts that lead on from there. -/
structure Path where
  anchor : Anchor
  parts : List Spelling
deriving Repr, DecidableEq

def splitSlashes : Spelling → List Spelling
  | [] => [[]]
  | letter :: rest =>
      if letter == .char '/' then
        [] :: splitSlashes rest
      else
        match splitSlashes rest with
        | [] => [[letter]]
        | part :: parts => (letter :: part) :: parts

/-- Whether a part between two slashes leads anywhere. -/
def isPart (part : Spelling) : Bool :=
  !part.isEmpty && part != [.char '.']

/-- Where a path with this spelling starts. -/
def anchorOf (spelling : Spelling) : Anchor :=
  match (spelling.takeWhile (· == .char '/')).length with
  | 0 => .here
  | 2 => .doubleRoot
  | _ => .root

namespace Anchor

def text : Anchor → String
  | .here => ""
  | .root => "/"
  | .doubleRoot => "//"

end Anchor

namespace Path

def ofSpelling (spelling : Spelling) : Path where
  anchor := anchorOf spelling
  parts := (splitSlashes spelling).filter isPart

def ofString (text : String) : Path :=
  ofSpelling text

/-- Write a path; the path without parts that starts here is a single dot. -/
def spelling (path : Path) : Spelling :=
  if path.anchor = .here ∧ path.parts = [] then
    "."
  else
    path.anchor.text ++ List.intercalate "/" path.parts

/-- A path as it is shown to the user. -/
def toString (path : Path) : String :=
  path.spelling.shown

/-- Go on from a path along another one, which replaces it if it starts at the root. -/
def join (path other : Path) : Path :=
  match other.anchor with
  | .here => ⟨path.anchor, path.parts ++ other.parts⟩
  | _ => other

/-- The path one part shorter; a path without parts is its own parent. -/
def parent (path : Path) : Path :=
  ⟨path.anchor, path.parts.dropLast⟩

/-- One part of a walk from the root, where `..` at the root leads nowhere. -/
def stepLexically (location : List Spelling) (part : Spelling) :
    List Spelling :=
  if part = ".." then location.dropLast else location ++ [part]

/--
The place a path denotes as far as its text tells, as the names that lead to it
from the root, for a path that is read in a working directory.
-/
def location (directory : List Spelling) (path : Path) : List Spelling :=
  path.parts.foldl stepLexically
    (if path.anchor = .here then directory else [])

def ofLocation (location : List Spelling) : Path :=
  ⟨.root, location⟩

/-- Make a path start at the root and free it of `..`, and keep two opening slashes. -/
def absolute (directory : List Spelling) (path : Path) : Path :=
  ⟨if path.anchor = .doubleRoot then .doubleRoot else .root,
    path.location directory⟩

/-- Make a path start at the one root and free it of `..`. -/
def resolve (directory : List Spelling) (path : Path) : Path :=
  ofLocation (path.location directory)

/-- Whether a path holds the character that no file name can hold. -/
def hasNull (path : Path) : Bool :=
  path.parts.any fun part => part.contains (.char '\x00')

/-- Whether a path holds a half of a character that no file name can hold. -/
def hasHalf (path : Path) : Bool :=
  path.parts.any fun part => part.any fun letter => !letter.isNameable

end Path

end NativeDeps.Files
