import ScopedSearch.Text.Split

/-!
# Paths

A path is a root and the names on the way from it. Repeated slashes and single dots say nothing and
are left out; double dots are kept, as what they lead back from need not be a directory. Two slashes
in front make a root of their own.
-/

namespace ScopedSearch

open ScopedSearch.Text

/-- Where a path starts. -/
inductive PathRoot where
  /-- The working directory. -/
  | relative
  | slash
  | doubleSlash
  deriving DecidableEq, Repr

def PathRoot.text : PathRoot → String
  | relative => ""
  | slash => "/"
  | doubleSlash => "//"

/-- A root and the names on the way from it. -/
structure Path where
  root : PathRoot
  parts : List String
  deriving DecidableEq, Repr

namespace Path

/-- The root of a written path: two slashes in front count only if a third does not follow. -/
def rootOf : List Char → PathRoot
  | '/' :: '/' :: '/' :: _ => .slash
  | '/' :: '/' :: _ => .doubleSlash
  | '/' :: _ => .slash
  | _ => .relative

def parse (text : String) : Path where
  root := rootOf text.toList
  parts := (splitText '/' text).filter fun part => part ≠ "" && part ≠ "."

/-- How a path is written; nothing at all is written as a dot. -/
def text (path : Path) : String :=
  match path.root, path.parts with
  | .relative, [] => "."
  | root, parts => root.text ++ "/".intercalate parts

/-- A path that does not start in the working directory. -/
def isAbsolute (path : Path) : Bool := path.root ≠ .relative

/-- The second path taken from where the first one leads. -/
def join (first second : Path) : Path :=
  if second.isAbsolute then second else ⟨first.root, first.parts ++ second.parts⟩

/-- The path without its last name. -/
def parent (path : Path) : Path := ⟨path.root, path.parts.dropLast⟩

/-- A name in the directory of a path. -/
def child (path : Path) (name : String) : Path := ⟨path.root, path.parts ++ [name]⟩

theorem join_absolute {second : Path} (first : Path) (h : second.isAbsolute = true) :
    first.join second = second := if_pos h

theorem parent_child (path : Path) (name : String) : (path.child name).parent = path := by
  simp [parent, child]

end Path

end ScopedSearch
