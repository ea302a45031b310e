import ScopedSearch.Entries
import ScopedSearch.Settings.Path
import ScopedSearch.Text.Surrogate

/-!
# Files

The files that settings and registries are read from and a trace is written to: texts and
directories around a working directory. A way through the tree leads through directories only.
Names and paths are kept as bytes, which bounds their length and leaves some texts without a path.
-/

namespace ScopedSearch

open ScopedSearch.Text

/-- What is found in a directory. -/
inductive FileEntry where
  | text (content : String)
  | directory
  deriving DecidableEq, Repr

/-- Why a path leads to nothing. -/
inductive PathFault where
  /-- What it names is not there. -/
  | missing
  /-- A name on the way, or the path, is too long. -/
  | tooLong
  /-- It holds the zero character, at which a path ends. -/
  | zeroCharacter
  /-- It holds a lone surrogate that is kept for no byte. -/
  | loneSurrogate
  deriving DecidableEq, Repr

/-- A place, by the names on the way from the root, each as its bytes. -/
abbrev Place := List (List UInt8)

/-- A working directory, and what is found at which place. -/
structure FileTree where
  /-- The names on the way to the working directory. -/
  base : List String
  entries : Entries Place FileEntry

/-! ## Paths as bytes -/

namespace Path

/-- A lone surrogate in this range is kept for a byte that is part of no character. -/
def isKeptByte (unit : Nat) : Bool := 0xdc80 ≤ unit && unit ≤ 0xdcff

def bytesOf : CodePoint → List UInt8
  | .char c => String.utf8EncodeChar c
  | .surrogate unit => [UInt8.ofNat (unit - 0xdc00)]

/-- The bytes of a name or a path. -/
def bytes (s : String) : List UInt8 := (codePoints s.toList).flatMap bytesOf

def nameLimit : Nat := 255

def lengthLimit : Nat := 4095

/-- Why a path cannot be used, wherever it leads. -/
def fault? (path : Path) : Option PathFault :=
  let cs := path.text.toList
  if ((codePoints cs).filterMap CodePoint.surrogate?).any (!isKeptByte ·) then some .loneSurrogate
  else if cs.any fun c => c.toNat = 0 then some .zeroCharacter
  else if (bytes path.text).length > lengthLimit then some .tooLong
  else none

/-- The place that names lead to from the root. -/
def place (names : List String) : Place := names.map bytes

end Path

namespace FileTree

/-! ## Finding -/

variable (tree : FileTree)

def workingDirectory : Path := ⟨.slash, tree.base⟩

/-- What is found at a place: the working directory and what is above it are directories, as is
everything that something else is in. -/
def entryAt (place : Place) : Option FileEntry :=
  if place <+: Path.place tree.base then some .directory
  else
    match tree.entries.get? place with
    | some entry => some entry
    | none => if tree.entries.any fun entry => place <+: entry.1 then some .directory else none

/-- Where a path starts. -/
def start (path : Path) : Place := if path.isAbsolute then [] else Path.place tree.base

def step (place : Place) (name : String) : Place :=
  if name = ".." then place.dropLast else place ++ [Path.bytes name]

def nameTooLong (name : String) : Bool := (Path.bytes name).length > Path.nameLimit

/-- The number of bytes of the path from the root to a place, with a slash before every name. -/
def pathLength (place : Place) : Nat :=
  place.foldl (fun length name => length + 1 + name.length) 0

/-- The place that names lead to through directories that are there. -/
def follow (place : Place) : List String → Except PathFault Place
  | [] => .ok place
  | name :: rest =>
    if tree.entryAt place ≠ some .directory then .error .missing
    else if nameTooLong name then .error .tooLong
    else follow (step place name) rest

def find (path : Path) : Except PathFault FileEntry :=
  match path.fault? with
  | some fault => .error fault
  | none => do
    let place ← tree.follow (tree.start path) path.parts
    match tree.entryAt place with
    | some entry => return entry
    | none => .error .missing

/-! ## Making -/

/-- The tree with something at a place where nothing was. -/
def add (place : Place) (entry : FileEntry) : FileTree :=
  if (tree.entryAt place).isSome then tree
  else { tree with entries := tree.entries ++ [(place, entry)] }

/-- The tree in which the directories that names lead through are made as far as can be, and the
place that they lead to, if it can be reached: no file is on the way and no name is too long. -/
def makeDirectories (tree : FileTree) (place : Place) : List String → FileTree × Option Place
  | [] =>
    let made := tree.add place .directory
    (made, if made.entryAt place = some .directory then some place else none)
  | name :: rest =>
    let made := tree.add place .directory
    if made.entryAt place ≠ some .directory || nameTooLong name then (made, none)
    else makeDirectories made (step place name) rest

/-- The tree in which a file is ready to be written at the end of its text, and the text that it
had, unless it cannot be written there. -/
def openFile (place : Place) : FileTree × Option String :=
  if pathLength place > Path.lengthLimit then (tree, none)
  else
    match tree.entryAt place with
    | some .directory => (tree, none)
    | some (.text content) => (tree, some content)
    | none => (tree.add place (.text ""), some "")

/-- Opens the file of this name in the directory of a path, which is made if it is missing. A path
that is too long leads to no file, one that is none at all is an error. -/
def openIn (path : Path) (name : String) : Except PathFault (FileTree × Option String) :=
  match path.fault? with
  | some .loneSurrogate => .error .loneSurrogate
  | some .zeroCharacter => .error .zeroCharacter
  | some _ => .ok (tree, none)
  | none =>
    match tree.makeDirectories (tree.start path) path.parts with
    | (made, some place) => .ok (made.openFile (place ++ [Path.bytes name]))
    | (made, none) => .ok (made, none)

/-- Nothing is added where something is. -/
theorem add_of_isSome {tree : FileTree} {place : Place} (h : (tree.entryAt place).isSome)
    (entry : FileEntry) : tree.add place entry = tree := if_pos h

end FileTree

end ScopedSearch
