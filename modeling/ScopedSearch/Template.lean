import ScopedSearch.Event
import ScopedSearch.Query.Nesting
import ScopedSearch.Query.Wire
import ScopedSearch.Template.Form
import ScopedSearch.Text.Blank

/-!
# Templates and their library

A template builds a query tree for the record with a given identifier. It is declared for a scope,
or for none, and what it builds is rooted there: a tree without a scope at its root gets the
declared one, a tree with another scope is refused (`Template.rooted`). A library holds templates
by name; registering a name again replaces its template.
-/

namespace ScopedSearch

open ScopedSearch.Text

/-- A named way to build a query tree from the identifier of a record. -/
structure Template where
  name : String
  scope : Option String
  description : String
  build : Value → Except Error Query

namespace Template

/-- The tree rooted at the scope of a template. -/
def rooted (name : String) (root : Option String) (tree : Query) : Except Error Query :=
  match tree.scope with
  | none => tree.rescoped root
  | some declared =>
    if some declared = root then .ok tree
    else .error (.invalid (.foreignTemplate name root declared))

/-- The first line of a documentation text without the blanks around the text. -/
def firstLine (doc : String) : String :=
  String.ofList ((trim doc).toList.takeWhile (· ≠ '\n'))

/-- The template for a scope whose trees are built by `builder`. Without a description it is
described by the first line of its documentation. -/
def declare (name : String) (scope : Option String) (builder : Value → Except Error Query)
    (doc : String := "") (description : String := "") : Template where
  name
  scope
  description := if description = "" then firstLine doc else description
  build given := builder given >>= rooted name scope

/-- What a declared template builds has the declared scope. -/
theorem scope_of_declare_build {name doc description : String} {scope : Option String}
    {builder : Value → Except Error Query} {given : Value} {tree : Query}
    (h : (declare name scope builder doc description).build given = .ok tree) :
    tree.scope = scope := by
  simp only [declare, bind, Except.bind] at h
  split at h
  · cases h
  · next built _ =>
    unfold rooted at h
    split at h
    · exact Query.rescoped_eq_ok h
    · next declared hdeclared =>
      split at h
      · next heq => cases h; rw [hdeclared, heq]
      · cases h

end Template

/-- Templates by name, in the order of first registration, and the names of the templates of each
scope, in the order of latest registration. -/
structure Library where
  templates : Entries String Template := []
  listings : Entries (Option String) (List String) := []

namespace Library

/-- Lists a name last among those of a scope. -/
def enlist (listings : Entries (Option String) (List String)) (scope : Option String)
    (name : String) : Entries (Option String) (List String) :=
  listings.put scope ((listings.get? scope).getD [] ++ [name])

/-- Takes a name out of the list of a scope. A registered name is listed for the scope of its template
(`Library.mem_namesIn`), so it is found. -/
def unlist (listings : Entries (Option String) (List String)) (scope : Option String)
    (name : String) : Entries (Option String) (List String) :=
  match listings.get? scope with
  | some names => listings.put scope (names.erase name)
  | none => listings

/-- The library with one more template, or with the template of its name replaced: the name then
leaves the list of the scope that it was registered for before. -/
def add (library : Library) (template : Template) : Library :=
  let listings :=
    match library.templates.get? template.name with
    | some previous => unlist library.listings previous.scope template.name
    | none => library.listings
  { templates := library.templates.put template.name template
    listings := enlist listings template.scope template.name }

/-- Adds a template; an event tells when it replaces another. -/
def register (library : Library) (template : Template) : Traced Library := do
  if library.templates.contains template.name then Traced.tell (.templateReplaced template.name)
  return library.add template

/-- The library of templates that are added one after the other. -/
def ofList (templates : List Template) : Library := templates.foldl add {}

def size (library : Library) : Nat := library.templates.length

def contains (library : Library) (name : String) : Bool := library.templates.contains name

def get (library : Library) (name : String) : Except Error Template :=
  match library.templates.get? name with
  | some template => .ok template
  | none => .error (.unknownTemplate name)

/-- The names in alphabetical order. -/
def names (library : Library) : List String :=
  library.templates.keys.mergeSort fun a b => decide (a ≤ b)

/-- The names that are listed for a scope. -/
def namesIn (library : Library) (scope : Option String) : List String :=
  (library.listings.get? scope).getD []

/-- The templates of a scope in the order of their latest registration. -/
def inScope (library : Library) (scope : Option String) : List Template :=
  (library.namesIn scope).filterMap library.templates.get?

/-- The templates in the order of their first registration. -/
def toList (library : Library) : List Template := library.templates.values

/-- The tree of a template for the record that a value names. Its scopes are nested as they have to
be. -/
def build (library : Library) (name : String) (given : Value) : Except Error Query := do
  let template ← library.get name
  if given.isRecordId then
    let tree ← template.build given
    match tree.checkNesting with
    | .ok () => .ok tree
    | .error cause => .error (.invalid cause)
  else .error (Error.invalid (.templateId name given)).raised

/-- The wire form of the tree of a template. -/
def buildWire (library : Library) (name : String) (given : Value) : Except Error Value := do
  let tree ← library.build name given
  return tree.wire

end Library

end ScopedSearch
