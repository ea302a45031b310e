import ScopedSearch.Query.Build

/-!
# Forms

A form is a query tree with holes for the identifier of a record. There are holes of two kinds: the
record itself as the target of a hop, and the value of a leaf.
-/

namespace ScopedSearch

/-- A query tree with holes. -/
inductive Form where
  /-- A hop to the record that fills the hole. -/
  | byId (term : String)
  /-- A leaf with the value that fills the hole. -/
  | hole (term : String)
  /-- A leaf with a fixed value. -/
  | constant (term : String) (value : Value)
  /-- A hop to what the target finds. -/
  | hop (term : String) (target : Form)
  /-- All, or any, of the children. -/
  | group (connective : Connective) (children : List Form)
  /-- The form in a scope. -/
  | scoped (scope : String) (form : Form)

namespace Form

def allOf (children : List Form) : Form := .group .all children

def anyOf (children : List Form) : Form := .group .any children

mutual

/-- The tree with every hole filled by a value, which has to name a record where a hop needs one. -/
def fill (given : Value) : Form → Except Error Query
  | .byId term => do
    let record ← Query.recordNamed given
    return .hop term record none none none
  | .hole term => .ok (.leaf term given none none false none)
  | .constant term value => .ok (.leaf term value none none false none)
  | .hop term target => do
    let tree ← fill given target
    return .hop term tree none none none
  | .group connective children => do
    let trees ← fillAll given children
    return .group connective trees none
  | .scoped scope form => do
    let tree ← fill given form
    tree.rescoped (some scope)

def fillAll (given : Value) : List Form → Except Error (List Query)
  | [] => .ok []
  | form :: rest => do
    let tree ← fill given form
    let trees ← fillAll given rest
    return tree :: trees

end

mutual

def holes : Form → Nat
  | .byId _ => 1
  | .hole _ => 1
  | .constant _ _ => 0
  | .hop _ target => holes target
  | .group _ children => holesIn children
  | .scoped _ form => holes form

def holesIn : List Form → Nat
  | [] => 0
  | form :: rest => holes form + holesIn rest

end

end Form

end ScopedSearch
