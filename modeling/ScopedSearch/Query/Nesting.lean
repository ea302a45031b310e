import ScopedSearch.Error
import ScopedSearch.Scope

/-!
# The nesting of scopes

A query tree is rooted at a scope and every subtree stays in one scope: a nested node declares the
scope it is evaluated in or none, and beneath a hop that scope is the hop's target scope. Only a
root *any* group of scope `multi` may have children of different scopes, each of which declares its
own. Beneath a hop whose target scope is not known, no node may be of scope `multi`.
-/

namespace ScopedSearch.Query

/-- Some node of the tree declares the scope `multi`. -/
def mentionsMulti (tree : Query) : Bool := tree.nodes.any fun node => node.scope = some Scope.multi

/-- A node that is evaluated in `scope` declares that scope or none. -/
def checkDeclared (scope : String) : Option String → Except Invalid Unit
  | none => .ok ()
  | some declared => if declared = scope then .ok () else .error (.foreignNode declared scope)

mutual

/-- Checks a subtree that is evaluated in `scope`. -/
def checkIn (scope : String) : Query → Except Invalid Unit
  | .record _ => .ok ()
  | .leaf _ _ declared _ _ _ => checkDeclared scope declared
  | .hop _ target declared _ targetScope => do
    checkDeclared scope declared
    match targetScope with
    | some targetScope => checkIn targetScope target
    | none => if target.mentionsMulti then .error .multiBelowRoot else .ok ()
  | .group _ children declared => do
    checkDeclared scope declared
    checkAllIn scope children

/-- Checks subtrees that are evaluated in `scope`, one after the other. -/
def checkAllIn (scope : String) : List Query → Except Invalid Unit
  | [] => .ok ()
  | tree :: rest => do
    checkIn scope tree
    checkAllIn scope rest

end

/-- Checks the branches of a query over several scopes, one after the other. -/
def checkBranches : List Query → Except Invalid Unit
  | [] => .ok ()
  | branch :: rest => do
    match branch.scope with
    | none => .error .unscopedBranch
    | some scope =>
      if scope = Scope.multi then .error .unscopedBranch else checkIn scope branch
    checkBranches rest

def checkNesting (tree : Query) : Except Invalid Unit :=
  match tree.scope with
  | none => .error .unscopedRoot
  | some scope =>
    if scope = Scope.multi then
      match tree with
      | .group .any children _ => checkBranches children
      | _ => .error .multiRootNotAny
    else checkIn scope tree

end ScopedSearch.Query
