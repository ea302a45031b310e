import ScopedSearch.Chain

/-!
# Auditing a registry

A registry that loads may still hold hops whose declared way back is missing or leads elsewhere, and
related lists that reach nothing within their bound. The audit reports them, term after term.
-/

namespace ScopedSearch

open ScopedSearch.Text

/-- What an audit found. -/
structure Audit where
  valid : Bool
  issues : List Issue
  deriving DecidableEq, Repr

namespace Registry

variable (registry : Registry)

def issueAt (term : Term) (severity : Severity) (message : String)
    (suggestion : Option String := none) : Issue :=
  { severity, message, scope := term.scope.name, term := term.name, suggestion }

/-- The issue about the way back of a hop to the target, if there is one. -/
def inverseIssue (term : Term) (target : Scope) : Option Issue :=
  match term.declaration.inverseName with
  | none => some (issueAt term .info "one-directional hop (no inverse term declared)")
  | some name =>
    match registry.find? target name with
    | none =>
      some (issueAt term .warning
        ("inverse term " ++ quoted name ++ " is missing from scope " ++ quoted target.name)
        (some "load the generated registry entries or declare the inverse"))
    | some inverse =>
      if inverse.isHop && inverse.declaration.targetScope = some term.scope then none
      else
        some (issueAt term .warning
          ("inverse term " ++ inverse.title ++ " does not hop back to " ++ quoted term.scope.name))

/-- The route of a related list. -/
def routeOf (term : Term) (target : Scope) : Route :=
  ⟨term.scope, target, term.declaration.inBetweenScopes⟩

/-- The issue about a related list that reaches no record of the target, if it reaches none. -/
def reachIssue (term : Term) (target : Scope) (maxLevel : Nat) : Option Issue :=
  if (registry.chains (routeOf term target) maxLevel).all List.isEmpty then
    some (issueAt term .warning
      ("no hop chain reaches " ++ quoted target.name ++ " within " ++ toString maxLevel
        ++ " level(s)")
      (some "compiling this term always raises InvalidValue"))
  else none

/-- The issue about a term, if there is one. -/
def termIssue (term : Term) : Option Issue :=
  match term.role with
  | .hop _ target => registry.inverseIssue term target
  | .related target maxLevel => registry.reachIssue term target maxLevel
  | _ => none

/-- The audit of a registry: valid without errors and, when it is strict, without warnings. -/
def audit (strict : Bool) : Audit :=
  let issues := danglingIssues registry.terms ++ registry.terms.filterMap registry.termIssue
  let fatal (issue : Issue) : Bool :=
    issue.severity = .error || (strict && issue.severity = .warning)
  ⟨!issues.any fatal, issues⟩

end Registry

end ScopedSearch
