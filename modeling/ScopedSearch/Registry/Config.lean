import ScopedSearch.Registry
import ScopedSearch.Registry.Declared
import ScopedSearch.Registry.Generated
import ScopedSearch.Term.Entry

/-!
# Reading, writing and merging registries

A written registry is a mapping from scope names to mappings from term names to entries. Merging
puts further entries behind the terms that are there: a declaration that is already there wins, and
an event tells of every entry that differs from it.
-/

namespace ScopedSearch.Registry

/-- The terms that the entries of one scope declare, or the fault of the first that declares
none. -/
def termsOfTable (scope : Scope) : List (String × Value) → Except Error (List Term)
  | [] => .ok []
  | (name, .map entry) :: rest =>
    let entry : Entries String Value := entry
    match Term.read ((entry.put "name" (.string name)).put "scope" (.string scope.name)) with
    | .faulty faults => .error (.registry (.invalidTerm scope name faults))
    | .ok term => (termsOfTable scope rest).map (term :: ·)
  | _ :: _ => .error (.misuse .entryNotMapping)

/-- The terms that the tables of a written registry declare. -/
def termsOfTables : List (String × Value) → Except Error (List Term)
  | [] => .ok []
  | (key, table) :: rest =>
    match Scope.ofName? key with
    | none => .error (.registry (.unknownScope key))
    | some scope =>
      match table with
      | .map entries => do
        let terms ← termsOfTable scope entries
        return terms ++ (← termsOfTables rest)
      | _ => .error (.misuse .tableNotMapping)

def termsOfConfig : Value → Except Error (List Term)
  | .map tables => termsOfTables tables
  | _ => .error (.misuse .tableNotMapping)

/-- The registry that is written as a value. -/
def ofConfig (config : Value) : Except Error Registry := do
  ofTerms (← termsOfConfig config)

def toConfig (registry : Registry) : Value :=
  .map (registry.scopes.map fun scope =>
    (scope.name, .map ((registry.table scope).map fun term => (term.name, .map term.toEntry))))

/-- The term of a list with the scope and the name of another. -/
def namesake? (terms : List Term) (term : Term) : Option Term :=
  terms.find? fun other => other.scope = term.scope && other.name = term.name

/-- The terms with those further ones whose scope and name are new. There is an event for every
further term that differs from the one that is there. -/
def supplement (terms further : List Term) : Traced (List Term) :=
  let differing := further.filter fun term =>
    match namesake? terms term with
    | some other => other ≠ term
    | none => false
  ⟨differing.map .supplementIgnored,
    .ok (terms ++ further.filter fun term => (namesake? terms term).isNone)⟩

/-- The registry with the entries of a written registry merged in. -/
def merge (registry : Registry) (config : Value) : Traced Registry := do
  let further ← termsOfConfig config
  let terms ← supplement registry.terms further
  ofTerms terms

/-- The registry with another one merged in, by its written form. -/
def mergeRegistry (registry other : Registry) : Traced Registry := registry.merge other.toConfig

/-- The packaged registry: the declared terms, the generated ones if they are wanted, and the
entries of a further written registry if there is one. -/
def load (includeGenerated : Bool) (extra : Option (Except Error Value)) : Traced Registry := do
  let declared ← termsOf Declared.all
  let packaged ←
    if includeGenerated then do
      let generated ← termsOf Generated.all
      supplement declared generated
    else pure declared
  let terms ←
    match extra with
    | none => pure packaged
    | some written => do
      let config ← written
      let further ← termsOfConfig config
      supplement packaged further
  let registry ← ofTerms terms
  Traced.tell (.registryLoaded registry.scopes.length registry.terms.length)
  return registry

end ScopedSearch.Registry
