import ScopedSearch.Link.Published
import ScopedSearch.Template.Catalogue
import ScopedSearch.Text.Split

/-!
# Counting the hits of links

For the page of a record, every link of its scope is counted by the query of a template. Several
keys may share a template: they are combined into one key with commas in between, so that each query
runs once, and the answers are split again.
-/

namespace ScopedSearch

open ScopedSearch.Text

namespace Estimate

/-- The entries of a document or an answer. -/
def entriesOf : Value → Except Error (Entries String Value)
  | .map entries => .ok entries
  | _ => .error (.misuse .documentNotMapping)

def documentId (document : Entries String Value) : Except Error Value :=
  let id := (document.get? "id").getD .null
  if id.isRecordId then .ok id else .error (Error.invalid (.noDocumentId id)).raised

/-- The scope of a record by its type. -/
def scopeOfType? : Value → Option Scope
  | .string type => Link.scopeOfType? type
  | _ => none

/-- The template that counts the hits of each link of a record's scope; nothing when its type has no
scope. -/
def templates (document : Entries String Value) : Traced (Option (Entries String String)) := do
  let _ ← documentId document
  let type := (document.get? "type").getD .null
  match scopeOfType? type with
  | none => do
    Traced.tell (.noEstimates type)
    return none
  | some scope =>
    return some ((Link.counted scope).filterMap fun relation =>
      (Link.published.get? relation).map fun link => (relation, link.estimateTemplate))

/-- The wire form of a template's tree for each key, one after the other. -/
def queries (library : Library) (id : Value) :
    List (String × String) → Except Error (List (String × Value))
  | [] => .ok []
  | (key, template) :: rest => do
    let wire ← library.buildWire template id
    let others ← queries library id rest
    return (key, wire) :: others

/-- The queries that count the hits of the links of a record; nothing when its type has no scope. -/
def forDocument (library : Library) (document : Entries String Value) :
    Traced (Option (Entries String Value)) := do
  match ← templates document with
  | none => return none
  | some templates => do
    let id ← documentId document
    let wires ← queries library.orPackaged id templates
    return some wires

/-- Puts a key behind those of its template. -/
def addKey (groups : Entries String (List String)) (key template : String) :
    Entries String (List String) :=
  groups.put template ((groups.get? template).getD [] ++ [key])

/-- The keys of each template, the templates in order of first occurrence. -/
def keysByTemplate (keyTemplates : Entries String String) : Entries String (List String) :=
  keyTemplates.foldl (fun groups entry => addKey groups entry.1 entry.2) []

/-- One query for each template under the keys that share it. -/
def combine (library : Library) (id : Value) (keyTemplates : Entries String String) :
    Except Error (Entries String Value) := do
  let combined := (keysByTemplate keyTemplates).map fun group =>
    (",".intercalate group.2, group.1)
  let wires ← queries library.orPackaged id combined
  return Entries.ofList wires

/-- The answer of each key from the answers of combined keys. -/
def split (response : Entries String Value) : Entries String Value :=
  Entries.ofList (response.flatMap fun entry =>
    (splitText ',' entry.1).map fun key => (key, entry.2))

end Estimate

end ScopedSearch
