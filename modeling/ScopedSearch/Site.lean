import ScopedSearch.Estimate
import ScopedSearch.Link.Address

/-!
# A site's links

The links of records on a site: the library that the queries come from and the host that the
addresses lead to.
-/

namespace ScopedSearch

/-- A library of templates and the host of the search service. -/
structure Site where
  library : Library := .packaged
  host : String := defaultHost

namespace Site

variable (site : Site)

/-- The address of a link of the record with an identifier. A related list is addressed by its term
and takes any text as identifier; the other links carry the query of their template. -/
def link (relation : String) (id : Value) : Except Error String :=
  match Link.published.get? relation with
  | none => .error (.unknownLink relation)
  | some link =>
    let library := site.library.orPackaged
    match link.endpoint with
    | .relatedList term => do
      let template ← library.get link.template
      relatedListAddress site.host (.ofText? template.scope) (.string term) id
    | endpoint => do
      let tree ← library.build link.template id
      searchAddress site.host (.query tree)
        { endpoint := endpoint.name, facetName := endpoint.facetName?, sort := endpoint.sort? }

/-- The addresses of links, one after the other. -/
def addresses (id : Value) : List String → Except Error (List (String × String))
  | [] => .ok []
  | relation :: rest => do
    let address ← site.link relation id
    let others ← addresses id rest
    return (relation, address) :: others

/-- The addresses of all links of a record; none when its type has no scope. -/
def links (document : Entries String Value) : Traced (Entries String String) := do
  match ← Estimate.templates document with
  | none => return []
  | some templates => do
    let id ← Estimate.documentId document
    let found ← site.addresses id templates.keys
    return found

/-- The queries that count the hits of the links of a record. -/
def estimates (document : Entries String Value) : Traced (Option (Entries String Value)) :=
  Estimate.forDocument site.library document

end Site

end ScopedSearch
