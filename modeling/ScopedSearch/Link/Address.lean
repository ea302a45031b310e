import ScopedSearch.Json.Writer
import ScopedSearch.Link
import ScopedSearch.Query.Wire
import ScopedSearch.Text.Percent

/-!
# Addresses of the search service

A search is addressed by an endpoint, the scope at the root of a query tree and the tree itself in
its wire form, as compact JSON without the root's scope. Query, facet and identifiers are percent
encoded; the order of the hits is taken as it is.
-/

namespace ScopedSearch

open ScopedSearch.Text

def defaultHost : String := "https://lux.collections.yale.edu"

/-- The host, or the default in place of an empty text. -/
def hostOrDefault (host : String) : String := if host = "" then defaultHost else host

/-- The scope at the root of a query tree or of its wire form. -/
def rootScope? : Value → Option Value
  | .map entries =>
    match Entries.get? entries scopeKey with
    | none | some .null => none
    | some scope => some scope
  | .query tree => tree.scope.map Value.string
  | _ => none

/-- A scope in an address. A leaf stands for the value that it matches. -/
def scopeText : Value → Except Error String
  | .query (.leaf _ value _ _ _ _) => value.text
  | value => value.text

/-- The entries of a query tree's wire form, or of a mapping as it is. -/
def wireEntriesOf : Value → Except Error (Entries String Value)
  | .map entries => .ok entries
  | .query tree => .ok (tree.wireEntries none)
  | value => .error (Error.notQuery value).raised

/-- A text as a component of an address. -/
def component (text : String) : Except Error String :=
  match component? text with
  | some encoded => .ok encoded
  | none => .error (.misuse .surrogateInAddress)

/-- The query of an address: the wire form of a tree without the root's scope. -/
def addressQuery (value : Value) : Except Error String := do
  let entries ← wireEntriesOf value
  match Json.write (.map (entries.erase scopeKey)) with
  | .ok text => component text
  | .error .queryTree => .error (.misuse .queryInJson)
  | .error .numeralTooLong => .error (.misuse .numeralTooLong)

/-- What a search address asks for besides the query. -/
structure SearchOptions where
  endpoint : String := "search"
  facetName : Option String := none
  sort : Option String := none

/-- A parameter of an address, left out when it is absent or empty. -/
def parameter (name : String) : Option String → String
  | none | some "" => ""
  | some value => "&" ++ name ++ "=" ++ value

/-- The address of a search by a query tree that is rooted at a scope. -/
def searchAddress (host : String) (value : Value) (options : SearchOptions := {}) :
    Except Error String := do
  match rootScope? value with
  | none => .error (.invalid .unscopedLink)
  | some scope =>
    let scope ← scopeText scope
    let query ← addressQuery value
    let facetName ← options.facetName.mapM component
    return hostOrDefault host ++ "/api/" ++ options.endpoint ++ "/" ++ scope
      ++ "?q=" ++ query
      ++ parameter "name" facetName
      ++ parameter "sort" options.sort

/-- The address of the records of a scope that a term relates to a record. -/
def relatedListAddress (host : String) (scope term id : Value) : Except Error String :=
  match id with
  | .string id => do
    let uri ← component id
    let scope ← scopeText scope
    let term ← term.text
    return hostOrDefault host ++ "/api/related-list/" ++ scope ++ "?name=" ++ term
      ++ "&uri=" ++ uri
  | _ => .error (.misuse .linkIdNotText)

end ScopedSearch
