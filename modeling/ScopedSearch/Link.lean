/-!
# Related links

A record's page shows links to what is related to it. A link is the query of a template for that
record, shown as a list of hits or as a facet of them, or it is the related list of a term. The hits
of a link are counted by the query of a template, which may be another one than the link's.
-/

namespace ScopedSearch

/-- What a link leads to. -/
inductive Endpoint where
  /-- The hits of the query, sorted if an order is given. -/
  | search (sort : Option String)
  /-- A facet of the hits of the query. -/
  | facet (name : String)
  /-- The related list of a term. -/
  | relatedList (term : String)
  deriving DecidableEq, Repr

namespace Endpoint

def name : Endpoint → String
  | search _ => "search"
  | facet _ => "facets"
  | relatedList _ => "related-list"

def facetName? : Endpoint → Option String
  | facet name => some name
  | _ => none

def sort? : Endpoint → Option String
  | search sort => sort
  | _ => none

def term? : Endpoint → Option String
  | relatedList term => some term
  | _ => none

end Endpoint

/-- A related link: the template of its query, what it leads to, and the template that counts its
hits if that is another one. -/
structure Link where
  template : String
  endpoint : Endpoint := .search none
  estimate : Option String := none
  deriving DecidableEq, Repr

/-- The template that counts the hits of a link. -/
def Link.estimateTemplate (link : Link) : String := link.estimate.getD link.template

end ScopedSearch
