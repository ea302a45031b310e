import ScopedSearch.Event
import ScopedSearch.Label.Published
import ScopedSearch.Text.Upper
import ScopedSearch.Text.Words

/-!
# Labels of relation keys

The key of a relation is the names of its hops with hyphens between them. A table gives the labels
of keys; a key that the table gives no label, or an empty one, gets the words of its first name
(`Label.derive`), so that every key has a label.
-/

namespace ScopedSearch

open ScopedSearch.Text

/-- Labels by relation key. -/
abbrev LabelTable := Entries String String

def LabelTable.published : LabelTable := Label.publishedLabels

namespace Label

/-- The words of characters, the first letter in upper case. -/
def titled (cs : List Char) : String := capitalize (spaceWords (String.ofList cs))

/-- The label of a key without any name. -/
def fallback : String := "Related"

/-- The label made from a key: from its first name or, when that is empty, from everything but the
hyphens. -/
def derive (key : String) : String :=
  match key.toList.takeWhile (· ≠ '-') with
  | [] =>
    match key.toList.filter (· ≠ '-') with
    | [] => fallback
    | letters => titled letters
  | name => titled name

end Label

namespace LabelTable

/-- The label of a key: the one in the table unless it is absent or empty. -/
def resolve (table : LabelTable) (key : String) : Traced String :=
  match table.get? key with
  | none | some "" => do
    let label := Label.derive key
    Traced.tell (.labelDerived key label)
    return label
  | some label => pure label

/-- The label of the relation that leaves by one term and arrives by another. -/
def relation (table : LabelTable) (source target : String) : Traced String :=
  table.resolve (source ++ "-" ++ target)

end LabelTable

end ScopedSearch
