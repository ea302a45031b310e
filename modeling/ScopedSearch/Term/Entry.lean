import ScopedSearch.Field
import ScopedSearch.Term

/-!
# Registry entries

The written form of a term declaration: a mapping with one key for each thing it says. A few keys
have more than one name; the first name that is present counts. `Term.read` reads a mapping that
also gives the name and the scope, `Term.toEntry` writes the form from which the term is read again.
-/

namespace ScopedSearch

namespace Declaration

def readScope : List PathStep → Value → Checked Scope :=
  Field.member (Scope.all.map Scope.name) Scope.ofName?

/-- A sequence of predicate expressions, each of which names a relation. -/
def readPredicates (path : List PathStep) (value : Value) : Checked (List String) :=
  match Field.sequence Field.text path value with
  | .faulty faults => .faulty faults
  | .ok expressions =>
    match relations expressions with
    | .ok _ => .ok expressions
    | .error fault => .fault (.rule fault.message) path

def read (entries : Entries String Value) : Checked Declaration :=
  let texts := Field.sequence Field.text
  Checked.ok (fun name scope pattern predicates targetScope inverseName indexReferences
      idIndexReferences scalarType inBetweenScopes maxLevel =>
        { scope, name, pattern, predicates, targetScope, inverseName, indexReferences,
          idIndexReferences, scalarType, inBetweenScopes, maxLevel })
    |>.ap (Field.required entries ["name"] Field.text)
    |>.ap (Field.required entries ["scope"] readScope)
    |>.ap (Field.required entries ["patternName", "pattern"]
      (Field.member (Pattern.all.map Pattern.name) Pattern.ofName?))
    |>.ap (Field.optional entries ["predicates"] [] readPredicates)
    |>.ap (Field.optional entries ["targetScope", "target_scope"] none (Field.nullable readScope))
    |>.ap (Field.optional entries ["hopInverseName", "inverseTermName", "inverse_term_name"] none
      (Field.nullable Field.text))
    |>.ap (Field.optional entries ["indexReferences", "index_references"] [] texts)
    |>.ap (Field.optional entries ["idIndexReferences", "id_index_references"] [] texts)
    |>.ap (Field.optional entries ["scalarType", "scalar_type"] none
      (Field.nullable (Field.member (ScalarType.all.map ScalarType.name) ScalarType.ofName?)))
    |>.ap (Field.optional entries ["inBetweenScopes", "in_between_scopes"] []
      (Field.sequence readScope))
    |>.ap (Field.optional entries ["maxLevel", "max_level"] none (Field.nullable Field.level))

end Declaration

namespace Term

/-- The term that a mapping declares. What the pattern needs is checked once all fields are read. -/
def read (entries : Entries String Value) : Checked Term :=
  match Declaration.read entries with
  | .faulty faults => .faulty faults
  | .ok declaration =>
    match ofDeclaration declaration with
    | .ok term => .ok term
    | .error fault => .fault (.rule fault.message) []

def ofValue : Value → Checked Term
  | .map entries => read entries
  | _ => .fault (.notRecord "TermDefinition") []

def texts (items : List String) : Value := .list (items.map .string)

/-- One key of a written entry, unless there is nothing to write. -/
def entryOf (key : String) : Option Value → Entries String Value
  | some value => [(key, value)]
  | none => []

/-- A value to write, unless the list is empty. -/
def nonEmpty {α : Type} (items : List α) (value : Value) : Option Value :=
  if items.isEmpty then none else some value

/-- The written form of a term, without its name and scope. -/
def toEntry (term : Term) : Entries String Value :=
  let d := term.declaration
  [("patternName", .string d.pattern.name)]
    ++ entryOf "predicates" (nonEmpty d.predicates (texts d.predicates))
    ++ entryOf "targetScope" (d.targetScope.map fun scope => .string scope.name)
    ++ entryOf "hopInverseName" (d.inverseName.map .string)
    ++ entryOf "indexReferences" (nonEmpty d.indexReferences (texts d.indexReferences))
    ++ entryOf "idIndexReferences" (nonEmpty d.idIndexReferences (texts d.idIndexReferences))
    ++ entryOf "scalarType" (d.scalarType.map fun type => .string type.name)
    ++ entryOf "inBetweenScopes"
      (nonEmpty d.inBetweenScopes (texts (d.inBetweenScopes.map Scope.name)))
    ++ entryOf "maxLevel" (d.maxLevel.map fun level => .int level)

end Term

end ScopedSearch
