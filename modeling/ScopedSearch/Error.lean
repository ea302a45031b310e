import ScopedSearch.Field
import ScopedSearch.Registry.Issue
import ScopedSearch.Term

/-!
# Errors

Every way in which an operation can fail, as a cause with the data that its message shows. The
wording is in the `message?` functions; a cause whose message would show a number of too many digits is
not raised (`Error.raised`).
-/

namespace ScopedSearch

open ScopedSearch.Text

/-- What makes a value unfit for its place. -/
inductive Invalid where
  -- records and query trees
  | emptyRecordId (given : Value)
  | unscopedRoot
  | multiRootNotAny
  | unscopedBranch
  | foreignNode (declared scope : String)
  | multiBelowRoot
  -- terms
  | comparatorOnPattern (term : Term)
  | levelsOnPattern (term : Term)
  | comparatorOnText (term : Term) (comparator : Value)
  | unknownComparator (term : Term) (comparator : Value)
  | notNumber (term : Term) (given : Value)
  | notText (term : Term) (given : Value)
  | notRecordId (term : Term) (given : Value)
  | notTarget (term : Term) (target : Scope) (given : Value)
  | foreignTarget (term : Term) (target : Scope) (declared : String)
  | notRelatedList (term : Term)
  | badLevel (term : Term) (given : Value)
  | unreachable (term : Term) (target : Scope) (level : Nat)
  -- criteria
  | notCriteria (given : Value)
  | foreignCriteria (declared : Value) (expected : String)
  | unscopedCriteria
  | emptyCriteria (scope : Scope)
  | unknownOptions (keys : List String)
  | comparatorNotAlone
  | notConditions (connective : Connective)
  | notCondition (given : Value)
  | foreignCondition (declared : Value) (scope : Scope)
  | multiNotAny
  -- templates and links
  | templateId (name : String) (given : Value)
  | foreignTemplate (name : String) (root : Option String) (declared : String)
  | noDocumentId (given : Value)
  | unscopedLink

namespace Invalid

def message? : Invalid → Option String
  | emptyRecordId given => do
    return "Identifier must be a non-empty string, got " ++ (← given.display?)
  | unscopedRoot => some "Query tree is not rooted at a declared _scope"
  | multiRootNotAny => some "A multi-scope query must be an OR at the top level"
  | unscopedBranch => some "Each branch of a multi-scope query must declare its own _scope"
  | foreignNode declared scope =>
    some ("Nested node declares _scope " ++ quoted declared ++ " inside a " ++ quoted scope
      ++ " subtree")
  | multiBelowRoot => some "multi scope is only legal at the top level"
  | comparatorOnPattern term =>
    some ("Comparators apply to numeric terms only; " ++ term.title ++ " is a " ++ term.pattern.name
      ++ " term")
  | levelsOnPattern term =>
    some ("Level bounds apply to relatedList terms only; " ++ term.title ++ " is a "
      ++ term.pattern.name ++ " term")
  | comparatorOnText term comparator => do
    return "Comparator " ++ (← comparator.display?) ++ " given for string term " ++ term.title
  | unknownComparator _ comparator => do
    return "Unknown comparator " ++ (← comparator.display?) ++ "; expected one of "
      ++ ", ".intercalate (Comparator.all.map Comparator.sign)
  | notNumber term given => do return term.title ++ " expects a number, got " ++ (← given.display?)
  | notText term given => do
    return term.title ++ " expects a non-empty string, got " ++ (← given.display?)
  | notRecordId term given => do
    return term.title ++ " expects a record identifier, got " ++ (← given.display?)
  | notTarget term target given => do
    return term.title ++ " expects an identifier or a " ++ quoted target.name ++ " sub-query, got "
      ++ (← given.display?)
  | foreignTarget term target declared =>
    some (term.title ++ " leads to " ++ quoted target.name ++ "; nested query is scoped to "
      ++ quoted declared)
  | notRelatedList term => some (term.title ++ " is not a relatedList term")
  | badLevel _ given => do
    return "max_level must be a positive integer, got " ++ (← given.display?)
  -- The branches of every level have been listed by then, so the number of levels is short.
  | unreachable term target level =>
    some (term.title ++ " reaches no " ++ quoted target.name ++ " record within " ++ toString level
      ++ " level(s)")
  | notCriteria given => some ("Criteria must be a mapping, got " ++ given.kind)
  | foreignCriteria declared expected => do
    return "Criteria declare _scope " ++ (← declared.display?) ++ " where " ++ quoted expected
      ++ " is required"
  | unscopedCriteria => some "Criteria do not declare a _scope"
  | emptyCriteria scope => some ("Empty criteria in scope " ++ quoted scope.name)
  | unknownOptions keys => some ("Unsupported criteria option(s): " ++ ", ".intercalate keys)
  | comparatorNotAlone => some "_comp must accompany exactly one term"
  | notConditions connective =>
    some (connective.key ++ " must hold a non-empty list of conditions")
  | notCondition given => do
    return "Boolean children must be mappings, got " ++ (← given.display?)
  | foreignCondition declared scope => do
    return "Nested condition declares _scope " ++ (← declared.display?) ++ " inside a "
      ++ quoted scope.name
      ++ " query; mixed scopes are only allowed under a top-level multi OR"
  | multiNotAny => some "A multi-scope query must be a single non-empty OR"
  | templateId name given => do
    return "Template " ++ quoted name ++ " expects a record identifier, got " ++ (← given.display?)
  | foreignTemplate name root declared =>
    some ("Template " ++ quoted name ++ " is declared for " ++ showOptional root ++ " but built a "
      ++ quoted declared ++ " query")
  | noDocumentId given => do return "Record has no usable id: " ++ (← given.display?)
  | unscopedLink => some "A search link needs a query rooted at a scope"

/-- The name of the term that a cause is about. -/
def term? : Invalid → Option String
  | comparatorOnPattern term | levelsOnPattern term | comparatorOnText term _
  | unknownComparator term _ | notNumber term _ | notText term _ | notRecordId term _
  | notTarget term _ _ | foreignTarget term _ _ | notRelatedList term | badLevel term _
  | unreachable term _ _ => some term.name
  | _ => none

end Invalid

/-- Why registry entries make no registry. -/
inductive RegistryFault where
  | predicate (fault : PredicateFault)
  /-- What is no text was to be read as the expression of a relation. -/
  | notExpression (given : Value)
  | unknownScope (key : String)
  | invalidTerm (scope : Scope) (name : String) (faults : List FieldFault)
  | undeclared (issues : List Issue)
  | unreadable (path : String)
  | notKeyed (path : String)

def RegistryFault.message? : RegistryFault → Option String
  | predicate fault => some fault.message
  | notExpression given => do return "Empty predicate expression: " ++ (← given.display?)
  | unknownScope key => some ("Registry declares unknown scope " ++ quoted key)
  | invalidTerm scope name _ => some ("Invalid term definition " ++ scope.name ++ "." ++ name)
  | undeclared issues =>
    some ("Registry references undeclared scopes: " ++ "; ".intercalate (issues.map Issue.text))
  | unreadable path => some ("Cannot read registry entries from " ++ path)
  | notKeyed path =>
    some ("Registry file " ++ path ++ " must hold a JSON object keyed by scope")

/-- A value of a kind that an operation does not take at all. -/
inductive Misuse where
  /-- What holds a list or a mapping was to be looked up as a key. -/
  | notKey
  /-- A node was to be built with a comparison or a connective that there is not. -/
  | unknownSign
  /-- A document or an answer is no mapping. -/
  | documentNotMapping
  /-- A record was to be given a scope. -/
  | scopeOfRecord
  /-- A query tree was to be written as JSON. -/
  | queryInJson
  /-- The identifier in a link is no text. -/
  | linkIdNotText
  /-- A text with a lone surrogate was to be part of an address. -/
  | surrogateInAddress
  /-- A scope's entries are no mapping. -/
  | tableNotMapping
  /-- A term's entry is no mapping. -/
  | entryNotMapping
  /-- A path setting is neither text nor as good as empty. -/
  | pathNotText
  /-- A whole number has too many digits to be read, written or shown. -/
  | numeralTooLong
  /-- A log level consists of digits but is no number. -/
  | levelNotNumber
  /-- A path is too long. -/
  | pathTooLong
  /-- A path holds the zero character. -/
  | zeroInPath
  /-- A path holds a lone surrogate that is kept for no byte. -/
  | surrogateInPath
  deriving DecidableEq, Repr

/-- A failed operation. -/
inductive Error where
  | unknownScope (given : Value)
  | unknownTerm (scope : Scope) (name : String)
  | invalid (cause : Invalid)
  | levelExceeded (term : Term) (requested : Int) (allowed : Nat)
  | unknownTemplate (name : String)
  | unknownLink (relation : String)
  | registry (fault : RegistryFault)
  | fields (faults : List FieldFault)
  | settings (source : String) (faults : List FieldFault)
  | notQuery (given : Value)
  | misuse (kind : Misuse)

namespace Error

/-- The text of an error, where it has one of its own. -/
def message? : Error → Option String
  | unknownScope given => do return "Unknown search scope: " ++ (← given.display?)
  | unknownTerm scope name =>
    some ("Unknown search term " ++ quoted name ++ " in scope " ++ quoted scope.name)
  | invalid cause => cause.message?
  | levelExceeded term requested allowed => do
    return "Related list " ++ quoted term.name ++ " allows at most " ++ (← Numeral.text? allowed)
      ++ " level(s), " ++ (← Numeral.text? requested) ++ " requested"
  | unknownTemplate name => some ("Unknown query template: " ++ quoted name)
  | unknownLink relation => some ("Unknown link relation: " ++ quoted relation)
  | registry fault => fault.message?
  | fields _ => none
  | settings source _ => some ("Invalid configuration (" ++ source ++ ")")
  | notQuery given => do return "Not a query node: " ++ (← given.display?)
  | misuse _ => none

/-- All that the error has to tell can be put into words. -/
def isTold : Error → Bool
  | fields _ | misuse _ => true
  | error => error.message?.isSome

/-- The error as it is raised. Its text is put together first, and a number in it that has too many
digits is then an error of its own. -/
def raised (error : Error) : Error := if error.isTold then error else .misuse .numeralTooLong

end Error

/-- The bare text of a value, if it can be shown. -/
def Value.text (value : Value) : Except Error String :=
  match value.plain? with
  | some text => .ok text
  | none => .error (.misuse .numeralTooLong)

/-- A sequence of two steps succeeds when both do. -/
theorem bind_eq_ok_iff {ε α β : Type} {first : Except ε α} {next : α → Except ε β} {value : β} :
    first >>= next = .ok value ↔ ∃ a, first = .ok a ∧ next a = .ok value := by
  cases first <;> simp [bind, Except.bind]

theorem bind_eq_error_iff {ε α β : Type} {first : Except ε α} {next : α → Except ε β} {error : ε} :
    first >>= next = .error error ↔
      first = .error error ∨ ∃ a, first = .ok a ∧ next a = .error error := by
  cases first <;> simp [bind, Except.bind]

theorem map_eq_ok_iff {ε α β : Type} {f : α → β} {outcome : Except ε α} {b : β} :
    outcome.map f = .ok b ↔ ∃ a, outcome = .ok a ∧ f a = b := by
  cases outcome <;> simp [Except.map]

theorem map_eq_error_iff {ε α β : Type} {f : α → β} {outcome : Except ε α} {error : ε} :
    outcome.map f = .error error ↔ outcome = .error error := by
  cases outcome <;> simp [Except.map]

end ScopedSearch
