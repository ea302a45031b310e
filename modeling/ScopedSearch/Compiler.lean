import ScopedSearch.Chain
import ScopedSearch.Query.Wire
import ScopedSearch.Audit

/-!
# Compiling terms and criteria

A term with a value becomes a query tree by the role of the term: a leaf on a field, a hop to a
target, or, for a related list, a group of groups of hop chains, one inner group for each length
that has any. Criteria are mappings from terms to values; several terms in one mapping mean all of
them, `AND` and `OR` hold lists of mappings, and the value of a hop may be criteria again, in the
scope that the hop leads to. Criteria of scope `multi` are one `OR` over mappings that each declare
a scope of their own.
-/

namespace ScopedSearch

open ScopedSearch.Text

/-- A registry to compile against, and whether a level above a declared bound is lowered to it. -/
structure Compiler where
  registry : Registry
  clamps : Bool := true

/-- What is asked of the levels of a related list; nothing asked means the declared bound. -/
structure Levels where
  maxLevel : Option Value := none
  clamp : Option Bool := none

/-- One chain of a related list. -/
structure Branch where
  chain : Chain
  query : Query

namespace Branch

/-- The key of a branch: the names of its hops with hyphens between them. -/
def key (branch : Branch) : String := branch.chain.key

/-- The names of the hops of a branch. -/
def names (branch : Branch) : List String := branch.chain.names

def level (branch : Branch) : Nat := branch.chain.length

end Branch

/-- A mapping whose only key is `id`. -/
def isIdMapping (entries : Entries String Value) : Bool := entries.keys = ["id"]

/-- The value of a key, unless it is absent or null. -/
def given? (entries : Entries String Value) (key : String) : Option Value :=
  match entries.get? key with
  | none | some .null => none
  | some value => some value

namespace Term

def recordNamed (term : Term) (text : String) : Except Invalid RecordId :=
  match RecordId.ofString? text with
  | some id => .ok id
  | none => .error (.notRecordId term (.string text))

/-- The record that a value names: a record, a text, or a mapping from `id` to a text. -/
def recordOf (term : Term) : Value → Except Invalid RecordId
  | .query (.record id) => .ok id
  | .string text => term.recordNamed text
  | .map [("id", .string text)] => term.recordNamed text
  | .map [("id", value)] => .error (.notRecordId term value)
  | value => .error (.notRecordId term value)

def typedNumber? (text : String) : Option Value :=
  match Numeral.readWhole? text with
  | some n => some (.int n)
  | none =>
    match Numeral.readFloat? text with
    | some x => if x.isFinite then some (.float x) else none
    | none => none

/-- The number that a value stands for: a truth value counts as 0 or 1, a text is read. -/
def numberOf (term : Term) : Value → Except Invalid Value
  | .bool b => .ok (.int (if b then 1 else 0))
  | .int n => .ok (.int n)
  | .float x => if x.isFinite then .ok (.float x) else .error (.notNumber term (.float x))
  | .string text =>
    match typedNumber? (trim text) with
    | some number => .ok number
    | none => .error (.notNumber term (.string text))
  | value => .error (.notNumber term value)

/-- The text that a value is, which has to hold more than blanks. -/
def textOf (term : Term) : Value → Except Invalid Value
  | .string text =>
    if allBlank text then .error (.notText term (.string text)) else .ok (.string text)
  | value => .error (.notText term value)

/-- The comparison that a value names; only numbers are compared. -/
def comparatorOf (term : Term) : Option Value → Except Invalid (Option Comparator)
  | none => .ok none
  | some value =>
    if !term.isNumeric then .error (.comparatorOnText term value)
    else
      match value with
      | .string text =>
        match Comparator.ofSign? text with
        | some comparator => .ok (some comparator)
        | none => .error (.unknownComparator term value)
      | _ => .error (.unknownComparator term value)

def leaf (term : Term) (value : Value) (field : String) (fullText : Bool)
    (comparator : Option Comparator) : Query :=
  .leaf term.name value (some term.scope.name) (some field) fullText comparator

/-- A leaf on an index: a number for a numeric term, a text for the others. -/
def indexedLeaf (term : Term) (field : String) (value : Value) (comparator : Option Value) :
    Except Invalid Query := do
  let comparator ← term.comparatorOf comparator
  let value ← if term.isNumeric then term.numberOf value else term.textOf value
  return term.leaf value field false comparator

/-- A query tree as the target of a term: its scope, if it declares one, is the target scope. -/
def treeTarget (term : Term) (target : Scope) (tree : Query) : Except Invalid Query :=
  match tree.scope with
  | none => .ok tree
  | some declared =>
    if declared = target.name then .ok tree else .error (.foreignTarget term target declared)

end Term

namespace Hop

/-- The query for the records from which the hop leads to the target. -/
def query (hop : Hop) (target : Query) : Query :=
  .hop hop.name target (some hop.source.name) (some hop.predicate.curie) (some hop.target.name)

end Hop

/-- The query for the records from which the chain leads to the terminal. -/
def Chain.query (chain : Chain) (terminal : Query) : Query := chain.foldr Hop.query terminal

namespace Compiler

variable (compiler : Compiler)

/-- The result, or a refusal for its cause. -/
def orRefuse {α : Type} : Except Invalid α → Traced α
  | .ok value => pure value
  | .error cause => Traced.refuse cause

/-- The number of levels to expand, at most the declared bound. -/
def levelsOf (term : Term) (declared : Nat) (levels : Levels) : Traced Nat :=
  match levels.maxLevel with
  | none => pure declared
  | some (.int n) =>
    if n < 1 then Traced.refuse (.badLevel term (.int n))
    else if n ≤ declared then pure n.toNat
    else if levels.clamp.getD compiler.clamps then do
      Traced.tell (.levelClamped term n declared)
      return declared
    else Traced.fail (Error.levelExceeded term n declared).raised
  | some value => Traced.refuse (.badLevel term value)

/-- The branches of a related list to a terminal, grouped by length. -/
def branches (term : Term) (target : Scope) (level : Nat) (terminal : Query) :
    List (List Branch) :=
  (compiler.registry.chains (Registry.routeOf term target) level).map fun chains =>
    chains.map fun chain => ⟨chain, chain.query terminal⟩

/-- The query of a related list: any of the lengths that have branches, and for each any of its
branches. -/
def relatedQuery (term : Term) (target : Scope) (level : Nat) (terminal : Query) :
    Traced Query := do
  let groups := (compiler.branches term target level terminal).filter (! ·.isEmpty)
  if groups.isEmpty then
    Traced.tell (.nothingReached term target level)
    Traced.refuse (.unreachable term target level)
  else
    let scope := some term.scope.name
    return .group .any (groups.map fun group => .group .any (group.map Branch.query) scope) scope

/-- The query of a term by its role. What a hop or a related list leads to is given by `resolve`. -/
def roleQuery (term : Term) (value : Value) (levels : Levels) (comparator : Option Value)
    (resolve : Term → Scope → Traced Query) : Traced Query :=
  match term.role with
  | .documentId => do
    let id ← orRefuse (term.recordOf value)
    return term.leaf (.string id.text) "id" false none
  | .similar => do
    let id ← orRefuse (term.recordOf value)
    return term.leaf (.string id.text) "similar" false none
  | .indexed field => orRefuse (term.indexedLeaf field value comparator)
  | .text field => do
    let text ← orRefuse (term.textOf value)
    return term.leaf text field true none
  | .hop predicate target => do
    let tree ← resolve term target
    return .hop term.name tree (some term.scope.name) (some predicate.curie) (some target.name)
  | .related target declared => do
    let level ← compiler.levelsOf term declared levels
    let terminal ← resolve term target
    compiler.relatedQuery term target level terminal

/-- The query of a term that is looked up in a scope. Comparisons go with indexed terms only, levels
with related lists only. -/
def termQuery (scope : Scope) (name : String) (value : Value) (levels : Levels)
    (comparator : Option Value) (resolve : Term → Scope → Traced Query) : Traced Query := do
  let term ← compiler.registry.lookup scope name
  if comparator.isSome && !term.pattern.isIndexed then
    Traced.refuse (.comparatorOnPattern term)
  else if (levels.maxLevel.isSome || levels.clamp.isSome) && term.pattern ≠ .relatedList then
    Traced.refuse (.levelsOnPattern term)
  else
    let query ← compiler.roleQuery term value levels comparator resolve
    Traced.tell (.compiled term)
    return query

/-- The keys of criteria that are neither the scope nor the comparison. -/
def termKeys (entries : Entries String Value) : List String :=
  entries.keys.filter fun key => key ≠ scopeKey && key ≠ comparatorKey

/-- The comparison of criteria. Criteria have at least one term, no unknown option, and a comparison
only beside a single term. -/
def comparisonOf (scope : Scope) (entries : Entries String Value) :
    Except Invalid (Option Value) :=
  let comparator := given? entries comparatorKey
  let keys := termKeys entries
  let unknown := keys.filter fun key => key.toList.head? = some '_'
  if keys = [] then .error (.emptyCriteria scope)
  else if unknown ≠ [] then .error (.unknownOptions unknown)
  else if comparator.isSome
      && (keys.length ≠ 1 || keys.any fun key => (Connective.ofKey? key).isSome) then
    .error .comparatorNotAlone
  else .ok comparator

/-- One condition stands for itself, several for all of them. -/
def conjunction (scope : Scope) : List Query → Query
  | [single] => single
  | parts => .group .all parts (some scope.name)

/-- Combines the conditions of a mapping, which are compiled once its options are checked. -/
def combine (scope : Scope) (entries : Entries String Value)
    (parts : Option Value → Traced (List Query)) : Traced Query := do
  let comparator ← orRefuse (comparisonOf scope entries)
  let queries ← parts comparator
  return conjunction scope queries

/-- Criteria under a hop declare the scope that the hop leads to, or none. -/
def checkTargetScope (scope : Scope) (entries : Entries String Value) : Except Invalid Unit :=
  match given? entries scopeKey with
  | none => .ok ()
  | some (.string declared) =>
    if declared = scope.name then .ok ()
    else .error (.foreignCriteria (.string declared) scope.name)
  | some declared => .error (.foreignCriteria declared scope.name)

/-- A condition in a list declares the scope that the list is in, or none. -/
def checkConditionScope (scope : Scope) (entries : Entries String Value) : Except Invalid Unit :=
  match given? entries scopeKey with
  | none => .ok ()
  | some (.string declared) =>
    if declared = scope.name then .ok () else .error (.foreignCondition (.string declared) scope)
  | some declared => .error (.foreignCondition declared scope)

mutual

/-- What a hop or a related list leads to: a record, a query tree, or criteria in the target
scope. -/
def target : Value → Term → Scope → Traced Query
  | .string text, term, _ => do
    let id ← orRefuse (term.recordNamed text)
    return .record id
  | .query (.record id), _, _ => pure (.record id)
  | .query tree, term, scope => orRefuse (term.treeTarget scope tree)
  | .map entries, term, scope =>
    if isIdMapping entries then do
      let id ← orRefuse (term.recordOf (.map entries))
      return .record id
    else do
      orRefuse (checkTargetScope scope entries)
      combine scope entries fun comparator => conditions scope comparator entries
  | value, term, scope => Traced.refuse (.notTarget term scope value)

/-- The conditions of one mapping, in the order of its keys. -/
def conditions (scope : Scope) (comparator : Option Value) :
    List (String × Value) → Traced (List Query)
  | [] => pure []
  | (key, value) :: rest =>
    if key = scopeKey || key = comparatorKey then conditions scope comparator rest
    else do
      let first ←
        match Connective.ofKey? key with
        | some connective => group scope connective value
        | none => compiler.termQuery scope key value {} comparator (target value)
      let others ← conditions scope comparator rest
      return first :: others

/-- The group of a list of conditions, which may not be empty. -/
def group (scope : Scope) (connective : Connective) : Value → Traced Query
  | .list (first :: rest) => do
    let queries ← children scope (first :: rest)
    return .group connective queries (some scope.name)
  | _ => Traced.refuse (.notConditions connective)

/-- The conditions of a list, each a mapping. -/
def children (scope : Scope) : List Value → Traced (List Query)
  | [] => pure []
  | .map entries :: rest => do
    orRefuse (checkConditionScope scope entries)
    let first ← combine scope entries fun comparator => conditions scope comparator entries
    let others ← children scope rest
    return first :: others
  | value :: _ => Traced.refuse (.notCondition value)

end

/-- The query of a mapping in a scope. -/
def mapping (scope : Scope) (entries : Entries String Value) : Traced Query :=
  combine scope entries fun comparator => compiler.conditions scope comparator entries

/-- The branches of a query over several scopes, each a mapping that declares its own scope. -/
def multiBranches : List Value → Traced (List Query)
  | [] => pure []
  | .map entries :: rest =>
    match given? entries scopeKey with
    | none => Traced.refuse .unscopedBranch
    | some declared => do
      if declared.isString Scope.multi then Traced.refuse .unscopedBranch
      let scope ← Scope.ofValue declared
      let first ← compiler.mapping scope entries
      let others ← multiBranches rest
      return first :: others
  | _ :: _ => Traced.refuse .unscopedBranch

/-- The query of criteria of scope `multi`: one `OR` over branches and nothing else. -/
def multiQuery (entries : Entries String Value) : Traced Query :=
  let keys := entries.keys.filter fun key => key ≠ scopeKey
  match entries.get? Connective.any.key with
  | some (.list (first :: rest)) => do
    if keys ≠ [Connective.any.key] then Traced.refuse .multiNotAny
    let branches ← compiler.multiBranches (first :: rest)
    return .group .any branches (some Scope.multi)
  | _ => Traced.refuse .multiNotAny

/-- The scope that criteria are read in: the one they declare, which has to be the expected one if
there is one. -/
def scopeOfCriteria (expected : Option String) (entries : Entries String Value) :
    Except Invalid Value :=
  match given? entries scopeKey, expected with
  | none, none => .error .unscopedCriteria
  | none, some name => .ok (.string name)
  | some declared, none => .ok declared
  | some declared, some name =>
    if declared.isString name then .ok declared else .error (.foreignCriteria declared name)

/-- The query of criteria, read in the scope that they declare or that is expected. -/
def criteria (value : Value) (expected : Option String := none) : Traced Query :=
  match value with
  | .map entries => do
    let scope ← orRefuse (scopeOfCriteria expected entries)
    if scope.isString Scope.multi then compiler.multiQuery entries
    else
      let scope ← Scope.ofValue scope
      compiler.mapping scope entries
  | value => Traced.refuse (.notCriteria value)

/-- The query of one term with a value. -/
def compile (scope : Value) (name : String) (value : Value) (levels : Levels := {})
    (comparator : Option Value := none) : Traced Query := do
  let scope ← Scope.ofValue scope
  compiler.termQuery scope name value levels comparator (compiler.target value)

/-- The branches of a related list with a value, shortest first. -/
def relatedBranches (scope : Value) (name : String) (value : Value) (levels : Levels := {}) :
    Traced (List Branch) := do
  let scope ← Scope.ofValue scope
  let term ← compiler.registry.lookup scope name
  match term.role with
  | .related target declared =>
    let level ← compiler.levelsOf term declared levels
    let terminal ← compiler.target value term target
    return (compiler.branches term target level terminal).flatten
  | _ => Traced.refuse (.notRelatedList term)

end Compiler

end ScopedSearch
