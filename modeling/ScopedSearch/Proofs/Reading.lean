import ScopedSearch.Proofs.Coercion
import ScopedSearch.Proofs.Walk

/-!
# How criteria are read

The rules by which values become query trees, as relations: one rule for each way in which a
condition may be given. `Registry.ReadsTarget` is about the value of a hop, `Registry.ReadsMapping`
about a mapping of conditions, and the others about their parts. Compilation succeeds exactly along
these rules (`Compiler.target_eq_ok_iff`, `Compiler.mapping_eq_ok_iff`), so what holds of every
compiled tree is shown by induction on them, and that a value compiles by giving a derivation.
-/

namespace ScopedSearch

/-- Any of the groups, and in a group any of its chains to the terminal. -/
def Query.ofChains (scope : Scope) (groups : List (List Chain)) (terminal : Query) : Query :=
  let anyOf (queries : List Query) : Query := .group .any queries (some scope.name)
  anyOf (groups.map fun chains => anyOf (chains.map fun chain => chain.query terminal))

namespace Registry

section Rules

variable (registry : Registry)

mutual

/-- The value is read as a target in the scope. -/
inductive ReadsTarget : Scope → Value → Query → Prop
  | text {scope : Scope} (id : RecordId) : ReadsTarget scope (.string id.text) (.record id)
  | record {scope : Scope} (id : RecordId) : ReadsTarget scope (.query (.record id)) (.record id)
  | tree {scope : Scope} {tree : Query} : tree.isRecord = false →
    (∀ name ∈ tree.scope, name = scope.name) → ReadsTarget scope (.query tree) tree
  | named {scope : Scope} (id : RecordId) :
    ReadsTarget scope (.map [("id", .string id.text)]) (.record id)
  | mapping {scope : Scope} {entries : Entries String Value} {tree : Query} :
    isIdMapping entries = false → Compiler.checkTargetScope scope entries = .ok () →
      ReadsMapping scope entries tree → ReadsTarget scope (.map entries) tree

/-- The mapping is read as a tree in the scope. -/
inductive ReadsMapping : Scope → Entries String Value → Query → Prop
  | intro {scope : Scope} {entries : Entries String Value} {comparator : Option Value}
    {trees : List Query} : Compiler.comparisonOf scope entries = .ok comparator →
      ReadsEntries scope comparator entries trees →
        ReadsMapping scope entries (Compiler.conjunction scope trees)

/-- The entries of a mapping are read as trees, one for each that is no option. -/
inductive ReadsEntries : Scope → Option Value → List (String × Value) → List Query → Prop
  | nil {scope : Scope} {comparator : Option Value} : ReadsEntries scope comparator [] []
  | option {scope : Scope} {comparator : Option Value} {key : String} {value : Value}
    {rest : List (String × Value)} {trees : List Query} : key = scopeKey ∨ key = comparatorKey →
      ReadsEntries scope comparator rest trees →
        ReadsEntries scope comparator ((key, value) :: rest) trees
  | condition {scope : Scope} {comparator : Option Value} {key : String} {value : Value}
    {rest : List (String × Value)} {tree : Query} {trees : List Query} :
      ¬ (key = scopeKey ∨ key = comparatorKey) → ReadsCondition scope comparator key value tree →
        ReadsEntries scope comparator rest trees →
          ReadsEntries scope comparator ((key, value) :: rest) (tree :: trees)

/-- The condition of a key is read as a tree. -/
inductive ReadsCondition : Scope → Option Value → String → Value → Query → Prop
  | group {scope : Scope} {comparator : Option Value} {items : List Value} {trees : List Query}
    (connective : Connective) : items ≠ [] → ReadsList scope items trees →
      ReadsCondition scope comparator connective.key (.list items)
        (.group connective trees (some scope.name))
  | leaf {scope : Scope} {comparator : Option Value} {value coerced : Value} {field : String}
    {fullText : Bool} {sign : Option Comparator} (term : Term) :
      Connective.ofKey? term.name = none → term ∈ registry.table scope →
        term.role.field? = some (field, fullText) → term.coerce? value = some coerced →
          (comparator.isSome → term.pattern.isIndexed) → term.comparatorOf comparator = .ok sign →
            ReadsCondition scope comparator term.name value (term.leaf coerced field fullText sign)
  | hop {scope : Scope} {value : Value} {target : Query} (hop : Hop) :
      Connective.ofKey? hop.name = none → hop ∈ registry.hopsFrom scope →
        ReadsTarget hop.target value target →
          ReadsCondition scope none hop.name value (hop.query target)
  | related {scope target : Scope} {value : Value} {terminal : Query} {maxLevel : Nat}
    (term : Term) : Connective.ofKey? term.name = none → term ∈ registry.table scope →
      term.role = .related target maxLevel →
        registry.chainGroups (routeOf term target) maxLevel ≠ [] →
          ReadsTarget target value terminal →
            ReadsCondition scope none term.name value
              (.ofChains scope (registry.chainGroups (routeOf term target) maxLevel) terminal)

/-- The conditions of a list are read as trees. -/
inductive ReadsList : Scope → List Value → List Query → Prop
  | nil {scope : Scope} : ReadsList scope [] []
  | cons {scope : Scope} {entries : Entries String Value} {rest : List Value} {tree : Query}
    {trees : List Query} : Compiler.checkConditionScope scope entries = .ok () →
      ReadsMapping scope entries tree → ReadsList scope rest trees →
        ReadsList scope (.map entries :: rest) (tree :: trees)

end

/-- The branches of a query over several scopes are read as trees, each in the scope it declares. -/
inductive ReadsBranches : List Value → List Query → Prop
  | nil : ReadsBranches [] []
  | cons {scope : Scope} {entries : Entries String Value} {rest : List Value} {tree : Query}
    {trees : List Query} : given? entries scopeKey = some (.string scope.name) →
      ReadsMapping registry scope entries tree → ReadsBranches rest trees →
        ReadsBranches (.map entries :: rest) (tree :: trees)

/-- The criteria are read as a tree, in the scope that is expected or that they declare. -/
inductive ReadsCriteria : Option String → Value → Query → Prop
  | mapping {expected : Option String} {scope : Scope} {entries : Entries String Value}
    {tree : Query} : Compiler.scopeOfCriteria expected entries = .ok (.string scope.name) →
      ReadsMapping registry scope entries tree → ReadsCriteria expected (.map entries) tree
  | multi {expected : Option String} {entries : Entries String Value} {branches : List Value}
    {trees : List Query} :
      Compiler.scopeOfCriteria expected entries = .ok (.string Scope.multi) →
        (entries.keys.filter fun key => key ≠ scopeKey) = [Connective.any.key] →
          entries.get? Connective.any.key = some (.list branches) → branches ≠ [] →
            ReadsBranches registry branches trees →
              ReadsCriteria expected (.map entries) (.group .any trees (some Scope.multi))

end Rules

end Registry

namespace Compiler

/-! ### Options of criteria -/

section Options

variable {scope : Scope} {entries : Entries String Value} {comparator : Option Value}

/-- Criteria have a term, no option that is unknown, and a comparison only beside a single term. -/
theorem comparisonOf_eq_ok_iff :
    comparisonOf scope entries = .ok comparator ↔
      termKeys entries ≠ [] ∧ (∀ key ∈ termKeys entries, key.toList.head? ≠ some '_') ∧
        ((given? entries comparatorKey).isSome → (termKeys entries).length = 1 ∧
          ∀ key ∈ termKeys entries, Connective.ofKey? key = none) ∧
        given? entries comparatorKey = comparator := by
  have hunknown : ((termKeys entries).filter fun key => key.toList.head? = some '_') = [] ↔
      ∀ key ∈ termKeys entries, key.toList.head? ≠ some '_' := by
    simp [List.filter_eq_nil_iff]
  have halone : ((given? entries comparatorKey).isSome && ((termKeys entries).length ≠ 1 ||
        (termKeys entries).any fun key => (Connective.ofKey? key).isSome)) = false ↔
      ((given? entries comparatorKey).isSome → (termKeys entries).length = 1 ∧
        ∀ key ∈ termKeys entries, Connective.ofKey? key = none) := by
    cases given? entries comparatorKey <;> simp
  rw [← hunknown, ← halone]
  unfold comparisonOf
  dsimp only
  split
  · next hkeys => simp [hkeys]
  · next hkeys =>
    split
    · next h => simp [h]
    · next h =>
      rw [not_not] at h
      split
      · next hcomparator =>
        rw [hcomparator]
        simp
      · next hcomparator =>
        rw [Bool.not_eq_true] at hcomparator
        rw [hcomparator]
        simp only [Except.ok.injEq, ne_eq, hkeys, h, not_false_eq_true, true_and]

/-- Criteria under a hop declare the scope that they are in, if they declare one. -/
theorem checkTargetScope_eq_ok_iff :
    checkTargetScope scope entries = .ok () ↔
      ∀ declared ∈ given? entries scopeKey, declared = .string scope.name := by
  unfold checkTargetScope
  cases given? entries scopeKey with
  | none => simp
  | some declared => cases declared <;> simp

/-- Conditions in a list declare their scope like criteria under a hop. -/
theorem checkConditionScope_eq_ok_iff :
    checkConditionScope scope entries = .ok () ↔ checkTargetScope scope entries = .ok () := by
  unfold checkConditionScope checkTargetScope
  cases given? entries scopeKey with
  | none => rfl
  | some declared => cases declared <;> simp

/-- What criteria ask of a comparison is what they declare of it. -/
theorem eq_given?_of_comparisonOf (h : comparisonOf scope entries = .ok comparator) :
    comparator = given? entries comparatorKey :=
  (comparisonOf_eq_ok_iff.1 h).2.2.2.symm

theorem termKeys_ne_nil_of_comparisonOf (h : comparisonOf scope entries = .ok comparator) :
    termKeys entries ≠ [] :=
  (comparisonOf_eq_ok_iff.1 h).1

end Options

/-- The scope that criteria are read in is the one they declare, or else the expected one. -/
theorem given?_of_scopeOfCriteria {expected : Option String} {entries : Entries String Value}
    {declared : Value} (h : scopeOfCriteria expected entries = .ok declared) :
    (given? entries scopeKey).or (expected.map .string) = some declared := by
  unfold scopeOfCriteria at h
  split at h
  · cases h
  · next hgiven => simp [hgiven, Except.ok.inj h]
  · next hgiven => simp [hgiven, Except.ok.inj h]
  · next hgiven =>
    split at h
    · simp [hgiven, Except.ok.inj h]
    · cases h

theorem termKeys_cons {key : String} {value : Value} {rest : List (String × Value)} :
    termKeys ((key, value) :: rest) =
      if key = scopeKey ∨ key = comparatorKey then termKeys rest else key :: termKeys rest := by
  by_cases h : key = scopeKey ∨ key = comparatorKey
  · rw [if_pos h]
    rcases h with rfl | rfl <;> simp [termKeys, Entries.keys]
  · rw [if_neg h]
    rw [not_or] at h
    simp [termKeys, Entries.keys, h.1, h.2]

end Compiler

namespace Registry

variable {registry : Registry}

/-! ### One tree for each condition -/

/-- There is one tree for each key that is no option. -/
theorem ReadsEntries.length_eq {scope : Scope} {comparator : Option Value}
    {entries : List (String × Value)} {trees : List Query} :
    registry.ReadsEntries scope comparator entries trees →
      trees.length = (Compiler.termKeys entries).length
  | .nil => rfl
  | .option hoption hrest => by
    rw [hrest.length_eq, Compiler.termKeys_cons, if_pos hoption]
  | .condition hoption _ hrest => by
    rw [List.length_cons, hrest.length_eq, Compiler.termKeys_cons, if_neg hoption, List.length_cons]

theorem ReadsList.length_eq {scope : Scope} {items : List Value} {trees : List Query} :
    registry.ReadsList scope items trees → trees.length = items.length
  | .nil => rfl
  | .cons _ _ hrest => by rw [List.length_cons, hrest.length_eq, List.length_cons]

theorem ReadsBranches.length_eq {branches : List Value} {trees : List Query}
    (h : registry.ReadsBranches branches trees) : trees.length = branches.length := by
  induction h with
  | nil => rfl
  | cons _ _ _ ih => rw [List.length_cons, ih, List.length_cons]

end Registry

end ScopedSearch
