import ScopedSearch.Proofs.Reading

/-!
# Typed trees

A tree is typed in a scope when every node of it belongs to a term of the scope that it is in: leaves
hold values that their terms leave as they are, hops lead to a record or to a tree typed in their
target scope, and groups have children of their own scope (`Registry.Typed`). Criteria without
query trees of their own compile to such trees only (`Registry.ReadsCriteria.typed`); for a related
list this needs that its chains are walks.
-/

namespace ScopedSearch

namespace Value

mutual

/-- No query tree is in the value, records apart. -/
def isPlain : Value → Bool
  | .null | .bool _ | .int _ | .float _ | .string _ => true
  | .list items => arePlain items
  | .map entries => havePlainValues entries
  | .query tree => tree.isRecord

/-- No query tree is in the values, records apart. -/
def arePlain : List Value → Bool
  | [] => true
  | value :: rest => value.isPlain && arePlain rest

/-- No query tree is in the values of the entries, records apart. -/
def havePlainValues : List (String × Value) → Bool
  | [] => true
  | (_, value) :: rest => value.isPlain && havePlainValues rest

end

theorem isPlain_of_get? {entries : Entries String Value} {key : String} {value : Value}
    (h : havePlainValues entries = true) (hget : entries.get? key = some value) :
    value.isPlain = true := by
  induction entries with
  | nil => cases hget
  | cons pair rest ih =>
    obtain ⟨k, v⟩ := pair
    rw [havePlainValues, Bool.and_eq_true] at h
    rw [Entries.get?_cons] at hget
    split at hget
    · exact Option.some.inj hget ▸ h.1
    · exact ih h.2 hget

end Value

namespace Registry

variable {registry : Registry}

/-- Every node of the tree belongs to a term of the scope that it is in. -/
inductive Typed (registry : Registry) : Scope → Query → Prop
  | leaf {scope : Scope} {value : Value} {field : String} {fullText : Bool}
    {sign : Option Comparator} (term : Term) : term ∈ registry.table scope →
      term.role.field? = some (field, fullText) → term.coerce? value = some value →
        (sign.isSome → term.pattern.isIndexed ∧ term.isNumeric) →
          Typed registry scope (term.leaf value field fullText sign)
  | toRecord {scope : Scope} (hop : Hop) (id : RecordId) : hop ∈ registry.hopsFrom scope →
    Typed registry scope (hop.query (.record id))
  | hop {scope : Scope} {target : Query} (hop : Hop) : hop ∈ registry.hopsFrom scope →
    Typed registry hop.target target → Typed registry scope (hop.query target)
  | group {scope : Scope} {trees : List Query} (connective : Connective) : trees ≠ [] →
    (∀ tree ∈ trees, Typed registry scope tree) →
      Typed registry scope (.group connective trees (some scope.name))

/-- The tree is a record, or typed in the scope. -/
def TypedTarget (registry : Registry) (scope : Scope) (tree : Query) : Prop :=
  tree.isRecord = true ∨ registry.Typed scope tree

/-- The tree is typed in some scope, or each branch of a query over several scopes is in its own. -/
def TypedRoot (registry : Registry) (tree : Query) : Prop :=
  (∃ scope, registry.Typed scope tree) ∨
    ∃ trees, tree = .group .any trees (some Scope.multi) ∧ trees ≠ [] ∧
      ∀ branch ∈ trees, ∃ scope, registry.Typed scope branch

theorem TypedTarget.hop {scope : Scope} {target : Query} {hop : Hop}
    (hmem : hop ∈ registry.hopsFrom scope) (htarget : registry.TypedTarget hop.target target) :
    registry.Typed scope (hop.query target) := by
  rcases htarget with hrecord | htyped
  · cases target with
    | record id => exact .toRecord hop id hmem
    | leaf | hop | group => cases hrecord
  · exact .hop hop hmem htyped

/-! ### Chains are typed -/

theorem Walk.typedTarget {source target : Scope} {chain : Chain} {terminal : Query}
    (h : registry.Walk source chain target) (hterminal : registry.TypedTarget target terminal) :
    registry.TypedTarget source (chain.query terminal) := by
  induction h with
  | nil => exact hterminal
  | cons hmem _ ih => exact .inr ((ih hterminal).hop hmem)

theorem Walk.typed {source target : Scope} {chain : Chain} {terminal : Query}
    (h : registry.Walk source chain target) (hnonempty : chain ≠ [])
    (hterminal : registry.TypedTarget target terminal) :
    registry.Typed source (chain.query terminal) := by
  cases h with
  | nil => exact absurd rfl hnonempty
  | cons hmem hrest => exact (hrest.typedTarget hterminal).hop hmem

/-- The groups of a related list are typed, as its chains lead from the scope to the target. -/
theorem typed_ofChains {route : Route} {maxLevel : Nat} {terminal : Query}
    (hgroups : registry.chainGroups route maxLevel ≠ [])
    (hterminal : registry.TypedTarget route.target terminal) :
    registry.Typed route.origin
      (.ofChains route.origin (registry.chainGroups route maxLevel) terminal) := by
  refine .group .any (by simpa using hgroups) fun tree htree => ?_
  obtain ⟨chains, hchains, rfl⟩ := List.mem_map.1 htree
  refine .group .any (by simpa using nonempty_of_mem_chainGroups hchains) fun tree htree => ?_
  obtain ⟨chain, hchain, rfl⟩ := List.mem_map.1 htree
  have hleads := (exists_mem_chainGroups_iff.1 ⟨chains, hchains, hchain⟩).2
  exact hleads.walk.typed hleads.nonempty hterminal

/-! ### Compiled trees are typed -/

theorem typed_conjunction {scope : Scope} {trees : List Query} (hne : trees ≠ [])
    (htrees : ∀ tree ∈ trees, registry.Typed scope tree) :
    registry.Typed scope (Compiler.conjunction scope trees) := by
  unfold Compiler.conjunction
  split
  · exact htrees _ (by simp)
  · exact .group .all hne htrees


mutual

theorem ReadsTarget.typed {scope : Scope} {value : Value} {tree : Query} :
    registry.ReadsTarget scope value tree → value.isPlain = true →
      registry.TypedTarget scope tree
  | .text id, _ | .record id, _ | .named id, _ => .inl rfl
  | .tree hrecord _, hplain => .inl hplain
  | .mapping _ _ hmapping, hplain => .inr (hmapping.typed (by simpa [Value.isPlain] using hplain))

theorem ReadsMapping.typed {scope : Scope} {entries : Entries String Value} {tree : Query} :
    registry.ReadsMapping scope entries tree → Value.havePlainValues entries = true →
      registry.Typed scope tree
  | .intro hcomparison hentries, hplain => by
    refine typed_conjunction ?_ (hentries.typed hplain)
    rw [← List.length_pos_iff, hentries.length_eq, List.length_pos_iff]
    exact Compiler.termKeys_ne_nil_of_comparisonOf hcomparison

theorem ReadsEntries.typed {scope : Scope} {comparator : Option Value}
    {entries : List (String × Value)} {trees : List Query} :
    registry.ReadsEntries scope comparator entries trees → Value.havePlainValues entries = true →
      ∀ tree ∈ trees, registry.Typed scope tree
  | .nil, _ => by simp
  | .option _ hrest, hplain => by
    rw [Value.havePlainValues, Bool.and_eq_true] at hplain
    exact hrest.typed hplain.2
  | .condition _ hcondition hrest, hplain => by
    rw [Value.havePlainValues, Bool.and_eq_true] at hplain
    rw [List.forall_mem_cons]
    exact ⟨hcondition.typed hplain.1, hrest.typed hplain.2⟩

theorem ReadsCondition.typed {scope : Scope} {comparator : Option Value} {key : String}
    {value : Value} {tree : Query} :
    registry.ReadsCondition scope comparator key value tree → value.isPlain = true →
      registry.Typed scope tree
  | .group connective hitems hlist, hplain => by
    rw [Value.isPlain] at hplain
    refine .group connective ?_ (hlist.typed hplain)
    rwa [← List.length_pos_iff, hlist.length_eq, List.length_pos_iff]
  | .leaf term _ hterm hfield hcoerced hcomparator hsign, _ => by
    obtain ⟨rfl, hnumeric⟩ := Term.comparatorOf_eq_ok_iff.1 hsign
    exact .leaf term hterm hfield (Term.coerce?_coerced hcoerced) fun h =>
      ⟨hcomparator (by simpa using h), hnumeric h⟩
  | .hop hop _ hmem htarget, hplain => (htarget.typed hplain).hop hmem
  | .related term _ hterm hrole hgroups htarget, hplain => by
    obtain rfl := scope_of_mem_table hterm
    exact typed_ofChains hgroups (htarget.typed hplain)

theorem ReadsList.typed {scope : Scope} {items : List Value} {trees : List Query} :
    registry.ReadsList scope items trees → Value.arePlain items = true →
      ∀ tree ∈ trees, registry.Typed scope tree
  | .nil, _ => by simp
  | .cons _ hmapping hrest, hplain => by
    rw [Value.arePlain, Bool.and_eq_true, Value.isPlain] at hplain
    rw [List.forall_mem_cons]
    exact ⟨hmapping.typed hplain.1, hrest.typed hplain.2⟩

end

theorem ReadsBranches.typed {branches : List Value} {trees : List Query}
    (h : registry.ReadsBranches branches trees) (hplain : Value.arePlain branches = true) :
    ∀ tree ∈ trees, ∃ scope, registry.Typed scope tree := by
  induction h with
  | nil => simp
  | @cons scope _ _ _ _ _ hmapping _ ih =>
    rw [Value.arePlain, Bool.and_eq_true, Value.isPlain] at hplain
    rw [List.forall_mem_cons]
    exact ⟨⟨scope, hmapping.typed hplain.1⟩, ih hplain.2⟩

/-- The tree of plain criteria is typed, or its branches are. -/
theorem ReadsCriteria.typed {expected : Option String} {value : Value} {tree : Query}
    (h : registry.ReadsCriteria expected value tree) (hplain : value.isPlain = true) :
    registry.TypedRoot tree := by
  cases h with
  | @mapping scope _ _ _ hmapping =>
    rw [Value.isPlain] at hplain
    exact .inl ⟨scope, hmapping.typed hplain⟩
  | @multi _ branches trees _ _ hbranches hne htrees =>
    rw [Value.isPlain] at hplain
    have hplain := Value.isPlain_of_get? hplain hbranches
    rw [Value.isPlain] at hplain
    refine .inr ⟨trees, rfl, ?_, htrees.typed hplain⟩
    rwa [← List.length_pos_iff, htrees.length_eq, List.length_pos_iff]

end Registry

end ScopedSearch
