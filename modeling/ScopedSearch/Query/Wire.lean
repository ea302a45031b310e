import ScopedSearch.Error
import ScopedSearch.Scope

/-!
# The wire form of query trees

Nested mappings: a leaf or hop is keyed by its term, a group by its connective, a record by `id`.
The key `_scope` stands where the scope of a node differs from the scope in which it is evaluated,
so at the root and nowhere below it when every subtree stays in its scope.
-/

namespace ScopedSearch

def scopeKey : String := "_scope"

def comparatorKey : String := "_comp"

/-- The entry for the scope of a node that is evaluated in `context`. -/
def scopeEntries (context scope : Option String) : Entries String Value :=
  match scope with
  | none => []
  | some name => if some name = context then [] else [(scopeKey, .string name)]

namespace Query

mutual

/-- The wire form of a tree that is evaluated in `context`. A term that is named like a key takes
that key's place. -/
def wireEntries (context : Option String) : Query → Entries String Value
  | .record id => [("id", .string id.text)]
  | .leaf term value scope _ _ comparator =>
    let entries := (scopeEntries context scope).put term value
    match comparator with
    | none => entries
    | some comparator => entries.put comparatorKey (.string comparator.sign)
  | .hop term target scope _ targetScope =>
    (scopeEntries context scope).put term (.map (wireEntries targetScope target))
  | .group connective children scope =>
    (scopeEntries context scope).put connective.key (.list (wireList (scope.or context) children))

/-- The wire forms of several trees that are evaluated in `context`. -/
def wireList (context : Option String) : List Query → List Value
  | [] => []
  | tree :: rest => .map (wireEntries context tree) :: wireList context rest

end

/-- The wire form of a tree that is evaluated in `context`. -/
def wire (tree : Query) (context : Option String := none) : Value :=
  .map (wireEntries context tree)

theorem wireList_eq_map (context : Option String) (trees : List Query) :
    wireList context trees = trees.map fun tree => tree.wire context := by
  induction trees with
  | nil => rfl
  | cons tree rest ih => rw [wireList, ih, List.map_cons, wire]

end Query

/-! ## Entries beside the scope -/

/-- In its own scope a node declares none. -/
@[simp] theorem scopeEntries_self (scope : String) :
    scopeEntries (some scope) (some scope) = [] := by
  simp [scopeEntries]

theorem scopeEntries_of_ne {context : Option String} {scope : String} (h : some scope ≠ context) :
    scopeEntries context (some scope) = [(scopeKey, .string scope)] := by
  simp [scopeEntries, h]

theorem scopeEntries_cases (context : Option String) (scope : String) :
    scopeEntries context (some scope) = [] ∨
      scopeEntries context (some scope) = [(scopeKey, .string scope)] := by
  by_cases h : some scope = context
  · exact .inl (h ▸ scopeEntries_self scope)
  · exact .inr (scopeEntries_of_ne h)

theorem eq_scopeKey_of_mem_scopeEntries {context scope : Option String} {key : String}
    (h : key ∈ (scopeEntries context scope).keys) : key = scopeKey := by
  unfold scopeEntries at h
  split at h
  · cases h
  · split at h
    · cases h
    · simpa [Entries.keys] using h

/-- A key other than that of the scope comes after the scope. -/
theorem put_scopeEntries {context scope : Option String} {key : String} (h : key ≠ scopeKey)
    (value : Value) : (scopeEntries context scope).put key value =
      scopeEntries context scope ++ [(key, value)] :=
  Entries.put_of_notMem (fun hmem => h (eq_scopeKey_of_mem_scopeEntries hmem)) value

namespace Query

theorem wireEntries_leaf {context scope field : Option String} {term : String} {value : Value}
    {fullText : Bool} {comparator : Option Comparator}
    (h : ¬ (term = scopeKey ∨ term = comparatorKey)) :
    wireEntries context (.leaf term value scope field fullText comparator) =
      scopeEntries context scope ++
        (term, value) :: comparator.toList.map fun c => (comparatorKey, .string c.sign) := by
  rw [not_or] at h
  cases comparator with
  | none =>
    rw [wireEntries, put_scopeEntries h.1]
    rfl
  | some c =>
    rw [wireEntries, put_scopeEntries h.1]
    have hkeys : comparatorKey ∉ (scopeEntries context scope ++ [(term, value)]).keys := by
      rw [Entries.keys, List.map_append, List.mem_append]
      rintro (hmem | hmem)
      · exact absurd (eq_scopeKey_of_mem_scopeEntries hmem) (by decide)
      · exact h.2 (List.mem_singleton.1 hmem).symm
    simp [Entries.put_of_notMem hkeys]

theorem wireEntries_hop {context scope field targetScope : Option String} {term : String}
    {target : Query} (h : term ≠ scopeKey) :
    wireEntries context (.hop term target scope field targetScope) =
      scopeEntries context scope ++ [(term, target.wire targetScope)] := by
  rw [wireEntries, put_scopeEntries h, wire]

theorem wireEntries_group {context scope : Option String} {connective : Connective}
    {children : List Query} :
    wireEntries context (.group connective children scope) =
      scopeEntries context scope ++
        [(connective.key, .list (children.map fun tree => tree.wire (scope.or context)))] := by
  rw [wireEntries, put_scopeEntries (by cases connective <;> decide), wireList_eq_map]

end Query

/-- The wire form of a value, which has to be a query tree. -/
def Value.wire (value : Value) (context : Option String) : Except Error Value :=
  match value with
  | .query tree => .ok (tree.wire context)
  | value => .error (Error.notQuery value).raised

end ScopedSearch
