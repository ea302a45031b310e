import ScopedSearch.Proofs.Compilation

/-!
# The normal form of criteria

What accepted criteria are written as once they are compiled, said without compiling them
(`Registry.normalForm`): the scope stands at the root and on the branches of a query over several
scopes and nowhere else, several conditions become a list of single ones under `AND`, identifiers
and numbers are brought into one shape, and a related list is written out as the hops of its chains.
Nothing else changes: no condition is lost or added and none changes its place
(`Compiler.wire_eq_normalForm`).
-/

namespace ScopedSearch

namespace Term

/-- The value that is written for a given one: an identifier without its mapping, a number for a
numeric term, any other value as it is. -/
def normalValue (term : Term) (value : Value) : Value :=
  match term.role, value with
  | .documentId, .map [("id", id)] | .similar, .map [("id", id)] => id
  | .documentId, .query (.record id) | .similar, .query (.record id) => .string id.text
  | .indexed _, value =>
    if term.isNumeric then (term.numberOf value).toOption.getD value else value
  | _, value => value

end Term

/-- The hops of a chain as mappings in each other, around what is written for its end. -/
def Chain.nested (chain : Chain) (last : Value) : Value :=
  chain.foldr (fun hop inner => .map [(hop.name, inner)]) last

/-- One condition stands for itself, several for a list of all of them. -/
def conjoined : List (Entries String Value) → Entries String Value
  | [single] => single
  | conditions => [(Connective.all.key, .list (conditions.map .map))]

namespace Registry

variable (registry : Registry)

/-- The condition of a term with a value, where `target` is what is written for the value when the
term leads to a scope. A comparison stands beside its term. -/
def termForm (term : Term) (value : Value) (comparator : Option Value) (target : Scope → Value) :
    Entries String Value :=
  match term.role with
  | .hop _ scope => [(term.name, target scope)]
  | .related scope maxLevel =>
    let anyOf (values : List Value) : Entries String Value := [(Connective.any.key, .list values)]
    anyOf ((registry.chainGroups (routeOf term scope) maxLevel).map fun chains =>
      .map (anyOf (chains.map fun chain => chain.nested (target scope))))
  | .documentId | .indexed _ | .text _ | .similar =>
    (term.name, term.normalValue value) :: comparator.toList.map fun sign => (comparatorKey, sign)

mutual

/-- What is written for the value of a hop to the scope: a bare identifier gets a mapping. -/
def targetForm : Value → Scope → Value
  | .string text, _ => .map [("id", .string text)]
  | .query tree, scope => tree.wire (some scope.name)
  | .map entries, scope =>
    if isIdMapping entries then .map entries
    else .map (conjoined (conditionForms scope (given? entries comparatorKey) entries))
  | value, _ => value

/-- The conditions of a mapping in their order, each a mapping of its own. -/
def conditionForms (scope : Scope) (comparator : Option Value) :
    List (String × Value) → List (Entries String Value)
  | [] => []
  | (key, value) :: rest =>
    if key = scopeKey ∨ key = comparatorKey then conditionForms scope comparator rest
    else
      (match Connective.ofKey? key with
        | some connective => [(connective.key, groupForm scope value)]
        | none =>
          match registry.find? scope key with
          | some term => registry.termForm term value comparator (targetForm value)
          | none => [(key, value)]) :: conditionForms scope comparator rest

/-- A list of conditions in its order. -/
def groupForm (scope : Scope) : Value → Value
  | .list items => .list (listForm scope items)
  | value => value

/-- The conditions of a list. -/
def listForm (scope : Scope) : List Value → List Value
  | [] => []
  | .map entries :: rest =>
    .map (conjoined (conditionForms scope (given? entries comparatorKey) entries)) ::
      listForm scope rest
  | value :: rest => value :: listForm scope rest

end

/-- The conditions of a mapping with the scope that they are in. -/
def scopedForm (scope : Scope) (entries : Entries String Value) : Value :=
  .map ((scopeKey, .string scope.name) ::
    conjoined (registry.conditionForms scope (given? entries comparatorKey) entries))

/-- A branch of a query over several scopes, in the scope that it declares. -/
def branchForm : Value → Value
  | .map entries =>
    match Scope.ofValue ((given? entries scopeKey).getD .null) with
    | .ok scope => registry.scopedForm scope entries
    | .error _ => .map entries
  | value => value

/-- What accepted criteria are written as: in the scope they declare, or else the expected one. -/
def normalForm (expected : Option String) : Value → Value
  | .map entries =>
    let declared := ((given? entries scopeKey).or (expected.map .string)).getD .null
    match Scope.ofValue declared, Entries.get? entries Connective.any.key with
    | .ok scope, _ => registry.scopedForm scope entries
    | .error _, some (.list branches) =>
      .map [(scopeKey, declared), (Connective.any.key, .list (branches.map registry.branchForm))]
    | _, _ => .map entries
  | value => value

/-! ### Compiled trees are written in normal form -/

variable {registry}

theorem normalValue_of_coerce? {term : Term} {value coerced : Value}
    (h : term.coerce? value = some coerced) : term.normalValue value = coerced := by
  unfold Term.coerce? at h
  unfold Term.normalValue
  cases hrole : term.role with
  | documentId | similar =>
    simp only [hrole, Option.map_eq_some_iff, toOption_eq_some_iff] at h
    obtain ⟨id, hid, rfl⟩ := h
    obtain rfl | rfl | rfl := Term.recordOf_eq_ok_iff.1 hid <;> rfl
  | indexed =>
    simp only [hrole, toOption_eq_some_iff] at h
    by_cases hnumeric : term.isNumeric = true
    · rw [if_pos hnumeric] at h
      simp [hnumeric, h, Except.toOption]
    · rw [if_neg hnumeric] at h
      obtain ⟨text, -, rfl, rfl⟩ := Term.textOf_eq_ok_iff.1 h
      simp [hnumeric]
  | text =>
    simp only [hrole, toOption_eq_some_iff] at h
    obtain ⟨text, -, rfl, rfl⟩ := Term.textOf_eq_ok_iff.1 h
    rfl
  | hop | related => simp [hrole] at h

/-- A walk is written as its hops: each target stands in its own scope and declares none. -/
theorem Walk.wire_eq {source target : Scope} {chain : Chain} {terminal : Query}
    (h : registry.Walk source chain target) :
    (chain.query terminal).wire (some source.name) =
      chain.nested (terminal.wire (some target.name)) := by
  induction h with
  | nil => rfl
  | @cons source target hop rest hmem _ ih =>
    obtain rfl := scope_of_mem_hopsFrom hmem
    have hquery : Chain.query (hop :: rest) terminal = hop.query (Chain.query rest terminal) := rfl
    have hnested (last : Value) :
      Chain.nested (hop :: rest) last = .map [(hop.name, Chain.nested rest last)] := rfl
    rw [hquery, hnested, ← ih]
    simp [Hop.query, Query.wire, Query.wireEntries, Entries.put]

/-- The groups of a related list are written as lists of chains, all in the scope of the list. -/
theorem wireEntries_ofChains (route : Route) {maxLevel : Nat} {terminal : Query}
    {context : Option String} :
    Query.wireEntries context
        (.ofChains route.origin (registry.chainGroups route maxLevel) terminal) =
      scopeEntries context (some route.origin.name) ++
        [(Connective.any.key, .list ((registry.chainGroups route maxLevel).map fun chains =>
          .map [(Connective.any.key, .list (chains.map fun chain =>
            chain.nested (terminal.wire (some route.target.name))))]))] := by
  have hchains : ∀ chains ∈ registry.chainGroups route maxLevel,
      (chains.map fun chain => (chain.query terminal).wire (some route.origin.name)) =
        chains.map fun chain => chain.nested (terminal.wire (some route.target.name)) :=
    fun chains hchains => List.map_congr_left fun chain hchain =>
      (exists_mem_chainGroups_iff.1 ⟨chains, hchains, hchain⟩).2.walk.wire_eq
  rw [Query.ofChains, Query.wireEntries_group, List.map_map, Option.some_or]
  congr 4
  refine List.map_congr_left fun chains hmem => ?_
  rw [Function.comp_apply, Query.wire, Query.wireEntries_group, scopeEntries_self, List.nil_append,
    List.map_map, Option.some_or, ← hchains chains hmem]
  rfl

theorem termForm_leaf {term : Term} {value : Value} {comparator : Option Value}
    {target : Scope → Value} {field : String} {fullText : Bool}
    (hfield : term.role.field? = some (field, fullText)) :
    registry.termForm term value comparator target = (term.name, term.normalValue value) ::
      comparator.toList.map fun sign => (comparatorKey, sign) := by
  unfold termForm
  cases hrole : term.role with
  | hop | related => simp [hrole, Role.field?] at hfield
  | _ => rfl

/-- The conditions are written each on its own where there are several, in their scope. -/
theorem wireEntries_conjunction {scope : Scope} {trees : List Query}
    {conditions : List (Entries String Value)}
    (h : ∀ context, trees.map (Query.wireEntries context) =
      conditions.map (scopeEntries context (some scope.name) ++ ·)) (context : Option String) :
    Query.wireEntries context (Compiler.conjunction scope trees) =
      scopeEntries context (some scope.name) ++ conjoined conditions := by
  obtain rfl : conditions = trees.map (Query.wireEntries (some scope.name)) := by
    simpa using (h (some scope.name)).symm
  rcases trees with _ | ⟨first, _ | ⟨second, rest⟩⟩
  · exact Query.wireEntries_group
  · simpa [Compiler.conjunction, conjoined] using h context
  · refine Query.wireEntries_group.trans ?_
    simp [conjoined, Query.wire]

mutual

theorem ReadsTarget.wire_eq {scope : Scope} {value : Value} {tree : Query} :
    registry.ReadsTarget scope value tree →
      tree.wire (some scope.name) = registry.targetForm value scope
  | .text id | .record id => by simp [Query.wire, Query.wireEntries, targetForm]
  | .tree _ _ => by rw [targetForm]
  | .named id => by
    simp [Query.wire, Query.wireEntries, targetForm, isIdMapping, Entries.keys]
  | .mapping hid _ hmapping => by
    rw [targetForm, hid, Query.wire, hmapping.wireEntries_eq, scopeEntries_self, List.nil_append]
    rfl

theorem ReadsMapping.wireEntries_eq {scope : Scope} {entries : Entries String Value} {tree : Query} :
    registry.ReadsMapping scope entries tree → ∀ context : Option String,
      Query.wireEntries context tree = scopeEntries context (some scope.name) ++
        conjoined (registry.conditionForms scope (given? entries comparatorKey) entries)
  | .intro hcomparison hentries, context => by
    rw [← Compiler.eq_given?_of_comparisonOf hcomparison]
    exact wireEntries_conjunction hentries.wireEntries_eq context

theorem ReadsEntries.wireEntries_eq {scope : Scope} {comparator : Option Value}
    {entries : List (String × Value)} {trees : List Query} :
    registry.ReadsEntries scope comparator entries trees → ∀ context : Option String,
      trees.map (Query.wireEntries context) =
        (registry.conditionForms scope comparator entries).map
          (scopeEntries context (some scope.name) ++ ·)
  | .nil, context => by simp [conditionForms]
  | .option hoption hrest, context => by
    rw [conditionForms, if_pos hoption]
    exact hrest.wireEntries_eq context
  | .condition hoption hcondition hrest, context => by
    rw [conditionForms, if_neg hoption, List.map_cons, List.map_cons,
      hcondition.wireEntries_eq hoption, hrest.wireEntries_eq]

theorem ReadsCondition.wireEntries_eq {scope : Scope} {comparator : Option Value} {key : String}
    {value : Value} {tree : Query} :
    registry.ReadsCondition scope comparator key value tree →
      ¬ (key = scopeKey ∨ key = comparatorKey) → ∀ context : Option String,
      Query.wireEntries context tree = scopeEntries context (some scope.name) ++
        match Connective.ofKey? key with
        | some connective => [(connective.key, registry.groupForm scope value)]
        | none =>
          match registry.find? scope key with
          | some term => registry.termForm term value comparator (registry.targetForm value)
          | none => [(key, value)]
  | .group connective _ hlist, _, context => by
    rw [Connective.ofKey?_key, Query.wireEntries_group, groupForm, Option.some_or,
      hlist.map_wire_eq]
  | .leaf term hname hterm hfield hcoerced _ hsign, hoption, context => by
    rw [hname, find?_eq_some_iff.2 ⟨hterm, rfl⟩, Term.leaf, Query.wireEntries_leaf hoption]
    obtain ⟨rfl, -⟩ := Term.comparatorOf_eq_ok_iff.1 hsign
    obtain rfl := scope_of_mem_table hterm
    simp [termForm_leaf hfield, normalValue_of_coerce? hcoerced, Option.toList_map]
  | .hop hop hname hmem htarget, hoption, context => by
    have hfind : registry.find? scope hop.name = some hop.term :=
      find?_eq_some_iff.2 ⟨mem_hopsFrom_iff.1 hmem, rfl⟩
    obtain rfl := scope_of_mem_hopsFrom hmem
    rw [hname, hfind, Hop.query, Query.wireEntries_hop (not_or.1 hoption).1, htarget.wire_eq]
    simp only [termForm, hop.role]
    rfl
  | .related term hname hterm hrole hgroups htarget, _, context => by
    obtain rfl := scope_of_mem_table hterm
    rw [hname, find?_eq_some_iff.2 ⟨hterm, rfl⟩]
    refine (wireEntries_ofChains (routeOf term _)).trans ?_
    simp only [termForm, hrole, ← htarget.wire_eq]
    rfl

theorem ReadsList.map_wire_eq {scope : Scope} {items : List Value} {trees : List Query} :
    registry.ReadsList scope items trees →
      trees.map (fun tree => tree.wire (some scope.name)) = registry.listForm scope items
  | .nil => by simp [listForm]
  | .cons _ hmapping hrest => by
    rw [listForm, List.map_cons, hrest.map_wire_eq, Query.wire, hmapping.wireEntries_eq,
      scopeEntries_self, List.nil_append]

end

/-- Outside its scope a mapping is written with it. -/
theorem ReadsMapping.wire_eq {scope : Scope} {entries : Entries String Value} {tree : Query}
    {context : Option String} (h : registry.ReadsMapping scope entries tree)
    (hcontext : some scope.name ≠ context) :
    tree.wire context = registry.scopedForm scope entries := by
  rw [Query.wire, h.wireEntries_eq, scopeEntries_of_ne hcontext]
  rfl

theorem ReadsBranches.map_wire_eq {branches : List Value} {trees : List Query}
    (h : registry.ReadsBranches branches trees) :
    trees.map (fun tree => tree.wire (some Scope.multi)) = branches.map registry.branchForm := by
  induction h with
  | nil => rfl
  | @cons scope entries _ _ _ hdeclared hmapping _ ih =>
    have hscope : Scope.ofValue (.string scope.name) = .ok scope := Scope.ofValue_eq_ok_iff.2 rfl
    rw [List.map_cons, List.map_cons, ih, branchForm, hdeclared, Option.getD_some, hscope,
      hmapping.wire_eq (by simpa using scope.name_ne_multi)]

end Registry

/-- Nothing is lost, added or moved: the tree of accepted criteria is written as their normal
form. -/
theorem Compiler.wire_eq_normalForm {compiler : Compiler} {value : Value}
    {expected : Option String} {tree : Query}
    (h : (compiler.criteria value expected).outcome = .ok tree) :
    tree.wire = compiler.registry.normalForm expected value := by
  cases criteria_eq_ok_iff.1 h with
  | @mapping scope entries _ hscope hmapping =>
    have hdeclared : Scope.ofValue (.string scope.name) = .ok scope :=
      Scope.ofValue_eq_ok_iff.2 rfl
    rw [Registry.normalForm, given?_of_scopeOfCriteria hscope, Option.getD_some, hdeclared,
      hmapping.wire_eq (by simp)]
  | @multi entries branches trees hscope _ hbranches _ htrees =>
    obtain ⟨error, herror⟩ : ∃ error, Scope.ofValue (.string Scope.multi) = .error error :=
      ⟨_, rfl⟩
    rw [Registry.normalForm, given?_of_scopeOfCriteria hscope, Option.getD_some, herror, hbranches,
      Query.wire, Query.wireEntries_group, scopeEntries_of_ne (by simp), Option.some_or,
      htrees.map_wire_eq]
    rfl

theorem Compiler.wire_seaQuery :
    ((Compiler.mk .artists true).criteria seaCriteria).outcome = .ok seaQuery ∧
      seaQuery.wire = Registry.artists.normalForm none seaCriteria :=
  ⟨seaCriteria_compiled, wire_eq_normalForm seaCriteria_compiled⟩

example : Registry.artists.normalForm none seaCriteria =
    .map [(scopeKey, .string "work"), ("AND", .list
      [.map [("text", .string "sea")],
       .map [("createdBy", .map [("startYear", .int 1850), (comparatorKey, .string ">=")])]])] := by
  rfl

end ScopedSearch
