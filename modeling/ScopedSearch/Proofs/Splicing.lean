import ScopedSearch.Proofs.Compilation
import ScopedSearch.Proofs.Nesting
import ScopedSearch.Proofs.Typing

/-!
# Trees spliced into criteria

Where a target is expected, criteria may hold a query tree that was built by hand. Such a splice is
put into the compiled tree as it is, and it is evaluated in the scope that the term it was given to
leads to (`Registry.targetSplices` and the functions beside it collect the splices of a value). All
else in a compiled tree declares the scope that it is evaluated in. So the nesting check accepts a
compiled tree exactly if it accepts each splice in its scope, and every tree that is compiled without
splices (`Compiler.compiled_accepted_iff`).
-/

namespace ScopedSearch

/-- A query tree that stands as a target, and the scope that is expected there. -/
structure Splice where
  scope : Scope
  tree : Query

/-- The tree passes the nesting check as a subtree of the scope. -/
def Splice.Passes (splice : Splice) : Prop := splice.tree.checkIn splice.scope.name = .ok ()

theorem Value.isPlain_of_mem {values : List Value} {value : Value} (h : arePlain values = true)
    (hvalue : value ∈ values) : value.isPlain = true := by
  induction values with
  | nil => cases hvalue
  | cons first rest ih =>
    rw [arePlain, Bool.and_eq_true] at h
    rcases List.mem_cons.1 hvalue with rfl | hvalue
    · exact h.1
    · exact ih h.2 hvalue

namespace Registry

/-! ### Where trees are spliced in -/

section Splices

variable (registry : Registry)

/-- The splices of a condition on the term: those of its target, if it leads to one. -/
def termSplices (term : Term) (ofTarget : Scope → List Splice) : List Splice :=
  match term.role with
  | .hop _ target | .related target _ => ofTarget target
  | .documentId | .indexed _ | .text _ | .similar => []

mutual

/-- The splices in a value that stands for a target in the scope. -/
def targetSplices : Value → Scope → List Splice
  | .query tree, scope => if tree.isRecord then [] else [⟨scope, tree⟩]
  | .map entries, scope => if isIdMapping entries then [] else entrySplices scope entries
  | _, _ => []

/-- The splices in the conditions of a mapping. -/
def entrySplices (scope : Scope) : List (String × Value) → List Splice
  | [] => []
  | (key, value) :: rest =>
    (if key = scopeKey ∨ key = comparatorKey then []
      else
        match Connective.ofKey? key with
        | some _ => groupSplices scope value
        | none =>
          match registry.find? scope key with
          | some term => termSplices term (targetSplices value)
          | none => []) ++
      entrySplices scope rest

/-- The splices in a list of conditions, given as a value. -/
def groupSplices (scope : Scope) : Value → List Splice
  | .list items => listSplices scope items
  | _ => []

/-- The splices in a list of conditions. -/
def listSplices (scope : Scope) : List Value → List Splice
  | [] => []
  | .map entries :: rest => entrySplices scope entries ++ listSplices scope rest
  | _ :: rest => listSplices scope rest

end

/-- The splices in the value of a term that is looked up in the scope. -/
def lookupSplices (scope : Scope) (name : String) (value : Value) : List Splice :=
  match registry.find? scope name with
  | some term => termSplices term (registry.targetSplices value)
  | none => []

/-- The splices in the condition of a key. -/
def conditionSplices (scope : Scope) (key : String) (value : Value) : List Splice :=
  match Connective.ofKey? key with
  | some _ => registry.groupSplices scope value
  | none => registry.lookupSplices scope key value

/-- The splices in a branch, in the scope that it declares. -/
def branchSplices : Value → List Splice
  | .map entries =>
    match Scope.ofValue ((given? entries scopeKey).getD .null) with
    | .ok scope => registry.entrySplices scope entries
    | .error _ => []
  | _ => []

/-- The splices in criteria that are read in the scope that they declare or that is expected. -/
def criteriaSplices (expected : Option String) : Value → List Splice
  | .map entries =>
    let declared := ((given? entries scopeKey).or (expected.map .string)).getD .null
    match Scope.ofValue declared, Entries.get? entries Connective.any.key with
    | .ok scope, _ => registry.entrySplices scope entries
    | .error _, some (.list branches) => branches.flatMap registry.branchSplices
    | _, _ => []
  | _ => []

/-- The splices in the value of a term, with the scope given as a value. -/
def valueSplices (scope : Value) (name : String) (value : Value) : List Splice :=
  match Scope.ofValue scope with
  | .ok scope => registry.lookupSplices scope name value
  | .error _ => []

end Splices

variable {registry : Registry}

theorem termSplices_leaf {term : Term} {ofTarget : Scope → List Splice} {field : String × Bool}
    (h : term.role.field? = some field) : termSplices term ofTarget = [] := by
  unfold termSplices
  cases hrole : term.role <;> simp_all [Role.field?]

theorem lookupSplices_of_mem {scope : Scope} {term : Term} {value : Value}
    (hterm : term ∈ registry.table scope) :
    registry.lookupSplices scope term.name value =
      termSplices term (registry.targetSplices value) := by
  rw [lookupSplices, find?_eq_some_iff.2 ⟨hterm, rfl⟩]

theorem lookupSplices_hop {scope : Scope} {hop : Hop} {value : Value}
    (hmem : hop ∈ registry.hopsFrom scope) :
    registry.lookupSplices scope hop.name value = registry.targetSplices value hop.target := by
  rw [Hop.name, lookupSplices_of_mem (mem_hopsFrom_iff.1 hmem), termSplices, hop.role]

theorem lookupSplices_related {scope target : Scope} {term : Term} {maxLevel : Nat} {value : Value}
    (hterm : term ∈ registry.table scope) (hrole : term.role = .related target maxLevel) :
    registry.lookupSplices scope term.name value = registry.targetSplices value target := by
  rw [lookupSplices_of_mem hterm, termSplices, hrole]

theorem conditionSplices_group {scope : Scope} {connective : Connective} {items : List Value} :
    registry.conditionSplices scope connective.key (.list items) =
      registry.listSplices scope items := by
  rw [conditionSplices, Connective.ofKey?_key, groupSplices]

theorem conditionSplices_term {scope : Scope} {key : String} {value : Value}
    (hkey : Connective.ofKey? key = none) :
    registry.conditionSplices scope key value = registry.lookupSplices scope key value := by
  rw [conditionSplices, hkey]

theorem entrySplices_option {scope : Scope} {key : String} {value : Value}
    {rest : List (String × Value)} (hoption : key = scopeKey ∨ key = comparatorKey) :
    registry.entrySplices scope ((key, value) :: rest) = registry.entrySplices scope rest := by
  rw [entrySplices, if_pos hoption, List.nil_append]

theorem entrySplices_condition {scope : Scope} {key : String} {value : Value}
    {rest : List (String × Value)} (hoption : ¬ (key = scopeKey ∨ key = comparatorKey)) :
    registry.entrySplices scope ((key, value) :: rest) =
      registry.conditionSplices scope key value ++ registry.entrySplices scope rest := by
  rw [entrySplices, if_neg hoption, conditionSplices]
  rfl

/-! ### Plain values have no splices -/

theorem termSplices_eq_nil {term : Term} {ofTarget : Scope → List Splice}
    (h : ∀ scope, ofTarget scope = []) : termSplices term ofTarget = [] := by
  unfold termSplices
  split <;> simp [h]

theorem lookupSplices_eq_nil {scope : Scope} {name : String} {value : Value}
    (h : ∀ target, registry.targetSplices value target = []) :
    registry.lookupSplices scope name value = [] := by
  unfold lookupSplices
  split
  · exact termSplices_eq_nil h
  · rfl

mutual

theorem targetSplices_of_isPlain : ∀ {value : Value}, value.isPlain = true → ∀ scope : Scope,
    registry.targetSplices value scope = []
  | .query tree, hplain, scope => by
    rw [Value.isPlain] at hplain
    rw [targetSplices, if_pos hplain]
  | .map entries, hplain, scope => by
    rw [Value.isPlain] at hplain
    rw [targetSplices, entrySplices_of_plain hplain, ite_self]
  | .null, _, _ | .bool _, _, _ | .int _, _, _ | .float _, _, _ | .string _, _, _
  | .list _, _, _ => by
    rw [targetSplices]
    all_goals simp

theorem entrySplices_of_plain {scope : Scope} : ∀ {entries : List (String × Value)},
    Value.havePlainValues entries = true → registry.entrySplices scope entries = []
  | [], _ => by rw [entrySplices]
  | (key, value) :: rest, hplain => by
    rw [Value.havePlainValues, Bool.and_eq_true] at hplain
    by_cases hoption : key = scopeKey ∨ key = comparatorKey
    · rw [entrySplices_option hoption, entrySplices_of_plain hplain.2]
    · rw [entrySplices_condition hoption, entrySplices_of_plain hplain.2, List.append_nil,
        conditionSplices]
      split
      · exact groupSplices_of_isPlain hplain.1
      · exact lookupSplices_eq_nil (targetSplices_of_isPlain hplain.1)

theorem groupSplices_of_isPlain {scope : Scope} : ∀ {value : Value}, value.isPlain = true →
    registry.groupSplices scope value = []
  | .list items, hplain => by
    rw [Value.isPlain] at hplain
    rw [groupSplices, listSplices_of_plain hplain]
  | .null, _ | .bool _, _ | .int _, _ | .float _, _ | .string _, _ | .map _, _ | .query _, _ => by
    rw [groupSplices]
    simp

theorem listSplices_of_plain {scope : Scope} : ∀ {items : List Value},
    Value.arePlain items = true → registry.listSplices scope items = []
  | [], _ => by rw [listSplices]
  | .map entries :: rest, hplain => by
    rw [Value.arePlain, Bool.and_eq_true, Value.isPlain] at hplain
    rw [listSplices, entrySplices_of_plain hplain.1, listSplices_of_plain hplain.2, List.nil_append]
  | .null :: rest, hplain | .bool _ :: rest, hplain | .int _ :: rest, hplain
  | .float _ :: rest, hplain | .string _ :: rest, hplain | .list _ :: rest, hplain
  | .query _ :: rest, hplain => by
    rw [Value.arePlain, Bool.and_eq_true] at hplain
    rw [listSplices, listSplices_of_plain hplain.2]
    simp

end

theorem branchSplices_of_isPlain {branch : Value} (hplain : branch.isPlain = true) :
    registry.branchSplices branch = [] := by
  cases branch with
  | map entries =>
    rw [Value.isPlain] at hplain
    rw [branchSplices]
    split
    · exact entrySplices_of_plain hplain
    · rfl
  | _ => rfl

theorem criteriaSplices_of_isPlain {expected : Option String} {value : Value}
    (hplain : value.isPlain = true) : registry.criteriaSplices expected value = [] := by
  cases value with
  | map entries =>
    rw [Value.isPlain] at hplain
    rw [criteriaSplices]
    split
    · exact entrySplices_of_plain hplain
    · next hbranches =>
      have hlist := Value.isPlain_of_get? hplain hbranches
      rw [Value.isPlain] at hlist
      exact List.flatMap_eq_nil_iff.2 fun branch hbranch =>
        branchSplices_of_isPlain (Value.isPlain_of_mem hlist hbranch)
    · rfl
  | _ => rfl

/-! ### Parts that stay in their scope -/

theorem checkIn_record {scope : String} {id : RecordId} : (Query.record id).checkIn scope = .ok () := by
  rw [Query.checkIn]

theorem checkIn_leaf {term : Term} {value : Value} {field : String} {fullText : Bool}
    {sign : Option Comparator} :
    (term.leaf value field fullText sign).checkIn term.scope.name = .ok () := by
  rw [Term.leaf, Query.checkIn_leaf_iff]
  simp

theorem checkIn_hop_iff {hop : Hop} {target : Query} :
    (hop.query target).checkIn hop.source.name = .ok () ↔
      target.checkIn hop.target.name = .ok () := by
  rw [Hop.query, Query.checkIn_hop_iff]
  simp

/-- A walk passes exactly if what it ends in does: each hop leads to the scope that the next one
leaves. -/
theorem Walk.checkIn_iff {source target : Scope} {chain : Chain} {terminal : Query}
    (h : registry.Walk source chain target) :
    (chain.query terminal).checkIn source.name = .ok () ↔
      terminal.checkIn target.name = .ok () := by
  induction h with
  | nil => rfl
  | @cons source target hop rest hmem hwalk ih =>
    obtain rfl := scope_of_mem_hopsFrom hmem
    exact checkIn_hop_iff.trans ih

theorem checkIn_group_iff {scope : Scope} {connective : Connective} {trees : List Query} :
    (Query.group connective trees (some scope.name)).checkIn scope.name = .ok () ↔
      ∀ tree ∈ trees, tree.checkIn scope.name = .ok () := by
  rw [Query.checkIn_group_iff]
  simp

/-- A related list passes exactly if its terminal does, as some chain ends in it and all that do are
walks to the target. -/
theorem checkIn_ofChains_iff {route : Route} {maxLevel : Nat} {terminal : Query}
    (hgroups : registry.chainGroups route maxLevel ≠ []) :
    (Query.ofChains route.origin (registry.chainGroups route maxLevel) terminal).checkIn
        route.origin.name = .ok () ↔
      terminal.checkIn route.target.name = .ok () := by
  have hwalk {chains : List Chain} {chain : Chain}
      (hchains : chains ∈ registry.chainGroups route maxLevel) (hchain : chain ∈ chains) :
      registry.Walk route.origin chain route.target :=
    (exists_mem_chainGroups_iff.1 ⟨chains, hchains, hchain⟩).2.walk
  rw [Query.ofChains, checkIn_group_iff, List.forall_mem_map]
  constructor
  · intro h
    obtain ⟨chains, hchains⟩ := List.exists_mem_of_ne_nil _ hgroups
    obtain ⟨chain, hchain⟩ := List.exists_mem_of_ne_nil _ (nonempty_of_mem_chainGroups hchains)
    have hgroup := h chains hchains
    rw [checkIn_group_iff, List.forall_mem_map] at hgroup
    exact (hwalk hchains hchain).checkIn_iff.1 (hgroup chain hchain)
  · intro hterminal chains hchains
    rw [checkIn_group_iff, List.forall_mem_map]
    intro chain hchain
    exact (hwalk hchains hchain).checkIn_iff.2 hterminal

theorem checkIn_conjunction_iff {scope : Scope} {trees : List Query} :
    (Compiler.conjunction scope trees).checkIn scope.name = .ok () ↔
      ∀ tree ∈ trees, tree.checkIn scope.name = .ok () := by
  unfold Compiler.conjunction
  split
  · rw [List.forall_mem_singleton]
  · exact checkIn_group_iff

/-! ### What is read is rooted in its scope -/

theorem ReadsCondition.scope_eq {scope : Scope} {comparator : Option Value} {key : String}
    {value : Value} {tree : Query} (h : registry.ReadsCondition scope comparator key value tree) :
    tree.scope = some scope.name := by
  cases h with
  | group => rfl
  | leaf term _ hterm =>
    obtain rfl := scope_of_mem_table hterm
    rfl
  | hop hop _ hmem =>
    obtain rfl := scope_of_mem_hopsFrom hmem
    rfl
  | related => rfl

theorem ReadsEntries.scope_eq {scope : Scope} {comparator : Option Value}
    {entries : List (String × Value)} {trees : List Query} :
    registry.ReadsEntries scope comparator entries trees →
      ∀ tree ∈ trees, tree.scope = some scope.name
  | .nil => by simp
  | .option _ hrest => hrest.scope_eq
  | .condition _ hcondition hrest => List.forall_mem_cons.2 ⟨hcondition.scope_eq, hrest.scope_eq⟩

theorem ReadsMapping.scope_eq {scope : Scope} {entries : Entries String Value} {tree : Query} :
    registry.ReadsMapping scope entries tree → tree.scope = some scope.name
  | .intro _ hentries => by
    unfold Compiler.conjunction
    split
    · exact hentries.scope_eq _ (List.mem_singleton_self _)
    · rfl

/-! ### What is read passes with its splices -/

-- The induction is on the derivation. Only the rule of given trees adds a splice; all others pass on
-- those of their parts.
mutual

theorem ReadsTarget.checkIn_iff {scope : Scope} {value : Value} {tree : Query} :
    registry.ReadsTarget scope value tree → (tree.checkIn scope.name = .ok () ↔
      ∀ splice ∈ registry.targetSplices value scope, splice.Passes)
  | .text id | .record id | .named id => by
    simp [checkIn_record, targetSplices, isIdMapping, Entries.keys, Query.isRecord]
  | .tree hrecord _ => by
    rw [targetSplices, if_neg (by simp [hrecord]), List.forall_mem_singleton, Splice.Passes]
  | .mapping hid _ hmapping => by
    rw [targetSplices, if_neg (by simp [hid])]
    exact hmapping.checkIn_iff

theorem ReadsMapping.checkIn_iff {scope : Scope} {entries : Entries String Value} {tree : Query} :
    registry.ReadsMapping scope entries tree → (tree.checkIn scope.name = .ok () ↔
      ∀ splice ∈ registry.entrySplices scope entries, splice.Passes)
  | .intro _ hentries => by
    rw [checkIn_conjunction_iff]
    exact hentries.checkIn_iff

theorem ReadsEntries.checkIn_iff {scope : Scope} {comparator : Option Value}
    {entries : List (String × Value)} {trees : List Query} :
    registry.ReadsEntries scope comparator entries trees →
      ((∀ tree ∈ trees, tree.checkIn scope.name = .ok ()) ↔
        ∀ splice ∈ registry.entrySplices scope entries, splice.Passes)
  | .nil => by simp [entrySplices]
  | .option hoption hrest => by
    rw [entrySplices_option hoption]
    exact hrest.checkIn_iff
  | .condition hoption hcondition hrest => by
    rw [entrySplices_condition hoption, List.forall_mem_cons, List.forall_mem_append]
    exact and_congr hcondition.checkIn_iff hrest.checkIn_iff

theorem ReadsCondition.checkIn_iff {scope : Scope} {comparator : Option Value} {key : String}
    {value : Value} {tree : Query} :
    registry.ReadsCondition scope comparator key value tree →
      (tree.checkIn scope.name = .ok () ↔
        ∀ splice ∈ registry.conditionSplices scope key value, splice.Passes)
  | .group connective _ hlist => by
    rw [conditionSplices_group, checkIn_group_iff]
    exact hlist.checkIn_iff
  | .leaf term hname hterm hfield _ _ _ => by
    obtain rfl := scope_of_mem_table hterm
    rw [conditionSplices_term hname, lookupSplices_of_mem hterm, termSplices_leaf hfield]
    simp [checkIn_leaf]
  | .hop hop hname hmem htarget => by
    rw [conditionSplices_term hname, lookupSplices_hop hmem, ← htarget.checkIn_iff]
    obtain rfl := scope_of_mem_hopsFrom hmem
    exact checkIn_hop_iff
  | .related term hname hterm hrole hgroups htarget => by
    rw [conditionSplices_term hname, lookupSplices_related hterm hrole, ← htarget.checkIn_iff]
    obtain rfl := scope_of_mem_table hterm
    exact checkIn_ofChains_iff hgroups

theorem ReadsList.checkIn_iff {scope : Scope} {items : List Value} {trees : List Query} :
    registry.ReadsList scope items trees →
      ((∀ tree ∈ trees, tree.checkIn scope.name = .ok ()) ↔
        ∀ splice ∈ registry.listSplices scope items, splice.Passes)
  | .nil => by simp [listSplices]
  | .cons _ hmapping hrest => by
    rw [listSplices, List.forall_mem_cons, List.forall_mem_append]
    exact and_congr hmapping.checkIn_iff hrest.checkIn_iff

end

/-- A tree rooted in a scope passes as a whole exactly if it does as a subtree of that scope. -/
theorem checkNesting_iff {scope : Scope} {tree : Query} (h : tree.scope = some scope.name) :
    tree.checkNesting = .ok () ↔ tree.checkIn scope.name = .ok () := by
  unfold Query.checkNesting
  simp [h, Scope.name_ne_multi]

/-- Each branch of a query over several scopes declares a scope of its own, so only its splices can
keep it from passing. -/
theorem ReadsBranches.checkNesting_iff {branches : List Value} {trees : List Query}
    (h : registry.ReadsBranches branches trees) :
    (Query.group .any trees (some Scope.multi)).checkNesting = .ok () ↔
      ∀ splice ∈ branches.flatMap registry.branchSplices, splice.Passes := by
  have hbranches : (Query.group .any trees (some Scope.multi)).checkNesting =
      Query.checkBranches trees := by
    simp [Query.checkNesting, Query.scope]
  rw [hbranches, Query.checkBranches_eq_ok_iff]
  clear hbranches
  induction h with
  | nil => simp
  | @cons scope entries rest tree trees hdeclared hmapping hrest ih =>
    have hsplices : registry.branchSplices (.map entries) = registry.entrySplices scope entries := by
      rw [branchSplices, hdeclared, Option.getD_some, Scope.ofValue_eq_ok_iff.2 rfl]
    rw [List.forall_mem_cons, List.flatMap_cons, List.forall_mem_append, hsplices,
      ← hmapping.checkIn_iff, hmapping.scope_eq]
    exact and_congr (by simp [Scope.name_ne_multi]) ih

theorem ReadsCriteria.checkNesting_iff {expected : Option String} {value : Value} {tree : Query}
    (h : registry.ReadsCriteria expected value tree) :
    tree.checkNesting = .ok () ↔
      ∀ splice ∈ registry.criteriaSplices expected value, splice.Passes := by
  cases h with
  | @mapping scope entries tree hscope hmapping =>
    rw [criteriaSplices, Compiler.given?_of_scopeOfCriteria hscope, Option.getD_some,
      Scope.ofValue_eq_ok_iff.2 rfl, Registry.checkNesting_iff hmapping.scope_eq]
    exact hmapping.checkIn_iff
  | multi hscope hkeys hget hne hbranches =>
    rw [criteriaSplices, Compiler.given?_of_scopeOfCriteria hscope, Option.getD_some, hget]
    exact hbranches.checkNesting_iff

end Registry

namespace Compiler

variable {compiler : Compiler}

/-- The tree of one term is rooted in its scope, and passes with the splices of the value. -/
theorem Yields.checkNesting_iff {scope : Scope} {value : Value} {levels : Levels}
    {comparator : Option Value} {name : String} {tree : Query}
    (h : compiler.Yields scope value levels comparator (compiler.target value) name tree) :
    tree.checkNesting = .ok () ↔
      ∀ splice ∈ compiler.registry.lookupSplices scope name value, splice.Passes := by
  cases h with
  | leaf term hterm hfield =>
    rw [Registry.lookupSplices_of_mem hterm, Registry.termSplices_leaf hfield]
    exact iff_of_true ((Registry.checkNesting_iff rfl).2 Registry.checkIn_leaf) (by simp)
  | hop hop hmem _ htarget =>
    rw [Registry.lookupSplices_hop hmem, ← (target_eq_ok_iff.1 htarget).checkIn_iff]
    exact (Registry.checkNesting_iff rfl).trans Registry.checkIn_hop_iff
  | related term hterm hrole _ _ hgroups htarget =>
    rw [Registry.lookupSplices_related hterm hrole, ← (target_eq_ok_iff.1 htarget).checkIn_iff]
    obtain rfl := Registry.scope_of_mem_table hterm
    exact (Registry.checkNesting_iff rfl).trans (Registry.checkIn_ofChains_iff hgroups)

/-- The nesting check accepts a compiled tree, of one term or of criteria, exactly if each tree that was
spliced in passes as a subtree of the target scope of the term it was given to. Where nothing was
spliced in, it accepts. -/
theorem compiled_accepted_iff (compiler : Compiler) :
    (∀ (scope : Value) (name : String) (value : Value) (levels : Levels) (comparator : Option Value)
      (tree : Query), (compiler.compile scope name value levels comparator).outcome = .ok tree →
        (tree.checkNesting = .ok () ↔
          ∀ splice ∈ compiler.registry.valueSplices scope name value, splice.Passes) ∧
        (value.isPlain = true → tree.checkNesting = .ok ())) ∧
    ∀ (criteria : Value) (expected : Option String) (tree : Query),
      (compiler.criteria criteria expected).outcome = .ok tree →
        (tree.checkNesting = .ok () ↔
          ∀ splice ∈ compiler.registry.criteriaSplices expected criteria, splice.Passes) ∧
        (criteria.isPlain = true → tree.checkNesting = .ok ()) := by
  constructor
  · intro scope name value levels comparator tree h
    simp only [compile, Traced.bind_outcome_eq_ok, Traced.lift_outcome] at h
    obtain ⟨scope, hscope, hquery⟩ := h
    have hiff := (yields_of_termQuery hquery).checkNesting_iff
    rw [Registry.valueSplices, hscope]
    refine ⟨hiff, fun hplain => hiff.2 ?_⟩
    rw [Registry.lookupSplices_eq_nil (Registry.targetSplices_of_isPlain hplain)]
    simp
  · intro criteria expected tree h
    have hiff := (criteria_eq_ok_iff.1 h).checkNesting_iff
    refine ⟨hiff, fun hplain => hiff.2 ?_⟩
    rw [Registry.criteriaSplices_of_isPlain hplain]
    simp

/-- Makers as a tree that declares no scope and of which one leaf declares the given one. -/
def makers (scope : String) : Query :=
  let born (scope : Option String) : Query := .leaf "startYear" (.int 1850) scope none false none
  .group .all [born none, born (some scope)] none

/-- Works by these makers. -/
def worksByMakers (scope : String) : Query :=
  .hop "createdBy" (makers scope) (some "work") (some "lux:workCreatedBy") (some "agent")

/-- The works are accepted if the leaf of their makers is of the scope of agents. -/
theorem worksByMakers_spliced :
    let compiler : Compiler := ⟨.artists, true⟩
    ((compiler.criteria (.map [(scopeKey, .string "work"),
        ("createdBy", .query (makers "agent"))])).outcome = .ok (worksByMakers "agent") ∧
      (worksByMakers "agent").checkNesting = .ok ()) ∧
    (compiler.compile (.string "work") "createdBy" (.query (makers "work"))).outcome =
        .ok (worksByMakers "work") ∧
      (worksByMakers "work").checkNesting ≠ .ok () := by
  intro compiler
  obtain ⟨hcompile, hcriteria⟩ := compiled_accepted_iff compiler
  have hagents : (compiler.criteria (.map [(scopeKey, .string "work"),
      ("createdBy", .query (makers "agent"))])).outcome = .ok (worksByMakers "agent") := by rfl
  have hworks : (compiler.compile (.string "work") "createdBy"
      (.query (makers "work"))).outcome = .ok (worksByMakers "work") := by rfl
  refine ⟨⟨hagents, (hcriteria _ none _ hagents).1.2 fun splice hsplice => ?_⟩, hworks,
    fun haccepted => ?_⟩
  · obtain rfl := List.mem_singleton.1 hsplice
    rfl
  · have hpasses := (hcompile _ _ _ {} none _ hworks).1.1 haccepted
    cases hpasses _ (List.mem_singleton.2 rfl)

end Compiler

end ScopedSearch
