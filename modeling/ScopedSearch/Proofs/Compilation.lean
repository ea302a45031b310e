import ScopedSearch.Proofs.Reading

/-!
# Compilation follows the rules of reading

A value compiles to a tree exactly if the rules read it as that tree, one equivalence for each part
of the compiler: `Compiler.target_eq_ok_iff`, `Compiler.mapping_eq_ok_iff` and, for whole criteria,
`Compiler.criteria_eq_ok_iff`.
-/

namespace ScopedSearch

theorem Value.isString_iff {value : Value} {text : String} :
    value.isString text = true ↔ value = .string text := by
  cases value <;> simp [isString]

theorem Scope.ofValue_eq_ok_iff {value : Value} {scope : Scope} :
    ofValue value = .ok scope ↔ value = .string scope.name := by
  constructor
  · intro h
    unfold ofValue at h
    split at h
    · split at h
      · next found =>
        cases h
        rw [name_of_ofName? found]
      · cases h
    · cases h
  · rintro rfl
    simp [ofValue, ofName?_name]

theorem Term.treeTarget_eq_ok_iff {term : Term} {scope : Scope} {tree target : Query} :
    term.treeTarget scope tree = .ok target ↔
      (∀ name ∈ tree.scope, name = scope.name) ∧ tree = target := by
  unfold treeTarget
  cases tree.scope with
  | none => simp
  | some declared =>
    simp only [Option.mem_some_iff, forall_eq']
    split <;> simp [*]

namespace Compiler

variable {compiler : Compiler}

@[simp] theorem orRefuse_outcome_eq_ok {α : Type} {checked : Except Invalid α} {value : α} :
    (orRefuse checked).outcome = .ok value ↔ checked = .ok value := by
  cases checked <;> simp [orRefuse]

/-! ### One term -/

theorem termQuery_eq_ok_iff {scope : Scope} {name : String} {value : Value} {levels : Levels}
    {comparator : Option Value} {resolve : Term → Scope → Traced Query} {tree : Query} :
    (compiler.termQuery scope name value levels comparator resolve).outcome = .ok tree ↔
      ∃ term ∈ compiler.registry.table scope, term.name = name ∧
        (comparator.isSome → term.pattern.isIndexed) ∧
        (levels.maxLevel.isSome ∨ levels.clamp.isSome → term.pattern = .relatedList) ∧
        (compiler.roleQuery term value levels comparator resolve).outcome = .ok tree := by
  rw [termQuery, Traced.bind_outcome_eq_ok]
  refine exists_congr fun term => ?_
  rw [Traced.lift_outcome, Registry.lookup_eq_ok_iff, Registry.find?_eq_some_iff, and_assoc]
  refine and_congr_right fun _ => and_congr_right fun _ => ?_
  split
  · next h =>
    simp only [Bool.and_eq_true, Bool.not_eq_true'] at h
    simp [h.1, h.2]
  · next hcomparator =>
    split
    · next h =>
      simp only [Bool.and_eq_true, Bool.or_eq_true, decide_eq_true_eq] at h
      simp [h.1, h.2]
    · next hlevels =>
      simp only [Bool.and_eq_true, Bool.or_eq_true, Bool.not_eq_true', decide_eq_true_eq,
        not_and, Bool.not_eq_false, not_not] at hcomparator hlevels
      simp only [Traced.bind_outcome_eq_ok, Traced.tell_outcome, Traced.pure_outcome,
        Except.ok.injEq, true_and, exists_const, exists_eq_right]
      exact ⟨fun h => ⟨hcomparator, hlevels, h⟩, fun h => h.2.2⟩

theorem roleQuery_leaf_iff {term : Term} {value : Value} {levels : Levels}
    {comparator : Option Value} {resolve : Term → Scope → Traced Query} {tree : Query}
    {field : String} {fullText : Bool} (hfield : term.role.field? = some (field, fullText))
    (hcomparator : comparator.isSome → term.pattern.isIndexed) :
    (compiler.roleQuery term value levels comparator resolve).outcome = .ok tree ↔
      ∃ coerced sign, term.coerce? value = some coerced ∧
        term.comparatorOf comparator = .ok sign ∧ term.leaf coerced field fullText sign = tree := by
  unfold roleQuery Term.coerce?
  cases hrole : term.role with
  | documentId | similar =>
    obtain rfl := Term.comparator_eq_none (by simp [hrole]) hcomparator
    simp only [hrole, Role.field?, Option.some.injEq, Prod.mk.injEq] at hfield
    obtain ⟨rfl, rfl⟩ := hfield
    simp only [Traced.bind_outcome_eq_ok, orRefuse_outcome_eq_ok, Traced.pure_outcome]
    cases term.recordOf value <;> simp [Except.toOption, Term.comparatorOf]
  | text =>
    obtain rfl := Term.comparator_eq_none (by simp [hrole]) hcomparator
    simp only [hrole, Role.field?, Option.some.injEq, Prod.mk.injEq] at hfield
    obtain ⟨rfl, rfl⟩ := hfield
    simp only [Traced.bind_outcome_eq_ok, orRefuse_outcome_eq_ok, Traced.pure_outcome]
    cases term.textOf value <;> simp [Except.toOption, Term.comparatorOf]
  | indexed =>
    simp only [hrole, Role.field?, Option.some.injEq, Prod.mk.injEq] at hfield
    obtain ⟨rfl, rfl⟩ := hfield
    rw [orRefuse_outcome_eq_ok, Term.indexedLeaf]
    cases term.comparatorOf comparator with
    | error cause => simp [bind, Except.bind]
    | ok sign =>
      cases term.isNumeric
      · cases term.textOf value <;> simp [bind, Except.bind, pure, Except.pure, Except.toOption]
      · cases term.numberOf value <;> simp [bind, Except.bind, pure, Except.pure, Except.toOption]
  | hop | related => simp [hrole, Role.field?] at hfield

theorem roleQuery_hop_iff {hop : Hop} {value : Value} {levels : Levels}
    {comparator : Option Value} {resolve : Term → Scope → Traced Query} {tree : Query} :
    (compiler.roleQuery hop.term value levels comparator resolve).outcome = .ok tree ↔
      ∃ target, (resolve hop.term hop.target).outcome = .ok target ∧ hop.query target = tree := by
  unfold roleQuery
  simp only [hop.role, Traced.bind_outcome_eq_ok, Traced.pure_outcome, Except.ok.injEq]
  rfl

theorem relatedQuery_eq_ok_iff {term : Term} {target : Scope} {level : Nat}
    {terminal tree : Query} :
    (compiler.relatedQuery term target level terminal).outcome = .ok tree ↔
      compiler.registry.chainGroups (Registry.routeOf term target) level ≠ [] ∧
        .ofChains term.scope
          (compiler.registry.chainGroups (Registry.routeOf term target) level) terminal = tree := by
  have hgroups : (compiler.branches term target level terminal).filter (!·.isEmpty) =
      (compiler.registry.chainGroups (Registry.routeOf term target) level).map fun chains =>
        chains.map fun chain => ⟨chain, chain.query terminal⟩ := by
    simp [branches, Registry.chainGroups, List.filter_map, Function.comp_def]
  simp only [relatedQuery, hgroups, List.isEmpty_map, List.isEmpty_iff]
  split
  · next h => simp [h, Traced.bind_outcome_eq_ok, -Traced.bind_outcome]
  · next h => simp [h, Query.ofChains, Function.comp_def]

theorem roleQuery_related_iff {term : Term} {target : Scope} {declared : Nat} {value : Value}
    {levels : Levels} {comparator : Option Value} {resolve : Term → Scope → Traced Query}
    {tree : Query} (hrole : term.role = .related target declared) :
    (compiler.roleQuery term value levels comparator resolve).outcome = .ok tree ↔
      ∃ level terminal, (compiler.levelsOf term declared levels).outcome = .ok level ∧
        (resolve term target).outcome = .ok terminal ∧
        compiler.registry.chainGroups (Registry.routeOf term target) level ≠ [] ∧
        .ofChains term.scope
          (compiler.registry.chainGroups (Registry.routeOf term target) level) terminal = tree := by
  unfold roleQuery
  simp only [hrole, Traced.bind_outcome_eq_ok, relatedQuery_eq_ok_iff, exists_and_left]

/-! ### Compilation follows the rules -/

/-- The query of one condition. -/
def condition (compiler : Compiler) (scope : Scope) (comparator : Option Value) (key : String)
    (value : Value) : Traced Query :=
  match Connective.ofKey? key with
  | some connective => compiler.group scope connective value
  | none => compiler.termQuery scope key value {} comparator (compiler.target value)

/-- Options make no condition. -/
theorem conditions_option {comparator : Option Value} {key : String} {value : Value}
    {rest : List (String × Value)} (hoption : key = scopeKey ∨ key = comparatorKey) :
    compiler.conditions scope comparator ((key, value) :: rest) =
      compiler.conditions scope comparator rest := by
  rw [conditions, if_pos (by simpa using hoption)]

/-- The conditions of a mapping are compiled one after the other. -/
theorem conditions_cons {scope : Scope} {comparator : Option Value} {key : String}
    {value : Value} {rest : List (String × Value)}
    (hoption : ¬ (key = scopeKey ∨ key = comparatorKey)) :
    compiler.conditions scope comparator ((key, value) :: rest) = do
      let first ← compiler.condition scope comparator key value
      let others ← compiler.conditions scope comparator rest
      return first :: others := by
  rw [conditions, if_neg (by simpa using hoption), condition]
  cases Connective.ofKey? key <;> rfl

theorem conditions_cons_eq_ok_iff {scope : Scope} {comparator : Option Value} {key : String}
    {value : Value} {rest : List (String × Value)} {trees : List Query}
    (hoption : ¬ (key = scopeKey ∨ key = comparatorKey)) :
    (compiler.conditions scope comparator ((key, value) :: rest)).outcome = .ok trees ↔
      ∃ tree others, (compiler.condition scope comparator key value).outcome = .ok tree ∧
        (compiler.conditions scope comparator rest).outcome = .ok others ∧
        tree :: others = trees := by
  simp only [conditions_cons hoption, Traced.bind_outcome_eq_ok, Traced.pure_outcome,
    Except.ok.injEq, exists_and_left]

theorem combine_eq_ok_iff {scope : Scope} {entries : Entries String Value}
    {parts : Option Value → Traced (List Query)} {tree : Query} :
    (combine scope entries parts).outcome = .ok tree ↔
      ∃ comparator trees, comparisonOf scope entries = .ok comparator ∧
        (parts comparator).outcome = .ok trees ∧ conjunction scope trees = tree := by
  simp only [combine, Traced.bind_outcome_eq_ok, orRefuse_outcome_eq_ok, Traced.pure_outcome,
    Except.ok.injEq, exists_and_left]

/-- The ways in which a term of the scope compiles: to a leaf, to a hop to what its value resolves to,
or to the groups of a related list. -/
inductive Yields (compiler : Compiler) (scope : Scope) (value : Value) (levels : Levels)
    (comparator : Option Value) (resolve : Term → Scope → Traced Query) : String → Query → Prop
  | leaf {coerced : Value} {field : String} {fullText : Bool} {sign : Option Comparator}
    (term : Term) : term ∈ compiler.registry.table scope →
      term.role.field? = some (field, fullText) → term.coerce? value = some coerced →
        (comparator.isSome → term.pattern.isIndexed) → term.comparatorOf comparator = .ok sign →
          Yields compiler scope value levels comparator resolve term.name
            (term.leaf coerced field fullText sign)
  | hop {target : Query} (hop : Hop) : hop ∈ compiler.registry.hopsFrom scope →
    comparator = none → (resolve hop.term hop.target).outcome = .ok target →
      Yields compiler scope value levels comparator resolve hop.name (hop.query target)
  | related {target : Scope} {declared level : Nat} {terminal : Query} (term : Term) :
    term ∈ compiler.registry.table scope → term.role = .related target declared →
      comparator = none → (compiler.levelsOf term declared levels).outcome = .ok level →
        compiler.registry.chainGroups (Registry.routeOf term target) level ≠ [] →
          (resolve term target).outcome = .ok terminal →
            Yields compiler scope value levels comparator resolve term.name
              (.ofChains scope
                (compiler.registry.chainGroups (Registry.routeOf term target) level) terminal)

theorem yields_of_termQuery {scope : Scope} {name : String} {value : Value} {levels : Levels}
    {comparator : Option Value} {resolve : Term → Scope → Traced Query} {tree : Query}
    (h : (compiler.termQuery scope name value levels comparator resolve).outcome = .ok tree) :
    compiler.Yields scope value levels comparator resolve name tree := by
  obtain ⟨term, hterm, rfl, hcomparator, -, hquery⟩ := termQuery_eq_ok_iff.1 h
  obtain rfl := Registry.scope_of_mem_table hterm
  cases hrole : term.role with
  | documentId | similar | indexed | text =>
    obtain ⟨coerced, sign, hcoerced, hsign, rfl⟩ :=
      (roleQuery_leaf_iff (by rw [hrole]; rfl) hcomparator).1 hquery
    exact .leaf term hterm (by rw [hrole]; rfl) hcoerced hcomparator hsign
  | hop predicate target =>
    have hnone := Term.comparator_eq_none (by simp [hrole]) hcomparator
    obtain ⟨hop, rfl⟩ : ∃ hop : Hop, hop.term = term := ⟨⟨term, predicate, target, hrole⟩, rfl⟩
    obtain ⟨terminal, hterminal, rfl⟩ := roleQuery_hop_iff.1 hquery
    exact .hop hop (Registry.mem_hopsFrom_iff.2 hterm) hnone hterminal
  | related target declared =>
    have hnone := Term.comparator_eq_none (by simp [hrole]) hcomparator
    obtain ⟨level, terminal, hlevel, hterminal, hgroups, rfl⟩ :=
      (roleQuery_related_iff hrole).1 hquery
    exact .related term hterm hrole hnone hlevel hgroups hterminal

/-- A condition on a term is read by a rule once targets are. -/
theorem readsCondition_of_ok {scope : Scope} {name : String} {value : Value}
    {comparator : Option Value} {resolve : Term → Scope → Traced Query} {tree : Query}
    (hresolve : ∀ {term : Term} {target : Scope} {terminal : Query},
      (resolve term target).outcome = .ok terminal →
        compiler.registry.ReadsTarget target value terminal)
    (hname : Connective.ofKey? name = none)
    (h : (compiler.termQuery scope name value {} comparator resolve).outcome = .ok tree) :
    compiler.registry.ReadsCondition scope comparator name value tree := by
  cases yields_of_termQuery h with
  | leaf term hterm hfield hcoerced hcomparator hsign =>
    exact .leaf term hname hterm hfield hcoerced hcomparator hsign
  | hop hop hmem hnone hterminal =>
    subst hnone
    exact .hop hop hname hmem (hresolve hterminal)
  | @related target declared level terminal term hterm hrole hnone hlevel hgroups hterminal =>
    subst hnone
    obtain rfl : declared = level := by simpa [levelsOf] using hlevel
    exact .related term hname hterm hrole hgroups (hresolve hterminal)

mutual

theorem readsTarget_of_ok : ∀ (value : Value) {term : Term} {scope : Scope} {tree : Query},
    (compiler.target value term scope).outcome = .ok tree →
      compiler.registry.ReadsTarget scope value tree
  | .string text, term, scope, tree, h => by
    simp only [target, Traced.bind_outcome_eq_ok, orRefuse_outcome_eq_ok, Traced.pure_outcome,
      Except.ok.injEq] at h
    obtain ⟨id, hid, rfl⟩ := h
    obtain rfl := Term.recordNamed_eq_ok_iff.1 hid
    exact .text id
  | .query (.record id), term, scope, tree, h => by
    simp only [target, Traced.pure_outcome, Except.ok.injEq] at h
    exact h ▸ .record id
  | .map entries, term, scope, tree, h => by
    rw [target] at h
    split at h
    · simp only [Traced.bind_outcome_eq_ok, orRefuse_outcome_eq_ok, Traced.pure_outcome,
        Except.ok.injEq] at h
      obtain ⟨id, hid, rfl⟩ := h
      obtain h | h | h := Term.recordOf_eq_ok_iff.1 hid <;> cases h
      exact .named id
    · next hid =>
      simp only [Traced.bind_outcome_eq_ok, orRefuse_outcome_eq_ok, combine_eq_ok_iff] at h
      obtain ⟨_, hscope, comparator, trees, hcomparison, htrees, rfl⟩ := h
      exact .mapping (by simpa using hid) hscope
        (.intro hcomparison (readsEntries_of_ok entries htrees))
  | .query (.leaf ..), term, scope, tree, h | .query (.hop ..), term, scope, tree, h
  | .query (.group ..), term, scope, tree, h => by
    simp only [target, orRefuse_outcome_eq_ok, Term.treeTarget_eq_ok_iff] at h
    obtain ⟨hscope, rfl⟩ := h
    exact .tree rfl hscope
  | .null, _, _, _, h | .bool _, _, _, _, h | .int _, _, _, _, h | .float _, _, _, _, h
  | .list _, _, _, _, h => by simp [target] at h

theorem readsEntries_of_ok : ∀ (entries : List (String × Value)) {scope : Scope}
    {comparator : Option Value} {trees : List Query},
    (compiler.conditions scope comparator entries).outcome = .ok trees →
      compiler.registry.ReadsEntries scope comparator entries trees
  | [], scope, comparator, trees, h => by
    simp only [conditions, Traced.pure_outcome, Except.ok.injEq] at h
    exact h ▸ .nil
  | (key, value) :: rest, scope, comparator, trees, h => by
    by_cases hoption : key = scopeKey ∨ key = comparatorKey
    · rw [conditions_option hoption] at h
      exact .option hoption (readsEntries_of_ok rest h)
    · obtain ⟨tree, others, htree, hothers, rfl⟩ := (conditions_cons_eq_ok_iff hoption).1 h
      refine .condition hoption ?_ (readsEntries_of_ok rest hothers)
      unfold condition at htree
      split at htree
      · next connective hkey =>
        obtain rfl := Connective.key_of_ofKey? hkey
        exact readsGroup_of_ok value htree
      · next hkey => exact readsCondition_of_ok (readsTarget_of_ok value) hkey htree

theorem readsGroup_of_ok : ∀ (value : Value) {scope : Scope} {connective : Connective}
    {comparator : Option Value} {tree : Query},
    (compiler.group scope connective value).outcome = .ok tree →
      compiler.registry.ReadsCondition scope comparator connective.key value tree
  | .list (first :: rest), scope, connective, comparator, tree, h => by
    simp only [group, Traced.bind_outcome_eq_ok, Traced.pure_outcome, Except.ok.injEq] at h
    obtain ⟨trees, htrees, rfl⟩ := h
    exact .group connective (by simp) (readsList_of_ok _ htrees)
  | .list [], _, _, _, _, h | .null, _, _, _, _, h | .bool _, _, _, _, _, h
  | .int _, _, _, _, _, h | .float _, _, _, _, _, h | .string _, _, _, _, _, h
  | .map _, _, _, _, _, h | .query _, _, _, _, _, h => by simp [group] at h

theorem readsList_of_ok : ∀ (items : List Value) {scope : Scope} {trees : List Query},
    (compiler.children scope items).outcome = .ok trees →
      compiler.registry.ReadsList scope items trees
  | [], scope, trees, h => by
    simp only [children, Traced.pure_outcome, Except.ok.injEq] at h
    exact h ▸ .nil
  | .map entries :: rest, scope, trees, h => by
    simp only [children, Traced.bind_outcome_eq_ok, orRefuse_outcome_eq_ok, combine_eq_ok_iff,
      Traced.pure_outcome, Except.ok.injEq] at h
    obtain ⟨_, hscope, tree, ⟨comparator, parts, hcomparison, hparts, rfl⟩, others, hothers, rfl⟩ := h
    exact .cons hscope (.intro hcomparison (readsEntries_of_ok entries hparts))
      (readsList_of_ok rest hothers)
  | .null :: _, _, _, h | .bool _ :: _, _, _, h | .int _ :: _, _, _, h | .float _ :: _, _, _, h
  | .string _ :: _, _, _, h | .list _ :: _, _, _, h | .query _ :: _, _, _, h => by
    simp [children] at h

end

theorem termQuery_of_leaf {scope : Scope} {value coerced : Value} {comparator : Option Value}
    {field : String} {fullText : Bool} {sign : Option Comparator} {term : Term}
    {resolve : Term → Scope → Traced Query} (hterm : term ∈ compiler.registry.table scope)
    (hfield : term.role.field? = some (field, fullText)) (hcoerced : term.coerce? value = some coerced)
    (hcomparator : comparator.isSome → term.pattern.isIndexed)
    (hsign : term.comparatorOf comparator = .ok sign) :
    (compiler.termQuery scope term.name value {} comparator resolve).outcome =
      .ok (term.leaf coerced field fullText sign) :=
  termQuery_eq_ok_iff.2 ⟨term, hterm, rfl, hcomparator, by simp,
    (roleQuery_leaf_iff hfield hcomparator).2 ⟨coerced, sign, hcoerced, hsign, rfl⟩⟩

theorem termQuery_of_hop {scope : Scope} {value : Value} {hop : Hop} {target : Query}
    {resolve : Term → Scope → Traced Query} (hmem : hop ∈ compiler.registry.hopsFrom scope)
    (htarget : (resolve hop.term hop.target).outcome = .ok target) :
    (compiler.termQuery scope hop.name value {} none resolve).outcome = .ok (hop.query target) :=
  termQuery_eq_ok_iff.2 ⟨hop.term, Registry.mem_hopsFrom_iff.1 hmem, rfl, by simp, by simp,
    roleQuery_hop_iff.2 ⟨target, htarget, rfl⟩⟩

theorem termQuery_of_related {scope target : Scope} {value : Value} {term : Term}
    {maxLevel : Nat} {terminal : Query} {resolve : Term → Scope → Traced Query}
    (hterm : term ∈ compiler.registry.table scope) (hrole : term.role = .related target maxLevel)
    (hgroups : compiler.registry.chainGroups (Registry.routeOf term target) maxLevel ≠ [])
    (hterminal : (resolve term target).outcome = .ok terminal) :
    (compiler.termQuery scope term.name value {} none resolve).outcome =
      .ok (.ofChains scope
        (compiler.registry.chainGroups (Registry.routeOf term target) maxLevel) terminal) := by
  obtain rfl := Registry.scope_of_mem_table hterm
  exact termQuery_eq_ok_iff.2 ⟨term, hterm, rfl, by simp, by simp, (roleQuery_related_iff hrole).2
    ⟨maxLevel, terminal, rfl, hterminal, hgroups, rfl⟩⟩

mutual

theorem target_of_reads {scope : Scope} {value : Value} {tree : Query} (term : Term) :
    compiler.registry.ReadsTarget scope value tree →
      (compiler.target value term scope).outcome = .ok tree
  | .text id => by
    simp [target, Traced.bind_outcome_eq_ok, Term.recordNamed_eq_ok_iff, -Traced.bind_outcome]
  | .record id => by simp [target]
  | @Registry.ReadsTarget.tree _ _ tree hrecord hscope => by
    cases tree with
    | record => cases hrecord
    | leaf | hop | group => simpa [target, Term.treeTarget_eq_ok_iff] using hscope
  | .named id => by
    simp [target, isIdMapping, Entries.keys, Traced.bind_outcome_eq_ok, Term.recordOf_eq_ok_iff,
      -Traced.bind_outcome]
  | .mapping hid hscope hmapping => by
    have hmapping := mapping_of_reads hmapping
    rw [target, if_neg (by simp [hid])]
    simp only [Traced.bind_outcome_eq_ok, orRefuse_outcome_eq_ok]
    exact ⟨_, hscope, hmapping⟩

theorem mapping_of_reads {scope : Scope} {entries : Entries String Value} {tree : Query} :
    compiler.registry.ReadsMapping scope entries tree →
      (compiler.mapping scope entries).outcome = .ok tree
  | .intro hcomparison hentries =>
    combine_eq_ok_iff.2 ⟨_, _, hcomparison, conditions_of_reads hentries, rfl⟩

theorem conditions_of_reads {scope : Scope} {comparator : Option Value}
    {entries : List (String × Value)} {trees : List Query} :
    compiler.registry.ReadsEntries scope comparator entries trees →
      (compiler.conditions scope comparator entries).outcome = .ok trees
  | .nil => by simp [conditions]
  | .option hoption hrest => by
    rw [conditions_option hoption]
    exact conditions_of_reads hrest
  | .condition hoption hcondition hrest =>
    (conditions_cons_eq_ok_iff hoption).2
      ⟨_, _, condition_of_reads hcondition, conditions_of_reads hrest, rfl⟩

theorem condition_of_reads {scope : Scope} {comparator : Option Value} {key : String}
    {value : Value} {tree : Query} :
    compiler.registry.ReadsCondition scope comparator key value tree →
      (compiler.condition scope comparator key value).outcome = .ok tree
  | @Registry.ReadsCondition.group _ _ _ items _ connective hitems hlist => by
    have hchildren := children_of_reads hlist
    rw [condition, Connective.ofKey?_key]
    cases items with
    | nil => exact absurd rfl hitems
    | cons first rest =>
      simp only [group, Traced.bind_outcome_eq_ok, Traced.pure_outcome]
      exact ⟨_, hchildren, rfl⟩
  | .leaf term hname hterm hfield hcoerced hcomparator hsign => by
    rw [condition, hname]
    exact termQuery_of_leaf hterm hfield hcoerced hcomparator hsign
  | .hop hop hname hmem htarget => by
    have htarget := target_of_reads hop.term htarget
    rw [condition, hname]
    exact termQuery_of_hop hmem htarget
  | .related term hname hterm hrole hgroups htarget => by
    have htarget := target_of_reads term htarget
    rw [condition, hname]
    exact termQuery_of_related hterm hrole hgroups htarget

theorem children_of_reads {scope : Scope} {items : List Value} {trees : List Query} :
    compiler.registry.ReadsList scope items trees →
      (compiler.children scope items).outcome = .ok trees
  | .nil => by simp [children]
  | .cons hscope hmapping hrest => by
    have hmapping := mapping_of_reads hmapping
    have hothers := children_of_reads hrest
    simp only [children, Traced.bind_outcome_eq_ok, orRefuse_outcome_eq_ok, Traced.pure_outcome]
    exact ⟨_, hscope, _, hmapping, _, hothers, rfl⟩

end

/-- Compiling the value of a hop succeeds exactly along the rules. -/
theorem target_eq_ok_iff {value : Value} {term : Term} {scope : Scope} {tree : Query} :
    (compiler.target value term scope).outcome = .ok tree ↔
      compiler.registry.ReadsTarget scope value tree :=
  ⟨readsTarget_of_ok value, target_of_reads term⟩

/-- Compiling a mapping succeeds exactly along the rules. -/
theorem mapping_eq_ok_iff {scope : Scope} {entries : Entries String Value} {tree : Query} :
    (compiler.mapping scope entries).outcome = .ok tree ↔
      compiler.registry.ReadsMapping scope entries tree := by
  refine ⟨fun h => ?_, mapping_of_reads⟩
  obtain ⟨comparator, trees, hcomparison, htrees, rfl⟩ := combine_eq_ok_iff.1 h
  exact .intro hcomparison (readsEntries_of_ok entries htrees)

theorem multiBranches_eq_ok_iff {branches : List Value} {trees : List Query} :
    (compiler.multiBranches branches).outcome = .ok trees ↔
      compiler.registry.ReadsBranches branches trees := by
  constructor
  · intro h
    induction branches generalizing trees with
    | nil =>
      simp only [multiBranches, Traced.pure_outcome, Except.ok.injEq] at h
      exact h ▸ .nil
    | cons branch rest ih =>
      cases branch with
      | map entries =>
        rw [multiBranches] at h
        split at h
        · simp at h
        · next declared hdeclared =>
          split at h
          · simp [Traced.bind_outcome_eq_ok, -Traced.bind_outcome] at h
          · simp only [Traced.bind_outcome_eq_ok, Traced.lift_outcome, Scope.ofValue_eq_ok_iff,
              Traced.pure_outcome, Except.ok.injEq, mapping_eq_ok_iff] at h
            obtain ⟨scope, rfl, tree, htree, others, hothers, rfl⟩ := h
            exact .cons hdeclared htree (ih hothers)
      | _ => simp [multiBranches] at h
  · intro h
    induction h with
    | nil => simp [multiBranches]
    | @cons scope entries rest tree trees hdeclared hmapping _ ih =>
      rw [multiBranches, hdeclared]
      simp only [Value.isString, Scope.name_ne_multi, decide_false, Bool.false_eq_true, if_false,
        Traced.bind_outcome_eq_ok, Traced.lift_outcome, Scope.ofValue_eq_ok_iff,
        Traced.pure_outcome]
      exact ⟨scope, rfl, tree, mapping_eq_ok_iff.2 hmapping, trees, ih, rfl⟩

theorem multiQuery_eq_ok_iff {entries : Entries String Value} {tree : Query} :
    (compiler.multiQuery entries).outcome = .ok tree ↔
      ∃ branches trees, (entries.keys.filter fun key => key ≠ scopeKey) = [Connective.any.key] ∧
        entries.get? Connective.any.key = some (.list branches) ∧ branches ≠ [] ∧
          compiler.registry.ReadsBranches branches trees ∧
            .group .any trees (some Scope.multi) = tree := by
  unfold multiQuery
  split
  · next first rest hbranches =>
    dsimp only
    split
    · next hkeys =>
      simp only [Traced.bind_outcome_eq_ok, Traced.refuse_outcome, reduceCtorEq, false_and,
        exists_false, false_iff]
      rintro ⟨_, _, h, -⟩
      exact hkeys h
    · next hkeys =>
      simp only [Traced.bind_outcome_eq_ok, multiBranches_eq_ok_iff, Traced.pure_outcome,
        Except.ok.injEq]
      constructor
      · rintro ⟨trees, htrees, htree⟩
        exact ⟨_, trees, not_not.1 hkeys, hbranches, by simp, htrees, htree⟩
      · rintro ⟨branches, trees, -, hget, -, htrees, htree⟩
        cases hbranches.symm.trans hget
        exact ⟨trees, htrees, htree⟩
  · next hbranches =>
    simp only [Traced.refuse_outcome, reduceCtorEq, false_iff]
    rintro ⟨branches, trees, -, hget, hne, -⟩
    obtain ⟨first, rest, rfl⟩ := List.exists_cons_of_ne_nil hne
    exact hbranches first rest hget

/-- Compiling criteria succeeds exactly along the rules. -/
theorem criteria_eq_ok_iff {value : Value} {expected : Option String} {tree : Query} :
    (compiler.criteria value expected).outcome = .ok tree ↔
      compiler.registry.ReadsCriteria expected value tree := by
  constructor
  · intro h
    cases value with
    | map entries =>
      simp only [criteria, Traced.bind_outcome_eq_ok, orRefuse_outcome_eq_ok] at h
      obtain ⟨scope, hscope, h⟩ := h
      split at h
      · next hmulti =>
        obtain ⟨branches, trees, hkeys, hget, hne, htrees, rfl⟩ := multiQuery_eq_ok_iff.1 h
        exact .multi (Value.isString_iff.1 hmulti ▸ hscope) hkeys hget hne htrees
      · simp only [Traced.bind_outcome_eq_ok, Traced.lift_outcome, Scope.ofValue_eq_ok_iff,
          mapping_eq_ok_iff] at h
        obtain ⟨scope, rfl, h⟩ := h
        exact .mapping hscope h
    | _ => simp [criteria] at h
  · intro h
    cases h with
    | mapping hscope hmapping =>
      simp only [criteria, Traced.bind_outcome_eq_ok, orRefuse_outcome_eq_ok]
      refine ⟨_, hscope, ?_⟩
      simp only [Value.isString, Scope.name_ne_multi, decide_false, Bool.false_eq_true, if_false,
        Traced.bind_outcome_eq_ok, Traced.lift_outcome, Scope.ofValue_eq_ok_iff]
      exact ⟨_, rfl, mapping_eq_ok_iff.2 hmapping⟩
    | multi hscope hkeys hget hne hbranches =>
      simp only [criteria, Traced.bind_outcome_eq_ok, orRefuse_outcome_eq_ok]
      refine ⟨_, hscope, ?_⟩
      simp only [Value.isString, decide_true, if_true]
      exact multiQuery_eq_ok_iff.2 ⟨_, _, hkeys, hget, hne, hbranches, rfl⟩

end Compiler

/-! ### A small registry -/

/-- A registry of works and the agents that made them. -/
def Registry.artists : Registry where
  terms :=
    [{ declaration := { scope := .agent, name := "id", pattern := .documentId }
       predicates := []
       role := .documentId
       checked := rfl },
     { declaration :=
         { scope := .agent, name := "startYear", pattern := .indexedValue,
           indexReferences := ["agentStartYear"], scalarType := some .number }
       predicates := []
       role := .indexed "agentStartYear"
       checked := rfl },
     { declaration :=
         { scope := .work, name := "createdBy", pattern := .hopWithField,
           predicates := ["lux(\"workCreatedBy\")"], targetScope := some .agent }
       predicates := [⟨.lux, "workCreatedBy"⟩]
       role := .hop ⟨.lux, "workCreatedBy"⟩ .agent
       checked := rfl },
     { declaration :=
         { scope := .work, name := "text", pattern := .text, indexReferences := ["workAnyText"] }
       predicates := []
       role := .text "workAnyText"
       checked := rfl }]
  arranged := by decide
  closed := by decide

/-- Works that mention the sea, made by someone who began in 1850 or later. -/
def seaCriteria : Value :=
  .map [(scopeKey, .string "work"), ("text", .string "sea"),
    ("createdBy", .map [("startYear", .string "1850"), (comparatorKey, .string ">=")])]

/-- The tree of these criteria. -/
def seaQuery : Query :=
  .group .all
    [.leaf "text" (.string "sea") (some "work") (some "workAnyText") true none,
     .hop "createdBy"
      (.leaf "startYear" (.int 1850) (some "agent") (some "agentStartYear") false (some .ge))
      (some "work") (some "lux:workCreatedBy") (some "agent")]
    (some "work")

theorem seaCriteria_compiled :
    ((Compiler.mk .artists true).criteria seaCriteria).outcome = .ok seaQuery := by rfl

end ScopedSearch
