import ScopedSearch.Proofs.ChainOrder
import ScopedSearch.Proofs.RelatedList
import ScopedSearch.Registry.Config
import Mathlib.Data.List.Flatten
import Mathlib.Data.List.Permutation

/-!
# Merging keeps what compiles

Merging puts new terms behind those that are there, so each table of the merged registry begins with
the table that was there (`Registry.Extends`). What is looked up is found again, a hop keeps its
position, and the chains of a route keep their order among the new ones. So criteria that compile do
so after a merge, to the same tree if they use no related list, and a related list keeps its branches
(`Compiler.merge_conservative`).
-/

namespace ScopedSearch

namespace Registry

variable {registry larger : Registry} {route : Route}

/-! ### Tables that begin alike -/

/-- Each table of the larger registry begins with the table of the other. -/
def Extends (larger registry : Registry) : Prop :=
  ∀ scope, registry.table scope <+: larger.table scope

/-- Terms put behind others do not change which of the others count. -/
theorem firstOfName_append (terms further : List Term) :
    firstOfName terms <+: firstOfName (terms ++ further) := by
  induction terms with
  | nil => exact List.nil_prefix
  | cons first rest ih =>
    rw [List.cons_append, firstOfName, firstOfName, List.cons_prefix_cons]
    exact ⟨rfl, ih.filter _⟩

theorem extends_of_terms {further : List Term}
    (h : larger.terms = arrange (registry.terms ++ further)) : larger.Extends registry := by
  intro scope
  have htable : registry.table scope = firstOfName (inScope registry.terms scope) :=
    (firstOfName_of_pairwise (table_pairwise scope)).symm
  rw [htable, table, h, inScope_arrange]
  simpa [inScope] using firstOfName_append (inScope registry.terms scope) (inScope further scope)

/-- A merged registry extends the one that it was merged into. -/
theorem extends_of_merge {config : Value} (h : (registry.merge config).outcome = .ok larger) :
    larger.Extends registry := by
  simp only [merge, Traced.bind_outcome_eq_ok, Traced.lift_outcome, supplement,
    Except.ok.injEq] at h
  obtain ⟨further, -, terms, rfl, h⟩ := h
  exact extends_of_terms (ofTerms_eq_ok_iff.1 h).2

/-! ### What is kept in an extension -/

namespace Extends

theorem mem_table {scope : Scope} {term : Term} (h : larger.Extends registry)
    (hterm : term ∈ registry.table scope) : term ∈ larger.table scope :=
  (h scope).subset hterm

theorem mem_terms {term : Term} (h : larger.Extends registry) (hterm : term ∈ registry.terms) :
    term ∈ larger.terms :=
  (Registry.mem_table.1 (h.mem_table (Registry.mem_table.2 ⟨hterm, rfl⟩))).1

theorem hopsFrom (h : larger.Extends registry) (scope : Scope) :
    registry.hopsFrom scope <+: larger.hopsFrom scope :=
  (h scope).filterMap _

/-- New hops stand behind those that are there. -/
theorem hopPosition_eq {hop : Hop} (h : larger.Extends registry)
    (hmem : hop ∈ registry.hopsFrom hop.source) :
    larger.hopPosition hop = registry.hopPosition hop := by
  obtain ⟨more, hmore⟩ := h.hopsFrom hop.source
  have hlt := hopPosition_lt hmem
  rw [hopPosition] at hlt ⊢
  rw [← hmore, List.findIdx_append, if_pos hlt, hopPosition]

theorem walk {source target : Scope} {chain : Chain} (h : larger.Extends registry)
    (hwalk : registry.Walk source chain target) : larger.Walk source chain target := by
  induction hwalk with
  | nil => exact .nil
  | cons hmem _ ih => exact .cons ((h.hopsFrom _).subset hmem) ih

theorem leads {chain : Chain} (h : larger.Extends registry) (hleads : registry.Leads route chain) :
    larger.Leads route chain :=
  ⟨hleads.nonempty, h.walk hleads.walk, hleads.between⟩

theorem rank_eq {source target : Scope} {chain : Chain} (h : larger.Extends registry)
    (hwalk : registry.Walk source chain target) :
    larger.rank route chain = registry.rank route chain := by
  have hpositions : chain.map larger.hopPosition = chain.map registry.hopPosition :=
    List.map_congr_left fun hop hhop => h.hopPosition_eq (hwalk.mem_hopsFrom hhop)
  rw [rank, rank, hpositions]

/-- The chains of a length are those of the larger registry without the new ones, in their order. -/
theorem filter_chainsOfLength (h : larger.Extends registry) (k : Nat) :
    ((larger.chainsOfLength route k).filter fun chain => chain ∈ registry.chainsOfLength route k) =
      registry.chainsOfLength route k := by
  refine eq_chainsOfLength ?_ ?_
  · refine (List.perm_ext_iff_of_nodup ((chainsOfLength_nodup k).filter _)
      (chainsOfLength_nodup k)).2 fun chain => ?_
    rw [List.mem_filter, decide_eq_true_iff, and_iff_right_iff_imp]
    intro hchain
    obtain ⟨hlength, hleads⟩ := mem_chainsOfLength_iff.1 hchain
    exact mem_chainsOfLength_iff.2 ⟨hlength, h.leads hleads⟩
  · refine ((chainsOfLength_ranked k).filter _).imp_of_mem fun ha hb hle => ?_
    have hwalk {chain : Chain} (hchain : chain ∈ (larger.chainsOfLength route k).filter
        fun chain => chain ∈ registry.chainsOfLength route k) :
        registry.Walk route.origin chain route.target :=
      (mem_chainsOfLength_iff.1 (of_decide_eq_true (List.mem_filter.1 hchain).2)).2.walk
    rwa [h.rank_eq (hwalk ha), h.rank_eq (hwalk hb)] at hle

theorem chainsOfLength_sublist (h : larger.Extends registry) (k : Nat) :
    (registry.chainsOfLength route k).Sublist (larger.chainsOfLength route k) := by
  rw [← h.filter_chainsOfLength k]
  exact List.filter_sublist

theorem chainGroups_ne_nil {maxLevel : Nat} (h : larger.Extends registry)
    (hgroups : registry.chainGroups route maxLevel ≠ []) :
    larger.chainGroups route maxLevel ≠ [] := by
  obtain ⟨chains, hchains⟩ := List.exists_mem_of_ne_nil _ hgroups
  obtain ⟨chain, hchain⟩ := List.exists_mem_of_ne_nil _ (nonempty_of_mem_chainGroups hchains)
  obtain ⟨hlength, hleads⟩ := exists_mem_chainGroups_iff.1 ⟨chains, hchains, hchain⟩
  obtain ⟨more, hmore, -⟩ := exists_mem_chainGroups_iff.2 ⟨hlength, h.leads hleads⟩
  exact List.ne_nil_of_mem hmore

end Extends

/-! ### Where related lists are used -/

section Uses

variable (registry : Registry)

/-- A condition on the term uses a related list: the term is one, or it leads to a target that
uses one. -/
def termUsesRelated (term : Term) (targetUses : Scope → Bool) : Bool :=
  match term.role with
  | .related _ _ => true
  | .hop _ target => targetUses target
  | .documentId | .indexed _ | .text _ | .similar => false

mutual

/-- Some condition in the value of a hop to the scope is on a related list. -/
def targetUsesRelated : Value → Scope → Bool
  | .map entries, scope => !isIdMapping entries && entriesUseRelated scope entries
  | _, _ => false

/-- Some condition of a mapping is on a related list. -/
def entriesUseRelated (scope : Scope) : List (String × Value) → Bool
  | [] => false
  | (key, value) :: rest =>
    (if key = scopeKey ∨ key = comparatorKey then false
      else
        match Connective.ofKey? key with
        | some _ => groupUsesRelated scope value
        | none =>
          (registry.find? scope key).any fun term =>
            termUsesRelated term (targetUsesRelated value)) ||
      entriesUseRelated scope rest

/-- Some condition in a list, given as a value, is on a related list. -/
def groupUsesRelated (scope : Scope) : Value → Bool
  | .list items => listUsesRelated scope items
  | _ => false

/-- Some condition in a list is on a related list. -/
def listUsesRelated (scope : Scope) : List Value → Bool
  | [] => false
  | .map entries :: rest => entriesUseRelated scope entries || listUsesRelated scope rest
  | _ :: rest => listUsesRelated scope rest

end

/-- The condition of a key is on a related list. -/
def conditionUsesRelated (scope : Scope) (key : String) (value : Value) : Bool :=
  match Connective.ofKey? key with
  | some _ => registry.groupUsesRelated scope value
  | none =>
    (registry.find? scope key).any fun term =>
      termUsesRelated term (registry.targetUsesRelated value)

/-- Some condition of a branch, in the scope that it declares, is on a related list. -/
def branchUsesRelated : Value → Bool
  | .map entries =>
    match Scope.ofValue ((given? entries scopeKey).getD .null) with
    | .ok scope => registry.entriesUseRelated scope entries
    | .error _ => false
  | _ => false

/-- Some condition of the criteria is on a related list. -/
def criteriaUseRelated (expected : Option String) : Value → Bool
  | .map entries =>
    let declared := ((given? entries scopeKey).or (expected.map .string)).getD .null
    match Scope.ofValue declared, Entries.get? entries Connective.any.key with
    | .ok scope, _ => registry.entriesUseRelated scope entries
    | .error _, some (.list branches) => branches.any registry.branchUsesRelated
    | _, _ => false
  | _ => false

end Uses

/-! ### What is read is read in an extension -/

theorem conditionUsesRelated_group {scope : Scope} {connective : Connective} {items : List Value} :
    registry.conditionUsesRelated scope connective.key (.list items) =
      registry.listUsesRelated scope items := by
  rw [conditionUsesRelated, Connective.ofKey?_key, groupUsesRelated]

theorem conditionUsesRelated_term {scope : Scope} {term : Term} {value : Value}
    (hname : Connective.ofKey? term.name = none) (hterm : term ∈ registry.table scope) :
    registry.conditionUsesRelated scope term.name value =
      termUsesRelated term (registry.targetUsesRelated value) := by
  rw [conditionUsesRelated, hname, find?_eq_some_iff.2 ⟨hterm, rfl⟩, Option.any_some]

theorem entriesUseRelated_condition {scope : Scope} {key : String} {value : Value}
    {rest : List (String × Value)} (hoption : ¬ (key = scopeKey ∨ key = comparatorKey)) :
    registry.entriesUseRelated scope ((key, value) :: rest) =
      (registry.conditionUsesRelated scope key value || registry.entriesUseRelated scope rest) := by
  rw [entriesUseRelated, if_neg hoption, conditionUsesRelated]

theorem entriesUseRelated_option {scope : Scope} {key : String} {value : Value}
    {rest : List (String × Value)} (hoption : key = scopeKey ∨ key = comparatorKey) :
    registry.entriesUseRelated scope ((key, value) :: rest) =
      registry.entriesUseRelated scope rest := by
  rw [entriesUseRelated, if_pos hoption, Bool.false_or]

-- The induction is on the derivation. Each rule applies again in the extension, and only the one of
-- related lists gives another tree there.
mutual

theorem ReadsTarget.extend {scope : Scope} {value : Value} {tree : Query}
    (h : larger.Extends registry) : registry.ReadsTarget scope value tree →
      ∃ tree', larger.ReadsTarget scope value tree' ∧
        (registry.targetUsesRelated value scope = false → tree' = tree)
  | .text id => ⟨_, .text id, fun _ => rfl⟩
  | .record id => ⟨_, .record id, fun _ => rfl⟩
  | .tree hrecord hscope => ⟨_, .tree hrecord hscope, fun _ => rfl⟩
  | .named id => ⟨_, .named id, fun _ => rfl⟩
  | .mapping hid hscope hmapping => by
    obtain ⟨tree', hmapping', heq⟩ := hmapping.extend h
    refine ⟨tree', .mapping hid hscope hmapping', fun huses => heq ?_⟩
    rwa [targetUsesRelated, hid, Bool.not_false, Bool.true_and] at huses

theorem ReadsMapping.extend {scope : Scope} {entries : Entries String Value} {tree : Query}
    (h : larger.Extends registry) : registry.ReadsMapping scope entries tree →
      ∃ tree', larger.ReadsMapping scope entries tree' ∧
        (registry.entriesUseRelated scope entries = false → tree' = tree)
  | .intro hcomparison hentries => by
    obtain ⟨trees', hentries', heq⟩ := hentries.extend h
    exact ⟨_, .intro hcomparison hentries', fun huses => by rw [heq huses]⟩

theorem ReadsEntries.extend {scope : Scope} {comparator : Option Value}
    {entries : List (String × Value)} {trees : List Query} (h : larger.Extends registry) :
    registry.ReadsEntries scope comparator entries trees →
      ∃ trees', larger.ReadsEntries scope comparator entries trees' ∧
        (registry.entriesUseRelated scope entries = false → trees' = trees)
  | .nil => ⟨[], .nil, fun _ => rfl⟩
  | .option hoption hrest => by
    obtain ⟨trees', hrest', heq⟩ := hrest.extend h
    rw [entriesUseRelated_option hoption]
    exact ⟨trees', .option hoption hrest', heq⟩
  | .condition hoption hcondition hrest => by
    obtain ⟨tree', hcondition', heq⟩ := hcondition.extend h
    obtain ⟨trees', hrest', heq'⟩ := hrest.extend h
    refine ⟨tree' :: trees', .condition hoption hcondition' hrest', fun huses => ?_⟩
    rw [entriesUseRelated_condition hoption, Bool.or_eq_false_iff] at huses
    rw [heq huses.1, heq' huses.2]

theorem ReadsCondition.extend {scope : Scope} {comparator : Option Value} {key : String}
    {value : Value} {tree : Query} (h : larger.Extends registry) :
    registry.ReadsCondition scope comparator key value tree →
      ∃ tree', larger.ReadsCondition scope comparator key value tree' ∧
        (registry.conditionUsesRelated scope key value = false → tree' = tree)
  | .group connective hitems hlist => by
    obtain ⟨trees', hlist', heq⟩ := hlist.extend h
    refine ⟨_, .group connective hitems hlist', fun huses => ?_⟩
    rw [heq (conditionUsesRelated_group.symm.trans huses)]
  | .leaf term hname hterm hfield hcoerced hcomparator hsign =>
    ⟨_, .leaf term hname (h.mem_table hterm) hfield hcoerced hcomparator hsign, fun _ => rfl⟩
  | .hop hop hname hmem htarget => by
    obtain ⟨target', htarget', heq⟩ := htarget.extend h
    refine ⟨_, .hop hop hname ((h.hopsFrom _).subset hmem) htarget', fun huses => ?_⟩
    rw [Hop.name, conditionUsesRelated_term hname (mem_hopsFrom_iff.1 hmem), termUsesRelated,
      hop.role] at huses
    rw [heq huses]
  | .related term hname hterm hrole hgroups htarget => by
    obtain ⟨terminal', htarget', -⟩ := htarget.extend h
    refine ⟨_, .related term hname (h.mem_table hterm) hrole (h.chainGroups_ne_nil hgroups) htarget',
      fun huses => ?_⟩
    rw [conditionUsesRelated_term hname hterm, termUsesRelated, hrole] at huses
    cases huses

theorem ReadsList.extend {scope : Scope} {items : List Value} {trees : List Query}
    (h : larger.Extends registry) : registry.ReadsList scope items trees →
      ∃ trees', larger.ReadsList scope items trees' ∧
        (registry.listUsesRelated scope items = false → trees' = trees)
  | .nil => ⟨[], .nil, fun _ => rfl⟩
  | .cons hscope hmapping hrest => by
    obtain ⟨tree', hmapping', heq⟩ := hmapping.extend h
    obtain ⟨trees', hrest', heq'⟩ := hrest.extend h
    refine ⟨tree' :: trees', .cons hscope hmapping' hrest', fun huses => ?_⟩
    rw [listUsesRelated, Bool.or_eq_false_iff] at huses
    rw [heq huses.1, heq' huses.2]

end

theorem ReadsBranches.extend {branches : List Value} {trees : List Query}
    (h : larger.Extends registry) (hbranches : registry.ReadsBranches branches trees) :
    ∃ trees', larger.ReadsBranches branches trees' ∧
      (branches.any registry.branchUsesRelated = false → trees' = trees) := by
  induction hbranches with
  | nil => exact ⟨[], .nil, fun _ => rfl⟩
  | @cons scope entries rest tree trees hscope hmapping _ ih =>
    obtain ⟨tree', hmapping', heq⟩ := hmapping.extend h
    obtain ⟨trees', hrest', heq'⟩ := ih
    refine ⟨tree' :: trees', .cons hscope hmapping' hrest', fun huses => ?_⟩
    rw [List.any_cons, Bool.or_eq_false_iff, branchUsesRelated, hscope, Option.getD_some,
      Scope.ofValue_eq_ok_iff.2 rfl] at huses
    rw [heq huses.1, heq' huses.2]

/-- Criteria that are read in a registry are read in an extension, as the same tree if they use no
related list. -/
theorem ReadsCriteria.extend {expected : Option String} {value : Value} {tree : Query}
    (h : larger.Extends registry) (hcriteria : registry.ReadsCriteria expected value tree) :
    ∃ tree', larger.ReadsCriteria expected value tree' ∧
      (registry.criteriaUseRelated expected value = false → tree' = tree) := by
  cases hcriteria with
  | @mapping scope entries _ hscope hmapping =>
    obtain ⟨tree', hmapping', heq⟩ := hmapping.extend h
    refine ⟨tree', .mapping hscope hmapping', fun huses => heq ?_⟩
    rwa [criteriaUseRelated, Compiler.given?_of_scopeOfCriteria hscope, Option.getD_some,
      Scope.ofValue_eq_ok_iff.2 rfl] at huses
  | multi hscope hkeys hget hne hbranches =>
    obtain ⟨trees', hbranches', heq⟩ := hbranches.extend h
    refine ⟨_, .multi hscope hkeys hget hne hbranches', fun huses => ?_⟩
    rw [criteriaUseRelated, Compiler.given?_of_scopeOfCriteria hscope, Option.getD_some, hget] at huses
    rw [heq huses]

end Registry

namespace Compiler

variable {registry larger : Registry} {clamps : Bool}

/-! ### What compiles, compiles in an extension -/

/-- The branches of a related list stay in their order. -/
theorem branches_sublist {term : Term} {target : Scope} {level : Nat} {terminal : Query}
    (h : larger.Extends registry) :
    ((Compiler.mk registry clamps).branches term target level terminal).flatten.Sublist
      ((Compiler.mk larger clamps).branches term target level terminal).flatten := by
  simp only [branches_eq_map, ← List.flatMap_def]
  exact List.Sublist.flatMap_right _ fun k _ => (h.chainsOfLength_sublist k).map _

theorem relatedBranches_extend {term : Term} {target : Scope} {declared : Nat} {value : Value}
    {levels : Levels} {found : List Branch} (h : larger.Extends registry)
    (hterm : term ∈ registry.terms) (hrole : term.role = .related target declared)
    (huses : registry.targetUsesRelated value target = false)
    (hfound : ((Compiler.mk registry clamps).relatedBranches (.string term.scope.name) term.name
      value levels).outcome = .ok found) :
    ∃ more, ((Compiler.mk larger clamps).relatedBranches (.string term.scope.name) term.name
      value levels).outcome = .ok more ∧ found.Sublist more := by
  obtain ⟨level, terminal, hlevel, hterminal, rfl⟩ :=
    (relatedBranches_eq_ok_iff hterm hrole).1 hfound
  obtain ⟨terminal', hterminal', heq⟩ := (target_eq_ok_iff.1 hterminal).extend h
  obtain rfl := heq huses
  -- How far a level goes is asked of the term alone, so both registries expand the same levels.
  exact ⟨_, (relatedBranches_eq_ok_iff (h.mem_terms hterm) hrole).2
    ⟨level, terminal', hlevel, target_eq_ok_iff.2 hterminal', rfl⟩, branches_sublist h⟩

/-- Merging is conservative. Criteria that compile do so in the merged registry, to the same tree if
they use no related list; and the branches of a related list, for a value that uses none itself, are
among those in the merged registry, in the same order. -/
theorem merge_conservative {merged : Registry} {config : Value}
    (hmerge : (registry.merge config).outcome = .ok merged) (clamps : Bool) :
    let compiler : Compiler := ⟨registry, clamps⟩
    let extended : Compiler := ⟨merged, clamps⟩
    (∀ (criteria : Value) (expected : Option String) (tree : Query),
      (compiler.criteria criteria expected).outcome = .ok tree →
        ∃ tree', (extended.criteria criteria expected).outcome = .ok tree' ∧
          (registry.criteriaUseRelated expected criteria = false → tree' = tree)) ∧
    ∀ (term : Term) (target : Scope) (declared : Nat) (value : Value) (levels : Levels)
      (branches : List Branch), term ∈ registry.terms → term.role = .related target declared →
        registry.targetUsesRelated value target = false →
          (compiler.relatedBranches (.string term.scope.name) term.name value levels).outcome =
            .ok branches →
          ∃ branches', (extended.relatedBranches (.string term.scope.name) term.name value
            levels).outcome = .ok branches' ∧ branches.Sublist branches' := by
  intro compiler extended
  have hextends := Registry.extends_of_merge hmerge
  refine ⟨fun criteria expected tree h => ?_, fun term target declared value levels branches hterm
    hrole huses h => relatedBranches_extend hextends hterm hrole huses h⟩
  obtain ⟨tree', htree', heq⟩ := (criteria_eq_ok_iff.1 h).extend hextends
  exact ⟨tree', criteria_eq_ok_iff.2 htree', heq⟩

end Compiler

/-! ### A registry merged into -/

/-- Entries that declare one relation of agents anew, which is there already, and one more. -/
def Registry.kinship : Value :=
  let hop (relation : String) : Value :=
    .map [("patternName", .string "hopWithField"), ("predicates", .list [.string relation]),
      ("targetScope", .string "agent")]
  .map [("agent", .map [("memberOf", hop "lux(\"agentKin\")"),
    ("spouseOf", hop "lux(\"agentSpouse\")")])]

/-- The circles with the new relation. -/
def Registry.kindred : Registry where
  terms := Registry.circles.terms.insertIdx 3
    { declaration :=
        { scope := .agent, name := "spouseOf", pattern := .hopWithField,
          predicates := ["lux(\"agentSpouse\")"], targetScope := some .agent }
      predicates := [⟨.lux, "agentSpouse"⟩]
      role := .hop ⟨.lux, "agentSpouse"⟩ .agent
      checked := rfl }
  arranged := by decide
  closed := by decide

theorem Registry.circles_merge_kinship :
    (Registry.circles.merge Registry.kinship).outcome = .ok .kindred := by
  have hterms : (Registry.circles.merge Registry.kinship).outcome.toOption.map Registry.terms =
      some Registry.kindred.terms := by decide +kernel
  obtain ⟨merged, hmerged, hterms⟩ := Option.map_eq_some_iff.1 hterms
  obtain rfl := Registry.ext hterms
  exact toOption_eq_some_iff.1 hmerged

/-- The new relation comes between the branches that were there, and the relation declared anew stays
as it was. -/
theorem Compiler.circles_merged :
    let branches (registry : Registry) : Except Error (List Branch) :=
      ((Compiler.mk registry true).relatedBranches (.string "agent") "relatedToAgent"
        (.string "agent:1")).outcome
    let memberOf : Value := .map [(scopeKey, .string "agent"), ("memberOf", .string "agent:1")]
    (Registry.circles.merge Registry.kinship).outcome = .ok .kindred ∧
      (∃ found more, branches .circles = .ok found ∧ branches .kindred = .ok more ∧
        found.Sublist more ∧ found.map Branch.key = ["memberOf", "created-createdBy"] ∧
        more.map Branch.key = ["memberOf", "spouseOf", "created-createdBy"]) ∧
      ∃ tree, ((Compiler.mk .circles true).criteria memberOf).outcome = .ok tree ∧
        ((Compiler.mk .kindred true).criteria memberOf).outcome = .ok tree := by
  intro branches memberOf
  have hkeys : (branches .circles).toOption.map (·.map Branch.key) =
      some ["memberOf", "created-createdBy"] := by decide +kernel
  have hmore : (branches .kindred).toOption.map (·.map Branch.key) =
      some ["memberOf", "spouseOf", "created-createdBy"] := by cbv
  obtain ⟨found, hfound, hkeys⟩ := Option.map_eq_some_iff.1 hkeys
  obtain ⟨more, hmore, hmoreKeys⟩ := Option.map_eq_some_iff.1 hmore
  rw [toOption_eq_some_iff] at hfound hmore
  have hcompiled : ((Compiler.mk .circles true).criteria memberOf).outcome =
      .ok (.hop "memberOf" (.record ⟨"agent:1", by decide⟩) (some "agent")
        (some "lux:agentMemberOf") (some "agent")) := by rfl
  obtain ⟨hcriteria, hbranches⟩ := merge_conservative Registry.circles_merge_kinship true
  obtain ⟨tree, htree, heq⟩ := hcriteria memberOf none _ hcompiled
  obtain rfl := heq (by decide +kernel)
  obtain ⟨again, hagain, hsublist⟩ := hbranches .relatedToAgent .agent 2 (.string "agent:1") {}
    found (by decide) rfl rfl hfound
  obtain rfl : again = more := Except.ok.inj (hagain.symm.trans hmore)
  exact ⟨Registry.circles_merge_kinship, ⟨found, again, hfound, hmore, hsublist, hkeys, hmoreKeys⟩,
    _, hcompiled, htree⟩

end ScopedSearch
