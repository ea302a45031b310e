import ScopedSearch.Proofs.Closure
import ScopedSearch.Proofs.Failure
import ScopedSearch.Proofs.LevelBound

/-!
# What the audit says of related lists

The audit and the compiler search the same chains, each on its own. The audit warns of a related list
exactly if no chain within the declared bound leads to the target (`Registry.warns_iff`); then no value
compiles at any level, and otherwise every value that names something of the target compiles at the
declared one (`Registry.warning_predicts_compilation`). A mapping whose only key is `id` always stands for
a record, also where it would be criteria of the target scope.
-/

namespace ScopedSearch

/-- The declared levels are asked for, by their number or by saying nothing. -/
def Levels.AskDeclared (levels : Levels) (declared : Nat) : Prop :=
  levels.maxLevel = none ∨ levels.maxLevel = some (.int declared)

theorem Levels.bound_le (levels : Levels) (declared : Nat) : levels.bound declared ≤ declared := by
  unfold bound
  split
  · exact Nat.min_le_right _ _
  · exact Nat.le_refl _

/-- A mapping whose only key is `id` names a record. -/
def Value.IdNamesRecord (value : Value) : Prop :=
  ∀ entries, value = .map entries → isIdMapping entries = true →
    ∃ id : RecordId, entries = [("id", .string id.text)]

namespace Registry

variable {registry : Registry} {term : Term} {target : Scope} {declared : Nat} {strict : Bool}

/-- The audit warns of the term. -/
def Warns (registry : Registry) (strict : Bool) (term : Term) : Prop :=
  ∃ issue ∈ (registry.audit strict).issues, issue.severity = .warning ∧
    issue.scope = term.scope.name ∧ issue.term = term.name

instance (registry : Registry) (strict : Bool) (term : Term) :
    Decidable (registry.Warns strict term) :=
  inferInstanceAs (Decidable (∃ issue ∈ _, _ ∧ _ ∧ _))

/-- No length has a chain exactly if every chain of the route is longer than the bound. -/
theorem chainGroups_eq_nil_iff {route : Route} {maxLevel : Nat} :
    registry.chainGroups route maxLevel = [] ↔
      ∀ chain, registry.Leads route chain → maxLevel < chain.length := by
  constructor
  · intro hnil chain hleads
    by_contra hlength
    obtain ⟨chains, hchains, -⟩ := exists_mem_chainGroups_iff.2 ⟨Nat.le_of_not_lt hlength, hleads⟩
    rw [hnil] at hchains
    cases hchains
  · intro hlonger
    rw [List.eq_nil_iff_forall_not_mem]
    intro chains hchains
    obtain ⟨chain, hchain⟩ := List.exists_mem_of_ne_nil _ (nonempty_of_mem_chainGroups hchains)
    obtain ⟨hlength, hleads⟩ := exists_mem_chainGroups_iff.1 ⟨chains, hchains, hchain⟩
    exact Nat.not_lt_of_le hlength (hlonger chain hleads)

theorem chainGroups_eq_nil_of_le {route : Route} {level maxLevel : Nat} (hle : level ≤ maxLevel)
    (h : registry.chainGroups route maxLevel = []) : registry.chainGroups route level = [] :=
  chainGroups_eq_nil_iff.2 fun chain hleads =>
    Nat.lt_of_le_of_lt hle (chainGroups_eq_nil_iff.1 h chain hleads)

theorem exists_reachIssue_iff :
    (∃ issue, registry.reachIssue term target declared = some issue) ↔
      registry.chainGroups (routeOf term target) declared = [] := by
  have hall : (registry.chains (routeOf term target) declared).all List.isEmpty = true ↔
      registry.chainGroups (routeOf term target) declared = [] := by
    simp [chainGroups, List.filter_eq_nil_iff]
  rw [← hall, reachIssue]
  split
  · next h => simp [h]
  · next h => simp [h]

/-- The audit warns of a term exactly if what it finds about this term is a warning. -/
theorem warns_iff_exists_termIssue (hterm : term ∈ registry.terms) :
    registry.Warns strict term ↔
      ∃ issue, registry.termIssue term = some issue ∧ issue.severity = .warning := by
  rw [Warns, audit, danglingIssues_terms, List.nil_append]
  constructor
  · rintro ⟨issue, hmem, hseverity, hscope, hname⟩
    obtain ⟨other, hother, hfound⟩ := List.mem_filterMap.1 hmem
    obtain ⟨severity, message, suggestion, rfl, -⟩ := issueAt_of_termIssue hfound
    have hsame : other = term := eq_of_mem_table (mem_table.2 ⟨hother, Scope.name_injective hscope⟩)
      (mem_table.2 ⟨hterm, rfl⟩) hname
    rw [hsame] at hfound
    exact ⟨_, hfound, hseverity⟩
  · rintro ⟨issue, hfound, hseverity⟩
    have hmem := List.mem_filterMap.2 ⟨term, hterm, hfound⟩
    obtain ⟨severity, message, suggestion, rfl, -⟩ := issueAt_of_termIssue hfound
    exact ⟨_, hmem, hseverity, rfl, rfl⟩

/-- The audit warns of a related list exactly if no chain leads to the target within the bound. -/
theorem warns_iff (hterm : term ∈ registry.terms) (hrole : term.role = .related target declared) :
    registry.Warns strict term ↔ registry.chainGroups (routeOf term target) declared = [] := by
  have hissue : registry.termIssue term = registry.reachIssue term target declared := by
    rw [termIssue, hrole]
  rw [← exists_reachIssue_iff, warns_iff_exists_termIssue hterm, hissue]
  refine exists_congr fun issue => and_iff_left_of_imp fun hfound => ?_
  rw [reachIssue] at hfound
  split at hfound
  · cases hfound
    rfl
  · cases hfound

end Registry

namespace Compiler

variable {compiler : Compiler} {term : Term} {target : Scope} {declared : Nat} {value : Value}
  {levels : Levels}

/-- A value for a target: the name of a record, a tree that is not about another scope, or criteria that
compile in the scope of the target. -/
inductive Suits (compiler : Compiler) (scope : Scope) : Value → Prop
  | text (id : RecordId) : Suits compiler scope (.string id.text)
  | record (id : RecordId) : Suits compiler scope (.query (.record id))
  | named (id : RecordId) : Suits compiler scope (.map [("id", .string id.text)])
  | tree {tree : Query} : tree.isRecord = false → (∀ name ∈ tree.scope, name = scope.name) →
    Suits compiler scope (.query tree)
  | criteria {value : Value} {tree : Query} :
    (compiler.criteria value (some scope.name)).outcome = .ok tree → Suits compiler scope value

/-- Where a scope is expected criteria are read in it, and they may lead to it. -/
theorem checkTargetScope_of_scopeOfCriteria {scope : Scope} {entries : Entries String Value}
    {found : Value} (h : scopeOfCriteria (some scope.name) entries = .ok found) :
    found = .string scope.name ∧ checkTargetScope scope entries = .ok () := by
  rw [checkTargetScope_eq_ok_iff]
  unfold scopeOfCriteria at h
  cases hgiven : given? entries scopeKey with
  | none =>
    simp only [hgiven, Except.ok.injEq] at h
    exact ⟨h.symm, nofun⟩
  | some given =>
    simp only [hgiven] at h
    split at h
    · next hname =>
      obtain rfl := Value.isString_iff.1 hname
      exact ⟨(Except.ok.inj h).symm, fun _ hdeclared => (Option.some.inj hdeclared).symm⟩
    · cases h

/-- Criteria that compile where a scope is expected are a mapping that is read in that scope. -/
theorem readsMapping_of_criteria {scope : Scope} {entries : Entries String Value} {tree : Query}
    (h : (compiler.criteria (.map entries) (some scope.name)).outcome = .ok tree) :
    checkTargetScope scope entries = .ok () ∧ compiler.registry.ReadsMapping scope entries tree := by
  cases criteria_eq_ok_iff.1 h with
  | mapping hscope hmapping =>
    obtain ⟨hname, hcheck⟩ := checkTargetScope_of_scopeOfCriteria hscope
    obtain rfl := Scope.name_injective (Value.string.inj hname)
    exact ⟨hcheck, hmapping⟩
  | multi hscope =>
    obtain ⟨hname, -⟩ := checkTargetScope_of_scopeOfCriteria hscope
    exact absurd (Value.string.inj hname).symm scope.name_ne_multi

theorem exists_target_of_suits (term : Term) (hsuits : compiler.Suits target value)
    (hid : value.IdNamesRecord) : ∃ terminal, (compiler.target value term target).outcome = .ok terminal := by
  simp only [target_eq_ok_iff]
  cases hsuits with
  | text id => exact ⟨_, .text id⟩
  | record id => exact ⟨_, .record id⟩
  | named id => exact ⟨_, .named id⟩
  | tree hrecord hscope => exact ⟨_, .tree hrecord hscope⟩
  | criteria h =>
    cases value with
    | map entries =>
      cases hentries : isIdMapping entries with
      | true =>
        obtain ⟨id, rfl⟩ := hid entries rfl hentries
        exact ⟨_, .named id⟩
      | false =>
        obtain ⟨hscope, hmapping⟩ := readsMapping_of_criteria h
        exact ⟨_, .mapping hentries hscope hmapping⟩
    | _ => cases h

theorem idNamesRecord_of_target {terminal : Query}
    (h : (compiler.target value term target).outcome = .ok terminal) : value.IdNamesRecord := by
  rintro entries rfl hentries
  cases target_eq_ok_iff.1 h with
  | named id => exact ⟨id, rfl⟩
  | mapping hid => exact absurd hentries (by simp [hid])

/-- A value for a target is refused as invalid if it is refused at all, and can be shown. -/
theorem target_of_suits (term : Term) (hsuits : compiler.Suits target value)
    (hshown : ¬ value.IsLong) :
    (∃ terminal, (compiler.target value term target).outcome = .ok terminal) ∨
      ∃ cause, (compiler.target value term target).outcome = .error (.invalid cause) := by
  by_cases hid : value.IdNamesRecord
  · exact .inl (exists_target_of_suits term hsuits hid)
  · -- Only a mapping whose only key is `id` names no record, and it is read as nothing else.
    simp only [Value.IdNamesRecord, not_forall] at hid
    obtain ⟨entries, rfl, hentries, -⟩ := hid
    rw [Compiler.target, if_pos hentries]
    cases hrecord : term.recordOf (.map entries) with
    | ok id => exact .inl ⟨_, rfl⟩
    | error cause =>
      have hraised : (Error.invalid cause).raised = .invalid cause :=
        Error.raised_invalid fun given hgiven hlong =>
          hshown (Term.recordOf_shows id cause hrecord given hgiven hlong)
      exact .inr ⟨cause, congrArg Except.error hraised⟩

theorem levelsOf_of_askDeclared (hrole : term.role = .related target declared)
    (hlevels : levels.AskDeclared declared) :
    (compiler.levelsOf term declared levels).outcome = .ok declared := by
  obtain ⟨maxLevel, clamp⟩ := levels
  obtain rfl | rfl := hlevels
  · rfl
  · exact levelsOf_of_le (Term.declared_pos hrole) (Nat.le_refl _)

theorem relatedQuery_unreachable {level : Nat} {terminal : Query}
    (h : compiler.registry.chainGroups (Registry.routeOf term target) level = []) :
    (compiler.relatedQuery term target level terminal).outcome =
      .error (.invalid (.unreachable term target level)) := by
  by_cases hnil : (compiler.branches term target level terminal).filter (!·.isEmpty) = []
  · rw [relatedQuery_outcome, if_pos hnil]
  · obtain ⟨hgroups, -⟩ := relatedQuery_eq_ok_iff.1
      (relatedQuery_outcome.trans (if_neg hnil))
    exact absurd h hgroups

/-- A related list compiles exactly if there is a chain of a level that is asked for and the value names
something of the target. -/
theorem compile_related_eq_ok_iff {tree : Query} (hterm : term ∈ compiler.registry.terms)
    (hrole : term.role = .related target declared) :
    (compiler.compile (.string term.scope.name) term.name value levels).outcome = .ok tree ↔
      ∃ level terminal, (compiler.levelsOf term declared levels).outcome = .ok level ∧
        (compiler.target value term target).outcome = .ok terminal ∧
        compiler.registry.chainGroups (Registry.routeOf term target) level ≠ [] ∧
        .ofChains term.scope
          (compiler.registry.chainGroups (Registry.routeOf term target) level) terminal = tree := by
  simp only [compile_outcome_related hterm hrole, bind_eq_ok_iff, relatedQuery_eq_ok_iff,
    exists_and_left]

/-- At the declared level a related list is refused for its value, or what it comes to is decided by
the chains. -/
theorem compile_of_askDeclared (hterm : term ∈ compiler.registry.terms)
    (hrole : term.role = .related target declared) (hlevels : levels.AskDeclared declared) :
    (compiler.compile (.string term.scope.name) term.name value levels).outcome =
      (compiler.target value term target).outcome >>= fun terminal =>
        (compiler.relatedQuery term target declared terminal).outcome := by
  rw [compile_outcome_related hterm hrole, levelsOf_of_askDeclared hrole hlevels, Traced.ok_bind]

variable {strict : Bool}

/-- Where the audit warns, no level that can be asked for has a chain. -/
theorem not_compiles_of_warns (hterm : term ∈ compiler.registry.terms)
    (hrole : term.role = .related target declared) (hwarns : compiler.registry.Warns strict term)
    (tree : Query) :
    (compiler.compile (.string term.scope.name) term.name value levels).outcome ≠ .ok tree := by
  intro hcompiled
  obtain ⟨level, -, hlevel, -, hgroups, -⟩ := (compile_related_eq_ok_iff hterm hrole).1 hcompiled
  have hle : level ≤ declared := bound_of_levelsOf hlevel ▸ levels.bound_le declared
  exact hgroups (Registry.chainGroups_eq_nil_of_le hle ((Registry.warns_iff hterm hrole).1 hwarns))

theorem refused_of_warns (hterm : term ∈ compiler.registry.terms)
    (hrole : term.role = .related target declared) (hwarns : compiler.registry.Warns strict term)
    (hsuits : compiler.Suits target value) (hlevels : levels.AskDeclared declared) :
    (¬ value.IsLong → ∃ cause,
        (compiler.compile (.string term.scope.name) term.name value levels).outcome =
          .error (.invalid cause)) ∧
      (value.IdNamesRecord →
        (compiler.compile (.string term.scope.name) term.name value levels).outcome =
          .error (.invalid (.unreachable term target declared))) := by
  have hgroups := (Registry.warns_iff hterm hrole).1 hwarns
  rw [compile_of_askDeclared hterm hrole hlevels]
  constructor
  · intro hshown
    obtain ⟨terminal, hterminal⟩ | ⟨cause, hcause⟩ := target_of_suits term hsuits hshown
    · exact ⟨_, by rw [hterminal, Traced.ok_bind, relatedQuery_unreachable hgroups]⟩
    · exact ⟨cause, by rw [hcause]; rfl⟩
  · intro hid
    obtain ⟨terminal, hterminal⟩ := exists_target_of_suits term hsuits hid
    rw [hterminal, Traced.ok_bind, relatedQuery_unreachable hgroups]

theorem compiles_iff_of_not_warns (hterm : term ∈ compiler.registry.terms)
    (hrole : term.role = .related target declared) (hwarns : ¬ compiler.registry.Warns strict term)
    (hsuits : compiler.Suits target value) (hlevels : levels.AskDeclared declared) :
    (∃ tree, (compiler.compile (.string term.scope.name) term.name value levels).outcome = .ok tree) ↔
      value.IdNamesRecord := by
  rw [Registry.warns_iff hterm hrole] at hwarns
  constructor
  · rintro ⟨tree, hcompiled⟩
    obtain ⟨-, terminal, -, hterminal, -⟩ := (compile_related_eq_ok_iff hterm hrole).1 hcompiled
    exact idNamesRecord_of_target hterminal
  · intro hid
    obtain ⟨terminal, hterminal⟩ := exists_target_of_suits term hsuits hid
    have hcompiled := (compile_related_eq_ok_iff hterm hrole).2
      ⟨declared, terminal, levelsOf_of_askDeclared hrole hlevels, hterminal, hwarns, rfl⟩
    exact ⟨_, hcompiled⟩

end Compiler

namespace Registry

variable {registry : Registry} {term : Term} {target : Scope} {declared : Nat}

/-- The warning about a related list predicts its compilation. It stands exactly if no value compiles at
any level. Then every value for the target that can be shown is refused as invalid at the declared level,
and, unless it is a mapping whose only key is `id` that names no record, because nothing is reached.
Without the warning every value for the target compiles at the declared level, except for such a
mapping. -/
theorem warning_predicts_compilation (hterm : term ∈ registry.terms)
    (hrole : term.role = .related target declared) (strict clamps : Bool) :
    let compiler : Compiler := ⟨registry, clamps⟩
    let compiled (value : Value) (levels : Levels) :=
      (compiler.compile (.string term.scope.name) term.name value levels).outcome
    (registry.Warns strict term ↔ ∀ value levels, ∃ error, compiled value levels = .error error) ∧
      (registry.Warns strict term → ∀ value levels, compiler.Suits target value →
        levels.AskDeclared declared →
          (¬ value.IsLong → ∃ cause, compiled value levels = .error (.invalid cause)) ∧
          (value.IdNamesRecord →
            compiled value levels = .error (.invalid (.unreachable term target declared)))) ∧
      (¬ registry.Warns strict term → ∀ value levels, compiler.Suits target value →
        levels.AskDeclared declared →
          ((∃ tree, compiled value levels = .ok tree) ↔ value.IdNamesRecord)) := by
  intro compiler compiled
  have hterm : term ∈ compiler.registry.terms := hterm
  refine ⟨⟨fun hwarns value levels => ?_, fun hfails => ?_⟩,
    fun hwarns value levels hsuits hlevels =>
      Compiler.refused_of_warns hterm hrole hwarns hsuits hlevels,
    fun hwarns value levels hsuits hlevels =>
      Compiler.compiles_iff_of_not_warns hterm hrole hwarns hsuits hlevels⟩
  · cases hcompiled : compiled value levels with
    | error error => exact ⟨error, rfl⟩
    | ok tree => exact absurd hcompiled (Compiler.not_compiles_of_warns hterm hrole hwarns tree)
  · by_contra hwarns
    -- The name of any record compiles where there is a chain.
    have hsuits : compiler.Suits target (.string "record") := .text ⟨"record", by decide⟩
    have hlevels : Levels.AskDeclared {} declared := .inl rfl
    obtain ⟨tree, hcompiled⟩ :=
      (Compiler.compiles_iff_of_not_warns hterm hrole hwarns hsuits hlevels).2 nofun
    obtain ⟨error, herror⟩ := hfails (.string "record") {}
    exact nomatch hcompiled.symm.trans herror

theorem agentId_checked :
    Declaration.check { scope := .agent, name := "id", pattern := .documentId } =
      .ok ([], .documentId) := rfl

/-- The registry with a cycle, and agents by their identifier. -/
def namedCircles : Registry where
  terms :=
    { declaration := { scope := .agent, name := "id", pattern := .documentId }
      predicates := []
      role := .documentId
      checked := agentId_checked } :: circles.terms
  arranged := by decide
  closed := by decide

/-- Agents that nothing relates. -/
def hermits : Registry where
  terms :=
    [.relatedToAgent,
     { declaration := { scope := .work, name := "similar", pattern := .similar }
       predicates := []
       role := .similar
       checked := rfl }]
  arranged := by decide
  closed := by decide

/-- An agent who is named compiles where there is a cycle, and nothing does among hermits. -/
theorem hermits_warning :
    (Term.relatedToAgent ∈ namedCircles.terms ∧ Term.relatedToAgent ∈ hermits.terms ∧
      Term.relatedToAgent.role = .related .agent 2) ∧
    (¬ namedCircles.Warns false .relatedToAgent ∧ ∃ tree,
      ((Compiler.mk .namedCircles true).compile (.string "agent") "relatedToAgent"
        (.map [("id", .string "agent:1")])).outcome = .ok tree) ∧
    hermits.Warns false .relatedToAgent ∧ ∀ value levels, ∃ error,
      ((Compiler.mk .hermits true).compile (.string "agent") "relatedToAgent" value
        levels).outcome = .error error := by
  have hrole : Term.relatedToAgent.role = .related .agent 2 := rfl
  have hnamed : Term.relatedToAgent ∈ namedCircles.terms := by decide
  have halone : Term.relatedToAgent ∈ hermits.terms := by decide
  have hreached : ¬ namedCircles.Warns false .relatedToAgent := by decide +kernel
  have hwarned : hermits.Warns false .relatedToAgent := by decide +kernel
  obtain ⟨-, -, hcompiles⟩ := warning_predicts_compilation hnamed hrole false true
  obtain ⟨hfails, -, -⟩ := warning_predicts_compilation halone hrole false true
  let id : RecordId := ⟨"agent:1", by decide⟩
  have hid : Value.IdNamesRecord (.map [("id", .string "agent:1")]) := by
    intro entries heq _
    exact ⟨id, (Value.map.inj heq).symm⟩
  exact ⟨⟨hnamed, halone, hrole⟩,
    ⟨hreached, (hcompiles hreached _ {} (.named id) (.inl rfl)).2 hid⟩, hwarned, hfails.1 hwarned⟩

/-- An agent by an identifier that is given by another mapping: criteria of agents, but no name of a
record, so that the related list is refused although the audit does not warn of it. -/
theorem namedCircles_nested_id :
    let compiler : Compiler := ⟨.namedCircles, true⟩
    let value : Value := .map [("id", .map [("id", .string "agent:1")])]
    ¬ namedCircles.Warns false .relatedToAgent ∧ compiler.Suits .agent value ∧
      Levels.AskDeclared {} 2 ∧
      (compiler.compile (.string "agent") "relatedToAgent" value).outcome =
        .error (.invalid (.notRecordId .relatedToAgent (.map [("id", .string "agent:1")]))) := by
  intro compiler value
  have hcompiled : (compiler.criteria value (some Scope.agent.name)).outcome =
      .ok (.leaf "id" (.string "agent:1") (some "agent") (some "id") false none) := by rfl
  exact ⟨by decide +kernel, .criteria hcompiled, .inl rfl, by rfl⟩

end Registry

end ScopedSearch
