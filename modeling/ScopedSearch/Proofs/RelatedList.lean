import ScopedSearch.Proofs.Compilation

/-!
# The query and the branches of a related list

A related list is expanded in two ways: into one query, an `OR` over the lengths that have chains,
and into the list of its branches, shortest first. Both resolve the level and the value in the same
way and enumerate the same chains, so they fail alike and hold the same branches
(`Compiler.compile_eq_relatedBranches`); only where there is no branch is the list empty and the query
refused.
-/

namespace ScopedSearch

/-- The levels that are expanded when they are asked for: those asked, up to the declared bound. -/
def Levels.bound (levels : Levels) (declared : Nat) : Nat :=
  match levels.maxLevel with
  | some (.int n) => min n.toNat declared
  | _ => declared

/-- Hops with these names around the terminal, from the scope on: each is in the scope that the hop
around it leads to, and the last one leads to the target. -/
inductive Query.Nests (target : Scope) (terminal : Query) : Scope → List String → Query → Prop
  | terminal : Nests target terminal target [] terminal
  | hop {source next : Scope} {name : String} {names : List String} {field : Option String}
    {inner : Query} : Nests target terminal next names inner →
      Nests target terminal source (name :: names)
        (.hop name inner (some source.name) field (some next.name))

/-- The groups hold the branches in their order, each those of one length, the lengths increasing up
to the bound. -/
structure Branch.Grouped (bound : Nat) (branches : List Branch) (groups : List (List Branch)) :
    Prop where
  flatten : groups.flatten = branches
  nonempty : ∀ group ∈ groups, group ≠ []
  lengths : ∃ lengths : List Nat, lengths.Pairwise (· < ·) ∧ (∀ length ∈ lengths, length ≤ bound) ∧
    List.Forall₂ (fun length group => ∀ branch ∈ group, branch.level = length) lengths groups

theorem Branch.Grouped.eq_nil_iff {bound : Nat} {branches : List Branch}
    {groups : List (List Branch)} (h : Branch.Grouped bound branches groups) :
    groups = [] ↔ branches = [] := by
  rw [← h.flatten, List.flatten_eq_nil_iff]
  refine ⟨fun hnil group hgroup => by simp [hnil] at hgroup, fun hall => ?_⟩
  exact List.eq_nil_iff_forall_not_mem.2 fun group hgroup => h.nonempty group hgroup (hall group hgroup)

namespace Registry

variable {registry : Registry}

/-- The query of a walk nests its hops. -/
theorem Walk.nests {source target : Scope} {chain : Chain} {terminal : Query}
    (h : registry.Walk source chain target) :
    Query.Nests target terminal source chain.names (chain.query terminal) := by
  induction h with
  | nil => exact .terminal
  | cons hmem _ ih =>
    obtain rfl := scope_of_mem_hopsFrom hmem
    exact .hop ih

end Registry

namespace Compiler

variable {compiler : Compiler} {term : Term} {target : Scope} {declared : Nat}

theorem bound_of_levelsOf {levels : Levels} {level : Nat}
    (h : (compiler.levelsOf term declared levels).outcome = .ok level) :
    level = levels.bound declared := by
  unfold levelsOf at h
  unfold Levels.bound
  split at h
  · next hnone =>
    simpa [hnone, eq_comm] using h
  · next n hn =>
    rw [hn]
    split at h
    · cases h
    · split at h
      · next hle =>
        obtain rfl : n.toNat = level := Except.ok.inj h
        exact (Nat.min_eq_left (Int.toNat_le.2 hle)).symm
      · next hlt =>
        split at h
        · obtain rfl : declared = level := by
            simpa [Traced.bind_outcome_eq_ok, -Traced.bind_outcome] using h
          exact (Nat.min_eq_right (by omega)).symm
        · cases h
  · cases h

/-- The branches come in the order of their lengths, in groups that may be empty. -/
theorem branches_eq_map {level : Nat} {terminal : Query} :
    compiler.branches term target level terminal = (List.range level).map fun k =>
      (compiler.registry.chainsOfLength (Registry.routeOf term target) k).map fun chain =>
        ⟨chain, chain.query terminal⟩ := by
  rw [branches, Registry.chains_eq_map, List.map_map]
  rfl

theorem leads_of_mem_branches {level : Nat} {terminal : Query} {branch : Branch}
    (h : branch ∈ (compiler.branches term target level terminal).flatten) :
    compiler.registry.Leads (Registry.routeOf term target) branch.chain ∧
      branch.query = branch.chain.query terminal := by
  rw [branches_eq_map] at h
  obtain ⟨group, hgroup, hbranch⟩ := List.mem_flatten.1 h
  obtain ⟨k, -, rfl⟩ := List.mem_map.1 hgroup
  obtain ⟨chain, hchain, rfl⟩ := List.mem_map.1 hbranch
  exact ⟨(Registry.mem_chainsOfLength_iff.1 hchain).2, rfl⟩

theorem grouped_branches {level : Nat} {terminal : Query} :
    Branch.Grouped level (compiler.branches term target level terminal).flatten
      ((compiler.branches term target level terminal).filter (!·.isEmpty)) where
  flatten := List.flatten_filter_not_isEmpty
  nonempty group hgroup := by simpa using (List.mem_filter.1 hgroup).2
  lengths := by
    rw [branches_eq_map, List.filter_map]
    generalize hkept : (List.range level).filter _ = kept
    refine ⟨kept.map (· + 1), ?_, ?_, ?_⟩
    · rw [List.pairwise_map, ← hkept]
      exact (List.pairwise_lt_range.filter _).imp Nat.succ_lt_succ
    · intro length hlength
      obtain ⟨k, hk, rfl⟩ := List.mem_map.1 hlength
      rw [← hkept, List.mem_filter, List.mem_range] at hk
      exact hk.1
    · rw [List.forall₂_map_left_iff, List.forall₂_map_right_iff, List.forall₂_same]
      intro k _ branch hbranch
      obtain ⟨chain, hchain, rfl⟩ := List.mem_map.1 hbranch
      exact (Registry.mem_chainsOfLength_iff.1 hchain).1

/-- The query of a related list holds the groups of branches that are not empty, and there has to be
one. -/
theorem relatedQuery_outcome {level : Nat} {terminal : Query} :
    (compiler.relatedQuery term target level terminal).outcome =
      let groups := (compiler.branches term target level terminal).filter (!·.isEmpty)
      if groups = [] then .error (.invalid (.unreachable term target level))
      else .ok (.group .any (groups.map fun group =>
        .group .any (group.map Branch.query) (some term.scope.name)) (some term.scope.name)) := by
  simp only [relatedQuery, List.isEmpty_iff]
  split <;> rfl

variable {value : Value} {levels : Levels}

theorem lookup_of_mem (hterm : term ∈ compiler.registry.terms) :
    compiler.registry.lookup term.scope term.name = .ok term :=
  Registry.lookup_eq_ok_iff.2
    (Registry.find?_eq_some_iff.2 ⟨Registry.mem_table.2 ⟨hterm, rfl⟩, rfl⟩)

/-- Without a comparison, a related list compiles to what its role asks for. -/
theorem termQuery_of_related_role {resolve : Term → Scope → Traced Query}
    (hterm : term ∈ compiler.registry.terms) (hrole : term.role = .related target declared) :
    (compiler.termQuery term.scope term.name value levels none resolve).outcome =
      (compiler.roleQuery term value levels none resolve).outcome := by
  have hpattern : term.pattern = .relatedList := by
    have hfits := term.role_fits
    rw [hrole] at hfits
    cases hpattern : term.pattern with
    | relatedList => rfl
    | _ => simp [hpattern, Role.fits] at hfits
  rw [termQuery, Traced.bind_outcome, Traced.lift_outcome, lookup_of_mem hterm, Traced.ok_bind]
  simp only [hpattern, Option.isSome_none, Bool.false_and, Bool.false_eq_true, if_false, ne_eq,
    not_true_eq_false, decide_false, Bool.and_false, Traced.bind_outcome, Traced.tell_outcome,
    Traced.pure_outcome]
  cases (compiler.roleQuery term value levels none resolve).outcome <;> rfl

/-- The branches of a term: its level is resolved, then the value. -/
theorem relatedBranches_outcome (hterm : term ∈ compiler.registry.terms)
    (hrole : term.role = .related target declared) :
    (compiler.relatedBranches (.string term.scope.name) term.name value levels).outcome =
      (compiler.levelsOf term declared levels).outcome >>= fun level =>
        (compiler.target value term target).outcome >>= fun terminal =>
          .ok (compiler.branches term target level terminal).flatten := by
  rw [relatedBranches, Traced.bind_outcome, Traced.lift_outcome, Scope.ofValue_eq_ok_iff.2 rfl,
    Traced.ok_bind, Traced.bind_outcome, Traced.lift_outcome, lookup_of_mem hterm, Traced.ok_bind,
    hrole]
  simp only [Traced.bind_outcome, Traced.pure_outcome]

theorem relatedBranches_eq_ok_iff {found : List Branch} (hterm : term ∈ compiler.registry.terms)
    (hrole : term.role = .related target declared) :
    (compiler.relatedBranches (.string term.scope.name) term.name value levels).outcome =
        .ok found ↔
      ∃ level terminal, (compiler.levelsOf term declared levels).outcome = .ok level ∧
        (compiler.target value term target).outcome = .ok terminal ∧
          (compiler.branches term target level terminal).flatten = found := by
  rw [relatedBranches_outcome hterm hrole]
  cases (compiler.levelsOf term declared levels).outcome <;>
    cases (compiler.target value term target).outcome <;> simp [bind, Except.bind]

/-- The query of a term: its level is resolved, then the value, in the same way. -/
theorem compile_outcome_related (hterm : term ∈ compiler.registry.terms)
    (hrole : term.role = .related target declared) :
    (compiler.compile (.string term.scope.name) term.name value levels).outcome =
      (compiler.levelsOf term declared levels).outcome >>= fun level =>
        (compiler.target value term target).outcome >>= fun terminal =>
          (compiler.relatedQuery term target level terminal).outcome := by
  rw [compile, Traced.bind_outcome, Traced.lift_outcome, Scope.ofValue_eq_ok_iff.2 rfl,
    Traced.ok_bind, termQuery_of_related_role hterm hrole, roleQuery, hrole]
  simp only [Traced.bind_outcome]

/-- The query and the branches of a related list agree, whatever is asked of its levels. They fail
alike; without branches there is no query either; otherwise the query is an `OR` over the lengths of
the branches, of an `OR` over the branches of each length, and every branch nests its hops from the
scope of the term to the target around the one terminal that the value stands for. -/
theorem compile_eq_relatedBranches (hterm : term ∈ compiler.registry.terms)
    (hrole : term.role = .related target declared) (value : Value) (levels : Levels) :
    let scope := Value.string term.scope.name
    let query := (compiler.compile scope term.name value levels).outcome
    let branches := (compiler.relatedBranches scope term.name value levels).outcome
    (∀ error, branches = .error error → query = .error error) ∧
      (branches = .ok [] →
        query = .error (.invalid (.unreachable term target (levels.bound declared)))) ∧
      ∀ found, found ≠ [] → branches = .ok found → ∃ groups terminal,
        query = .ok (.group .any (groups.map fun group =>
          .group .any (group.map Branch.query) (some term.scope.name)) (some term.scope.name)) ∧
        Branch.Grouped (levels.bound declared) found groups ∧
        (compiler.target value term target).outcome = .ok terminal ∧
        ∀ branch ∈ found, branch.names.length = branch.level ∧
          Query.Nests target terminal term.scope branch.names branch.query := by
  intro scope query branches
  have hquery : query = _ := compile_outcome_related hterm hrole
  have hbranches : branches = _ := relatedBranches_outcome hterm hrole
  rw [hquery, hbranches]
  cases hlevel : (compiler.levelsOf term declared levels).outcome with
  | error error => simp [bind, Except.bind]
  | ok level =>
    obtain rfl := bound_of_levelsOf hlevel
    simp only [Traced.ok_bind]
    cases hterminal : (compiler.target value term target).outcome with
    | error error => simp [bind, Except.bind]
    | ok terminal =>
      let branches := compiler.branches term target (levels.bound declared) terminal
      have hgrouped : Branch.Grouped (levels.bound declared) branches.flatten
          (branches.filter (!·.isEmpty)) := grouped_branches
      simp only [Traced.ok_bind, relatedQuery_outcome, Except.ok.injEq]
      refine ⟨fun error h => (nomatch h), fun hnil => ?_, fun found hfound h => ?_⟩
      · rw [if_pos (hgrouped.eq_nil_iff.2 hnil)]
      · subst h
        rw [if_neg fun hnil => hfound (hgrouped.eq_nil_iff.1 hnil)]
        refine ⟨_, terminal, rfl, hgrouped, rfl, fun branch hbranch => ⟨?_, ?_⟩⟩
        · simp [Branch.names, Chain.names, Branch.level]
        · obtain ⟨hleads, hchain⟩ := leads_of_mem_branches hbranch
          rw [hchain]
          exact hleads.walk.nests

end Compiler

/-! ### A registry with a cycle -/

/-- A related list of agents. -/
def Term.relatedToAgent : Term where
  declaration :=
    { scope := .agent, name := "relatedToAgent", pattern := .relatedList,
      targetScope := some .agent, inBetweenScopes := [.work], maxLevel := some 2 }
  predicates := []
  role := .related .agent 2
  checked := rfl

theorem Declaration.createdBy_checked :
    check
        { scope := .work, name := "createdBy", pattern := .hopWithField,
          predicates := ["lux(\"workCreatedBy\")"], targetScope := some .agent } =
      .ok ([⟨.lux, "workCreatedBy"⟩], .hop ⟨.lux, "workCreatedBy"⟩ .agent) := rfl

/-- A registry of agents, related to each other as members and through their works. -/
def Registry.circles : Registry where
  terms :=
    [{ declaration :=
         { scope := .agent, name := "created", pattern := .hopWithField,
           predicates := ["lux(\"agentCreated\")"], targetScope := some .work }
       predicates := [⟨.lux, "agentCreated"⟩]
       role := .hop ⟨.lux, "agentCreated"⟩ .work
       checked := rfl },
     { declaration :=
         { scope := .agent, name := "memberOf", pattern := .hopWithField,
           predicates := ["lux(\"agentMemberOf\")"], targetScope := some .agent }
       predicates := [⟨.lux, "agentMemberOf"⟩]
       role := .hop ⟨.lux, "agentMemberOf"⟩ .agent
       checked := rfl },
     .relatedToAgent,
     { declaration :=
         { scope := .work, name := "createdBy", pattern := .hopWithField,
           predicates := ["lux(\"workCreatedBy\")"], targetScope := some .agent }
       predicates := [⟨.lux, "workCreatedBy"⟩]
       role := .hop ⟨.lux, "workCreatedBy"⟩ .agent
       checked := Declaration.createdBy_checked }]
  arranged := by decide
  closed := by decide

/-- Five levels are asked for and two are expanded. -/
theorem Compiler.circles_branches :
    let compiler : Compiler := ⟨.circles, true⟩
    let levels : Levels := { maxLevel := some (.int 5) }
    Term.relatedToAgent ∈ compiler.registry.terms ∧
      Term.relatedToAgent.role = .related .agent 2 ∧
      ∃ found groups terminal, found.map Branch.key = ["memberOf", "created-createdBy"] ∧
        (compiler.relatedBranches (.string "agent") "relatedToAgent" (.string "agent:1")
          levels).outcome = .ok found ∧
        (compiler.compile (.string "agent") "relatedToAgent" (.string "agent:1") levels).outcome =
          .ok (.group .any (groups.map fun group =>
            .group .any (group.map Branch.query) (some "agent")) (some "agent")) ∧
        Branch.Grouped 2 found groups ∧
        ∀ branch ∈ found, Query.Nests .agent terminal .agent branch.names branch.query := by
  intro compiler levels
  have hterm : Term.relatedToAgent ∈ compiler.registry.terms := by decide
  have hrole : Term.relatedToAgent.role = .related .agent 2 := rfl
  have hkeys : (compiler.relatedBranches (.string "agent") "relatedToAgent" (.string "agent:1")
      levels).outcome.toOption.map (·.map Branch.key) = some ["memberOf", "created-createdBy"] := by
    decide +kernel
  obtain ⟨-, -, hquery⟩ :=
    compile_eq_relatedBranches hterm hrole (.string "agent:1") levels
  cases hfound : (compiler.relatedBranches (.string "agent") "relatedToAgent"
      (.string "agent:1") levels).outcome with
  | error error => simp [hfound, Except.toOption] at hkeys
  | ok found =>
    simp only [hfound, Except.toOption, Option.map_some, Option.some.injEq] at hkeys
    have hne : found ≠ [] := by
      rintro rfl
      cases hkeys
    obtain ⟨groups, terminal, hcompiled, hgrouped, -, hnests⟩ := hquery found hne hfound
    exact ⟨hterm, hrole, found, groups, terminal, hkeys, rfl, hcompiled, hgrouped,
      fun branch hbranch => (hnests branch hbranch).2⟩

end ScopedSearch
