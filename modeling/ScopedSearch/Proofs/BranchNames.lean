import ScopedSearch.Proofs.ChainOrder
import ScopedSearch.Proofs.RelatedList
import ScopedSearch.Text.Split

/-!
# Branches told apart by their names

Names are not unique across scopes, but each hop of a chain leaves the scope that the hop before it leads
to, and the hops from one scope have different names: so the names of a walk tell which walk from its
origin it is (`Registry.Walk.eq_of_names`). A group holds no chain twice and groups differ in length, so
that no two branches of an expansion have the same names. The key of a branch is cut into these names
as long as no name holds a hyphen (`Registry.Leads.splitText_key`), and tells the branches apart as well
(`Compiler.branches_told_apart`).
-/

namespace ScopedSearch

open ScopedSearch.Text

namespace Registry

variable {registry : Registry} {route : Route}

/-- Walks from one scope are told apart by the names of their hops: the first name tells the first hop,
and with it the scope in which the next name is looked up. -/
theorem Walk.eq_of_names {source target other : Scope} {chain another : Chain}
    (h : registry.Walk source chain target) (hother : registry.Walk source another other)
    (hnames : chain.names = another.names) : chain = another := by
  induction h generalizing another with
  | nil => exact (List.map_eq_nil_iff.1 hnames.symm).symm
  | @cons source target hop rest hmem _ ih =>
    cases hother with
    | nil => cases hnames
    | @cons _ _ first others hfirst hrest =>
      obtain ⟨hname, hothers⟩ := List.cons.inj hnames
      obtain rfl := eq_of_mem_hopsFrom hmem hfirst hname
      rw [ih hrest hothers]

/-- Groups of different lengths have no chain in common. -/
theorem nodup_flatten_chains (maxLevel : Nat) : (registry.chains route maxLevel).flatten.Nodup := by
  rw [chains_eq_map, ← List.flatMap_def, List.nodup_flatMap]
  refine ⟨fun k _ => chainsOfLength_nodup k, List.nodup_range.imp fun {j k} hne chain hj hk => ?_⟩
  have hlength := (mem_chainsOfLength_iff.1 hj).1.symm.trans (mem_chainsOfLength_iff.1 hk).1
  exact hne (Nat.succ.inj hlength)

/-- The names of a chain are what its key is cut into at the hyphens, if there is none in them. -/
theorem Leads.splitText_key {chain : Chain} (h : registry.Leads route chain)
    (hnames : ∀ scope, ∀ hop ∈ registry.hopsFrom scope, '-' ∉ hop.name.toList) :
    splitText '-' chain.key = chain.names := by
  refine splitText_intercalate rfl (mt List.map_eq_nil_iff.1 h.nonempty) fun name hname => ?_
  obtain ⟨hop, hhop, rfl⟩ := List.mem_map.1 hname
  exact hnames _ hop (h.walk.mem_hopsFrom hhop)

end Registry

namespace Compiler

variable {compiler : Compiler} {term : Term} {target : Scope} {level : Nat} {terminal : Query}

theorem map_chain_branches :
    (compiler.branches term target level terminal).flatten.map Branch.chain =
      (compiler.registry.chains (Registry.routeOf term target) level).flatten := by
  rw [branches, List.map_flatten, List.map_map]
  congr 1
  exact List.map_id'' (fun chains => by simp [Function.comp_def]) _

theorem nodup_names_branches :
    ((compiler.branches term target level terminal).flatten.map Branch.names).Nodup := by
  have hnodup : ((compiler.branches term target level terminal).flatten.map Branch.chain).Nodup := by
    rw [map_chain_branches]
    exact Registry.nodup_flatten_chains level
  have hnames : (compiler.branches term target level terminal).flatten.map Branch.names =
      ((compiler.branches term target level terminal).flatten.map Branch.chain).map Chain.names := by
    rw [List.map_map]
    rfl
  rw [hnames]
  refine hnodup.map_on fun chain hchain another hanother h => ?_
  obtain ⟨branch, hbranch, rfl⟩ := List.mem_map.1 hchain
  obtain ⟨other, hother, rfl⟩ := List.mem_map.1 hanother
  exact (leads_of_mem_branches hbranch).1.walk.eq_of_names (leads_of_mem_branches hother).1.walk h

/-- The branches of an expansion have different names. If no name of a hop holds a hyphen, their keys
differ as well, and the key of each branch is cut at the hyphens into its names. -/
theorem branches_told_apart (hterm : term ∈ compiler.registry.terms) {declared : Nat}
    (hrole : term.role = .related target declared) {value : Value} {levels : Levels}
    {found : List Branch}
    (hfound : (compiler.relatedBranches (.string term.scope.name) term.name value levels).outcome =
      .ok found) :
    (found.map Branch.names).Nodup ∧
      ((∀ scope, ∀ hop ∈ compiler.registry.hopsFrom scope, '-' ∉ hop.name.toList) →
        (found.map Branch.key).Nodup ∧
          ∀ branch ∈ found, splitText '-' branch.key = branch.names) := by
  obtain ⟨level, terminal, -, -, hbranches⟩ := (relatedBranches_eq_ok_iff hterm hrole).1 hfound
  have hnodup : (found.map Branch.names).Nodup := hbranches ▸ nodup_names_branches
  refine ⟨hnodup, fun hnames => ?_⟩
  have hcut : ∀ branch ∈ found, splitText '-' branch.key = branch.names := by
    intro branch hbranch
    rw [← hbranches] at hbranch
    exact (leads_of_mem_branches hbranch).1.splitText_key hnames
  refine ⟨?_, hcut⟩
  -- Keys that are the same are cut into the same names.
  have hsplit : (found.map Branch.key).map (splitText '-') = found.map Branch.names := by
    rw [List.map_map]
    exact List.map_congr_left hcut
  exact (hsplit ▸ hnodup).of_map _

/-- The agents related to an agent: members of it, and makers of what it made. -/
theorem circles_told_apart :
    let compiler : Compiler := ⟨.circles, true⟩
    Term.relatedToAgent ∈ compiler.registry.terms ∧
      Term.relatedToAgent.role = .related .agent 2 ∧
      (∀ scope, ∀ hop ∈ compiler.registry.hopsFrom scope, '-' ∉ hop.name.toList) ∧
      ∃ found, (compiler.relatedBranches (.string "agent") "relatedToAgent" (.string "agent:1")
          {}).outcome = .ok found ∧
        found.map Branch.names = [["memberOf"], ["created", "createdBy"]] ∧
        (found.map Branch.names).Nodup ∧ (found.map Branch.key).Nodup ∧
        ∀ branch ∈ found, splitText '-' branch.key = branch.names := by
  intro compiler
  have hterm : Term.relatedToAgent ∈ compiler.registry.terms := by decide
  have hrole : Term.relatedToAgent.role = .related .agent 2 := rfl
  have hnames : ∀ scope, ∀ hop ∈ compiler.registry.hopsFrom scope, '-' ∉ hop.name.toList := by
    intro scope
    cases scope <;> decide +kernel
  have hbranches : (compiler.relatedBranches (.string "agent") "relatedToAgent" (.string "agent:1")
      {}).outcome.toOption.map (·.map Branch.names) =
        some [["memberOf"], ["created", "createdBy"]] := by
    decide +kernel
  obtain ⟨found, hfound, hlist⟩ := Option.map_eq_some_iff.1 hbranches
  rw [toOption_eq_some_iff] at hfound
  obtain ⟨hnodup, hkeys⟩ := branches_told_apart hterm hrole hfound
  exact ⟨hterm, hrole, hnames, found, hfound, hlist, hnodup, hkeys hnames⟩

end Compiler

end ScopedSearch
