import ScopedSearch.Proofs.Conformance
import ScopedSearch.Proofs.LongNumbers
import ScopedSearch.Proofs.RelatedList

/-!
# The level that is asked for

A related list is expanded up to the level that is asked for. Levels up to the declared bound only add
to what lower ones give: the branches of a level are those of a higher one that are not longer
(`Compiler.relatedBranches_outcome_eq_map`), and they come first (`Compiler.exists_longer_branches`). A
level above the bound is lowered to it or refused, and what is no level is refused; the value is not
looked at before (`Compiler.levels_bound_branches`). The message of a refusal shows what was asked for,
so a number that is too long to be shown is refused for that (`Compiler.farLevel_not_exceeded`).
-/

namespace ScopedSearch

/-- A whole number from one on. -/
def Value.IsLevel (value : Value) : Prop := ∃ n : Int, 1 ≤ n ∧ value = .int n

namespace Compiler

variable {compiler : Compiler} {term : Term} {target : Scope} {declared : Nat}

/-! ### The level that is resolved -/

theorem levelsOf_of_le {level : Nat} {clamp : Option Bool} (hpos : 1 ≤ level)
    (hle : level ≤ declared) :
    (compiler.levelsOf term declared { maxLevel := some (.int level), clamp }).outcome =
      .ok level := by
  have hleast : ¬ (level : Int) < 1 := by omega
  have hbound : (level : Int) ≤ declared := Int.ofNat_le.2 hle
  simp only [levelsOf, if_neg hleast, if_pos hbound, Int.toNat_natCast, Traced.pure_outcome]

/-- Above the bound the level is lowered to it or refused. -/
theorem levelsOf_of_lt {n : Int} {clamp : Option Bool} (hlt : declared < n) :
    (compiler.levelsOf term declared { maxLevel := some (.int n), clamp }).outcome =
      if clamp.getD compiler.clamps then .ok declared
      else .error (Error.levelExceeded term n declared).raised := by
  have hleast : ¬ n < 1 := by omega
  have hbound : ¬ n ≤ declared := Int.not_le.2 hlt
  simp only [levelsOf, if_neg hleast, if_neg hbound]
  split <;> rfl

theorem levelsOf_of_not_isLevel {given : Value} {clamp : Option Bool} (h : ¬ given.IsLevel) :
    (compiler.levelsOf term declared { maxLevel := some given, clamp }).outcome =
      .error (Error.invalid (.badLevel term given)).raised := by
  cases given with
  | int n =>
    have hleast : n < 1 := by
      by_contra hn
      exact h ⟨n, Int.not_lt.1 hn, rfl⟩
    simp only [levelsOf, if_pos hleast, Traced.refuse_outcome]
  | _ => rfl

/-! ### Lower levels come first -/

variable {level higher : Nat} {terminal : Query} {branch : Branch}

theorem level_of_mem_group {k : Nat}
    (h : branch ∈ (compiler.registry.chainsOfLength (Registry.routeOf term target) k).map
      fun chain => ⟨chain, chain.query terminal⟩) : branch.level = k + 1 := by
  obtain ⟨chain, hchain, rfl⟩ := List.mem_map.1 h
  exact (Registry.mem_chainsOfLength_iff.1 hchain).1

theorem level_le_of_mem_branches
    (h : branch ∈ (compiler.branches term target level terminal).flatten) : branch.level ≤ level := by
  rw [branches_eq_map] at h
  obtain ⟨group, hgroup, hbranch⟩ := List.mem_flatten.1 h
  obtain ⟨k, hk, rfl⟩ := List.mem_map.1 hgroup
  rw [level_of_mem_group hbranch]
  exact List.mem_range.1 hk

variable (compiler term target terminal) in
/-- A higher level adds groups of longer branches at the end. -/
theorem exists_longer_branches (hle : level ≤ higher) :
    ∃ longer : List (List Branch),
      compiler.branches term target higher terminal =
        compiler.branches term target level terminal ++ longer ∧
      ∀ branch ∈ longer.flatten, level < branch.level := by
  obtain ⟨more, rfl⟩ := Nat.exists_eq_add_of_le hle
  refine ⟨(List.range' level more).map fun k =>
    (compiler.registry.chainsOfLength (Registry.routeOf term target) k).map fun chain =>
      ⟨chain, chain.query terminal⟩, ?_, fun branch hbranch => ?_⟩
  · rw [branches_eq_map, branches_eq_map, ← List.map_append, List.range_eq_range',
      List.range_eq_range', ← List.range'_append_1, Nat.zero_add]
  · obtain ⟨group, hgroup, hbranch⟩ := List.mem_flatten.1 hbranch
    obtain ⟨k, hk, rfl⟩ := List.mem_map.1 hgroup
    rw [level_of_mem_group hbranch]
    exact Nat.lt_succ_of_le (List.mem_range'_1.1 hk).1

/-- The branches of a level are those of a higher one that are not longer, in the same order. -/
theorem filter_level_branches (hle : level ≤ higher) :
    (compiler.branches term target higher terminal).flatten.filter (·.level ≤ level) =
      (compiler.branches term target level terminal).flatten := by
  obtain ⟨longer, hbranches, hlonger⟩ := exists_longer_branches compiler term target terminal hle
  have hkept : (compiler.branches term target level terminal).flatten.filter (·.level ≤ level) =
      (compiler.branches term target level terminal).flatten :=
    List.filter_eq_self.2 fun branch hbranch => decide_eq_true (level_le_of_mem_branches hbranch)
  have hdropped : longer.flatten.filter (·.level ≤ level) = [] :=
    List.filter_eq_nil_iff.2 fun branch hbranch => by simpa using hlonger branch hbranch
  rw [hbranches, List.flatten_append, List.filter_append, hkept, hdropped, List.append_nil]

/-- The branches of a level come first among those of a higher one. -/
theorem flatten_branches_prefix (hle : level ≤ higher) :
    (compiler.branches term target level terminal).flatten <+:
      (compiler.branches term target higher terminal).flatten := by
  obtain ⟨longer, hbranches, -⟩ := exists_longer_branches compiler term target terminal hle
  rw [hbranches, List.flatten_append]
  exact List.prefix_append _ _

/-- The query of a level with branches is the beginning of the query of a higher one. -/
theorem relatedQuery_outcome_of_le (hle : level ≤ higher) {query : Query}
    (h : (compiler.relatedQuery term target level terminal).outcome = .ok query) :
    ∃ shorter longer, query = .group .any shorter (some term.scope.name) ∧
      (compiler.relatedQuery term target higher terminal).outcome =
        .ok (.group .any (shorter ++ longer) (some term.scope.name)) := by
  obtain ⟨longer, hbranches, -⟩ := exists_longer_branches compiler term target terminal hle
  rw [relatedQuery_outcome] at h ⊢
  simp only [hbranches, List.filter_append] at h ⊢
  split at h
  · cases h
  · next hne =>
    obtain rfl := Except.ok.inj h
    rw [if_neg fun hnil => hne (List.append_eq_nil_iff.1 hnil).1, List.map_append]
    exact ⟨_, _, rfl, rfl⟩

variable {value : Value} {clamp : Option Bool}

theorem relatedBranches_outcome_eq_map (hterm : term ∈ compiler.registry.terms)
    (hrole : term.role = .related target declared) (hpos : 1 ≤ level) (hle : level ≤ higher)
    (hbound : higher ≤ declared) :
    let branches (level : Nat) := (compiler.relatedBranches (.string term.scope.name) term.name value
      { maxLevel := some (.int level), clamp }).outcome
    branches level = (branches higher).map fun found => found.filter (·.level ≤ level) := by
  intro branches
  have hlower : (compiler.levelsOf term declared { maxLevel := some (.int level), clamp }).outcome =
      .ok level := levelsOf_of_le hpos (hle.trans hbound)
  have hhigher : (compiler.levelsOf term declared { maxLevel := some (.int higher), clamp }).outcome =
      .ok higher := levelsOf_of_le (hpos.trans hle) hbound
  simp only [branches, relatedBranches_outcome hterm hrole, hlower, hhigher, Traced.ok_bind]
  cases (compiler.target value term target).outcome with
  | error error => rfl
  | ok terminal => simp only [Traced.ok_bind, Except.map, filter_level_branches hle]

theorem relatedBranches_prefix (hterm : term ∈ compiler.registry.terms)
    (hrole : term.role = .related target declared) (hpos : 1 ≤ level) (hle : level ≤ higher)
    (hbound : higher ≤ declared) {found : List Branch}
    (h : (compiler.relatedBranches (.string term.scope.name) term.name value
      { maxLevel := some (.int higher), clamp }).outcome = .ok found) :
    found.filter (·.level ≤ level) <+: found := by
  obtain ⟨resolved, terminal, hlevel, -, rfl⟩ := (relatedBranches_eq_ok_iff hterm hrole).1 h
  rw [levelsOf_of_le (hpos.trans hle) hbound] at hlevel
  obtain rfl := Except.ok.inj hlevel
  rw [filter_level_branches hle]
  exact flatten_branches_prefix hle

theorem compile_outcome_of_le (hterm : term ∈ compiler.registry.terms)
    (hrole : term.role = .related target declared) (hpos : 1 ≤ level) (hle : level ≤ higher)
    (hbound : higher ≤ declared) {query : Query}
    (h : (compiler.compile (.string term.scope.name) term.name value
      { maxLevel := some (.int level), clamp }).outcome = .ok query) :
    ∃ shorter longer, query = .group .any shorter (some term.scope.name) ∧
      (compiler.compile (.string term.scope.name) term.name value
        { maxLevel := some (.int higher), clamp }).outcome =
          .ok (.group .any (shorter ++ longer) (some term.scope.name)) := by
  rw [compile_outcome_related hterm hrole] at h ⊢
  rw [levelsOf_of_le hpos (hle.trans hbound), Traced.ok_bind, bind_eq_ok_iff] at h
  obtain ⟨terminal, hterminal, hquery⟩ := h
  rw [levelsOf_of_le (hpos.trans hle) hbound, Traced.ok_bind, hterminal, Traced.ok_bind]
  exact relatedQuery_outcome_of_le hle hquery

/-- Both ways to expand a related list do the same when the same levels are resolved, and fail with
the error of the levels before they look at the value. -/
theorem outcomes_of_levelsOf (hterm : term ∈ compiler.registry.terms)
    (hrole : term.role = .related target declared) {levels other : Levels}
    (h : (compiler.levelsOf term declared levels).outcome =
      (compiler.levelsOf term declared other).outcome) :
    (compiler.compile (.string term.scope.name) term.name value levels).outcome =
        (compiler.compile (.string term.scope.name) term.name value other).outcome ∧
      (compiler.relatedBranches (.string term.scope.name) term.name value levels).outcome =
        (compiler.relatedBranches (.string term.scope.name) term.name value other).outcome := by
  simp only [compile_outcome_related hterm hrole, relatedBranches_outcome hterm hrole, h, and_self]

theorem outcomes_of_levelsOf_error (hterm : term ∈ compiler.registry.terms)
    (hrole : term.role = .related target declared) {levels : Levels} {error : Error}
    (h : (compiler.levelsOf term declared levels).outcome = .error error) :
    (compiler.compile (.string term.scope.name) term.name value levels).outcome = .error error ∧
      (compiler.relatedBranches (.string term.scope.name) term.name value levels).outcome =
        .error error := by
  rw [compile_outcome_related hterm hrole, relatedBranches_outcome hterm hrole, h]
  exact ⟨rfl, rfl⟩

/-- The level that is asked for bounds the branches. Up to the declared bound a higher level compiles
if a lower one does, to a query that begins with the same groups, and the branches of the lower one are
those of the higher one that are not longer, which come first. Above the bound the level is lowered to
it or refused, and what is no level is refused, whatever the value is; a number that is too long to be
shown takes the place of what a refusal would say. -/
theorem levels_bound_branches (hterm : term ∈ compiler.registry.terms)
    (hrole : term.role = .related target declared) (value : Value) (clamp : Option Bool) :
    let compiled (level : Value) := (compiler.compile (.string term.scope.name) term.name value
      { maxLevel := some level, clamp }).outcome
    let branches (level : Value) := (compiler.relatedBranches (.string term.scope.name) term.name value
      { maxLevel := some level, clamp }).outcome
    (∀ level higher : Nat, 1 ≤ level → level ≤ higher → higher ≤ declared →
      (∀ query, compiled (.int level) = .ok query → ∃ shorter longer,
        query = .group .any shorter (some term.scope.name) ∧
          compiled (.int higher) = .ok (.group .any (shorter ++ longer) (some term.scope.name))) ∧
      branches (.int level) =
        (branches (.int higher)).map (fun found => found.filter (·.level ≤ level)) ∧
      ∀ found, branches (.int higher) = .ok found → found.filter (·.level ≤ level) <+: found) ∧
    (∀ n : Int, declared < n → clamp.getD compiler.clamps = true →
      compiled (.int n) = compiled (.int declared) ∧
        branches (.int n) = branches (.int declared)) ∧
    (∀ n : Int, declared < n → clamp.getD compiler.clamps = false →
      (¬ (Value.int n).IsLong → compiled (.int n) = .error (.levelExceeded term n declared) ∧
        branches (.int n) = .error (.levelExceeded term n declared)) ∧
      ((Value.int n).IsLong → compiled (.int n) = .error (.misuse .numeralTooLong) ∧
        branches (.int n) = .error (.misuse .numeralTooLong))) ∧
    ∀ given : Value, ¬ given.IsLevel →
      (¬ given.IsLong → compiled given = .error (.invalid (.badLevel term given)) ∧
        branches given = .error (.invalid (.badLevel term given))) ∧
      (given.IsLong → compiled given = .error (.misuse .numeralTooLong) ∧
        branches given = .error (.misuse .numeralTooLong)) := by
  intro compiled branches
  refine ⟨fun level higher hpos hle hbound => ⟨fun query => ?_, ?_, fun found => ?_⟩,
    fun n hlt hclamp => ?_, fun n hlt hclamp => ?_, fun given hgiven => ?_⟩
  · exact compile_outcome_of_le hterm hrole hpos hle hbound
  · exact relatedBranches_outcome_eq_map hterm hrole hpos hle hbound
  · exact relatedBranches_prefix hterm hrole hpos hle hbound
  · have hpos := Term.declared_pos hrole
    apply outcomes_of_levelsOf hterm hrole
    rw [levelsOf_of_lt hlt, if_pos hclamp, levelsOf_of_le hpos (Nat.le_refl _)]
  · have hlevels : (compiler.levelsOf term declared { maxLevel := some (.int n), clamp }).outcome =
        .error (Error.levelExceeded term n declared).raised := by
      rw [levelsOf_of_lt hlt, hclamp, if_neg Bool.false_ne_true]
    have hrefused : compiled (.int n) = _ ∧ branches (.int n) = _ :=
      outcomes_of_levelsOf_error hterm hrole hlevels
    refine ⟨fun hshort => ?_, fun hlong => ?_⟩
    · rwa [Error.raised_levelExceeded hlt hshort] at hrefused
    · rwa [Error.raised_levelExceeded_of_isLong hlt hlong] at hrefused
  · have hrefused : compiled given = _ ∧ branches given = _ :=
      outcomes_of_levelsOf_error hterm hrole (levelsOf_of_not_isLevel hgiven)
    refine ⟨fun hshort => ?_, fun hlong => ?_⟩
    · rwa [Error.raised_invalid_of_shown rfl hshort] at hrefused
    · rwa [Error.raised_invalid_of_isLong rfl hlong] at hrefused

/-- Agents related to an agent at one level and at the two that are declared; at five levels they are
those at two, or refused, and a truth value is no level. -/
theorem circles_levels :
    let compiler : Compiler := ⟨.circles, true⟩
    let levels (level : Value) (clamp : Option Bool) : Levels := { maxLevel := some level, clamp }
    let compiled (level : Value) (clamp : Option Bool) :=
      (compiler.compile (.string "agent") "relatedToAgent" (.string "agent:1")
        (levels level clamp)).outcome
    let branches (level : Value) (clamp : Option Bool) :=
      (compiler.relatedBranches (.string "agent") "relatedToAgent" (.string "agent:1")
        (levels level clamp)).outcome
    (Term.relatedToAgent ∈ compiler.registry.terms ∧
      Term.relatedToAgent.role = .related .agent 2) ∧
    (∃ shorter longer, compiled (.int 1) none = .ok (.group .any shorter (some "agent")) ∧
      compiled (.int 2) none = .ok (.group .any (shorter ++ longer) (some "agent"))) ∧
    (branches (.int 1) none).toOption.map (·.map Branch.key) = some ["memberOf"] ∧
    branches (.int 1) none =
      (branches (.int 2) none).map (fun found => found.filter (·.level ≤ 1)) ∧
    branches (.int 5) none = branches (.int 2) none ∧
    branches (.int 5) (some false) = .error (.levelExceeded .relatedToAgent 5 2) ∧
    branches (.bool true) none = .error (.invalid (.badLevel .relatedToAgent (.bool true))) := by
  intro compiler levels compiled branches
  have hterm : Term.relatedToAgent ∈ compiler.registry.terms := by decide
  have hrole : Term.relatedToAgent.role = .related .agent 2 := rfl
  obtain ⟨hlower, hclamped, -, hrefused⟩ :=
    levels_bound_branches hterm hrole (.string "agent:1") none
  obtain ⟨-, -, hexceeded, -⟩ :=
    levels_bound_branches hterm hrole (.string "agent:1") (some false)
  obtain ⟨hcompiled, hbranches, -⟩ := hlower 1 2 (by decide) (by decide) (by decide)
  have hquery : (compiled (.int 1) none).toOption.isSome = true := by decide +kernel
  obtain ⟨query, hquery⟩ := Option.isSome_iff_exists.1 hquery
  obtain ⟨shorter, longer, rfl, hlonger⟩ := hcompiled query (toOption_eq_some_iff.1 hquery)
  have hbool : ¬ (Value.bool true).IsLevel := by
    rintro ⟨n, -, h⟩
    cases h
  have hfive : ¬ (Value.int 5).IsLong :=
    Value.not_isLong_int_iff.2 (by decide)
  exact ⟨⟨hterm, hrole⟩, ⟨shorter, longer, toOption_eq_some_iff.1 hquery, hlonger⟩,
    by decide +kernel, hbranches, (hclamped 5 (by decide) rfl).2, ((hexceeded 5 (by decide) rfl).1 hfive).2,
    ((hrefused _ hbool).1 (Value.not_isLong_bool true)).2⟩

/-- A level that is too long to be shown is above the bound, but is not refused for that. -/
theorem farLevel_not_exceeded :
    let compiler : Compiler := ⟨.circles, false⟩
    let compiled := (compiler.compile (.string "agent") "relatedToAgent" (.string "agent:1")
      { maxLevel := some (.int Numeral.leastLong) }).outcome
    Term.relatedToAgent ∈ compiler.registry.terms ∧
      Term.relatedToAgent.role = .related .agent 2 ∧ 2 < Numeral.leastLong ∧
      compiled = .error (.misuse .numeralTooLong) ∧
      compiled ≠ .error (.levelExceeded .relatedToAgent Numeral.leastLong 2) := by
  intro compiler compiled
  have hterm : Term.relatedToAgent ∈ compiler.registry.terms := by decide
  have hrole : Term.relatedToAgent.role = .related .agent 2 := rfl
  have habove : ((2 : Nat) : Int) < Numeral.leastLong := Numeral.lt_leastLong (by decide)
  have hlevels : (compiler.levelsOf .relatedToAgent 2
      { maxLevel := some (.int Numeral.leastLong) }).outcome = .error (.misuse .numeralTooLong) := by
    rw [levelsOf_of_lt habove, Error.raised_levelExceeded_of_isLong habove Value.isLong_leastLong]
    exact if_neg Bool.false_ne_true
  have hcompiled : compiled = .error (.misuse .numeralTooLong) :=
    (outcomes_of_levelsOf_error hterm hrole hlevels).1
  refine ⟨hterm, hrole, habove, hcompiled, fun h => ?_⟩
  rw [hcompiled] at h
  cases h

end Compiler

end ScopedSearch
