import ScopedSearch.Proofs.ChainOrder
import Mathlib.Data.List.Chain
import Mathlib.Data.List.Forall2
import Mathlib.Data.List.Permutation

/-!
# The strict order of chains

Where a chain stands is told by two tuples: the last positions of the scopes it passes among the scopes
in between, and the positions of its hops among those that leave the same scope
(`Registry.StandsAt`). A chain is before another if its first tuple is less than that of the other, in
the lexicographic order, or if these are the same and its second tuple is less (`Registry.Before`). Every
chain of a route stands somewhere, chains of one length are compared as their ranks are
(`Registry.before_iff_rank_lex`), and no two of them stand at the same place; so a group has only one
strictly increasing arrangement, and comes in it (`Registry.chains_strictly_ordered`).
-/

namespace ScopedSearch

/-! ### Lexicographic order -/

/-- The order of ranks is the lexicographic one. -/
theorem rankLE_iff_lex_or_eq {a b : List Nat} :
    rankLE a b = true ↔ List.Lex (· < ·) a b ∨ a = b := by
  induction a generalizing b with
  | nil =>
    cases b with
    | nil => simp [rankLE]
    | cons y ys => exact iff_of_true rfl (.inl .nil)
  | cons x xs ih =>
    cases b with
    | nil => simp [rankLE]
    | cons y ys =>
      rw [List.cons_lex_cons_iff, List.cons.injEq, or_assoc, ← and_or_left, ← ih]
      simp [rankLE]

/-- Lists that begin with lists of one length are compared by these first. -/
theorem append_lex_append_iff {a b c d : List Nat} (h : a.length = b.length) :
    List.Lex (· < ·) (a ++ c) (b ++ d) ↔
      List.Lex (· < ·) a b ∨ a = b ∧ List.Lex (· < ·) c d := by
  induction a generalizing b with
  | nil =>
    obtain rfl := List.length_eq_zero_iff.1 h.symm
    simp [List.not_lex_nil]
  | cons x xs ih =>
    cases b with
    | nil => cases h
    | cons y ys =>
      have hrest := ih (Nat.succ.inj h)
      simp only [List.cons_append, List.cons_lex_cons_iff, hrest, List.cons.injEq]
      tauto

/-! ### Positions -/

/-- The position is the last one of the scope in the list. -/
def LastAt (scopes : List Scope) (scope : Scope) (position : Nat) : Prop :=
  scopes[position]? = some scope ∧ ∀ later, position < later → scopes[later]? ≠ some scope

theorem lastAt_of_lastPosition? {scopes : List Scope} {scope : Scope} {position : Nat}
    (h : lastPosition? scopes scope = some position) : LastAt scopes scope position := by
  induction scopes generalizing position with
  | nil => cases h
  | cons first rest ih =>
    rw [lastPosition?] at h
    cases hrest : lastPosition? rest scope with
    | some found =>
      rw [hrest] at h
      obtain rfl := Option.some.inj h
      obtain ⟨hfound, hlast⟩ := ih hrest
      refine ⟨hfound, ?_⟩
      intro later hlater
      obtain ⟨later, rfl⟩ := Nat.exists_eq_add_one_of_ne_zero (Nat.ne_zero_of_lt hlater)
      exact hlast later (Nat.lt_of_succ_lt_succ hlater)
    | none =>
      rw [hrest] at h
      dsimp only at h
      split at h
      · next hfirst =>
        obtain rfl := Option.some.inj h
        refine ⟨congrArg some hfirst, ?_⟩
        intro later hlater hscope
        obtain ⟨later, rfl⟩ := Nat.exists_eq_add_one_of_ne_zero (Nat.ne_zero_of_lt hlater)
        rw [List.getElem?_cons_succ] at hscope
        have hsome := Registry.isSome_lastPosition? (List.mem_of_getElem? hscope)
        rw [hrest] at hsome
        cases hsome
      · cases h

theorem LastAt.unique {scopes : List Scope} {scope : Scope} {i j : Nat}
    (hi : LastAt scopes scope i) (hj : LastAt scopes scope j) : i = j := by
  rcases Nat.lt_trichotomy i j with hlt | heq | hlt
  · exact absurd hj.1 (hi.2 j hlt)
  · exact heq
  · exact absurd hi.1 (hj.2 i hlt)

namespace Chain

/-- The hops of a chain, each with the scope that it leaves. -/
def steps (origin : Scope) (chain : Chain) : List (Scope × Hop) := (chain.scopes origin).zip chain

theorem steps_cons (origin : Scope) (hop : Hop) (rest : Chain) :
    steps origin (hop :: rest) = (origin, hop) :: steps hop.target rest := rfl

end Chain

namespace Registry

variable {registry : Registry} {route : Route}

/-- Where a chain of a route stands: the last positions of the scopes that it passes among the scopes
in between, and the positions of its hops among those that leave the same scope. -/
structure StandsAt (registry : Registry) (route : Route) (chain : Chain)
    (positions : List Nat × List Nat) : Prop where
  scopes : List.Forall₂ (LastAt route.between) chain.passed positions.1
  hops : List.Forall₂ (fun step position => (registry.hopsFrom step.1)[position]? = some step.2)
    (chain.steps route.origin) positions.2

/-- The chain stands before the other: the scopes that they pass decide first, then their hops. -/
def Before (registry : Registry) (route : Route) (chain other : Chain) : Prop :=
  ∃ positions positions', registry.StandsAt route chain positions ∧
    registry.StandsAt route other positions' ∧
    (List.Lex (· < ·) positions.1 positions'.1 ∨
      positions.1 = positions'.1 ∧ List.Lex (· < ·) positions.2 positions'.2)

theorem getElem?_hopPosition_self {hop : Hop} (h : hop ∈ registry.hopsFrom hop.source) :
    (registry.hopsFrom hop.source)[registry.hopPosition hop]? = some hop := by
  obtain ⟨other, hother, hname⟩ := getElem?_hopPosition h
  rw [hother, eq_of_mem_hopsFrom (List.mem_of_getElem? hother) h hname]

theorem Walk.forall₂_hopPosition {source target : Scope} {chain : Chain}
    (h : registry.Walk source chain target) :
    List.Forall₂ (fun step position => (registry.hopsFrom step.1)[position]? = some step.2)
      (chain.steps source) (chain.map registry.hopPosition) := by
  induction h with
  | nil => exact .nil
  | cons hmem _ ih =>
    obtain rfl := scope_of_mem_hopsFrom hmem
    rw [Chain.steps_cons, List.map_cons]
    exact .cons (getElem?_hopPosition_self hmem) ih

/-- A chain of a route stands at the positions that its rank consists of. -/
theorem Leads.standsAt {chain : Chain} (h : registry.Leads route chain) :
    registry.StandsAt route chain
      (chain.passed.map route.position, chain.map registry.hopPosition) where
  scopes := by
    rw [List.forall₂_map_right_iff, List.forall₂_same]
    intro scope hscope
    obtain ⟨position, hposition⟩ :=
      Option.isSome_iff_exists.1 (Registry.isSome_lastPosition? (h.between scope hscope).1)
    rw [Route.position, hposition]
    exact lastAt_of_lastPosition? hposition
  hops := h.walk.forall₂_hopPosition

/-- A chain stands at one place only. -/
theorem StandsAt.unique {chain : Chain} {positions positions' : List Nat × List Nat}
    (h : registry.StandsAt route chain positions) (h' : registry.StandsAt route chain positions') :
    positions = positions' := by
  apply Prod.ext
  · exact List.right_unique_forall₂' (fun _ _ _ hi hj => hi.unique hj) h.scopes h'.scopes
  · apply List.right_unique_forall₂' ?_ h.hops h'.hops
    intro step i j hi hj
    obtain ⟨hlt, -⟩ := List.getElem?_eq_some_iff.1 hi
    exact (List.getElem?_inj hlt (hopsFrom_nodup step.1)).1 (hi.trans hj.symm)

theorem before_iff_of_standsAt {chain other : Chain} {positions positions' : List Nat × List Nat}
    (h : registry.StandsAt route chain positions) (h' : registry.StandsAt route other positions') :
    registry.Before route chain other ↔
      List.Lex (· < ·) positions.1 positions'.1 ∨
        positions.1 = positions'.1 ∧ List.Lex (· < ·) positions.2 positions'.2 := by
  constructor
  · rintro ⟨_, _, hchain, hother, hlt⟩
    obtain rfl := h.unique hchain
    obtain rfl := h'.unique hother
    exact hlt
  · intro hlt
    exact ⟨_, _, h, h', hlt⟩

theorem Before.trans {a b c : Chain} (hab : registry.Before route a b)
    (hbc : registry.Before route b c) : registry.Before route a c := by
  obtain ⟨first, second, ha, hb, hlt⟩ := hab
  obtain ⟨second', third, hb', hc, hlt'⟩ := hbc
  obtain rfl := hb.unique hb'
  refine ⟨first, third, ha, hc, ?_⟩
  rcases hlt with hlt | ⟨heq, hlt⟩
  · left
    rcases hlt' with hlt' | ⟨heq', -⟩
    · exact List.lex_trans Nat.lt_trans hlt hlt'
    · exact heq' ▸ hlt
  · rcases hlt' with hlt' | ⟨heq', hlt'⟩
    · left
      exact heq ▸ hlt'
    · right
      exact ⟨heq.trans heq', List.lex_trans Nat.lt_trans hlt hlt'⟩

/-- Chains of one length are compared as their ranks are. -/
theorem before_iff_rank_lex {chain other : Chain} (h : registry.Leads route chain)
    (h' : registry.Leads route other) (hlength : chain.length = other.length) :
    registry.Before route chain other ↔
      List.Lex (· < ·) (registry.rank route chain) (registry.rank route other) := by
  rw [before_iff_of_standsAt h.standsAt h'.standsAt, rank, rank, append_lex_append_iff]
  simp [Chain.passed, hlength]

/-! ### Groups -/

theorem chainsOfLength_pairwise_before (k : Nat) :
    (registry.chainsOfLength route k).Pairwise (registry.Before route) := by
  have hranked : registry.Ranked route (registry.chainsOfLength route k) := chainsOfLength_ranked k
  refine (hranked.and (chainsOfLength_nodup k)).imp_of_mem ?_
  rintro a b ha hb ⟨hle, hne⟩
  obtain ⟨hlength, hleads⟩ := mem_chainsOfLength_iff.1 ha
  obtain ⟨hlength', hleads'⟩ := mem_chainsOfLength_iff.1 hb
  have hsame : a.length = b.length := hlength.trans hlength'.symm
  rw [before_iff_rank_lex hleads hleads' hsame]
  rcases rankLE_iff_lex_or_eq.1 hle with hlt | heq
  · exact hlt
  · exact absurd (hleads.walk.eq_of_rank_eq hleads'.walk hsame heq) hne

/-- Consecutive chains decide the arrangement. -/
theorem eq_chainsOfLength_of_isChain {k : Nat} {chains : List Chain}
    (hperm : chains.Perm (registry.chainsOfLength route k))
    (hchain : chains.IsChain (registry.Before route)) : chains = registry.chainsOfLength route k := by
  have htrans : Trans (registry.Before route) (registry.Before route) (registry.Before route) :=
    ⟨Before.trans⟩
  apply eq_chainsOfLength hperm
  refine hchain.pairwise.imp_of_mem ?_
  intro a b ha hb hbefore
  obtain ⟨hlength, hleads⟩ := mem_chainsOfLength_iff.1 (hperm.mem_iff.1 ha)
  obtain ⟨hlength', hleads'⟩ := mem_chainsOfLength_iff.1 (hperm.mem_iff.1 hb)
  rw [before_iff_rank_lex hleads hleads' (hlength.trans hlength'.symm)] at hbefore
  exact rankLE_iff_lex_or_eq.2 (.inl hbefore)

theorem exists_eq_chainsOfLength {maxLevel : Nat} {chains : List Chain}
    (h : chains ∈ registry.chains route maxLevel) :
    ∃ k, chains = registry.chainsOfLength route k := by
  rw [chains_eq_map] at h
  obtain ⟨k, -, rfl⟩ := List.mem_map.1 h
  exact ⟨k, rfl⟩

/-- The chains of a group come in a strict order that leaves nothing open: every chain stands at exactly
one place, before all the chains that follow it, no two stand at the same place, and the group is the
only arrangement of its chains in which each stands before the next. -/
theorem chains_strictly_ordered {maxLevel : Nat} {chains : List Chain}
    (h : chains ∈ registry.chains route maxLevel) :
    (∀ chain ∈ chains, ∃! positions, registry.StandsAt route chain positions) ∧
      chains.Pairwise (registry.Before route) ∧
      (∀ chain ∈ chains, ∀ other ∈ chains, ∀ positions, registry.StandsAt route chain positions →
        registry.StandsAt route other positions → chain = other) ∧
      ∀ other : List Chain, other.Perm chains → other.IsChain (registry.Before route) →
        other = chains := by
  obtain ⟨k, rfl⟩ := exists_eq_chainsOfLength h
  refine ⟨?_, chainsOfLength_pairwise_before k, ?_, ?_⟩
  · intro chain hchain
    obtain ⟨-, hleads⟩ := mem_chainsOfLength_iff.1 hchain
    exact ⟨_, hleads.standsAt, fun _ hpositions => hpositions.unique hleads.standsAt⟩
  · intro chain hchain other hother positions hstands hstands'
    obtain ⟨hlength, hleads⟩ := mem_chainsOfLength_iff.1 hchain
    obtain ⟨hlength', hleads'⟩ := mem_chainsOfLength_iff.1 hother
    have hpositions := hleads.standsAt.unique hstands
    have hpositions' := hleads'.standsAt.unique hstands'
    have hrank : registry.rank route chain = registry.rank route other := by
      have heq := hpositions.trans hpositions'.symm
      rw [Prod.mk.injEq] at heq
      rw [rank, rank, heq.1, heq.2]
    exact hleads.walk.eq_of_rank_eq hleads'.walk (hlength.trans hlength'.symm) hrank
  · intro other hperm hchain
    exact eq_chainsOfLength_of_isChain hperm hchain

/-- Agents and what they curate, print and illustrate. -/
def curators : Registry where
  terms :=
    [{ declaration :=
         { scope := .agent, name := "illustrated", pattern := .hopWithField,
           predicates := ["lux(\"agentIllustrated\")"], targetScope := some .work }
       predicates := [⟨.lux, "agentIllustrated"⟩]
       role := .hop ⟨.lux, "agentIllustrated"⟩ .work
       checked := rfl },
     { declaration :=
         { scope := .agent, name := "printed", pattern := .hopWithField,
           predicates := ["lux(\"agentPrinted\")"], targetScope := some .work }
       predicates := [⟨.lux, "agentPrinted"⟩]
       role := .hop ⟨.lux, "agentPrinted"⟩ .work
       checked := rfl },
     { declaration :=
         { scope := .agent, name := "curated", pattern := .hopWithField,
           predicates := ["lux(\"agentCurated\")"], targetScope := some .set }
       predicates := [⟨.lux, "agentCurated"⟩]
       role := .hop ⟨.lux, "agentCurated"⟩ .set
       checked := rfl },
     { declaration :=
         { scope := .set, name := "curatedBy", pattern := .hopWithField,
           predicates := ["lux(\"setCuratedBy\")"], targetScope := some .agent }
       predicates := [⟨.lux, "setCuratedBy"⟩]
       role := .hop ⟨.lux, "setCuratedBy"⟩ .agent
       checked := rfl },
     { declaration :=
         { scope := .work, name := "printedBy", pattern := .hopWithField,
           predicates := ["lux(\"workPrintedBy\")"], targetScope := some .agent }
       predicates := [⟨.lux, "workPrintedBy"⟩]
       role := .hop ⟨.lux, "workPrintedBy"⟩ .agent
       checked := rfl }]
  arranged := by decide
  closed := by decide

/-- Works are named before sets and again after them: the chain through a set comes first, and those
through works in the order of their first hops. -/
theorem curators_ordered :
    let route : Route := ⟨.agent, .agent, [.work, .set, .work]⟩
    ∃ chains ∈ curators.chains route 2,
      chains.map Chain.key = ["curated-curatedBy", "illustrated-printedBy", "printed-printedBy"] ∧
      chains.Pairwise (curators.Before route) ∧
      ∀ other : List Chain, other.Perm chains → other.IsChain (curators.Before route) →
        other = chains := by
  intro route
  have hkeys : (curators.chains route 2)[1]?.map (·.map Chain.key) =
      some ["curated-curatedBy", "illustrated-printedBy", "printed-printedBy"] := by cbv
  obtain ⟨chains, hchains, hkeys⟩ := Option.map_eq_some_iff.1 hkeys
  have hmem : chains ∈ curators.chains route 2 := List.mem_of_getElem? hchains
  obtain ⟨-, hordered, -, honly⟩ := chains_strictly_ordered hmem
  exact ⟨chains, hmem, hkeys, hordered, honly⟩

end Registry

end ScopedSearch
