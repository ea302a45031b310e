import ScopedSearch.Chain
import Mathlib.Data.List.Nodup
import Mathlib.Data.List.Range

/-!
# Walks in the graph of scopes

A walk is a chain whose hops each leave the scope that the hop before led to (`Registry.Walk`). The
chains that a route asks for are its walks which pass allowed scopes only (`Registry.Leads`). The
search for them is brought into a form without a loop: group `k` is sorted out of the walks that
extend the partial chains of length `k` (`Registry.chains_eq_map`), and those are exactly the
walks of that length all of whose ends are allowed (`Registry.mem_partials_iff`). Hence each group
holds exactly the chains of its length, each once (`Registry.chains_exact`).
-/

namespace ScopedSearch

namespace Chain

@[simp] theorem destination_nil (origin : Scope) : destination origin [] = origin := rfl

@[simp] theorem destination_concat (origin : Scope) (chain : Chain) (hop : Hop) :
    destination origin (chain ++ [hop]) = hop.target := by
  simp [destination]

@[simp] theorem passed_concat (chain : Chain) (hop : Hop) :
    passed (chain ++ [hop]) = chain.map Hop.target := by
  simp [passed]

/-- A chain with a hop is a chain with a last hop. -/
theorem exists_concat {chain : Chain} (h : chain ≠ []) :
    ∃ (front : Chain) (last : Hop), chain = front ++ [last] :=
  ⟨chain.dropLast, chain.getLast h, (List.dropLast_append_getLast h).symm⟩

end Chain

theorem Route.allows_iff {route : Route} {scope : Scope} :
    route.allows scope = true ↔ scope ∈ route.between ∧ scope ≠ route.origin := by
  simp [Route.allows, and_comm]

namespace Registry

variable {registry : Registry} {route : Route}

/-- Each hop of the chain leaves the scope that the hop before it leads to, the first one the scope
where the walk starts. -/
inductive Walk (registry : Registry) : Scope → Chain → Scope → Prop
  | nil {scope : Scope} : Walk registry scope [] scope
  | cons {source target : Scope} {hop : Hop} {rest : Chain} :
    hop ∈ registry.hopsFrom source → Walk registry hop.target rest target →
      Walk registry source (hop :: rest) target

/-- The chain has a hop, walks from the origin of the route to its target, and passes on its way
only scopes in between other than the origin. -/
structure Leads (registry : Registry) (route : Route) (chain : Chain) : Prop where
  nonempty : chain ≠ []
  walk : registry.Walk route.origin chain route.target
  between : ∀ scope ∈ chain.passed, scope ∈ route.between ∧ scope ≠ route.origin

/-! ### Walks -/

namespace Walk

variable {source middle target : Scope} {chain rest : Chain} {hop : Hop}

theorem append (h : registry.Walk source chain middle) (h' : registry.Walk middle rest target) :
    registry.Walk source (chain ++ rest) target := by
  induction h with
  | nil => exact h'
  | cons hmem _ ih => exact .cons hmem (ih h')

theorem concat (h : registry.Walk source chain middle) (hmem : hop ∈ registry.hopsFrom middle) :
    registry.Walk source (chain ++ [hop]) hop.target :=
  h.append (.cons hmem .nil)

/-- A walk ends where its chain does. -/
theorem destination_eq (h : registry.Walk source chain target) :
    chain.destination source = target := by
  induction h with
  | nil => rfl
  | @cons source target hop rest _ _ ih =>
    rcases eq_or_ne rest [] with rfl | hne
    · exact ih
    · obtain ⟨front, last, rfl⟩ := Chain.exists_concat hne
      rw [← List.cons_append, Chain.destination_concat]
      simpa using ih

theorem of_concat (h : registry.Walk source (chain ++ [hop]) target) :
    ∃ middle, registry.Walk source chain middle ∧ hop ∈ registry.hopsFrom middle ∧
      hop.target = target := by
  induction chain generalizing source with
  | nil =>
    obtain _ | ⟨hmem, hwalk⟩ := h
    exact ⟨source, .nil, hmem, hwalk.destination_eq⟩
  | cons first rest ih =>
    obtain _ | ⟨hmem, hwalk⟩ := h
    obtain ⟨middle, hfront, hlast, htarget⟩ := ih hwalk
    exact ⟨middle, .cons hmem hfront, hlast, htarget⟩

end Walk

/-! ### The search without its loop -/

variable (registry route)

/-- The partial chains with `k` hops: those that may still go on. -/
def partials : Nat → List Chain
  | 0 => [[]]
  | k + 1 =>
    (registry.extend route (partials k)).filter fun chain =>
      route.allows (chain.destination route.origin)

/-- The chains with `k + 1` hops that lead to the target, in their order. -/
def chainsOfLength (k : Nat) : List Chain :=
  registry.sortChains route <| (registry.extend route (registry.partials route k)).filter
    fun chain => chain.destination route.origin = route.target

variable {registry route}

theorem extend_nil : registry.extend route [] = [] := rfl

/-- Once no partial chain is left there is none at any later length. -/
theorem partials_eq_nil {k : Nat} (h : registry.partials route k = []) (j : Nat) :
    registry.partials route (k + j) = [] := by
  induction j with
  | zero => exact h
  | succ j ih => rw [← Nat.add_assoc, partials, ih, extend_nil, List.filter_nil]

theorem chainsOfLength_eq_nil {k : Nat} (h : registry.partials route k = []) :
    registry.chainsOfLength route k = [] := by
  rw [chainsOfLength, h]
  simp [extend_nil, sortChains]

/-- The search from the partial chains of one length on, filled up with empty groups, gives the
groups of the next lengths. -/
theorem search_append_replicate (count k : Nat) :
    let found := registry.search route count (registry.partials route k)
    found ++ List.replicate (count - found.length) [] =
      (List.range' k count).map (registry.chainsOfLength route) := by
  induction count generalizing k with
  | zero => rfl
  | succ count ih =>
    rcases Nat.eq_zero_or_pos count with rfl | hcount
    · rfl
    have hsearch : registry.search route (count + 1) (registry.partials route k) =
        if (registry.partials route (k + 1)).isEmpty then [registry.chainsOfLength route k]
        else registry.chainsOfLength route k ::
          registry.search route count (registry.partials route (k + 1)) := by
      rw [search, if_neg hcount.ne']
      rfl
    rw [hsearch, List.range'_succ, List.map_cons]
    split
    · next hnone =>
      -- The search stops here, and the groups of the lengths to come are empty.
      have hrest : ∀ j ∈ List.range' (k + 1) count, registry.chainsOfLength route j = [] := by
        intro j hj
        obtain ⟨i, rfl⟩ := Nat.exists_eq_add_of_le (List.mem_range'_1.1 hj).1
        exact chainsOfLength_eq_nil (partials_eq_nil (List.isEmpty_iff.1 hnone) i)
      rw [List.map_congr_left hrest]
      simp
    · simpa using ih (k + 1)

/-- Stopping early and filling up lose no chain: the groups are those of the single lengths. -/
theorem chains_eq_map (maxLevel : Nat) :
    registry.chains route maxLevel =
      (List.range maxLevel).map (registry.chainsOfLength route) := by
  rw [List.range_eq_range']
  exact search_append_replicate maxLevel 0

/-! ### What the search finds -/

theorem mem_extend_iff {partials : List Chain} {chain : Chain} :
    chain ∈ registry.extend route partials ↔ ∃ front ∈ partials,
      ∃ hop ∈ registry.hopsFrom (front.destination route.origin), front ++ [hop] = chain := by
  simp only [extend, List.mem_flatMap, List.mem_map]

/-- The partial chains of one length are the walks of that length that end, and pass, only allowed
scopes. -/
theorem mem_partials_iff {k : Nat} {chain : Chain} :
    chain ∈ registry.partials route k ↔
      chain.length = k ∧ registry.Walk route.origin chain (chain.destination route.origin) ∧
        ∀ hop ∈ chain, route.allows hop.target = true := by
  induction k generalizing chain with
  | zero =>
    rw [partials, List.mem_singleton, List.length_eq_zero_iff]
    refine ⟨?_, And.left⟩
    rintro rfl
    exact ⟨rfl, .nil, by simp⟩
  | succ k ih =>
    rw [partials, List.mem_filter, mem_extend_iff]
    constructor
    · rintro ⟨⟨front, hfront, hop, hhop, rfl⟩, hallows⟩
      obtain ⟨hlength, hwalk, hall⟩ := ih.1 hfront
      rw [Chain.destination_concat] at hallows ⊢
      refine ⟨by simp [hlength], hwalk.concat hhop, fun other hother => ?_⟩
      rcases List.mem_append.1 hother with hother | hother
      · exact hall other hother
      · rwa [List.mem_singleton.1 hother]
    · rintro ⟨hlength, hwalk, hall⟩
      obtain ⟨front, hop, rfl⟩ := Chain.exists_concat (List.ne_nil_of_length_eq_add_one hlength)
      obtain ⟨middle, hfront, hhop, -⟩ := hwalk.of_concat
      obtain rfl := hfront.destination_eq
      refine ⟨⟨front, ih.2 ⟨by simpa using hlength, hfront, fun other hother => ?_⟩, hop, hhop, rfl⟩,
        ?_⟩
      · exact hall other (List.mem_append_left _ hother)
      · rw [Chain.destination_concat]
        exact hall hop (by simp)

theorem sortChains_perm (chains : List Chain) : (registry.sortChains route chains).Perm chains := by
  have h := (List.mergeSort_perm (chains.map fun chain => (registry.rank route chain, chain))
    fun a b => rankLE a.1 b.1).map Prod.snd
  simpa [sortChains, Function.comp_def] using h

/-- The group of a length holds exactly the chains of that length that the route asks for. -/
theorem mem_chainsOfLength_iff {k : Nat} {chain : Chain} :
    chain ∈ registry.chainsOfLength route k ↔
      chain.length = k + 1 ∧ registry.Leads route chain := by
  rw [chainsOfLength, (sortChains_perm _).mem_iff, List.mem_filter, mem_extend_iff,
    decide_eq_true_iff]
  constructor
  · rintro ⟨⟨front, hfront, hop, hhop, rfl⟩, htarget⟩
    obtain ⟨hlength, hwalk, hall⟩ := mem_partials_iff.1 hfront
    rw [Chain.destination_concat] at htarget
    refine ⟨by simp [hlength], by simp, htarget ▸ hwalk.concat hhop, fun scope hscope => ?_⟩
    rw [Chain.passed_concat] at hscope
    obtain ⟨other, hother, rfl⟩ := List.mem_map.1 hscope
    exact Route.allows_iff.1 (hall other hother)
  · rintro ⟨hlength, hnonempty, hwalk, hbetween⟩
    obtain ⟨front, hop, rfl⟩ := Chain.exists_concat hnonempty
    obtain ⟨middle, hfront, hhop, htarget⟩ := hwalk.of_concat
    obtain rfl := hfront.destination_eq
    refine ⟨⟨front, mem_partials_iff.2 ⟨by simpa using hlength, hfront, fun other hother => ?_⟩,
      hop, hhop, rfl⟩, by rwa [Chain.destination_concat]⟩
    refine Route.allows_iff.2 (hbetween _ ?_)
    rw [Chain.passed_concat]
    exact List.mem_map_of_mem hother

/-! ### No chain is found twice -/

theorem hopsFrom_nodup (scope : Scope) : (registry.hopsFrom scope).Nodup := by
  have h : (registry.table scope).Nodup := (registry.table_pairwise scope).imp fun hne heq =>
    hne (congrArg Term.name heq)
  refine h.filterMap fun a b hop ha hb => ?_
  rw [← Hop.term_of_ofTerm? ha, ← Hop.term_of_ofTerm? hb]

theorem extend_nodup {partials : List Chain} (h : partials.Nodup) :
    (registry.extend route partials).Nodup := by
  rw [extend, List.nodup_flatMap]
  refine ⟨fun front _ => (hopsFrom_nodup _).map fun a b hab => ?_, h.imp fun hne chain h₁ h₂ => ?_⟩
  · simpa using hab
  · obtain ⟨a, _, rfl⟩ := List.mem_map.1 h₁
    obtain ⟨b, _, hab⟩ := List.mem_map.1 h₂
    exact hne (List.append_inj_left' hab rfl).symm

theorem partials_nodup (k : Nat) : (registry.partials route k).Nodup := by
  induction k with
  | zero => exact List.nodup_singleton _
  | succ k ih => exact (extend_nodup ih).filter _

theorem chainsOfLength_nodup (k : Nat) : (registry.chainsOfLength route k).Nodup :=
  (sortChains_perm _).nodup_iff.2 ((extend_nodup (partials_nodup k)).filter _)

/-- The enumeration is exact: there is one group for each length up to the bound, and it holds the
chains of that length that the route asks for, each once and nothing else. -/
theorem chains_exact (registry : Registry) (route : Route) (maxLevel : Nat) :
    (registry.chains route maxLevel).length = maxLevel ∧
      ∀ k : Fin (registry.chains route maxLevel).length,
        ((registry.chains route maxLevel).get k).Nodup ∧
          ∀ chain : Chain, chain ∈ (registry.chains route maxLevel).get k ↔
            chain.length = k + 1 ∧ registry.Leads route chain := by
  refine ⟨by simp [chains_eq_map], fun k => ?_⟩
  have hget : (registry.chains route maxLevel).get k = registry.chainsOfLength route k := by
    simp [chains_eq_map]
  rw [hget]
  exact ⟨chainsOfLength_nodup k, fun _ => mem_chainsOfLength_iff⟩

/-- Some group holds the chain exactly if the route asks for it and its length is in the bound. -/
theorem exists_mem_chains_iff {maxLevel : Nat} {chain : Chain} :
    (∃ chains ∈ registry.chains route maxLevel, chain ∈ chains) ↔
      chain.length ≤ maxLevel ∧ registry.Leads route chain := by
  simp only [chains_eq_map, List.mem_map, List.mem_range]
  constructor
  · rintro ⟨_, ⟨k, hk, rfl⟩, hchain⟩
    obtain ⟨hlength, hleads⟩ := mem_chainsOfLength_iff.1 hchain
    exact ⟨by omega, hleads⟩
  · rintro ⟨hlength, hleads⟩
    have hpos : 0 < chain.length := List.length_pos_iff.2 hleads.nonempty
    refine ⟨_, ⟨chain.length - 1, by omega, rfl⟩, mem_chainsOfLength_iff.2 ⟨by omega, hleads⟩⟩

variable (registry route) in
/-- The groups of chains that are not empty. -/
def chainGroups (maxLevel : Nat) : List (List Chain) :=
  (registry.chains route maxLevel).filter fun chains => !chains.isEmpty

theorem nonempty_of_mem_chainGroups {maxLevel : Nat} {chains : List Chain}
    (h : chains ∈ registry.chainGroups route maxLevel) : chains ≠ [] := by
  simpa using (List.mem_filter.1 h).2

/-- Leaving out the empty groups leaves out no chain. -/
theorem exists_mem_chainGroups_iff {maxLevel : Nat} {chain : Chain} :
    (∃ chains ∈ registry.chainGroups route maxLevel, chain ∈ chains) ↔
      chain.length ≤ maxLevel ∧ registry.Leads route chain := by
  rw [← exists_mem_chains_iff]
  refine exists_congr fun chains => ?_
  rw [chainGroups, List.mem_filter]
  refine ⟨fun h => ⟨h.1.1, h.2⟩, fun h => ⟨⟨h.1, ?_⟩, h.2⟩⟩
  have hne : chains ≠ [] := List.ne_nil_of_mem h.2
  simpa using hne

end Registry

end ScopedSearch
