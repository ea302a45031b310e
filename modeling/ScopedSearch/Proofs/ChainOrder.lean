import ScopedSearch.Proofs.Walk

/-!
# The order of chains

Chains of one length are sorted by their ranks, and the rank of a walk tells it apart from the other
walks of its length that start where it does (`Registry.Walk.eq_of_rank_eq`). So the order of a group
leaves nothing open: a group is determined by its chains.
-/

namespace ScopedSearch

/-! ### The order of ranks -/

theorem rankLE_total (a b : List Nat) : (rankLE a b || rankLE b a) = true := by
  induction a generalizing b with
  | nil => simp [rankLE]
  | cons x xs ih =>
    cases b with
    | nil => simp [rankLE]
    | cons y ys =>
      rcases lt_trichotomy x y with hlt | rfl | hlt
      · simp [rankLE, hlt]
      · simpa [rankLE] using ih ys
      · simp [rankLE, hlt]

theorem rankLE_trans {a b c : List Nat} (hab : rankLE a b = true) (hbc : rankLE b c = true) :
    rankLE a c = true := by
  induction a generalizing b c with
  | nil => rfl
  | cons x xs ih =>
    cases b with
    | nil => cases hab
    | cons y ys =>
      cases c with
      | nil => cases hbc
      | cons z zs =>
        simp only [rankLE, Bool.or_eq_true, Bool.and_eq_true, decide_eq_true_eq] at hab hbc ⊢
        rcases hab with hlt | ⟨rfl, hab⟩
        · left
          omega
        · rcases hbc with hlt | ⟨rfl, hbc⟩
          · exact .inl hlt
          · exact .inr ⟨rfl, ih hab hbc⟩

theorem rankLE_antisymm {a b : List Nat} (hab : rankLE a b = true) (hba : rankLE b a = true) :
    a = b := by
  induction a generalizing b with
  | nil =>
    cases b with
    | nil => rfl
    | cons => cases hba
  | cons x xs ih =>
    cases b with
    | nil => cases hab
    | cons y ys =>
      simp only [rankLE, Bool.or_eq_true, Bool.and_eq_true, decide_eq_true_eq] at hab hba
      obtain rfl : x = y := by omega
      rw [ih (by simpa using hab) (by simpa using hba)]

namespace Registry

variable {registry : Registry} {route : Route}

/-! ### Positions of hops -/

/-- A hop stands where it is found first. -/
theorem hopPosition_lt {hop : Hop} (h : hop ∈ registry.hopsFrom hop.source) :
    registry.hopPosition hop < (registry.hopsFrom hop.source).length :=
  List.findIdx_lt_length_of_exists ⟨hop, h, by simp⟩

theorem getElem?_hopPosition {hop : Hop} (h : hop ∈ registry.hopsFrom hop.source) :
    ∃ other, (registry.hopsFrom hop.source)[registry.hopPosition hop]? = some other ∧
      other.name = hop.name := by
  have hlt := hopPosition_lt h
  refine ⟨_, List.getElem?_eq_getElem hlt, ?_⟩
  exact of_decide_eq_true (List.findIdx_getElem (w := hlt))

/-- Hops from one scope are told apart by their names. -/
theorem eq_of_mem_hopsFrom {scope : Scope} {a b : Hop} (ha : a ∈ registry.hopsFrom scope)
    (hb : b ∈ registry.hopsFrom scope) (h : a.name = b.name) : a = b :=
  Hop.ext (eq_of_mem_table (mem_hopsFrom_iff.1 ha) (mem_hopsFrom_iff.1 hb) h)

/-- Hops from one scope are told apart by their positions. -/
theorem eq_of_hopPosition_eq {scope : Scope} {a b : Hop} (ha : a ∈ registry.hopsFrom scope)
    (hb : b ∈ registry.hopsFrom scope) (h : registry.hopPosition a = registry.hopPosition b) :
    a = b := by
  obtain rfl := scope_of_mem_hopsFrom ha
  have hsource := scope_of_mem_hopsFrom hb
  obtain ⟨other, hother, hname⟩ := getElem?_hopPosition ha
  obtain ⟨another, hanother, hname'⟩ := getElem?_hopPosition (hsource.symm ▸ hb)
  rw [hsource, ← h, hother, Option.some.injEq] at hanother
  exact eq_of_mem_hopsFrom ha hb (by rw [← hname, hanother, hname'])

/-! ### Every position is there -/

/-- Every position that the rank of a chain asks for is there: those of the scopes that it passes and
those of its hops. -/
structure Positioned (registry : Registry) (route : Route) (chain : Chain) : Prop where
  scopes : ∀ scope ∈ chain.passed,
    scope ≠ route.origin ∧ (lastPosition? route.between scope).isSome
  hops : ∀ hop ∈ chain, registry.hopPosition hop < (registry.hopsFrom hop.source).length

theorem isSome_lastPosition? {scopes : List Scope} {scope : Scope} (h : scope ∈ scopes) :
    (lastPosition? scopes scope).isSome = true := by
  induction scopes with
  | nil => cases h
  | cons first rest ih =>
    rw [lastPosition?]
    cases hrest : lastPosition? rest scope with
    | some position => rfl
    | none =>
      obtain rfl | h := List.mem_cons.1 h
      · simp
      · rw [hrest] at ih
        cases ih h

theorem Walk.mem_hopsFrom {source target : Scope} {chain : Chain} {hop : Hop}
    (h : registry.Walk source chain target) (hhop : hop ∈ chain) :
    hop ∈ registry.hopsFrom hop.source := by
  induction h with
  | nil => cases hhop
  | cons hmem _ ih =>
    obtain rfl | hhop := List.mem_cons.1 hhop
    · exact (scope_of_mem_hopsFrom hmem).symm ▸ hmem
    · exact ih hhop

theorem Leads.positioned {chain : Chain} (h : registry.Leads route chain) :
    registry.Positioned route chain where
  scopes scope hscope :=
    ⟨(h.between scope hscope).2, isSome_lastPosition? (h.between scope hscope).1⟩
  hops _ hhop := hopPosition_lt (h.walk.mem_hopsFrom hhop)

/-! ### The order tells chains apart -/

/-- Walks from one scope with hops at the same positions are the same. -/
theorem Walk.eq_of_positions_eq {source target target' : Scope} {chain chain' : Chain}
    (h : registry.Walk source chain target) (h' : registry.Walk source chain' target')
    (hpositions : chain.map registry.hopPosition = chain'.map registry.hopPosition) :
    chain = chain' := by
  induction h generalizing chain' with
  | nil => exact (List.map_eq_nil_iff.1 hpositions.symm).symm
  | cons hmem _ ih =>
    cases h' with
    | nil => cases hpositions
    | cons hmem' hrest' =>
      rw [List.map_cons, List.map_cons, List.cons.injEq] at hpositions
      obtain rfl := eq_of_hopPosition_eq hmem hmem' hpositions.1
      rw [ih hrest' hpositions.2]

/-- Walks of one length from one scope have different ranks. -/
theorem Walk.eq_of_rank_eq {source target target' : Scope} {chain chain' : Chain}
    (h : registry.Walk source chain target) (h' : registry.Walk source chain' target')
    (hlength : chain.length = chain'.length)
    (hrank : registry.rank route chain = registry.rank route chain') : chain = chain' := by
  refine h.eq_of_positions_eq h' (List.append_inj_right hrank ?_)
  simp [Chain.passed, hlength]

variable (registry route) in
/-- The chains come in the order of their ranks. -/
def Ranked (chains : List Chain) : Prop :=
  chains.Pairwise fun a b => rankLE (registry.rank route a) (registry.rank route b) = true

theorem sortChains_ranked (chains : List Chain) :
    registry.Ranked route (registry.sortChains route chains) := by
  let le (a b : List Nat × Chain) : Bool := rankLE a.1 b.1
  have htrans : ∀ a b c, le a b = true → le b c = true → le a c = true :=
    fun _ _ _ => rankLE_trans
  have htotal : ∀ a b, (le a b || le b a) = true := fun a b => rankLE_total a.1 b.1
  have hsorted := List.pairwise_mergeSort htrans htotal
    (chains.map fun chain => (registry.rank route chain, chain))
  rw [Ranked, sortChains, List.pairwise_map]
  refine hsorted.imp_of_mem fun ha hb hle => ?_
  obtain ⟨a, -, rfl⟩ := List.mem_map.1 (List.mem_mergeSort.1 ha)
  obtain ⟨b, -, rfl⟩ := List.mem_map.1 (List.mem_mergeSort.1 hb)
  exact hle

theorem chainsOfLength_ranked (k : Nat) :
    registry.Ranked route (registry.chainsOfLength route k) := sortChains_ranked _

/-- The group of a length is the only list of its chains in the order of their ranks. -/
theorem eq_chainsOfLength {k : Nat} {chains : List Chain}
    (hperm : chains.Perm (registry.chainsOfLength route k))
    (hranked : registry.Ranked route chains) : chains = registry.chainsOfLength route k := by
  refine hperm.eq_of_pairwise (fun a b ha hb hab hba => ?_) hranked (chainsOfLength_ranked k)
  obtain ⟨hlength, hleads⟩ := mem_chainsOfLength_iff.1 (hperm.mem_iff.1 ha)
  obtain ⟨hlength', hleads'⟩ := mem_chainsOfLength_iff.1 hb
  exact hleads.walk.eq_of_rank_eq hleads'.walk (hlength.trans hlength'.symm)
    (rankLE_antisymm hab hba)

end Registry

end ScopedSearch
