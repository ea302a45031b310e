import ScopedSearch.Proofs.RelatedList
import Mathlib.Data.List.Permutation

/-!
# What criteria and query trees mean

An interpretation gives the records that the terms of every scope match and the relations that its
hops travel. A query tree is read in it node by node (`Query.Holds`), criteria are read without
compiling them (`Registry.Meets`): a mapping asks for all its conditions, a hop for some record that
it leads to, and a related list for some walk from its own scope to its target that passes none but the
scopes it declares in between, however the compiler finds those walks. Compilation keeps this meaning
(`Compiler.criteria_holds_iff`).
-/

namespace ScopedSearch

universe u

/-- What the terms of every scope mean over a type of records: the relation of a hop, the records
that another term matches with a value and a comparison, and the record that an identifier names. -/
structure Interpretation (Record : Type u) where
  related : (scope term : String) → Record → Record → Prop
  matched : (scope term : String) → Value → Option Comparator → Record → Prop
  named : RecordId → Record

namespace Interpretation

variable {Record : Type u} (interpretation : Interpretation Record)

/-- The chain leads from the one record to the other. -/
def Follows : Chain → Record → Record → Prop
  | [], record, last => record = last
  | hop :: rest, record, last =>
    ∃ next, interpretation.related hop.source.name hop.name record next ∧ Follows rest next last

end Interpretation

section Meaning

variable {Record : Type u}

/-! ### Query trees -/

namespace Query

variable (interpretation : Interpretation Record)

mutual

/-- The record is one of those that the tree asks for. A leaf or hop without a scope has none. -/
def Holds : Query → Record → Prop
  | .record id, subject => subject = interpretation.named id
  | .leaf term value scope _ _ comparator, subject =>
    ∃ name ∈ scope, interpretation.matched name term value comparator subject
  | .hop term target scope _ _, subject =>
    ∃ name ∈ scope, ∃ other, interpretation.related name term subject other ∧ target.Holds other
  | .group .all children _, subject => HoldAll children subject
  | .group .any children _, subject => HoldAny children subject

/-- The record is one of those that each tree asks for. -/
def HoldAll : List Query → Record → Prop
  | [], _ => True
  | tree :: rest, subject => tree.Holds subject ∧ HoldAll rest subject

/-- The record is one of those that some tree asks for. -/
def HoldAny : List Query → Record → Prop
  | [], _ => False
  | tree :: rest, subject => tree.Holds subject ∨ HoldAny rest subject

end

end Query

/-! ### Criteria -/

namespace Registry

variable (registry : Registry) (interpretation : Interpretation Record)

/-- The record is one of those that a term with a value asks for. A hop or a related list leads to
some record that `selects` gives for its target; a related list does so by a walk of at most as many hops
as it declares, through the scopes that it declares in between. -/
def Asks (term : Term) (value : Value) (comparator : Option Value)
    (selects : Scope → Record → Prop) (subject : Record) : Prop :=
  match term.role with
  | .hop _ target =>
    ∃ other, interpretation.related term.scope.name term.name subject other ∧ selects target other
  | .related target maxLevel =>
    ∃ chain, chain.length ≤ maxLevel ∧
      registry.Leads ⟨term.scope, target, term.declaration.inBetweenScopes⟩ chain ∧
      ∃ other, interpretation.Follows chain subject other ∧ selects target other
  | .documentId | .indexed _ | .text _ | .similar =>
    ∃ coerced sign, term.coerce? value = some coerced ∧ term.comparatorOf comparator = .ok sign ∧
      interpretation.matched term.scope.name term.name coerced sign subject

mutual

/-- The record is one of those that the value of a hop to the scope gives: the record it names, or
those that meet its conditions. -/
def Selects : Value → Scope → Record → Prop
  | .string text, _, subject => ∃ id, id.text = text ∧ subject = interpretation.named id
  | .query tree, _, subject => tree.Holds interpretation subject
  | .map entries, scope, subject =>
    if isIdMapping entries then
      ∃ id, entries = [("id", .string id.text)] ∧ subject = interpretation.named id
    else MeetsEach scope (given? entries comparatorKey) entries subject
  | _, _, _ => False

/-- The record meets every condition of a mapping. -/
def MeetsEach (scope : Scope) (comparator : Option Value) :
    List (String × Value) → Record → Prop
  | [], _ => True
  | (key, value) :: rest, subject =>
    (if key = scopeKey ∨ key = comparatorKey then True
      else
        match Connective.ofKey? key with
        | some connective => MeetsGroup scope connective value subject
        | none =>
          ∃ term ∈ registry.find? scope key,
            registry.Asks interpretation term value comparator (Selects value) subject) ∧
      MeetsEach scope comparator rest subject

/-- The record meets all, or some, of the conditions in a list. -/
def MeetsGroup (scope : Scope) : Connective → Value → Record → Prop
  | .all, .list items, subject => MeetsAll scope items subject
  | .any, .list items, subject => MeetsAny scope items subject
  | _, _, _ => False

/-- The record meets all conditions of a list. -/
def MeetsAll (scope : Scope) : List Value → Record → Prop
  | [], _ => True
  | .map entries :: rest, subject =>
    MeetsEach scope (given? entries comparatorKey) entries subject ∧ MeetsAll scope rest subject
  | _ :: _, _ => False

/-- The record meets some condition of a list. -/
def MeetsAny (scope : Scope) : List Value → Record → Prop
  | [], _ => False
  | .map entries :: rest, subject =>
    MeetsEach scope (given? entries comparatorKey) entries subject ∨ MeetsAny scope rest subject
  | _ :: _, _ => False

end

/-- The record meets the criteria, in the scope they declare or else in the expected one. Criteria
of scope `multi` ask for the records that meet some branch in the scope that the branch declares. -/
def Meets (expected : Option String) (criteria : Value) (subject : Record) : Prop :=
  ∃ entries : Entries String Value, criteria = .map entries ∧
    ∃ name, (given? entries scopeKey).or (expected.map .string) = some (.string name) ∧
      if name = Scope.multi then
        ∃ branches, entries.get? Connective.any.key = some (.list branches) ∧
          ∃ (scope : Scope) (branch : Entries String Value), .map branch ∈ branches ∧
            given? branch scopeKey = some (.string scope.name) ∧
              registry.MeetsEach interpretation scope (given? branch comparatorKey) branch subject
      else
        ∃ scope : Scope, scope.name = name ∧
          registry.MeetsEach interpretation scope (given? entries comparatorKey) entries subject

end Registry

/-! ### Compilation keeps the meaning -/

variable {interpretation : Interpretation Record} {subject : Record}

namespace Query

theorem holdAll_iff {trees : List Query} :
    HoldAll interpretation trees subject ↔ ∀ tree ∈ trees, tree.Holds interpretation subject := by
  induction trees with
  | nil => simp [HoldAll]
  | cons first rest ih => simp [HoldAll, ih]

theorem holdAny_iff {trees : List Query} :
    HoldAny interpretation trees subject ↔ ∃ tree ∈ trees, tree.Holds interpretation subject := by
  induction trees with
  | nil => simp [HoldAny]
  | cons first rest ih => simp [HoldAny, ih]

/-- The tree of several conditions asks for all of them, whether they are grouped or a single one. -/
theorem holds_conjunction_iff {scope : Scope} {trees : List Query} :
    (Compiler.conjunction scope trees).Holds interpretation subject ↔
      HoldAll interpretation trees subject := by
  unfold Compiler.conjunction
  split
  · simp [HoldAll]
  · rw [Holds]

/-- The tree of a chain asks for the records from which the chain leads to one of the terminal. -/
theorem holds_chain_iff {chain : Chain} {terminal : Query} :
    (chain.query terminal).Holds interpretation subject ↔
      ∃ last, interpretation.Follows chain subject last ∧ terminal.Holds interpretation last := by
  induction chain generalizing subject with
  | nil => simp [Chain.query, Interpretation.Follows]
  | cons hop rest ih =>
    have hquery : Chain.query (hop :: rest) terminal = hop.query (Chain.query rest terminal) := rfl
    simp only [hquery, Hop.query, Holds, Option.mem_some_iff, exists_eq_left', ih]
    constructor
    · rintro ⟨next, hnext, last, hlast, hterminal⟩
      exact ⟨last, ⟨next, hnext, hlast⟩, hterminal⟩
    · rintro ⟨last, ⟨next, hnext, hlast⟩, hterminal⟩
      exact ⟨next, hnext, last, hlast, hterminal⟩

/-- The groups of chains ask for what some chain leads to, in whatever group it is. -/
theorem holds_ofChains_iff {scope : Scope} {groups : List (List Chain)} {terminal : Query} :
    (ofChains scope groups terminal).Holds interpretation subject ↔
      ∃ chain, (∃ chains ∈ groups, chain ∈ chains) ∧
        ∃ last, interpretation.Follows chain subject last ∧ terminal.Holds interpretation last := by
  simp only [ofChains, Holds, holdAny_iff, List.mem_map, exists_exists_and_eq_and, holds_chain_iff]
  constructor
  · rintro ⟨chains, hchains, chain, hchain, hholds⟩
    exact ⟨chain, ⟨chains, hchains, hchain⟩, hholds⟩
  · rintro ⟨chain, ⟨chains, hchains, hchain⟩, hholds⟩
    exact ⟨chains, hchains, chain, hchain, hholds⟩

end Query

namespace Registry

variable {registry : Registry}

/-- A term that matches a field asks for what its leaf matches. -/
theorem asks_leaf_iff {term : Term} {value coerced : Value} {comparator : Option Value}
    {field : String} {fullText : Bool} {sign : Option Comparator} {selects : Scope → Record → Prop}
    (hfield : term.role.field? = some (field, fullText)) (hcoerced : term.coerce? value = some coerced)
    (hsign : term.comparatorOf comparator = .ok sign) :
    registry.Asks interpretation term value comparator selects subject ↔
      interpretation.matched term.scope.name term.name coerced sign subject := by
  unfold Asks
  cases hrole : term.role with
  | hop | related => simp [hrole, Role.field?] at hfield
  | _ => simp [hcoerced, hsign]

mutual

theorem ReadsTarget.holds_iff {scope : Scope} {value : Value} {tree : Query} :
    registry.ReadsTarget scope value tree → ∀ {subject : Record},
      (tree.Holds interpretation subject ↔ registry.Selects interpretation value scope subject)
  | .text id, subject => by
    simp only [Query.Holds, Selects, ← RecordId.ext_iff, exists_eq_left]
  | .record id, subject => by rw [Selects]
  | .tree _ _, subject => by rw [Selects]
  | .named id, subject => by
    simp [Query.Holds, Selects, isIdMapping, Entries.keys, ← RecordId.ext_iff]
  | .mapping hid _ hmapping, subject => by
    rw [Selects, hid]
    simpa using hmapping.holds_iff

theorem ReadsMapping.holds_iff {scope : Scope} {entries : Entries String Value} {tree : Query} :
    registry.ReadsMapping scope entries tree → ∀ {subject : Record},
      (tree.Holds interpretation subject ↔
        registry.MeetsEach interpretation scope (given? entries comparatorKey) entries subject)
  | .intro hcomparison hentries, subject => by
    rw [Query.holds_conjunction_iff, ← Compiler.eq_given?_of_comparisonOf hcomparison]
    exact hentries.holdAll_iff

theorem ReadsEntries.holdAll_iff {scope : Scope} {comparator : Option Value}
    {entries : List (String × Value)} {trees : List Query} :
    registry.ReadsEntries scope comparator entries trees → ∀ {subject : Record},
      (Query.HoldAll interpretation trees subject ↔
        registry.MeetsEach interpretation scope comparator entries subject)
  | .nil, subject => by simp [Query.HoldAll, MeetsEach]
  | .option hoption hrest, subject => by
    rw [MeetsEach, if_pos hoption, true_and]
    exact hrest.holdAll_iff
  | .condition hoption hcondition hrest, subject => by
    rw [Query.HoldAll, MeetsEach, if_neg hoption]
    exact and_congr hcondition.holds_iff hrest.holdAll_iff

theorem ReadsCondition.holds_iff {scope : Scope} {comparator : Option Value} {key : String}
    {value : Value} {tree : Query} :
    registry.ReadsCondition scope comparator key value tree → ∀ {subject : Record},
      (tree.Holds interpretation subject ↔
        match Connective.ofKey? key with
        | some connective => registry.MeetsGroup interpretation scope connective value subject
        | none => ∃ term ∈ registry.find? scope key,
            registry.Asks interpretation term value comparator
              (registry.Selects interpretation value) subject)
  | .group connective _ hlist, subject => by
    rw [Connective.ofKey?_key]
    cases connective with
    | all => simpa [Query.Holds, MeetsGroup] using hlist.holdAll_iff
    | any => simpa [Query.Holds, MeetsGroup] using hlist.holdAny_iff
  | .leaf term hname hterm hfield hcoerced _ hsign, subject => by
    rw [hname, find?_eq_some_iff.2 ⟨hterm, rfl⟩]
    simp only [Option.mem_some_iff, exists_eq_left']
    obtain rfl := scope_of_mem_table hterm
    rw [asks_leaf_iff hfield hcoerced hsign]
    simp [Term.leaf, Query.Holds]
  | .hop hop hname hmem htarget, subject => by
    have hfind : registry.find? scope hop.name = some hop.term :=
      find?_eq_some_iff.2 ⟨mem_hopsFrom_iff.1 hmem, rfl⟩
    rw [hname, hfind]
    simp only [Option.mem_some_iff, exists_eq_left', Asks, hop.role, Hop.query, Query.Holds,
      htarget.holds_iff]
    rfl
  | .related term hname hterm hrole _ htarget, subject => by
    rw [hname, find?_eq_some_iff.2 ⟨hterm, rfl⟩]
    simp only [Option.mem_some_iff, exists_eq_left', Asks, hrole, Query.holds_ofChains_iff,
      exists_mem_chainGroups_iff, routeOf, and_assoc, htarget.holds_iff]

theorem ReadsList.holdAll_iff {scope : Scope} {items : List Value} {trees : List Query} :
    registry.ReadsList scope items trees → ∀ {subject : Record},
      (Query.HoldAll interpretation trees subject ↔
        registry.MeetsAll interpretation scope items subject)
  | .nil, subject => by simp [Query.HoldAll, MeetsAll]
  | .cons _ hmapping hrest, subject => by
    rw [Query.HoldAll, MeetsAll]
    exact and_congr hmapping.holds_iff hrest.holdAll_iff

theorem ReadsList.holdAny_iff {scope : Scope} {items : List Value} {trees : List Query} :
    registry.ReadsList scope items trees → ∀ {subject : Record},
      (Query.HoldAny interpretation trees subject ↔
        registry.MeetsAny interpretation scope items subject)
  | .nil, subject => by simp [Query.HoldAny, MeetsAny]
  | .cons _ hmapping hrest, subject => by
    rw [Query.HoldAny, MeetsAny]
    exact or_congr hmapping.holds_iff hrest.holdAny_iff

end

/-- Each branch of a query over several scopes asks for its records in the scope it declares. -/
theorem ReadsBranches.holdAny_iff {branches : List Value} {trees : List Query}
    (h : registry.ReadsBranches branches trees) :
    Query.HoldAny interpretation trees subject ↔
      ∃ (scope : Scope) (branch : Entries String Value), .map branch ∈ branches ∧
        given? branch scopeKey = some (.string scope.name) ∧
          registry.MeetsEach interpretation scope (given? branch comparatorKey) branch subject := by
  induction h with
  | nil => simp [Query.HoldAny]
  | @cons scope entries rest tree trees hscope hmapping _ ih =>
    rw [Query.HoldAny, ih, hmapping.holds_iff]
    constructor
    · rintro (hmeets | ⟨other, branch, hbranch, hother, hmeets⟩)
      · exact ⟨scope, entries, List.mem_cons_self, hscope, hmeets⟩
      · exact ⟨other, branch, List.mem_cons_of_mem _ hbranch, hother, hmeets⟩
    · rintro ⟨other, branch, hbranch, hother, hmeets⟩
      rcases List.mem_cons.1 hbranch with hbranch | hbranch
      · cases hbranch
        obtain rfl : other = scope := Scope.name_injective (by simpa [hscope] using hother.symm)
        exact .inl hmeets
      · exact .inr ⟨other, branch, hbranch, hother, hmeets⟩

end Registry

/-- Compilation keeps the meaning: in every interpretation, the tree of accepted criteria asks for
exactly the records that meet the criteria. -/
theorem Compiler.criteria_holds_iff {compiler : Compiler} {criteria : Value}
    {expected : Option String} {tree : Query}
    (h : (compiler.criteria criteria expected).outcome = .ok tree)
    (interpretation : Interpretation Record) (subject : Record) :
    tree.Holds interpretation subject ↔
      compiler.registry.Meets interpretation expected criteria subject := by
  cases criteria_eq_ok_iff.1 h with
  | @mapping scope entries _ hscope hmapping =>
    have hdeclared := given?_of_scopeOfCriteria hscope
    rw [hmapping.holds_iff]
    constructor
    · intro hmeets
      refine ⟨entries, rfl, scope.name, hdeclared, ?_⟩
      rw [if_neg scope.name_ne_multi]
      exact ⟨scope, rfl, hmeets⟩
    · rintro ⟨_, hentries, name, hname, hmeets⟩
      cases hentries
      obtain rfl : scope.name = name := by simpa [hdeclared] using hname
      rw [if_neg scope.name_ne_multi] at hmeets
      obtain ⟨other, hother, hmeets⟩ := hmeets
      rwa [Scope.name_injective hother] at hmeets
  | @multi entries branches trees hscope _ hbranches _ htrees =>
    have hdeclared := given?_of_scopeOfCriteria hscope
    rw [Query.Holds, htrees.holdAny_iff]
    constructor
    · intro hmeets
      refine ⟨entries, rfl, Scope.multi, hdeclared, ?_⟩
      rw [if_pos rfl]
      exact ⟨branches, hbranches, hmeets⟩
    · rintro ⟨_, hentries, name, hname, hmeets⟩
      cases hentries
      obtain rfl : Scope.multi = name := by simpa [hdeclared] using hname
      rw [if_pos rfl] at hmeets
      obtain ⟨others, hothers, hmeets⟩ := hmeets
      cases hbranches.symm.trans hothers
      exact hmeets

end Meaning

/-- An interpretation over numbers: record 0 is a work about the sea, which record 1 made. -/
def Interpretation.sea : Interpretation Nat where
  related _ term record other := term = "createdBy" ∧ record = 0 ∧ other = 1
  matched _ term _ _ record := term = "text" ∧ record = 0 ∨ term = "startYear" ∧ record = 1
  named id := id.text.length

/-- Agents related to a member of a group. -/
def relatedCriteria : Value :=
  .map [(scopeKey, .string "agent"), ("relatedToAgent", .map [("memberOf", .string "agent:1")])]

/-- The tree of these criteria: a chain of one hop, and a chain through a work. -/
def relatedTree : Query :=
  let member : Query :=
    .hop "memberOf" (.record ⟨"agent:1", by decide⟩) (some "agent") (some "lux:agentMemberOf")
      (some "agent")
  .group .any
    [.group .any
      [.hop "memberOf" member (some "agent") (some "lux:agentMemberOf") (some "agent")]
      (some "agent"),
     .group .any
      [.hop "created"
        (.hop "createdBy" member (some "work") (some "lux:workCreatedBy") (some "agent"))
        (some "agent") (some "lux:agentCreated") (some "work")]
      (some "agent")]
    (some "agent")

/-- Record 0 is an agent who made the work 1, which the agent 2 made as well; of these only 2 is a member
of the group 3. -/
def Interpretation.coauthors : Interpretation Nat where
  related scope term record other :=
    scope = "agent" ∧ term = "created" ∧ record = 0 ∧ other = 1 ∨
    scope = "work" ∧ term = "createdBy" ∧ record = 1 ∧ other = 2 ∨
    scope = "agent" ∧ term = "memberOf" ∧ record = 2 ∧ other = 3
  matched _ _ _ _ _ := False
  named _ := 3

/-- The work about the sea meets its criteria, and agent 0 those of the related list: by the walk through
the work only, since agent 0 is a member of nothing. -/
theorem Compiler.seaCriteria_meets :
    (((Compiler.mk .artists true).criteria seaCriteria).outcome = .ok seaQuery ∧
      Registry.artists.Meets .sea none seaCriteria 0) ∧
    ((Compiler.mk .circles true).criteria relatedCriteria).outcome = .ok relatedTree ∧
      (∀ other, ¬ Interpretation.coauthors.related "agent" "memberOf" 0 other) ∧
      Registry.circles.Meets .coauthors none relatedCriteria 0 := by
  have hrelated : ((Compiler.mk .circles true).criteria relatedCriteria).outcome =
      .ok relatedTree := by cbv
  refine ⟨⟨seaCriteria_compiled, (criteria_holds_iff seaCriteria_compiled .sea 0).1 ?_⟩, hrelated,
    ?_, (criteria_holds_iff hrelated .coauthors 0).1 ?_⟩
  · simp [seaQuery, Query.Holds, Query.HoldAll, Interpretation.sea]
  · simp [Interpretation.coauthors]
  · simp [relatedTree, Query.Holds, Query.HoldAny, Interpretation.coauthors]

end ScopedSearch
