import ScopedSearch.Proofs.Closure
import ScopedSearch.Proofs.Extension

/-!
# What merging adds

Merging leaves out each further term whose name its scope has already. Of two terms of one name in a
scope the first counts anyway, so the merged registry is simply the arrangement of all terms, those
that were there before the further ones (`Registry.arrange_supplement`), and arrangement absorbs
arrangement on either side of `++` (`Registry.arrange_arrange_append`,
`Registry.arrange_append_arrange`). Hence what the tables of a merged registry are, when there is one,
and which events tell of terms that were left out (`Registry.merge_adds_new`).
-/

namespace ScopedSearch

namespace Registry

variable {registry : Registry} {terms further : List Term} {scope : Scope}

/-! ### The first terms of lists one behind the other -/

theorem mem_names_firstOfName {name : String} :
    name ∈ (firstOfName terms).map Term.name ↔ name ∈ terms.map Term.name := by
  induction terms with
  | nil => rfl
  | cons first rest ih =>
    rw [firstOfName, List.map_cons, List.map_cons, List.mem_cons, List.mem_cons, ← ih]
    by_cases hname : name = first.name
    · simp [hname]
    · have hkept : name ∈ ((firstOfName rest).filter fun other => other.name ≠ first.name).map
          Term.name ↔ name ∈ (firstOfName rest).map Term.name := by
        simp only [List.mem_map, List.mem_filter, decide_eq_true_eq]
        constructor
        · rintro ⟨other, ⟨hother, -⟩, rfl⟩
          exact ⟨other, hother, rfl⟩
        · rintro ⟨other, hother, rfl⟩
          exact ⟨other, ⟨hother, hname⟩, rfl⟩
      rw [hkept]

/-- A choice by names may come before or after the choice of the first. -/
theorem firstOfName_filter (chosen : String → Bool) (terms : List Term) :
    firstOfName (terms.filter fun term => chosen term.name) =
      (firstOfName terms).filter fun term => chosen term.name := by
  induction terms with
  | nil => rfl
  | cons first rest ih =>
    rw [List.filter_cons, firstOfName, List.filter_cons]
    cases hfirst : chosen first.name with
    | true => rw [if_pos rfl, if_pos rfl, firstOfName, ih, List.filter_comm]
    | false =>
      have hother (other : Term) (hchosen : chosen other.name = true) :
          other.name ≠ first.name := by
        intro heq
        rw [heq, hfirst] at hchosen
        cases hchosen
      rw [if_neg Bool.false_ne_true, if_neg Bool.false_ne_true, ih, List.filter_filter]
      refine List.filter_congr fun other _ => ?_
      by_cases hchosen : chosen other.name = true <;> simp [hchosen, hother]

/-- Of terms behind others, the first of each new name count. -/
theorem firstOfName_append_eq (terms further : List Term) :
    firstOfName (terms ++ further) = firstOfName terms ++
      (firstOfName further).filter fun term => term.name ∉ terms.map Term.name := by
  induction terms with
  | nil => simp [firstOfName]
  | cons first rest ih =>
    rw [List.cons_append, firstOfName, firstOfName, ih, List.filter_append, List.cons_append,
      List.filter_filter]
    refine congrArg _ (congrArg _ (List.filter_congr fun other _ => ?_))
    simp [eq_comm]

theorem firstOfName_firstOfName (terms : List Term) :
    firstOfName (firstOfName terms) = firstOfName terms :=
  firstOfName_of_pairwise (firstOfName_pairwise terms)

/-! ### Arranging lists one behind the other -/

theorem inScope_append (terms further : List Term) (scope : Scope) :
    inScope (terms ++ further) scope = inScope terms scope ++ inScope further scope :=
  List.filter_append ..

/-- Arranging asks for the first terms of each scope and nothing else. -/
theorem arrange_congr {other : List Term}
    (h : ∀ scope, firstOfName (inScope terms scope) = firstOfName (inScope other scope)) :
    arrange terms = arrange other :=
  List.flatMap_congr fun scope _ => h scope

theorem arrange_arrange_append (terms further : List Term) :
    arrange (arrange terms ++ further) = arrange (terms ++ further) := by
  refine arrange_congr fun scope => ?_
  rw [inScope_append, inScope_append, inScope_arrange, firstOfName_append_eq,
    firstOfName_append_eq, firstOfName_firstOfName]
  simp only [mem_names_firstOfName]

theorem arrange_append_arrange (terms further : List Term) :
    arrange (terms ++ arrange further) = arrange (terms ++ further) := by
  refine arrange_congr fun scope => ?_
  rw [inScope_append, inScope_append, inScope_arrange, firstOfName_append_eq,
    firstOfName_append_eq, firstOfName_firstOfName]

theorem arrange_append_self (terms : List Term) : arrange (terms ++ terms) = arrange terms := by
  refine arrange_congr fun scope => ?_
  rw [inScope_append, firstOfName_append_eq, List.append_right_eq_self, List.filter_eq_nil_iff]
  intro term hterm
  simpa using ⟨term, mem_of_mem_firstOfName hterm, rfl⟩

/-! ### Further terms with a new name, and those that are declared already -/

/-- The further terms whose scope and name none of the terms has. -/
def additions (terms further : List Term) : List Term :=
  further.filter fun term => (namesake? terms term).isNone

theorem namesake?_eq_find? (terms : List Term) (term : Term) :
    namesake? terms term = (inScope terms term.scope).find? fun other => other.name = term.name := by
  rw [namesake?, inScope, List.find?_filter]
  simp

theorem isNone_namesake? {term : Term} :
    (namesake? terms term).isNone = true ↔
      term.name ∉ (inScope terms term.scope).map Term.name := by
  rw [namesake?_eq_find?, Option.isNone_iff_eq_none, List.find?_eq_none]
  simp

theorem inScope_additions (terms further : List Term) (scope : Scope) :
    inScope (additions terms further) scope =
      (inScope further scope).filter fun term => term.name ∉ (inScope terms scope).map Term.name := by
  rw [additions, inScope, List.filter_comm]
  refine List.filter_congr fun term hterm => ?_
  rw [← (mem_inScope.1 hterm).2, Bool.eq_iff_iff, isNone_namesake?, decide_eq_true_iff]

/-- Leaving out the further terms whose name is taken leaves out none that counts. -/
theorem arrange_supplement (terms further : List Term) :
    arrange (terms ++ additions terms further) = arrange (terms ++ further) := by
  refine arrange_congr fun scope => ?_
  rw [inScope_append, inScope_append, firstOfName_append_eq, firstOfName_append_eq,
    inScope_additions, firstOfName_filter fun name => name ∉ (inScope terms scope).map Term.name,
    List.filter_filter]
  simp only [Bool.and_self]

/-! ### Merging terms -/

/-- The registry with further terms merged in. -/
def mergeTerms (registry : Registry) (further : List Term) : Traced Registry := do
  let terms ← supplement registry.terms further
  ofTerms terms

/-- The table of a scope with the further terms of the scope whose name is new behind it. -/
def combined (registry : Registry) (further : List Term) (scope : Scope) : List Term :=
  registry.table scope ++
    (inScope further scope).filter fun term => (registry.find? scope term.name).isNone

/-- Some term of the combined tables refers to a scope that has no terms in them. -/
def LeavesOpen (registry : Registry) (further : List Term) : Prop :=
  ∃ scope, ∃ term ∈ registry.combined further scope, ∃ other ∈ term.references,
    registry.combined further other = []

/-- The further terms that are declared already, but in another way. -/
def conflicts (registry : Registry) (further : List Term) : List Term :=
  further.filter fun term => (registry.find? term.scope term.name).any (· ≠ term)

/-- No two terms of a scope have one name. -/
def Distinct (terms : List Term) : Prop :=
  terms.Pairwise fun a b => a.scope = b.scope → a.name ≠ b.name

theorem merge_eq_mergeTerms {config : Value} (h : termsOfConfig config = .ok further) :
    registry.merge config = registry.mergeTerms further := by
  rw [merge, h]
  rfl

theorem mergeTerms_outcome : (registry.mergeTerms further).outcome =
    ofTerms (registry.terms ++ additions registry.terms further) := rfl

theorem namesake?_terms (registry : Registry) (term : Term) :
    namesake? registry.terms term = registry.find? term.scope term.name :=
  namesake?_eq_find? registry.terms term

theorem mergeTerms_events : (registry.mergeTerms further).events =
    (registry.conflicts further).map .supplementIgnored := by
  refine (List.append_nil _).trans (congrArg _ (List.filter_congr fun term _ => ?_))
  rw [namesake?_terms]
  cases registry.find? term.scope term.name <;> rfl

/-- What a registry is made of are the terms that were there and the added ones, scope by scope. -/
theorem inScope_supplement (registry : Registry) (further : List Term) (scope : Scope) :
    inScope (registry.terms ++ additions registry.terms further) scope =
      registry.combined further scope := by
  rw [inScope_append, additions, inScope, inScope, List.filter_comm, combined]
  refine congrArg _ (List.filter_congr fun term hterm => ?_)
  rw [namesake?_terms, (mem_inScope.1 hterm).2]

theorem combined_pairwise (hdistinct : Distinct further) (scope : Scope) :
    (registry.combined further scope).Pairwise fun a b => a.name ≠ b.name := by
  rw [combined, List.pairwise_append]
  refine ⟨table_pairwise scope, ?_, fun declared hdeclared term hterm heq => ?_⟩
  · refine ((hdistinct.filter _).imp_of_mem fun ha hb h => h ?_).filter _
    rw [(mem_inScope.1 ha).2, (mem_inScope.1 hb).2]
  · obtain ⟨-, hnew⟩ := List.mem_filter.1 hterm
    rw [find?_eq_some_iff.2 ⟨hdeclared, heq⟩] at hnew
    cases hnew

theorem leavesOpen_iff : registry.LeavesOpen further ↔
    danglingIssues (registry.terms ++ additions registry.terms further) ≠ [] := by
  rw [Ne, danglingIssues_eq_nil_iff]
  push Not
  constructor
  · rintro ⟨scope, term, hterm, other, hother, hnil⟩
    rw [← inScope_supplement] at hterm hnil
    refine ⟨term, (mem_inScope.1 hterm).1, other, hother, fun declared hdeclared heq => ?_⟩
    exact List.ne_nil_of_mem (mem_inScope.2 ⟨hdeclared, heq⟩) hnil
  · rintro ⟨term, hterm, other, hother, hnone⟩
    refine ⟨term.scope, term, ?_, other, hother, ?_⟩
    · rw [← inScope_supplement]
      exact mem_inScope.2 ⟨hterm, rfl⟩
    · rw [← inScope_supplement, List.eq_nil_iff_forall_not_mem]
      intro declared hdeclared
      exact hnone declared (mem_inScope.1 hdeclared).1 (mem_inScope.1 hdeclared).2

theorem exists_ofTerms (h : danglingIssues terms = []) :
    ∃ registry, ofTerms terms = .ok registry ∧ registry.terms = arrange terms :=
  ⟨_, dif_pos h, rfl⟩

/-- Terms of different names are merged into their tables as they are. -/
theorem exists_mergeTerms (hdistinct : Distinct further) (h : ¬ registry.LeavesOpen further) :
    ∃ merged, (registry.mergeTerms further).outcome = .ok merged ∧
      ∀ scope, merged.table scope = registry.combined further scope := by
  rw [leavesOpen_iff, not_ne_iff] at h
  obtain ⟨merged, hmerged, hterms⟩ := exists_ofTerms h
  refine ⟨merged, hmerged, fun scope => ?_⟩
  rw [table, hterms, inScope_arrange, inScope_supplement,
    firstOfName_of_pairwise (combined_pairwise hdistinct scope)]

theorem distinct_of_inScope
    (h : ∀ scope, (inScope terms scope).Pairwise fun a b => a.name ≠ b.name) : Distinct terms := by
  refine List.pairwise_iff_forall_sublist.2 fun {a b} hsub heq => ?_
  have hkept : [a, b].filter (fun term => term.scope = a.scope) = [a, b] := by simp [heq]
  have hsub : [a, b].Sublist (inScope terms a.scope) := hkept ▸ hsub.filter _
  exact List.pairwise_iff_forall_sublist.1 (h a.scope) hsub

theorem distinct_of_written {written : Entries String Value} (hwritten : WrittenOnce written)
    (h : termsOfConfig (.map written) = .ok terms) : Distinct terms := by
  obtain ⟨tables, rfl, -⟩ := exists_tables hwritten h
  refine distinct_of_inScope fun scope => ?_
  rw [TermTables.inScope_terms]
  exact TermTables.table_pairwise scope

theorem Distinct.keys_nodup (h : Distinct terms) :
    (terms.map fun term => (term.scope, term.name)).Nodup := by
  refine List.pairwise_map.2 (h.imp fun hne heq => ?_)
  exact hne (Prod.mk.inj heq).1 (Prod.mk.inj heq).2

/-- Merging keeps every declared term and adds exactly the new ones. It fails exactly if a term of the
combined tables refers to a scope that has none; otherwise the tables are the combined ones. There is
one warning for each scope and name that are declared in both in different ways, in the order in which
the entries are written. -/
theorem merge_adds_new {written : Entries String Value} (hwritten : WrittenOnce written)
    (hread : termsOfConfig (.map written) = .ok further) :
    let merging := registry.merge (.map written)
    (registry.LeavesOpen further → ∃ issues, issues ≠ [] ∧
        merging.outcome = .error (.registry (.undeclared issues))) ∧
      (¬ registry.LeavesOpen further → ∃ merged, merging.outcome = .ok merged ∧
        ∀ scope, merged.table scope = registry.combined further scope) ∧
      merging.events = (registry.conflicts further).map .supplementIgnored ∧
      (∀ event ∈ merging.events, event.level = .warning) ∧
      ((registry.conflicts further).map fun term => (term.scope, term.name)).Nodup := by
  intro merging
  have hmerging : merging = registry.mergeTerms further := merge_eq_mergeTerms hread
  have hdistinct := distinct_of_written hwritten hread
  rw [hmerging]
  refine ⟨fun hopen => ?_, exists_mergeTerms hdistinct, mergeTerms_events, fun event hevent => ?_, ?_⟩
  · rw [leavesOpen_iff] at hopen
    exact ⟨_, hopen, dif_neg hopen⟩
  · rw [mergeTerms_events] at hevent
    obtain ⟨term, -, rfl⟩ := List.mem_map.1 hevent
    rfl
  · exact Distinct.keys_nodup (hdistinct.filter _)

/-- Relations of agents as they are written: one that is declared already, one that is declared in
another way, a new one and, on request, one to places, of which there are no terms. -/
def writtenRelations (toPlaces : Bool) : Entries String Value :=
  let hop (relation target : String) : Value :=
    .map [("patternName", .string "hopWithField"), ("predicates", .list [.string relation]),
      ("targetScope", .string target)]
  [("agent", .map ([("created", hop "lux(\"agentCreated\")" "work"),
      ("memberOf", hop "lux(\"agentMemberOf\")" "place"),
      ("spouseOf", hop "lux(\"agentSpouse\")" "agent")] ++
        if toPlaces then [("bornAt", hop "lux(\"placeOfBirth\")" "place")] else [])),
    ("place", .map [])]

theorem writtenRelations_once (toPlaces : Bool) : WrittenOnce (writtenRelations toPlaces) := by
  refine ⟨by simp [writtenRelations, Entries.keys], fun key entries hmem => ?_⟩
  simp only [writtenRelations, List.mem_cons, Prod.mk.injEq, Value.map.injEq, List.not_mem_nil,
    or_false] at hmem
  obtain ⟨-, rfl⟩ | ⟨-, rfl⟩ := hmem
  · cases toPlaces <;> decide
  · decide

/-- The relation declared anew leads to places now, but it is left out; only the one to places that is
new leaves a reference open. -/
theorem writtenRelations_merged :
    (∀ toPlaces, WrittenOnce (writtenRelations toPlaces) ∧
      ∃ further, termsOfConfig (.map (writtenRelations toPlaces)) = .ok further) ∧
    (∃ merged, (circles.merge (.map (writtenRelations false))).outcome = .ok merged ∧
      (merged.table .agent).map Term.name = ["created", "memberOf", "relatedToAgent", "spouseOf"]) ∧
    (∃ term, (circles.merge (.map (writtenRelations false))).events = [.supplementIgnored term] ∧
      term.title = "agent.memberOf") ∧
    ∃ issues, issues ≠ [] ∧ (circles.merge (.map (writtenRelations true))).outcome =
      .error (.registry (.undeclared issues)) := by
  have hsome : ∀ toPlaces, (termsOfConfig (.map (writtenRelations toPlaces))).toOption.isSome =
      true := by decide +kernel
  have hread (toPlaces : Bool) :
      ∃ further, termsOfConfig (.map (writtenRelations toPlaces)) = .ok further := by
    obtain ⟨further, hfurther⟩ := Option.isSome_iff_exists.1 (hsome toPlaces)
    exact ⟨further, toOption_eq_some_iff.1 hfurther⟩
  refine ⟨fun toPlaces => ⟨writtenRelations_once toPlaces, hread toPlaces⟩, ?_, ?_, ?_⟩
  · obtain ⟨further, hfurther⟩ := hread false
    obtain ⟨-, hmerged, -⟩ := @merge_adds_new circles _ _ (writtenRelations_once false) hfurther
    have hclosed : (termsOfConfig (.map (writtenRelations false))).toOption.map (fun further =>
        danglingIssues (circles.terms ++ additions circles.terms further)) = some [] := by
      decide +kernel
    have hnames : (termsOfConfig (.map (writtenRelations false))).toOption.map (fun further =>
        (circles.combined further .agent).map Term.name) =
          some ["created", "memberOf", "relatedToAgent", "spouseOf"] := by decide +kernel
    rw [hfurther] at hclosed hnames
    obtain ⟨merged, hmerged, htable⟩ := hmerged (leavesOpen_iff.not_left.2 (Option.some.inj hclosed))
    exact ⟨merged, hmerged, by rw [htable]; exact Option.some.inj hnames⟩
  · obtain ⟨further, hfurther⟩ := hread false
    obtain ⟨-, -, hevents, -⟩ := @merge_adds_new circles _ _ (writtenRelations_once false) hfurther
    have htitles : (termsOfConfig (.map (writtenRelations false))).toOption.map (fun further =>
        (circles.conflicts further).map Term.title) = some ["agent.memberOf"] := by decide +kernel
    rw [hfurther] at htitles
    obtain ⟨term, hterm, htitle⟩ := List.map_eq_singleton_iff.1 (Option.some.inj htitles)
    exact ⟨term, by rw [hevents, hterm]; rfl, htitle⟩
  · obtain ⟨further, hfurther⟩ := hread true
    obtain ⟨hfails, -⟩ := @merge_adds_new circles _ _ (writtenRelations_once true) hfurther
    have hopen : (termsOfConfig (.map (writtenRelations true))).toOption.map (fun further =>
        (danglingIssues (circles.terms ++ additions circles.terms further)).map Issue.term) =
          some ["bornAt"] := by decide +kernel
    rw [hfurther] at hopen
    refine hfails (leavesOpen_iff.2 fun hnil => ?_)
    simp [Except.toOption, hnil] at hopen

end Registry

end ScopedSearch
