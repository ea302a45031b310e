import ScopedSearch.Proofs.Reachability

/-!
# The way back of a hop

A hop may declare a term of its target as the way back. The audit is silent about such a hop exactly if
that term is there and hops back (`Registry.not_warns_iff_hopsBack`). A term compiles the identifier of
every record to one hop into a scope exactly if it is a hop into that scope
(`Compiler.compilesToHop_iff`); so the audit is silent exactly if both terms compile every identifier,
each to one hop into the scope of the other (`Registry.silent_iff_back_and_forth`).
-/

namespace ScopedSearch

/-- The tree is one hop from a scope into another, to the record of an identifier. -/
def Query.HopsTo (source target : Scope) (id : RecordId) (tree : Query) : Prop :=
  ∃ name relation,
    tree = .hop name (.record id) (some source.name) (some relation) (some target.name)

namespace Term

/-- A term of the pattern of hops with a target is a hop into it. -/
theorem hopsInto_iff {term : Term} {target : Scope} :
    (term.isHop && decide (term.declaration.targetScope = some target)) = true ↔
      ∃ predicate, term.role = .hop predicate target := by
  have hdescribes := term.describes_role
  rw [Bool.and_eq_true, decide_eq_true_eq, isHop, decide_eq_true_eq, pattern]
  constructor
  · rintro ⟨hpattern, htarget⟩
    cases hrole : term.role with
    | hop predicate declared =>
      rw [hrole] at hdescribes
      cases hdescribes with
      | hop _ _ _ hdeclared =>
        rw [hdeclared, Option.some.injEq] at htarget
        exact ⟨predicate, by rw [htarget]⟩
    | documentId | similar | indexed | text | related =>
      rw [hrole] at hdescribes
      cases hdescribes
      all_goals simp_all [Pattern.isIndexed]
  · rintro ⟨predicate, hrole⟩
    rw [hrole] at hdescribes
    cases hdescribes with
    | hop hpattern _ _ htarget => exact ⟨hpattern, htarget⟩

end Term

namespace Registry

variable {registry : Registry} {hop : Hop} {strict : Bool}

/-- The term that a hop declares as the way back is there and hops back. -/
def HopsBack (registry : Registry) (hop : Hop) (back : Hop) : Prop :=
  registry.inverseOf hop.term = some back.term ∧ back.source = hop.target ∧ back.target = hop.source

theorem inverseOf_hop {name : String} (hname : hop.term.declaration.inverseName = some name) :
    registry.inverseOf hop.term = registry.find? hop.target name := by
  rw [inverseOf, hop.role, hname]

/-- What is declared as the way back of a hop is a term of its target. -/
theorem mem_table_of_inverseOf {back : Term} (h : registry.inverseOf hop.term = some back) :
    back ∈ registry.table hop.target := by
  unfold inverseOf at h
  split at h
  · next hrole _ =>
    obtain ⟨-, rfl⟩ := Role.hop.inj (hop.role.symm.trans hrole)
    exact (find?_eq_some_iff.1 h).1
  · cases h

/-- What the audit finds about a declared way back is a warning, unless the term is there and is a hop
into the source. -/
theorem exists_warning_iff {name : String} (hname : hop.term.declaration.inverseName = some name) :
    (∃ issue, registry.inverseIssue hop.term hop.target = some issue ∧ issue.severity = .warning) ↔
      ∀ back, registry.inverseOf hop.term = some back →
        ¬ ∃ predicate, back.role = .hop predicate hop.source := by
  rw [inverseOf_hop hname]
  simp only [inverseIssue, hname]
  cases registry.find? hop.target name with
  | none => simp [issueAt]
  | some back =>
    simp only [Option.some.injEq, forall_eq']
    rw [← back.hopsInto_iff, Hop.source]
    split
    · next hinto => simp [hinto]
    · next hinto => simpa [issueAt] using hinto

/-- The audit is silent about a hop with a declared way back exactly if the term is there and hops
back. -/
theorem not_warns_iff_hopsBack (hhop : hop.term ∈ registry.terms)
    (hback : hop.term.declaration.inverseName ≠ none) :
    ¬ registry.Warns strict hop.term ↔ ∃ back, registry.HopsBack hop back := by
  obtain ⟨name, hname⟩ := Option.ne_none_iff_exists'.1 hback
  have hissue : registry.termIssue hop.term = registry.inverseIssue hop.term hop.target := by
    rw [termIssue, hop.role]
  rw [warns_iff_exists_termIssue hhop, hissue, exists_warning_iff hname]
  constructor
  · intro hnot
    push Not at hnot
    obtain ⟨back, hfound, predicate, hrole⟩ := hnot
    have hsource : back.scope = hop.target := scope_of_mem_table (mem_table_of_inverseOf hfound)
    exact ⟨⟨back, predicate, hop.source, hrole⟩, hfound, hsource, rfl⟩
  · rintro ⟨back, hfound, -, htarget⟩ hnone
    exact hnone back.term hfound ⟨back.predicate, htarget ▸ back.role⟩

end Registry

namespace Compiler

variable {compiler : Compiler} {term : Term} {target : Scope}

/-- The term compiles the identifier of every record to one hop from its scope into the target. -/
def CompilesToHop (compiler : Compiler) (term : Term) (target : Scope) : Prop :=
  ∀ id : RecordId, ∃ tree,
    (compiler.compile (.string term.scope.name) term.name (.string id.text)).outcome = .ok tree ∧
      tree.HopsTo term.scope target id

theorem compile_outcome_name {scope : Scope} {name : String} {value : Value} :
    (compiler.compile (.string scope.name) name value).outcome =
      (compiler.termQuery scope name value {} none (compiler.target value)).outcome := by
  rw [compile, Traced.bind_outcome, Traced.lift_outcome, Scope.ofValue_eq_ok_iff.2 rfl,
    Traced.ok_bind]

theorem compilesToHop_of_role {predicate : Predicate} (hterm : term ∈ compiler.registry.terms)
    (hrole : term.role = .hop predicate target) : compiler.CompilesToHop term target := by
  intro id
  have hmem : (⟨term, predicate, target, hrole⟩ : Hop) ∈ compiler.registry.hopsFrom term.scope :=
    Registry.mem_hopsFrom_iff.2 (Registry.mem_table.2 ⟨hterm, rfl⟩)
  have htarget : (compiler.target (.string id.text) term target).outcome = .ok (.record id) :=
    target_eq_ok_iff.2 (.text id)
  exact ⟨_, compile_outcome_name.trans (termQuery_of_hop hmem htarget), term.name, predicate.curie,
    rfl⟩

/-- Only a hop into the target compiles to one: the others compile to leaves and groups. -/
theorem role_of_compilesToHop (hterm : term ∈ compiler.registry.terms)
    (h : compiler.CompilesToHop term target) : ∃ predicate, term.role = .hop predicate target := by
  obtain ⟨tree, hcompiled, name, relation, rfl⟩ := h ⟨"record", by decide⟩
  rw [compile_outcome_name] at hcompiled
  generalize hfound : term.name = found at hcompiled
  generalize htree : Query.hop name _ _ _ _ = tree at hcompiled
  cases yields_of_termQuery hcompiled with
  | leaf => cases htree
  | related => cases htree
  | hop hop hmem _ _ =>
    obtain rfl : term = hop.term :=
      Registry.eq_of_mem_table (Registry.mem_table.2 ⟨hterm, rfl⟩)
        (Registry.mem_hopsFrom_iff.1 hmem) hfound
    simp only [Hop.query, Query.hop.injEq, Option.some.injEq] at htree
    obtain ⟨-, -, -, -, htarget⟩ := htree
    exact ⟨hop.predicate, Scope.name_injective htarget ▸ hop.role⟩

/-- A term compiles every identifier to one hop into a scope exactly if it is a hop into that scope. -/
theorem compilesToHop_iff (hterm : term ∈ compiler.registry.terms) :
    compiler.CompilesToHop term target ↔ ∃ predicate, term.role = .hop predicate target :=
  ⟨role_of_compilesToHop hterm, fun ⟨_, hrole⟩ => compilesToHop_of_role hterm hrole⟩

end Compiler

namespace Registry

variable {registry : Registry} {hop : Hop}

/-- The audit is silent about a hop with a declared way back exactly if that term is there and the two
compile to and fro: the hop compiles the identifier of every record to one hop from its scope into the
scope of the other term, and the other compiles every identifier to one hop back. -/
theorem silent_iff_back_and_forth (hhop : hop.term ∈ registry.terms)
    (hback : hop.term.declaration.inverseName ≠ none) (strict clamps : Bool) :
    let compiler : Compiler := ⟨registry, clamps⟩
    ¬ registry.Warns strict hop.term ↔
      ∃ back, registry.inverseOf hop.term = some back ∧
        compiler.CompilesToHop hop.term back.scope ∧ compiler.CompilesToHop back hop.source := by
  intro compiler
  have hmem {back : Term} (hfound : registry.inverseOf hop.term = some back) :
      back ∈ compiler.registry.terms ∧ back.scope = hop.target :=
    mem_table.1 (mem_table_of_inverseOf hfound)
  rw [not_warns_iff_hopsBack hhop hback]
  constructor
  · rintro ⟨back, hfound, hsource, htarget⟩
    obtain ⟨hterm, -⟩ := hmem hfound
    refine ⟨back.term, hfound, ?_, ?_⟩
    · have hrole : hop.term.role = .hop hop.predicate back.source := hsource ▸ hop.role
      exact Compiler.compilesToHop_of_role hhop hrole
    · have hrole : back.term.role = .hop back.predicate hop.source := htarget ▸ back.role
      exact Compiler.compilesToHop_of_role hterm hrole
  · rintro ⟨back, hfound, -, hcompiles⟩
    obtain ⟨hterm, hscope⟩ := hmem hfound
    obtain ⟨predicate, hrole⟩ := (Compiler.compilesToHop_iff hterm).1 hcompiles
    exact ⟨⟨back, predicate, hop.source, hrole⟩, hfound, hscope, rfl⟩

end Registry

/-! ### A way back that is none -/

namespace Hop

/-- From agents to the works that they created. -/
def created : Hop where
  term :=
    { declaration :=
        { scope := .agent, name := "created", pattern := .hopWithField,
          predicates := ["lux(\"agentCreated\")"], targetScope := some .work,
          inverseName := some "createdBy" }
      predicates := [⟨.lux, "agentCreated"⟩]
      role := .hop ⟨.lux, "agentCreated"⟩ .work
      checked := rfl }
  predicate := ⟨.lux, "agentCreated"⟩
  target := .work
  role := rfl

/-- From agents to the works that mention them, with the text of a work for the way back. -/
def mentionedIn : Hop where
  term :=
    { declaration :=
        { scope := .agent, name := "mentionedIn", pattern := .hopWithField,
          predicates := ["lux(\"agentMentionedIn\")"], targetScope := some .work,
          inverseName := some "text" }
      predicates := [⟨.lux, "agentMentionedIn"⟩]
      role := .hop ⟨.lux, "agentMentionedIn"⟩ .work
      checked := rfl }
  predicate := ⟨.lux, "agentMentionedIn"⟩
  target := .work
  role := rfl

end Hop

theorem workText_checked :
    Declaration.check
        { scope := .work, name := "text", pattern := .text, indexReferences := ["workAnyText"] } =
      .ok ([], .text "workAnyText") := rfl

/-- A registry of agents and works in which one hop has a way back and one has none. -/
def Registry.makers : Registry where
  terms :=
    [Hop.created.term, Hop.mentionedIn.term,
     { declaration :=
         { scope := .work, name := "createdBy", pattern := .hopWithField,
           predicates := ["lux(\"workCreatedBy\")"], targetScope := some .agent,
           inverseName := some "created" }
       predicates := [⟨.lux, "workCreatedBy"⟩]
       role := .hop ⟨.lux, "workCreatedBy"⟩ .agent
       checked := rfl },
     { declaration :=
         { scope := .work, name := "text", pattern := .text, indexReferences := ["workAnyText"] }
       predicates := []
       role := .text "workAnyText"
       checked := workText_checked }]
  arranged := by decide
  closed := by decide

/-- Agents and what they created compile to and fro; the text of a work leads nowhere. -/
theorem Registry.makers_back_and_forth :
    let compiler : Compiler := ⟨.makers, true⟩
    Hop.created.term ∈ makers.terms ∧ Hop.created.term.declaration.inverseName ≠ none ∧
      Hop.mentionedIn.term ∈ makers.terms ∧
      Hop.mentionedIn.term.declaration.inverseName ≠ none ∧
      (∃ back, makers.inverseOf Hop.created.term = some back ∧
        compiler.CompilesToHop Hop.created.term back.scope ∧ compiler.CompilesToHop back .agent) ∧
      makers.Warns true Hop.mentionedIn.term ∧
      ¬ ∃ back, makers.inverseOf Hop.mentionedIn.term = some back ∧
        compiler.CompilesToHop Hop.mentionedIn.term back.scope ∧
          compiler.CompilesToHop back .agent := by
  intro compiler
  have hcreated : Hop.created.term ∈ makers.terms := by decide
  have hmentioned : Hop.mentionedIn.term ∈ makers.terms := by decide
  have hsilent : ¬ makers.Warns true Hop.created.term := by decide +kernel
  have hwarned : makers.Warns true Hop.mentionedIn.term := by decide +kernel
  have hfirst := silent_iff_back_and_forth hcreated nofun true true
  have hsecond := silent_iff_back_and_forth hmentioned nofun true true
  exact ⟨hcreated, nofun, hmentioned, nofun, hfirst.1 hsilent, hwarned,
    fun hback => hsecond.2 hback hwarned⟩

end ScopedSearch
