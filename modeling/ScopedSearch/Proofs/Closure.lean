import ScopedSearch.Proofs.Failure
import ScopedSearch.Registry.Config

/-!
# Closed registries

Tables of terms make a registry exactly if every scope that a term names has terms itself; otherwise
the error lists each reference to a scope without terms, table after table and term after term, the
target of a term before the scopes in between (`Registry.ofTerms_tables_eq_error`). A registry holds the
tables that it was made of (`Registry.exists_ofTerms_tables`), and a written one is made of the tables
that are written (`Registry.ofConfig_eq_ofTerms`). What lookups, chains and compilation rely on holds of
every registry, however it was made (`Registry.Sound`).
-/

namespace ScopedSearch

open ScopedSearch.Text

/-! ### Tables of terms -/

/-- Terms that are stored by scope and name, in the order of declaration. A table may be empty. -/
structure TermTables where
  tables : Entries Scope (Entries String Term)
  scopes_nodup : tables.keys.Nodup
  names_nodup : ∀ table ∈ tables, table.2.keys.Nodup
  stored : ∀ table ∈ tables, ∀ entry ∈ table.2, entry.2.scope = table.1 ∧ entry.2.name = entry.1

/-- A scope that a term names, as its target or among the scopes in between. -/
structure Reference where
  source : Term
  isTarget : Bool
  scope : Scope

/-- The error about a reference to a scope without terms. -/
def Reference.issue (reference : Reference) : Issue :=
  let field := if reference.isTarget then "targetScope " else "inBetweenScopes entry "
  Registry.issueAt reference.source .error
    (field ++ quoted reference.scope.name ++ " has no declared terms")

/-- The scopes that a term names, its target before those in between. -/
def Term.namedScopes (term : Term) : List Reference :=
  term.declaration.targetScope.toList.map (⟨term, true, ·⟩) ++
    term.declaration.inBetweenScopes.map (⟨term, false, ·⟩)

theorem Term.map_scope_namedScopes (term : Term) :
    term.namedScopes.map Reference.scope = term.references := by
  simp [namedScopes, references, Function.comp_def]

namespace TermTables

variable (tables : TermTables)

/-- The terms of a scope. -/
def table (scope : Scope) : List Term := ((tables.tables.get? scope).getD []).values

/-- All terms, table after table. -/
def terms : List Term := tables.tables.flatMap fun table => table.2.values

/-- The references to scopes without terms, table after table. -/
def dangling : List Reference :=
  (tables.terms.flatMap Term.namedScopes).filter fun reference =>
    !Registry.declares tables.terms reference.scope

variable {tables}

theorem table_of_mem {table : Scope × Entries String Term} (h : table ∈ tables.tables) :
    tables.table table.1 = table.2.values := by
  rw [TermTables.table, Entries.get?_of_mem tables.scopes_nodup h, Option.getD_some]

theorem terms_eq_flatMap : tables.terms = tables.tables.keys.flatMap tables.table := by
  rw [terms, Entries.keys, List.flatMap_map]
  exact List.flatMap_congr fun table htable => (table_of_mem htable).symm

/-- The table of a scope is one of those that are given, or it has no terms. -/
theorem table_cases (tables : TermTables) (scope : Scope) :
    tables.table scope = [] ∨
      ∃ entries, (scope, entries) ∈ tables.tables ∧ tables.table scope = entries.values := by
  unfold TermTables.table
  cases hget : tables.tables.get? scope with
  | none => exact .inl rfl
  | some entries => exact .inr ⟨entries, Entries.mem_of_get? hget, rfl⟩

theorem scope_of_mem_table {scope : Scope} {term : Term} (h : term ∈ tables.table scope) :
    term.scope = scope := by
  obtain hnil | ⟨entries, hentries, htable⟩ := tables.table_cases scope
  · rw [hnil] at h
    cases h
  · rw [htable] at h
    obtain ⟨entry, hentry, rfl⟩ := List.mem_map.1 h
    exact (tables.stored _ hentries entry hentry).1

/-- Terms of one table have different names, as they are stored under them. -/
theorem table_pairwise (scope : Scope) :
    (tables.table scope).Pairwise fun a b => a.name ≠ b.name := by
  obtain hnil | ⟨entries, hentries, htable⟩ := tables.table_cases scope
  · rw [hnil]
    exact .nil
  · have hnames : entries.values.map Term.name = entries.keys := by
      rw [Entries.values, List.map_map]
      exact List.map_congr_left fun entry hentry => (tables.stored _ hentries entry hentry).2
    have hnodup := tables.names_nodup _ hentries
    rw [htable]
    exact List.pairwise_map.1 (hnames ▸ hnodup)

theorem table_eq_nil {scope : Scope} (h : scope ∉ tables.tables.keys) : tables.table scope = [] := by
  obtain hnil | ⟨entries, hentries, -⟩ := tables.table_cases scope
  · exact hnil
  · exact absurd (List.mem_map_of_mem hentries) h

theorem inScope_terms (scope : Scope) :
    Registry.inScope tables.terms scope = tables.table scope := by
  rw [terms_eq_flatMap, Registry.inScope_flatMap _ _ _ (fun _ _ => scope_of_mem_table)
    tables.scopes_nodup]
  split
  · rfl
  · next hscope => exact (table_eq_nil hscope).symm

end TermTables

/-! ### Entries under a name and a scope -/

theorem Field.required_eq {α : Type} {entries : Entries String Value} {name : String}
    {value : Value} {read : List PathStep → Value → Checked α}
    (h : entries.get? name = some value) :
    required entries [name] read = read [.field name] value := by
  simp [required, find?, h]

theorem Field.eq_of_member {α : Type} {choices : List String} {ofName? : String → Option α}
    {path : List PathStep} {text : String} {expected found : α}
    (hname : ofName? text = some expected)
    (h : member choices ofName? path (.string text) = .ok found) : found = expected := by
  rw [member, hname] at h
  split at h
  · cases h
  · exact (Checked.ok.inj h).symm

/-- An entry that is read under a name in a scope declares that name and that scope. -/
theorem Declaration.stored_of_read {entries : Entries String Value} {name : String} {scope : Scope}
    {declaration : Declaration}
    (h : read ((entries.put "name" (.string name)).put "scope" (.string scope.name)) =
      .ok declaration) : declaration.scope = scope ∧ declaration.name = name := by
  unfold read at h
  -- The fields behind the scope leave what was read before them.
  iterate 9
    rw [Checked.ap_eq_ok_iff] at h
    obtain ⟨_, _, h, -, rfl⟩ := h
  rw [Checked.ap_eq_ok_iff] at h
  obtain ⟨_, foundScope, h, hscope, rfl⟩ := h
  rw [Checked.ap_eq_ok_iff] at h
  obtain ⟨_, foundName, h, hname, rfl⟩ := h
  cases h
  have hgivenScope : ((entries.put "name" (.string name)).put "scope" (.string scope.name)).get?
      "scope" = some (.string scope.name) := by simp [Entries.get?_put]
  have hgivenName : ((entries.put "name" (.string name)).put "scope" (.string scope.name)).get?
      "name" = some (.string name) := by simp [Entries.get?_put]
  rw [Field.required_eq hgivenScope] at hscope
  rw [Field.required_eq hgivenName] at hname
  cases hname
  exact ⟨Field.eq_of_member scope.ofName?_name hscope, rfl⟩

theorem Term.stored_of_read {entries : Entries String Value} {name : String} {scope : Scope}
    {term : Term}
    (h : read ((entries.put "name" (.string name)).put "scope" (.string scope.name)) = .ok term) :
    term.scope = scope ∧ term.name = name := by
  unfold read at h
  split at h
  · cases h
  · next declaration hdeclaration =>
    split at h
    · next found hfound =>
      cases h
      have hstored := Declaration.stored_of_read hdeclaration
      rwa [← declaration_of_ofDeclaration hfound] at hstored
    · cases h

namespace Registry

variable {registry : Registry} {terms : List Term}

/-! ### References to scopes without terms -/

/-- Tables one after the other have their scopes in their order, those without terms left out. -/
theorem scopesOf_flatMap {tables : Scope → List Term} {scopes : List Scope}
    (hscope : ∀ s, ∀ term ∈ tables s, term.scope = s) (hnodup : scopes.Nodup) :
    scopesOf (scopes.flatMap tables) = scopes.filter fun scope => !(tables scope).isEmpty := by
  induction hnodup with
  | nil => rfl
  | @cons first rest hfirst hrest ih =>
    rw [scopesOf] at ih
    cases htable : tables first with
    | nil => simpa [scopesOf, htable] using ih
    | cons term others =>
      have hterm : ∀ other ∈ term :: others, other.scope = first := by
        rw [← htable]
        exact hscope first
      -- The terms of the first table all have its scope, and no term behind them has it.
      have hothers : (others.map Term.scope).filter (fun scope => !scope == first) = [] := by
        rw [List.filter_eq_nil_iff]
        intro scope hmem
        obtain ⟨other, hother, rfl⟩ := List.mem_map.1 hmem
        simp [hterm other (List.mem_cons_of_mem _ hother)]
      have hbehind : ((rest.flatMap tables).map Term.scope).filter (fun scope => !scope == first) =
          (rest.flatMap tables).map Term.scope := by
        rw [List.filter_eq_self]
        intro scope hmem
        obtain ⟨other, hother, rfl⟩ := List.mem_map.1 hmem
        obtain ⟨s, hs, hother⟩ := List.mem_flatMap.1 hother
        rw [hscope s other hother]
        simpa using (hfirst s hs).symm
      rw [scopesOf, List.flatMap_cons, htable, List.map_append, List.map_cons, List.cons_append,
        List.eraseDups_cons, hterm term List.mem_cons_self, List.filter_append, hothers, hbehind,
        List.nil_append, ih, List.filter_cons_of_pos (by simp [htable])]

theorem issuesOf_eq (term : Term) :
    issuesOf terms term =
      (term.namedScopes.filter fun reference => !declares terms reference.scope).map
        Reference.issue := by
  have hissue (isTarget : Bool) (field : String)
      (hfield : field = if isTarget then "targetScope " else "inBetweenScopes entry ")
      (scopes : List Scope) :
      (scopes.filterMap fun scope =>
        if declares terms scope then none
        else some (issueAt term .error (field ++ quoted scope.name ++ " has no declared terms"))) =
      ((scopes.map fun scope => (⟨term, isTarget, scope⟩ : Reference)).filter
        fun reference => !declares terms reference.scope).map Reference.issue := by
    subst hfield
    induction scopes with
    | nil => rfl
    | cons scope rest ih =>
      cases hdeclares : declares terms scope <;> simp [hdeclares, ih, Reference.issue]
  rw [Term.namedScopes, List.filter_append, List.map_append, ← hissue true _ rfl,
    ← hissue false _ rfl]
  rfl

/-- Leaving out empty tables leaves out no term. -/
theorem flatMap_filter_nonempty (tables : Scope → List Term) (scopes : List Scope) :
    (scopes.filter fun scope => !(tables scope).isEmpty).flatMap tables = scopes.flatMap tables := by
  induction scopes with
  | nil => rfl
  | cons first rest ih =>
    rw [List.filter_cons, List.flatMap_cons, ← ih]
    cases htable : tables first <;> simp [htable]

/-- The terms of tables, grouped by scope, are in the order of the tables already. -/
theorem flatMap_inScope_terms (tables : TermTables) :
    (scopesOf tables.terms).flatMap (inScope tables.terms) = tables.terms := by
  have hscopes : scopesOf tables.terms =
      tables.tables.keys.filter fun scope => !(tables.table scope).isEmpty := by
    rw [TermTables.terms_eq_flatMap]
    exact scopesOf_flatMap (fun _ _ => TermTables.scope_of_mem_table) tables.scopes_nodup
  calc
    (scopesOf tables.terms).flatMap (inScope tables.terms)
      = (scopesOf tables.terms).flatMap tables.table :=
        List.flatMap_congr fun scope _ => TermTables.inScope_terms scope
    _ = tables.tables.keys.flatMap tables.table := by rw [hscopes, flatMap_filter_nonempty]
    _ = tables.terms := TermTables.terms_eq_flatMap.symm

/-- The errors about tables: one for each reference to a scope without terms, in their order. -/
theorem danglingIssues_tables (tables : TermTables) :
    danglingIssues tables.terms = tables.dangling.map Reference.issue := by
  calc
    danglingIssues tables.terms
      = ((scopesOf tables.terms).flatMap (inScope tables.terms)).flatMap
          (issuesOf tables.terms) := List.flatMap_assoc.symm
    _ = tables.terms.flatMap (issuesOf tables.terms) := by rw [flatMap_inScope_terms]
    _ = tables.dangling.map Reference.issue := by
      rw [TermTables.dangling, List.filter_flatMap, List.map_flatMap]
      exact List.flatMap_congr fun term _ => issuesOf_eq term

theorem dangling_eq_nil_iff {tables : TermTables} :
    tables.dangling = [] ↔ ∀ term ∈ tables.terms, ∀ scope ∈ term.references,
      ∃ other ∈ tables.terms, other.scope = scope := by
  simp only [TermTables.dangling, List.filter_eq_nil_iff, List.forall_mem_flatMap,
    ← Term.map_scope_namedScopes, List.forall_mem_map, Bool.not_eq_true', Bool.not_eq_false,
    declares_iff]

/-! ### Making a registry of tables -/

theorem ofTerms_tables_eq_error {tables : TermTables} (h : tables.dangling ≠ []) :
    ofTerms tables.terms = .error (.registry (.undeclared (tables.dangling.map Reference.issue))) := by
  have hissues : danglingIssues tables.terms ≠ [] := by
    rw [danglingIssues_tables]
    simpa using h
  rw [ofTerms, dif_neg hissues, danglingIssues_tables]

/-- A registry that is made of tables holds them as they are. -/
theorem exists_ofTerms_tables {tables : TermTables} (h : tables.dangling = []) :
    ∃ registry, ofTerms tables.terms = .ok registry ∧
      ∀ scope, registry.table scope = tables.table scope := by
  have hissues : danglingIssues tables.terms = [] := by
    rw [danglingIssues_tables, h, List.map_nil]
  refine ⟨_, dif_pos hissues, fun scope => ?_⟩
  rw [table, inScope_arrange, TermTables.inScope_terms]
  exact firstOfName_of_pairwise (TermTables.table_pairwise scope)

/-! ### Written registries -/

/-- The entries of a scope are read one after the other. -/
theorem termsOfTable_cons {scope : Scope} {name : String} {entry : Entries String Value}
    {rest : List (String × Value)} :
    termsOfTable scope ((name, .map entry) :: rest) =
      match Term.read ((entry.put "name" (.string name)).put "scope" (.string scope.name)) with
      | .faulty faults => .error (.registry (.invalidTerm scope name faults))
      | .ok term => (termsOfTable scope rest).map (term :: ·) := (rfl)

theorem stored_of_termsOfTable {scope : Scope} {written : List (String × Value)} {terms : List Term}
    (h : termsOfTable scope written = .ok terms) :
    terms.map Term.name = written.map Prod.fst ∧ ∀ term ∈ terms, term.scope = scope := by
  induction written generalizing terms with
  | nil =>
    cases h
    simp
  | cons first rest ih =>
    obtain ⟨name, value⟩ := first
    cases value with
    | map entry =>
      rw [termsOfTable_cons] at h
      split at h
      · cases h
      · next term hterm =>
        obtain ⟨others, hothers, rfl⟩ := map_eq_ok_iff.1 h
        obtain ⟨hscope, hname⟩ := Term.stored_of_read hterm
        obtain ⟨hnames, hscopes⟩ := ih hothers
        rw [List.map_cons, List.map_cons, hname, hnames, List.forall_mem_cons]
        exact ⟨rfl, hscope, hscopes⟩
    | _ => cases h

/-- The tables of a written registry are read as tables under the same scopes, in which the same names
are stored. -/
theorem tables_of_termsOfTables {written : List (String × Value)} {terms : List Term}
    (h : termsOfTables written = .ok terms) :
    ∃ tables : Entries Scope (Entries String Term),
      (tables.flatMap fun table => table.2.values) = terms ∧
      tables.keys.map Scope.name = written.map Prod.fst ∧
      ∀ table ∈ tables,
        (∃ entries, (table.1.name, .map entries) ∈ written ∧
          table.2.keys = entries.map Prod.fst) ∧
        ∀ entry ∈ table.2, entry.2.scope = table.1 ∧ entry.2.name = entry.1 := by
  induction written generalizing terms with
  | nil =>
    cases h
    exact ⟨[], rfl, rfl, by simp⟩
  | cons first rest ih =>
    obtain ⟨key, value⟩ := first
    rw [termsOfTables] at h
    split at h
    · cases h
    · next scope hscope =>
      obtain rfl := Scope.name_of_ofName? hscope
      cases value with
      | map entries =>
        obtain ⟨first, hfirst, h⟩ := bind_eq_ok_iff.1 h
        obtain ⟨others, hrest, h⟩ := bind_eq_ok_iff.1 h
        cases h
        obtain ⟨tables, hterms, hkeys, htables⟩ := ih hrest
        obtain ⟨hnames, hscopes⟩ := stored_of_termsOfTable hfirst
        refine ⟨(scope, first.map fun term => (term.name, term)) :: tables, ?_, ?_, ?_⟩
        · rw [List.flatMap_cons, hterms]
          simp [Entries.values, Function.comp_def]
        · rw [Entries.keys, List.map_cons, List.map_cons, List.map_cons, ← hkeys, Entries.keys]
        · rw [List.forall_mem_cons]
          refine ⟨⟨⟨entries, List.mem_cons_self, ?_⟩, fun entry hentry => ?_⟩,
            fun table htable => ?_⟩
          · simpa [Entries.keys, Function.comp_def] using hnames
          · obtain ⟨term, hterm, rfl⟩ := List.mem_map.1 hentry
            exact ⟨hscopes term hterm, rfl⟩
          · obtain ⟨⟨entries, hmem, hnames⟩, hstored⟩ := htables table htable
            exact ⟨⟨entries, List.mem_cons_of_mem _ hmem, hnames⟩, hstored⟩
      | _ => cases h

/-- No scope, and no name in a scope, is written twice. -/
structure WrittenOnce (written : Entries String Value) : Prop where
  scopes : written.keys.Nodup
  names : ∀ key entries, (key, Value.map entries) ∈ written → (entries.map Prod.fst).Nodup

/-- What is written without repetition is read as tables: those that are written, with each term under
the scope and the name of its entry. -/
theorem exists_tables {written : Entries String Value} {terms : List Term}
    (hwritten : WrittenOnce written) (h : termsOfConfig (.map written) = .ok terms) :
    ∃ tables : TermTables, tables.terms = terms ∧
      tables.tables.keys.map Scope.name = written.keys ∧
      ∀ table ∈ tables.tables, ∃ entries, (table.1.name, .map entries) ∈ written ∧
        table.2.keys = entries.map Prod.fst := by
  obtain ⟨tables, hterms, hkeys, htables⟩ := tables_of_termsOfTables h
  have hscopes : (tables.keys.map Scope.name).Nodup := by
    rw [hkeys]
    exact hwritten.scopes
  refine ⟨⟨tables, hscopes.of_map _, fun table htable => ?_, fun table htable =>
    (htables table htable).2⟩, hterms, hkeys, fun table htable => (htables table htable).1⟩
  obtain ⟨⟨entries, hmem, hnames⟩, -⟩ := htables table htable
  rw [hnames]
  exact hwritten.names _ entries hmem

/-- A registry that is written without repetition is made of the tables that are written. -/
theorem ofConfig_eq_ofTerms {written : Entries String Value} {terms : List Term}
    (hwritten : WrittenOnce written) (h : termsOfConfig (.map written) = .ok terms) :
    ∃ tables : TermTables, ofConfig (.map written) = ofTerms tables.terms ∧
      tables.tables.keys.map Scope.name = written.keys ∧
      ∀ table ∈ tables.tables, ∃ entries, (table.1.name, .map entries) ∈ written ∧
        table.2.keys = entries.map Prod.fst := by
  obtain ⟨tables, hterms, htables⟩ := exists_tables hwritten h
  refine ⟨tables, ?_, htables⟩
  rw [ofConfig, h, hterms]
  rfl

/-! ### What holds of every registry -/

theorem danglingIssues_eq_nil_iff :
    danglingIssues terms = [] ↔ ∀ term ∈ terms, ∀ scope ∈ term.references,
      ∃ other ∈ terms, other.scope = scope := by
  refine ⟨fun h term hterm scope hscope =>
    declares_iff.1 (declares_of_danglingIssues_eq_nil h hterm hscope), fun h => ?_⟩
  rw [danglingIssues, List.flatMap_eq_nil_iff]
  intro scope hscope
  rw [List.flatMap_eq_nil_iff]
  intro term hterm
  rw [issuesOf_eq, List.map_eq_nil_iff, List.filter_eq_nil_iff]
  intro reference hreference
  have hscope : reference.scope ∈ term.references := by
    rw [← term.map_scope_namedScopes]
    exact List.mem_map_of_mem hreference
  have hdeclares := h term (mem_inScope.1 hterm).1 _ hscope
  simpa using declares_iff.2 hdeclares

theorem danglingIssues_terms (registry : Registry) : danglingIssues registry.terms = [] :=
  danglingIssues_eq_nil_iff.2 registry.closed

/-- What is found about a single term names the term and is no error. -/
theorem issueAt_of_termIssue {term : Term} {issue : Issue}
    (h : registry.termIssue term = some issue) :
    ∃ severity message suggestion, issue = issueAt term severity message suggestion ∧
      severity ≠ .error := by
  unfold termIssue at h
  split at h
  · unfold inverseIssue at h
    split at h
    · cases h
      exact ⟨_, _, _, rfl, nofun⟩
    · split at h
      · cases h
        exact ⟨_, _, _, rfl, nofun⟩
      · split at h
        · cases h
        · cases h
          exact ⟨_, _, _, rfl, nofun⟩
  · unfold reachIssue at h
    split at h
    · cases h
      exact ⟨_, _, _, rfl, nofun⟩
    · cases h
  · cases h

theorem severity_of_termIssue {term : Term} {issue : Issue}
    (h : registry.termIssue term = some issue) : issue.severity ≠ .error := by
  obtain ⟨severity, message, suggestion, rfl, hseverity⟩ := issueAt_of_termIssue h
  exact hseverity

/-- The audit of a registry finds no error. -/
theorem severity_of_mem_audit {strict : Bool} {issue : Issue}
    (h : issue ∈ (registry.audit strict).issues) : issue.severity ≠ .error := by
  rw [audit, danglingIssues_terms, List.nil_append] at h
  obtain ⟨term, -, hissue⟩ := List.mem_filterMap.1 h
  exact severity_of_termIssue hissue

/-- A term makes a hop exactly if its pattern is the one of hops. -/
theorem map_term_ofTerm? (term : Term) :
    (Hop.ofTerm? term).map Hop.term = if term.isHop then some term else none := by
  have hfits := term.role_fits
  cases hrole : term.role with
  | hop predicate target =>
    have hhop := Hop.ofTerm?_term ⟨term, predicate, target, hrole⟩
    rw [hrole] at hfits
    have hpattern : term.isHop = true := by
      cases hpattern : term.pattern <;> simp_all [Role.fits, Term.isHop]
    rw [hhop, hpattern]
    rfl
  | documentId | indexed | text | related | similar =>
    have hnone : Hop.ofTerm? term = none := by
      cases hhop : Hop.ofTerm? term with
      | none => rfl
      | some hop =>
        have hhoprole := hop.role
        rw [Hop.term_of_ofTerm? hhop, hrole] at hhoprole
        cases hhoprole
    rw [hrole] at hfits
    have hpattern : term.isHop = false := by
      cases hpattern : term.pattern <;> simp_all [Role.fits, Term.isHop]
    rw [hnone, hpattern]
    rfl

theorem map_term_hopsFrom (scope : Scope) :
    (registry.hopsFrom scope).map Hop.term = (registry.table scope).filter Term.isHop := by
  rw [hopsFrom, List.map_filterMap]
  induction registry.table scope with
  | nil => rfl
  | cons term rest ih =>
    rw [List.filterMap_cons, map_term_ofTerm?, ih, List.filter_cons]
    cases term.isHop <;> rfl

/-- Each expression of a term names one of its relations, in their order. -/
theorem forall₂_relations {expressions : List String} {predicates : List Predicate}
    (h : Declaration.relations expressions = .ok predicates) :
    List.Forall₂ (fun expression predicate => Predicate.parse expression = .ok predicate)
      expressions predicates := by
  induction expressions generalizing predicates with
  | nil =>
    cases h
    exact .nil
  | cons expression rest ih =>
    rw [Declaration.relations] at h
    split at h
    · cases h
    · next predicate hfirst =>
      obtain ⟨others, hothers, rfl⟩ := map_eq_ok_iff.1 h
      exact .cons hfirst (ih hothers)

theorem relations_of_check {declaration : Declaration} {predicates : List Predicate} {role : Role}
    (h : declaration.check = .ok (predicates, role)) :
    Declaration.relations declaration.predicates = .ok predicates := by
  unfold Declaration.check at h
  split at h
  · cases h
  · next found hfound =>
    split at h
    · cases h
    · obtain ⟨other, -, hpair⟩ := map_eq_ok_iff.1 h
      rw [hfound, (Prod.mk.inj hpair).1]

/-- What lookups, the enumeration of chains, and compilation rely on. -/
structure Sound (registry : Registry) : Prop where
  /-- The scopes are those with a term, in the fixed order. -/
  scopes : registry.scopes.Sublist Scope.all ∧
    ∀ scope, scope ∈ registry.scopes ↔ ∃ term, term ∈ registry.table scope
  /-- What is stored under a scope and a name has that scope and that name. -/
  stored : ∀ {scope name term}, registry.find? scope name = some term →
    term.scope = scope ∧ term.name = name
  /-- Every term of a table is stored under its name. -/
  found : ∀ {scope term}, term ∈ registry.table scope →
    registry.find? scope term.name = some term
  /-- Every scope that a term names has a table. -/
  references : ∀ {scope term}, term ∈ registry.table scope → ∀ other ∈ term.references,
    other ∈ registry.scopes
  /-- The predicates of a term can be read. -/
  predicates : ∀ {scope term}, term ∈ registry.table scope →
    List.Forall₂ (fun expression predicate => Predicate.parse expression = .ok predicate)
      term.declaration.predicates term.predicates
  /-- A term has what its pattern needs. -/
  provides : ∀ {scope term}, term ∈ registry.table scope → registry.Provides term
  /-- The hops of a scope are the terms of that pattern, in their order. -/
  hops : ∀ scope,
    (registry.hopsFrom scope).map Hop.term = (registry.table scope).filter Term.isHop
  /-- The audit finds no error. -/
  audit : ∀ {strict issue}, issue ∈ (registry.audit strict).issues → issue.severity ≠ .error

theorem sound (registry : Registry) : registry.Sound where
  scopes := by
    refine ⟨List.filter_sublist, fun scope => ?_⟩
    rw [mem_scopes]
    exact ⟨List.exists_mem_of_ne_nil _, fun ⟨_, hterm⟩ => List.ne_nil_of_mem hterm⟩
  stored h := by
    obtain ⟨hterm, hname⟩ := find?_eq_some_iff.1 h
    exact ⟨scope_of_mem_table hterm, hname⟩
  found h := find?_eq_some_iff.2 ⟨h, rfl⟩
  references h _ hother := mem_scopes.2 (table_of_references (mem_table.1 h).1 hother)
  predicates {_ term} _ := forall₂_relations (relations_of_check term.checked)
  provides h := provides_of_mem (mem_table.1 h).1
  hops := map_term_hopsFrom
  audit := severity_of_mem_audit

/-- Tables of terms make a registry exactly if no term names a scope without terms. If one does, the
errors are those about each such reference in the order of the tables, a target before the scopes in
between; if none does, the registry holds the tables as they are. What is written is made of the tables
that are written. And every registry is sound, whether it was read, loaded or merged. -/
theorem built_exactly_when_closed :
    (∀ tables : TermTables,
      ((∃ error, ofTerms tables.terms = .error error) ↔
        ∃ term ∈ tables.terms, ∃ scope ∈ term.references,
          ∀ other ∈ tables.terms, other.scope ≠ scope) ∧
      (∀ error, ofTerms tables.terms = .error error →
        error = .registry (.undeclared (tables.dangling.map Reference.issue))) ∧
      ∀ registry, ofTerms tables.terms = .ok registry →
        ∀ scope, registry.table scope = tables.table scope) ∧
    (∀ (written : Entries String Value) (terms : List Term), WrittenOnce written →
      termsOfConfig (.map written) = .ok terms →
        ∃ tables : TermTables, ofConfig (.map written) = ofTerms tables.terms ∧
          tables.tables.keys.map Scope.name = written.keys ∧
          ∀ table ∈ tables.tables, ∃ entries, (table.1.name, .map entries) ∈ written ∧
            table.2.keys = entries.map Prod.fst) ∧
    ∀ registry : Registry, registry.Sound := by
  refine ⟨fun tables => ?_, fun _ _ => ofConfig_eq_ofTerms, sound⟩
  by_cases hdangling : tables.dangling = []
  · obtain ⟨registry, hregistry, htable⟩ := exists_ofTerms_tables hdangling
    have hclosed := dangling_eq_nil_iff.1 hdangling
    refine ⟨iff_of_false (by simp [hregistry]) ?_, by simp [hregistry], ?_⟩
    · rintro ⟨term, hterm, scope, hscope, hnone⟩
      obtain ⟨other, hother, heq⟩ := hclosed term hterm scope hscope
      exact hnone other hother heq
    · intro other hother
      obtain rfl : registry = other := Except.ok.inj (hregistry.symm.trans hother)
      exact htable
  · have herror := ofTerms_tables_eq_error hdangling
    refine ⟨iff_of_true ⟨_, herror⟩ ?_, ?_, by simp [herror]⟩
    · rw [dangling_eq_nil_iff] at hdangling
      push Not at hdangling
      exact hdangling
    · intro error herror'
      exact (Except.error.inj (herror.symm.trans herror')).symm

/-- The tables of works and agents, with or without terms of agents. -/
def worksAndAgents (populated : Bool) : TermTables where
  tables :=
    let named (terms : List Term) : Entries String Term := terms.map fun term => (term.name, term)
    [(.work, named (artists.table .work)),
      (.agent, if populated then named (artists.table .agent) else [])]
  scopes_nodup := by decide +revert
  names_nodup := by decide +revert
  stored := by decide +revert

/-- Agents by their identifier, as they are written. -/
def writtenAgents : Entries String Value :=
  [("agent", .map [("id", .map [("patternName", .string "documentId")])])]

/-- Without terms of agents, the relation to the makers of works leads nowhere. -/
theorem worksAndAgents_built :
    ofTerms (worksAndAgents false).terms = .error (.registry (.undeclared [{
        severity := .error
        message := "targetScope 'agent' has no declared terms"
        scope := "work"
        term := "createdBy" }])) ∧
    (∃ registry, ofTerms (worksAndAgents true).terms = .ok registry ∧
      registry.table .work = artists.table .work) ∧
    (∃ tables : TermTables, ofConfig (.map writtenAgents) = ofTerms tables.terms ∧
      tables.tables.keys.map Scope.name = ["agent"]) ∧
    ∀ issue ∈ (artists.audit true).issues, issue.severity ≠ .error := by
  obtain ⟨htables, hwritten, hsound⟩ := built_exactly_when_closed
  refine ⟨?_, ?_, ?_, fun issue hissue => (hsound artists).audit hissue⟩
  · obtain ⟨hfails, herror, -⟩ := htables (worksAndAgents false)
    obtain ⟨error, h⟩ := hfails.2 (by decide)
    rw [h, herror error h]
    rfl
  · obtain ⟨-, -, htable⟩ := htables (worksAndAgents true)
    obtain ⟨registry, h⟩ : ∃ registry, ofTerms (worksAndAgents true).terms = .ok registry :=
      ⟨_, dif_pos (by decide)⟩
    exact ⟨registry, h, (htable registry h .work).trans (by rfl)⟩
  · have honce : WrittenOnce writtenAgents := by
      refine ⟨by decide, fun key entries hmem => ?_⟩
      cases List.mem_singleton.1 hmem
      decide
    obtain ⟨terms, hterms⟩ : ∃ terms, termsOfConfig (.map writtenAgents) = .ok terms := ⟨_, rfl⟩
    obtain ⟨tables, hmade, hkeys, -⟩ := hwritten writtenAgents terms honce hterms
    exact ⟨tables, hmade, hkeys⟩

end Registry

end ScopedSearch
