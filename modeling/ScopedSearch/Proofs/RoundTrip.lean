import ScopedSearch.Proofs.Merging

/-!
# Reading what was written

An entry is written with the first name of each of its keys and without the keys that have nothing to
say, and it is read as the term again (`Term.read_toEntry`): a key that is left out stands for what it
was left out for. So a registry is read back from its written form as it is, whatever it was read from,
and merging a registry by its written form is merging its terms (`Registry.toConfig_read_back`).
-/

namespace ScopedSearch

open ScopedSearch.Text

/-! ### Looking up written keys -/

namespace Term

@[simp] theorem get?_entryOf (key other : String) (written : Option Value) :
    Entries.get? (entryOf key written) other = if key = other then written else none := by
  cases written with
  | none => simp [entryOf]
  | some value => simp [entryOf, Entries.get?_cons]

end Term

/-! ### Reading written values -/

namespace Field

variable {α : Type} {read : List PathStep → Value → Checked α}

/-- The value is read as the result, wherever it stands. -/
def ReadsAs (read : List PathStep → Value → Checked α) (value : Value) (result : α) : Prop :=
  ∀ path, read path value = .ok result

theorem readsAs_text (text : String) : ReadsAs Field.text (.string text) text := fun _ => rfl

theorem readsAs_member {choices : List String} {ofName? : String → Option α} {name : String}
    {result : α} (hname : ofName? name = some result) (hplain : hasLoneSurrogate name = false) :
    ReadsAs (member choices ofName?) (.string name) result := by
  intro path
  rw [member, hplain, if_neg Bool.false_ne_true, hname]

theorem items_eq_ok {write : α → Value} {values : List α}
    (h : ∀ value ∈ values, ReadsAs read (write value) value) (path : List PathStep) (index : Nat) :
    items read path index (values.map write) = .ok values := by
  induction values generalizing index with
  | nil => rfl
  | cons first rest ih =>
    rw [List.forall_mem_cons] at h
    rw [List.map_cons, items, h.1, ih h.2]
    rfl

theorem readsAs_sequence {write : α → Value} {values : List α}
    (h : ∀ value ∈ values, ReadsAs read (write value) value) :
    ReadsAs (sequence read) (.list (values.map write)) values :=
  fun path => items_eq_ok h path 0

theorem readsAs_nullable {value : Value} {result : α} (hne : value ≠ .null)
    (h : ReadsAs read value result) : ReadsAs (nullable read) value (some result) := by
  intro path
  rw [nullable, h]
  · rfl
  · exact hne

theorem find?_eq_none {entries : Entries String Value} {keys : List String}
    (h : ∀ key ∈ keys, entries.get? key = none) : find? entries keys = none := by
  induction keys with
  | nil => rfl
  | cons key rest ih =>
    rw [List.forall_mem_cons] at h
    rw [find?, h.1]
    exact ih h.2

variable {entries : Entries String Value} {key : String} {others : List String}

/-- A list is read from its first key, or taken to be empty without it. -/
theorem optional_nonEmpty {read : List PathStep → Value → Checked (List α)} {items : List α}
    {value : Value} (hkey : entries.get? key = Term.nonEmpty items value)
    (hothers : ∀ other ∈ others, entries.get? other = none) (hread : ReadsAs read value items) :
    optional entries (key :: others) [] read = .ok items := by
  rw [optional, find?, hkey, Term.nonEmpty]
  cases items with
  | nil => simp only [List.isEmpty_nil, if_true, find?_eq_none hothers]
  | cons first rest => exact hread [.field key]

/-- A value that may be missing is read from its first key, or taken to be missing without it. -/
theorem optional_map {write : α → Value} {found : Option α}
    (hkey : entries.get? key = found.map write)
    (hothers : ∀ other ∈ others, entries.get? other = none)
    (hread : ∀ value ∈ found, write value ≠ .null ∧ ReadsAs read (write value) value) :
    optional entries (key :: others) none (nullable read) = .ok found := by
  rw [optional, find?, hkey]
  cases found with
  | none => simp only [Option.map_none, find?_eq_none hothers]
  | some value => exact readsAs_nullable (hread value rfl).1 (hread value rfl).2 [.field key]

end Field

namespace Declaration

theorem readsAs_scope (scope : Scope) : Field.ReadsAs readScope (.string scope.name) scope :=
  Field.readsAs_member scope.ofName?_name (by cases scope <;> decide)

theorem readsAs_pattern (pattern : Pattern) :
    Field.ReadsAs (Field.member (Pattern.all.map Pattern.name) Pattern.ofName?)
      (.string pattern.name) pattern :=
  Field.readsAs_member pattern.ofName?_name (by cases pattern <;> decide)

theorem readsAs_scalarType (type : ScalarType) :
    Field.ReadsAs (Field.member (ScalarType.all.map ScalarType.name) ScalarType.ofName?)
      (.string type.name) type :=
  Field.readsAs_member type.ofName?_name (by cases type <;> decide)

theorem readsAs_texts (texts : List String) :
    Field.ReadsAs (Field.sequence Field.text) (Term.texts texts) texts :=
  Field.readsAs_sequence fun text _ => Field.readsAs_text text

theorem readsAs_scopes (scopes : List Scope) :
    Field.ReadsAs (Field.sequence readScope) (Term.texts (scopes.map Scope.name)) scopes := by
  rw [Term.texts, List.map_map]
  exact Field.readsAs_sequence fun scope _ => readsAs_scope scope

theorem readsAs_predicates {expressions : List String} {predicates : List Predicate}
    (h : relations expressions = .ok predicates) :
    Field.ReadsAs readPredicates (Term.texts expressions) expressions := by
  intro path
  simp only [readPredicates, readsAs_texts expressions path, h]

theorem readsAs_level {level : Nat} (h : 0 < level) :
    Field.ReadsAs Field.level (.int level) level := by
  intro path
  have hlevel : ¬ (level : Int) < 1 := by omega
  simp only [Field.level, Field.wholeNumber, if_neg hlevel, Int.toNat_natCast]

end Declaration

/-! ### Reading a written term -/

namespace Term

/-- The written form of a term, with its name and scope. -/
def written (term : Term) : Entries String Value :=
  (term.toEntry.put "name" (.string term.name)).put "scope" (.string term.scope.name)

variable (term : Term)

@[simp] theorem get?_written (key : String) : term.written.get? key =
    if "scope" = key then some (.string term.scope.name)
    else if "name" = key then some (.string term.name)
    else term.toEntry.get? key := by
  rw [written, Entries.get?_put, Entries.get?_put]

theorem maxLevel_pos {level : Nat} (h : level ∈ term.declaration.maxLevel) : 0 < level := by
  have hchecked := term.checked
  rw [Declaration.check] at hchecked
  split at hchecked
  · cases hchecked
  · rw [Nat.pos_iff_ne_zero]
    rintro rfl
    rw [if_pos (Option.mem_def.1 h)] at hchecked
    cases hchecked

/-- Each field is read as the term has it. -/
theorem declaration_read_written : Declaration.read term.written = .ok term.declaration := by
  have hname : Field.required term.written ["name"] Field.text = .ok term.name := by
    have hkey : term.written.get? "name" = some (.string term.name) := by simp
    exact Field.required_eq hkey
  have hscope : Field.required term.written ["scope"] Declaration.readScope = .ok term.scope := by
    have hkey : term.written.get? "scope" = some (.string term.scope.name) := by simp
    exact (Field.required_eq hkey).trans (Declaration.readsAs_scope term.scope _)
  have hpattern : Field.required term.written ["patternName", "pattern"]
      (Field.member (Pattern.all.map Pattern.name) Pattern.ofName?) = .ok term.pattern := by
    have hkey : term.written.get? "patternName" = some (.string term.pattern.name) := by
      simp [toEntry, Entries.get?_cons, pattern]
    rw [Field.required, Field.find?, hkey]
    exact Declaration.readsAs_pattern term.pattern _
  have hpredicates : Field.optional term.written ["predicates"] [] Declaration.readPredicates =
      .ok term.declaration.predicates :=
    Field.optional_nonEmpty (by simp [toEntry, Entries.get?_cons]) (by simp)
      (Declaration.readsAs_predicates (Registry.relations_of_check term.checked))
  have htarget : Field.optional term.written ["targetScope", "target_scope"] none
      (Field.nullable Declaration.readScope) = .ok term.declaration.targetScope :=
    Field.optional_map (by simp [toEntry, Entries.get?_cons])
      (by simp [toEntry, Entries.get?_cons])
      fun scope _ => ⟨by simp, Declaration.readsAs_scope scope⟩
  have hinverse : Field.optional term.written
      ["hopInverseName", "inverseTermName", "inverse_term_name"] none
      (Field.nullable Field.text) = .ok term.declaration.inverseName :=
    Field.optional_map (by simp [toEntry, Entries.get?_cons])
      (by simp [toEntry, Entries.get?_cons]) fun name _ => ⟨by simp, Field.readsAs_text name⟩
  have hindexes : Field.optional term.written ["indexReferences", "index_references"] []
      (Field.sequence Field.text) = .ok term.declaration.indexReferences :=
    Field.optional_nonEmpty (by simp [toEntry, Entries.get?_cons])
      (by simp [toEntry, Entries.get?_cons]) (Declaration.readsAs_texts _)
  have hidIndexes : Field.optional term.written ["idIndexReferences", "id_index_references"] []
      (Field.sequence Field.text) = .ok term.declaration.idIndexReferences :=
    Field.optional_nonEmpty (by simp [toEntry, Entries.get?_cons])
      (by simp [toEntry, Entries.get?_cons]) (Declaration.readsAs_texts _)
  have htype : Field.optional term.written ["scalarType", "scalar_type"] none
      (Field.nullable (Field.member (ScalarType.all.map ScalarType.name) ScalarType.ofName?)) =
        .ok term.declaration.scalarType :=
    Field.optional_map (by simp [toEntry, Entries.get?_cons])
      (by simp [toEntry, Entries.get?_cons])
      fun type _ => ⟨by simp, Declaration.readsAs_scalarType type⟩
  have hbetween : Field.optional term.written ["inBetweenScopes", "in_between_scopes"] []
      (Field.sequence Declaration.readScope) = .ok term.declaration.inBetweenScopes :=
    Field.optional_nonEmpty (by simp [toEntry, Entries.get?_cons])
      (by simp [toEntry, Entries.get?_cons]) (Declaration.readsAs_scopes _)
  have hlevel : Field.optional term.written ["maxLevel", "max_level"] none
      (Field.nullable Field.level) = .ok term.declaration.maxLevel := by
    -- The bound turns into an integer before it is written, so that the key is no plain map of it.
    have hkey : term.written.get? "maxLevel" =
        term.declaration.maxLevel.map fun level : Nat => .int level := by
      cases h : term.declaration.maxLevel <;> simp [toEntry, Entries.get?_cons, h]
    exact Field.optional_map hkey (by simp [toEntry, Entries.get?_cons])
      fun level h => ⟨by simp, Declaration.readsAs_level (term.maxLevel_pos h)⟩
  simp only [Declaration.read, hname, hscope, hpattern, hpredicates, htarget, hinverse, hindexes,
    hidIndexes, htype, hbetween, hlevel]
  rfl

theorem read_written : read term.written = .ok term := by
  unfold read
  simp only [declaration_read_written, ofDeclaration_declaration]

end Term

/-! ### Reading a written registry -/

namespace Registry

variable {registry : Registry}

theorem termsOfTable_written {scope : Scope} {terms : List Term}
    (h : ∀ term ∈ terms, term.scope = scope) :
    termsOfTable scope (terms.map fun term => (term.name, .map term.toEntry)) = .ok terms := by
  induction terms with
  | nil => rfl
  | cons first rest ih =>
    rw [List.forall_mem_cons] at h
    obtain ⟨rfl, hrest⟩ := h
    have hfirst : Term.read ((first.toEntry.put "name" (.string first.name)).put "scope"
        (.string first.scope.name)) = .ok first := first.read_written
    rw [List.map_cons, termsOfTable_cons, hfirst, ih hrest]
    rfl

theorem termsOfTables_written (registry : Registry) (scopes : List Scope) :
    termsOfTables (scopes.map fun scope =>
        (scope.name, .map ((registry.table scope).map fun term => (term.name, .map term.toEntry)))) =
      .ok (scopes.flatMap registry.table) := by
  induction scopes with
  | nil => rfl
  | cons first rest ih =>
    rw [List.map_cons, termsOfTables, first.ofName?_name, List.flatMap_cons]
    simp only [termsOfTable_written fun _ => scope_of_mem_table, ih]
    rfl

/-- The terms of a registry are its tables, one behind the other. -/
theorem flatMap_table (registry : Registry) : registry.scopes.flatMap registry.table =
    registry.terms := by
  have hscopes : registry.scopes = Scope.all.filter fun scope => !(registry.table scope).isEmpty := by
    refine List.filter_congr fun scope _ => ?_
    rw [Bool.eq_iff_iff, declares_iff]
    simp [table, inScope]
  calc
    registry.scopes.flatMap registry.table
      = Scope.all.flatMap registry.table := by rw [hscopes, flatMap_filter_nonempty]
    _ = arrange registry.terms := List.flatMap_congr fun scope _ =>
        (firstOfName_of_pairwise (table_pairwise scope)).symm
    _ = registry.terms := registry.arranged

theorem termsOfConfig_toConfig (registry : Registry) :
    termsOfConfig registry.toConfig = .ok registry.terms := by
  rw [toConfig, termsOfConfig, termsOfTables_written, flatMap_table]

theorem ofTerms_terms (registry : Registry) : ofTerms registry.terms = .ok registry :=
  ofTerms_eq_ok_iff.2 ⟨registry.danglingIssues_terms, registry.arranged.symm⟩

theorem ofConfig_toConfig (registry : Registry) : ofConfig registry.toConfig = .ok registry := by
  rw [ofConfig, termsOfConfig_toConfig]
  exact registry.ofTerms_terms

/-! ### Merging a registry -/

theorem mergeRegistry_eq_mergeTerms (registry other : Registry) :
    registry.mergeRegistry other = registry.mergeTerms other.terms :=
  merge_eq_mergeTerms other.termsOfConfig_toConfig

theorem distinct_terms (registry : Registry) : Distinct registry.terms :=
  distinct_of_inScope table_pairwise

/-- Leaving out the terms whose name is taken leaves no scope without terms. -/
theorem exists_scope_supplement {terms further : List Term} {term : Term} (h : term ∈ further) :
    ∃ other ∈ terms ++ additions terms further, other.scope = term.scope := by
  -- The term itself may be left out; the first of its scope in the arrangement is not.
  have hdeclares : declares (terms ++ further) term.scope = true :=
    declares_iff.2 ⟨term, List.mem_append_right _ h, rfl⟩
  obtain ⟨other, hother, hscope⟩ := declares_arrange hdeclares
  rw [← arrange_supplement] at hother
  exact ⟨other, mem_of_mem_arrange hother, hscope⟩

/-- What the terms of two registries refer to has terms in one of them, and so has terms after
merging. -/
theorem danglingIssues_supplement (registry other : Registry) :
    danglingIssues (registry.terms ++ additions registry.terms other.terms) = [] := by
  rw [danglingIssues_eq_nil_iff]
  intro term hterm scope hscope
  obtain hterm | hterm := List.mem_append.1 hterm
  · obtain ⟨declared, hdeclared, rfl⟩ := registry.closed term hterm scope hscope
    exact ⟨declared, List.mem_append_left _ hdeclared, rfl⟩
  · obtain ⟨declared, hdeclared, rfl⟩ :=
      other.closed term (List.mem_filter.1 hterm).1 scope hscope
    exact exists_scope_supplement hdeclared

/-- A registry is read from its written form as it is: the scopes, and in each the same terms in their
order, every field as it was. So merging it by its written form is merging its terms: the merged
registry has the combined tables. -/
theorem toConfig_read_back :
    (∀ registry : Registry, ofConfig registry.toConfig = .ok registry) ∧
      ∀ registry other : Registry,
        registry.mergeRegistry other = registry.mergeTerms other.terms ∧
          ∃ merged, (registry.mergeRegistry other).outcome = .ok merged ∧
            ∀ scope, merged.table scope = registry.combined other.terms scope := by
  refine ⟨ofConfig_toConfig, fun registry other => ⟨mergeRegistry_eq_mergeTerms registry other, ?_⟩⟩
  rw [mergeRegistry_eq_mergeTerms]
  refine exists_mergeTerms other.distinct_terms fun hopen => ?_
  exact leavesOpen_iff.1 hopen (registry.danglingIssues_supplement other)

end Registry

end ScopedSearch
