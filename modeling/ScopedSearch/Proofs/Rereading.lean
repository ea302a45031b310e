import ScopedSearch.Proofs.Compilation
import ScopedSearch.Proofs.Typing
import ScopedSearch.Registry.Config

/-!
# Written trees are read again

In a registry whose term names are not taken for anything else (`Registry.Readable`), the written
form of a compiled tree is accepted again and written the same way
(`Compiler.criteria_wire_fixed`). The tree need not be the same: a hop to criteria whose only
condition is an identifier is written like a hop to the record itself, and is read as that.
-/

namespace ScopedSearch

/-- The value, unless it is null. -/
def Value.orNone : Value → Option Value
  | .null => none
  | value => some value

namespace Registry

variable {registry : Registry} {scope : Scope}

/-- No term is named like a connective or an option, and what is named like an identifier is one. -/
structure Readable (registry : Registry) : Prop where
  noConnective : ∀ term ∈ registry.terms, term.name ≠ "AND" ∧ term.name ≠ "OR"
  noOption : ∀ term ∈ registry.terms, term.name.toList.head? ≠ some '_'
  identifier : ∀ term ∈ registry.terms, term.name = "id" → term.pattern = .documentId

/-- The written form of the one tree is read as the other, which is written the same way. -/
structure Rereads (registry : Registry) (scope : Scope) (tree again : Query) : Prop where
  reads : ∀ context, registry.ReadsMapping scope (tree.wireEntries context) again
  same : ∀ context, again.wireEntries context = tree.wireEntries context

/-! ### Keys of conditions -/

theorem not_option_of_head? {key : String} (h : key.toList.head? ≠ some '_') :
    ¬ (key = scopeKey ∨ key = comparatorKey) := by
  rintro (rfl | rfl) <;> exact h rfl

theorem Readable.ofKey?_name (hnames : registry.Readable) {term : Term}
    (hterm : term ∈ registry.table scope) : Connective.ofKey? term.name = none := by
  obtain ⟨hall, hany⟩ := hnames.noConnective term (mem_table.1 hterm).1
  rw [Connective.ofKey?, if_neg hall, if_neg hany]

theorem Readable.head?_name (hnames : registry.Readable) {term : Term}
    (hterm : term ∈ registry.table scope) : term.name.toList.head? ≠ some '_' :=
  hnames.noOption term (mem_table.1 hterm).1

theorem head?_key (connective : Connective) : connective.key.toList.head? ≠ some '_' := by
  cases connective <;> decide

/-! ### Mappings of one condition -/

/-- The entries of a condition, a comparison beside it if it makes one. -/
def single (key : String) (value : Value) (sign : Option Comparator) : Entries String Value :=
  (key, value) :: sign.toList.map fun c => (comparatorKey, .string c.sign)

theorem given?_cons_of_ne {key other : String} (h : key ≠ other) (value : Value)
    (rest : Entries String Value) : given? ((key, value) :: rest) other = given? rest other := by
  rw [given?, given?, Entries.get?_cons, if_neg h]

theorem given?_cons_self (key : String) (value : Value) (rest : Entries String Value) :
    given? ((key, value) :: rest) key = value.orNone := by
  rw [given?, Entries.get?_cons, if_pos rfl]
  cases value <;> rfl

theorem given?_string_cons (key text : String) (rest : Entries String Value) :
    given? ((key, .string text) :: rest) key = some (.string text) :=
  given?_cons_self key (.string text) rest

theorem given?_scopeKey_single {key : String} (hkey : key.toList.head? ≠ some '_') (value : Value)
    (sign : Option Comparator) : given? (single key value sign) scopeKey = none := by
  rw [single, given?_cons_of_ne (not_or.1 (not_option_of_head? hkey)).1]
  cases sign <;> rfl

theorem given?_comparatorKey_single {key : String} (hkey : key.toList.head? ≠ some '_')
    (value : Value) (sign : Option Comparator) :
    given? (single key value sign) comparatorKey = sign.map fun c => .string c.sign := by
  rw [single, given?_cons_of_ne (not_or.1 (not_option_of_head? hkey)).2]
  cases sign <;> rfl

theorem termKeys_single {key : String} (hkey : key.toList.head? ≠ some '_') (value : Value)
    (sign : Option Comparator) : Compiler.termKeys (single key value sign) = [key] := by
  rw [single, Compiler.termKeys_cons, if_neg (not_option_of_head? hkey)]
  cases sign <;> rfl

theorem comparisonOf_eq_ok {entries : Entries String Value} {key : String}
    {comparator : Option Value} (hkey : key.toList.head? ≠ some '_')
    (hkeys : Compiler.termKeys entries = [key])
    (hgiven : given? entries comparatorKey = comparator)
    (hcomparator : comparator.isSome → Connective.ofKey? key = none) :
    Compiler.comparisonOf scope entries = .ok comparator := by
  refine Compiler.comparisonOf_eq_ok_iff.2 ⟨?_, ?_, fun hsome => ?_, hgiven⟩ <;> rw [hkeys]
  · exact List.cons_ne_nil key []
  · exact List.forall_mem_singleton.2 hkey
  · exact ⟨rfl, List.forall_mem_singleton.2 (hcomparator (hgiven ▸ hsome))⟩

/-- A condition makes a mapping of its own, with or without its scope. -/
theorem ReadsCondition.mapping {key : String} {value : Value} {sign : Option Comparator}
    {tree : Query} (hkey : key.toList.head? ≠ some '_')
    (hsign : sign.isSome → Connective.ofKey? key = none)
    (h : registry.ReadsCondition scope (sign.map fun c => .string c.sign) key value tree)
    (context : Option String) :
    registry.ReadsMapping scope
      (scopeEntries context (some scope.name) ++ single key value sign) tree := by
  have hcomparator : (sign.map fun c => Value.string c.sign).isSome →
      Connective.ofKey? key = none := by simpa using hsign
  have hsingle : registry.ReadsEntries scope (sign.map fun c => .string c.sign)
      (single key value sign) [tree] := by
    refine .condition (not_option_of_head? hkey) h ?_
    cases sign with
    | none => exact .nil
    | some c => exact .option (.inr rfl) .nil
  have hconjunction : Compiler.conjunction scope [tree] = tree := rfl
  rw [← hconjunction]
  rcases scopeEntries_cases context scope.name with hscope | hscope
  · rw [hscope, List.nil_append]
    exact .intro (comparisonOf_eq_ok hkey (termKeys_single hkey value sign)
      (given?_comparatorKey_single hkey value sign) hcomparator) hsingle
  · rw [hscope, List.singleton_append]
    refine .intro (comparisonOf_eq_ok hkey ?_ ?_ hcomparator) (.option (.inl rfl) hsingle)
    · rw [Compiler.termKeys_cons, if_pos (.inl rfl), termKeys_single hkey]
    · rw [given?_cons_of_ne (by decide), given?_comparatorKey_single hkey]

/-! ### How typed trees are written -/

theorem wireEntries_leaf (hnames : registry.Readable) {term : Term}
    (hterm : term ∈ registry.table scope) {value : Value} {field : String} {fullText : Bool}
    {sign : Option Comparator} (context : Option String) :
    (term.leaf value field fullText sign).wireEntries context =
      scopeEntries context (some scope.name) ++ single term.name value sign := by
  obtain rfl := scope_of_mem_table hterm
  exact Query.wireEntries_leaf (not_option_of_head? (hnames.head?_name hterm))

theorem wireEntries_hop (hnames : registry.Readable) {hop : Hop}
    (hmem : hop ∈ registry.hopsFrom scope) (target : Query) (context : Option String) :
    (hop.query target).wireEntries context = scopeEntries context (some scope.name) ++
      single hop.name (target.wire (some hop.target.name)) none := by
  have hkey := hnames.head?_name (mem_hopsFrom_iff.1 hmem)
  obtain rfl := scope_of_mem_hopsFrom hmem
  exact Query.wireEntries_hop (not_or.1 (not_option_of_head? hkey)).1

theorem wireEntries_group (connective : Connective) (trees : List Query)
    (context : Option String) :
    (Query.group connective trees (some scope.name)).wireEntries context =
      scopeEntries context (some scope.name) ++
        single connective.key (.list (trees.map fun tree => tree.wire (some scope.name))) none :=
  Query.wireEntries_group

/-- A typed tree is written as one condition. -/
theorem Typed.wireEntries_eq {tree : Query} (hnames : registry.Readable)
    (h : registry.Typed scope tree) :
    ∃ key value sign, key.toList.head? ≠ some '_' ∧ ∀ context, tree.wireEntries context =
      scopeEntries context (some scope.name) ++ single key value sign := by
  cases h with
  | leaf term hterm => exact ⟨_, _, _, hnames.head?_name hterm, wireEntries_leaf hnames hterm⟩
  | toRecord hop _ hmem | hop hop hmem =>
    exact ⟨_, _, _, hnames.head?_name (mem_hopsFrom_iff.1 hmem), wireEntries_hop hnames hmem _⟩
  | group connective => exact ⟨_, _, _, head?_key connective, wireEntries_group connective _⟩

/-- In its own scope a typed tree is written without one. -/
theorem Typed.given?_scopeKey {tree : Query} (hnames : registry.Readable)
    (h : registry.Typed scope tree) :
    given? (tree.wireEntries (some scope.name)) scopeKey = none := by
  obtain ⟨key, value, sign, hkey, hwritten⟩ := h.wireEntries_eq hnames
  rw [hwritten, scopeEntries_self, List.nil_append, given?_scopeKey_single hkey]

/-- Outside its scope a typed tree is written with it. -/
theorem Typed.given?_of_ne {tree : Query} {context : Option String} (hnames : registry.Readable)
    (h : registry.Typed scope tree) (hcontext : some scope.name ≠ context) :
    given? (tree.wireEntries context) scopeKey = some (.string scope.name) := by
  obtain ⟨key, value, sign, -, hwritten⟩ := h.wireEntries_eq hnames
  rw [hwritten, scopeEntries_of_ne hcontext, List.singleton_append, given?_string_cons]

theorem isIdMapping_single {key : String} {value : Value} {sign : Option Comparator}
    (h : isIdMapping (single key value sign) = true) : key = "id" ∧ sign = none := by
  cases sign <;> simp_all [isIdMapping, single, Entries.keys]

/-- A typed tree that is written like a record is a leaf that matches its identifier. -/
theorem Typed.eq_identifier {tree : Query} (hnames : registry.Readable)
    (h : registry.Typed scope tree)
    (hid : isIdMapping (tree.wireEntries (some scope.name)) = true) :
    ∃ id : RecordId, tree.wireEntries (some scope.name) = [("id", .string id.text)] := by
  cases h with
  | leaf term hterm _ hcoerced =>
    rw [wireEntries_leaf hnames hterm, scopeEntries_self, List.nil_append] at hid ⊢
    obtain ⟨hname, rfl⟩ := isIdMapping_single hid
    have hrole := Term.role_of_documentId (hnames.identifier term (mem_table.1 hterm).1 hname)
    simp only [Term.coerce?, hrole, Option.map_eq_some_iff] at hcoerced
    obtain ⟨id, -, rfl⟩ := hcoerced
    exact ⟨id, by rw [hname]; rfl⟩
  | toRecord hop _ hmem | hop hop hmem =>
    rw [wireEntries_hop hnames hmem, scopeEntries_self, List.nil_append] at hid
    have hterm := (mem_table.1 (mem_hopsFrom_iff.1 hmem)).1
    have hrole := Term.role_of_documentId (hnames.identifier _ hterm (isIdMapping_single hid).1)
    simp [hop.role] at hrole
  | group connective =>
    rw [wireEntries_group, scopeEntries_self, List.nil_append] at hid
    exact absurd (isIdMapping_single hid).1 (by cases connective <;> decide)

/-! ### Typed trees are read again -/

/-- What a typed tree is read as again is read as the target of a hop, unless it is written like a
record. -/
theorem Rereads.target {tree again : Query} (hnames : registry.Readable)
    (h : registry.Typed scope tree) (hagain : registry.Rereads scope tree again) :
    ∃ target, registry.ReadsTarget scope (tree.wire (some scope.name)) target ∧
      target.wire (some scope.name) = tree.wire (some scope.name) := by
  by_cases hid : isIdMapping (tree.wireEntries (some scope.name)) = true
  · obtain ⟨id, hwritten⟩ := h.eq_identifier hnames hid
    refine ⟨.record id, ?_, ?_⟩
    · rw [Query.wire, hwritten]
      exact .named id
    · rw [Query.wire, Query.wire, hwritten, Query.wireEntries]
  · refine ⟨again, .mapping (by simpa using hid) ?_ (hagain.reads _), ?_⟩
    · rw [Compiler.checkTargetScope, h.given?_scopeKey hnames]
    · rw [Query.wire, Query.wire, hagain.same]

theorem readsList_again {trees : List Query} (hnames : registry.Readable)
    (htrees : ∀ tree ∈ trees, registry.Typed scope tree)
    (hagain : ∀ tree ∈ trees, ∃ again, registry.Rereads scope tree again) :
    ∃ agains, registry.ReadsList scope (trees.map fun tree => tree.wire (some scope.name)) agains ∧
      agains.map (fun tree => tree.wire (some scope.name)) =
        trees.map fun tree => tree.wire (some scope.name) := by
  induction trees with
  | nil => exact ⟨[], .nil, rfl⟩
  | cons tree rest ih =>
    rw [List.forall_mem_cons] at htrees hagain
    obtain ⟨again, hreads, hsame⟩ := hagain.1
    obtain ⟨agains, hlist, hwritten⟩ := ih htrees.2 hagain.2
    refine ⟨again :: agains, .cons ?_ (hreads _) hlist, ?_⟩
    · rw [Compiler.checkConditionScope, htrees.1.given?_scopeKey hnames]
    · rw [List.map_cons, List.map_cons, hwritten, Query.wire, Query.wire, hsame]

theorem rereads_hop (hnames : registry.Readable) {hop : Hop}
    (hmem : hop ∈ registry.hopsFrom scope) {target again : Query}
    (hreads : registry.ReadsTarget hop.target (target.wire (some hop.target.name)) again)
    (hsame : again.wire (some hop.target.name) = target.wire (some hop.target.name)) :
    registry.Rereads scope (hop.query target) (hop.query again) := by
  have hterm := mem_hopsFrom_iff.1 hmem
  constructor
  · intro context
    rw [wireEntries_hop hnames hmem]
    exact ReadsCondition.mapping (hnames.head?_name hterm) (fun _ => hnames.ofKey?_name hterm)
      (.hop hop (hnames.ofKey?_name hterm) hmem hreads) context
  · intro context
    rw [wireEntries_hop hnames hmem, wireEntries_hop hnames hmem, hsame]

/-- The written form of a typed tree is read again. -/
theorem Typed.rereads {tree : Query} (hnames : registry.Readable)
    (h : registry.Typed scope tree) : ∃ again, registry.Rereads scope tree again := by
  induction h with
  | @leaf scope value field fullText sign term hterm hfield hcoerced hsign =>
    refine ⟨term.leaf value field fullText sign, fun context => ?_, fun _ => rfl⟩
    rw [wireEntries_leaf hnames hterm]
    refine ReadsCondition.mapping (hnames.head?_name hterm) (fun _ => hnames.ofKey?_name hterm) ?_ _
    exact .leaf term (hnames.ofKey?_name hterm) hterm hfield hcoerced
      (fun h => (hsign (by simpa using h)).1)
      (Term.comparatorOf_eq_ok_iff.2 ⟨rfl, fun h => (hsign h).2⟩)
  | toRecord hop id hmem =>
    exact ⟨hop.query (.record id), rereads_hop hnames hmem (.named id) rfl⟩
  | hop hop hmem htyped ih =>
    obtain ⟨again, hagain⟩ := ih
    obtain ⟨target, hreads, hsame⟩ := hagain.target hnames htyped
    exact ⟨hop.query target, rereads_hop hnames hmem hreads hsame⟩
  | @group scope trees connective hne htrees ih =>
    obtain ⟨agains, hlist, hsame⟩ := readsList_again hnames htrees ih
    refine ⟨.group connective agains (some scope.name), fun context => ?_, fun context => ?_⟩
    · rw [wireEntries_group]
      exact ReadsCondition.mapping (head?_key connective) (by simp)
        (.group connective (by simpa using hne) hlist) context
    · rw [wireEntries_group, wireEntries_group, hsame]

theorem readsBranches_again {trees : List Query} (hnames : registry.Readable)
    (htrees : ∀ tree ∈ trees, ∃ scope, registry.Typed scope tree) :
    ∃ agains,
      registry.ReadsBranches (trees.map fun tree => tree.wire (some Scope.multi)) agains ∧
        agains.map (fun tree => tree.wire (some Scope.multi)) =
          trees.map fun tree => tree.wire (some Scope.multi) := by
  induction trees with
  | nil => exact ⟨[], .nil, rfl⟩
  | cons tree rest ih =>
    rw [List.forall_mem_cons] at htrees
    obtain ⟨⟨scope, htyped⟩, hrest⟩ := htrees
    obtain ⟨again, hreads, hsame⟩ := htyped.rereads hnames
    obtain ⟨agains, hbranches, hwritten⟩ := ih hrest
    refine ⟨again :: agains, .cons (htyped.given?_of_ne hnames ?_) (hreads _) hbranches, ?_⟩
    · simpa using scope.name_ne_multi
    · rw [List.map_cons, List.map_cons, hwritten, Query.wire, Query.wire, hsame]

/-- The written form of a tree that is typed at its root is read again without an expected scope. -/
theorem TypedRoot.readsCriteria {tree : Query} (hnames : registry.Readable)
    (h : registry.TypedRoot tree) :
    ∃ again, registry.ReadsCriteria none tree.wire again ∧ again.wire = tree.wire := by
  obtain ⟨scope, htyped⟩ | ⟨trees, rfl, hne, htrees⟩ := h
  · obtain ⟨again, hreads, hsame⟩ := htyped.rereads hnames
    have hscope : Compiler.scopeOfCriteria none (tree.wireEntries none) =
        .ok (.string scope.name) := by
      unfold Compiler.scopeOfCriteria
      rw [htyped.given?_of_ne hnames (by simp)]
    exact ⟨again, .mapping hscope (hreads none), by rw [Query.wire, Query.wire, hsame]⟩
  · obtain ⟨agains, hbranches, hsame⟩ := readsBranches_again hnames htrees
    have hwritten (branches : List Query) :
        (Query.group .any branches (some Scope.multi)).wireEntries none =
          [(scopeKey, .string Scope.multi), (Connective.any.key,
            .list (branches.map fun tree => tree.wire (some Scope.multi)))] :=
      Query.wireEntries_group
    refine ⟨.group .any agains (some Scope.multi), ?_, ?_⟩
    · rw [Query.wire, hwritten]
      exact .multi rfl rfl rfl (by simpa using hne) hbranches
    · rw [Query.wire, Query.wire, hwritten, hwritten, hsame]

end Registry

/-! ### The packaged registry -/

namespace Registry

theorem declaration_mem_of_termsOf {declarations : List Declaration} {terms : List Term}
    (h : termsOf declarations = .ok terms) : ∀ term ∈ terms, term.declaration ∈ declarations := by
  rw [← map_declaration_of_termsOf h]
  exact fun term hterm => List.mem_map_of_mem hterm

theorem mem_of_ofTerms {terms : List Term} {registry : Registry}
    (h : ofTerms terms = .ok registry) : ∀ term ∈ registry.terms, term ∈ terms := by
  rw [(ofTerms_eq_ok_iff.1 h).2]
  exact fun term => mem_of_mem_arrange

theorem mem_of_supplement {terms further all : List Term}
    (h : (supplement terms further).outcome = .ok all) :
    ∀ term ∈ all, term ∈ terms ∨ term ∈ further := by
  cases h
  intro term hterm
  exact (List.mem_append.1 hterm).imp_right fun hfurther => (List.mem_filter.1 hfurther).1

/-- The names of the packaged terms are taken for nothing else. -/
theorem readable_of_load {includeGenerated : Bool} {registry : Registry}
    (h : (load includeGenerated none).outcome = .ok registry) : registry.Readable := by
  have hmem : ∀ term ∈ registry.terms, term.declaration ∈ Declared.all ++ Generated.all := by
    intro term hterm
    simp only [load, Traced.bind_outcome_eq_ok, Traced.lift_outcome] at h
    obtain ⟨declared, hdeclared, h⟩ := h
    have hdeclared := declaration_mem_of_termsOf hdeclared
    split at h
    · simp only [Traced.bind_outcome_eq_ok, Traced.lift_outcome, Traced.pure_outcome,
        Except.ok.injEq] at h
      obtain ⟨generated, hgenerated, terms, hterms, _, rfl, _, hregistry, _, _, rfl⟩ := h
      have hgenerated := declaration_mem_of_termsOf hgenerated
      rcases mem_of_supplement hterms term (mem_of_ofTerms hregistry term hterm) with hmem | hmem
      · exact List.mem_append_left _ (hdeclared term hmem)
      · exact List.mem_append_right _ (hgenerated term hmem)
    · simp only [Traced.bind_outcome_eq_ok, Traced.lift_outcome, Traced.pure_outcome,
        Except.ok.injEq] at h
      obtain ⟨_, rfl, _, rfl, _, hregistry, _, _, rfl⟩ := h
      exact List.mem_append_left _ (hdeclared term (mem_of_ofTerms hregistry term hterm))
  have hconnective : ∀ declaration ∈ Declared.all ++ Generated.all,
      declaration.name ≠ "AND" ∧ declaration.name ≠ "OR" := by decide +kernel
  have hoption : ∀ declaration ∈ Declared.all ++ Generated.all,
      declaration.name.toList.head? ≠ some '_' := by decide +kernel
  have hidentifier : ∀ declaration ∈ Declared.all ++ Generated.all,
      declaration.name = "id" → declaration.pattern = .documentId := by decide +kernel
  exact ⟨fun term hterm => hconnective _ (hmem term hterm),
    fun term hterm => hoption _ (hmem term hterm),
    fun term hterm => hidentifier _ (hmem term hterm)⟩

end Registry

/-- The written form is a fixed point: where names are not taken for anything else, what accepted
plain criteria are written as is accepted again and written the same way. -/
theorem Compiler.criteria_wire_fixed {compiler : Compiler} {value : Value}
    {expected : Option String} {tree : Query} (hnames : compiler.registry.Readable)
    (hplain : value.isPlain = true)
    (h : (compiler.criteria value expected).outcome = .ok tree) :
    ∃ again, (compiler.criteria tree.wire).outcome = .ok again ∧ again.wire = tree.wire := by
  obtain ⟨again, hreads, hsame⟩ :=
    ((criteria_eq_ok_iff.1 h).typed hplain).readsCriteria hnames
  exact ⟨again, criteria_eq_ok_iff.2 hreads, hsame⟩

theorem Compiler.seaCriteria_wire_fixed :
    Registry.artists.Readable ∧ seaCriteria.isPlain = true ∧
      ((Compiler.mk .artists true).criteria seaCriteria).outcome = .ok seaQuery ∧
        ∃ again, ((Compiler.mk .artists true).criteria seaQuery.wire).outcome = .ok again ∧
          again.wire = seaQuery.wire := by
  have hnames : Registry.artists.Readable := ⟨by decide, by decide, by decide⟩
  have hplain : seaCriteria.isPlain = true := by decide
  exact ⟨hnames, hplain, seaCriteria_compiled,
    criteria_wire_fixed hnames hplain seaCriteria_compiled⟩

end ScopedSearch
