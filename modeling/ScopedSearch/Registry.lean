import ScopedSearch.Event

/-!
# The registry of search terms

A registry holds the terms of every scope. Its terms stand in one list, scope after scope in the
fixed order of the scopes and, within a scope, in the order of declaration; of two terms with one
name in one scope the first counts (`Registry.arrange`). Every scope that a term refers to has terms
itself: a list of terms with a reference to an empty scope makes no registry
(`Registry.ofTerms`), and the error lists every such reference.
-/

namespace ScopedSearch

open ScopedSearch.Text

def Scope.ofValue : Value → Except Error Scope
  | .string text =>
    match Scope.ofName? text with
    | some scope => .ok scope
    | none => .error (.unknownScope (.string text))
  | value => .error (Error.unknownScope value).raised

namespace Registry

/-- The terms without those whose name a term before them has. -/
def firstOfName : List Term → List Term
  | [] => []
  | term :: rest => term :: (firstOfName rest).filter fun other => other.name ≠ term.name

def inScope (terms : List Term) (scope : Scope) : List Term :=
  terms.filter fun term => term.scope = scope

/-- The terms scope after scope, the first of each name. -/
def arrange (terms : List Term) : List Term :=
  Scope.all.flatMap fun scope => firstOfName (inScope terms scope)

/-- The scopes of a list of terms, in order of first occurrence. -/
def scopesOf (terms : List Term) : List Scope := (terms.map Term.scope).eraseDups

/-- Some term of the list belongs to the scope. -/
def declares (terms : List Term) (scope : Scope) : Bool := terms.any fun term => term.scope = scope

/-- The errors about the references of one term: its target, then the scopes in between. -/
def issuesOf (terms : List Term) (term : Term) : List Issue :=
  let issue (field : String) (scope : Scope) : Option Issue :=
    if declares terms scope then none
    else
      some {
        severity := .error
        message := field ++ quoted scope.name ++ " has no declared terms"
        scope := term.scope.name
        term := term.name }
  term.declaration.targetScope.toList.filterMap (issue "targetScope ")
    ++ term.declaration.inBetweenScopes.filterMap (issue "inBetweenScopes entry ")

/-- The errors about all references to scopes without terms, table after table. -/
def danglingIssues (terms : List Term) : List Issue :=
  (scopesOf terms).flatMap fun scope => (inScope terms scope).flatMap (issuesOf terms)

/-! ## The arrangement of terms -/

theorem mem_of_mem_firstOfName {term : Term} {terms : List Term} (h : term ∈ firstOfName terms) :
    term ∈ terms := by
  induction terms with
  | nil => exact h
  | cons first rest ih => grind [firstOfName]

theorem firstOfName_eq_nil {terms : List Term} : firstOfName terms = [] ↔ terms = [] := by
  cases terms <;> simp [firstOfName]

theorem firstOfName_pairwise (terms : List Term) :
    (firstOfName terms).Pairwise fun a b => a.name ≠ b.name := by
  induction terms with
  | nil => exact .nil
  | cons first rest ih =>
    refine .cons (fun other h => ?_) (ih.filter _)
    have hne := (List.mem_filter.1 h).2
    exact fun heq => of_decide_eq_true hne heq.symm

theorem firstOfName_of_pairwise {terms : List Term}
    (h : terms.Pairwise fun a b => a.name ≠ b.name) : firstOfName terms = terms := by
  induction h with
  | nil => rfl
  | cons first _ ih =>
    rw [firstOfName, ih, List.filter_eq_self.2]
    exact fun other hother => decide_eq_true (first other hother).symm

theorem mem_inScope {term : Term} {terms : List Term} {scope : Scope} :
    term ∈ inScope terms scope ↔ term ∈ terms ∧ term.scope = scope := by
  simp [inScope]

theorem mem_of_mem_arrange {term : Term} {terms : List Term} (h : term ∈ arrange terms) :
    term ∈ terms := by
  obtain ⟨scope, _, h⟩ := List.mem_flatMap.1 h
  exact (mem_inScope.1 (mem_of_mem_firstOfName h)).1

theorem inScope_flatMap (tables : Scope → List Term) (scopes : List Scope) (scope : Scope)
    (hscope : ∀ s, ∀ term ∈ tables s, term.scope = s) (nodup : scopes.Nodup) :
    inScope (scopes.flatMap tables) scope = if scope ∈ scopes then tables scope else [] := by
  induction nodup with
  | nil => rfl
  | @cons first rest hfirst _ ih =>
    have hall : ∀ s, inScope (tables s) scope = if s = scope then tables s else [] := by
      intro s
      split
      · next h => exact List.filter_eq_self.2 fun term hterm => by simp [hscope s term hterm, h]
      · next h =>
        refine List.filter_eq_nil_iff.2 fun term hterm => ?_
        simp [hscope s term hterm, h]
    have hsplit : inScope ((first :: rest).flatMap tables) scope
        = inScope (tables first) scope ++ inScope (rest.flatMap tables) scope := by
      simp [inScope]
    rw [hsplit, hall, ih]
    by_cases h : first = scope
    · subst h
      have : first ∉ rest := fun hmem => hfirst first hmem rfl
      simp [this]
    · simp [h, Ne.symm h]

/-- The table of a scope in an arranged list. -/
theorem inScope_arrange (terms : List Term) (scope : Scope) :
    inScope (arrange terms) scope = firstOfName (inScope terms scope) := by
  rw [arrange, inScope_flatMap _ _ _ _ (by decide), if_pos scope.mem_all]
  exact fun s term h => (mem_inScope.1 (mem_of_mem_firstOfName h)).2

/-- Arranging twice changes nothing more. -/
theorem arrange_arrange (terms : List Term) : arrange (arrange terms) = arrange terms := by
  simp only [arrange, List.flatMap]
  congr 1
  refine List.map_congr_left fun scope _ => ?_
  have h := inScope_arrange terms scope
  rw [arrange, List.flatMap] at h
  rw [h, firstOfName_of_pairwise (firstOfName_pairwise _)]

theorem declares_iff {terms : List Term} {scope : Scope} :
    declares terms scope = true ↔ ∃ term ∈ terms, term.scope = scope := by
  simp [declares]

/-- Arranging loses no scope. -/
theorem declares_arrange {terms : List Term} {scope : Scope} (h : declares terms scope = true) :
    ∃ term ∈ arrange terms, term.scope = scope := by
  obtain ⟨term, hterm, rfl⟩ := declares_iff.1 h
  have hne : firstOfName (inScope terms term.scope) ≠ [] := by
    rw [Ne, firstOfName_eq_nil]
    exact List.ne_nil_of_mem (mem_inScope.2 ⟨hterm, rfl⟩)
  obtain ⟨first, hfirst⟩ := List.exists_mem_of_ne_nil _ hne
  refine ⟨first, List.mem_flatMap.2 ⟨term.scope, Scope.mem_all _, hfirst⟩, ?_⟩
  exact (mem_inScope.1 (mem_of_mem_firstOfName hfirst)).2

theorem issuesOf_eq_nil {terms : List Term} {term : Term} (h : issuesOf terms term = [])
    {scope : Scope} (href : scope ∈ term.references) : declares terms scope = true := by
  simp only [issuesOf, List.append_eq_nil_iff, List.filterMap_eq_nil_iff] at h
  have hscope : scope ∈ term.declaration.targetScope.toList
      ∨ scope ∈ term.declaration.inBetweenScopes := by simpa [Term.references] using href
  rcases hscope with hscope | hscope
  · simpa using h.1 scope hscope
  · simpa using h.2 scope hscope

theorem declares_of_danglingIssues_eq_nil {terms : List Term} (h : danglingIssues terms = [])
    {term : Term} (hterm : term ∈ terms) {scope : Scope} (href : scope ∈ term.references) :
    declares terms scope = true := by
  rw [danglingIssues, List.flatMap_eq_nil_iff] at h
  have hscope : term.scope ∈ scopesOf terms := by
    rw [scopesOf, List.mem_eraseDups]
    exact List.mem_map_of_mem hterm
  have := List.flatMap_eq_nil_iff.1 (h _ hscope) term (mem_inScope.2 ⟨hterm, rfl⟩)
  exact issuesOf_eq_nil this href

end Registry

/-- The terms of every scope, arranged, with no reference to a scope without terms. -/
structure Registry where
  terms : List Term
  arranged : Registry.arrange terms = terms
  closed : ∀ term ∈ terms, ∀ scope ∈ term.references, ∃ other ∈ terms, other.scope = scope
  deriving DecidableEq

namespace Registry

/-- A registry is determined by its terms. -/
@[ext] theorem ext {a b : Registry} (h : a.terms = b.terms) : a = b := by
  cases a; cases b; simpa using h

def ofTerms (terms : List Term) : Except Error Registry :=
  if h : danglingIssues terms = [] then
    .ok {
      terms := arrange terms
      arranged := arrange_arrange terms
      closed := fun _ hterm _ href =>
        declares_arrange (declares_of_danglingIssues_eq_nil h (mem_of_mem_arrange hterm) href) }
  else .error (.registry (.undeclared (danglingIssues terms)))

def termsOf : List Declaration → Except Error (List Term)
  | [] => .ok []
  | declaration :: rest =>
    match Term.ofDeclaration declaration with
    | .error fault =>
      .error (.registry (.invalidTerm declaration.scope declaration.name
        [⟨.rule fault.message, []⟩]))
    | .ok term => (termsOf rest).map (term :: ·)

variable (registry : Registry)

/-- The table of a scope, in the order of declaration. -/
def table (scope : Scope) : List Term := inScope registry.terms scope

/-- The scopes that have terms, in the fixed order. -/
def scopes : List Scope := Scope.all.filter (declares registry.terms)

/-- The table of a scope, which has to have terms. -/
def tableOf (scope : Scope) : Except Error (List Term) :=
  match registry.table scope with
  | [] => .error (.unknownScope (.string scope.name))
  | term :: rest => .ok (term :: rest)

/-- The term with this name in the scope, if there is one. -/
def find? (scope : Scope) (name : String) : Option Term :=
  (registry.table scope).find? fun term => term.name = name

/-- The term with this name in the scope. -/
def lookup (scope : Scope) (name : String) : Except Error Term := do
  let _ ← registry.tableOf scope
  match registry.find? scope name with
  | some term => return term
  | none => .error (.unknownTerm scope name)

/-- The hops that leave a scope, in the order of declaration. -/
def hopsFrom (scope : Scope) : List Hop := (registry.table scope).filterMap Hop.ofTerm?

/-- The term that a hop declares as the way back, if it is there. -/
def inverseOf (term : Term) : Option Term :=
  match term.role, term.declaration.inverseName with
  | .hop _ target, some name => registry.find? target name
  | _, _ => none

/-- The scope that a value names is one with terms. -/
def containsScope (value : Value) : Except Error Bool :=
  match Scope.ofValue value with
  | .ok scope => .ok (registry.scopes.contains scope)
  | .error (.unknownScope _) => .ok false
  | .error error => .error error

def display : String :=
  let names := registry.scopes.map fun scope => quoted scope.name
  "ScopeSchema(scopes=[" ++ ", ".intercalate names ++ "])"

/-! ## Making a registry -/

variable {registry}

theorem ofTerms_eq_ok_iff {terms : List Term} :
    ofTerms terms = .ok registry ↔ danglingIssues terms = [] ∧ registry.terms = arrange terms := by
  constructor
  · intro h
    unfold ofTerms at h
    split at h
    · next hclosed =>
      cases h
      exact ⟨hclosed, rfl⟩
    · cases h
  · rintro ⟨hclosed, hterms⟩
    rw [ofTerms, dif_pos hclosed]
    exact congrArg _ (ext hterms.symm)

/-- Every declaration becomes a term, in the same order. -/
theorem map_declaration_of_termsOf {declarations : List Declaration} {terms : List Term}
    (h : termsOf declarations = .ok terms) : terms.map Term.declaration = declarations := by
  induction declarations generalizing terms with
  | nil =>
    cases h
    rfl
  | cons first rest ih =>
    rw [termsOf] at h
    split at h
    · cases h
    · next term hterm =>
      cases hothers : termsOf rest with
      | error error => simp [hothers, Except.map] at h
      | ok others =>
        simp only [hothers, Except.map, Except.ok.injEq] at h
        rw [← h, List.map_cons, Term.declaration_of_ofDeclaration hterm, ih hothers]

/-! ## What holds of every registry -/

theorem scope_of_mem_table {scope : Scope} {term : Term} (h : term ∈ registry.table scope) :
    term.scope = scope := (mem_inScope.1 h).2

theorem mem_table {scope : Scope} {term : Term} :
    term ∈ registry.table scope ↔ term ∈ registry.terms ∧ term.scope = scope := mem_inScope

/-- No two terms of a table have one name. -/
theorem table_pairwise (scope : Scope) :
    (registry.table scope).Pairwise fun a b => a.name ≠ b.name := by
  rw [table, ← registry.arranged, inScope_arrange]
  exact firstOfName_pairwise _

/-- A scope has a table exactly if it is among the scopes. -/
theorem mem_scopes {scope : Scope} : scope ∈ registry.scopes ↔ registry.table scope ≠ [] := by
  simp [scopes, Scope.mem_all, declares_iff, table, inScope, List.filter_eq_nil_iff]

/-- A table has at most one term of a name. -/
theorem eq_of_mem_table {scope : Scope} {a b : Term} (ha : a ∈ registry.table scope)
    (hb : b ∈ registry.table scope) (h : a.name = b.name) : a = b := by
  have hpair := registry.table_pairwise scope
  generalize registry.table scope = terms at ha hb hpair
  induction hpair with
  | nil => cases ha
  | cons hfirst _ ih =>
    rw [List.mem_cons] at ha hb
    rcases ha with rfl | ha <;> rcases hb with rfl | hb
    · rfl
    · exact absurd h (hfirst _ hb)
    · exact absurd h.symm (hfirst _ ha)
    · exact ih ha hb

theorem find?_eq_some_iff {scope : Scope} {name : String} {term : Term} :
    registry.find? scope name = some term ↔ term ∈ registry.table scope ∧ term.name = name := by
  constructor
  · intro h
    exact ⟨List.mem_of_find?_eq_some h, by simpa using List.find?_some h⟩
  · rintro ⟨hterm, rfl⟩
    obtain ⟨other, hother⟩ : ∃ other, registry.find? scope term.name = some other :=
      Option.isSome_iff_exists.1 (List.find?_isSome.2 ⟨term, hterm, by simp⟩)
    have hname : other.name = term.name := by simpa using List.find?_some hother
    rw [hother, eq_of_mem_table (List.mem_of_find?_eq_some hother) hterm hname]

theorem lookup_eq_ok_iff {scope : Scope} {name : String} {term : Term} :
    registry.lookup scope name = .ok term ↔ registry.find? scope name = some term := by
  unfold lookup tableOf find?
  cases registry.table scope with
  | nil => simp [bind, Except.bind]
  | cons first rest =>
    simp only [bind, Except.bind, pure, Except.pure]
    cases (first :: rest).find? fun term => term.name = name <;> simp

theorem mem_hopsFrom_iff {scope : Scope} {hop : Hop} :
    hop ∈ registry.hopsFrom scope ↔ hop.term ∈ registry.table scope := by
  constructor
  · intro h
    obtain ⟨term, hterm, hhop⟩ := List.mem_filterMap.1 h
    rwa [Hop.term_of_ofTerm? hhop]
  · intro h
    exact List.mem_filterMap.2 ⟨hop.term, h, hop.ofTerm?_term⟩

theorem scope_of_mem_hopsFrom {scope : Scope} {hop : Hop} (h : hop ∈ registry.hopsFrom scope) :
    hop.source = scope := by
  obtain ⟨term, hterm, hhop⟩ := List.mem_filterMap.1 h
  rw [Hop.source, Hop.term_of_ofTerm? hhop]
  exact scope_of_mem_table hterm

end Registry

end ScopedSearch
