import ScopedSearch.Proofs.Compilation
import ScopedSearch.Proofs.Typing

/-!
# Trees that conform to the registry

What the declaration of a term says of its role (`Declaration.Describes`) and of the leaves that name
it (`Term.AllowsLeaf`), and the trees all of whose nodes are as their terms are declared in the scope
that they are in (`Registry.Conforms`). A typed tree conforms, as the role of a term holds nothing but
what its declaration says (`Term.describes_role`); hence so does every compiled tree without query
trees spliced into it (`Compiler.compiled_conforms`).
-/

namespace ScopedSearch

/-! ### Roles and declarations -/

namespace Declaration

variable {declaration : Declaration}

/-- The declaration says all that the role holds: the field is its first index reference, the
relation is what its first predicate names, and target and bound are the declared ones. -/
inductive Describes (declaration : Declaration) : Role → Prop
  | documentId : declaration.pattern = .documentId → Describes declaration .documentId
  | similar : declaration.pattern = .similar → Describes declaration .similar
  | indexed {field : String} : declaration.pattern.isIndexed = true →
    declaration.indexReferences.head? = some field → Describes declaration (.indexed field)
  | text {field : String} : declaration.pattern = .text →
    declaration.indexReferences.head? = some field → Describes declaration (.text field)
  | hop {expression : String} {predicate : Predicate} {target : Scope} :
    declaration.pattern = .hopWithField → declaration.predicates.head? = some expression →
      Predicate.parse expression = .ok predicate → declaration.targetScope = some target →
        Describes declaration (.hop predicate target)
  | related {target : Scope} {level : Nat} : declaration.pattern = .relatedList →
    declaration.targetScope = some target → declaration.maxLevel = some level → 0 < level →
      Describes declaration (.related target level)

theorem firstIndex_eq_ok_iff {field : String} :
    declaration.firstIndex = .ok field ↔ declaration.indexReferences.head? = some field := by
  unfold firstIndex
  cases declaration.indexReferences <;> simp

/-- The first relation is what the first expression names. -/
theorem parse_of_relations {expressions : List String} {predicate : Predicate}
    {rest : List Predicate} (h : relations expressions = .ok (predicate :: rest)) :
    ∃ expression, expressions.head? = some expression ∧
      Predicate.parse expression = .ok predicate := by
  cases expressions with
  | nil => cases h
  | cons expression others =>
    rw [relations] at h
    split at h
    · cases h
    · next first hfirst =>
      obtain ⟨others, -, hcons⟩ := map_eq_ok_iff.1 h
      exact ⟨expression, rfl, hfirst.trans (congrArg _ (List.cons.inj hcons).1)⟩

theorem describes_of_role {predicates : List Predicate} {role : Role}
    (hrelations : relations declaration.predicates = .ok predicates)
    (hlevel : declaration.maxLevel ≠ some 0) (h : declaration.role predicates = .ok role) :
    declaration.Describes role := by
  unfold Declaration.role at h
  cases hpattern : declaration.pattern <;> simp only [hpattern] at h
  case documentId =>
    cases h
    exact .documentId hpattern
  case similar =>
    cases h
    exact .similar hpattern
  case indexedWord | indexedValue =>
    obtain ⟨field, hfield, rfl⟩ := map_eq_ok_iff.1 h
    exact .indexed (by rw [hpattern]; rfl) (firstIndex_eq_ok_iff.1 hfield)
  case text =>
    obtain ⟨field, hfield, rfl⟩ := map_eq_ok_iff.1 h
    exact .text hpattern (firstIndex_eq_ok_iff.1 hfield)
  case hopWithField =>
    split at h
    · cases h
    · cases h
    · next htarget =>
      cases h
      obtain ⟨expression, hfirst, hparse⟩ := parse_of_relations hrelations
      exact .hop hpattern hfirst hparse htarget
  case relatedList =>
    split at h
    · cases h
    · cases h
    · next level htarget hbound =>
      cases h
      have hne : level ≠ 0 := fun hzero => hlevel (hzero ▸ hbound)
      exact .related hpattern htarget hbound (Nat.pos_of_ne_zero hne)

theorem describes_of_check {predicates : List Predicate} {role : Role}
    (h : declaration.check = .ok (predicates, role)) : declaration.Describes role := by
  unfold check at h
  split at h
  · cases h
  · next hrelations =>
    split at h
    · cases h
    · next hlevel =>
      obtain ⟨found, hrole, hpair⟩ := map_eq_ok_iff.1 h
      obtain rfl := (Prod.mk.inj hpair).2
      exact describes_of_role hrelations hlevel hrole

end Declaration

/-- What a term does is what its declaration says. -/
theorem Term.describes_role (term : Term) : term.declaration.Describes term.role :=
  Declaration.describes_of_check term.checked

/-- The bound that a related list declares admits a level. -/
theorem Term.declared_pos {term : Term} {target : Scope} {declared : Nat}
    (h : term.role = .related target declared) : 0 < declared := by
  have hdescribes := term.describes_role
  rw [h] at hdescribes
  cases hdescribes with
  | related _ _ _ hpos => exact hpos

/-! ### Nodes as they are declared -/

namespace Value

/-- The value is a whole number or a finite one. -/
def IsNumber : Value → Prop
  | .int _ => True
  | .float x => x.isFinite = true
  | _ => False

/-- The value is a text that is not empty. -/
def IsText : Value → Prop
  | .string text => text ≠ ""
  | _ => False

end Value

namespace Declaration

/-- The field on which leaves match a declared term; hops and related lists have none. -/
def leafField? (declaration : Declaration) : Option String :=
  match declaration.pattern with
  | .documentId => some "id"
  | .similar => some "similar"
  | .indexedWord | .indexedValue | .text => declaration.indexReferences.head?
  | .hopWithField | .relatedList => none

end Declaration

namespace Term

variable {term : Term}

/-- The values of the term are numbers, and only they are compared. -/
def IsMeasured (term : Term) : Prop := term.pattern.isIndexed = true ∧ term.isNumeric = true

/-- A leaf on the term is as its declaration says. -/
structure AllowsLeaf (term : Term) (value : Value) (field : String) (fullText : Bool)
    (sign : Option Comparator) : Prop where
  field : term.declaration.leafField? = some field
  fullText : fullText = true ↔ term.pattern = .text
  number : term.IsMeasured → value.IsNumber
  text : ¬ term.IsMeasured → value.IsText
  sign : sign.isSome → term.IsMeasured

end Term

namespace Registry

/-- Every node of the tree is as a term of the scope that the node is in is declared. -/
inductive Conforms (registry : Registry) : Scope → Query → Prop
  | leaf {scope : Scope} {value : Value} {field : String} {fullText : Bool}
    {sign : Option Comparator} (term : Term) : term ∈ registry.table scope →
      term.AllowsLeaf value field fullText sign →
        Conforms registry scope
          (.leaf term.name value (some scope.name) (some field) fullText sign)
  | toRecord {scope target : Scope} {predicate : Predicate} (term : Term) (id : RecordId) :
    term ∈ registry.table scope → term.declaration.Describes (.hop predicate target) →
      Conforms registry scope (.hop term.name (.record id) (some scope.name)
        (some predicate.curie) (some target.name))
  | hop {scope target : Scope} {predicate : Predicate} {tree : Query} (term : Term) :
    term ∈ registry.table scope → term.declaration.Describes (.hop predicate target) →
      Conforms registry target tree →
        Conforms registry scope (.hop term.name tree (some scope.name) (some predicate.curie)
          (some target.name))
  | group {scope : Scope} {trees : List Query} (connective : Connective) : trees ≠ [] →
    (∀ tree ∈ trees, Conforms registry scope tree) →
      Conforms registry scope (.group connective trees (some scope.name))

/-- The tree conforms in some scope, or it is a query over several scopes whose branches, of which it
has some, conform each in its own. -/
def ConformsRoot (registry : Registry) (tree : Query) : Prop :=
  (∃ scope, registry.Conforms scope tree) ∨
    ∃ branches, tree = .group .any branches (some Scope.multi) ∧ branches ≠ [] ∧
      ∀ branch ∈ branches, ∃ scope, registry.Conforms scope branch

end Registry

/-! ### Typed trees conform -/

namespace Term

variable {term : Term}

theorem isText_of_textOf {value text : Value} (h : term.textOf value = .ok text) :
    text.IsText := by
  obtain ⟨s, hblank, -, rfl⟩ := textOf_eq_ok_iff.1 h
  rintro rfl
  cases hblank

theorem isNumber_of_numberOf {value number : Value} (h : term.numberOf value = .ok number) :
    number.IsNumber := by
  obtain ⟨n, rfl⟩ | ⟨x, hx, rfl⟩ := number_of_numberOf h
  · trivial
  · exact hx

/-- A leaf on a term that is not indexed holds a text. -/
theorem allowsLeaf_of_isText {value : Value} {field : String} {fullText : Bool}
    {sign : Option Comparator} (hindexed : term.pattern.isIndexed = false)
    (hfield : term.declaration.leafField? = some field)
    (hfullText : fullText = true ↔ term.pattern = .text) (htext : value.IsText)
    (hsign : sign.isSome → term.IsMeasured) : term.AllowsLeaf value field fullText sign where
  field := hfield
  fullText := hfullText
  number h := by
    rw [IsMeasured, hindexed] at h
    cases h.1
  text _ := htext
  sign := hsign

/-- A leaf on an indexed term holds a number if the term is numeric, and else a text. -/
theorem allowsLeaf_of_indexed {value coerced : Value} {field : String} {sign : Option Comparator}
    (hindexed : term.pattern.isIndexed = true)
    (hfield : term.declaration.indexReferences.head? = some field)
    (hcoerced : (if term.isNumeric then term.numberOf value else term.textOf value) = .ok coerced)
    (hsign : sign.isSome → term.IsMeasured) : term.AllowsLeaf coerced field false sign where
  field := by
    unfold Declaration.leafField?
    cases hpattern : term.declaration.pattern with
    | indexedWord | indexedValue | text => exact hfield
    | _ => simp [pattern, hpattern, Pattern.isIndexed] at hindexed
  fullText := by
    cases hpattern : term.pattern <;> simp_all [Pattern.isIndexed]
  number h := by
    rw [if_pos h.2] at hcoerced
    exact isNumber_of_numberOf hcoerced
  text h := by
    rw [if_neg fun hnumeric => h ⟨hindexed, hnumeric⟩] at hcoerced
    exact isText_of_textOf hcoerced
  sign := hsign

/-- A coerced value on the field of its term makes a leaf as it is declared. -/
theorem allowsLeaf_of_coerce? {value coerced : Value} {field : String} {fullText : Bool}
    {sign : Option Comparator} (hfield : term.role.field? = some (field, fullText))
    (hcoerced : term.coerce? value = some coerced) (hsign : sign.isSome → term.IsMeasured) :
    term.AllowsLeaf coerced field fullText sign := by
  have hdescribes := term.describes_role
  unfold coerce? at hcoerced
  generalize term.role = role at hfield hcoerced hdescribes
  cases hdescribes with
  | documentId hpattern | similar hpattern =>
    obtain ⟨rfl, rfl⟩ := Prod.mk.inj (Option.some.inj hfield)
    obtain ⟨id, -, rfl⟩ := Option.map_eq_some_iff.1 hcoerced
    exact allowsLeaf_of_isText (by rw [pattern, hpattern]; rfl)
      (by rw [Declaration.leafField?, hpattern]) (by simp [pattern, hpattern]) id.nonempty hsign
  | indexed hindexed hfirst =>
    obtain ⟨rfl, rfl⟩ := Prod.mk.inj (Option.some.inj hfield)
    exact allowsLeaf_of_indexed hindexed hfirst (toOption_eq_some_iff.1 hcoerced) hsign
  | text hpattern hfirst =>
    obtain ⟨rfl, rfl⟩ := Prod.mk.inj (Option.some.inj hfield)
    exact allowsLeaf_of_isText (by rw [pattern, hpattern]; rfl)
      (by rw [Declaration.leafField?, hpattern, hfirst]) (by simp [pattern, hpattern])
      (isText_of_textOf (toOption_eq_some_iff.1 hcoerced)) hsign
  | hop | related => cases hfield

end Term

namespace Registry

variable {registry : Registry}

/-- The term of a hop declares the relation and the target of the hop. -/
theorem describes_hop (hop : Hop) :
    hop.term.declaration.Describes (.hop hop.predicate hop.target) :=
  hop.role ▸ hop.term.describes_role

theorem Typed.conforms {scope : Scope} {tree : Query} :
    registry.Typed scope tree → registry.Conforms scope tree
  | .leaf term hterm hfield hcoerced hsign => by
    obtain rfl := scope_of_mem_table hterm
    exact .leaf term hterm (Term.allowsLeaf_of_coerce? hfield hcoerced hsign)
  | .toRecord via id hmem => by
    obtain rfl := scope_of_mem_hopsFrom hmem
    exact .toRecord via.term id (mem_hopsFrom_iff.1 hmem) (describes_hop via)
  | .hop via hmem htarget => by
    obtain rfl := scope_of_mem_hopsFrom hmem
    exact .hop via.term (mem_hopsFrom_iff.1 hmem) (describes_hop via) htarget.conforms
  | .group connective hne htrees =>
    .group connective hne fun tree htree => (htrees tree htree).conforms

theorem TypedRoot.conforms {tree : Query} : registry.TypedRoot tree → registry.ConformsRoot tree
  | .inl ⟨scope, htyped⟩ => .inl ⟨scope, htyped.conforms⟩
  | .inr ⟨branches, htree, hne, hbranches⟩ =>
    .inr ⟨branches, htree, hne, fun branch hbranch =>
      (hbranches branch hbranch).imp fun _ => Typed.conforms⟩

end Registry

/-! ### Compiled trees conform -/

namespace Compiler

variable {compiler : Compiler}

/-- The tree of one term with a plain value is typed in the scope of the term. -/
theorem typed_of_termQuery {scope : Scope} {name : String} {value : Value} {levels : Levels}
    {comparator : Option Value} {tree : Query}
    (h : (compiler.termQuery scope name value levels comparator
      (compiler.target value)).outcome = .ok tree) (hplain : value.isPlain = true) :
    compiler.registry.Typed scope tree := by
  cases yields_of_termQuery h with
  | leaf term hterm hfield hcoerced hcomparator hsign =>
    obtain ⟨rfl, hnumeric⟩ := Term.comparatorOf_eq_ok_iff.1 hsign
    exact .leaf term hterm hfield (Term.coerce?_coerced hcoerced) fun hsome =>
      ⟨hcomparator (by simpa using hsome), hnumeric hsome⟩
  | hop hop hmem _ hterminal =>
    have htarget := (target_eq_ok_iff.1 hterminal).typed hplain
    exact htarget.hop hmem
  | related term hterm _ _ _ hgroups hterminal =>
    obtain rfl := Registry.scope_of_mem_table hterm
    exact Registry.typed_ofChains hgroups ((target_eq_ok_iff.1 hterminal).typed hplain)

/-- Compiled trees conform to the registry: what one term with a plain value compiles to conforms in
the scope of the term, and so do plain criteria in theirs. -/
theorem compiled_conforms (compiler : Compiler) :
    (∀ (scope : Value) (name : String) (value : Value) (levels : Levels)
      (comparator : Option Value) (tree : Query), value.isPlain = true →
        (compiler.compile scope name value levels comparator).outcome = .ok tree →
          ∃ s : Scope, scope = .string s.name ∧ compiler.registry.Conforms s tree) ∧
    ∀ (criteria : Value) (expected : Option String) (tree : Query), criteria.isPlain = true →
      (compiler.criteria criteria expected).outcome = .ok tree →
        compiler.registry.ConformsRoot tree := by
  refine ⟨fun scope name value levels comparator tree hplain h => ?_,
    fun criteria expected tree hplain h => ?_⟩
  · rw [compile, Traced.bind_outcome_eq_ok] at h
    obtain ⟨s, hs, h⟩ := h
    exact ⟨s, Scope.ofValue_eq_ok_iff.1 hs, (typed_of_termQuery h hplain).conforms⟩
  · exact ((criteria_eq_ok_iff.1 h).typed hplain).conforms

theorem seaQuery_conforms :
    seaCriteria.isPlain = true ∧
      ((Compiler.mk .artists true).criteria seaCriteria).outcome = .ok seaQuery ∧
        Registry.artists.ConformsRoot seaQuery ∧
      ∃ tree, ((Compiler.mk .artists true).compile (.string "agent") "startYear" (.string "1850") {}
          (some (.string ">="))).outcome = .ok tree ∧
        ∃ scope : Scope, Value.string "agent" = .string scope.name ∧
          Registry.artists.Conforms scope tree := by
  have hplain : seaCriteria.isPlain = true := by decide
  have hcompiled : ((Compiler.mk .artists true).compile (.string "agent") "startYear"
      (.string "1850") {} (some (.string ">="))).outcome = .ok (.leaf "startYear" (.int 1850)
        (some "agent") (some "agentStartYear") false (some .ge)) := by rfl
  obtain ⟨hcompile, hcriteria⟩ := compiled_conforms (Compiler.mk .artists true)
  exact ⟨hplain, seaCriteria_compiled, hcriteria _ _ _ hplain seaCriteria_compiled,
    _, hcompiled, hcompile _ _ _ _ _ _ rfl hcompiled⟩

end Compiler

end ScopedSearch
