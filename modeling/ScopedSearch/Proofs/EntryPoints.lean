import ScopedSearch.Proofs.Rereading
import ScopedSearch.Proofs.Splicing

/-!
# Terms and criteria of one term

A term with a value can be compiled directly, or as criteria that hold nothing else. The way through
criteria settles the scope, checks the options and combines the conditions; for a single term none of
this changes what happens, neither the tree, nor the error, nor the events before it
(`Compiler.criteria_of_one_term`).
-/

namespace ScopedSearch

/-! ### Sequences of steps -/

namespace Traced

variable {α β γ : Type}

protected theorem pure_bind (value : α) (next : α → Traced β) :
    (pure value >>= next : Traced β) = next value := rfl

protected theorem bind_assoc (first : Traced α) (next : α → Traced β) (last : β → Traced γ) :
    ((first >>= next) >>= last) = first >>= fun value => next value >>= last := by
  obtain ⟨events, outcome⟩ := first
  change Traced.bind (Traced.bind _ _) _ = Traced.bind _ fun value => Traced.bind _ _
  cases outcome with
  | error error => rfl
  | ok value =>
    simp only [Traced.bind]
    cases (next value).outcome with
    | error error => rfl
    | ok result => simp only [List.append_assoc]

protected theorem bind_pure (first : Traced α) : (first >>= fun value => pure value) = first := by
  obtain ⟨events, outcome⟩ := first
  change Traced.bind _ Traced.pure = _
  cases outcome with
  | error error => rfl
  | ok value => simp only [Traced.bind, Traced.pure, List.append_nil]

end Traced

namespace Compiler

variable {compiler : Compiler} {scope : Scope} {name : String}

/-! ### A single condition -/

/-- A condition with a comparison beside it, which may be null. -/
def alone (name : String) (value comparator : Value) : Entries String Value :=
  [(name, value), (comparatorKey, comparator)]

/-- A mapping with a condition on one term, whether or not it declares its scope. -/
structure IsAlone (name : String) (value comparator : Value) (entries : Entries String Value) :
    Prop where
  keys : termKeys entries = [name]
  given : given? entries comparatorKey = comparator.orNone
  conditions : ∀ (compiler : Compiler) (scope : Scope) (sign : Option Value),
    compiler.conditions scope sign entries =
      compiler.condition scope sign name value >>= fun tree => pure [tree]

theorem isAlone_alone (hname : name.toList.head? ≠ some '_') (value comparator : Value) :
    IsAlone name value comparator (alone name value comparator) where
  keys := by
    rw [alone, termKeys_cons, if_neg (Registry.not_option_of_head? hname), termKeys_cons,
      if_pos (.inr rfl)]
    rfl
  given := by
    rw [alone, Registry.given?_cons_of_ne (not_or.1 (Registry.not_option_of_head? hname)).2,
      Registry.given?_cons_self]
  conditions compiler scope sign := by
    rw [alone, conditions_cons (Registry.not_option_of_head? hname), conditions_option (.inr rfl)]
    rfl

theorem IsAlone.cons_scope {value comparator : Value} {entries : Entries String Value}
    (h : IsAlone name value comparator entries) (declared : Value) :
    IsAlone name value comparator ((scopeKey, declared) :: entries) where
  keys := by rw [termKeys_cons, if_pos (.inl rfl), h.keys]
  given := by rw [Registry.given?_cons_of_ne (by decide), h.given]
  conditions compiler scope sign := by rw [conditions_option (.inl rfl), h.conditions]

/-- A mapping with a condition on one term is compiled like the term. -/
theorem IsAlone.mapping_eq {value comparator : Value} {entries : Entries String Value}
    (h : IsAlone name value comparator entries) (hname : name.toList.head? ≠ some '_')
    (hkey : Connective.ofKey? name = none) :
    compiler.mapping scope entries =
      compiler.termQuery scope name value {} comparator.orNone (compiler.target value) := by
  have hcomparison : comparisonOf scope entries = .ok comparator.orNone :=
    Registry.comparisonOf_eq_ok hname h.keys h.given fun _ => hkey
  have hcondition : compiler.condition scope comparator.orNone name value =
      compiler.termQuery scope name value {} comparator.orNone (compiler.target value) := by
    rw [condition, hkey]
  rw [mapping, combine, hcomparison, orRefuse, Traced.pure_bind, h.conditions, Traced.bind_assoc,
    hcondition]
  exact Traced.bind_pure _

/-- Criteria that are read in a scope of their own are compiled as a mapping in it. -/
theorem criteria_of_scope {entries : Entries String Value} {expected : Option String}
    {declared : String} (hscope : scopeOfCriteria expected entries = .ok (.string declared))
    (hmulti : declared ≠ Scope.multi) :
    compiler.criteria (.map entries) expected =
      (liftM (Scope.ofValue (.string declared)) : Traced Scope) >>= fun scope =>
        compiler.mapping scope entries := by
  have hplain : (Value.string declared).isString Scope.multi = false := by
    simpa [Value.isString] using hmulti
  rw [criteria, hscope, orRefuse, Traced.pure_bind, hplain]
  rfl

theorem IsAlone.criteria_eq {value comparator : Value} {entries : Entries String Value}
    {expected : Option String} {declared : String} (h : IsAlone name value comparator entries)
    (hscope : scopeOfCriteria expected entries = .ok (.string declared))
    (hmulti : declared ≠ Scope.multi) (hname : name.toList.head? ≠ some '_')
    (hkey : Connective.ofKey? name = none) :
    compiler.criteria (.map entries) expected =
      compiler.compile (.string declared) name value {} comparator.orNone := by
  rw [criteria_of_scope hscope hmulti, compile]
  simp only [h.mapping_eq hname hkey]

/-- What a term compiles to declares the scope that the term was looked up in. -/
theorem scope_of_compile {declared : String} {value : Value} {comparator : Option Value}
    {tree : Query} (hkey : Connective.ofKey? name = none)
    (h : (compiler.compile (.string declared) name value {} comparator).outcome = .ok tree) :
    tree.scope = some declared := by
  simp only [compile, Traced.bind_outcome_eq_ok, Traced.lift_outcome, Scope.ofValue_eq_ok_iff,
    Value.string.injEq] at h
  obtain ⟨scope, rfl, hquery⟩ := h
  exact (readsCondition_of_ok (readsTarget_of_ok value) hkey hquery).scope_eq

end Compiler

theorem Query.withScope_self (tree : Query) : tree.withScope tree.scope = tree := by
  cases tree <;> rfl

/-- The ways to compile one term agree: criteria that declare its scope, criteria where the scope is
expected, and the term itself take the same course, with the same tree or error. The root of the tree
declares the scope already, so that to give it the scope once more changes nothing. -/
theorem Compiler.criteria_of_one_term (compiler : Compiler) {scope name : String}
    (hscope : scope ≠ Scope.multi) (hconnective : name ≠ "AND" ∧ name ≠ "OR")
    (hname : name.toList.head? ≠ some '_') (value comparator : Value) :
    compiler.criteria
        (.map [(scopeKey, .string scope), (name, value), (comparatorKey, comparator)]) =
      compiler.compile (.string scope) name value {} comparator.orNone ∧
    compiler.criteria (.map [(name, value), (comparatorKey, comparator)]) (some scope) =
      compiler.compile (.string scope) name value {} comparator.orNone ∧
    ∀ tree,
      (compiler.compile (.string scope) name value {} comparator.orNone).outcome = .ok tree →
        tree.withScope (some scope) = tree := by
  have hkey : Connective.ofKey? name = none := by
    rw [Connective.ofKey?, if_neg hconnective.1, if_neg hconnective.2]
  have halone := isAlone_alone hname value comparator
  refine ⟨?_, ?_, fun tree htree => ?_⟩
  · refine (halone.cons_scope (.string scope)).criteria_eq ?_ hscope hname hkey
    unfold scopeOfCriteria
    rw [Registry.given?_string_cons]
  · refine halone.criteria_eq ?_ hscope hname hkey
    unfold scopeOfCriteria
    rw [alone, Registry.given?_cons_of_ne (not_or.1 (Registry.not_option_of_head? hname)).1]
    rfl
  · rw [← scope_of_compile hkey htree]
    exact tree.withScope_self

theorem Compiler.startYear_alike :
    "agent" ≠ Scope.multi ∧ ("startYear" ≠ "AND" ∧ "startYear" ≠ "OR") ∧
      "startYear".toList.head? ≠ some '_' ∧
      (Compiler.mk .artists true).criteria
          (.map [(scopeKey, .string "agent"), ("startYear", .string "1850"),
            (comparatorKey, .string ">=")]) =
        (Compiler.mk .artists true).compile (.string "agent") "startYear" (.string "1850") {}
          (some (.string ">=")) ∧
      ((Compiler.mk .artists true).compile (.string "agent") "startYear" (.string "1850") {}
        (some (.string ">="))).outcome =
          .ok (.leaf "startYear" (.int 1850) (some "agent") (some "agentStartYear") false
            (some .ge)) := by
  have hscope : "agent" ≠ Scope.multi := by decide
  have hconnective : "startYear" ≠ "AND" ∧ "startYear" ≠ "OR" := by decide
  have hname : "startYear".toList.head? ≠ some '_' := by decide
  exact ⟨hscope, hconnective, hname,
    (criteria_of_one_term _ hscope hconnective hname (.string "1850") (.string ">=")).1, by rfl⟩

end ScopedSearch
