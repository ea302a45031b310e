import ScopedSearch.Proofs.ChainOrder
import ScopedSearch.Proofs.Conformance
import ScopedSearch.Proofs.LongNumbers
import ScopedSearch.Proofs.RelatedList

/-!
# How compilation fails

Compilation has a result, or it fails in one of four ways (`Registry.Failure`): a value does not fit, a
scope that the caller named has no terms, a scope with terms has none of a name, or a related list is
asked for more levels than it declares. A scope that a hop leads to always has terms, so below the
scopes that are named no further one is unknown; and criteria ask for no levels. What a refusal shows is
part of what was given (`RefusalsShowLongOnlyIf`), so a number that is too long to be shown takes the
place of a failure only if it was given (`Registry.Failing`). That is `Compiler.failures_documented`,
which also says that what is looked up on the way without asking is there.
-/

namespace ScopedSearch

namespace Traced

variable {α β : Type} {p q : Error → Prop} {traced : Traced α}

/-- If the operation fails, then with an error of this kind. -/
def FailsOnly (p : Error → Prop) (traced : Traced α) : Prop :=
  ∀ error, traced.outcome = .error error → p error

theorem FailsOnly.mono (h : traced.FailsOnly p) (himp : ∀ error, p error → q error) :
    traced.FailsOnly q :=
  fun error herror => himp error (h error herror)

theorem failsOnly_pure (value : α) : (pure value : Traced α).FailsOnly p := by
  intro error herror
  rw [pure_outcome] at herror
  cases herror

theorem failsOnly_tell (event : Event) : (tell event).FailsOnly p := by
  intro error herror
  rw [tell_outcome] at herror
  cases herror

theorem failsOnly_fail {error : Error} (h : p error) : (fail error : Traced α).FailsOnly p := by
  intro other hother
  rw [fail_outcome] at hother
  cases hother
  exact h

theorem FailsOnly.bind {next : α → Traced β} (h : traced.FailsOnly p)
    (hnext : ∀ value, traced.outcome = .ok value → (next value).FailsOnly p) :
    (traced >>= next).FailsOnly p := by
  intro error herror
  rcases bind_outcome_eq_error.1 herror with herror | ⟨value, hvalue, herror⟩
  · exact h error herror
  · exact hnext value hvalue error herror

end Traced

namespace Registry

variable {registry : Registry}

/-- The ways to fail, where the scopes that may be unknown and the bounds that may be exceeded are
given. -/
inductive Failure (registry : Registry) (named : Value → Prop)
    (exceeded : Term → Int → Nat → Prop) : Error → Prop
  | invalid (cause : Invalid) : Failure registry named exceeded (.invalid cause)
  | unknownScope {given : Value} : named given → registry.containsScope given = .ok false →
    Failure registry named exceeded (.unknownScope given)
  | unknownTerm {scope : Scope} {name : String} : registry.table scope ≠ [] →
    registry.find? scope name = none → Failure registry named exceeded (.unknownTerm scope name)
  | levelExceeded {term : Term} {requested : Int} {declared : Nat} :
    exceeded term requested declared →
      Failure registry named exceeded (.levelExceeded term requested declared)

/-- A failure in one of these ways, or a number that is too long to be shown, which there is only if
`long` holds. -/
inductive Failing (registry : Registry) (named : Value → Prop)
    (exceeded : Term → Int → Nat → Prop) (long : Prop) : Error → Prop
  | documented {error : Error} : registry.Failure named exceeded error →
    Failing registry named exceeded long error
  | tooLong : long → Failing registry named exceeded long (.misuse .numeralTooLong)

theorem containsScope_name {scope : Scope} :
    registry.containsScope (.string scope.name) = .ok (decide (registry.table scope ≠ [])) := by
  rw [containsScope, Scope.ofValue_eq_ok_iff.2 rfl]
  exact congrArg Except.ok (Bool.eq_iff_iff.2 (by simpa using mem_scopes))

namespace Failing

variable {named named' : Value → Prop} {exceeded exceeded' : Term → Int → Nat → Prop}
  {long : Prop} {error : Error}

theorem mono (h : registry.Failing named exceeded long error)
    (hnamed : ∀ given, named given → registry.containsScope given = .ok false → named' given)
    (hexceeded : ∀ term requested declared, exceeded term requested declared →
      exceeded' term requested declared) : registry.Failing named' exceeded' long error := by
  cases h with
  | tooLong hlong => exact .tooLong hlong
  | documented h =>
    refine .documented ?_
    cases h with
    | invalid cause => exact .invalid cause
    | unknownScope hgiven hunknown => exact .unknownScope (hnamed _ hgiven hunknown) hunknown
    | unknownTerm htable hfind => exact .unknownTerm htable hfind
    | levelExceeded h => exact .levelExceeded (hexceeded _ _ _ h)

/-- A scope with terms is not unknown. -/
theorem of_table {scope : Scope} (htable : registry.table scope ≠ [])
    (h : registry.Failing (· = .string scope.name) exceeded long error) :
    registry.Failing (fun _ => False) exceeded long error := by
  refine h.mono ?_ fun _ _ _ h => h
  rintro _ rfl hunknown
  rw [containsScope_name, decide_eq_true htable] at hunknown
  cases hunknown

end Failing

theorem failsOnly_of_named {α : Type} {traced : Traced α} {named named' : Value → Prop}
    {exceeded : Term → Int → Nat → Prop} {long : Prop}
    (h : traced.FailsOnly (registry.Failing named exceeded long))
    (hnamed : ∀ given, named given → named' given) :
    traced.FailsOnly (registry.Failing named' exceeded long) :=
  h.mono fun _ h => h.mono (fun given hgiven _ => hnamed given hgiven) fun _ _ _ h => h

/-- Looking a term up in a scope fails if the scope has no terms or none of the name. -/
theorem failure_of_lookup {scope : Scope} {name : String} {error : Error}
    {exceeded : Term → Int → Nat → Prop} (h : registry.lookup scope name = .error error) :
    registry.Failure (· = .string scope.name) exceeded error := by
  unfold lookup tableOf at h
  cases htable : registry.table scope with
  | nil =>
    rw [htable] at h
    cases h
    refine .unknownScope rfl ?_
    rw [containsScope_name, htable]
    rfl
  | cons first rest =>
    have hne : registry.table scope ≠ [] := by simp [htable]
    simp only [htable, Traced.ok_bind] at h
    split at h
    · cases h
    · next hfind =>
      cases h
      exact .unknownTerm hne hfind

/-- A scope that a term refers to has terms. -/
theorem table_of_references {term : Term} {scope : Scope} (hterm : term ∈ registry.terms)
    (hscope : scope ∈ term.references) : registry.table scope ≠ [] := by
  obtain ⟨other, hother, rfl⟩ := registry.closed term hterm scope hscope
  exact List.ne_nil_of_mem (mem_table.2 ⟨hother, rfl⟩)

end Registry

namespace Term

variable {term : Term} {target : Scope}

theorem mem_references_of_hop {predicate : Predicate} (hrole : term.role = .hop predicate target) :
    target ∈ term.references := by
  have hdescribes := term.describes_role
  rw [hrole] at hdescribes
  cases hdescribes with
  | hop _ _ _ htarget => simp [references, htarget]

theorem mem_references_of_related {declared : Nat} (hrole : term.role = .related target declared) :
    target ∈ term.references := by
  have hdescribes := term.describes_role
  rw [hrole] at hdescribes
  cases hdescribes with
  | related _ htarget _ _ => simp [references, htarget]

end Term

namespace Compiler

variable {compiler : Compiler}

/-- More levels are asked for than the related list declares, and they are not lowered. -/
structure Exceeds (compiler : Compiler) (levels : Levels) (term : Term) (requested : Int)
    (declared : Nat) : Prop where
  mem : term ∈ compiler.registry.terms
  related : ∃ target, term.role = .related target declared
  asked : levels.maxLevel = some (.int requested)
  above : declared < requested
  unclamped : levels.clamp.getD compiler.clamps = false

theorem not_exceeds_default {term : Term} {requested : Int} {declared : Nat} :
    ¬ compiler.Exceeds {} term requested declared :=
  fun h => nomatch h.asked

end Compiler

/-! ### What refusals show -/

namespace Invalid

variable {long : Prop} {cause : Invalid}

/-- The message shows no number that is too long unless `long` holds. -/
def ShowsLongOnlyIf (long : Prop) (cause : Invalid) : Prop :=
  ∀ given ∈ cause.shown?, given.IsLong → long

theorem showsLongOnlyIf_of_none (hshown : cause.shown? = none) : cause.ShowsLongOnlyIf long := by
  intro given hgiven
  rw [hshown] at hgiven
  cases hgiven

theorem showsLongOnlyIf_of_some {given : Value} (hshown : cause.shown? = some given)
    (h : given.IsLong → long) : cause.ShowsLongOnlyIf long := by
  intro other hother
  rw [hshown] at hother
  cases hother
  exact h

end Invalid

/-- A check shows no number that is too long in a refusal unless `long` holds. -/
def RefusalsShowLongOnlyIf {α : Type} (long : Prop) (checked : Except Invalid α) : Prop :=
  ∀ cause, checked = .error cause → cause.ShowsLongOnlyIf long

section

variable {α : Type} {long : Prop} {entries : Entries String Value} {value : Value}

theorem refusalsShow_ok (result : α) : RefusalsShowLongOnlyIf long (.ok result) := by
  intro cause h
  cases h

theorem refusalsShow_error {cause : Invalid} (h : cause.ShowsLongOnlyIf long) :
    RefusalsShowLongOnlyIf long (.error cause : Except Invalid α) := by
  intro other hother
  cases hother
  exact h

/-- A refusal for a value that is shown. -/
theorem refusalsShow_shown {cause : Invalid} {given : Value} (hshown : cause.shown? = some given)
    (h : given.IsLong → long) : RefusalsShowLongOnlyIf long (.error cause : Except Invalid α) :=
  refusalsShow_error (Invalid.showsLongOnlyIf_of_some hshown h)

/-- A refusal for a text. -/
theorem refusalsShow_text {cause : Invalid} {text : String}
    (hshown : cause.shown? = some (.string text)) :
    RefusalsShowLongOnlyIf long (.error cause : Except Invalid α) :=
  refusalsShow_shown hshown fun hlong => absurd hlong (Value.not_isLong_string text)

/-- A refusal whose message shows no value. -/
theorem refusalsShow_nothing {cause : Invalid} (hshown : cause.shown? = none) :
    RefusalsShowLongOnlyIf long (.error cause : Except Invalid α) :=
  refusalsShow_error (Invalid.showsLongOnlyIf_of_none hshown)

theorem isLong_of_given? {key : String} (h : given? entries key = some value)
    (hlong : value.IsLong) : (Value.map entries).IsLong := by
  unfold given? at h
  split at h
  · cases h
  · cases h
  · next hget =>
    cases h
    exact .map (Entries.mem_of_get? hget) hlong

namespace Term

variable {term : Term}

theorem recordNamed_shows (text : String) :
    RefusalsShowLongOnlyIf long (term.recordNamed text) := by
  unfold recordNamed
  split
  · exact refusalsShow_ok _
  · exact refusalsShow_text rfl

theorem recordOf_shows (h : value.IsLong → long) :
    RefusalsShowLongOnlyIf long (term.recordOf value) := by
  unfold recordOf
  split
  · exact refusalsShow_ok _
  · exact recordNamed_shows _
  · exact recordNamed_shows _
  · exact refusalsShow_shown rfl fun hlong => h (.map (List.mem_singleton.2 rfl) hlong)
  · exact refusalsShow_shown rfl h

theorem numberOf_shows (h : value.IsLong → long) :
    RefusalsShowLongOnlyIf long (term.numberOf value) := by
  unfold numberOf
  split
  · exact refusalsShow_ok _
  · exact refusalsShow_ok _
  · split
    · exact refusalsShow_ok _
    · exact refusalsShow_shown rfl h
  · split
    · exact refusalsShow_ok _
    · exact refusalsShow_shown rfl h
  · exact refusalsShow_shown rfl h

theorem textOf_shows (h : value.IsLong → long) :
    RefusalsShowLongOnlyIf long (term.textOf value) := by
  unfold textOf
  split
  · split
    · exact refusalsShow_shown rfl h
    · exact refusalsShow_ok _
  · exact refusalsShow_shown rfl h

theorem comparatorOf_shows {comparator : Option Value}
    (h : ∀ given ∈ comparator, given.IsLong → long) :
    RefusalsShowLongOnlyIf long (term.comparatorOf comparator) := by
  unfold comparatorOf
  split
  · exact refusalsShow_ok _
  · next given =>
    have hgiven := h given rfl
    split
    · exact refusalsShow_shown rfl hgiven
    · split
      · split
        · exact refusalsShow_ok _
        · exact refusalsShow_shown rfl hgiven
      · exact refusalsShow_shown rfl hgiven

theorem indexedLeaf_shows {field : String} {comparator : Option Value}
    (hvalue : value.IsLong → long) (hcomparator : ∀ given ∈ comparator, given.IsLong → long) :
    RefusalsShowLongOnlyIf long (term.indexedLeaf field value comparator) := by
  intro cause herror
  rw [indexedLeaf, bind_eq_error_iff] at herror
  rcases herror with herror | ⟨_, -, herror⟩
  · exact comparatorOf_shows hcomparator cause herror
  · dsimp only at herror
    split at herror
    · rw [bind_eq_error_iff] at herror
      rcases herror with herror | ⟨_, -, herror⟩
      · exact numberOf_shows hvalue cause herror
      · cases herror
    · rw [bind_eq_error_iff] at herror
      rcases herror with herror | ⟨_, -, herror⟩
      · exact textOf_shows hvalue cause herror
      · cases herror

theorem treeTarget_shows {target : Scope} {tree : Query} :
    RefusalsShowLongOnlyIf long (term.treeTarget target tree) := by
  unfold treeTarget
  split
  · exact refusalsShow_ok _
  · split
    · exact refusalsShow_ok _
    · exact refusalsShow_nothing rfl

end Term

namespace Compiler

theorem comparisonOf_shows {scope : Scope} :
    RefusalsShowLongOnlyIf long (comparisonOf scope entries) := by
  unfold comparisonOf
  dsimp only
  split
  · exact refusalsShow_nothing rfl
  · split
    · exact refusalsShow_nothing rfl
    · split
      · exact refusalsShow_nothing rfl
      · exact refusalsShow_ok _

theorem checkTargetScope_shows {scope : Scope} (h : (Value.map entries).IsLong → long) :
    RefusalsShowLongOnlyIf long (checkTargetScope scope entries) := by
  unfold checkTargetScope
  split
  · exact refusalsShow_ok _
  · split
    · exact refusalsShow_ok _
    · exact refusalsShow_text rfl
  · next hdeclared =>
    exact refusalsShow_shown rfl fun hlong => h (isLong_of_given? hdeclared hlong)

theorem checkConditionScope_shows {scope : Scope} (h : (Value.map entries).IsLong → long) :
    RefusalsShowLongOnlyIf long (checkConditionScope scope entries) := by
  unfold checkConditionScope
  split
  · exact refusalsShow_ok _
  · split
    · exact refusalsShow_ok _
    · exact refusalsShow_text rfl
  · next hdeclared =>
    exact refusalsShow_shown rfl fun hlong => h (isLong_of_given? hdeclared hlong)

theorem scopeOfCriteria_shows {expected : Option String} (h : (Value.map entries).IsLong → long) :
    RefusalsShowLongOnlyIf long (scopeOfCriteria expected entries) := by
  unfold scopeOfCriteria
  split
  · exact refusalsShow_nothing rfl
  · exact refusalsShow_ok _
  · exact refusalsShow_ok _
  · next hdeclared =>
    split
    · exact refusalsShow_ok _
    · exact refusalsShow_shown rfl fun hlong => h (isLong_of_given? hdeclared hlong)

end Compiler

end

namespace Compiler

variable {compiler : Compiler} {long : Prop}

section Parts

variable {named : Value → Prop} {exceeded : Term → Int → Nat → Prop}

theorem refuse_fails {α : Type} {cause : Invalid} (h : cause.ShowsLongOnlyIf long) :
    (Traced.refuse cause : Traced α).FailsOnly (compiler.registry.Failing named exceeded long) := by
  refine Traced.failsOnly_fail ?_
  by_cases hshort : ∀ given ∈ cause.shown?, ¬ given.IsLong
  · rw [Error.raised_invalid hshort]
    exact .documented (.invalid cause)
  · simp only [not_forall, not_not] at hshort
    obtain ⟨given, hgiven, hlong⟩ := hshort
    rw [Error.raised_invalid_of_isLong hgiven hlong]
    exact .tooLong (h given hgiven hlong)

/-- A refusal whose message shows no value. -/
theorem refuse_nothing_fails {α : Type} {cause : Invalid} (hshown : cause.shown? = none) :
    (Traced.refuse cause : Traced α).FailsOnly (compiler.registry.Failing named exceeded long) :=
  refuse_fails (Invalid.showsLongOnlyIf_of_none hshown)

/-- A refusal for a value that is shown. -/
theorem refuse_shown_fails {α : Type} {cause : Invalid} {given : Value}
    (hshown : cause.shown? = some given) (h : given.IsLong → long) :
    (Traced.refuse cause : Traced α).FailsOnly (compiler.registry.Failing named exceeded long) :=
  refuse_fails (Invalid.showsLongOnlyIf_of_some hshown h)

theorem orRefuse_fails {α : Type} {checked : Except Invalid α}
    (h : RefusalsShowLongOnlyIf long checked) :
    (orRefuse checked).FailsOnly (compiler.registry.Failing named exceeded long) := by
  cases checked with
  | ok value => exact Traced.failsOnly_pure value
  | error cause => exact refuse_fails (h cause rfl)

theorem combine_fails {scope : Scope} {entries : Entries String Value}
    {parts : Option Value → Traced (List Query)}
    (hparts : ∀ comparator, comparator = given? entries comparatorKey →
      (parts comparator).FailsOnly (compiler.registry.Failing named exceeded long)) :
    (combine scope entries parts).FailsOnly (compiler.registry.Failing named exceeded long) := by
  refine (orRefuse_fails comparisonOf_shows).bind fun comparator hcomparator => ?_
  have hgiven := eq_given?_of_comparisonOf (orRefuse_outcome_eq_ok.1 hcomparator)
  exact (hparts comparator hgiven).bind fun _ _ => Traced.failsOnly_pure _

theorem relatedQuery_fails {term : Term} {target : Scope} {level : Nat} {terminal : Query} :
    (compiler.relatedQuery term target level terminal).FailsOnly
      (compiler.registry.Failing named exceeded long) := by
  unfold relatedQuery
  dsimp only
  split
  · exact (Traced.failsOnly_tell _).bind fun _ _ => refuse_nothing_fails rfl
  · exact Traced.failsOnly_pure _

theorem levelsOf_fails {term : Term} {target : Scope} {declared : Nat} {levels : Levels}
    (hterm : term ∈ compiler.registry.terms) (hrole : term.role = .related target declared)
    (hlevels : ∀ given ∈ levels.maxLevel, given.IsLong → long) :
    (compiler.levelsOf term declared levels).FailsOnly
      (compiler.registry.Failing named (compiler.Exceeds levels) long) := by
  unfold levelsOf
  split
  · exact Traced.failsOnly_pure _
  · next requested hrequested =>
    have hshown := hlevels _ hrequested
    split
    · exact refuse_shown_fails rfl hshown
    · split
      · exact Traced.failsOnly_pure _
      · next hexceeds =>
        have habove : (declared : Int) < requested := by omega
        split
        · exact (Traced.failsOnly_tell _).bind fun _ _ => Traced.failsOnly_pure _
        · next hclamp =>
          refine Traced.failsOnly_fail ?_
          by_cases hlong : (Value.int requested).IsLong
          · rw [Error.raised_levelExceeded_of_isLong habove hlong]
            exact .tooLong (hshown hlong)
          · rw [Error.raised_levelExceeded habove hlong]
            exact .documented (.levelExceeded ⟨hterm, ⟨target, hrole⟩, hrequested, habove,
              by simpa using hclamp⟩)
  · next given _ hgiven => exact refuse_shown_fails rfl (hlevels given hgiven)

end Parts

/-! ### One term -/

/-- The target of a term is resolved without a failure but for values that do not fit or names that
are unknown, in every scope that has terms. -/
def ResolvesIn (compiler : Compiler) (long : Prop) (resolve : Term → Scope → Traced Query) : Prop :=
  ∀ (term : Term) {scope : Scope}, compiler.registry.table scope ≠ [] →
    (resolve term scope).FailsOnly
      (compiler.registry.Failing (fun _ => False) (fun _ _ _ => False) long)

theorem ResolvesIn.fails {term : Term} {target : Scope} {resolve : Term → Scope → Traced Query}
    {named : Value → Prop} {exceeded : Term → Int → Nat → Prop}
    (hresolve : compiler.ResolvesIn long resolve) (hterm : term ∈ compiler.registry.terms)
    (hreferences : target ∈ term.references) :
    (resolve term target).FailsOnly (compiler.registry.Failing named exceeded long) :=
  (hresolve term (Registry.table_of_references hterm hreferences)).mono fun _ h =>
    h.mono (fun _ h _ => h.elim) fun _ _ _ h => h.elim

section

variable {value : Value} {levels : Levels} {comparator : Option Value}
  {resolve : Term → Scope → Traced Query}

theorem roleQuery_fails {term : Term} {named : Value → Prop}
    (hresolve : compiler.ResolvesIn long resolve) (hterm : term ∈ compiler.registry.terms)
    (hvalue : value.IsLong → long) (hlevels : ∀ given ∈ levels.maxLevel, given.IsLong → long)
    (hcomparator : ∀ given ∈ comparator, given.IsLong → long) :
    (compiler.roleQuery term value levels comparator resolve).FailsOnly
      (compiler.registry.Failing named (compiler.Exceeds levels) long) := by
  unfold roleQuery
  cases hrole : term.role with
  | documentId | similar =>
    exact (orRefuse_fails (Term.recordOf_shows hvalue)).bind fun _ _ => Traced.failsOnly_pure _
  | text =>
    exact (orRefuse_fails (Term.textOf_shows hvalue)).bind fun _ _ => Traced.failsOnly_pure _
  | indexed field => exact orRefuse_fails (Term.indexedLeaf_shows hvalue hcomparator)
  | hop predicate target =>
    have htarget := Term.mem_references_of_hop hrole
    exact (hresolve.fails hterm htarget).bind fun _ _ => Traced.failsOnly_pure _
  | related target declared =>
    have htarget := Term.mem_references_of_related hrole
    refine (levelsOf_fails hterm hrole hlevels).bind fun level _ => ?_
    exact (hresolve.fails hterm htarget).bind fun _ _ => relatedQuery_fails

theorem termQuery_fails {scope : Scope} {name : String}
    (hresolve : compiler.ResolvesIn long resolve) (hvalue : value.IsLong → long)
    (hlevels : ∀ given ∈ levels.maxLevel, given.IsLong → long)
    (hcomparator : ∀ given ∈ comparator, given.IsLong → long) :
    (compiler.termQuery scope name value levels comparator resolve).FailsOnly
      (compiler.registry.Failing (· = .string scope.name) (compiler.Exceeds levels) long) := by
  refine Traced.FailsOnly.bind (fun error h => .documented (Registry.failure_of_lookup h))
    fun term hterm => ?_
  rw [Traced.lift_outcome, Registry.lookup_eq_ok_iff, Registry.find?_eq_some_iff] at hterm
  have hmem := (Registry.mem_table.1 hterm.1).1
  split
  · exact refuse_nothing_fails rfl
  · split
    · exact refuse_nothing_fails rfl
    · exact (roleQuery_fails hresolve hmem hvalue hlevels hcomparator).bind fun _ _ =>
        (Traced.failsOnly_tell _).bind fun _ _ => Traced.failsOnly_pure _

end

/-! ### Values and criteria -/

/-- The comparison of a mapping is part of it. -/
theorem isLong_of_comparison {entries : Entries String Value} {comparator : Option Value}
    (h : (Value.map entries).IsLong → long) (hcomparator : comparator = given? entries comparatorKey) :
    ∀ given ∈ comparator, given.IsLong → long := by
  rintro given hgiven hlong
  exact h (isLong_of_given? (hcomparator.symm.trans hgiven) hlong)

-- The induction is on the value. Conditions may be read in a scope without terms, and then that scope
-- is the unknown one; a target is read in a scope that a term refers to, which has terms. A part of a
-- value has no number that is too long unless the value has one.
mutual

theorem target_fails : ∀ (value : Value), (value.IsLong → long) →
    compiler.ResolvesIn long (compiler.target value)
  | .string text, _, term, scope, _ => by
    rw [target]
    exact (orRefuse_fails (Term.recordNamed_shows text)).bind fun _ _ => Traced.failsOnly_pure _
  | .query (.record id), _, _, _, _ => Traced.failsOnly_pure _
  | .query (.leaf ..), _, _, _, _ | .query (.hop ..), _, _, _, _ | .query (.group ..), _, _, _, _ =>
    orRefuse_fails Term.treeTarget_shows
  | .map entries, h, term, scope, htable => by
    rw [target]
    split
    · exact (orRefuse_fails (Term.recordOf_shows h)).bind fun _ _ => Traced.failsOnly_pure _
    · refine (orRefuse_fails (checkTargetScope_shows h)).bind fun _ _ => ?_
      exact combine_fails fun comparator hcomparator =>
        (conditions_fails entries h (isLong_of_comparison h hcomparator)).mono
          fun _ h => h.of_table htable
  | .null, h, _, _, _ | .bool _, h, _, _, _ | .int _, h, _, _, _ | .float _, h, _, _, _
  | .list _, h, _, _, _ => refuse_shown_fails rfl h

theorem conditions_fails : ∀ (entries : List (String × Value)) {scope : Scope}
    {comparator : Option Value}, ((Value.map entries).IsLong → long) →
    (∀ given ∈ comparator, given.IsLong → long) →
    (compiler.conditions scope comparator entries).FailsOnly
      (compiler.registry.Failing (· = .string scope.name) (fun _ _ _ => False) long)
  | [], _, _, _, _ => Traced.failsOnly_pure _
  | (key, value) :: rest, scope, comparator, h, hcomparator => by
    simp only [Value.isLong_map_iff, List.mem_cons, exists_eq_or_imp, or_imp] at h
    obtain ⟨hvalue, hrest⟩ := h
    rw [← Value.isLong_map_iff] at hrest
    by_cases hoption : key = scopeKey ∨ key = comparatorKey
    · rw [conditions_option hoption]
      exact conditions_fails rest hrest hcomparator
    · rw [conditions_cons hoption, condition]
      refine Traced.FailsOnly.bind ?_ fun _ _ =>
        (conditions_fails rest hrest hcomparator).bind fun _ _ => Traced.failsOnly_pure _
      split
      · exact group_fails value hvalue
      · have hlevels : ∀ given ∈ ({} : Levels).maxLevel, given.IsLong → long := by
          intro given hgiven
          cases hgiven
        exact (termQuery_fails (target_fails value hvalue) hvalue hlevels hcomparator).mono
          fun _ h => h.mono (fun _ h _ => h) fun _ _ _ h => not_exceeds_default h

theorem group_fails : ∀ (value : Value) {scope : Scope} {connective : Connective},
    (value.IsLong → long) → (compiler.group scope connective value).FailsOnly
      (compiler.registry.Failing (· = .string scope.name) (fun _ _ _ => False) long)
  | .list (first :: rest), scope, connective, h => by
    rw [group]
    exact (children_fails (first :: rest) h).bind fun _ _ => Traced.failsOnly_pure _
  | .list [], _, _, _ | .null, _, _, _ | .bool _, _, _, _ | .int _, _, _, _ | .float _, _, _, _
  | .string _, _, _, _ | .map _, _, _, _ | .query _, _, _, _ => refuse_nothing_fails rfl

theorem children_fails : ∀ (items : List Value) {scope : Scope},
    ((Value.list items).IsLong → long) → (compiler.children scope items).FailsOnly
      (compiler.registry.Failing (· = .string scope.name) (fun _ _ _ => False) long)
  | [], _, _ => Traced.failsOnly_pure _
  | .map entries :: rest, scope, h => by
    simp only [Value.isLong_list_iff, List.mem_cons, exists_eq_or_imp, or_imp] at h
    obtain ⟨hentries, hrest⟩ := h
    rw [← Value.isLong_list_iff] at hrest
    rw [children]
    refine (orRefuse_fails (checkConditionScope_shows hentries)).bind fun _ _ => ?_
    exact (combine_fails fun comparator hcomparator => conditions_fails entries hentries
      (isLong_of_comparison hentries hcomparator)).bind fun _ _ =>
        (children_fails rest hrest).bind fun _ _ => Traced.failsOnly_pure _
  | .null :: _, _, h | .bool _ :: _, _, h | .int _ :: _, _, h | .float _ :: _, _, h
  | .string _ :: _, _, h | .list _ :: _, _, h | .query _ :: _, _, h =>
    refuse_shown_fails rfl fun hlong => h (.list List.mem_cons_self hlong)

end

theorem mapping_fails {scope : Scope} {entries : Entries String Value}
    (h : (Value.map entries).IsLong → long) :
    (compiler.mapping scope entries).FailsOnly
      (compiler.registry.Failing (· = .string scope.name) (fun _ _ _ => False) long) :=
  combine_fails fun _ hcomparator =>
    conditions_fails entries h (isLong_of_comparison h hcomparator)

/-- The caller names the scope: for the whole criteria, or for a branch of criteria of scope
`multi`. -/
inductive Names (expected : Option String) : Value → Value → Prop
  | root {entries : Entries String Value} {given : Value} :
    (given? entries scopeKey).or (expected.map .string) = some given →
      Names expected (.map entries) given
  | branch {entries branch : Entries String Value} {branches : List Value} {given : Value} :
    (given? entries scopeKey).or (expected.map .string) = some (.string Scope.multi) →
      entries.get? Connective.any.key = some (.list branches) → .map branch ∈ branches →
        given? branch scopeKey = some given → Names expected (.map entries) given

theorem ofValue_fails {given : Value} {exceeded : Term → Int → Nat → Prop}
    (h : given.IsLong → long) : (liftM (Scope.ofValue given) : Traced Scope).FailsOnly
      (compiler.registry.Failing (· = given) exceeded long) := by
  intro error herror
  rw [Traced.lift_outcome] at herror
  have herror' : error = (Error.unknownScope given).raised := by
    unfold Scope.ofValue at herror
    split at herror
    · split at herror
      · cases herror
      · exact (Except.error.inj herror).symm
    · exact (Except.error.inj herror).symm
  by_cases hlong : given.IsLong
  · rw [herror', Error.raised_unknownScope_of_isLong hlong]
    exact .tooLong (h hlong)
  · rw [Error.raised_unknownScope hlong] at herror'
    subst herror'
    refine .documented (.unknownScope rfl ?_)
    rw [Registry.containsScope, herror]

theorem multiBranches_fails {branches : List Value} (h : (Value.list branches).IsLong → long) :
    (compiler.multiBranches branches).FailsOnly
      (compiler.registry.Failing (fun given => ∃ branch : Entries String Value,
        .map branch ∈ branches ∧ given? branch scopeKey = some given) (fun _ _ _ => False) long) := by
  induction branches with
  | nil => exact Traced.failsOnly_pure _
  | cons first rest ih =>
    cases first with
    | map entries =>
      simp only [Value.isLong_list_iff, List.mem_cons, exists_eq_or_imp, or_imp] at h
      obtain ⟨hentries, hrest⟩ := h
      rw [← Value.isLong_list_iff] at hrest
      rw [multiBranches]
      split
      · exact refuse_nothing_fails rfl
      · next declared hdeclared =>
        have hnamed : ∀ given, given = declared → ∃ branch : Entries String Value,
            .map branch ∈ Value.map entries :: rest ∧ given? branch scopeKey = some given := by
          rintro _ rfl
          exact ⟨entries, List.mem_cons_self, hdeclared⟩
        have hshown : declared.IsLong → long := fun hlong =>
          hentries (isLong_of_given? hdeclared hlong)
        split
        · exact refuse_nothing_fails rfl
        · refine (Registry.failsOnly_of_named (ofValue_fails hshown) hnamed).bind fun scope hscope => ?_
          obtain rfl := Scope.ofValue_eq_ok_iff.1 hscope
          refine (Registry.failsOnly_of_named (mapping_fails hentries) hnamed).bind fun _ _ => ?_
          refine (Registry.failsOnly_of_named (ih hrest) ?_).bind fun _ _ =>
            Traced.failsOnly_pure _
          rintro given ⟨branch, hbranch, hgiven⟩
          exact ⟨branch, List.mem_cons_of_mem _ hbranch, hgiven⟩
    | _ => exact refuse_nothing_fails rfl

theorem multiQuery_fails {entries : Entries String Value} {expected : Option String}
    (hmulti : (given? entries scopeKey).or (expected.map .string) = some (.string Scope.multi))
    (h : (Value.map entries).IsLong → long) :
    (compiler.multiQuery entries).FailsOnly
      (compiler.registry.Failing (Names expected (.map entries)) (fun _ _ _ => False) long) := by
  unfold multiQuery
  split
  · next first rest hbranches =>
    dsimp only
    split
    · exact refuse_nothing_fails rfl
    · have hshown : (Value.list (first :: rest)).IsLong → long := fun hlong =>
        h (.map (Entries.mem_of_get? hbranches) hlong)
      refine (Registry.failsOnly_of_named (multiBranches_fails hshown) ?_).bind fun _ _ =>
        Traced.failsOnly_pure _
      rintro given ⟨branch, hbranch, hgiven⟩
      exact .branch hmulti hbranches hbranch hgiven
  · exact refuse_nothing_fails rfl

theorem criteria_fails {value : Value} {expected : Option String} :
    (compiler.criteria value expected).FailsOnly
      (compiler.registry.Failing (Names expected value) (fun _ _ _ => False) value.IsLong) := by
  cases value with
  | map entries =>
    refine (orRefuse_fails (scopeOfCriteria_shows fun h => h)).bind fun given hgiven => ?_
    have hchecked := orRefuse_outcome_eq_ok.1 hgiven
    have hroot := given?_of_scopeOfCriteria hchecked
    split
    · next hmulti =>
      obtain rfl := Value.isString_iff.1 hmulti
      exact multiQuery_fails hroot fun h => h
    · have hnamed : ∀ other, other = given → Names expected (.map entries) other := by
        rintro _ rfl
        exact .root hroot
      have hshown : given.IsLong → (Value.map entries).IsLong := by
        intro hlong
        rcases Option.or_eq_some_iff.1 hroot with hdeclared | ⟨-, hexpected⟩
        · exact isLong_of_given? hdeclared hlong
        · obtain ⟨name, -, rfl⟩ := Option.map_eq_some_iff.1 hexpected
          cases hlong
      refine (Registry.failsOnly_of_named (ofValue_fails hshown) hnamed).bind fun scope hscope => ?_
      obtain rfl := Scope.ofValue_eq_ok_iff.1 hscope
      exact Registry.failsOnly_of_named (mapping_fails fun h => h) hnamed
  | _ => exact refuse_nothing_fails rfl

section

variable {scope value : Value} {name : String} {levels : Levels}

theorem compile_fails {comparator : Option Value} (hscope : scope.IsLong → long)
    (hvalue : value.IsLong → long) (hlevels : ∀ given ∈ levels.maxLevel, given.IsLong → long)
    (hcomparator : ∀ given ∈ comparator, given.IsLong → long) :
    (compiler.compile scope name value levels comparator).FailsOnly
      (compiler.registry.Failing (· = scope) (compiler.Exceeds levels) long) := by
  refine (ofValue_fails hscope).bind fun s hs => ?_
  obtain rfl := Scope.ofValue_eq_ok_iff.1 hs
  exact termQuery_fails (target_fails value hvalue) hvalue hlevels hcomparator

theorem relatedBranches_fails (hscope : scope.IsLong → long) (hvalue : value.IsLong → long)
    (hlevels : ∀ given ∈ levels.maxLevel, given.IsLong → long) :
    (compiler.relatedBranches scope name value levels).FailsOnly
      (compiler.registry.Failing (· = scope) (compiler.Exceeds levels) long) := by
  refine (ofValue_fails hscope).bind fun s hs => ?_
  obtain rfl := Scope.ofValue_eq_ok_iff.1 hs
  refine Traced.FailsOnly.bind (fun error h => .documented (Registry.failure_of_lookup h))
    fun term hterm => ?_
  rw [Traced.lift_outcome, Registry.lookup_eq_ok_iff, Registry.find?_eq_some_iff] at hterm
  have hmem := (Registry.mem_table.1 hterm.1).1
  split
  · next target declared hrole =>
    have htarget := Term.mem_references_of_related hrole
    refine (levelsOf_fails hmem hrole hlevels).bind fun level _ => ?_
    exact ((target_fails value hvalue).fails hmem htarget).bind fun _ _ => Traced.failsOnly_pure _
  · exact refuse_nothing_fails rfl

end

end Compiler

/-! ### What is taken without asking -/

namespace Registry

variable {registry : Registry}

/-- What compilation takes from a term by its pattern is there: a field with an index, a relation that
can be read, a target with terms, and a bound. -/
structure Provides (registry : Registry) (term : Term) : Prop where
  field : term.pattern.isIndexed = true ∨ term.pattern = .text →
    ∃ field, term.declaration.indexReferences.head? = some field
  relation : term.pattern = .hopWithField → ∃ expression predicate,
    term.declaration.predicates.head? = some expression ∧
      Predicate.parse expression = .ok predicate
  target : term.pattern = .hopWithField ∨ term.pattern = .relatedList →
    ∃ target, term.declaration.targetScope = some target ∧ registry.table target ≠ []
  bound : term.pattern = .relatedList →
    ∃ level, term.declaration.maxLevel = some level ∧ 0 < level

theorem provides_of_mem {term : Term} (hterm : term ∈ registry.terms) :
    registry.Provides term := by
  have htable {target : Scope} (htarget : term.declaration.targetScope = some target) :
      registry.table target ≠ [] :=
    table_of_references hterm (by simp [Term.references, htarget])
  have hdescribes := term.describes_role
  generalize term.role = role at hdescribes
  cases hdescribes with
  | documentId hpattern | similar hpattern =>
    constructor <;> simp [Term.pattern, hpattern, Pattern.isIndexed]
  | indexed hindexed hfield =>
    have hne {pattern : Pattern} (h : pattern.isIndexed = false) : term.pattern ≠ pattern := by
      rintro rfl
      rw [Term.pattern, hindexed] at h
      cases h
    exact ⟨fun _ => ⟨_, hfield⟩, fun h => absurd h (hne rfl),
      fun h => h.elim (absurd · (hne rfl)) (absurd · (hne rfl)), fun h => absurd h (hne rfl)⟩
  | text hpattern hfield =>
    constructor <;> simp [Term.pattern, hpattern, Pattern.isIndexed, hfield]
  | hop hpattern hfirst hparse htarget =>
    constructor <;>
      simp [Term.pattern, hpattern, Pattern.isIndexed, hfirst, hparse, htarget, htable htarget]
  | related hpattern htarget hbound hpositive =>
    constructor <;>
      simp [Term.pattern, hpattern, Pattern.isIndexed, hbound, hpositive, htarget, htable htarget]

end Registry

namespace Compiler

/-- Compilation has a result or fails in a documented way, unless a number in what is given is too long to
be shown. A term or the branches of a related list fail for the scope that is given, for a name, for a
level, or for a value; criteria never fail for a level, and for a scope only if the caller names it. What
is looked up without asking is there for every term and for every chain that is put in order. -/
theorem failures_documented (compiler : Compiler) :
    (∀ (scope : Value) (name : String) (value : Value) (levels : Levels)
      (comparator : Option Value) (error : Error),
      (compiler.compile scope name value levels comparator).outcome = .error error →
        compiler.registry.Failing (· = scope) (compiler.Exceeds levels)
          (∃ given ∈ scope :: value :: (levels.maxLevel.toList ++ comparator.toList), given.IsLong)
          error) ∧
    (∀ (scope : Value) (name : String) (value : Value) (levels : Levels) (error : Error),
      (compiler.relatedBranches scope name value levels).outcome = .error error →
        compiler.registry.Failing (· = scope) (compiler.Exceeds levels)
          (∃ given ∈ scope :: value :: levels.maxLevel.toList, given.IsLong) error) ∧
    (∀ (criteria : Value) (expected : Option String) (error : Error),
      (compiler.criteria criteria expected).outcome = .error error →
        compiler.registry.Failing (Names expected criteria) (fun _ _ _ => False) criteria.IsLong
          error) ∧
    (∀ term ∈ compiler.registry.terms, compiler.registry.Provides term) ∧
    ∀ (route : Route) (maxLevel : Nat), ∀ chains ∈ compiler.registry.chains route maxLevel,
      ∀ chain ∈ chains, compiler.registry.Positioned route chain := by
  refine ⟨fun scope name value levels comparator => compile_fails ?_ ?_ ?_ ?_,
    fun scope name value levels => relatedBranches_fails ?_ ?_ ?_,
    fun criteria expected => criteria_fails, fun _ => Registry.provides_of_mem,
    fun route maxLevel chains hchains chain hchain => ?_⟩
  · exact fun h => ⟨scope, List.mem_cons_self, h⟩
  · exact fun h => ⟨value, by simp, h⟩
  · exact fun given hgiven h => ⟨given, by simp [Option.mem_toList.2 hgiven], h⟩
  · exact fun given hgiven h => ⟨given, by simp [Option.mem_toList.2 hgiven], h⟩
  · exact fun h => ⟨scope, List.mem_cons_self, h⟩
  · exact fun h => ⟨value, by simp, h⟩
  · exact fun given hgiven h => ⟨given, by simp [Option.mem_toList.2 hgiven], h⟩
  · exact (Registry.exists_mem_chains_iff.1 ⟨chains, hchains, hchain⟩).2.positioned

/-- A level above the bound, and a branch in a scope without terms. -/
theorem circles_failures :
    let compiler : Compiler := ⟨.circles, false⟩
    let levels : Levels := { maxLevel := some (.int 5) }
    let items : Value := .map [(scopeKey, .string "multi"),
      (Connective.any.key, .list [.map [(scopeKey, .string "item"), ("name", .string "sea")]])]
    (compiler.compile (.string "agent") "relatedToAgent" (.string "agent:1") levels).outcome =
        .error (.levelExceeded .relatedToAgent 5 2) ∧
      compiler.Exceeds levels .relatedToAgent 5 2 ∧
      (compiler.criteria items).outcome = .error (.unknownScope (.string "item")) ∧
      Names none items (.string "item") ∧
      compiler.registry.containsScope (.string "item") = .ok false := by
  intro compiler levels items
  obtain ⟨hcompile, -, hcriteria, -, -⟩ := failures_documented compiler
  have hexceeded : (compiler.compile (.string "agent") "relatedToAgent" (.string "agent:1")
      levels).outcome = .error (.levelExceeded .relatedToAgent 5 2) := by rfl
  have hunknown : (compiler.criteria items).outcome = .error (.unknownScope (.string "item")) := by
    rfl
  cases hcompile _ _ _ _ _ _ hexceeded with
  | documented hexceeded' =>
    cases hexceeded' with
    | levelExceeded hexceeds =>
      cases hcriteria _ _ _ hunknown with
      | documented hunknown' =>
        cases hunknown' with
        | unknownScope hnames hcontains =>
          exact ⟨hexceeded, hexceeds, hunknown, hnames, hcontains⟩

/-- A number does not fit where agents are asked for, but one that is too long to be shown is not
refused for that: the error is none of the documented ones. -/
theorem farMember_failure :
    let compiler : Compiler := ⟨.circles, true⟩
    let value : Value := .int Numeral.leastLong
    (compiler.compile (.string "agent") "memberOf" value).outcome =
        .error (.misuse .numeralTooLong) ∧
      ∀ (named : Value → Prop) (exceeded : Term → Int → Nat → Prop),
        ¬ compiler.registry.Failure named exceeded (.misuse .numeralTooLong) := by
  intro compiler value
  have hoffered (n : Int) : ∃ term, (compiler.compile (.string "agent") "memberOf"
      (.int n)).outcome = .error (Error.invalid (.notTarget term .agent (.int n))).raised := ⟨_, rfl⟩
  obtain ⟨term, hrefused⟩ := hoffered Numeral.leastLong
  refine ⟨?_, fun named exceeded h => nomatch h⟩
  rw [hrefused, Error.raised_invalid_of_isLong rfl Value.isLong_leastLong]

end Compiler

end ScopedSearch
