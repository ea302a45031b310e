import ScopedSearch.Proofs.RoundTrip
import ScopedSearch.Services

/-!
# Merging in stages

Merging a registry never leaves a reference open, and the merged terms are the arrangement of the terms
of both (`Registry.mergeRegistry_eq_ok_iff`). As arrangement absorbs arrangement, merging is associative
and adds nothing the second time. The declared terms cover every scope, so that packaged terms never
leave a reference open either: loading with further entries is merging them into what is loaded without
(`Registry.load_some_outcome`).
-/

namespace ScopedSearch

namespace Registry

variable {registry other merged : Registry} {terms further : List Term}

/-! ### Merging registries -/

theorem mergeRegistry_eq_ok_iff :
    (registry.mergeRegistry other).outcome = .ok merged ↔
      merged.terms = arrange (registry.terms ++ other.terms) := by
  rw [mergeRegistry_eq_mergeTerms, mergeTerms_outcome, ofTerms_eq_ok_iff, arrange_supplement]
  exact and_iff_right (registry.danglingIssues_supplement other)

theorem exists_mergeRegistry (registry other : Registry) :
    ∃ merged, (registry.mergeRegistry other).outcome = .ok merged ∧
      merged.terms = arrange (registry.terms ++ other.terms) := by
  obtain ⟨merged, hmerged, hterms⟩ := exists_ofTerms (registry.danglingIssues_supplement other)
  rw [arrange_supplement] at hterms
  exact ⟨merged, mergeRegistry_eq_ok_iff.2 hterms, hterms⟩

/-- A registry has no declaration that differs from one of its own. -/
theorem conflicts_self (registry : Registry) : registry.conflicts registry.terms = [] := by
  rw [conflicts, List.filter_eq_nil_iff]
  intro term hterm
  rw [find?_eq_some_iff.2 ⟨mem_table.2 ⟨hterm, rfl⟩, rfl⟩]
  simp

theorem mergeRegistry_self (registry : Registry) :
    registry.mergeRegistry registry = pure registry := by
  have hevents : (registry.mergeRegistry registry).events = [] := by
    rw [mergeRegistry_eq_mergeTerms, mergeTerms_events, conflicts_self, List.map_nil]
  have houtcome : (registry.mergeRegistry registry).outcome = .ok registry := by
    rw [mergeRegistry_eq_ok_iff, arrange_append_self, registry.arranged]
  calc
    registry.mergeRegistry registry
      = ⟨(registry.mergeRegistry registry).events, (registry.mergeRegistry registry).outcome⟩ := rfl
    _ = pure registry := by rw [hevents, houtcome]; rfl

/-- Three registries are merged into the arrangement of all terms, whichever two are merged first. -/
theorem exists_mergeRegistry_assoc (first second third : Registry) :
    ∃ merged, (first.mergeRegistry second >>= (·.mergeRegistry third)).outcome = .ok merged ∧
      (second.mergeRegistry third >>= first.mergeRegistry).outcome = .ok merged := by
  obtain ⟨left, hleft, hleftTerms⟩ := exists_mergeRegistry first second
  obtain ⟨right, hright, hrightTerms⟩ := exists_mergeRegistry second third
  obtain ⟨merged, hmerged, hterms⟩ := exists_mergeRegistry left third
  refine ⟨merged, Traced.bind_outcome_eq_ok.2 ⟨left, hleft, hmerged⟩,
    Traced.bind_outcome_eq_ok.2 ⟨right, hright, mergeRegistry_eq_ok_iff.2 ?_⟩⟩
  calc
    merged.terms = arrange (arrange (first.terms ++ second.terms) ++ third.terms) := by
      rw [hterms, hleftTerms]
    _ = arrange (first.terms ++ (second.terms ++ third.terms)) := by
      rw [arrange_arrange_append, List.append_assoc]
    _ = arrange (first.terms ++ right.terms) := by rw [hrightTerms, arrange_append_arrange]

/-! ### Terms that cover every scope -/

/-- Every scope has terms. -/
def Covers (terms : List Term) : Prop := ∀ scope, ∃ term ∈ terms, term.scope = scope

theorem Covers.danglingIssues (h : Covers terms) : danglingIssues terms = [] :=
  danglingIssues_eq_nil_iff.2 fun _ _ scope _ => h scope

theorem Covers.append (h : Covers terms) (further : List Term) : Covers (terms ++ further) := by
  intro scope
  obtain ⟨term, hterm, hscope⟩ := h scope
  exact ⟨term, List.mem_append_left _ hterm, hscope⟩

theorem Covers.arrange (h : Covers terms) : Covers (arrange terms) :=
  fun scope => declares_arrange (declares_iff.2 (h scope))

/-- Terms that cover every scope make a registry. -/
theorem Covers.ofTerms (h : Covers terms) (hterms : registry.terms = Registry.arrange terms) :
    ofTerms terms = .ok registry :=
  ofTerms_eq_ok_iff.2 ⟨h.danglingIssues, hterms⟩

/-- Merging further terms before or after a registry is made of the terms comes to the same. -/
theorem Covers.supplement (h : Covers terms) (hterms : registry.terms = Registry.arrange terms)
    (further : List Term) :
    Registry.ofTerms (terms ++ additions terms further) = (registry.mergeTerms further).outcome := by
  have hclosed := (h.append (additions terms further)).danglingIssues
  obtain ⟨merged, hmerged, harranged⟩ := exists_ofTerms hclosed
  have hcovers : Covers registry.terms := hterms ▸ h.arrange
  rw [mergeTerms_outcome, hmerged]
  refine ((hcovers.append _).ofTerms ?_).symm
  rw [harranged, arrange_supplement, arrange_supplement, hterms, arrange_arrange_append]

/-! ### Loading -/

theorem exists_termsOf_declared :
    ∃ declared, termsOf Declared.all = .ok declared ∧ Covers declared := by
  -- The packaged declarations are data: that each of them makes a term is computed.
  have hmade : (termsOf Declared.all).toOption.isSome = true := by decide +kernel
  obtain ⟨declared, hdeclared⟩ := Option.isSome_iff_exists.1 hmade
  rw [toOption_eq_some_iff] at hdeclared
  refine ⟨declared, hdeclared, fun scope => ?_⟩
  have hscope : scope ∈ Declared.all.map Declaration.scope := by cases scope <;> decide +kernel
  rw [← map_declaration_of_termsOf hdeclared, List.map_map] at hscope
  exact List.mem_map.1 hscope

theorem exists_termsOf_generated : ∃ generated, termsOf Generated.all = .ok generated := by
  have hmade : (termsOf Generated.all).toOption.isSome = true := by decide +kernel
  obtain ⟨generated, hgenerated⟩ := Option.isSome_iff_exists.1 hmade
  exact ⟨generated, toOption_eq_some_iff.1 hgenerated⟩

theorem supplement_outcome :
    (supplement terms further).outcome = .ok (terms ++ additions terms further) := rfl

theorem bind_ok (made : Except Error Registry) : (made >>= fun registry => .ok registry) = made :=
  bind_pure made

/-- Loading makes a registry of terms that cover every scope, with those entries of a further registry
that are new behind them. -/
theorem load_outcome (includeGenerated : Bool) : ∃ packaged, Covers packaged ∧
    (load includeGenerated none).outcome = ofTerms packaged ∧
    ∀ written, (load includeGenerated (some (.ok written))).outcome =
      termsOfConfig written >>= fun further => ofTerms (packaged ++ additions packaged further) := by
  obtain ⟨declared, hdeclared, hcovers⟩ := exists_termsOf_declared
  obtain ⟨generated, hgenerated⟩ := exists_termsOf_generated
  cases includeGenerated with
  | false =>
    refine ⟨declared, hcovers, ?_, fun written => ?_⟩
    · simp [load, hdeclared, Traced.ok_bind, bind_ok]
    · simp [load, hdeclared, Traced.ok_bind, supplement_outcome, bind_ok]
  | true =>
    refine ⟨declared ++ additions declared generated, hcovers.append _, ?_, fun written => ?_⟩
    · simp [load, hdeclared, hgenerated, Traced.ok_bind, supplement_outcome, bind_ok]
    · simp [load, hdeclared, hgenerated, Traced.ok_bind, supplement_outcome, bind_ok]

/-- Loading with a further registry is merging it into what is loaded without. -/
theorem load_some_outcome {includeGenerated : Bool} {packaged : Registry} {written : Value}
    (h : (load includeGenerated none).outcome = .ok packaged) :
    (load includeGenerated (some (.ok written))).outcome = (packaged.merge written).outcome := by
  obtain ⟨terms, hcovers, hnone, hsome⟩ := load_outcome includeGenerated
  rw [hnone, ofTerms_eq_ok_iff] at h
  rw [hsome, merge, Traced.bind_outcome, Traced.lift_outcome]
  exact congrArg _ (funext fun further => hcovers.supplement h.2 further)

theorem exists_load (includeGenerated : Bool) :
    ∃ packaged, (load includeGenerated none).outcome = .ok packaged := by
  obtain ⟨terms, hcovers, hnone, -⟩ := load_outcome includeGenerated
  obtain ⟨packaged, hpackaged, -⟩ := exists_ofTerms hcovers.danglingIssues
  exact ⟨packaged, hnone.trans hpackaged⟩

theorem exists_load_some (includeGenerated : Bool) {written : Value}
    (h : termsOfConfig written = .ok further) :
    ∃ loaded, (load includeGenerated (some (.ok written))).outcome = .ok loaded := by
  obtain ⟨terms, hcovers, -, hsome⟩ := load_outcome includeGenerated
  have hclosed := (hcovers.append (additions terms further)).danglingIssues
  obtain ⟨loaded, hloaded, -⟩ := exists_ofTerms hclosed
  refine ⟨loaded, ?_⟩
  rw [hsome, h]
  exact hloaded

/-- Merging registries never fails and gives the arrangement of the terms of both. A registry merged with
itself stays as it is, without a warning, and of three registries any two neighbours may be merged first.
Entries in a file are loaded as they are merged into what is loaded without them: either both fail, in
the same way, or they give the same registry. -/
theorem merging_laws :
    (∀ registry other : Registry, ∃ merged, (registry.mergeRegistry other).outcome = .ok merged ∧
        merged.terms = arrange (registry.terms ++ other.terms)) ∧
      (∀ registry : Registry, registry.mergeRegistry registry = pure registry) ∧
      (∀ first second third : Registry,
        ∃ merged, (first.mergeRegistry second >>= (·.mergeRegistry third)).outcome = .ok merged ∧
          (second.mergeRegistry third >>= first.mergeRegistry).outcome = .ok merged) ∧
      ∀ includeGenerated, ∃ packaged, (load includeGenerated none).outcome = .ok packaged ∧
        ∀ (files : FileTree) (path : Path) (written : Value),
          Services.readRegistry files path = .ok written →
            (load includeGenerated (some (Services.readRegistry files path))).outcome =
              (packaged.merge written).outcome := by
  refine ⟨exists_mergeRegistry, mergeRegistry_self, exists_mergeRegistry_assoc,
    fun includeGenerated => ?_⟩
  -- Once the file is read, both sides see nothing but its value.
  obtain ⟨packaged, hpackaged⟩ := exists_load includeGenerated
  refine ⟨packaged, hpackaged, fun files path written hwritten => ?_⟩
  rw [hwritten]
  exact load_some_outcome hpackaged

/-- A file with a term that is not packaged. -/
def likenessFile : FileTree where
  base := ["srv"]
  entries := [(Path.place ["srv", "likeness.json"],
    .text "\x7b\"agent\": \x7b\"resembles\": \x7b\"pattern\": \"similar\"\x7d\x7d\x7d")]

theorem likenessFile_loaded :
    ∃ written packaged loaded,
      Services.readRegistry likenessFile (.parse "likeness.json") = .ok written ∧
        (∃ further, termsOfConfig written = .ok further ∧
          further.map Term.title = ["agent.resembles"]) ∧
        (load true none).outcome = .ok packaged ∧
          (load true (some (Services.readRegistry likenessFile (.parse "likeness.json")))).outcome =
            .ok loaded ∧
          (packaged.merge written).outcome = .ok loaded := by
  have hread : ((Services.readRegistry likenessFile (.parse "likeness.json") >>=
      termsOfConfig).map (·.map Term.title)).toOption = some ["agent.resembles"] := by
    decide +kernel
  obtain ⟨further, hread, htitle⟩ := map_eq_ok_iff.1 (toOption_eq_some_iff.1 hread)
  obtain ⟨written, hwritten, hfurther⟩ := bind_eq_ok_iff.1 hread
  obtain ⟨-, -, -, hstaged⟩ := merging_laws
  obtain ⟨packaged, hpackaged, hsame⟩ := hstaged true
  have hmerged := hsame likenessFile (.parse "likeness.json") written hwritten
  obtain ⟨loaded, hloaded⟩ := exists_load_some true hfurther
  rw [← hwritten] at hloaded
  exact ⟨written, packaged, loaded, hwritten, ⟨further, hfurther, htitle⟩, hpackaged, hloaded,
    hmerged.symm.trans hloaded⟩

end Registry

end ScopedSearch
