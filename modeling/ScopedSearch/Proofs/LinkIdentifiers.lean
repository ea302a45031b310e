import ScopedSearch.Proofs.FilledForms
import ScopedSearch.Proofs.LoneSurrogates

/-!
# The identifiers of links

A published link counts its hits by a packaged template, which is built for every text that is not empty
and refuses the empty one. A search or a facet takes the same way and so takes the same identifiers, as
long as their text can be part of an address at all; a related list takes the empty text as well, since
it has no query to build (`Site.links_take_identifiers`).
-/

namespace ScopedSearch

open ScopedSearch.Text

namespace Entries

/-- Leaving out another key and putting a value do not interfere. -/
theorem erase_put {entries : Entries String Value} {key other : String} (h : key ≠ other)
    (value : Value) : (entries.put key value).erase other = (entries.erase other).put key value := by
  induction entries with
  | nil => simp [put, erase, h]
  | cons first rest ih => grind [put, erase]

end Entries

theorem erase_scopeEntries (context scope : Option String) :
    (scopeEntries context scope).erase scopeKey = [] := by
  cases scope with
  | none => rfl
  | some scope =>
    rcases scopeEntries_cases context scope with heq | heq
    · rw [heq]
      rfl
    · rw [heq]
      simp [Entries.erase]

theorem scopeEntries_same (scope : Option String) : scopeEntries scope scope = [] := by
  cases scope with
  | none => rfl
  | some scope => exact scopeEntries_self scope

namespace Query

/-- Without the scope at its root a tree is written as in that scope. -/
theorem erase_wireEntries {tree : Query} (h : tree.term? ≠ some scopeKey) :
    (tree.wireEntries none).erase scopeKey = tree.wireEntries tree.scope := by
  cases tree with
  | record id => rfl
  | leaf term value scope field fullText comparator =>
    have hterm : term ≠ scopeKey := fun heq => h (congrArg some heq)
    cases comparator with
    | none =>
      rw [wireEntries, Entries.erase_put hterm, erase_scopeEntries, Query.scope, wireEntries,
        scopeEntries_same]
    | some comparator =>
      rw [wireEntries, Entries.erase_put (by decide), Entries.erase_put hterm, erase_scopeEntries,
        Query.scope, wireEntries, scopeEntries_same]
  | hop term target scope field targetScope =>
    have hterm : term ≠ scopeKey := fun heq => h (congrArg some heq)
    rw [wireEntries, Entries.erase_put hterm, erase_scopeEntries, Query.scope, wireEntries,
      scopeEntries_same]
  | group connective children scope =>
    rw [wireEntries, Entries.erase_put (by cases connective <;> decide), erase_scopeEntries,
      Query.scope, wireEntries, scopeEntries_same, Option.or_none, Option.or_self]

end Query

/-! ### What is written of filled forms -/

/-- The name is not taken for the key of the scope, and an address can hold it. -/
def isEncodableName (name : String) : Bool := name ≠ scopeKey && !hasLoneSurrogate name

/-- The value is a text that an address can hold, or a whole number that can be written. -/
def Value.isEncodable : Value → Bool
  | .string text => !hasLoneSurrogate text
  | .int n => Numeral.isShort n
  | _ => false

namespace Form

mutual

/-- An address can hold the names and the values of the form. -/
def isEncodable : Form → Bool
  | .byId term => isEncodableName term
  | .hole term => isEncodableName term
  | .constant term value => isEncodableName term && value.isEncodable
  | .hop term target => isEncodableName term && isEncodable target
  | .group _ children => areEncodable children
  | .scoped scope form => !hasLoneSurrogate scope && isEncodable form

/-- An address can hold the names and the values of the forms. -/
def areEncodable : List Form → Bool
  | [] => true
  | form :: rest => isEncodable form && areEncodable rest

end

variable {form : Form} {term : String} {value : Value} {scope : Option String} {lone : Prop}

theorem isEncodableName_iff :
    isEncodableName term = true ↔ term ≠ scopeKey ∧ ¬ Lone term.toList := by
  rw [not_lone_iff]
  simp [isEncodableName]

theorem isEncodable_constant_iff : (constant term value).isEncodable = true ↔
    (term ≠ scopeKey ∧ ¬ Lone term.toList) ∧ value.isEncodable = true := by
  rw [isEncodable, Bool.and_eq_true, isEncodableName_iff]

theorem isEncodable_hop_iff : (hop term form).isEncodable = true ↔
    (term ≠ scopeKey ∧ ¬ Lone term.toList) ∧ form.isEncodable = true := by
  rw [isEncodable, Bool.and_eq_true, isEncodableName_iff]

theorem areEncodable_iff {forms : List Form} :
    areEncodable forms = true ↔ ∀ form ∈ forms, form.isEncodable = true := by
  induction forms with
  | nil => simp [areEncodable]
  | cons form rest ih => rw [areEncodable, Bool.and_eq_true, ih, List.forall_mem_cons]

/-- The scope that the tree of an encodable form declares. -/
theorem encodable_scope_tree (h : form.isEncodable = true) (id : RecordId) :
    ∀ name ∈ (form.tree id).scope, ¬ Lone name.toList := by
  induction form with
  | within scope form _ =>
    intro name hname
    rw [tree, Query.scope_withScope (form.isRecord_tree id), Option.mem_some_iff] at hname
    rw [← hname, not_lone_iff]
    simp only [isEncodable, Bool.and_eq_true] at h
    simpa using h.1
  | byId | hole | constant | hop | group =>
    intro name hname
    cases hname

theorem writes_of_isEncodable (h : value.isEncodable = true) : Json.Writes value False := by
  cases value with
  | string text =>
    refine (Json.writes_string text).congr (iff_false_intro (not_lone_iff.2 ?_))
    simpa [Value.isEncodable] using h
  | int n =>
    have hdata : (Value.int n).IsJson none := .int rfl
    have hshort : ¬ (Value.int n).IsLong := Value.not_isLong_int_iff.2 h
    exact Json.writes_of_isJson (le_refl _) (hdata.limited hshort)
  | _ => exact absurd h (by simp [Value.isEncodable])

/-- An entry behind a scope is written as its value is. -/
theorem writesEntries_put (hscope : ∀ name ∈ scope, ¬ Lone name.toList) (hkey : term ≠ scopeKey)
    (hterm : ¬ Lone term.toList) (hvalue : Json.Writes value lone) (context : Option String) :
    Json.WritesEntries ((scopeEntries context scope).put term value) lone := by
  have hentry : Json.WritesEntries [(term, value)] lone := by
    have hone := Json.writesEntries_nil.cons hterm hvalue
    rwa [or_false] at hone
  rw [put_scopeEntries hkey]
  cases scope with
  | none => exact hentry
  | some name =>
    rcases scopeEntries_cases context name with heq | heq
    · rw [heq]
      exact hentry
    · have hname : Json.Writes (.string name) False :=
        (Json.writes_string name).congr (iff_false_intro (hscope name rfl))
      have hboth := hentry.cons (not_lone_iff.2 (by decide : hasLoneSurrogate scopeKey = false)) hname
      rw [heq]
      rwa [false_or] at hboth

/-- The trees of forms are written as each of them is. -/
theorem writesItems_trees {forms : List Form} {id : RecordId} {context : Option String}
    (h : ∀ form ∈ forms, Json.WritesEntries ((form.tree id).wireEntries context)
      (0 < form.holes ∧ Lone id.text.toList)) :
    Json.WritesItems (Query.wireList context (trees id forms))
      (0 < holesIn forms ∧ Lone id.text.toList) := by
  induction forms with
  | nil =>
    have hnone : 0 < holesIn [] ∧ Lone id.text.toList ↔ False := by simp [holesIn]
    rw [propext hnone]
    exact Json.writesItems_nil
  | cons form rest ih =>
    rw [List.forall_mem_cons] at h
    have hholes : 0 < holesIn (form :: rest) ↔ 0 < form.holes ∨ 0 < holesIn rest := by
      rw [holesIn]
      omega
    rw [hholes, or_and_right]
    exact Json.WritesItems.cons (Json.writes_map h.1) (ih h.2)

/-- The tree of an encodable form is written with the identifier in its holes, whatever the scope at its
root. -/
theorem writesEntries_tree (h : form.isEncodable = true) (id : RecordId)
    (hscope : ∀ name ∈ scope, ¬ Lone name.toList) (context : Option String) :
    Json.WritesEntries (((form.tree id).withScope scope).wireEntries context)
      (0 < form.holes ∧ Lone id.text.toList) := by
  induction form generalizing scope context with
  | byId term =>
    obtain ⟨hkey, hterm⟩ := isEncodableName_iff.1 h
    have hid := Json.writesEntries_nil.cons (not_lone_iff.2 (by decide : hasLoneSurrogate "id" = false))
      (Json.writes_string id.text)
    refine writesEntries_put hscope hkey hterm ((Json.writes_map hid).congr ?_) context
    simp [holes]
  | hole term =>
    obtain ⟨hkey, hterm⟩ := isEncodableName_iff.1 h
    refine writesEntries_put hscope hkey hterm ((Json.writes_string id.text).congr ?_) context
    simp [holes]
  | constant term value =>
    obtain ⟨⟨hkey, hterm⟩, hvalue⟩ := isEncodable_constant_iff.1 h
    refine writesEntries_put hscope hkey hterm ((writes_of_isEncodable hvalue).congr ?_) context
    simp [holes]
  | hop term target ih =>
    obtain ⟨⟨hkey, hterm⟩, htarget⟩ := isEncodable_hop_iff.1 h
    have hwritten := ih htarget (encodable_scope_tree htarget id) none
    rw [Query.withScope_self] at hwritten
    exact writesEntries_put hscope hkey hterm (Json.writes_map hwritten) context
  | group connective children ih =>
    rw [isEncodable, areEncodable_iff] at h
    have hkey : connective.key ≠ scopeKey ∧ hasLoneSurrogate connective.key = false := by
      cases connective <;> decide
    refine writesEntries_put hscope hkey.1 (not_lone_iff.2 hkey.2) (Json.writes_list ?_) context
    refine writesItems_trees fun child hchild => ?_
    have hwritten := ih child hchild (h child hchild) (encodable_scope_tree (h child hchild) id)
      (scope.or context)
    rwa [Query.withScope_self] at hwritten
  | within inner form ih =>
    rw [isEncodable, Bool.and_eq_true] at h
    -- A form in a scope is written in the scope that is put last, so the scope is free in the induction.
    rw [tree, Query.withScope_withScope]
    exact ih h.2 hscope context

theorem term?_withScope (tree : Query) (scope : Option String) :
    (tree.withScope scope).term? = tree.term? := by
  cases tree <;> rfl

theorem term?_tree_ne (h : form.isEncodable = true) (id : RecordId) :
    (form.tree id).term? ≠ some scopeKey := by
  induction form with
  | byId term => exact fun heq => (isEncodableName_iff.1 h).1 (Option.some.inj heq)
  | hole term => exact fun heq => (isEncodableName_iff.1 h).1 (Option.some.inj heq)
  | constant term value =>
    exact fun heq => (isEncodable_constant_iff.1 h).1.1 (Option.some.inj heq)
  | hop term target _ => exact fun heq => (isEncodable_hop_iff.1 h).1.1 (Option.some.inj heq)
  | group connective children _ => nofun
  | within scope form ih =>
    rw [isEncodable, Bool.and_eq_true] at h
    rw [tree, term?_withScope]
    exact ih h.2

end Form

namespace Blueprint

variable {blueprint : Blueprint}

/-- The trees of the blueprint mention the record, and an address can hold all else of them. -/
def isEncodable (blueprint : Blueprint) : Bool :=
  blueprint.form.isEncodable && 0 < blueprint.form.holes && !hasLoneSurrogate blueprint.scope

theorem scope_tree (blueprint : Blueprint) (id : RecordId) :
    (blueprint.tree id).scope = some blueprint.scope :=
  Query.scope_withScope (blueprint.form.isRecord_tree id) _

/-- The query of such a tree is made for every identifier that an address can hold. -/
theorem encodes_addressQuery_tree (h : blueprint.isEncodable = true) (id : RecordId) :
    Encodes (Lone id.text.toList) (addressQuery (.query (blueprint.tree id))) := by
  rw [isEncodable, Bool.and_eq_true, Bool.and_eq_true, decide_eq_true_iff] at h
  obtain ⟨⟨hform, hholes⟩, hscope⟩ := h
  have hplain : ∀ name ∈ some blueprint.scope, ¬ Lone name.toList := by
    intro name hname
    rw [← Option.mem_some_iff.1 hname, not_lone_iff]
    simpa using hscope
  have hterm : (blueprint.tree id).term? ≠ some scopeKey := by
    rw [tree, Form.term?_withScope]
    exact Form.term?_tree_ne hform id
  have hwritten := Form.writesEntries_tree hform id hplain (some blueprint.scope)
  rw [and_iff_right hholes] at hwritten
  apply encodes_addressQuery
  rw [Query.erase_wireEntries hterm, scope_tree]
  exact hwritten

end Blueprint

/-! ### Published links -/

namespace Catalogue

theorem isEncodable_of_mem {blueprint : Blueprint} (h : blueprint ∈ all) :
    blueprint.isEncodable = true := by
  have hall : ∀ blueprint ∈ all, blueprint.isEncodable = true := by decide +kernel
  exact hall blueprint h

end Catalogue

namespace Link

variable {relation : String} {link : Link}

/-- The templates of a link are packaged, and an address can hold the name of its facet. -/
def isFounded (link : Link) : Bool :=
  let names := Catalogue.all.map Blueprint.name
  names.contains link.template && link.estimate.all names.contains &&
    link.endpoint.facetName?.all fun name => !hasLoneSurrogate name

theorem isFounded_of_published (h : published.get? relation = some link) : link.isFounded = true := by
  have hall : ∀ entry ∈ published, entry.2.isFounded = true := by decide +kernel
  exact hall _ (Entries.mem_of_get? h)

theorem exists_template (h : published.get? relation = some link) :
    ∃ blueprint ∈ Catalogue.all, blueprint.name = link.template := by
  have hfounded := isFounded_of_published h
  simp only [isFounded, Bool.and_eq_true, List.contains_iff_mem] at hfounded
  exact List.mem_map.1 hfounded.1.1

theorem exists_estimateTemplate (h : published.get? relation = some link) :
    ∃ blueprint ∈ Catalogue.all, blueprint.name = link.estimateTemplate := by
  have hfounded := isFounded_of_published h
  simp only [isFounded, Bool.and_eq_true] at hfounded
  cases hestimate : link.estimate with
  | none =>
    rw [estimateTemplate, hestimate, Option.getD_none]
    exact exists_template h
  | some name =>
    have hname := hfounded.1.2
    rw [hestimate, Option.all_some, List.contains_iff_mem] at hname
    rw [estimateTemplate, hestimate, Option.getD_some]
    exact List.mem_map.1 hname

theorem not_lone_facetName (h : published.get? relation = some link) :
    ∀ name ∈ link.endpoint.facetName?, ¬ Lone name.toList := by
  have hfounded := isFounded_of_published h
  rw [isFounded, Bool.and_eq_true] at hfounded
  intro name hname
  rw [not_lone_iff]
  have hall := hfounded.2
  rw [Option.mem_def.1 hname] at hall
  simpa using hall

/-- A link of the packaged library is addressed by its packaged template. -/
theorem link_packaged (h : published.get? relation = some link) {blueprint : Blueprint}
    (hmem : blueprint ∈ Catalogue.all) (hname : blueprint.name = link.template) (host : String)
    (id : Value) : Site.link ⟨.packaged, host⟩ relation id =
      link.addressFor host blueprint.template id := by
  have hne : Catalogue.all.map Blueprint.template ≠ [] := List.ne_nil_of_mem (List.mem_map_of_mem hmem)
  rw [Library.packaged, Site.link_ofList hne host h, ← hname, Catalogue.latest_template hmem,
    Traced.ok_bind]

/-- The address of a related list asks for the identifier only. -/
theorem addressFor_of_term {term : String} (h : link.endpoint.term? = some term) (host : String)
    (template : Template) (id : Value) : link.addressFor host template id =
      relatedListAddress host (.ofText? template.scope) (.string term) id := by
  unfold addressFor
  cases hendpoint : link.endpoint with
  | relatedList other =>
    rw [hendpoint] at h
    cases h
    rfl
  | search | facet =>
    rw [hendpoint] at h
    cases h

/-- The address of another link asks for the query of its template. -/
theorem addressFor_of_query (h : link.endpoint.term? = none) (host : String) (template : Template)
    (id : Value) : link.addressFor host template id =
      template.treeFor id >>= fun tree => searchAddress host (.query tree)
        { endpoint := link.endpoint.name, facetName := link.endpoint.facetName?,
          sort := link.endpoint.sort? } := by
  unfold addressFor
  cases hendpoint : link.endpoint with
  | relatedList term =>
    rw [hendpoint] at h
    cases h
  | search | facet => rfl

end Link

namespace Site

variable {relation : String} {link : Link}

/-- A link is addressed for every record whose identifier an address can hold. -/
theorem encodes_link (hlink : Link.published.get? relation = some link) (host : String)
    (id : RecordId) :
    Encodes (Lone id.text.toList) (Site.link ⟨.packaged, host⟩ relation (.string id.text)) := by
  obtain ⟨blueprint, hmem, hname⟩ := Link.exists_template hlink
  rw [Link.link_packaged hlink hmem hname]
  cases hterm : link.endpoint.term? with
  | some term =>
    rw [Link.addressFor_of_term hterm]
    exact encodes_relatedListAddress host id.text (scopeText_ofText? blueprint.template.scope) rfl
  | none =>
    rw [Link.addressFor_of_query hterm, ← Catalogue.build_eq_treeFor hmem,
      Catalogue.build_record hmem, Traced.ok_bind]
    have hquery := Blueprint.encodes_addressQuery_tree (Catalogue.isEncodable_of_mem hmem) id
    exact encodes_searchAddress host (blueprint.scope_tree id) (Link.not_lone_facetName hlink) hquery

/-- For the empty text a link with a query is refused, and a related list is addressed. -/
theorem link_empty (hlink : Link.published.get? relation = some link) (host : String) :
    (link.endpoint.term? = none → Site.link ⟨.packaged, host⟩ relation (.string "") =
      .error (.invalid (.templateId link.template (.string "")))) ∧
    (link.endpoint.term? ≠ none →
      ∃ address, Site.link ⟨.packaged, host⟩ relation (.string "") = .ok address) := by
  obtain ⟨blueprint, hmem, hname⟩ := Link.exists_template hlink
  rw [Link.link_packaged hlink hmem hname]
  constructor
  · intro hterm
    rw [Link.addressFor_of_query hterm, ← Catalogue.build_eq_treeFor hmem,
      Catalogue.build_empty hmem, hname]
    rfl
  · intro hterm
    obtain ⟨term, hterm⟩ := Option.ne_none_iff_exists'.1 hterm
    rw [Link.addressFor_of_term hterm]
    exact (encodes_relatedListAddress host "" (scopeText_ofText? blueprint.template.scope)
      rfl).exists_text not_lone_nil

theorem estimate_empty (hlink : Link.published.get? relation = some link) :
    Library.packaged.build link.estimateTemplate (.string "") =
      .error (.invalid (.templateId link.estimateTemplate (.string ""))) := by
  obtain ⟨blueprint, hmem, hname⟩ := Link.exists_estimateTemplate hlink
  rw [← hname]
  exact Catalogue.build_empty hmem

theorem exists_estimate_iff (hlink : Link.published.get? relation = some link) (id : String) :
    (∃ tree, Library.packaged.build link.estimateTemplate (.string id) = .ok tree) ↔ id ≠ "" := by
  constructor
  · rintro ⟨tree, htree⟩ rfl
    cases htree.symm.trans (estimate_empty hlink)
  · intro hid
    obtain ⟨blueprint, hmem, hname⟩ := Link.exists_estimateTemplate hlink
    rw [← hname]
    exact ⟨_, Catalogue.build_record hmem ⟨id, hid⟩⟩

theorem exists_address_iff (hlink : Link.published.get? relation = some link) (host : String)
    (id : String) :
    (∃ address, Site.link ⟨.packaged, host⟩ relation (.string id) = .ok address) ↔
      hasLoneSurrogate id = false ∧ (id ≠ "" ∨ link.endpoint.term? ≠ none) := by
  by_cases hid : id = ""
  · subst hid
    obtain ⟨hquery, hrelated⟩ := link_empty hlink host
    by_cases hterm : link.endpoint.term? = none
    · rw [hquery hterm]
      simp [hterm]
    · exact iff_of_true (hrelated hterm) ⟨by decide, .inr hterm⟩
  · have hends := encodes_link hlink host ⟨id, hid⟩
    rw [and_iff_left (.inl hid), ← not_lone_iff]
    refine ⟨fun haddress hlone => ?_, hends.exists_text⟩
    obtain ⟨address, haddress⟩ := haddress
    rw [haddress] at hends
    cases hends with
    | made hnot => exact hnot hlone

theorem link_of_surrogate (hlink : Link.published.get? relation = some link) (host : String)
    {id : String} (h : hasLoneSurrogate id = true) :
    Site.link ⟨.packaged, host⟩ relation (.string id) = .error (.misuse .surrogateInAddress) := by
  have hid : id ≠ "" := by
    rintro rfl
    cases h
  have hends := encodes_link hlink host ⟨id, hid⟩
  generalize Site.link ⟨.packaged, host⟩ relation (.string id) = outcome at hends ⊢
  cases hends with
  | made hnot => exact absurd (hasLoneSurrogate_iff.1 h) hnot
  | surrogate _ => rfl

/-- Links and estimates take the same identifiers, with two exceptions. The estimate of a published link is
built for every text but the empty one, which it refuses. So is the address of a link with a query, while
a related list takes the empty text as well; and for a text with a lone surrogate no link has an address. -/
theorem links_take_identifiers (host : String)
    (hlink : Link.published.get? relation = some link) (id : String) :
    let address := Site.link ⟨.packaged, host⟩ relation (.string id)
    let estimate := Library.packaged.build link.estimateTemplate (.string id)
    ((∃ tree, estimate = .ok tree) ↔ id ≠ "") ∧
      (id = "" →
        estimate = .error (.invalid (.templateId link.estimateTemplate (.string id)))) ∧
      ((∃ text, address = .ok text) ↔
        hasLoneSurrogate id = false ∧ (id ≠ "" ∨ link.endpoint.term? ≠ none)) ∧
      (id = "" → link.endpoint.term? = none →
        address = .error (.invalid (.templateId link.template (.string id)))) ∧
      (hasLoneSurrogate id = true → address = .error (.misuse .surrogateInAddress)) ∧
      (hasLoneSurrogate id = false → id ≠ "" ∨ link.endpoint.term? = none →
        ((∃ text, address = .ok text) ↔ ∃ tree, estimate = .ok tree)) := by
  intro address estimate
  have hestimate := exists_estimate_iff hlink id
  have haddress := exists_address_iff hlink host id
  refine ⟨hestimate, ?_, haddress, ?_, link_of_surrogate hlink host, fun hplain htaken => ?_⟩
  · rintro rfl
    exact estimate_empty hlink
  · rintro rfl hterm
    exact (link_empty hlink host).1 hterm
  · rw [haddress, hestimate, and_iff_right hplain]
    refine ⟨fun h => ?_, .inl⟩
    rcases h with hid | hterm
    · exact hid
    · exact htaken.resolve_right hterm

/-- For a group the link of its members has an address and their estimate a tree. -/
theorem members_take_group :
    Link.published.get? "lux:agentAgentMemberOf" = some { template := "agentsMemberOfGroup" } ∧
      (∃ address, Site.link ⟨.packaged, defaultHost⟩ "lux:agentAgentMemberOf" (.string "agent:1") =
        .ok address) ∧
      ∃ tree, Library.packaged.build "agentsMemberOfGroup" (.string "agent:1") = .ok tree := by
  have hlink : Link.published.get? "lux:agentAgentMemberOf" =
      some { template := "agentsMemberOfGroup" } := rfl
  obtain ⟨hestimate, -, haddress, -⟩ := links_take_identifiers defaultHost hlink "agent:1"
  exact ⟨hlink, haddress.2 ⟨by decide, .inl (by decide)⟩, hestimate.2 (by decide)⟩

/-- A related list has an address for the empty text, which the template of its estimate refuses. -/
theorem relatedAgents_take_empty :
    Site.link ⟨.packaged, defaultHost⟩ "lux:agentRelatedAgents" (.string "") =
        .ok (defaultHost ++ "/api/related-list/agent?name=relatedToAgent&uri=") ∧
      Library.packaged.build "agentsRelatedToAgent" (.string "") =
        .error (.invalid (.templateId "agentsRelatedToAgent" (.string ""))) := by
  exact ⟨rfl, rfl⟩

end Site

end ScopedSearch
