import ScopedSearch.Proofs.Combining
import ScopedSearch.Proofs.LinkIdentifiers
import ScopedSearch.Proofs.WrittenScope

/-!
# Every record is served

A packaged template is one form, whatever the record: what it builds is the form with the record in its
holes (`Catalogue.filledBy_of_mem`). There is a hole in every form, and what fills it stands at one place
in all that is written of the form (`Form.exists_path`), so that different records have different queries.
Since every link that is counted for a scope is published and founded on packaged templates, the links
and the estimates of a record are made one after the other without a failure
(`Catalogue.every_record_served`), except that no address can hold a lone surrogate.
-/

namespace ScopedSearch

open ScopedSearch.Text

/-! ### Holes in what is written -/

/-- A path through the entry that is put behind a scope. -/
theorem Value.atPath?_put {context scope : Option String} {term : String} {value : Value}
    {path : List PathStep} :
    (Value.map ((scopeEntries context scope).put term value)).atPath? (.field term :: path) =
      value.atPath? path := by
  rw [Value.atPath?_field, Entries.get?_put, if_pos rfl, Option.bind_some]

namespace Query

/-- A node that has data of its own has the record, or one of these values. -/
def HoldsOnly (id : RecordId) (values : List Value) : Query → Prop
  | .record other => other = id
  | .leaf _ value _ _ _ _ => value = .string id.text ∨ value ∈ values
  | .hop .. => True
  | .group .. => True

theorem HoldsOnly.mono {id : RecordId} {values more : List Value} {node : Query}
    (h : node.HoldsOnly id values) (hmore : values ⊆ more) : node.HoldsOnly id more := by
  cases node with
  | leaf => exact h.imp_right fun hvalue => hmore hvalue
  | record | hop | group => exact h

end Query

namespace Form

mutual

/-- The values of the leaves that have no hole. -/
def constants : Form → List Value
  | .byId _ => []
  | .hole _ => []
  | .constant _ value => [value]
  | .hop _ target => constants target
  | .group _ children => constantsIn children
  | .scoped _ form => constants form

/-- The values of the leaves of several forms that have no hole. -/
def constantsIn : List Form → List Value
  | [] => []
  | form :: rest => constants form ++ constantsIn rest

end

theorem constants_subset_constantsIn {form : Form} {forms : List Form} (h : form ∈ forms) :
    form.constants ⊆ constantsIn forms := by
  induction forms with
  | nil => cases h
  | cons first rest ih =>
    rw [constantsIn]
    rcases List.mem_cons.1 h with rfl | h
    · exact List.subset_append_left _ _
    · exact List.subset_append_of_subset_right _ (ih h)

/-- The data in the tree of a form are the record in the holes and what is fixed beside them. -/
theorem holdsOnly_tree (form : Form) (id : RecordId) (scope : Option String) :
    ∀ node ∈ ((form.tree id).withScope scope).nodes, node.HoldsOnly id form.constants := by
  induction form generalizing scope with
  | byId term => exact List.forall_mem_cons.2 ⟨trivial, List.forall_mem_singleton.2 rfl⟩
  | hole term => exact List.forall_mem_singleton.2 (.inl rfl)
  | constant term value =>
    exact List.forall_mem_singleton.2 (.inr (List.mem_singleton_self value))
  | hop term target ih =>
    have htarget := ih (target.tree id).scope
    rw [Query.withScope_self] at htarget
    exact List.forall_mem_cons.2 ⟨trivial, htarget⟩
  | group connective children ih =>
    refine List.forall_mem_cons.2 ⟨trivial, fun node hnode => ?_⟩
    rw [Query.nodesList_eq_flatMap, List.mem_flatMap] at hnode
    obtain ⟨tree, htree, hnode⟩ := hnode
    rw [trees_eq_map] at htree
    obtain ⟨child, hchild, rfl⟩ := List.mem_map.1 htree
    have hholds := ih child hchild (child.tree id).scope
    rw [Query.withScope_self] at hholds
    exact (hholds node hnode).mono (constants_subset_constantsIn hchild)
  | within inner form ih =>
    rw [tree, Query.withScope_withScope]
    exact ih scope

/-- Of several forms with a hole between them, one has a hole. -/
theorem exists_holes_of_holesIn {forms : List Form} (h : 0 < holesIn forms) :
    ∃ (index : Nat) (form : Form), forms[index]? = some form ∧ 0 < form.holes := by
  induction forms with
  | nil => exact absurd h (Nat.lt_irrefl 0)
  | cons form rest ih =>
    rw [holesIn] at h
    by_cases hform : 0 < form.holes
    · exact ⟨0, form, rfl, hform⟩
    · obtain ⟨index, other, hother, hholes⟩ := ih (by omega)
      exact ⟨index + 1, other, hother, hholes⟩

theorem getElem?_wireList_trees {forms : List Form} {index : Nat} {form : Form}
    (h : forms[index]? = some form) (id : RecordId) (context : Option String) :
    (Query.wireList context (trees id forms))[index]? = some ((form.tree id).wire context) := by
  rw [Query.wireList_eq_map, trees_eq_map, List.getElem?_map, List.getElem?_map, h]
  rfl

/-- What fills the holes of a form stands at one place in all that is written of it. -/
theorem exists_path {form : Form} (h : 0 < form.holes) :
    ∃ path, ∀ (id : RecordId) (scope context : Option String),
      (((form.tree id).withScope scope).wire context).atPath? path = some (.string id.text) := by
  induction form with
  | byId term =>
    refine ⟨[.field term, .field "id"], fun id scope context => ?_⟩
    exact Value.atPath?_put
  | hole term => exact ⟨[.field term], fun id scope context => Value.atPath?_put⟩
  | constant term value => exact absurd h (Nat.lt_irrefl 0)
  | hop term target ih =>
    obtain ⟨path, hpath⟩ := ih h
    refine ⟨.field term :: path, fun id scope context => Value.atPath?_put.trans ?_⟩
    have htarget := hpath id (target.tree id).scope none
    rwa [Query.withScope_self] at htarget
  | group connective children ih =>
    obtain ⟨index, child, hchild, hholes⟩ := exists_holes_of_holesIn h
    obtain ⟨path, hpath⟩ := ih child (List.mem_of_getElem? hchild) hholes
    refine ⟨.field connective.key :: .position index :: path,
      fun id scope context => Value.atPath?_put.trans ?_⟩
    have hwritten := hpath id (child.tree id).scope (scope.or context)
    rw [Query.withScope_self] at hwritten
    rw [Value.atPath?, getElem?_wireList_trees hchild]
    exact hwritten
  | within inner form ih =>
    obtain ⟨path, hpath⟩ := ih h
    refine ⟨path, fun id scope context => ?_⟩
    rw [tree, Query.withScope_withScope]
    exact hpath id scope context

end Form

/-! ### Packaged forms -/

namespace Catalogue

variable {blueprint : Blueprint}

/-- A packaged form fixes no other value than the classification of archives and the mark of images. -/
def isFixed : Value → Bool
  | .string text => text = "http://vocab.getty.edu/aat/300375748"
  | .int n => n = 1
  | _ => false

theorem eq_of_isFixed {value : Value} (h : isFixed value = true) :
    value = .string "http://vocab.getty.edu/aat/300375748" ∨ value = .int 1 := by
  cases value with
  | string text => exact .inl (congrArg Value.string (of_decide_eq_true h))
  | int n => exact .inr (congrArg Value.int (of_decide_eq_true h))
  | _ => cases h

theorem isFixed_of_mem (h : blueprint ∈ all) : ∀ value ∈ blueprint.form.constants, isFixed value := by
  have hall : ∀ blueprint ∈ all, blueprint.form.constants.all isFixed = true := by decide +kernel
  exact List.all_eq_true.1 (hall blueprint h)

theorem holes_pos_of_mem (h : blueprint ∈ all) : 0 < blueprint.form.holes := by
  have hencodable := isEncodable_of_mem h
  rw [Blueprint.isEncodable, Bool.and_eq_true, Bool.and_eq_true, decide_eq_true_iff] at hencodable
  exact hencodable.1.2

theorem buildWire_record (h : blueprint ∈ all) (id : RecordId) :
    Library.packaged.buildWire blueprint.name (.string id.text) = .ok (blueprint.tree id).wire := by
  rw [Library.buildWire, build_record h]
  rfl

theorem exists_blueprint {name : String} {template : Template}
    (h : Library.packaged.get name = .ok template) :
    ∃ blueprint ∈ all, blueprint.name = name ∧ blueprint.template = template := by
  rw [Library.packaged, Library.get_ofList] at h
  obtain ⟨blueprint, hmem, rfl⟩ := List.mem_map.1 (Template.mem_of_latest h)
  exact ⟨blueprint, hmem, Template.name_of_latest h, rfl⟩

/-- The template of a name is one form for all records. It has at least one hole, for a record or for the
value of a leaf, and beside the record in the holes its trees hold no other data than the classification
of archives and the mark of images. What is built for a record is the form with the record in its holes,
rooted at the scope of the template and nested as it has to be. What fills the holes stands at one place
in all that is written, so that no two records are written alike. -/
structure FilledBy (name : String) (template : Template) (form : Form) : Prop where
  holes : 0 < form.holes
  constants : ∀ value ∈ form.constants,
    value = .string "http://vocab.getty.edu/aat/300375748" ∨ value = .int 1
  data : ∀ id, ∀ node ∈ (form.tree id).nodes, node.HoldsOnly id form.constants
  build : ∀ id : RecordId, Library.packaged.build name (.string id.text) = .ok (form.tree id)
  nested : ∀ id, (form.tree id).checkNesting = .ok ()
  scope : ∀ id, (form.tree id).scope = template.scope
  place : ∃ path, ∀ id : RecordId, ((form.tree id).wire).atPath? path = some (.string id.text)
  injective : Function.Injective fun id : RecordId =>
    Library.packaged.buildWire name (.string id.text)

theorem filledBy_of_mem (h : blueprint ∈ all) :
    FilledBy blueprint.name blueprint.template (.scoped blueprint.scope blueprint.form) := by
  obtain ⟨path, hpath⟩ := Form.exists_path (holes_pos_of_mem h)
  have hplace (id : RecordId) : ((blueprint.tree id).wire).atPath? path = some (.string id.text) :=
    hpath id (some blueprint.scope) none
  refine ⟨holes_pos_of_mem h, fun value hvalue => eq_of_isFixed (isFixed_of_mem h value hvalue),
    fun id => Form.holdsOnly_tree blueprint.form id (some blueprint.scope), build_record h,
    fun id => ?_, blueprint.scope_tree, ⟨path, hplace⟩, fun id other heq => ?_⟩
  · exact (Blueprint.accepts_of_fits (fits_of_mem h) id).nested
  · simp only [buildWire_record h, Except.ok.injEq] at heq
    have htext := hplace id
    rw [heq, hplace other, Option.some.injEq, Value.string.injEq] at htext
    exact RecordId.ext htext.symm

end Catalogue

/-! ### Documents of records -/

namespace Estimate

/-- The document is of a record with this identifier and of a type that has a scope. -/
structure IsOfRecord (document : Entries String Value) (id : RecordId) (scope : Scope) : Prop where
  id : document.get? "id" = some (.string id.text)
  type : ∃ type, document.get? "type" = some (.string type) ∧ Link.scopeOfType? type = some scope

variable {document : Entries String Value} {id : RecordId} {scope : Scope}

theorem IsOfRecord.documentId_eq (h : IsOfRecord document id scope) :
    documentId document = .ok (.string id.text) := by
  rw [documentId, h.id]
  exact if_pos (decide_eq_true id.nonempty)

theorem IsOfRecord.scopeOfType?_eq (h : IsOfRecord document id scope) :
    scopeOfType? ((document.get? "type").getD .null) = some scope := by
  obtain ⟨type, htype, hscope⟩ := h.type
  rw [htype]
  exact hscope

theorem isSome_published (scope : Scope) :
    ∀ relation ∈ Link.counted scope, (Link.published.get? relation).isSome = true := by
  cases scope <;> decide +kernel

theorem keys_countedTemplates_counted (scope : Scope) :
    (countedTemplates (Link.counted scope)).keys = Link.counted scope := by
  rw [keys_countedTemplates, List.filter_eq_self]
  exact isSome_published scope

/-- A scope with records has a link that is counted. -/
theorem IsOfRecord.counted_ne_nil (h : IsOfRecord document id scope) : Link.counted scope ≠ [] := by
  obtain ⟨type, -, hscope⟩ := h.type
  obtain ⟨entry, hentry, rfl⟩ := Option.map_eq_some_iff.1 hscope
  have hall : ∀ entry ∈ Link.recordTypes, Link.counted entry.1 ≠ [] := by decide +kernel
  exact hall entry (List.mem_of_find?_eq_some hentry)

theorem exists_queries {library : Library} {id : Value} {keys : List (String × String)}
    (h : ∀ key ∈ keys, ∃ wire, library.buildWire key.2 id = .ok wire) :
    ∃ wires, queries library id keys = .ok wires := by
  induction keys with
  | nil => exact ⟨[], rfl⟩
  | cons key rest ih =>
    rw [List.forall_mem_cons] at h
    obtain ⟨wire, hwire⟩ := h.1
    obtain ⟨wires, hwires⟩ := ih h.2
    exact ⟨(key.1, wire) :: wires, by rw [queries, hwire, hwires]; rfl⟩

/-- The template that counts the hits of a link is built for every record. -/
theorem exists_wire_of_counted {relations : List String} {key : String × String}
    (h : key ∈ countedTemplates relations) (id : RecordId) :
    ∃ wire, Library.packaged.buildWire key.2 (.string id.text) = .ok wire := by
  obtain ⟨relation, -, hkey⟩ := List.mem_filterMap.1 h
  obtain ⟨link, hlink, rfl⟩ := Option.map_eq_some_iff.1 hkey
  obtain ⟨blueprint, hmem, hname⟩ := Link.exists_estimateTemplate hlink
  rw [← hname]
  exact ⟨_, Catalogue.buildWire_record hmem id⟩

/-- Every record has estimates, one for each link that is counted for its scope. -/
theorem IsOfRecord.exists_estimates (h : IsOfRecord document id scope) (host : String) :
    ∃ estimates, (Site.estimates ⟨.packaged, host⟩ document).outcome = .ok (some estimates) ∧
      Entries.keys estimates = Link.counted scope := by
  have hqueries : ∃ wires, queries .packaged (.string id.text)
      (countedTemplates (Link.counted scope)) = .ok wires :=
    exists_queries fun key hkey => exists_wire_of_counted hkey id
  obtain ⟨wires, hwires⟩ := hqueries
  have howner : Library.packaged.orPackaged = Library.packaged := ite_self _
  refine ⟨wires, ?_, (keys_of_queries hwires).trans (keys_countedTemplates_counted scope)⟩
  rw [Site.estimates, forDocument_outcome _ h.scopeOfType?_eq, h.documentId_eq, Traced.ok_bind,
    howner, hwires]
  rfl

end Estimate

namespace Site

open Estimate

variable {site : Site} {document : Entries String Value} {id : RecordId} {scope : Scope}

/-- The links of a record are addressed one after the other. -/
theorem links_outcome (site : Site) (h : IsOfRecord document id scope) :
    (site.links document).outcome = site.addresses (.string id.text) (Link.counted scope) := by
  rw [links, Traced.bind_outcome, templates_outcome h.scopeOfType?_eq, h.documentId_eq]
  simp only [Except.map, Traced.ok_bind, Traced.bind_outcome, Traced.lift_outcome,
    keys_countedTemplates_counted]

theorem exists_addresses {id : Value} {relations : List String}
    (h : ∀ relation ∈ relations, ∃ address, site.link relation id = .ok address) :
    ∃ links, site.addresses id relations = .ok links ∧ Entries.keys links = relations := by
  induction relations with
  | nil => exact ⟨[], rfl, rfl⟩
  | cons relation rest ih =>
    rw [List.forall_mem_cons] at h
    obtain ⟨address, haddress⟩ := h.1
    obtain ⟨links, hlinks, hkeys⟩ := ih h.2
    refine ⟨(relation, address) :: links, ?_, congrArg (relation :: ·) hkeys⟩
    rw [addresses, haddress, hlinks]
    rfl

/-- Every record whose identifier an address can hold has all links that are counted for its scope. -/
theorem exists_links (h : IsOfRecord document id scope) (host : String)
    (hid : hasLoneSurrogate id.text = false) :
    ∃ links, (Site.links ⟨.packaged, host⟩ document).outcome = .ok links ∧
      Entries.keys links = Link.counted scope := by
  rw [links_outcome _ h]
  refine exists_addresses fun relation hrelation => ?_
  obtain ⟨link, hlink⟩ := Option.isSome_iff_exists.1 (isSome_published scope relation hrelation)
  exact (exists_address_iff hlink host id.text).2 ⟨hid, .inl id.nonempty⟩

/-- For an identifier with a lone surrogate the first link is not addressed. -/
theorem links_of_surrogate (h : IsOfRecord document id scope) (host : String)
    (hid : hasLoneSurrogate id.text = true) :
    (Site.links ⟨.packaged, host⟩ document).outcome = .error (.misuse .surrogateInAddress) := by
  obtain ⟨relation, rest, hcounted⟩ := List.exists_cons_of_ne_nil h.counted_ne_nil
  have hrelation : relation ∈ Link.counted scope := hcounted ▸ List.mem_cons_self
  obtain ⟨link, hlink⟩ := Option.isSome_iff_exists.1 (isSome_published scope relation hrelation)
  rw [links_outcome _ h, hcounted, addresses, link_of_surrogate hlink host hid]
  rfl

end Site

namespace Catalogue

open Estimate

/-- The packaged templates serve every record. Each is one form with holes for the record, rooted and
nested as it was registered, and what is written of it tells the record. The estimates of a record of a
known type are made, one for each link that is counted for its scope, and the links with them, unless
the identifier has a lone surrogate, which no address can hold. -/
theorem every_record_served (host : String) :
    (∀ (name : String) (template : Template), Library.packaged.get name = .ok template →
      ∃ form, FilledBy name template form) ∧
    ∀ (document : Entries String Value) (id : RecordId) (scope : Scope),
      IsOfRecord document id scope →
        (∃ estimates, (Site.estimates ⟨.packaged, host⟩ document).outcome = .ok (some estimates) ∧
          Entries.keys estimates = Link.counted scope) ∧
        (hasLoneSurrogate id.text = false →
          ∃ links, (Site.links ⟨.packaged, host⟩ document).outcome = .ok links ∧
            Entries.keys links = Link.counted scope) ∧
        (hasLoneSurrogate id.text = true →
          (Site.links ⟨.packaged, host⟩ document).outcome =
            .error (.misuse .surrogateInAddress)) := by
  refine ⟨fun name template hget => ?_, fun document id scope h =>
    ⟨h.exists_estimates host, Site.exists_links h host, Site.links_of_surrogate h host⟩⟩
  obtain ⟨blueprint, hmem, rfl, rfl⟩ := exists_blueprint hget
  exact ⟨_, filledBy_of_mem hmem⟩

/-- The document of a person. -/
def personDocument : Entries String Value :=
  [("type", .string "Person"), ("id", .string "agent:é/9")]

theorem personDocument_isOfRecord : IsOfRecord personDocument ⟨"agent:é/9", by decide⟩ .agent :=
  ⟨rfl, "Person", rfl, rfl⟩

/-- An identifier that is half of a pair of surrogates. -/
def surrogateId : RecordId := ⟨String.ofList (CodePoint.surrogate 0xd800).kept, by decide⟩

/-- The document of an image with this identifier. -/
def surrogateDocument : Entries String Value :=
  [("id", .string surrogateId.text), ("type", .string "VisualItem")]

theorem surrogateDocument_isOfRecord : IsOfRecord surrogateDocument surrogateId .work :=
  ⟨rfl, "VisualItem", rfl, rfl⟩

/-- A template over several scopes is one form. A person has all estimates and links of agents, and an
image whose identifier is a lone surrogate has no links. -/
theorem person_served :
    (∃ template, Library.packaged.get "currentItemAndSiblings" = .ok template ∧
      ∃ form, FilledBy "currentItemAndSiblings" template form) ∧
    (∃ estimates, (Site.estimates ⟨.packaged, defaultHost⟩ personDocument).outcome =
        .ok (some estimates) ∧ Entries.keys estimates = Link.counted .agent) ∧
    (∃ links, (Site.links ⟨.packaged, defaultHost⟩ personDocument).outcome = .ok links ∧
      Entries.keys links = Link.counted .agent) ∧
    (Site.links ⟨.packaged, defaultHost⟩ surrogateDocument).outcome =
      .error (.misuse .surrogateInAddress) := by
  have hmem : archives[1] ∈ all := by simp [all, archives]
  have hget : Library.packaged.get "currentItemAndSiblings" = .ok archives[1].template :=
    (Library.get_ofList _ _).trans (latest_template hmem)
  obtain ⟨hforms, hrecords⟩ := every_record_served defaultHost
  obtain ⟨hestimates, hlinks, -⟩ := hrecords _ _ _ personDocument_isOfRecord
  obtain ⟨-, -, hsurrogate⟩ := hrecords _ _ _ surrogateDocument_isOfRecord
  exact ⟨⟨_, hget, hforms _ _ hget⟩, hestimates, hlinks (by decide), hsurrogate (by decide)⟩

/-- An image is a record of a known type. If its identifier is a lone surrogate, it has no links, though
it has estimates. -/
theorem surrogate_unlinked :
    IsOfRecord surrogateDocument surrogateId .work ∧
      (∃ estimates, (Site.estimates ⟨.packaged, defaultHost⟩ surrogateDocument).outcome =
        .ok (some estimates) ∧ Entries.keys estimates = Link.counted .work) ∧
      (Site.links ⟨.packaged, defaultHost⟩ surrogateDocument).outcome =
        .error (.misuse .surrogateInAddress) := by
  have hrecord := surrogateDocument_isOfRecord
  exact ⟨hrecord, hrecord.exists_estimates defaultHost,
    Site.links_of_surrogate hrecord defaultHost (by decide)⟩

end Catalogue

end ScopedSearch
