import ScopedSearch.Proofs.Rooting

/-!
# Forms filled by records

Filling a form by the identifier of a record never fails and gives a tree of the form's shape
(`Form.fill_record`). The nesting check looks at nothing that was filled in, since it does not look at
the data of a tree at all (`Query.checkNesting_outline`). So each of the packaged templates is accepted
for every record once it is accepted for one, and building it is filling its form
(`Catalogue.build_record`).
-/

namespace ScopedSearch

/-! ### Trees of forms -/

namespace Form

mutual

/-- What holds of every form with a hole or a value, of a hop and a form in a scope if it holds of the
form beneath, and of a group if it holds of all children, holds of every form. -/
@[induction_eliminator] theorem inductionOn {motive : Form → Prop}
    (byId : ∀ term, motive (byId term)) (hole : ∀ term, motive (hole term))
    (constant : ∀ term value, motive (constant term value))
    (hop : ∀ term target, motive target → motive (hop term target))
    (group : ∀ connective children, (∀ child ∈ children, motive child) →
      motive (group connective children))
    (within : ∀ scope form, motive form → motive (.scoped scope form)) : ∀ form, motive form
  | .byId term => byId term
  | .hole term => hole term
  | .constant term value => constant term value
  | .hop term target => hop term target (inductionOn byId hole constant hop group within target)
  | .group connective children =>
    group connective children (inductionOnAll byId hole constant hop group within children)
  | .scoped scope form => within scope form (inductionOn byId hole constant hop group within form)

theorem inductionOnAll {motive : Form → Prop} (byId : ∀ term, motive (.byId term))
    (hole : ∀ term, motive (.hole term)) (constant : ∀ term value, motive (.constant term value))
    (hop : ∀ term target, motive target → motive (.hop term target))
    (group : ∀ connective children, (∀ child ∈ children, motive child) →
      motive (.group connective children))
    (within : ∀ scope form, motive form → motive (.scoped scope form)) :
    ∀ forms : List Form, ∀ form ∈ forms, motive form
  | [] => by simp
  | form :: rest =>
    List.forall_mem_cons.2
      ⟨inductionOn byId hole constant hop group within form,
        inductionOnAll byId hole constant hop group within rest⟩

end

mutual

/-- The tree of a form for a record. -/
def tree (id : RecordId) : Form → Query
  | .byId term => .hop term (.record id) none none none
  | .hole term => .leaf term (.string id.text) none none false none
  | .constant term value => .leaf term value none none false none
  | .hop term target => .hop term (tree id target) none none none
  | .group connective children => .group connective (trees id children) none
  | .scoped scope form => (tree id form).withScope (some scope)

/-- The trees of several forms for a record. -/
def trees (id : RecordId) : List Form → List Query
  | [] => []
  | form :: rest => tree id form :: trees id rest

end

theorem trees_eq_map (id : RecordId) (forms : List Form) : trees id forms = forms.map (tree id) := by
  induction forms with
  | nil => rfl
  | cons form rest ih => rw [trees, ih, List.map_cons]

/-- The tree of a form is no record. -/
theorem isRecord_tree (form : Form) (id : RecordId) : (form.tree id).isRecord = false := by
  induction form with
  | byId | hole | constant | hop | group => rfl
  | within scope form ih =>
    rw [tree]
    rw [← ih]
    cases form.tree id <;> rfl

theorem recordNamed_text (id : RecordId) : Query.recordNamed (.string id.text) = .ok (.record id) := by
  rw [Query.recordNamed, RecordId.ofString?_text]

theorem fillAll_record {forms : List Form} {id : RecordId}
    (h : ∀ form ∈ forms, form.fill (.string id.text) = .ok (form.tree id)) :
    fillAll (.string id.text) forms = .ok (trees id forms) := by
  induction forms with
  | nil => rfl
  | cons form rest ih =>
    rw [List.forall_mem_cons] at h
    rw [fillAll, h.1, ih h.2]
    rfl

/-- Filling a form by the identifier of a record gives its tree for the record. -/
theorem fill_record (form : Form) (id : RecordId) :
    form.fill (.string id.text) = .ok (form.tree id) := by
  induction form with
  | byId term =>
    rw [fill, recordNamed_text]
    rfl
  | hole | constant => rfl
  | hop term target ih =>
    rw [fill, ih]
    rfl
  | group connective children ih =>
    rw [fill, fillAll_record ih]
    rfl
  | within scope form ih =>
    rw [fill, ih, Traced.ok_bind, Query.rescoped, form.isRecord_tree id]
    rfl

end Form

/-! ### Trees without their data -/

namespace Query

mutual

/-- The tree with one record in the place of every other, and without values. -/
def outline : Query → Query
  | .record _ => .record ⟨"record", by decide⟩
  | .leaf term _ scope field fullText comparator => .leaf term .null scope field fullText comparator
  | .hop term target scope field targetScope => .hop term (outline target) scope field targetScope
  | .group connective children scope => .group connective (outlines children) scope

/-- Several trees without their data. -/
def outlines : List Query → List Query
  | [] => []
  | tree :: rest => outline tree :: outlines rest

end

variable {tree other : Query}

theorem outlines_eq_map (trees : List Query) : outlines trees = trees.map outline := by
  induction trees with
  | nil => rfl
  | cons tree rest ih => rw [outlines, ih, List.map_cons]

@[simp] theorem scope_outline (tree : Query) : tree.outline.scope = tree.scope := by
  cases tree <;> rfl

/-- Of two scopes at the root the one that is given last stays. -/
theorem withScope_withScope (tree : Query) (first second : Option String) :
    (tree.withScope first).withScope second = tree.withScope second := by
  cases tree <;> rfl

theorem outline_withScope (tree : Query) (scope : Option String) :
    (tree.withScope scope).outline = tree.outline.withScope scope := by
  cases tree <;> rfl

theorem nodes_outline (tree : Query) : tree.outline.nodes = tree.nodes.map outline := by
  induction tree with
  | record | leaf => rfl
  | hop term target scope field targetScope ih =>
    rw [outline, nodes, nodes, ih]
    rfl
  | group connective children scope ih =>
    rw [outline, nodes, nodes, List.map_cons, outline, nodesList_eq_flatMap, nodesList_eq_flatMap,
      outlines_eq_map, List.flatMap_map, List.map_flatMap, List.flatMap_congr ih]

theorem mentionsMulti_outline (tree : Query) : tree.outline.mentionsMulti = tree.mentionsMulti := by
  rw [mentionsMulti, nodes_outline, List.any_map]
  simp only [Function.comp_def, scope_outline, mentionsMulti]

theorem checkAllIn_outlines {scope : String} {trees : List Query}
    (h : ∀ tree ∈ trees, tree.outline.checkIn scope = tree.checkIn scope) :
    checkAllIn scope (outlines trees) = checkAllIn scope trees := by
  induction trees with
  | nil => rfl
  | cons tree rest ih =>
    rw [List.forall_mem_cons] at h
    rw [outlines, checkAllIn, checkAllIn, h.1, ih h.2]

theorem checkIn_outline (tree : Query) (scope : String) :
    tree.outline.checkIn scope = tree.checkIn scope := by
  induction tree generalizing scope with
  | record | leaf => rfl
  | hop term target declared field targetScope ih =>
    cases targetScope with
    | none => rw [outline, checkIn, checkIn, mentionsMulti_outline]
    | some targetScope => rw [outline, checkIn, checkIn, ih]
  | group connective children declared ih =>
    rw [outline, checkIn, checkIn, checkAllIn_outlines fun child hchild => ih child hchild scope]

theorem checkBranches_outlines (trees : List Query) :
    checkBranches (outlines trees) = checkBranches trees := by
  induction trees with
  | nil => rfl
  | cons tree rest ih =>
    rw [outlines, checkBranches, checkBranches, ih, scope_outline]
    simp only [checkIn_outline]

/-- Whether scopes are nested as they have to be does not depend on the data. -/
theorem checkNesting_outline (tree : Query) : tree.outline.checkNesting = tree.checkNesting := by
  unfold checkNesting
  rw [scope_outline]
  cases tree.scope with
  | none => rfl
  | some scope =>
    simp only [checkIn_outline]
    cases tree with
    | group connective children _ =>
      cases connective with
      | all => rfl
      | any => simp only [outline, checkBranches_outlines]
    | record | leaf | hop => rfl

end Query

namespace Form

/-- The trees of a form for two records differ in their data only. -/
theorem outline_tree (form : Form) (id other : RecordId) :
    (form.tree id).outline = (form.tree other).outline := by
  induction form with
  | byId | hole | constant => rfl
  | hop term target ih => rw [tree, tree, Query.outline, Query.outline, ih]
  | group connective children ih =>
    rw [tree, tree, Query.outline, Query.outline, trees_eq_map, trees_eq_map,
      Query.outlines_eq_map, Query.outlines_eq_map, List.map_map, List.map_map]
    exact congrArg (Query.group connective · none) (List.map_congr_left ih)
  | within scope form ih => rw [tree, tree, Query.outline_withScope, Query.outline_withScope, ih]

end Form

/-! ### The packaged templates -/

namespace Template

/-- Of templates with different names each is the latest of its name. -/
theorem latest_of_mem {history : List Template} (hnodup : (history.map Template.name).Nodup)
    {template : Template} (h : template ∈ history) : latest history template.name = .ok template := by
  cases hfound : latest history template.name with
  | ok found =>
    rw [List.inj_on_of_nodup_map hnodup (mem_of_latest hfound) h (name_of_latest hfound)]
  | error error =>
    unfold latest at hfound
    split at hfound
    · cases hfound
    · next hnone =>
      rw [List.find?_eq_none] at hnone
      simpa using hnone template (List.mem_reverse.2 h)

end Template

namespace Blueprint

variable {blueprint : Blueprint}

/-- The tree of a blueprint for a record. -/
def tree (blueprint : Blueprint) (id : RecordId) : Query :=
  (blueprint.form.tree id).withScope (some blueprint.scope)

/-- The registration of the template of a blueprint. -/
def registration (blueprint : Blueprint) : Registration where
  name := blueprint.name
  scope := some blueprint.scope
  builder given := blueprint.form.fill given
  description := blueprint.summary

theorem template_registration (blueprint : Blueprint) :
    blueprint.registration.template = blueprint.template := rfl

/-- The tree for one record declares no other scope, and with the scope of the blueprint it is nested as it
has to be. -/
def fits (blueprint : Blueprint) (id : RecordId) : Bool :=
  let built := blueprint.form.tree id
  built.scope.all (· = blueprint.scope) &&
    (built.withScope (some blueprint.scope)).checkNesting.toOption.isSome

/-- A blueprint that fits one record is accepted for every record. -/
theorem accepts_of_fits {id : RecordId} (h : blueprint.fits id = true) (other : RecordId) :
    blueprint.registration.Accepts (blueprint.form.tree other) := by
  have houtline := blueprint.form.outline_tree other id
  have hscope : (blueprint.form.tree other).scope = (blueprint.form.tree id).scope := by
    rw [← Query.scope_outline, houtline, Query.scope_outline]
  rw [fits, Bool.and_eq_true] at h
  refine ⟨blueprint.form.isRecord_tree other, fun declared hdeclared => ?_, ?_⟩
  · rw [hscope] at hdeclared
    have hall := h.1
    rw [Option.mem_def.1 hdeclared] at hall
    simpa [registration, eq_comm] using hall
  · -- The two trees have one outline, and the check sees no more of a tree than that.
    have hnested : (blueprint.tree other).checkNesting = (blueprint.tree id).checkNesting := by
      rw [← Query.checkNesting_outline, ← Query.checkNesting_outline (blueprint.tree id), tree, tree,
        Query.outline_withScope, Query.outline_withScope, houtline]
    obtain ⟨⟨⟩, hok⟩ := Option.isSome_iff_exists.1 h.2
    exact hnested.trans (toOption_eq_some_iff.1 hok)

end Blueprint

namespace Catalogue

variable {blueprint : Blueprint}

theorem names_nodup : (all.map Blueprint.name).Nodup := by decide +kernel

theorem fits_of_mem (h : blueprint ∈ all) : blueprint.fits ⟨"record", by decide⟩ = true := by
  have hall : ∀ blueprint ∈ all, blueprint.fits ⟨"record", by decide⟩ = true := by decide +kernel
  exact hall blueprint h

/-- The name of a blueprint stands for its template. -/
theorem latest_template (h : blueprint ∈ all) :
    Template.latest (all.map Blueprint.template) blueprint.name = .ok blueprint.template := by
  have hnodup : ((all.map Blueprint.template).map Template.name).Nodup := by
    rw [List.map_map]
    exact names_nodup
  exact Template.latest_of_mem hnodup (List.mem_map_of_mem h)

/-- The packaged library builds the template of each blueprint. -/
theorem build_eq_treeFor (h : blueprint ∈ all) (given : Value) :
    Library.packaged.build blueprint.name given = blueprint.template.treeFor given := by
  rw [Library.packaged, Library.build_ofList, latest_template h, Traced.ok_bind]

/-- For every record, a packaged template builds the tree of its form. -/
theorem build_record (h : blueprint ∈ all) (id : RecordId) :
    Library.packaged.build blueprint.name (.string id.text) = .ok (blueprint.tree id) := by
  rw [build_eq_treeFor h, ← Blueprint.template_registration,
    Registration.treeFor_template_eq_ok_iff]
  refine ⟨decide_eq_true id.nonempty, blueprint.form.tree id, blueprint.form.fill_record id, ?_, rfl⟩
  exact Blueprint.accepts_of_fits (fits_of_mem h) id

/-- For an empty text, a packaged template refuses to build. -/
theorem build_empty (h : blueprint ∈ all) : Library.packaged.build blueprint.name (.string "") =
    .error (.invalid (.templateId blueprint.name (.string ""))) := by
  rw [build_eq_treeFor h]
  rfl

end Catalogue

end ScopedSearch
