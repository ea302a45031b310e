import ScopedSearch.Proofs.Binding
import ScopedSearch.Proofs.EntryPoints
import ScopedSearch.Proofs.WrittenScope

/-!
# Where templates are rooted

A template is registered for a scope, with a builder that may give any tree. The tree is taken if its
root declares that scope or none, and if it is nested as it has to be once the scope is filled in
(`Registration.Accepts`); otherwise it is refused. So what a library builds is the builder's tree, rooted
at the registered scope (`Query.RootedFrom`), and every address leads to that scope, whether it is made of
the tree or of the registration (`Template.AddressedAt`). The wire form has the scope under its key as
long as the term at the root is not named like the key (`Registration.scope_term_takes_key`).
-/

namespace ScopedSearch

/-- What a template is registered with: its name, the scope of its trees, and what builds them. -/
structure Registration where
  name : String
  scope : Option String
  builder : Value → Except Error Query
  doc : String := ""
  description : String := ""

namespace Registration

def template (registration : Registration) : Template :=
  .declare registration.name registration.scope registration.builder registration.doc
    registration.description

/-- The library that is filled by registrations, one after the other. -/
def library (history : List Registration) : Library := .ofList (history.map template)

/-- The tree of a builder is fit for its registration: it can be given a scope, it declares no other
one at its root, and with the registered scope it is nested as it has to be. -/
structure Accepts (registration : Registration) (built : Query) : Prop where
  node : built.isRecord = false
  declared : ∀ scope ∈ built.scope, registration.scope = some scope
  nested : (built.withScope registration.scope).checkNesting = .ok ()

end Registration

/-! ### Scopes at the root -/

namespace Query

theorem withScope_of_declared {tree : Query} {root : Option String}
    (h : ∀ scope ∈ tree.scope, root = some scope) (hscope : tree.scope.isSome) :
    tree.withScope root = tree := by
  obtain ⟨scope, hscope⟩ := Option.isSome_iff_exists.1 hscope
  rw [h scope hscope, ← hscope, withScope_self]

theorem isRecord_of_scope {tree : Query} {scope : String} (h : tree.scope = some scope) :
    tree.isRecord = false := by
  cases tree with
  | record => cases h
  | leaf | hop | group => rfl

/-- A scope at the root changes nothing beneath it. -/
theorem tail_nodes_withScope (tree : Query) (scope : Option String) :
    (tree.withScope scope).nodes.tail = tree.nodes.tail := by
  cases tree <;> rfl

theorem scope_of_checkNesting {tree : Query} (h : tree.checkNesting = .ok ()) :
    ∃ scope, tree.scope = some scope := by
  unfold checkNesting at h
  split at h
  · cases h
  · next scope hscope => exact ⟨scope, hscope⟩

/-- The tree is that of a builder with a scope at its root, which the builder gave it or left open. It
is nested as it has to be, and its wire form has the scope under its key unless the term at the root is
named like the key. -/
structure RootedFrom (built tree : Query) (scope : String) : Prop where
  accepted : tree.checkNesting = .ok ()
  scope_eq : tree.scope = some scope
  written : tree.term? ≠ some scopeKey → tree.wire.atPath? [.field scopeKey] = some (.string scope)
  filled : built.scope = none ∨ built.scope = some scope
  tree_eq : tree = built.withScope (some scope)
  beneath : tree.nodes.tail = built.nodes.tail

end Query

/-! ### Building -/

namespace Template

/-- A tree is rooted at a scope if it can be given one and declares no other. -/
theorem rooted_eq_ok_iff {name : String} {root : Option String} {built tree : Query} :
    rooted name root built = .ok tree ↔
      built.isRecord = false ∧ (∀ scope ∈ built.scope, root = some scope) ∧
        tree = built.withScope root := by
  unfold rooted
  cases hscope : built.scope with
  | none =>
    cases hrecord : built.isRecord <;> simp [Query.rescoped, hrecord, eq_comm]
  | some declared =>
    have hnode := Query.isRecord_of_scope hscope
    by_cases hroot : some declared = root
    · have hself : built.withScope root = built :=
        Query.withScope_of_declared (by simp [hscope, hroot]) (by rw [hscope]; rfl)
      simp [hnode, hroot, hself, eq_comm]
    · simp [hnode, hroot, Ne.symm hroot]

theorem treeFor_eq_ok_iff {template : Template} {given : Value} {tree : Query} :
    template.treeFor given = .ok tree ↔
      given.isRecordId = true ∧ template.build given = .ok tree ∧ tree.checkNesting = .ok () := by
  unfold treeFor
  split
  · next hgiven =>
    simp only [hgiven, true_and, bind_eq_ok_iff]
    constructor
    · rintro ⟨built, hbuild, h⟩
      split at h
      · next hnested =>
        cases h
        exact ⟨hbuild, hnested⟩
      · cases h
    · rintro ⟨hbuild, hnested⟩
      exact ⟨tree, hbuild, by rw [hnested]⟩
  · next hgiven => simp [hgiven]

end Template

namespace Registration

variable {registration : Registration} {history : List Registration} {name : String} {given : Value}
  {tree built : Query}

theorem mem_of_get {template : Template} (h : (library history).get name = .ok template) :
    ∃ registration ∈ history, registration.template = template ∧ template.name = name := by
  rw [library, Library.get_ofList] at h
  obtain ⟨registration, hmem, htemplate⟩ := List.mem_map.1 (Template.mem_of_latest h)
  exact ⟨registration, hmem, htemplate, Template.name_of_latest h⟩

theorem build_eq_treeFor {template : Template} (h : (library history).get name = .ok template) :
    (library history).build name given = template.treeFor given := by
  rw [library, Library.get_ofList] at h
  rw [library, Library.build_ofList, h]
  rfl

theorem template_build (registration : Registration) (given : Value) :
    registration.template.build given =
      registration.builder given >>= Template.rooted registration.name registration.scope := rfl

/-- What is built for a registration is a tree of its builder that it accepts, with its scope at the
root. -/
theorem treeFor_template_eq_ok_iff :
    registration.template.treeFor given = .ok tree ↔
      given.isRecordId = true ∧ ∃ built, registration.builder given = .ok built ∧
        registration.Accepts built ∧ tree = built.withScope registration.scope := by
  have hbuild : registration.template.build given = .ok tree ↔
      ∃ built, registration.builder given = .ok built ∧ built.isRecord = false ∧
        (∀ scope ∈ built.scope, registration.scope = some scope) ∧
          tree = built.withScope registration.scope := by
    rw [template_build, bind_eq_ok_iff]
    simp only [Template.rooted_eq_ok_iff]
  rw [Template.treeFor_eq_ok_iff, hbuild]
  refine and_congr_right fun _ => ⟨?_, ?_⟩
  · rintro ⟨⟨built, hbuilt, hnode, hdeclared, rfl⟩, hnested⟩
    exact ⟨built, hbuilt, ⟨hnode, hdeclared, hnested⟩, rfl⟩
  · rintro ⟨built, hbuilt, haccepts, rfl⟩
    exact ⟨⟨built, hbuilt, haccepts.node, haccepts.declared, rfl⟩, haccepts.nested⟩

/-- A tree that is not accepted is refused as unfit. -/
theorem treeFor_template_refused (hbuilt : registration.builder given = .ok built)
    (hnode : built.isRecord = false) (hnot : ¬ registration.Accepts built) (hgiven : ¬ given.IsLong) :
    ∃ cause, registration.template.treeFor given = .error (.invalid cause) := by
  have hbuild : registration.template.build given =
      Template.rooted registration.name registration.scope built := by
    rw [template_build, hbuilt, Traced.ok_bind]
  unfold Template.treeFor
  split
  · rw [hbuild]
    by_cases hdeclared : ∀ scope ∈ built.scope, registration.scope = some scope
    · rw [Template.rooted_eq_ok_iff.2 ⟨hnode, hdeclared, rfl⟩, Traced.ok_bind]
      split
      · next hnested => exact absurd ⟨hnode, hdeclared, hnested⟩ hnot
      · next cause _ => exact ⟨cause, rfl⟩
    · simp only [not_forall] at hdeclared
      obtain ⟨declared, hscope, hne⟩ := hdeclared
      have hrooted : Template.rooted registration.name registration.scope built =
          .error (.invalid (.foreignTemplate registration.name registration.scope declared)) := by
        rw [Template.rooted, Option.mem_def.1 hscope]
        exact if_neg (Ne.symm hne)
      exact ⟨_, by rw [hrooted]; rfl⟩
  · exact ⟨_, congrArg Except.error (Error.raised_invalid_of_shown rfl hgiven)⟩

theorem rootedFrom_of_accepts (h : registration.Accepts built) :
    ∃ scope, registration.scope = some scope ∧
      Query.RootedFrom built (built.withScope registration.scope) scope := by
  obtain ⟨scope, hscope⟩ := Query.scope_of_checkNesting h.nested
  have hroot : registration.scope = some scope := by
    rw [← hscope, Query.scope_withScope h.node]
  refine ⟨scope, hroot, h.nested, hscope, fun hterm => ?_, ?_, by rw [hroot],
    built.tail_nodes_withScope _⟩
  · rw [Query.wire, Value.atPath?_field, Query.get?_wireEntries_scopeKey hterm, hscope]
    rfl
  · cases hbuilt : built.scope with
    | none => exact .inl rfl
    | some declared => exact .inr ((h.declared declared hbuilt).symm.trans hroot)

end Registration

/-! ### Addresses -/

/-- The path of an address of the search service. -/
def servicePath (host endpoint scope : String) : String :=
  hostOrDefault host ++ "/api/" ++ endpoint ++ "/" ++ scope

/-- The address is one of the path, with parameters after it. -/
def LiesAt (path address : String) : Prop := ∃ parameters, address = path ++ ("?" ++ parameters)

theorem searchAddress_liesAt {host address scope : String} {tree : Query} {options : SearchOptions}
    (hscope : tree.scope = some scope)
    (h : searchAddress host (.query tree) options = .ok address) :
    LiesAt (servicePath host options.endpoint scope) address := by
  have hroot : rootScope? (.query tree) = some (.string scope) := by
    rw [rootScope?, hscope]
    rfl
  rw [searchAddress, hroot] at h
  obtain ⟨place, hplace, h⟩ := bind_eq_ok_iff.1 h
  cases hplace
  obtain ⟨query, -, h⟩ := bind_eq_ok_iff.1 h
  obtain ⟨facetName, -, h⟩ := bind_eq_ok_iff.1 h
  cases h
  refine ⟨"q=" ++ query ++ parameter "name" facetName ++ parameter "sort" options.sort, ?_⟩
  exact String.toList_injective (by simp [servicePath])

theorem relatedListAddress_liesAt {host address scope : String} {term id : Value}
    (h : relatedListAddress host (.string scope) term id = .ok address) :
    LiesAt (servicePath host "related-list" scope) address := by
  unfold relatedListAddress at h
  split at h
  · next id =>
    obtain ⟨uri, -, h⟩ := bind_eq_ok_iff.1 h
    obtain ⟨place, hplace, h⟩ := bind_eq_ok_iff.1 h
    cases hplace
    obtain ⟨name, -, h⟩ := bind_eq_ok_iff.1 h
    cases h
    refine ⟨"name=" ++ name ++ "&uri=" ++ uri, ?_⟩
    exact String.toList_injective (by simp [servicePath])
  · cases h

/-- All addresses for a template lead to the scope: searches for its tree, related lists of the scope that
it is registered for, and the published links that need it. -/
structure Template.AddressedAt (library : Library) (template : Template) (tree : Query)
    (given : Value) (scope : String) : Prop where
  search : ∀ {host options address}, searchAddress host (.query tree) options = .ok address →
    LiesAt (servicePath host options.endpoint scope) address
  relatedList : ∀ {host term id address},
    relatedListAddress host (.ofText? template.scope) term id = .ok address →
      LiesAt (servicePath host "related-list" scope) address
  links : ∀ {host relation link address}, Link.published.get? relation = some link →
    link.template = template.name → Site.link ⟨library, host⟩ relation given = .ok address →
      LiesAt (servicePath host link.endpoint.name scope) address

namespace Registration

variable {history : List Registration} {template : Template} {name scope : String} {given : Value}
  {tree : Query}

theorem addressedAt_of_build (hget : (library history).get name = .ok template)
    (htemplate : template.scope = some scope) (htree : tree.scope = some scope)
    (hbuild : template.treeFor given = .ok tree) :
    template.AddressedAt (library history) tree given scope where
  search := searchAddress_liesAt htree
  relatedList h := by
    rw [htemplate] at h
    exact relatedListAddress_liesAt h
  links {host relation link address} hlink hname h := by
    have hne : history.map Registration.template ≠ [] := by
      obtain ⟨registration, hmem, -⟩ := mem_of_get hget
      exact List.ne_nil_of_mem (List.mem_map_of_mem hmem)
    obtain rfl : template.name = name := (mem_of_get hget).choose_spec.2.2
    rw [library, Library.get_ofList] at hget
    rw [library, Site.link_ofList hne host hlink, hname, hget, Traced.ok_bind] at h
    unfold Link.addressFor at h
    split at h
    · next term hendpoint =>
      rw [htemplate] at h
      rw [hendpoint]
      exact relatedListAddress_liesAt h
    · rw [hbuild, Traced.ok_bind] at h
      have hlies := searchAddress_liesAt htree h
      exact hlies

/-- What a library builds for a name is the tree that the builder registered last under the name gives,
rooted at the scope that it is registered for, and all addresses lead to that scope. A tree that is
accepted is built for every record. A tree that declares another scope at its root, or that is not nested
as it has to be once it is given the registered one, is refused as unfit for every record and for
whatever else can be shown. -/
theorem built_where_registered (history : List Registration) (name : String) (given : Value) :
    (∀ tree, (library history).build name given = .ok tree →
      ∃ registration ∈ history, ∃ built scope,
        (library history).get name = .ok registration.template ∧
        registration.template.scope = some scope ∧ registration.builder given = .ok built ∧
        Query.RootedFrom built tree scope ∧
        registration.template.AddressedAt (library history) tree given scope) ∧
    ∀ registration ∈ history, (library history).get name = .ok registration.template →
      ∀ built, registration.builder given = .ok built → built.isRecord = false →
        (registration.Accepts built → given.isRecordId = true →
          (library history).build name given = .ok (built.withScope registration.scope)) ∧
        ((∃ declared, built.scope = some declared ∧ registration.scope ≠ some declared) ∨
            (built.withScope registration.scope).checkNesting ≠ .ok () →
          ¬ given.IsLong → ∃ cause, (library history).build name given = .error (.invalid cause)) := by
  refine ⟨fun tree htree => ?_, fun registration _ hget built hbuilt hnode => ⟨?_, ?_⟩⟩
  · obtain ⟨template, hget, -⟩ := bind_eq_ok_iff.1 htree
    obtain ⟨registration, hmem, rfl, -⟩ := mem_of_get hget
    rw [build_eq_treeFor hget] at htree
    obtain ⟨-, built, hbuilt, haccepts, rfl⟩ := treeFor_template_eq_ok_iff.1 htree
    obtain ⟨scope, hscope, hrooted⟩ := rootedFrom_of_accepts haccepts
    exact ⟨registration, hmem, built, scope, hget, hscope, hbuilt, hrooted,
      addressedAt_of_build hget hscope hrooted.scope_eq htree⟩
  · intro haccepts hgiven
    rw [build_eq_treeFor hget]
    exact treeFor_template_eq_ok_iff.2 ⟨hgiven, built, hbuilt, haccepts, rfl⟩
  · intro hunfit hgiven
    rw [build_eq_treeFor hget]
    refine treeFor_template_refused hbuilt hnode (fun haccepts => ?_) hgiven
    rcases hunfit with ⟨declared, hdeclared, hne⟩ | hnested
    · exact hne (haccepts.declared declared hdeclared)
    · exact hnested haccepts.nested

/-- Members of a group, registered again for agents, and works under a name for items. -/
def groupMembers : List Registration :=
  [{ name := "agentsMemberOfGroup", scope := some "item",
     builder := fun given => (Form.hole "id").fill given },
   { name := "itemsByWork", scope := some "item",
     builder := fun given => (Form.scoped "work" (.hole "id")).fill given },
   { name := "agentsMemberOfGroup", scope := some "agent",
     builder := fun given => (Form.byId "memberOf").fill given }]

theorem groupMembers_rooted :
    let tree : Query := .hop "memberOf" (.record ⟨"agent:1", by decide⟩) (some "agent") none none
    (library groupMembers).build "agentsMemberOfGroup" (.string "agent:1") = .ok tree ∧
      tree.term? ≠ some scopeKey ∧
      tree.wire.atPath? [.field scopeKey] = some (.string "agent") ∧
      (∀ address, Site.link ⟨library groupMembers, defaultHost⟩ "lux:agentAgentMemberOf"
          (.string "agent:1") = .ok address →
        LiesAt (servicePath defaultHost "search" "agent") address) ∧
      ∃ cause, (library groupMembers).build "itemsByWork" (.string "work:1") =
        .error (.invalid cause) := by
  intro tree
  have hbuild : (library groupMembers).build "agentsMemberOfGroup" (.string "agent:1") =
      .ok tree := by rfl
  have hterm : tree.term? ≠ some scopeKey := by simp [tree, Query.term?, scopeKey]
  obtain ⟨hrooted, -⟩ :=
    built_where_registered groupMembers "agentsMemberOfGroup" (.string "agent:1")
  obtain ⟨registration, -, built, scope, hget, -, -, hroot, haddressed⟩ := hrooted tree hbuild
  obtain rfl : "agent" = scope := Option.some.inj hroot.scope_eq
  obtain ⟨-, hrefused⟩ := built_where_registered groupMembers "itemsByWork" (.string "work:1")
  refine ⟨hbuild, hterm, hroot.written hterm, fun address h => ?_, ?_⟩
  · have hlink : Link.published.get? "lux:agentAgentMemberOf" =
        some { template := "agentsMemberOfGroup" } := rfl
    have hname := Template.name_of_latest (Library.get_ofList _ _ ▸ hget)
    have hlies := haddressed.links hlink hname.symm h
    exact hlies
  · exact (hrefused _ (.tail _ (.head _)) rfl _ rfl rfl).2 (.inl ⟨"work", rfl, by decide⟩)
      (Value.not_isLong_string _)

/-- A term at the root that is named like the key of scopes takes the key in the wire form. -/
theorem scope_term_takes_key :
    let items : Registration :=
      { name := "items", scope := some "item",
        builder := fun _ => .ok (.leaf "_scope" (.string "agent") none none false none) }
    let tree : Query := .leaf "_scope" (.string "agent") (some "item") none false none
    (library [items]).get "items" = .ok items.template ∧ items.template.scope = some "item" ∧
      (library [items]).build "items" (.string "item:1") = .ok tree ∧
      tree.wire.atPath? [.field "_scope"] = some (.string "agent") := by
  exact ⟨rfl, rfl, rfl, rfl⟩

end Registration

end ScopedSearch
