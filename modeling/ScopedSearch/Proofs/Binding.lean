import ScopedSearch.Proofs.Coercion
import ScopedSearch.Site
import Mathlib.Data.List.Forall2
import Mathlib.Data.List.Induction

/-!
# The library that a site is bound to

A library is reached by registering templates one after the other, and a name stands for the template
that was registered under it last (`Library.get_ofList`). Once a template has been registered, the links
and the estimates of a site are made of what was registered in its own library and of nothing else: each
template that is needed is looked up there, in the order in which they are needed, and the first that is
missing is an error (`Site.uses_own_library`). A library without templates is taken for no library at
all, so that the packaged templates answer in its place (`Site.empty_library_answers`).
-/

namespace ScopedSearch

namespace Template

/-! ### What was registered -/

/-- The template that was registered last under a name. -/
def latest (history : List Template) (name : String) : Except Error Template :=
  match history.reverse.find? fun template => template.name = name with
  | some template => .ok template
  | none => .error (.unknownTemplate name)

/-- The tree of a template for the record that a value names, nested as it has to be. -/
def treeFor (template : Template) (given : Value) : Except Error Query :=
  if given.isRecordId then do
    let tree ← template.build given
    match tree.checkNesting with
    | .ok () => .ok tree
    | .error cause => .error (.invalid cause)
  else .error (Error.invalid (.templateId template.name given)).raised

theorem latest_concat (history : List Template) (template : Template) (name : String) :
    latest (history ++ [template]) name =
      if template.name = name then .ok template else latest history name := by
  unfold latest
  rw [List.reverse_append, List.reverse_singleton, List.singleton_append, List.find?_cons]
  by_cases h : template.name = name <;> simp [h]

theorem name_of_latest {history : List Template} {name : String} {template : Template}
    (h : latest history name = .ok template) : template.name = name := by
  unfold latest at h
  split at h
  · next found =>
    cases h
    simpa using List.find?_some found
  · cases h

theorem mem_of_latest {history : List Template} {name : String} {template : Template}
    (h : latest history name = .ok template) : template ∈ history := by
  unfold latest at h
  split at h
  · next found =>
    cases h
    exact List.mem_reverse.1 (List.mem_of_find?_eq_some found)
  · cases h

theorem build_of_treeFor {template : Template} {given : Value} {tree : Query}
    (h : template.treeFor given = .ok tree) : template.build given = .ok tree := by
  unfold treeFor at h
  split at h
  · obtain ⟨built, hbuild, h⟩ := bind_eq_ok_iff.1 h
    split at h
    · cases h
      exact hbuild
    · cases h
  · cases h

/-- A name that no template was registered under is unknown. -/
theorem latest_of_missing {history : List Template} {name : String}
    (h : ∀ template ∈ history, template.name ≠ name) :
    latest history name = .error (.unknownTemplate name) := by
  have hnone : (history.reverse.find? fun template => decide (template.name = name)) = none := by
    rw [List.find?_eq_none]
    intro template htemplate
    simpa using h template (List.mem_reverse.1 htemplate)
  rw [latest, hnone]

end Template

namespace Library

/-- Each registration decides what its name stands for from then on. -/
theorem get_add (library : Library) (template : Template) (name : String) :
    (library.add template).get name =
      if template.name = name then .ok template else library.get name := by
  unfold get add
  rw [Entries.get?_put]
  by_cases h : template.name = name <;> simp [h]

theorem ofList_concat (history : List Template) (template : Template) :
    ofList (history ++ [template]) = (ofList history).add template := by
  rw [ofList, List.foldl_append]
  rfl

/-- A library holds the template that was registered last under a name. -/
theorem get_ofList (history : List Template) (name : String) :
    (ofList history).get name = Template.latest history name := by
  induction history using List.reverseRecOn with
  | nil => rfl
  | append_singleton front last ih =>
    rw [ofList_concat, get_add, Template.latest_concat, ih]

/-- A template of a library is built under the name that it was registered under. -/
theorem build_ofList (history : List Template) (name : String) (given : Value) :
    (ofList history).build name given =
      Template.latest history name >>= fun template => template.treeFor given := by
  rw [build, get_ofList]
  cases htemplate : Template.latest history name with
  | error error => rfl
  | ok template =>
    obtain rfl := Template.name_of_latest htemplate
    rfl

/-- A library with a template is not replaced by the packaged one. -/
theorem orPackaged_ofList {history : List Template} (h : history ≠ []) :
    (ofList history).orPackaged = ofList history := by
  obtain ⟨front, last, rfl⟩ : ∃ front last, history = front ++ [last] :=
    ⟨_, _, (List.dropLast_concat_getLast h).symm⟩
  have hget : (ofList (front ++ [last])).get last.name = .ok last := by
    rw [get_ofList, Template.latest_concat, if_pos rfl]
  have hnonempty : (ofList (front ++ [last])).templates.isEmpty = false := by
    cases htemplates : (ofList (front ++ [last])).templates with
    | nil =>
      rw [get, htemplates] at hget
      cases hget
    | cons => rfl
  rw [orPackaged, hnonempty]
  rfl

end Library

/-! ### Links and estimates of registered templates -/

/-- The address of a link of a record whose query is that of the template. -/
def Link.addressFor (link : Link) (host : String) (template : Template) (id : Value) :
    Except Error String :=
  match link.endpoint with
  | .relatedList term => relatedListAddress host (.ofText? template.scope) (.string term) id
  | endpoint => do
    let tree ← template.treeFor id
    searchAddress host (.query tree)
      { endpoint := endpoint.name, facetName := endpoint.facetName?, sort := endpoint.sort? }

/-- A list is mapped without an error exactly if each of its members is. -/
theorem forall₂_of_mapM {ε α β : Type} {f : α → Except ε β} {list : List α} {mapped : List β}
    (h : list.mapM f = .ok mapped) : List.Forall₂ (fun a b => f a = .ok b) list mapped := by
  induction list generalizing mapped with
  | nil =>
    cases h
    exact .nil
  | cons first rest ih =>
    rw [List.mapM_cons] at h
    obtain ⟨b, hfirst, h⟩ := bind_eq_ok_iff.1 h
    obtain ⟨others, hrest, h⟩ := bind_eq_ok_iff.1 h
    cases h
    exact .cons hfirst (ih hrest)

namespace Estimate

/-- The wire form, under its key, of the tree of the template that a key needs. -/
def wireFor (history : List Template) (id : Value) (key : String × String) :
    Except Error (String × Value) := do
  let template ← Template.latest history key.2
  let tree ← template.treeFor id
  return (key.1, tree.wire)

/-- The wire forms for keys one after the other, up to the first that fails. -/
def wiresFor (history : List Template) (id : Value) (keys : List (String × String)) :
    Except Error (List (String × Value)) :=
  keys.mapM (wireFor history id)

theorem queries_ofList (history : List Template) (id : Value) (keys : List (String × String)) :
    queries (Library.ofList history) id keys = wiresFor history id keys := by
  induction keys with
  | nil => rfl
  | cons entry rest ih =>
    obtain ⟨key, name⟩ := entry
    rw [queries, ih, wiresFor, wiresFor, List.mapM_cons, wireFor, Library.buildWire,
      Library.build_ofList]
    cases Template.latest history name with
    | error error => rfl
    | ok template =>
      simp only [Traced.ok_bind]
      cases template.treeFor id <;> rfl

/-- The wire form for a key comes from a template that was registered under the name it needs. -/
theorem template_of_wireFor {history : List Template} {id : Value} {key : String × String}
    {wire : String × Value} (h : wireFor history id key = .ok wire) :
    wire.1 = key.1 ∧ ∃ template ∈ history, template.name = key.2 ∧
      ∃ tree, template.build id = .ok tree ∧ wire.2 = tree.wire := by
  unfold wireFor at h
  obtain ⟨template, htemplate, h⟩ := bind_eq_ok_iff.1 h
  obtain ⟨tree, htree, h⟩ := bind_eq_ok_iff.1 h
  cases h
  exact ⟨rfl, template, Template.mem_of_latest htemplate, Template.name_of_latest htemplate,
    tree, Template.build_of_treeFor htree, rfl⟩

/-- The first template that is missing is an error, unless one of those before it fails. -/
theorem wiresFor_missing {history : List Template} {name : String}
    (h : ∀ template ∈ history, template.name ≠ name) (id : Value) (front : List (String × String))
    (key : String) (rest : List (String × String)) :
    wiresFor history id (front ++ (key, name) :: rest) =
      wiresFor history id front >>= fun _ => .error (.unknownTemplate name) := by
  unfold wiresFor
  rw [List.mapM_append, List.mapM_cons, wireFor, Template.latest_of_missing h]
  rfl

/-- What is built is built by templates that were registered. -/
theorem templates_of_wiresFor {history : List Template} {id : Value} {keys : List (String × String)}
    {wires : List (String × Value)} (h : wiresFor history id keys = .ok wires) :
    List.Forall₂ (fun key wire => wire.1 = key.1 ∧ ∃ template ∈ history, template.name = key.2 ∧
      ∃ tree, template.build id = .ok tree ∧ wire.2 = tree.wire) keys wires := by
  exact (forall₂_of_mapM h).imp fun _ _ => template_of_wireFor

/-- The keys that share a template, joined, with the template that they need. -/
def combinedKeys (keyTemplates : Entries String String) : List (String × String) :=
  (keysByTemplate keyTemplates).map fun group => (",".intercalate group.2, group.1)

/-- The wire forms for the links of a document; nothing when its type has no scope. -/
def documentWires (history : List Template) (document : Entries String Value) :
    Except Error (Option (Entries String Value)) := do
  match ← (templates document).outcome with
  | none => return none
  | some keys =>
    let id ← documentId document
    let wires ← wiresFor history id keys
    return some wires

end Estimate

namespace Site

theorem link_ofList {history : List Template} (h : history ≠ []) (host : String) {relation : String}
    {link : Link} (hlink : Link.published.get? relation = some link) (id : Value) :
    Site.link ⟨.ofList history, host⟩ relation id =
      Template.latest history link.template >>= fun template =>
        link.addressFor host template id := by
  rw [Site.link, hlink]
  simp only [Library.orPackaged_ofList h, Library.get_ofList, Library.build_ofList]
  unfold Link.addressFor
  cases link.endpoint with
  | relatedList term => rfl
  | search sort | facet name => cases Template.latest history link.template <;> rfl

theorem forDocument_ofList {history : List Template} (h : history ≠ [])
    (document : Entries String Value) :
    (Estimate.forDocument (.ofList history) document).outcome =
      Estimate.documentWires history document := by
  rw [Estimate.forDocument, Traced.bind_outcome, Estimate.documentWires]
  congr 1
  funext keys
  cases keys with
  | none => rfl
  | some keys =>
    simp only [Library.orPackaged_ofList h, Estimate.queries_ofList, Traced.bind_outcome,
      Traced.lift_outcome]
    rfl

theorem combine_ofList {history : List Template} (h : history ≠ []) (id : Value)
    (keyTemplates : Entries String String) :
    Estimate.combine (.ofList history) id keyTemplates =
      Entries.ofList <$> Estimate.wiresFor history id (Estimate.combinedKeys keyTemplates) := by
  rw [Estimate.combine, Library.orPackaged_ofList h, Estimate.queries_ofList]
  rfl

/-- Once a template has been registered, a site uses its own library only. The address of a link is
made of the template registered last under the name that it needs, or that name is unknown. The wire
forms of estimates and of combined keys are made likewise, key after key: the first that needs a
template which is missing is an error, unless one before it fails, and where there is no error every
wire form is that of a tree which a registered template built. -/
theorem uses_own_library {history : List Template} (h : history ≠ []) (host : String) :
    let library := Library.ofList history
    let site : Site := ⟨library, host⟩
    (∀ (relation : String) (link : Link) (id : Value),
      Link.published.get? relation = some link →
        ((∀ template ∈ history, template.name ≠ link.template) →
          site.link relation id = .error (.unknownTemplate link.template)) ∧
        ∀ template, Template.latest history link.template = .ok template →
          site.link relation id = link.addressFor host template id) ∧
    (∀ document : Entries String Value,
      (Estimate.forDocument library document).outcome = Estimate.documentWires history document ∧
      (site.estimates document).outcome = Estimate.documentWires history document) ∧
    (∀ (id : Value) (keyTemplates : Entries String String),
      Estimate.combine library id keyTemplates =
        Entries.ofList <$> Estimate.wiresFor history id (Estimate.combinedKeys keyTemplates)) ∧
    (∀ name, (∀ template ∈ history, template.name ≠ name) →
      ∀ (id : Value) (front : List (String × String)) (key : String)
        (rest : List (String × String)),
        Estimate.wiresFor history id (front ++ (key, name) :: rest) =
          Estimate.wiresFor history id front >>= fun _ => .error (.unknownTemplate name)) ∧
    ∀ (id : Value) (keys : List (String × String)) (wires : List (String × Value)),
      Estimate.wiresFor history id keys = .ok wires →
        List.Forall₂ (fun key wire => wire.1 = key.1 ∧ ∃ template ∈ history,
          template.name = key.2 ∧ ∃ tree, template.build id = .ok tree ∧ wire.2 = tree.wire)
          keys wires := by
  intro library site
  refine ⟨fun relation link id hlink => ⟨fun hmissing => ?_, fun template htemplate => ?_⟩,
    fun document => ⟨forDocument_ofList h document, forDocument_ofList h document⟩,
    combine_ofList h, fun _ hmissing => Estimate.wiresFor_missing hmissing,
    fun _ _ _ => Estimate.templates_of_wiresFor⟩
  · rw [link_ofList h host hlink, Template.latest_of_missing hmissing]
    rfl
  · rw [link_ofList h host hlink, htemplate]
    rfl

/-- A template for the members of a group. -/
def membersOfGroup : Template :=
  .declare "agentsMemberOfGroup" (some "agent") fun given => (Form.byId "memberOf").fill given

/-- With this template alone, the link of the members of a group is made of it, and what needs another
template is an error, though there is a packaged one. -/
theorem membersOfGroup_bound :
    let library := Library.ofList [membersOfGroup]
    let site : Site := ⟨library, defaultHost⟩
    let id : Value := .string "agent:1"
    site.link "lux:agentAgentMemberOf" id =
        Link.addressFor { template := "agentsMemberOfGroup" } defaultHost membersOfGroup id ∧
      site.link "lux:agentFoundedByAgent" id = .error (.unknownTemplate "agentsFoundedByAgent") ∧
      Estimate.combine library id [("members", "agentsMemberOfGroup"),
        ("founded", "agentsFoundedByAgent")] = .error (.unknownTemplate "agentsFoundedByAgent") ∧
      Library.packaged.contains "agentsFoundedByAgent" = true := by
  intro library site id
  have hmissing : ∀ template ∈ [membersOfGroup], template.name ≠ "agentsFoundedByAgent" := by
    intro template htemplate
    obtain rfl := List.mem_singleton.1 htemplate
    decide
  obtain ⟨hlink, -, hcombine, hwires, -⟩ := uses_own_library (List.cons_ne_nil membersOfGroup [])
    defaultHost
  refine ⟨(hlink "lux:agentAgentMemberOf" _ id rfl).2 membersOfGroup rfl,
    (hlink "lux:agentFoundedByAgent" _ id rfl).1 hmissing, ?_, by decide +kernel⟩
  have hfirst : ∃ wires, Estimate.wiresFor [membersOfGroup] id
      [("members", "agentsMemberOfGroup")] = .ok wires := ⟨_, rfl⟩
  obtain ⟨wires, hfirst⟩ := hfirst
  have hfounded := hwires _ hmissing id [("members", "agentsMemberOfGroup")] "founded" []
  rw [hfirst] at hfounded
  have hkeys : Estimate.combinedKeys [("members", "agentsMemberOfGroup"),
      ("founded", "agentsFoundedByAgent")] =
        [("members", "agentsMemberOfGroup")] ++ [("founded", "agentsFoundedByAgent")] := by decide
  rw [hcombine, hkeys, hfounded]
  rfl

/-- A library without templates answers with the packaged ones. -/
theorem empty_library_answers :
    let library := Library.ofList []
    let site : Site := ⟨library, defaultHost⟩
    Link.published.get? "lux:agentAgentMemberOf" = some { template := "agentsMemberOfGroup" } ∧
      library.contains "agentsMemberOfGroup" = false ∧
      ∃ address, site.link "lux:agentAgentMemberOf" (.string "agent:1") = .ok address := by
  intro library site
  refine ⟨rfl, rfl, ?_⟩
  have hlink : (site.link "lux:agentAgentMemberOf" (.string "agent:1")).toOption.isSome = true := by
    decide +kernel
  obtain ⟨address, haddress⟩ := Option.isSome_iff_exists.1 hlink
  exact ⟨address, toOption_eq_some_iff.1 haddress⟩

end Site

end ScopedSearch
