import ScopedSearch.Query.Nesting
import Mathlib.Data.List.Basic

/-!
# What the nesting check enforces

Every node of a query tree has a place: the scope that it is evaluated in, which is known unless some
hop above it leaves its target scope open (`Query.places`). The check accepts a subtree exactly if no
node in a known scope declares another one, and no node elsewhere declares the scope `multi`
(`Query.checkIn_eq_ok_iff`). So in an accepted tree the children of a group agree wherever the scope is
known, and a node beneath the root is of scope `multi` only where a hop leads to that scope
(`Query.accepted_agree`). Neither condition can be left out (`Query.accepted_disagreeing`).
-/

namespace ScopedSearch

/-- Two checks one after the other succeed when both do. -/
theorem seq_eq_ok_iff {ε : Type} {first next : Except ε Unit} :
    (first >>= fun _ => next) = .ok () ↔ first = .ok () ∧ next = .ok () := by
  rw [bind_eq_ok_iff]
  exact ⟨fun ⟨_, hfirst, hnext⟩ => ⟨hfirst, hnext⟩, fun ⟨hfirst, hnext⟩ => ⟨(), hfirst, hnext⟩⟩

namespace Query

/-! ### Induction over trees -/

mutual

/-- What holds of a hop if it holds of the target, and of a group if it holds of all children, holds
of every tree. -/
@[induction_eliminator] theorem inductionOn {motive : Query → Prop}
    (record : ∀ id, motive (record id))
    (leaf : ∀ term value scope field fullText comparator,
      motive (leaf term value scope field fullText comparator))
    (hop : ∀ term target scope field targetScope, motive target →
      motive (hop term target scope field targetScope))
    (group : ∀ connective children scope, (∀ child ∈ children, motive child) →
      motive (group connective children scope)) : ∀ tree, motive tree
  | .record id => record id
  | .leaf term value scope field fullText comparator =>
    leaf term value scope field fullText comparator
  | .hop term target scope field targetScope =>
    hop term target scope field targetScope (inductionOn record leaf hop group target)
  | .group connective children scope =>
    group connective children scope (inductionOnAll record leaf hop group children)

theorem inductionOnAll {motive : Query → Prop} (record : ∀ id, motive (.record id))
    (leaf : ∀ term value scope field fullText comparator,
      motive (.leaf term value scope field fullText comparator))
    (hop : ∀ term target scope field targetScope, motive target →
      motive (.hop term target scope field targetScope))
    (group : ∀ connective children scope, (∀ child ∈ children, motive child) →
      motive (.group connective children scope)) : ∀ trees : List Query, ∀ tree ∈ trees, motive tree
  | [] => by simp
  | tree :: rest =>
    List.forall_mem_cons.2
      ⟨inductionOn record leaf hop group tree, inductionOnAll record leaf hop group rest⟩

end

theorem nodesList_eq_flatMap (trees : List Query) : nodesList trees = trees.flatMap nodes := by
  induction trees with
  | nil => rfl
  | cons tree rest ih => rw [nodesList, ih, List.flatMap_cons]

/-! ### Places -/

/-- A node of a tree and the scope that it is evaluated in, if that is known. -/
structure Place where
  scope : Option String
  node : Query

/-- A node declares the scope of its place or none; where the scope is not known, any but `multi`. -/
def Place.Fits (place : Place) : Prop :=
  match place.scope with
  | some scope => ∀ declared ∈ place.node.scope, declared = scope
  | none => place.node.scope ≠ some Scope.multi

mutual

/-- The nodes of a tree that is evaluated in `scope`, a node before those beneath it, each with the
scope that it is evaluated in. Nothing is known beneath a hop that leaves its target scope open. -/
def places (scope : Option String) : Query → List Place
  | record id => [⟨scope, record id⟩]
  | leaf term value declared field fullText comparator =>
    [⟨scope, leaf term value declared field fullText comparator⟩]
  | hop term target declared field targetScope =>
    ⟨scope, hop term target declared field targetScope⟩ ::
      places (scope.bind fun _ => targetScope) target
  | group connective children declared =>
    ⟨scope, group connective children declared⟩ :: placesIn scope children

/-- The nodes of several trees that are evaluated in `scope`. -/
def placesIn (scope : Option String) : List Query → List Place
  | [] => []
  | tree :: rest => places scope tree ++ placesIn scope rest

end

theorem placesIn_eq_flatMap (scope : Option String) (trees : List Query) :
    placesIn scope trees = trees.flatMap (places scope) := by
  induction trees with
  | nil => rfl
  | cons tree rest ih => rw [placesIn, ih, List.flatMap_cons]

theorem self_mem_places (tree : Query) (scope : Option String) :
    ⟨scope, tree⟩ ∈ tree.places scope := by
  cases tree <;> simp [places]

theorem map_node_places (tree : Query) (scope : Option String) :
    (tree.places scope).map Place.node = tree.nodes := by
  induction tree generalizing scope with
  | record | leaf => rfl
  | hop _ target _ _ _ ih => rw [places, List.map_cons, ih, nodes]
  | group _ children _ ih =>
    rw [places, List.map_cons, placesIn_eq_flatMap, List.map_flatMap, nodes, nodesList_eq_flatMap,
      List.flatMap_congr fun child hchild => ih child hchild scope]

/-- Where nothing is known, nothing is known beneath. -/
theorem scope_of_mem_places_none {tree : Query} {place : Place} (h : place ∈ tree.places none) :
    place.scope = none := by
  induction tree with
  | record | leaf => simp_all [places]
  | hop _ _ _ _ _ ih =>
    rcases List.mem_cons.1 h with rfl | h
    · rfl
    · exact ih h
  | group _ _ _ ih =>
    rcases List.mem_cons.1 h with rfl | h
    · rfl
    · rw [placesIn_eq_flatMap, List.mem_flatMap] at h
      obtain ⟨child, hchild, h⟩ := h
      exact ih child hchild h

/-- The children of a group; other nodes have none. -/
def children : Query → List Query
  | group _ children _ => children
  | _ => []

/-- The children of a group are evaluated in the scope of the group. -/
theorem child_mem_places {tree child : Query} {scope : Option String} {place : Place}
    (h : place ∈ tree.places scope) (hchild : child ∈ place.node.children) :
    ⟨place.scope, child⟩ ∈ tree.places scope := by
  induction tree generalizing scope with
  | record | leaf =>
    rw [places, List.mem_singleton] at h
    subst h
    cases hchild
  | hop _ _ _ _ _ ih =>
    rcases List.mem_cons.1 h with rfl | h
    · cases hchild
    · exact List.mem_cons_of_mem _ (ih h)
  | group _ children _ ih =>
    rw [places, placesIn_eq_flatMap]
    refine List.mem_cons_of_mem _ (List.mem_flatMap.2 ?_)
    rcases List.mem_cons.1 h with rfl | h
    · exact ⟨child, hchild, self_mem_places child scope⟩
    · rw [placesIn_eq_flatMap, List.mem_flatMap] at h
      obtain ⟨other, hother, h⟩ := h
      exact ⟨other, hother, ih other hother h⟩

/-- A place in another scope than the tree, or in none that is known, is beneath a hop that leads
there. -/
theorem exists_hop_of_mem_places {tree : Query} {scope : Option String} {place : Place}
    (h : place ∈ tree.places scope) (hne : place.scope ≠ scope) :
    ∃ term target declared field, hop term target declared field place.scope ∈ tree.nodes := by
  induction tree generalizing scope with
  | record | leaf =>
    rw [places, List.mem_singleton] at h
    subst h
    exact absurd rfl hne
  | hop term target declared field targetScope ih =>
    rcases List.mem_cons.1 h with rfl | h
    · exact absurd rfl hne
    · by_cases htarget : place.scope = targetScope
      · exact ⟨term, target, declared, field, htarget ▸ List.mem_cons_self⟩
      · cases scope with
        | none => exact absurd (scope_of_mem_places_none h) hne
        | some scope =>
          obtain ⟨t, q, d, f, hmem⟩ := ih h htarget
          exact ⟨t, q, d, f, List.mem_cons_of_mem _ hmem⟩
  | group _ children _ ih =>
    rcases List.mem_cons.1 h with rfl | h
    · exact absurd rfl hne
    · rw [placesIn_eq_flatMap, List.mem_flatMap] at h
      obtain ⟨child, hchild, h⟩ := h
      obtain ⟨t, q, d, f, hmem⟩ := ih child hchild h hne
      refine ⟨t, q, d, f, List.mem_cons_of_mem _ ?_⟩
      rw [nodesList_eq_flatMap, List.mem_flatMap]
      exact ⟨child, hchild, hmem⟩

/-! ### The check, node by node -/

section Nodes

variable {scope term : String} {target : Query} {declared field : Option String}
  {children : List Query}

theorem checkDeclared_eq_ok_iff :
    checkDeclared scope declared = .ok () ↔ ∀ name ∈ declared, name = scope := by
  cases declared with
  | none => simp [checkDeclared]
  | some name => by_cases h : name = scope <;> simp [checkDeclared, h]

theorem checkIn_leaf_iff {value : Value} {fullText : Bool} {comparator : Option Comparator} :
    (leaf term value declared field fullText comparator).checkIn scope = .ok () ↔
      ∀ name ∈ declared, name = scope := by
  rw [checkIn, checkDeclared_eq_ok_iff]

theorem checkIn_hop_iff {targetScope : String} :
    (hop term target declared field (some targetScope)).checkIn scope = .ok () ↔
      (∀ name ∈ declared, name = scope) ∧ target.checkIn targetScope = .ok () := by
  rw [checkIn, seq_eq_ok_iff, checkDeclared_eq_ok_iff]

/-- Beneath a hop that leaves its target scope open, only the scope `multi` is refused. -/
theorem checkIn_openHop_iff :
    (hop term target declared field none).checkIn scope = .ok () ↔
      (∀ name ∈ declared, name = scope) ∧ ∀ node ∈ target.nodes, node.scope ≠ some Scope.multi := by
  rw [checkIn, seq_eq_ok_iff, checkDeclared_eq_ok_iff]
  by_cases h : target.mentionsMulti <;> simp_all [mentionsMulti]

theorem checkAllIn_eq_ok_iff :
    checkAllIn scope children = .ok () ↔ ∀ child ∈ children, child.checkIn scope = .ok () := by
  induction children with
  | nil => simp [checkAllIn]
  | cons child rest ih => rw [checkAllIn, seq_eq_ok_iff, List.forall_mem_cons, ih]

theorem checkIn_group_iff {connective : Connective} :
    (group connective children declared).checkIn scope = .ok () ↔
      (∀ name ∈ declared, name = scope) ∧ ∀ child ∈ children, child.checkIn scope = .ok () := by
  rw [checkIn, seq_eq_ok_iff, checkDeclared_eq_ok_iff, checkAllIn_eq_ok_iff]

/-- The branches of a query over several scopes pass if each declares a scope of its own and stays in
it. -/
theorem checkBranches_eq_ok_iff :
    checkBranches children = .ok () ↔ ∀ child ∈ children, ∃ scope, child.scope = some scope ∧
      scope ≠ Scope.multi ∧ child.checkIn scope = .ok () := by
  induction children with
  | nil => simp [checkBranches]
  | cons child rest ih =>
    rw [checkBranches, List.forall_mem_cons, ← ih]
    cases child.scope with
    | none => simp [bind, Except.bind]
    | some scope =>
      by_cases h : scope = Scope.multi
      · simp [h, bind, Except.bind]
      · simp [h, seq_eq_ok_iff]

end Nodes

/-- Where nothing is known, the places fit if no node is of scope `multi`. -/
theorem fits_places_none_iff {tree : Query} :
    (∀ place ∈ tree.places none, place.Fits) ↔
      ∀ node ∈ tree.nodes, node.scope ≠ some Scope.multi := by
  rw [← map_node_places tree none, List.forall_mem_map]
  refine forall₂_congr fun place hplace => ?_
  rw [Place.Fits, scope_of_mem_places_none hplace]

/-- A subtree is accepted exactly if every node of it fits its place. -/
theorem checkIn_eq_ok_iff {tree : Query} {scope : String} :
    tree.checkIn scope = .ok () ↔ ∀ place ∈ tree.places (some scope), place.Fits := by
  induction tree generalizing scope with
  | record => simp [checkIn, places, Place.Fits, Query.scope]
  | leaf =>
    rw [checkIn_leaf_iff, places, List.forall_mem_singleton]
    rfl
  | hop _ target _ _ targetScope ih =>
    rw [places, List.forall_mem_cons]
    cases targetScope with
    | none =>
      rw [checkIn_openHop_iff, ← fits_places_none_iff]
      rfl
    | some targetScope =>
      rw [checkIn_hop_iff, ih]
      rfl
  | group _ children _ ih =>
    rw [checkIn_group_iff, places, List.forall_mem_cons, placesIn_eq_flatMap, List.forall_mem_flatMap]
    exact and_congr Iff.rfl (forall₂_congr fun child hchild => ih child hchild)

/-- A tree is accepted if it stays in the scope that it declares, or if it is a query over several
scopes whose branches each stay in a scope of their own. -/
theorem checkNesting_eq_ok_iff {tree : Query} :
    tree.checkNesting = .ok () ↔
      (∃ scope, tree.scope = some scope ∧ scope ≠ Scope.multi ∧ tree.checkIn scope = .ok ()) ∨
        ∃ children, tree = group .any children (some Scope.multi) ∧ ∀ child ∈ children,
          ∃ scope, child.scope = some scope ∧ scope ≠ Scope.multi ∧ child.checkIn scope = .ok () := by
  unfold checkNesting
  cases hscope : tree.scope with
  | none =>
    simp only [reduceCtorEq, false_and, exists_false, false_or, false_iff]
    rintro ⟨children, rfl, -⟩
    cases hscope
  | some scope =>
    by_cases hmulti : scope = Scope.multi
    · subst hmulti
      simp only [if_true, Option.some.injEq, exists_eq_left', ne_eq, not_true_eq_false, false_and,
        false_or]
      split
      · next children declared =>
        obtain rfl : declared = some Scope.multi := hscope
        simp [checkBranches_eq_ok_iff]
      · next hnot =>
        simp only [reduceCtorEq, false_iff]
        rintro ⟨children, rfl, -⟩
        exact hnot children _ rfl
    · simp only [Option.some.injEq, exists_eq_left', ne_eq, hmulti, not_false_eq_true, true_and]
      refine ⟨.inl, ?_⟩
      rintro (h | ⟨children, rfl, -⟩)
      · exact h
      · exact absurd (Option.some.inj hscope).symm hmulti

/-! ### Accepted trees -/

/-- Those of the children that declare a scope declare the same one. -/
def Agrees (tree : Query) : Prop :=
  ∀ a ∈ tree.children, ∀ b ∈ tree.children, ∀ scope ∈ a.scope, ∀ other ∈ b.scope, scope = other

/-- The places of the nodes beneath the root. Each branch of a query over several scopes is evaluated
in the scope that it declares. -/
def inner : Query → List Place
  | record _ | leaf .. => []
  | hop _ target _ _ targetScope => target.places targetScope
  | group _ children scope =>
    if scope = some Scope.multi then children.flatMap fun child => child.places child.scope
    else placesIn scope children

theorem map_node_inner (tree : Query) : tree.inner.map Place.node = tree.nodes.tail := by
  cases tree with
  | record | leaf => rfl
  | hop => exact map_node_places _ _
  | group connective children scope =>
    rw [inner, nodes, List.tail_cons, nodesList_eq_flatMap, placesIn_eq_flatMap]
    split <;> simp [List.map_flatMap, map_node_places]

theorem places_eq_cons {tree : Query} {scope : String} (hscope : tree.scope = some scope)
    (hmulti : scope ≠ Scope.multi) : tree.places (some scope) = ⟨some scope, tree⟩ :: tree.inner := by
  cases tree with
  | record => cases hscope
  | leaf | hop => rfl
  | group connective children declared =>
    obtain rfl : declared = some scope := hscope
    rw [places, inner, if_neg (by simpa using hmulti)]

/-- In an accepted tree every node beneath the root fits its place. -/
theorem fits_of_mem_inner {tree : Query} (h : tree.checkNesting = .ok ()) {place : Place}
    (hplace : place ∈ tree.inner) : place.Fits := by
  rcases checkNesting_eq_ok_iff.1 h with
    ⟨scope, hscope, hmulti, htree⟩ | ⟨children, rfl, hchildren⟩
  · rw [checkIn_eq_ok_iff, places_eq_cons hscope hmulti] at htree
    exact htree place (List.mem_cons_of_mem _ hplace)
  · rw [inner, if_pos rfl, List.mem_flatMap] at hplace
    obtain ⟨child, hchild, hplace⟩ := hplace
    obtain ⟨scope, hscope, -, hfits⟩ := hchildren child hchild
    rw [hscope] at hplace
    exact checkIn_eq_ok_iff.1 hfits place hplace

theorem child_mem_inner {tree child : Query} {place : Place} (h : place ∈ tree.inner)
    (hchild : child ∈ place.node.children) : ⟨place.scope, child⟩ ∈ tree.inner := by
  cases tree with
  | record | leaf => cases h
  | hop => exact child_mem_places h hchild
  | group connective children scope =>
    rw [inner, placesIn_eq_flatMap] at h ⊢
    split at h <;> next hmulti =>
      simp only [hmulti, if_true, if_false, List.mem_flatMap] at h ⊢
      obtain ⟨branch, hbranch, h⟩ := h
      exact ⟨branch, hbranch, child_mem_places h hchild⟩

theorem agrees_of_fits {tree : Query} {scope : String}
    (h : ∀ child ∈ tree.children, Place.Fits ⟨some scope, child⟩) : tree.Agrees :=
  fun a ha b hb _ hscope _ hother => (h a ha _ hscope).trans (h b hb _ hother).symm

/-- Beneath the root of an accepted tree, a scope that is not known or is `multi` comes from a hop that
leads there. -/
theorem exists_hop_of_mem_inner {tree : Query} (haccepted : tree.checkNesting = .ok ())
    {place : Place} (h : place ∈ tree.inner) (hscope : ∀ scope ∈ place.scope, scope = Scope.multi) :
    ∃ term target declared field, hop term target declared field place.scope ∈ tree.nodes := by
  have hne {scope : String} (hmulti : scope ≠ Scope.multi) : place.scope ≠ some scope :=
    fun heq => hmulti (hscope scope heq)
  rcases checkNesting_eq_ok_iff.1 haccepted with
    ⟨scope, hroot, hmulti, -⟩ | ⟨children, rfl, hchildren⟩
  · have hplace : place ∈ tree.places (some scope) := by
      rw [places_eq_cons hroot hmulti]
      exact List.mem_cons_of_mem _ h
    exact exists_hop_of_mem_places hplace (hne hmulti)
  · rw [inner, if_pos rfl, List.mem_flatMap] at h
    obtain ⟨child, hchild, h⟩ := h
    obtain ⟨scope, hroot, hmulti, -⟩ := hchildren child hchild
    obtain ⟨t, q, d, f, hmem⟩ := exists_hop_of_mem_places h (hroot ▸ hne hmulti)
    refine ⟨t, q, d, f, List.mem_cons_of_mem _ ?_⟩
    rw [nodesList_eq_flatMap, List.mem_flatMap]
    exact ⟨child, hchild, hmem⟩

theorem agrees_of_mem_inner {tree : Query} (haccepted : tree.checkNesting = .ok ()) {place : Place}
    (hplace : place ∈ tree.inner) (hknown : place.scope.isSome) : place.node.Agrees := by
  obtain ⟨scope, hscope⟩ := Option.isSome_iff_exists.1 hknown
  have hfits : ∀ child ∈ place.node.children, Place.Fits ⟨some scope, child⟩ := by
    intro child hchild
    rw [← hscope]
    exact fits_of_mem_inner haccepted (child_mem_inner hplace hchild)
  exact agrees_of_fits hfits

/-- What acceptance ensures. If no hop leads to the scope `multi`, no node beneath the root is of that
scope. The children of a group agree if it is the root, unless that is of scope `multi`, or a node
beneath it whose scope is known; if no hop leaves its target scope open, these are all nodes. -/
theorem accepted_agree {tree : Query} (haccepted : tree.checkNesting = .ok ()) :
    ((∀ term target declared field,
        hop term target declared field (some Scope.multi) ∉ tree.nodes) →
      ∀ node ∈ tree.nodes.tail, node.scope ≠ some Scope.multi) ∧
    (tree.scope ≠ some Scope.multi → tree.Agrees) ∧
    (∀ place ∈ tree.inner, place.scope.isSome → place.node.Agrees) ∧
    ((∀ term target declared field, hop term target declared field none ∉ tree.nodes) →
      ∀ node ∈ tree.nodes.tail, node.Agrees) := by
  refine ⟨fun hhops => ?_, fun hmulti => ?_, fun _ => agrees_of_mem_inner haccepted,
    fun hhops => ?_⟩
  · rw [← map_node_inner, List.forall_mem_map]
    intro place hplace hdeclared
    have hfits := fits_of_mem_inner haccepted hplace
    rw [Place.Fits] at hfits
    cases hscope : place.scope with
    | none =>
      rw [hscope] at hfits
      exact hfits hdeclared
    | some scope =>
      rw [hscope] at hfits
      obtain rfl := hfits Scope.multi hdeclared
      obtain ⟨term, target, declared, field, hmem⟩ :=
        exists_hop_of_mem_inner haccepted hplace (by simp [hscope])
      exact hhops term target declared field (hscope ▸ hmem)
  · rcases checkNesting_eq_ok_iff.1 haccepted with ⟨scope, -, -, htree⟩ | ⟨children, rfl, -⟩
    · rw [checkIn_eq_ok_iff] at htree
      exact agrees_of_fits fun child hchild =>
        htree _ (child_mem_places (self_mem_places tree _) hchild)
    · exact absurd rfl hmulti
  · rw [← map_node_inner, List.forall_mem_map]
    intro place hplace
    cases hscope : place.scope with
    | none =>
      obtain ⟨term, target, declared, field, hmem⟩ :=
        exists_hop_of_mem_inner haccepted hplace (by simp [hscope])
      exact absurd (hscope ▸ hmem) (hhops term target declared field)
    | some scope => exact agrees_of_mem_inner haccepted hplace (by simp [hscope])

/-- Items and sets in a set that has a name and is published. -/
def setMembers : Query :=
  let member (scope : String) : Query :=
    hop "memberOf"
      (group .all
        [leaf "name" (.string "sea") (some "set") none false none,
          hop "publishedBy" (leaf "name" (.string "press") none none false none) none none
            (some "agent")]
        none)
      (some scope) none (some "set")
  group .any [member "item", member "set"] (some Scope.multi)

theorem setMembers_agree :
    setMembers.checkNesting = .ok () ∧
      (∀ node ∈ setMembers.nodes.tail, node.scope ≠ some Scope.multi) ∧
      ∀ node ∈ setMembers.nodes.tail, node.Agrees := by
  have haccepted : setMembers.checkNesting = .ok () := by rfl
  obtain ⟨hmulti, -, -, hagree⟩ := accepted_agree haccepted
  refine ⟨haccepted, hmulti ?_, hagree ?_⟩
  all_goals simp [setMembers, nodes, nodesList, Scope.multi]

/-- Two accepted trees beyond what acceptance ensures: the children of a group disagree beneath a hop
that leaves its target scope open, and a node is of scope `multi` beneath a hop that leads there. -/
theorem accepted_disagreeing :
    let name (scope : String) : Query := leaf "name" (.string "sea") (some scope) none false none
    let mixed := group .all [name "item", name "set"] none
    let openHop := hop "memberOf" mixed (some "item") none none
    let strayHop := hop "memberOf" (name Scope.multi) (some "item") none (some Scope.multi)
    (openHop.checkNesting = .ok () ∧ mixed ∈ openHop.nodes.tail ∧ ¬ mixed.Agrees) ∧
      strayHop.checkNesting = .ok () ∧ name Scope.multi ∈ strayHop.nodes.tail ∧
        (name Scope.multi).scope = some Scope.multi := by
  refine ⟨⟨rfl, List.mem_cons_self, fun hagrees => ?_⟩, rfl, List.mem_cons_self, rfl⟩
  have h := hagrees _ (.head _) _ (.tail _ (.head _)) "item" rfl "set" rfl
  exact absurd h (by decide)

end Query

end ScopedSearch
