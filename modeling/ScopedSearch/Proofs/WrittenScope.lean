import ScopedSearch.Proofs.AddressText
import ScopedSearch.Proofs.Nesting
import ScopedSearch.Query.Wire

/-!
# Where scopes are written

The writer of trees carries along the scope that a node stands in, and the nesting check carries along
the scope that a node has to stay in. In an accepted tree the two agree everywhere below the root, or
below the branches of a query over several scopes, so that the key of scopes is written there and
nowhere else (`Query.scopes_written`). What a leaf is matched with is data of its own and may hold any
key; it is left out (`Query.InLeaf`).
-/

namespace ScopedSearch

/-! ### Values at a path -/

theorem Entries.eq_of_get?_singleton {key name : String} {value found : Value}
    (h : Entries.get? [(key, value)] name = some found) : key = name ∧ value = found := by
  rw [Entries.get?_cons] at h
  split at h
  · next heq => exact ⟨heq, Option.some.inj h⟩
  · cases h

namespace Value

/-- The value that a path leads to: by fields of mappings and positions in lists. -/
def atPath? : Value → List PathStep → Option Value
  | value, [] => some value
  | .map entries, .field name :: rest => (Entries.get? entries name).bind fun v => v.atPath? rest
  | .list items, .position index :: rest => items[index]?.bind fun v => v.atPath? rest
  | _, _ => none

theorem atPath?_field (entries : Entries String Value) (name : String) (rest : List PathStep) :
    (map entries).atPath? (.field name :: rest) =
      (entries.get? name).bind fun value => value.atPath? rest := by
  rw [atPath?]

/-- Nothing is beneath a text. -/
theorem atPath?_string (text : String) (place : List PathStep) (step : PathStep) :
    (string text).atPath? (place ++ [step]) = none := by
  cases place <;> simp [atPath?]

/-- A path below a mapping leads through one of its entries. -/
theorem atPath?_map_eq_none {entries : Entries String Value} {key : String}
    {place : List PathStep} (hkey : entries.get? key = none)
    (hfields : ∀ name rest value, place = .field name :: rest → entries.get? name = some value →
      value.atPath? (rest ++ [.field key]) = none) :
    (map entries).atPath? (place ++ [.field key]) = none := by
  rcases place with _ | ⟨name | index, rest⟩
  · rw [List.nil_append, atPath?_field, hkey, Option.bind_none]
  · rw [List.cons_append, atPath?_field, Option.bind_eq_none_iff]
    exact fun value hvalue => hfields name rest value rfl hvalue
  · rfl

/-- A text that is put before other entries adds itself and nothing beneath it. -/
theorem atPath?_cons_iff {entries : Entries String Value} {key text : String}
    (hkey : entries.get? key = none) (place : List PathStep) (found : Value) :
    (map ((key, .string text) :: entries)).atPath? (place ++ [.field key]) = some found ↔
      (place = [] ∧ found = .string text) ∨
        (map entries).atPath? (place ++ [.field key]) = some found := by
  rcases place with _ | ⟨name | index, rest⟩
  · rw [List.nil_append, atPath?_field, atPath?_field, Entries.get?_cons, if_pos rfl, hkey]
    simp [atPath?, eq_comm]
  · rw [List.cons_append, atPath?_field, atPath?_field, Entries.get?_cons]
    split
    · next hname =>
      subst hname
      simp [hkey, atPath?_string]
    · simp
  · simp [atPath?]

/-- A path below a single list leads through one of its items. -/
theorem atPath?_items_iff {items : List Value} {name key : String} (hname : name ≠ key)
    (place : List PathStep) (found : Value) :
    (map [(name, .list items)]).atPath? (place ++ [.field key]) = some found ↔
      ∃ index rest item, place = .field name :: .position index :: rest ∧
        items[index]? = some item ∧ item.atPath? (rest ++ [.field key]) = some found := by
  constructor
  · intro h
    rcases place with _ | ⟨other | index, rest⟩
    · rw [List.nil_append, atPath?_field, Entries.get?_cons, if_neg hname] at h
      cases h
    · rw [List.cons_append, atPath?_field] at h
      obtain ⟨list, hlist, h⟩ := Option.bind_eq_some_iff.1 h
      obtain ⟨rfl, rfl⟩ := Entries.eq_of_get?_singleton hlist
      rcases rest with _ | ⟨inner | index, rest⟩
      · cases h
      · cases h
      · rw [List.cons_append, atPath?] at h
        obtain ⟨item, hitem, hfound⟩ := Option.bind_eq_some_iff.1 h
        exact ⟨index, rest, item, rfl, hitem, hfound⟩
    · cases h
  · rintro ⟨index, rest, item, rfl, hitem, hfound⟩
    rw [List.cons_append, atPath?_field, Entries.get?_cons, if_pos rfl, Option.bind_some,
      List.cons_append, atPath?, hitem]
    exact hfound

end Value

theorem Connective.key_ne_scopeKey (connective : Connective) : connective.key ≠ scopeKey := by
  cases connective <;> decide

namespace Query

/-! ### Values of leaves -/

/-- The path leads to the value of a leaf in the written tree, or further into it. -/
inductive InLeaf : Query → List PathStep → Prop
  | leaf {term : String} {value : Value} {scope field : Option String} {fullText : Bool}
    {comparator : Option Comparator} {rest : List PathStep} :
      InLeaf (.leaf term value scope field fullText comparator) (.field term :: rest)
  | hop {term : String} {target : Query} {scope field targetScope : Option String}
    {rest : List PathStep} : InLeaf target rest →
      InLeaf (.hop term target scope field targetScope) (.field term :: rest)
  | group {connective : Connective} {children : List Query} {scope : Option String} {index : Nat}
    {child : Query} {rest : List PathStep} : children[index]? = some child → InLeaf child rest →
      InLeaf (.group connective children scope)
        (.field connective.key :: .position index :: rest)

theorem not_inLeaf_nil (tree : Query) : ¬ tree.InLeaf [] := nofun

/-! ### Hops and terms -/

/-- Every hop says which scope it leads to, and no term is named like the key of scopes. -/
structure Explicit (tree : Query) : Prop where
  hops : ∀ term target declared field, Query.hop term target declared field none ∉ tree.nodes
  terms : ∀ node ∈ tree.nodes, node.term? ≠ some scopeKey

theorem self_mem_nodes (tree : Query) : tree ∈ tree.nodes := by
  cases tree <;> exact List.mem_cons_self

theorem Explicit.root {tree : Query} (h : tree.Explicit) : tree.term? ≠ some scopeKey :=
  h.terms tree tree.self_mem_nodes

theorem Explicit.mono {tree part : Query} (h : tree.Explicit) (hpart : part.nodes ⊆ tree.nodes) :
    part.Explicit :=
  ⟨fun term target declared field hmem => h.hops term target declared field (hpart hmem),
    fun node hnode => h.terms node (hpart hnode)⟩

theorem Explicit.target {term : String} {target : Query} {scope field targetScope : Option String}
    (h : (hop term target scope field targetScope).Explicit) : target.Explicit :=
  h.mono (List.subset_cons_self _ _)

theorem Explicit.child {connective : Connective} {children : List Query} {scope : Option String}
    {child : Query} (h : (group connective children scope).Explicit) (hchild : child ∈ children) :
    child.Explicit := by
  refine h.mono fun node hnode => List.mem_cons_of_mem _ ?_
  rw [nodesList_eq_flatMap]
  exact List.mem_flatMap.2 ⟨child, hchild, hnode⟩

/-! ### Written trees -/

/-- A scope that differs from the one around is written before all else. -/
theorem wireEntries_of_scope {tree : Query} {scope : String} {context : Option String}
    (hscope : tree.scope = some scope) (hcontext : some scope ≠ context)
    (hterm : tree.term? ≠ some scopeKey) :
    tree.wireEntries context = (scopeKey, .string scope) :: tree.wireEntries (some scope) := by
  have hput {key : String} (hkey : key ≠ scopeKey) (value : Value) :
      (scopeEntries context (some scope)).put key value = [(scopeKey, .string scope), (key, value)] := by
    rw [put_scopeEntries hkey, scopeEntries_of_ne hcontext]
    rfl
  cases tree with
  | record => cases hscope
  | leaf term value declared field fullText comparator =>
    obtain rfl : declared = some scope := hscope
    have hkey : term ≠ scopeKey := fun heq => hterm (congrArg some heq)
    cases comparator <;> rw [wireEntries, wireEntries, hput hkey, scopeEntries_self] <;> rfl
  | hop term target declared field targetScope =>
    obtain rfl : declared = some scope := hscope
    have hkey : term ≠ scopeKey := fun heq => hterm (congrArg some heq)
    rw [wireEntries, wireEntries, hput hkey, scopeEntries_self]
    rfl
  | group connective children declared =>
    obtain rfl : declared = some scope := hscope
    rw [wireEntries, wireEntries, hput connective.key_ne_scopeKey, scopeEntries_self]
    rfl

theorem scopeEntries_of_checked {scope : String} {declared : Option String}
    (h : ∀ name ∈ declared, name = scope) : scopeEntries (some scope) declared = [] := by
  cases declared with
  | none => rfl
  | some name =>
    obtain rfl := h name rfl
    exact scopeEntries_self name

/-- In a subtree that is checked and written in one scope, no scope is written. -/
theorem atPath?_wire_of_checkIn {tree : Query} {scope : String} {place : List PathStep}
    (hchecked : tree.checkIn scope = .ok ()) (hexplicit : tree.Explicit)
    (hplace : ¬ tree.InLeaf place) :
    (tree.wire (some scope)).atPath? (place ++ [.field scopeKey]) = none := by
  rw [wire]
  -- Either the recursion stays in the scope, or it enters the scope that a hop leads to, in the
  -- writer and in the check alike.
  induction tree generalizing scope place with
  | record id =>
    refine Value.atPath?_map_eq_none rfl fun name rest value _ hvalue => ?_
    obtain ⟨-, rfl⟩ := Entries.eq_of_get?_singleton hvalue
    exact Value.atPath?_string ..
  | leaf term value declared field fullText comparator =>
    have hentries (name : String) (hname : term ≠ name) :
        Entries.get? (wireEntries (some scope) (leaf term value declared field fullText comparator))
          name = if comparatorKey = name then comparator.map fun c => .string c.sign else none := by
      have hscope := scopeEntries_of_checked (checkIn_leaf_iff.1 hchecked)
      cases comparator <;> simp [wireEntries, hscope, Entries.get?_put, hname]
    refine Value.atPath?_map_eq_none ?_ fun name rest found heq hfound => ?_
    · rw [hentries scopeKey fun heq => hexplicit.root (congrArg some heq), if_neg (by decide)]
    · subst heq
      have hname : term ≠ name := by
        rintro rfl
        exact hplace .leaf
      rw [hentries name hname] at hfound
      split at hfound
      · obtain ⟨c, -, rfl⟩ := Option.map_eq_some_iff.1 hfound
        exact Value.atPath?_string ..
      · cases hfound
  | hop term target declared field targetScope ih =>
    cases targetScope with
    | none => exact absurd (self_mem_nodes _) (hexplicit.hops term target declared field)
    | some targetScope =>
      obtain ⟨hdeclared, htarget⟩ := checkIn_hop_iff.1 hchecked
      have hterm : term ≠ scopeKey := fun heq => hexplicit.root (congrArg some heq)
      rw [wireEntries_hop hterm, scopeEntries_of_checked hdeclared, List.nil_append]
      refine Value.atPath?_map_eq_none ?_ fun name rest found heq hfound => ?_
      · rw [Entries.get?_cons, if_neg hterm, Entries.get?_nil]
      · obtain ⟨rfl, rfl⟩ := Entries.eq_of_get?_singleton hfound
        subst heq
        exact ih htarget hexplicit.target fun hleaf => hplace (.hop hleaf)
  | group connective children declared ih =>
    obtain ⟨hdeclared, hchildren⟩ := checkIn_group_iff.1 hchecked
    have hcontext : declared.or (some scope) = some scope := by
      cases declared with
      | none => rfl
      | some name => rw [Option.some_or, hdeclared name rfl]
    rw [wireEntries_group, scopeEntries_of_checked hdeclared, List.nil_append, hcontext,
      Option.eq_none_iff_forall_ne_some]
    intro found hfound
    obtain ⟨index, rest, item, rfl, hitem, hfound⟩ :=
      (Value.atPath?_items_iff connective.key_ne_scopeKey place found).1 hfound
    rw [List.getElem?_map] at hitem
    obtain ⟨child, hchild, rfl⟩ := Option.map_eq_some_iff.1 hitem
    have hmem := List.mem_of_getElem? hchild
    have hnone := ih child hmem (hchildren child hmem) (hexplicit.child hmem)
      fun hleaf => hplace (.group hchild hleaf)
    cases hnone.symm.trans hfound

/-- In a subtree that is written in another scope than its own, its scope is written at its root and
nowhere else. -/
theorem atPath?_wire_of_scope {tree : Query} {scope : String} {context : Option String}
    {place : List PathStep} (hscope : tree.scope = some scope) (hcontext : some scope ≠ context)
    (hchecked : tree.checkIn scope = .ok ()) (hexplicit : tree.Explicit)
    (hplace : ¬ tree.InLeaf place) (written : Value) :
    (tree.wire context).atPath? (place ++ [.field scopeKey]) = some written ↔
      place = [] ∧ written = .string scope := by
  have hroot := atPath?_wire_of_checkIn hchecked hexplicit tree.not_inLeaf_nil
  have hinner := atPath?_wire_of_checkIn hchecked hexplicit hplace
  rw [wire, List.nil_append, Value.atPath?_field] at hroot
  rw [wire] at hinner
  have hkey : (tree.wireEntries (some scope)).get? scopeKey = none := by
    simpa [Value.atPath?] using hroot
  rw [wire, wireEntries_of_scope hscope hcontext hexplicit.root, Value.atPath?_cons_iff hkey, hinner]
  simp

/-! ### Accepted trees -/

/-- The scopes that a tree declares by itself, with the paths to the nodes that declare them: that of
the root, and in a query over several scopes that of each branch. -/
inductive DeclaresAt : Query → List PathStep → String → Prop
  | root {tree : Query} {scope : String} : tree.scope = some scope → DeclaresAt tree [] scope
  | branch {children : List Query} {index : Nat} {child : Query} {scope : String} :
    children[index]? = some child → child.scope = some scope →
      DeclaresAt (group .any children (some Scope.multi))
        [.field Connective.any.key, .position index] scope

theorem declaresAt_iff_of_ne {tree : Query} {scope : String} (hscope : tree.scope = some scope)
    (hmulti : scope ≠ Scope.multi) {place : List PathStep} {declared : String} :
    tree.DeclaresAt place declared ↔ place = [] ∧ declared = scope := by
  constructor
  · intro h
    cases h with
    | root h => exact ⟨rfl, Option.some.inj (h.symm.trans hscope)⟩
    | branch => exact absurd (Option.some.inj hscope).symm hmulti
  · rintro ⟨rfl, rfl⟩
    exact .root hscope

theorem declaresAt_branches_iff {children : List Query} {place : List PathStep} {declared : String} :
    (group .any children (some Scope.multi)).DeclaresAt place declared ↔
      (place = [] ∧ declared = Scope.multi) ∨ ∃ index child,
        place = [.field Connective.any.key, .position index] ∧ children[index]? = some child ∧
          child.scope = some declared := by
  constructor
  · intro h
    cases h with
    | root h => exact .inl ⟨rfl, (Option.some.inj h).symm⟩
    | branch hchild hscope => exact .inr ⟨_, _, rfl, hchild, hscope⟩
  · rintro (⟨rfl, rfl⟩ | ⟨index, child, rfl, hchild, hscope⟩)
    · exact .root rfl
    · exact .branch hchild hscope

/-- The scopes of a query over several scopes are written at the root and at each branch. -/
theorem atPath?_wire_of_branches {children : List Query} {place : List PathStep}
    (hchildren : ∀ child ∈ children, ∃ scope, child.scope = some scope ∧ scope ≠ Scope.multi ∧
      child.checkIn scope = .ok ())
    (hexplicit : (group .any children (some Scope.multi)).Explicit)
    (hplace : ¬ (group .any children (some Scope.multi)).InLeaf place) (written : Value) :
    (group .any children (some Scope.multi)).wire.atPath? (place ++ [.field scopeKey]) =
        some written ↔
      ∃ scope, (group .any children (some Scope.multi)).DeclaresAt place scope ∧
        written = .string scope := by
  -- A branch is written in the scope `multi`, which is not its own.
  have hbranch {index : Nat} {child : Query} (hchild : children[index]? = some child)
      {rest : List PathStep} (hrest : ¬ child.InLeaf rest) {scope : String}
      (hscope : child.scope = some scope) :
      (child.wire (some Scope.multi)).atPath? (rest ++ [.field scopeKey]) = some written ↔
        rest = [] ∧ written = .string scope := by
    have hmem := List.mem_of_getElem? hchild
    obtain ⟨own, hown, hmulti, hchecked⟩ := hchildren child hmem
    obtain rfl := Option.some.inj (hown.symm.trans hscope)
    exact atPath?_wire_of_scope hscope (by simpa using hmulti) hchecked (hexplicit.child hmem) hrest _
  have hwire : (group .any children (some Scope.multi)).wire =
      .map [(scopeKey, .string Scope.multi), (Connective.any.key,
        .list (children.map fun tree => tree.wire (some Scope.multi)))] := by
    rw [wire, wireEntries_group]
    rfl
  rw [hwire, Value.atPath?_cons_iff rfl, Value.atPath?_items_iff (by decide)]
  simp only [declaresAt_branches_iff, List.getElem?_map, Option.map_eq_some_iff]
  constructor
  · rintro (⟨rfl, rfl⟩ | ⟨index, rest, _, rfl, ⟨child, hchild, rfl⟩, hwritten⟩)
    · exact ⟨Scope.multi, .inl ⟨rfl, rfl⟩, rfl⟩
    · obtain ⟨scope, hscope, -⟩ := hchildren child (List.mem_of_getElem? hchild)
      obtain ⟨rfl, rfl⟩ :=
        (hbranch hchild (fun hleaf => hplace (.group hchild hleaf)) hscope).1 hwritten
      exact ⟨scope, .inr ⟨index, child, rfl, hchild, hscope⟩, rfl⟩
  · rintro ⟨scope, ⟨rfl, rfl⟩ | ⟨index, child, rfl, hchild, hscope⟩, rfl⟩
    · exact .inl ⟨rfl, rfl⟩
    · exact .inr ⟨index, [], _, rfl, ⟨child, hchild, rfl⟩,
        (hbranch hchild child.not_inLeaf_nil hscope).2 ⟨rfl, rfl⟩⟩

/-- The written form of an accepted tree has the key of scopes at the root, with the scope of the root,
at each branch of a query over several scopes, with the scope of the branch, and nowhere else outside
the values of leaves. The root and each branch do declare a scope. -/
theorem scopes_written {tree : Query} (haccepted : tree.checkNesting = .ok ())
    (hexplicit : tree.Explicit) :
    tree.scope.isSome ∧
    (tree.scope = some Scope.multi → ∃ children, tree = group .any children (some Scope.multi) ∧
      ∀ child ∈ children, child.scope.isSome) ∧
    ∀ place, ¬ tree.InLeaf place → ∀ written,
      tree.wire.atPath? (place ++ [.field scopeKey]) = some written ↔
        ∃ scope, tree.DeclaresAt place scope ∧ written = .string scope := by
  rcases checkNesting_eq_ok_iff.1 haccepted with
    ⟨scope, hscope, hmulti, hchecked⟩ | ⟨children, rfl, hchildren⟩
  · refine ⟨by rw [hscope]; rfl, fun h => ?_, fun place hplace written => ?_⟩
    · exact absurd (Option.some.inj (hscope.symm.trans h)) hmulti
    · rw [atPath?_wire_of_scope hscope (by simp) hchecked hexplicit hplace]
      simp only [declaresAt_iff_of_ne hscope hmulti]
      exact ⟨fun ⟨hroot, hwritten⟩ => ⟨scope, ⟨hroot, rfl⟩, hwritten⟩,
        fun ⟨_, ⟨hroot, hdeclared⟩, hwritten⟩ => ⟨hroot, hdeclared ▸ hwritten⟩⟩
  · refine ⟨rfl, fun _ => ⟨children, rfl, fun child hchild => ?_⟩, fun place hplace written => ?_⟩
    · obtain ⟨scope, hscope, -⟩ := hchildren child hchild
      rw [hscope]
      rfl
    · exact atPath?_wire_of_branches hchildren hexplicit hplace written

theorem setMembers_scopes_written :
    setMembers.checkNesting = .ok () ∧ setMembers.Explicit ∧
      setMembers.DeclaresAt [.field "OR", .position 1] "set" ∧
      setMembers.wire.atPath? [.field "OR", .position 1, .field "_scope"] = some (.string "set") ∧
      setMembers.wire.atPath? [.field "OR", .position 1, .field "memberOf", .field "_scope"] =
        none := by
  have haccepted : setMembers.checkNesting = .ok () := by rfl
  have hexplicit : setMembers.Explicit := by
    constructor
    · simp [setMembers, nodes, nodesList]
    · simp [setMembers, nodes, nodesList, term?, scopeKey]
  obtain ⟨-, -, hwritten⟩ := scopes_written haccepted hexplicit
  have hbranch : setMembers.DeclaresAt [.field "OR", .position 1] "set" := .branch rfl rfl
  refine ⟨haccepted, hexplicit, hbranch, ?_, ?_⟩
  · refine (hwritten [.field "OR", .position 1] ?_ (.string "set")).2 ⟨"set", hbranch, rfl⟩
    rintro (_ | _ | ⟨hchild, hleaf⟩)
    exact not_inLeaf_nil _ hleaf
  · rfl

end Query

end ScopedSearch
