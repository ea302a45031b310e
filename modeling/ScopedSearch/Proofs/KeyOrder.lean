import ScopedSearch.Proofs.Compilation
import ScopedSearch.Proofs.Nesting
import Mathlib.Data.List.Perm.Basic

/-!
# The order of keys

The keys of a mapping in criteria may be given in any order, at any depth (`Value.Reorders`). Options,
scopes and comparisons are looked up by key, and every other key makes a condition of its own, so that
reordered criteria compile exactly if the criteria do, and to a tree that differs in the order of
conditions that all have to hold and in nothing else (`Query.Rearranges`,
`Compiler.key_order_rearranges`).
-/

namespace ScopedSearch

/-! ### Values up to the order of keys -/

namespace Value

mutual

/-- The one value becomes the other if the keys of mappings are reordered, at any depth. In a mapping
no key occurs twice. -/
inductive Reorders : Value → Value → Prop
  | null : Reorders .null .null
  | bool (value : Bool) : Reorders (.bool value) (.bool value)
  | int (value : Int) : Reorders (.int value) (.int value)
  | float (value : Binary64) : Reorders (.float value) (.float value)
  | string (value : String) : Reorders (.string value) (.string value)
  | query (tree : Query) : Reorders (.query tree) (.query tree)
  | list {items others : List Value} : List.Forall₂ Reorders items others →
    Reorders (.list items) (.list others)
  | map {entries arranged others : Entries String Value} : entries.keys.Nodup →
    List.Forall₂ ReordersEntry entries arranged → arranged.Perm others →
      Reorders (.map entries) (.map others)

/-- The one entry becomes the other if the keys of mappings in its value are reordered. -/
inductive ReordersEntry : String × Value → String × Value → Prop
  | intro (key : String) {value other : Value} : Reorders value other →
    ReordersEntry (key, value) (key, other)

end

variable {entries others : Entries String Value}

theorem keys_eq_of_forall₂ (h : List.Forall₂ ReordersEntry entries others) :
    entries.keys = others.keys := by
  induction h with
  | nil => rfl
  | cons hentry _ ih =>
    obtain ⟨key, -⟩ := hentry
    exact congrArg (key :: ·) ih

theorem Reorders.keys_perm (h : (Value.map entries).Reorders (.map others)) :
    entries.keys.Perm others.keys := by
  cases h with
  | map _ hentries hperm =>
    rw [keys_eq_of_forall₂ hentries]
    exact hperm.map _

-- The recursion is on the values, as the relation has those of lists and mappings in a `List.Forall₂`.
mutual

theorem reorders_symm : ∀ (value : Value) {other : Value},
    value.Reorders other → other.Reorders value
  | .null, _, h => by cases h; exact .null
  | .bool value, _, h => by cases h; exact .bool value
  | .int value, _, h => by cases h; exact .int value
  | .float value, _, h => by cases h; exact .float value
  | .string value, _, h => by cases h; exact .string value
  | .query tree, _, h => by cases h; exact .query tree
  | .list items, _, h => by
    cases h with
    | list hitems => exact .list (forall₂_symm items hitems)
  | .map entries, _, h => by
    cases h with
    | map hnodup hentries hperm =>
      have hkeys := Reorders.keys_perm (.map hnodup hentries hperm)
      obtain ⟨middle, hmiddle, hback⟩ :=
        List.perm_comp_forall₂ hperm.symm (forall₂_entries_symm entries hentries)
      exact .map (hkeys.nodup_iff.1 hnodup) hmiddle hback

theorem forall₂_symm : ∀ (items : List Value) {others : List Value},
    List.Forall₂ Reorders items others → List.Forall₂ Reorders others items
  | [], _, h => by cases h; exact .nil
  | item :: rest, _, h => by
    cases h with
    | cons hitem hrest => exact .cons (reorders_symm item hitem) (forall₂_symm rest hrest)

theorem forall₂_entries_symm : ∀ (entries : List (String × Value)) {others : List (String × Value)},
    List.Forall₂ ReordersEntry entries others → List.Forall₂ ReordersEntry others entries
  | [], _, h => by cases h; exact .nil
  | (key, value) :: rest, _, h => by
    cases h with
    | cons hentry hrest =>
      obtain ⟨_, hvalue⟩ := hentry
      exact .cons (.intro key (reorders_symm value hvalue)) (forall₂_entries_symm rest hrest)

end

theorem Reorders.symm {value other : Value} (h : value.Reorders other) : other.Reorders value :=
  reorders_symm value h

end Value

/-- Without a key twice, a key is found with the value of its pair. -/
theorem Entries.get?_eq_some_iff {κ α : Type} [DecidableEq κ] {entries : Entries κ α}
    (hnodup : entries.keys.Nodup) {key : κ} {value : α} :
    entries.get? key = some value ↔ (key, value) ∈ entries :=
  ⟨mem_of_get?, get?_of_mem hnodup⟩

/-- Without a key twice, the order of the pairs makes no difference to what is found. -/
theorem Entries.get?_of_perm {κ α : Type} [DecidableEq κ] {entries others : Entries κ α}
    (hnodup : entries.keys.Nodup) (h : entries.Perm others) (key : κ) :
    entries.get? key = others.get? key := by
  have hkeys : others.keys.Nodup := (h.map Prod.fst).nodup_iff.1 hnodup
  refine Option.ext fun value => ?_
  rw [get?_eq_some_iff hnodup, get?_eq_some_iff hkeys, h.mem_iff]

namespace Value

variable {entries others : Entries String Value}

theorem rel_get?_of_forall₂ (h : List.Forall₂ ReordersEntry entries others) (key : String) :
    Option.Rel Reorders (entries.get? key) (others.get? key) := by
  induction h with
  | nil => exact .none
  | cons hentry _ ih =>
    obtain ⟨name, hvalue⟩ := hentry
    rw [Entries.get?_cons, Entries.get?_cons]
    split
    · exact .some hvalue
    · exact ih

theorem Reorders.rel_get? (h : (Value.map entries).Reorders (.map others)) (key : String) :
    Option.Rel Reorders (entries.get? key) (others.get? key) := by
  cases h with
  | map hnodup hentries hperm =>
    rw [keys_eq_of_forall₂ hentries] at hnodup
    rw [← Entries.get?_of_perm hnodup hperm]
    exact rel_get?_of_forall₂ hentries key

/-- What is given for a key becomes what is given for it after reordering. -/
theorem Reorders.rel_given? (h : (Value.map entries).Reorders (.map others)) (key : String) :
    Option.Rel Reorders (given? entries key) (given? others key) := by
  have hfound := h.rel_get? key
  unfold given?
  generalize entries.get? key = found at hfound ⊢
  generalize others.get? key = other at hfound ⊢
  cases hfound with
  | none => exact .none
  | some hvalue =>
    cases hvalue with
    | null => exact .none
    | list hitems => exact .some (.list hitems)
    | map hnodup hentries hperm => exact .some (.map hnodup hentries hperm)
    | _ => exact .some (by constructor)

theorem isSome_eq_of_rel {value other : Option Value} (h : Option.Rel Reorders value other) :
    value.isSome = other.isSome := by
  cases h <;> rfl

theorem Reorders.exists_map {other : Value} (h : (Value.map entries).Reorders other) :
    ∃ others, other = .map others := by
  cases h
  exact ⟨_, rfl⟩

theorem Reorders.eq_of_string {text : String} {other : Value}
    (h : (Value.string text).Reorders other) : other = .string text := by
  cases h
  rfl

/-- A text that is given for a key, if anything is, is given for it after reordering. -/
theorem Reorders.given?_eq {key : String} (h : (Value.map entries).Reorders (.map others))
    (htext : ∀ value ∈ given? entries key, ∃ text, value = .string text) :
    given? others key = given? entries key := by
  have hgiven := h.rel_given? key
  generalize given? others key = other at hgiven ⊢
  generalize given? entries key = value at hgiven htext ⊢
  cases hgiven with
  | none => rfl
  | some hvalue =>
    obtain ⟨text, rfl⟩ := htext _ rfl
    rw [hvalue.eq_of_string]

/-- There is one order of a single key. -/
theorem Reorders.eq_of_singleton {key text : String} {other : Value}
    (h : (Value.map [(key, .string text)]).Reorders other) : other = .map [(key, .string text)] := by
  cases h with
  | map _ hentries hperm =>
    obtain ⟨_, _, ⟨_, hvalue⟩, ⟨⟩, rfl⟩ := List.forall₂_cons_left_iff.1 hentries
    rw [hvalue.eq_of_string] at hperm
    rw [hperm.singleton_eq]

theorem Reorders.eq_of_recordOf {term : Term} {value other : Value} {id : RecordId}
    (h : value.Reorders other) (hid : term.recordOf value = .ok id) : other = value := by
  obtain rfl | rfl | rfl := Term.recordOf_eq_ok_iff.1 hid
  · cases h
    rfl
  · exact h.eq_of_string
  · exact h.eq_of_singleton

theorem Reorders.eq_of_textOf {term : Term} {value other text : Value}
    (h : value.Reorders other) (htext : term.textOf value = .ok text) : other = value := by
  obtain ⟨_, -, rfl, -⟩ := Term.textOf_eq_ok_iff.1 htext
  exact h.eq_of_string

theorem Reorders.eq_of_numberOf {term : Term} {value other number : Value}
    (h : value.Reorders other) (hnumber : term.numberOf value = .ok number) : other = value := by
  cases h with
  | list | map => simp [Term.numberOf] at hnumber
  | _ => rfl

/-- What a leaf matches a field with has no keys to reorder. -/
theorem Reorders.eq_of_coerce? {term : Term} {value other coerced : Value}
    (h : value.Reorders other) (hcoerced : term.coerce? value = some coerced) : other = value := by
  unfold Term.coerce? at hcoerced
  cases hrole : term.role with
  | documentId | similar =>
    simp only [hrole, Option.map_eq_some_iff, toOption_eq_some_iff] at hcoerced
    obtain ⟨id, hid, -⟩ := hcoerced
    exact h.eq_of_recordOf hid
  | indexed =>
    simp only [hrole, toOption_eq_some_iff] at hcoerced
    split at hcoerced
    · exact h.eq_of_numberOf hcoerced
    · exact h.eq_of_textOf hcoerced
  | text =>
    simp only [hrole, toOption_eq_some_iff] at hcoerced
    exact h.eq_of_textOf hcoerced
  | hop | related => simp [hrole] at hcoerced

/-- A comparison is a text. -/
theorem eq_of_comparatorOf {term : Term} {comparator other : Option Value}
    {sign : Option Comparator} (h : Option.Rel Reorders comparator other)
    (hsign : term.comparatorOf comparator = .ok sign) : other = comparator := by
  obtain ⟨rfl, -⟩ := Term.comparatorOf_eq_ok_iff.1 hsign
  cases sign with
  | none =>
    cases h
    rfl
  | some c =>
    cases h with
    | some hvalue => rw [hvalue.eq_of_string]; rfl

end Value

/-! ### Trees up to the order of conditions -/

namespace Query

/-- The one tree becomes the other if the children of *all* groups are put in another order. -/
inductive Rearranges : Query → Query → Prop
  | record (id : RecordId) : Rearranges (record id) (record id)
  | leaf (term : String) (value : Value) (scope field : Option String) (fullText : Bool)
    (comparator : Option Comparator) : Rearranges (leaf term value scope field fullText comparator)
      (leaf term value scope field fullText comparator)
  | hop (term : String) {target other : Query} (scope field targetScope : Option String) :
    Rearranges target other →
      Rearranges (hop term target scope field targetScope) (hop term other scope field targetScope)
  | any {children others : List Query} (scope : Option String) :
    List.Forall₂ Rearranges children others →
      Rearranges (group .any children scope) (group .any others scope)
  | all {children arranged others : List Query} (scope : Option String) :
    List.Forall₂ Rearranges children arranged → arranged.Perm others →
      Rearranges (group .all children scope) (group .all others scope)

theorem Rearranges.group (connective : Connective) {children others : List Query}
    (scope : Option String) (h : List.Forall₂ Rearranges children others) :
    (group connective children scope).Rearranges (group connective others scope) := by
  cases connective with
  | all => exact .all scope h (.refl _)
  | any => exact .any scope h

theorem Rearranges.refl (tree : Query) : tree.Rearranges tree := by
  induction tree with
  | record id => exact .record id
  | leaf term value scope field fullText comparator =>
    exact .leaf term value scope field fullText comparator
  | hop term target scope field targetScope ih => exact .hop term scope field targetScope ih
  | group connective children scope ih => exact .group connective scope (List.forall₂_same.2 ih)

theorem Rearranges.chain {terminal other : Query} (h : terminal.Rearranges other) (chain : Chain) :
    (chain.query terminal).Rearranges (chain.query other) := by
  induction chain with
  | nil => exact h
  | cons hop rest ih => exact .hop hop.name _ _ _ ih

/-- The chains of a related list all lead to the same terminal. -/
theorem Rearranges.ofChains {terminal other : Query} (h : terminal.Rearranges other) (scope : Scope)
    (groups : List (List Chain)) :
    (ofChains scope groups terminal).Rearranges (ofChains scope groups other) := by
  refine .any _ ?_
  rw [List.forall₂_map_left_iff, List.forall₂_map_right_iff, List.forall₂_same]
  intro chains _
  refine .any _ ?_
  rw [List.forall₂_map_left_iff, List.forall₂_map_right_iff, List.forall₂_same]
  exact fun chain _ => h.chain chain

/-- Conditions that all have to hold may be rearranged and put in another order. -/
theorem rearranges_conjunction {scope : Scope} {trees arranged others : List Query}
    (htrees : List.Forall₂ Rearranges trees arranged) (hperm : arranged.Perm others) :
    (Compiler.conjunction scope trees).Rearranges (Compiler.conjunction scope others) := by
  match htrees with
  | .nil =>
    obtain rfl := hperm.nil_eq
    exact .refl _
  | .cons htree .nil =>
    obtain rfl := hperm.singleton_eq
    exact htree
  | .cons hfirst (.cons hsecond hrest) =>
    match others, hperm.length_eq with
    | _ :: _ :: _, _ => exact .all _ (.cons hfirst (.cons hsecond hrest)) hperm

end Query

/-! ### Options of reordered mappings -/

namespace Value

variable {scope : Scope} {entries others : Entries String Value}

theorem Reorders.termKeys_perm (h : (Value.map entries).Reorders (.map others)) :
    (Compiler.termKeys entries).Perm (Compiler.termKeys others) :=
  h.keys_perm.filter _

theorem Reorders.exists_comparisonOf {comparator : Option Value}
    (h : (Value.map entries).Reorders (.map others))
    (hcomparison : Compiler.comparisonOf scope entries = .ok comparator) :
    ∃ other, Compiler.comparisonOf scope others = .ok other ∧
      Option.Rel Reorders comparator other := by
  have hkeys := h.termKeys_perm
  have hgiven := h.rel_given? comparatorKey
  obtain ⟨hne, hknown, halone, rfl⟩ := Compiler.comparisonOf_eq_ok_iff.1 hcomparison
  refine ⟨_, Compiler.comparisonOf_eq_ok_iff.2 ⟨?_, ?_, fun hsome => ?_, rfl⟩, hgiven⟩
  · exact fun hnil => hne (hkeys.trans (.of_eq hnil)).eq_nil
  · exact fun key hkey => hknown key (hkeys.mem_iff.2 hkey)
  · obtain ⟨hlength, hconnective⟩ := halone (by rwa [isSome_eq_of_rel hgiven])
    exact ⟨hkeys.length_eq ▸ hlength, fun key hkey => hconnective key (hkeys.mem_iff.2 hkey)⟩

theorem Reorders.checkTargetScope (h : (Value.map entries).Reorders (.map others))
    (hscope : Compiler.checkTargetScope scope entries = .ok ()) :
    Compiler.checkTargetScope scope others = .ok () := by
  have hdeclared := Compiler.checkTargetScope_eq_ok_iff.1 hscope
  rw [Compiler.checkTargetScope, h.given?_eq fun value hvalue => ⟨_, hdeclared value hvalue⟩]
  exact hscope

theorem Reorders.checkConditionScope (h : (Value.map entries).Reorders (.map others))
    (hscope : Compiler.checkConditionScope scope entries = .ok ()) :
    Compiler.checkConditionScope scope others = .ok () :=
  Compiler.checkConditionScope_eq_ok_iff.2
    (h.checkTargetScope (Compiler.checkConditionScope_eq_ok_iff.1 hscope))

theorem Reorders.scopeOfCriteria {expected : Option String} {text : String}
    (h : (Value.map entries).Reorders (.map others))
    (hscope : Compiler.scopeOfCriteria expected entries = .ok (.string text)) :
    Compiler.scopeOfCriteria expected others = .ok (.string text) := by
  have hdeclared : ∀ declared ∈ given? entries scopeKey, declared = .string text := by
    intro declared hmem
    have hgiven := Compiler.given?_of_scopeOfCriteria hscope
    rw [Option.mem_def.1 hmem] at hgiven
    exact Option.some.inj hgiven
  unfold Compiler.scopeOfCriteria at hscope ⊢
  rwa [h.given?_eq fun value hvalue => ⟨_, hdeclared value hvalue⟩]

theorem Reorders.isIdMapping_eq (h : (Value.map entries).Reorders (.map others)) :
    isIdMapping others = isIdMapping entries := by
  have hkeys : others.keys = ["id"] ↔ entries.keys = ["id"] := by
    rw [← List.perm_singleton, ← List.perm_singleton]
    exact ⟨h.keys_perm.trans, h.keys_perm.symm.trans⟩
  simp only [isIdMapping, hkeys]

end Value

/-! ### What is read -/

namespace Registry

variable {registry : Registry}

/-- Entries in another order are read as the same trees in another order. -/
theorem ReadsEntries.perm {scope : Scope} {comparator : Option Value}
    {entries others : List (String × Value)} {trees : List Query} (hperm : entries.Perm others)
    (h : registry.ReadsEntries scope comparator entries trees) :
    ∃ arranged, registry.ReadsEntries scope comparator others arranged ∧ trees.Perm arranged := by
  induction hperm generalizing trees with
  | nil => exact ⟨trees, h, .refl _⟩
  | cons _ _ ih =>
    cases h with
    | option hoption hrest =>
      obtain ⟨arranged, hothers, htrees⟩ := ih hrest
      exact ⟨arranged, .option hoption hothers, htrees⟩
    | condition hoption hcondition hrest =>
      obtain ⟨arranged, hothers, htrees⟩ := ih hrest
      exact ⟨_, .condition hoption hcondition hothers, htrees.cons _⟩
  | swap =>
    cases h with
    | option hfirst hrest =>
      cases hrest with
      | option hsecond hrest => exact ⟨_, .option hsecond (.option hfirst hrest), .refl _⟩
      | condition hsecond hcondition hrest =>
        exact ⟨_, .condition hsecond hcondition (.option hfirst hrest), .refl _⟩
    | condition hfirst hcondition hrest =>
      cases hrest with
      | option hsecond hrest =>
        exact ⟨_, .option hsecond (.condition hfirst hcondition hrest), .refl _⟩
      | condition hsecond hother hrest =>
        exact ⟨_, .condition hsecond hother (.condition hfirst hcondition hrest), .swap _ _ _⟩
  | trans _ _ ih₁ ih₂ =>
    obtain ⟨middle, hmiddle, hfirst⟩ := ih₁ h
    obtain ⟨arranged, hothers, hsecond⟩ := ih₂ hmiddle
    exact ⟨arranged, hothers, hfirst.trans hsecond⟩

-- The induction is on the derivation: each rule applies again to the reordered value. Only the rule of
-- mappings puts trees in another order.
mutual

theorem ReadsTarget.reorder {scope : Scope} {value other : Value} {tree : Query} :
    registry.ReadsTarget scope value tree → value.Reorders other →
      ∃ arranged, registry.ReadsTarget scope other arranged ∧ tree.Rearranges arranged
  | .text id, h => by
    rw [h.eq_of_string]
    exact ⟨_, .text id, .refl _⟩
  | .record id, h => by
    cases h
    exact ⟨_, .record id, .refl _⟩
  | .tree hrecord hscope, h => by
    cases h
    exact ⟨_, .tree hrecord hscope, .refl _⟩
  | .named id, h => by
    rw [h.eq_of_singleton]
    exact ⟨_, .named id, .refl _⟩
  | .mapping hid hscope hmapping, h => by
    obtain ⟨others, rfl⟩ := h.exists_map
    obtain ⟨arranged, hothers, htree⟩ := hmapping.reorder h
    exact ⟨arranged, .mapping (h.isIdMapping_eq.trans hid) (h.checkTargetScope hscope) hothers, htree⟩

theorem ReadsMapping.reorder {scope : Scope} {entries others : Entries String Value}
    {tree : Query} : registry.ReadsMapping scope entries tree →
      (Value.map entries).Reorders (.map others) →
        ∃ arranged, registry.ReadsMapping scope others arranged ∧ tree.Rearranges arranged
  | .intro hcomparison hentries, h => by
    obtain ⟨comparator, hcomparison, hrel⟩ := h.exists_comparisonOf hcomparison
    cases h with
    | map _ hforall hperm =>
      obtain ⟨trees, hmiddle, htrees⟩ := hentries.reorder hforall hrel
      obtain ⟨arranged, hothers, harranged⟩ := hmiddle.perm hperm
      exact ⟨_, .intro hcomparison hothers, Query.rearranges_conjunction htrees harranged⟩

theorem ReadsEntries.reorder {scope : Scope} {comparator other : Option Value}
    {entries others : List (String × Value)} {trees : List Query} :
    registry.ReadsEntries scope comparator entries trees →
      List.Forall₂ Value.ReordersEntry entries others →
        Option.Rel Value.Reorders comparator other →
          ∃ arranged, registry.ReadsEntries scope other others arranged ∧
            List.Forall₂ Query.Rearranges trees arranged
  | .nil, .nil, _ => ⟨[], .nil, .nil⟩
  | .option hoption hrest, .cons (.intro _ _) hothers, hcomparator => by
    obtain ⟨arranged, hothers, htrees⟩ := hrest.reorder hothers hcomparator
    exact ⟨arranged, .option hoption hothers, htrees⟩
  | .condition hoption hcondition hrest, .cons (.intro _ hvalue) hothers, hcomparator => by
    obtain ⟨first, hfirst, htree⟩ := hcondition.reorder hvalue hcomparator
    obtain ⟨arranged, hothers, htrees⟩ := hrest.reorder hothers hcomparator
    exact ⟨first :: arranged, .condition hoption hfirst hothers, .cons htree htrees⟩

theorem ReadsCondition.reorder {scope : Scope} {comparator otherComparator : Option Value}
    {key : String} {value other : Value} {tree : Query} :
    registry.ReadsCondition scope comparator key value tree → value.Reorders other →
      Option.Rel Value.Reorders comparator otherComparator →
        ∃ arranged, registry.ReadsCondition scope otherComparator key other arranged ∧
          tree.Rearranges arranged
  | .group connective hitems hlist, .list hothers, _ => by
    obtain ⟨arranged, hlist, htrees⟩ := hlist.reorder hothers
    refine ⟨_, .group connective ?_ hlist, .group connective _ htrees⟩
    rintro rfl
    exact hitems (List.forall₂_nil_right_iff.1 hothers)
  | .leaf term hname hterm hfield hcoerced hcomparator hsign, h, hrel => by
    rw [h.eq_of_coerce? hcoerced, Value.eq_of_comparatorOf hrel hsign]
    exact ⟨_, .leaf term hname hterm hfield hcoerced hcomparator hsign, .refl _⟩
  | .hop hop hname hmem htarget, h, .none => by
    obtain ⟨target, htarget, htree⟩ := htarget.reorder h
    exact ⟨_, .hop hop hname hmem htarget, .hop _ _ _ _ htree⟩
  | .related term hname hterm hrole hgroups htarget, h, .none => by
    obtain ⟨terminal, htarget, htree⟩ := htarget.reorder h
    exact ⟨_, .related term hname hterm hrole hgroups htarget, htree.ofChains _ _⟩

theorem ReadsList.reorder {scope : Scope} {items others : List Value} {trees : List Query} :
    registry.ReadsList scope items trees → List.Forall₂ Value.Reorders items others →
      ∃ arranged, registry.ReadsList scope others arranged ∧
        List.Forall₂ Query.Rearranges trees arranged
  | .nil, .nil => ⟨[], .nil, .nil⟩
  | .cons hscope hmapping hrest, .cons hitem hothers => by
    obtain ⟨entries, rfl⟩ := hitem.exists_map
    obtain ⟨first, hfirst, htree⟩ := hmapping.reorder hitem
    obtain ⟨arranged, hothers, htrees⟩ := hrest.reorder hothers
    exact ⟨first :: arranged, .cons (hitem.checkConditionScope hscope) hfirst hothers,
      .cons htree htrees⟩

end

theorem ReadsBranches.reorder {branches others : List Value} {trees : List Query}
    (h : registry.ReadsBranches branches trees) (hothers : List.Forall₂ Value.Reorders branches others) :
    ∃ arranged, registry.ReadsBranches others arranged ∧
      List.Forall₂ Query.Rearranges trees arranged := by
  induction h generalizing others with
  | nil =>
    cases hothers
    exact ⟨[], .nil, .nil⟩
  | @cons scope entries rest tree trees hscope hmapping _ ih =>
    cases hothers with
    | cons hbranch hothers =>
      obtain ⟨reordered, rfl⟩ := hbranch.exists_map
      obtain ⟨first, hfirst, htree⟩ := hmapping.reorder hbranch
      obtain ⟨arranged, hothers, htrees⟩ := ih hothers
      have htext : ∀ value ∈ given? entries scopeKey, ∃ text, value = .string text := by
        rw [hscope]
        rintro _ ⟨⟩
        exact ⟨scope.name, rfl⟩
      exact ⟨first :: arranged, .cons ((hbranch.given?_eq htext).trans hscope) hfirst hothers,
        .cons htree htrees⟩

theorem ReadsCriteria.reorder {expected : Option String} {value other : Value} {tree : Query}
    (h : registry.ReadsCriteria expected value tree) (hother : value.Reorders other) :
    ∃ arranged, registry.ReadsCriteria expected other arranged ∧ tree.Rearranges arranged := by
  obtain ⟨others, rfl⟩ : ∃ others, other = .map others := by
    cases h <;> exact hother.exists_map
  cases h with
  | mapping hscope hmapping =>
    obtain ⟨arranged, hothers, htree⟩ := hmapping.reorder hother
    exact ⟨arranged, .mapping (hother.scopeOfCriteria hscope) hothers, htree⟩
  | multi hscope hkeys hget hne hbranches =>
    have hfound := hother.rel_get? Connective.any.key
    rw [hget] at hfound
    generalize hvalue : Entries.get? others Connective.any.key = found at hfound
    have hkeys := (hother.keys_perm.filter _).symm.trans (.of_eq hkeys)
    cases hfound with
    | some hlist =>
      cases hlist with
      | list hothers =>
        obtain ⟨arranged, harranged, htrees⟩ := hbranches.reorder hothers
        refine ⟨_, .multi (hother.scopeOfCriteria hscope) hkeys.eq_singleton hvalue ?_ harranged,
          .any _ htrees⟩
        rintro rfl
        exact hne (List.forall₂_nil_right_iff.1 hothers)

end Registry

/-- The order of keys matters for nothing but the order of conditions. Reordered criteria compile
exactly if the criteria do, and to a tree that is the same but for the order of the children of its
*all* groups. -/
theorem Compiler.key_order_rearranges (compiler : Compiler) {value other : Value}
    (h : value.Reorders other) (expected : Option String) :
    ((∃ tree, (compiler.criteria value expected).outcome = .ok tree) ↔
      ∃ tree, (compiler.criteria other expected).outcome = .ok tree) ∧
    ∀ tree arranged, (compiler.criteria value expected).outcome = .ok tree →
      (compiler.criteria other expected).outcome = .ok arranged → tree.Rearranges arranged := by
  refine ⟨⟨fun ⟨tree, htree⟩ => ?_, fun ⟨tree, htree⟩ => ?_⟩, fun tree arranged htree harranged => ?_⟩
  · obtain ⟨arranged, hother, -⟩ := (criteria_eq_ok_iff.1 htree).reorder h
    exact ⟨arranged, criteria_eq_ok_iff.2 hother⟩
  · obtain ⟨arranged, hvalue, -⟩ := (criteria_eq_ok_iff.1 htree).reorder h.symm
    exact ⟨arranged, criteria_eq_ok_iff.2 hvalue⟩
  · obtain ⟨found, hother, hrearranges⟩ := (criteria_eq_ok_iff.1 htree).reorder h
    have hsame : found = arranged :=
      Except.ok.inj ((criteria_eq_ok_iff.2 hother).symm.trans harranged)
    exact hsame ▸ hrearranges

/-- The criteria on works that mention the sea, in another order at two depths. -/
def seaReordered : Value :=
  .map [("createdBy", .map [(comparatorKey, .string ">="), ("startYear", .string "1850")]),
    (scopeKey, .string "work"), ("text", .string "sea")]

theorem seaCriteria_reorders : seaCriteria.Reorders seaReordered := by
  have hmaker : (Value.map [("startYear", .string "1850"), (comparatorKey, .string ">=")]).Reorders
      (.map [(comparatorKey, .string ">="), ("startYear", .string "1850")]) :=
    .map (by decide) (.cons (.intro _ (.string _)) (.cons (.intro _ (.string _)) .nil)) (.swap _ _ _)
  refine .map (by decide) (.cons (.intro _ (.string _)) (.cons (.intro _ (.string _))
    (.cons (.intro _ hmaker) .nil))) ?_
  exact List.perm_append_singleton _ [_, _]

theorem Compiler.seaReordered_rearranges :
    seaCriteria.Reorders seaReordered ∧
      ((Compiler.mk .artists true).criteria seaCriteria).outcome = .ok seaQuery ∧
      ∃ arranged, ((Compiler.mk .artists true).criteria seaReordered).outcome = .ok arranged ∧
        seaQuery.Rearranges arranged := by
  obtain ⟨haccepted, hrearranges⟩ :=
    key_order_rearranges (Compiler.mk .artists true) seaCriteria_reorders none
  obtain ⟨arranged, harranged⟩ := haccepted.1 ⟨seaQuery, seaCriteria_compiled⟩
  exact ⟨seaCriteria_reorders, seaCriteria_compiled, arranged, harranged,
    hrearranges seaQuery arranged seaCriteria_compiled harranged⟩

end ScopedSearch
