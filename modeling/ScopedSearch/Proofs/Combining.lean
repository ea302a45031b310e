import ScopedSearch.Estimate
import Mathlib.Data.List.Forall2
import Mathlib.Data.List.Induction
import Mathlib.Data.List.Nodup

/-!
# Combined estimates

Keys that share a template are combined under one key, each template is used once, and the answers are
split again. Every template stands for the keys that need it (`Estimate.keysByTemplate_eq`), so that
the first error of the templates is the first error of the keys (`Estimate.combine_eq_error_iff`). A
combined key is cut into the keys that it was made of (`Text.splitText_intercalate`), and all combined
keys together are cut into all keys (`Estimate.keys_split`): each gets the answer of its own template.
-/

namespace ScopedSearch

open ScopedSearch.Text

namespace Estimate

variable {library : Library} {id : Value} {keyTemplates : Entries String String}

/-! ### The keys of each template -/

/-- The keys that need a template. -/
def keysOf (keyTemplates : Entries String String) (name : String) : List String :=
  Entries.keys (keyTemplates.filter fun entry => entry.2 = name)

/-- The templates that keys need, in order of first occurrence. -/
def namesOf (keyTemplates : Entries String String) : List String :=
  (keysByTemplate keyTemplates).keys

/-- The key under which those of a template are combined. -/
def joinedKey (keyTemplates : Entries String String) (name : String) : String :=
  ",".intercalate (keysOf keyTemplates name)

/-- The combined keys. -/
def joinedKeys (keyTemplates : Entries String String) : List String :=
  (namesOf keyTemplates).map (joinedKey keyTemplates)

/-- The combined keys, with the template of each. -/
def joinedTemplates (keyTemplates : Entries String String) : Entries String String :=
  (namesOf keyTemplates).map fun name => (joinedKey keyTemplates name, name)

theorem keys_joinedTemplates : (joinedTemplates keyTemplates).keys = joinedKeys keyTemplates :=
  List.map_map

theorem values_joinedTemplates :
    (joinedTemplates keyTemplates).values = namesOf keyTemplates :=
  List.map_map.trans (List.map_id _)

theorem mem_joinedTemplates {joined name : String} :
    (joined, name) ∈ joinedTemplates keyTemplates ↔
      name ∈ namesOf keyTemplates ∧ joined = joinedKey keyTemplates name := by
  unfold joinedTemplates
  rw [List.mem_map]
  constructor
  · rintro ⟨_, hname, heq⟩
    cases heq
    exact ⟨hname, rfl⟩
  · rintro ⟨hname, rfl⟩
    exact ⟨name, hname, rfl⟩

theorem mem_keysOf {key name : String} : key ∈ keysOf keyTemplates name ↔ (key, name) ∈ keyTemplates := by
  simp [keysOf, Entries.keys]

theorem keysOf_concat (key name other : String) :
    keysOf (keyTemplates ++ [(key, name)]) other =
      if name = other then keysOf keyTemplates other ++ [key] else keysOf keyTemplates other := by
  unfold keysOf Entries.keys
  rw [List.filter_append, List.map_append]
  split
  · next h => simp [h]
  · next h => simp [h]

theorem keysByTemplate_concat (key name : String) :
    keysByTemplate (keyTemplates ++ [(key, name)]) =
      addKey (keysByTemplate keyTemplates) key name := by
  rw [keysByTemplate, List.foldl_append]
  rfl

theorem namesOf_concat (key name : String) :
    namesOf (keyTemplates ++ [(key, name)]) =
      if name ∈ namesOf keyTemplates then namesOf keyTemplates
      else namesOf keyTemplates ++ [name] := by
  rw [namesOf, keysByTemplate_concat, addKey, Entries.keys_put]
  rfl

theorem mem_namesOf {name : String} : name ∈ namesOf keyTemplates ↔ name ∈ keyTemplates.values := by
  induction keyTemplates using List.reverseRecOn with
  | nil => rfl
  | append_singleton front last ih =>
    rw [namesOf_concat, Entries.values, List.map_append, List.mem_append, ← Entries.values, ← ih]
    split
    · next h => grind
    · simp

theorem nodup_namesOf : (namesOf keyTemplates).Nodup := by
  induction keyTemplates using List.reverseRecOn with
  | nil => exact List.nodup_nil
  | append_singleton front last ih =>
    rw [namesOf_concat]
    split
    · exact ih
    · next h =>
      rw [← List.concat_eq_append]
      exact ih.concat h

/-- The keys that are collected for a template are those that need it. -/
theorem get?_keysByTemplate (name : String) :
    ((keysByTemplate keyTemplates).get? name).getD [] = keysOf keyTemplates name := by
  induction keyTemplates using List.reverseRecOn with
  | nil => rfl
  | append_singleton front last ih =>
    rw [keysByTemplate_concat, addKey, Entries.get?_put, keysOf_concat]
    split
    · next h => rw [← ih, h, Option.getD_some]
    · exact ih

/-- Every template stands for the keys that need it. -/
theorem keysByTemplate_eq : keysByTemplate keyTemplates =
    (namesOf keyTemplates).map fun name => (name, keysOf keyTemplates name) := by
  have hgroup : ∀ group ∈ keysByTemplate keyTemplates,
      (group.1, keysOf keyTemplates group.1) = group := by
    rintro ⟨name, keys⟩ hmem
    have hget := Entries.get?_of_mem nodup_namesOf hmem
    rw [← get?_keysByTemplate, hget, Option.getD_some]
  rw [namesOf, Entries.keys, List.map_map]
  exact ((List.map_congr_left hgroup).trans (List.map_id _)).symm

/-- The first of the templates with some result has it for the first of the keys. -/
theorem findSome?_namesOf {α : Type} (f : String → Option α) :
    (namesOf keyTemplates).findSome? f = keyTemplates.values.findSome? f := by
  induction keyTemplates using List.reverseRecOn with
  | nil => rfl
  | append_singleton front last ih =>
    rw [namesOf_concat, Entries.values, List.map_append, List.findSome?_append, ← Entries.values, ← ih]
    split
    · next h =>
      cases hfirst : (namesOf front).findSome? f with
      | some result => rfl
      | none =>
        have hlast := List.findSome?_eq_none_iff.1 hfirst _ h
        simp [hlast]
    · rw [List.findSome?_append]
      rfl

/-! ### The queries of keys -/

/-- The error of a template for the record that a value names. -/
def errorOf (library : Library) (id : Value) (name : String) : Option Error :=
  match library.buildWire name id with
  | .error error => some error
  | .ok _ => none

/-- Queries fail with the error of the first template that has one. -/
theorem queries_eq_error_iff {keys : List (String × String)} {error : Error} :
    queries library id keys = .error error ↔
      (Entries.values keys).findSome? (errorOf library id) = some error := by
  induction keys with
  | nil => simp [queries, Entries.values]
  | cons first rest ih =>
    obtain ⟨key, name⟩ := first
    rw [Entries.values, List.map_cons, List.findSome?_cons, ← Entries.values, errorOf, queries]
    cases library.buildWire name id with
    | error first => simp [bind, Except.bind]
    | ok wire =>
      rw [← ih]
      cases queries library id rest <;> simp [bind, Except.bind, pure, Except.pure]

/-- Without an error, there is the wire form of its template for each key. -/
theorem queries_eq_ok_iff {keys : List (String × String)} {wires : List (String × Value)} :
    queries library id keys = .ok wires ↔
      List.Forall₂ (fun key wire => wire.1 = key.1 ∧ library.buildWire key.2 id = .ok wire.2)
        keys wires := by
  induction keys generalizing wires with
  | nil =>
    rw [queries, List.forall₂_nil_left_iff]
    exact ⟨fun h => by cases h; rfl, fun h => by rw [h]⟩
  | cons first rest ih =>
    obtain ⟨key, name⟩ := first
    rw [queries, List.forall₂_cons_left_iff]
    constructor
    · intro h
      obtain ⟨wire, hwire, h⟩ := bind_eq_ok_iff.1 h
      obtain ⟨others, hothers, h⟩ := bind_eq_ok_iff.1 h
      cases h
      exact ⟨(key, wire), others, ⟨rfl, hwire⟩, ih.1 hothers, rfl⟩
    · rintro ⟨⟨_, wire⟩, others, ⟨rfl, hwire⟩, hothers, rfl⟩
      rw [hwire, ih.2 hothers]
      rfl

theorem mem_of_queries {keys : List (String × String)} {wires : List (String × Value)}
    (h : queries library id keys = .ok wires) {key : String} {wire : Value} :
    (key, wire) ∈ wires ↔ ∃ name, (key, name) ∈ keys ∧ library.buildWire name id = .ok wire := by
  rw [queries_eq_ok_iff] at h
  induction h with
  | nil => simp
  | cons hfirst _ ih =>
    obtain ⟨hkey, hwire⟩ := hfirst
    rw [List.mem_cons, ih]
    constructor
    · rintro (rfl | ⟨name, hmem, hname⟩)
      · exact ⟨_, List.mem_cons.2 (.inl (Prod.ext hkey rfl)), hwire⟩
      · exact ⟨name, List.mem_cons_of_mem _ hmem, hname⟩
    · rintro ⟨name, hmem, hname⟩
      rcases List.mem_cons.1 hmem with rfl | hmem
      · rw [hwire] at hname
        cases hname
        exact .inl (Prod.ext hkey.symm rfl)
      · exact .inr ⟨name, hmem, hname⟩

theorem keys_of_queries {keys : List (String × String)} {wires : List (String × Value)}
    (h : queries library id keys = .ok wires) : Entries.keys wires = Entries.keys keys := by
  rw [queries_eq_ok_iff] at h
  induction h with
  | nil => rfl
  | cons hfirst _ ih =>
    rw [Entries.keys, List.map_cons, ← Entries.keys, ih, hfirst.1]
    rfl

/-! ### Combined keys -/

theorem combine_eq : combine library id keyTemplates =
    (queries library.orPackaged id (joinedTemplates keyTemplates)).map Entries.ofList := by
  rw [combine, keysByTemplate_eq, List.map_map]
  rfl

/-- Combining fails with the first error of the keys. -/
theorem combine_eq_error_iff {error : Error} :
    combine library id keyTemplates = .error error ↔
      queries library.orPackaged id keyTemplates = .error error := by
  rw [queries_eq_error_iff, ← findSome?_namesOf, ← values_joinedTemplates, ← queries_eq_error_iff,
    combine_eq]
  cases queries library.orPackaged id (joinedTemplates keyTemplates) <;> simp [Except.map]

/-- Two outcomes are the same up to the order of the entries, of which no two have one key. -/
inductive SameMapping : Except Error (Option (Entries String Value)) →
    Except Error (Option (Entries String Value)) → Prop
  | error (error : Error) : SameMapping (.error error) (.error error)
  | entries {first second : Entries String Value} : second.keys.Nodup → first.Perm second →
    SameMapping (.ok (some first)) (.ok (some second))

section

variable (hnodup : keyTemplates.keys.Nodup) (hcomma : ∀ key ∈ keyTemplates.keys, ',' ∉ key.toList)

include hnodup in
/-- A key needs one template. -/
theorem name_unique {key name other : String} (hname : key ∈ keysOf keyTemplates name)
    (hother : key ∈ keysOf keyTemplates other) : name = other := by
  have hget := Entries.get?_of_mem hnodup (mem_keysOf.1 hname)
  rw [Entries.get?_of_mem hnodup (mem_keysOf.1 hother)] at hget
  cases hget
  rfl

theorem keysOf_ne_nil {name : String} (h : name ∈ namesOf keyTemplates) :
    keysOf keyTemplates name ≠ [] := by
  obtain ⟨⟨key, _⟩, hmem, rfl⟩ := List.mem_map.1 (mem_namesOf.1 h)
  exact List.ne_nil_of_mem (mem_keysOf.2 hmem)

include hcomma in
/-- A combined key is cut into the keys of its template. -/
theorem splitText_joinedKey {name : String} (h : name ∈ namesOf keyTemplates) :
    splitText ',' (joinedKey keyTemplates name) = keysOf keyTemplates name := by
  refine splitText_intercalate rfl (keysOf_ne_nil h) fun key hkey => ?_
  exact hcomma key (List.mem_map_of_mem (mem_keysOf.1 hkey))

include hnodup hcomma in
/-- Two templates have different combined keys. -/
theorem joinedKey_inj {name other : String} (hname : name ∈ namesOf keyTemplates)
    (hother : other ∈ namesOf keyTemplates)
    (heq : joinedKey keyTemplates name = joinedKey keyTemplates other) : name = other := by
  have hkeys : keysOf keyTemplates name = keysOf keyTemplates other := by
    rw [← splitText_joinedKey hcomma hname, heq, splitText_joinedKey hcomma hother]
  obtain ⟨key, hkey⟩ := List.exists_mem_of_ne_nil _ (keysOf_ne_nil hname)
  exact name_unique hnodup hkey (hkeys ▸ hkey)

include hnodup hcomma in
theorem nodup_joinedKeys : (joinedKeys keyTemplates).Nodup :=
  nodup_namesOf.map_on fun _ hname _ hother => joinedKey_inj hnodup hcomma hname hother

include hnodup hcomma in
/-- The combined keys are cut into all keys. -/
theorem flatMap_splitText_joinedKeys :
    ((joinedKeys keyTemplates).flatMap (splitText ',')).Perm keyTemplates.keys := by
  have hcut : (joinedKeys keyTemplates).flatMap (splitText ',') =
      (namesOf keyTemplates).flatMap (keysOf keyTemplates) := by
    rw [joinedKeys, List.flatMap_map]
    exact List.flatMap_congr fun name hname => splitText_joinedKey hcomma hname
  have hkeysNodup : ((namesOf keyTemplates).flatMap (keysOf keyTemplates)).Nodup := by
    rw [List.nodup_flatMap]
    refine ⟨fun name _ => (List.filter_sublist.map Prod.fst).nodup hnodup, ?_⟩
    refine nodup_namesOf.imp fun {name other} hne key hkey hother => ?_
    exact hne (name_unique hnodup hkey hother)
  rw [hcut, List.perm_ext_iff_of_nodup hkeysNodup hnodup]
  intro key
  rw [List.mem_flatMap]
  constructor
  · rintro ⟨name, -, hkey⟩
    exact List.mem_map_of_mem (mem_keysOf.1 hkey)
  · intro h
    obtain ⟨⟨_, name⟩, hmem, rfl⟩ := List.mem_map.1 h
    exact ⟨name, mem_namesOf.2 (List.mem_map_of_mem hmem), mem_keysOf.2 hmem⟩

/-! ### Splitting -/

variable {response : Entries String Value} (hresponse : response.keys.Perm (joinedKeys keyTemplates))

/-- The answers of an entry under each of the keys that its key is cut into. -/
def parts (entry : String × Value) : Entries String Value :=
  (splitText ',' entry.1).map fun key => (key, entry.2)

theorem keys_flatMap_parts (response : Entries String Value) :
    Entries.keys (response.flatMap parts) = response.keys.flatMap (splitText ',') := by
  rw [Entries.keys, Entries.keys, List.map_flatMap, List.flatMap_map]
  refine List.flatMap_congr fun entry _ => ?_
  rw [parts, List.map_map]
  exact List.map_id _

include hnodup hcomma hresponse in
theorem flatMap_parts_perm :
    (Entries.keys (response.flatMap parts)).Perm keyTemplates.keys := by
  rw [keys_flatMap_parts]
  exact (hresponse.flatMap_right _).trans (flatMap_splitText_joinedKeys hnodup hcomma)

include hnodup hcomma hresponse in
/-- No answer is put over another. -/
theorem split_eq : split response = response.flatMap parts :=
  Entries.ofList_of_nodup ((flatMap_parts_perm hnodup hcomma hresponse).nodup_iff.2 hnodup)

include hnodup hcomma hresponse in
/-- Splitting gives all keys and no other. -/
theorem keys_split : (split response).keys.Perm keyTemplates.keys := by
  rw [split_eq hnodup hcomma hresponse]
  exact flatMap_parts_perm hnodup hcomma hresponse

include hnodup hcomma hresponse in
theorem mem_split {key : String} {result : Value} :
    (key, result) ∈ split response ↔
      ∃ name, key ∈ keysOf keyTemplates name ∧
        (joinedKey keyTemplates name, result) ∈ response := by
  rw [split_eq hnodup hcomma hresponse, List.mem_flatMap]
  constructor
  · rintro ⟨⟨joined, _⟩, hmem, hpart⟩
    obtain ⟨_, hkey, heq⟩ := List.mem_map.1 hpart
    cases heq
    obtain ⟨name, hname, rfl⟩ := List.mem_map.1 (hresponse.mem_iff.1 (List.mem_map_of_mem hmem))
    rw [splitText_joinedKey hcomma hname] at hkey
    exact ⟨name, hkey, hmem⟩
  · rintro ⟨name, hkey, hmem⟩
    have hname := mem_namesOf.2 (List.mem_map_of_mem (mem_keysOf.1 hkey))
    refine ⟨_, hmem, List.mem_map.2 ⟨key, ?_, rfl⟩⟩
    rw [splitText_joinedKey hcomma hname]
    exact hkey

include hnodup hcomma hresponse in
/-- Splitting gives each key the result of the one combined key that contains it. -/
theorem get?_split {key name : String} (hname : keyTemplates.get? key = some name) :
    ∃ result, (joinedKey keyTemplates name, result) ∈ response ∧
      (split response).get? key = some result ∧
      ∀ entry ∈ response, key ∈ splitText ',' entry.1 →
        entry = (joinedKey keyTemplates name, result) := by
  have hkey : key ∈ keysOf keyTemplates name := mem_keysOf.2 (Entries.mem_of_get? hname)
  have hneeded : name ∈ namesOf keyTemplates :=
    mem_namesOf.2 (List.mem_map_of_mem (Entries.mem_of_get? hname))
  obtain ⟨⟨_, result⟩, hmem, rfl⟩ :=
    List.mem_map.1 (hresponse.mem_iff.2 (List.mem_map_of_mem hneeded))
  have hsplit := (mem_split hnodup hcomma hresponse).2 ⟨name, hkey, hmem⟩
  have hkeys := (keys_split hnodup hcomma hresponse).nodup_iff.2 hnodup
  refine ⟨result, hmem, Entries.get?_of_mem hkeys hsplit, fun entry hentry hcut => ?_⟩
  obtain ⟨joined, other⟩ := entry
  obtain ⟨otherName, hother, rfl⟩ :=
    List.mem_map.1 (hresponse.mem_iff.1 (List.mem_map_of_mem hentry))
  rw [splitText_joinedKey hcomma hother] at hcut
  obtain rfl := name_unique hnodup hkey hcut
  have hdistinct := hresponse.nodup_iff.2 (nodup_joinedKeys hnodup hcomma)
  have hget := Entries.get?_of_mem hdistinct hentry
  rw [Entries.get?_of_mem hdistinct hmem] at hget
  cases hget
  rfl

include hnodup hcomma in
/-- Without an error there is the query of each template under its combined key. -/
theorem combine_eq_ok_iff {combined : Entries String Value} :
    combine library id keyTemplates = .ok combined ↔
      queries library.orPackaged id (joinedTemplates keyTemplates) = .ok combined := by
  have hdistinct {wires : List (String × Value)}
      (h : queries library.orPackaged id (joinedTemplates keyTemplates) = .ok wires) :
      (Entries.keys wires).Nodup := by
    rw [keys_of_queries h, keys_joinedTemplates]
    exact nodup_joinedKeys hnodup hcomma
  rw [combine_eq, map_eq_ok_iff]
  constructor
  · rintro ⟨wires, hwires, rfl⟩
    rw [Entries.ofList_of_nodup (hdistinct hwires)]
    exact hwires
  · exact fun h => ⟨combined, h, Entries.ofList_of_nodup (hdistinct h)⟩

include hnodup hcomma in
theorem keys_of_combine {combined : Entries String Value}
    (h : combine library id keyTemplates = .ok combined) :
    combined.keys = joinedKeys keyTemplates := by
  rw [keys_of_queries ((combine_eq_ok_iff hnodup hcomma).1 h), keys_joinedTemplates]

include hnodup hcomma in
/-- Splitting what is combined gives the wire form of its own template for each key. -/
theorem mem_split_combine {combined : Entries String Value}
    (h : combine library id keyTemplates = .ok combined) {key : String} {wire : Value} :
    (key, wire) ∈ split combined ↔
      ∃ name, (key, name) ∈ keyTemplates ∧ library.orPackaged.buildWire name id = .ok wire := by
  have hwires := (combine_eq_ok_iff hnodup hcomma).1 h
  rw [mem_split hnodup hcomma (.of_eq (keys_of_combine hnodup hcomma h))]
  simp only [mem_of_queries hwires, mem_joinedTemplates, mem_keysOf]
  constructor
  · rintro ⟨name, hmem, other, ⟨hother, hkey⟩, hwire⟩
    have hname := mem_namesOf.2 (List.mem_map_of_mem hmem)
    obtain rfl := joinedKey_inj hnodup hcomma hname hother hkey
    exact ⟨name, hmem, hwire⟩
  · rintro ⟨name, hmem, hwire⟩
    exact ⟨name, hmem, name, ⟨mem_namesOf.2 (List.mem_map_of_mem hmem), rfl⟩, hwire⟩

include hnodup hcomma in
theorem get?_split_combine {combined : Entries String Value}
    (h : combine library id keyTemplates = .ok combined) {key name : String}
    (hname : keyTemplates.get? key = some name) :
    ∃ wire, library.orPackaged.buildWire name id = .ok wire ∧
      (split combined).get? key = some wire := by
  obtain ⟨wire, -, hget, -⟩ :=
    get?_split hnodup hcomma (.of_eq (keys_of_combine hnodup hcomma h)) hname
  obtain ⟨other, hother, hwire⟩ :=
    (mem_split_combine hnodup hcomma h).1 (Entries.mem_of_get? hget)
  rw [Entries.get?_of_mem hnodup hother] at hname
  cases hname
  exact ⟨wire, hwire, hget⟩

include hnodup hcomma in
/-- Splitting what is combined is the same as the queries of the keys one after the other. -/
theorem split_combine_same (library : Library) (id : Value) :
    SameMapping ((combine library id keyTemplates).map (some ∘ split))
      ((queries library.orPackaged id keyTemplates).map some) := by
  cases hqueries : queries library.orPackaged id keyTemplates with
  | error error =>
    rw [combine_eq_error_iff.2 hqueries]
    exact .error error
  | ok wires =>
    cases hcombine : combine library id keyTemplates with
    | error error => cases hqueries.symm.trans (combine_eq_error_iff.1 hcombine)
    | ok combined =>
      have hkeys := keys_split hnodup hcomma (.of_eq (keys_of_combine hnodup hcomma hcombine))
      have hwires : (Entries.keys wires).Nodup := by
        rw [keys_of_queries hqueries]
        exact hnodup
      have hsplit : (split combined).keys.Nodup := hkeys.nodup_iff.2 hnodup
      refine .entries hwires
        ((List.perm_ext_iff_of_nodup (.of_map Prod.fst hsplit) (.of_map Prod.fst hwires)).2 ?_)
      rintro ⟨key, wire⟩
      rw [mem_split_combine hnodup hcomma hcombine, mem_of_queries hqueries]

end

/-! ### Documents -/

theorem comma_notMem {cs : List Char} (h : cs.contains ',' = false) :
    ',' ∉ (String.ofList cs).toList := by
  rw [String.toList_ofList]
  simpa using h

/-- The relations of links hold no comma. -/
theorem comma_notMem_relation : ∀ relation ∈ Link.published.keys, ',' ∉ relation.toList := by
  unfold Link.published Link.agentLinks Link.conceptLinks Link.eventLinks Link.itemLinks
    Link.placeLinks Link.setLinks Link.workLinks
  repeat refine List.forall_mem_cons.2 ⟨comma_notMem rfl, ?_⟩
  exact List.forall_mem_nil _

theorem nodup_counted (scope : Scope) : (Link.counted scope).Nodup := by
  cases scope <;> decide +kernel

/-- The relations of the links of a record, with the templates that count their hits. -/
def countedTemplates (relations : List String) : Entries String String :=
  relations.filterMap fun relation =>
    (Link.published.get? relation).map fun link => (relation, link.estimateTemplate)

theorem keys_countedTemplates (relations : List String) :
    (countedTemplates relations).keys =
      relations.filter fun relation => (Link.published.get? relation).isSome := by
  unfold countedTemplates
  induction relations with
  | nil => rfl
  | cons first rest ih =>
    rw [List.filterMap_cons, List.filter_cons]
    cases Link.published.get? first with
    | none => exact ih
    | some link => exact congrArg (first :: ·) ih

theorem templates_outcome {document : Entries String Value} {scope : Scope}
    (h : scopeOfType? ((document.get? "type").getD .null) = some scope) :
    (templates document).outcome =
      (documentId document).map fun _ => some (countedTemplates (Link.counted scope)) := by
  rw [templates, Traced.bind_outcome]
  simp only [h]
  rw [Traced.lift_outcome]
  cases documentId document <;> rfl

/-- The estimates of a document by way of combined keys. -/
def splitCombined (library : Library) (document : Entries String Value) :
    Except Error (Option (Entries String Value)) := do
  match ← (templates document).outcome with
  | none => return none
  | some keyTemplates => do
    let id ← documentId document
    let combined ← combine library id keyTemplates
    return some (split combined)

theorem splitCombined_eq (library : Library) {document : Entries String Value} {scope : Scope}
    (h : scopeOfType? ((document.get? "type").getD .null) = some scope) :
    splitCombined library document = documentId document >>= fun id =>
      (combine library id (countedTemplates (Link.counted scope))).map (some ∘ split) := by
  rw [splitCombined, templates_outcome h]
  cases documentId document with
  | error error => rfl
  | ok id => cases combine library id (countedTemplates (Link.counted scope)) <;> rfl

theorem forDocument_outcome (library : Library) {document : Entries String Value} {scope : Scope}
    (h : scopeOfType? ((document.get? "type").getD .null) = some scope) :
    (forDocument library document).outcome = documentId document >>= fun id =>
      (queries library.orPackaged id (countedTemplates (Link.counted scope))).map some := by
  rw [forDocument, Traced.bind_outcome, templates_outcome h]
  cases documentId document with
  | error error => rfl
  | ok id =>
    simp only [Except.map, Traced.ok_bind, Traced.bind_outcome, Traced.lift_outcome,
      Traced.pure_outcome]
    cases queries library.orPackaged id (countedTemplates (Link.counted scope)) <;> rfl

/-- The estimates of a record are what is split from the combined ones. -/
theorem splitCombined_same (library : Library) {document : Entries String Value} {scope : Scope}
    (h : scopeOfType? ((document.get? "type").getD .null) = some scope) :
    SameMapping (splitCombined library document) (forDocument library document).outcome := by
  have hkeys := keys_countedTemplates (Link.counted scope)
  have hnodup : (countedTemplates (Link.counted scope)).keys.Nodup := by
    rw [hkeys]
    exact (nodup_counted scope).filter _
  have hcomma : ∀ key ∈ (countedTemplates (Link.counted scope)).keys, ',' ∉ key.toList := by
    intro key hkey
    rw [hkeys] at hkey
    obtain ⟨link, hlink⟩ := Option.isSome_iff_exists.1 (List.mem_filter.1 hkey).2
    exact comma_notMem_relation key (List.mem_map_of_mem (Entries.mem_of_get? hlink))
  rw [splitCombined_eq library h, forDocument_outcome library h]
  cases documentId document with
  | error error => exact .error error
  | ok id => exact split_combine_same hnodup hcomma library id

/-! ### Nothing is lost -/

/-- Combining fails exactly if building the template of each key in turn does, with the same error.
Otherwise it has one entry for each template that is needed, and splitting it gives each key the wire
form of its own template and has no other key. Whatever the results of the combined keys are, each key
gets that of the one combined key that contains it. So a record of a known type has the same estimates
by way of combined keys as without. -/
theorem combining_loses_nothing :
    (∀ {library : Library}, library.templates ≠ [] →
      ∀ (id : Value) {keyTemplates : Entries String String}, keyTemplates.keys.Nodup →
        (∀ key ∈ keyTemplates.keys, ',' ∉ key.toList) →
          (∀ error, combine library id keyTemplates = .error error ↔
            queries library id keyTemplates = .error error) ∧
          ∀ combined, combine library id keyTemplates = .ok combined →
            (∃ names : List String, names.Nodup ∧
              (∀ name, name ∈ names ↔ name ∈ keyTemplates.values) ∧
              List.Forall₂ (fun name entry => entry.1 = joinedKey keyTemplates name ∧
                library.buildWire name id = .ok entry.2) names combined) ∧
            combined.keys = joinedKeys keyTemplates ∧
            (∀ key name, keyTemplates.get? key = some name →
              ∃ wire, library.buildWire name id = .ok wire ∧ (split combined).get? key = some wire) ∧
            (split combined).keys.Perm keyTemplates.keys) ∧
    (∀ {keyTemplates : Entries String String}, keyTemplates.keys.Nodup →
      (∀ key ∈ keyTemplates.keys, ',' ∉ key.toList) →
        ∀ response : Entries String Value, response.keys.Perm (joinedKeys keyTemplates) →
          (∀ key name, keyTemplates.get? key = some name →
            ∃ result, (joinedKey keyTemplates name, result) ∈ response ∧
              (split response).get? key = some result ∧
              ∀ entry ∈ response, key ∈ splitText ',' entry.1 →
                entry = (joinedKey keyTemplates name, result)) ∧
          (split response).keys.Perm keyTemplates.keys) ∧
    ∀ (library : Library) {document : Entries String Value} {scope : Scope},
      scopeOfType? ((document.get? "type").getD .null) = some scope →
        SameMapping (splitCombined library document) (forDocument library document).outcome := by
  refine ⟨fun {library} hlibrary id {keyTemplates} hnodup hcomma => ?_,
    fun hnodup hcomma response hresponse => ⟨fun key name hname =>
      get?_split hnodup hcomma hresponse hname, keys_split hnodup hcomma hresponse⟩,
    splitCombined_same⟩
  have howner : library.orPackaged = library := if_neg (mt List.isEmpty_iff.1 hlibrary)
  refine ⟨fun error => ?_, fun combined hcombine => ?_⟩
  · rw [combine_eq_error_iff, howner]
  · have hkeys := keys_of_combine hnodup hcomma hcombine
    have hwires := (combine_eq_ok_iff hnodup hcomma).1 hcombine
    rw [queries_eq_ok_iff, joinedTemplates, List.forall₂_map_left_iff, howner] at hwires
    refine ⟨⟨_, nodup_namesOf, fun name => mem_namesOf, hwires⟩, hkeys, fun key name hname => ?_,
      keys_split hnodup hcomma (.of_eq hkeys)⟩
    have hget := get?_split_combine hnodup hcomma hcombine hname
    rw [howner] at hget
    exact hget

/-- A library of the works that an agent made and of the agents that it is a member of. -/
def agentLibrary : Library :=
  .ofList [.declare "works" (some "work") (Form.byId "createdBy").fill,
    .declare "groups" (some "agent") (Form.byId "member").fill]

/-- Two keys that share a template, around one that is empty. -/
def agentKeys : Entries String String := [("made", "works"), ("", "groups"), ("written", "works")]

/-- The two keys get one query, which both have after splitting, and both get the one answer to it when
the answers come in another order. A key of an unknown template is the error of both ways. -/
theorem agentKeys_combined :
    let id : Value := .string "agent:1"
    agentLibrary.templates ≠ [] ∧ agentKeys.keys.Nodup ∧ (∀ key ∈ agentKeys.keys, ',' ∉ key.toList) ∧
      (∃ combined wire, combine agentLibrary id agentKeys = .ok combined ∧
        combined.keys = ["made,written", ""] ∧ agentLibrary.buildWire "works" id = .ok wire ∧
        (split combined).get? "made" = some wire ∧ (split combined).get? "written" = some wire ∧
        (split combined).keys.Perm ["made", "", "written"]) ∧
      (split [("", .int 1), ("made,written", .int 2)]).keys.Perm ["made", "", "written"] ∧
      combine agentLibrary id (("shown", "sets") :: agentKeys) = .error (.unknownTemplate "sets") ∧
      SameMapping (splitCombined agentLibrary [("id", id), ("type", .string "Person")])
        (forDocument agentLibrary [("id", id), ("type", .string "Person")]).outcome := by
  intro id
  obtain ⟨hcombines, hsplits, hdocument⟩ := combining_loses_nothing
  have hlibrary : agentLibrary.templates ≠ [] := List.cons_ne_nil _ _
  have hnodup : agentKeys.keys.Nodup := by decide
  have hcomma : ∀ key ∈ agentKeys.keys, ',' ∉ key.toList := by
    simp [agentKeys, Entries.keys]
  have hcombined : ∃ combined, combine agentLibrary id agentKeys = .ok combined := ⟨_, rfl⟩
  obtain ⟨combined, hcombined⟩ := hcombined
  obtain ⟨-, hentries⟩ := hcombines hlibrary id hnodup hcomma
  obtain ⟨-, hkeys, hget, hperm⟩ := hentries combined hcombined
  obtain ⟨wire, hwire, hmade⟩ := hget "made" "works" rfl
  obtain ⟨other, hother, hwritten⟩ := hget "written" "works" rfl
  cases hwire.symm.trans hother
  have hanswers := (hsplits hnodup hcomma [("", .int 1), ("made,written", .int 2)]
    (.swap _ _ [])).2
  have hunknown : combine agentLibrary id (("shown", "sets") :: agentKeys) =
      .error (.unknownTemplate "sets") :=
    ((hcombines hlibrary id (by decide) (by simp [agentKeys, Entries.keys])).1 _).2 rfl
  have hscope : scopeOfType? (.string "Person") = some .agent := rfl
  exact ⟨hlibrary, hnodup, hcomma,
    ⟨combined, wire, hcombined, hkeys, hwire, hmade, hwritten, hperm⟩, hanswers, hunknown,
    hdocument agentLibrary hscope⟩

end Estimate

end ScopedSearch
