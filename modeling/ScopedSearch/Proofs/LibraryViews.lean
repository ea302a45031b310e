import ScopedSearch.Proofs.Binding
import Mathlib.Data.Finset.Card
import Mathlib.Data.List.Dedup
import Mathlib.Data.String.Basic

/-!
# The views of a library

A library keeps its templates in a table and their names in one list for each scope, and every
registration changes both. Whatever was registered, the two are in step: the list of a scope holds the
names that stand for a template of that scope, in the order of their latest registrations
(`Library.namesIn_ofList`), and the table holds every name in the order of its first
(`Library.keys_ofList`). So all views of a library are told by what was registered, in which order
(`Library.views_follow_history`). Of equal names, `List.dedup` keeps the last and `List.eraseDups` the
first.
-/

namespace ScopedSearch

/-- A further member takes the place of an equal one before it. -/
theorem dedup_concat {α : Type} [DecidableEq α] (list : List α) (last : α) :
    (list ++ [last]).dedup = list.dedup.erase last ++ [last] := by
  induction list with
  | nil => simp
  | cons first rest ih =>
    rw [List.cons_append]
    by_cases hfirst : first = last
    · subst hfirst
      rw [List.dedup_cons_of_mem (by simp), ih]
      by_cases hmem : first ∈ rest
      · rw [List.dedup_cons_of_mem hmem]
      · rw [List.dedup_cons_of_notMem hmem, List.erase_cons_head,
          List.erase_of_not_mem (by simpa using hmem)]
    · by_cases hmem : first ∈ rest
      · rw [List.dedup_cons_of_mem (List.mem_append_left _ hmem), ih, List.dedup_cons_of_mem hmem]
      · rw [List.dedup_cons_of_notMem (by simp [hmem, hfirst]), ih, List.dedup_cons_of_notMem hmem,
          List.erase_cons_tail (by simpa using hfirst), List.cons_append]

/-- A further member comes last, unless an equal one is there. -/
theorem eraseDups_concat {α : Type} [DecidableEq α] (list : List α) (last : α) :
    (list ++ [last]).eraseDups =
      if last ∈ list then list.eraseDups else list.eraseDups ++ [last] := by
  rw [List.eraseDups_append, List.removeAll]
  by_cases h : last ∈ list
  · simp [h]
  · simp [h, List.eraseDups_cons]

namespace Entries

variable {κ α : Type} [DecidableEq κ] {entries : Entries κ α} {key : κ}

theorem nodup_keys_put (h : entries.keys.Nodup) (value : α) :
    (entries.put key value).keys.Nodup := by
  rw [keys_put]
  split
  · exact h
  · next hkey =>
    rw [← List.concat_eq_append]
    exact h.concat hkey

/-- Without a key twice, the values are what is found under the keys. -/
theorem values_eq_filterMap (h : entries.keys.Nodup) :
    entries.values = entries.keys.filterMap entries.get? := by
  have hfound : ∀ entry ∈ entries, entries.get? entry.1 = some entry.2 :=
    fun entry hentry => get?_of_mem h hentry
  rw [keys, List.filterMap_map, values, ← List.filterMap_eq_map]
  exact List.filterMap_congr fun entry hentry => (hfound entry hentry).symm

/-- Without a key twice, lists are gone through by their keys. -/
theorem flatten_values {lists : Entries κ (List α)} (h : lists.keys.Nodup) :
    lists.values.flatten = lists.keys.flatMap fun key => (lists.get? key).getD [] := by
  rw [keys, List.flatMap_map, values, ← List.flatMap_def]
  refine List.flatMap_congr fun entry hentry => ?_
  rw [get?_of_mem h hentry, Option.getD_some]

theorem mem_keys_of_get? {value : α} (h : entries.get? key = some value) : key ∈ entries.keys :=
  List.mem_map.2 ⟨_, mem_of_get? h, rfl⟩

end Entries

namespace Template

variable {history : List Template} {name : String}

/-- The template that was registered last under a name, if there is one. -/
def latest? (history : List Template) (name : String) : Option Template :=
  (latest history name).toOption

/-- The name stands for a template of the scope. -/
def standsIn (history : List Template) (scope : Option String) (name : String) : Bool :=
  (latest? history name).any fun template => template.scope = scope

theorem latest?_concat (history : List Template) (template : Template) (name : String) :
    latest? (history ++ [template]) name =
      if template.name = name then some template else latest? history name := by
  rw [latest?, latest_concat]
  split <;> rfl

theorem standsIn_concat (history : List Template) (template : Template) (scope : Option String)
    (name : String) :
    standsIn (history ++ [template]) scope name =
      if template.name = name then decide (template.scope = scope)
      else standsIn history scope name := by
  rw [standsIn, latest?_concat]
  split <;> rfl

theorem isSome_latest?_iff :
    (latest? history name).isSome ↔ name ∈ history.map Template.name := by
  induction history using List.reverseRecOn with
  | nil => simp [latest?, latest, Except.toOption]
  | append_singleton front last ih =>
    rw [latest?_concat, List.map_append, List.mem_append, ← ih]
    by_cases h : last.name = name
    · simp [h]
    · simp [h, Ne.symm h]

/-- A registered name stands for a template of one scope. -/
theorem exists_standsIn (h : name ∈ history.map Template.name) :
    ∃ scope, standsIn history scope name := by
  obtain ⟨template, htemplate⟩ := Option.isSome_iff_exists.1 (isSome_latest?_iff.2 h)
  exact ⟨template.scope, by simp [standsIn, htemplate]⟩

theorem mem_of_standsIn {scope : Option String} (h : standsIn history scope name) :
    name ∈ history.map Template.name := by
  rw [← isSome_latest?_iff]
  cases hlatest : latest? history name with
  | none => simp [standsIn, hlatest] at h
  | some => rfl

theorem scope_unique {scope other : Option String} (h : standsIn history scope name)
    (hother : standsIn history other name) : scope = other := by
  unfold standsIn at h hother
  cases hlatest : latest? history name with
  | none => simp [hlatest] at h
  | some template =>
    simp only [hlatest, Option.any_some, decide_eq_true_eq] at h hother
    exact h.symm.trans hother

end Template

namespace Library

open Template

variable {history : List Template} {name : String}

/-! ### One registration -/

theorem register_outcome (library : Library) (template : Template) :
    (library.register template).outcome = .ok (library.add template) := by
  rw [register]
  split <;> rfl

theorem get?_unlist (listings : Entries (Option String) (List String)) (scope other : Option String)
    (name : String) :
    ((unlist listings scope name).get? other).getD [] =
      if scope = other then ((listings.get? other).getD []).erase name
      else (listings.get? other).getD [] := by
  unfold unlist
  split
  · next names hnames =>
    rw [Entries.get?_put]
    split
    · next h => rw [← h, hnames, Option.getD_some, Option.getD_some]
    · rfl
  · next hnames =>
    split
    · next h => rw [← h, hnames]; rfl
    · rfl

theorem get?_enlist (listings : Entries (Option String) (List String)) (scope other : Option String)
    (name : String) :
    ((enlist listings scope name).get? other).getD [] =
      (listings.get? other).getD [] ++ if scope = other then [name] else [] := by
  rw [enlist, Entries.get?_put]
  split
  · next h => rw [h, Option.getD_some]
  · rw [List.append_nil]

/-- The name leaves the list of the scope that it was registered for, and is listed last for the scope
that it is registered for now. -/
theorem namesIn_add (library : Library) (template : Template) (scope : Option String) :
    (library.add template).namesIn scope =
      (if (library.templates.get? template.name).any fun previous => previous.scope = scope then
          (library.namesIn scope).erase template.name
        else library.namesIn scope) ++
        if template.scope = scope then [template.name] else [] := by
  rw [namesIn, add, get?_enlist]
  cases library.templates.get? template.name with
  | none => rfl
  | some previous =>
    simp only [get?_unlist, Option.any_some, decide_eq_true_eq]
    rfl

theorem nodup_keys_add {library : Library} (h : library.listings.keys.Nodup) (template : Template) :
    (library.add template).listings.keys.Nodup := by
  rw [add]
  refine Entries.nodup_keys_put ?_ _
  split
  · rw [unlist]
    split
    · exact Entries.nodup_keys_put h _
    · exact h
  · exact h

/-! ### All registrations -/

theorem foldlM_register (history : List Template) (library : Library) :
    (history.foldlM register library).outcome = .ok (history.foldl add library) := by
  induction history generalizing library with
  | nil => rfl
  | cons first rest ih =>
    rw [List.foldlM_cons, Traced.bind_outcome, register_outcome, Traced.ok_bind, ih]
    rfl

theorem get?_ofList (history : List Template) (name : String) :
    (ofList history).templates.get? name = latest? history name := by
  rw [latest?, ← get_ofList, get]
  cases (ofList history).templates.get? name <;> rfl

/-- The table holds the names in the order of their first registrations. -/
theorem keys_ofList (history : List Template) :
    (ofList history).templates.keys = (history.map Template.name).eraseDups := by
  induction history using List.reverseRecOn with
  | nil => rfl
  | append_singleton front last ih =>
    rw [ofList_concat, add, Entries.keys_put, ih, List.map_append, List.map_singleton,
      eraseDups_concat]
    simp only [List.mem_eraseDups]

theorem nodup_keys_ofList (history : List Template) : (ofList history).templates.keys.Nodup := by
  induction history using List.reverseRecOn with
  | nil => exact List.nodup_nil
  | append_singleton front last ih =>
    rw [ofList_concat]
    exact Entries.nodup_keys_put ih _

theorem nodup_scopes_ofList (history : List Template) : (ofList history).listings.keys.Nodup := by
  induction history using List.reverseRecOn with
  | nil => exact List.nodup_nil
  | append_singleton front last ih =>
    rw [ofList_concat]
    exact nodup_keys_add ih last

/-- The list of a scope holds the names that stand for a template of the scope, in the order of their
latest registrations. -/
theorem namesIn_ofList (history : List Template) (scope : Option String) :
    (ofList history).namesIn scope =
      (history.map Template.name).dedup.filter (standsIn history scope) := by
  induction history using List.reverseRecOn with
  | nil => rfl
  | append_singleton front last ih =>
    have hnodup := (front.map Template.name).nodup_dedup
    -- The names other than the registered one stand for what they stood for.
    have hothers : ((front.map Template.name).dedup.erase last.name).filter
        (standsIn (front ++ [last]) scope) =
          ((ofList front).namesIn scope).erase last.name := by
      rw [ih, (hnodup.filter _).erase_eq_filter, hnodup.erase_eq_filter, List.filter_filter,
        List.filter_filter]
      refine List.filter_congr fun name _ => ?_
      rw [standsIn_concat]
      by_cases h : last.name = name
      · simp [h]
      · simp [h, Bool.and_comm]
    have hlast : [last.name].filter (standsIn (front ++ [last]) scope) =
        if last.scope = scope then [last.name] else [] := by
      simp [standsIn_concat, List.filter_cons]
    rw [ofList_concat, namesIn_add, List.map_append, List.map_singleton, dedup_concat,
      List.filter_append, hothers, hlast, get?_ofList]
    congr 1
    split
    · rfl
    · next hscope =>
      refine (List.erase_of_not_mem fun hmem => hscope ?_).symm
      rw [ih] at hmem
      exact (List.mem_filter.1 hmem).2

/-- A registered name is listed for the scope of its template, and nowhere else. -/
theorem mem_namesIn {scope : Option String} :
    name ∈ (ofList history).namesIn scope ↔ standsIn history scope name := by
  rw [namesIn_ofList, List.mem_filter, List.mem_dedup]
  exact and_iff_right_of_imp mem_of_standsIn

theorem nodup_namesIn (history : List Template) (scope : Option String) :
    ((ofList history).namesIn scope).Nodup := by
  rw [namesIn_ofList]
  exact (List.nodup_dedup _).filter _

/-- No name is listed twice, whatever the scope. -/
theorem nodup_listings (history : List Template) :
    (ofList history).listings.values.flatten.Nodup := by
  rw [Entries.flatten_values (nodup_scopes_ofList history), List.nodup_flatMap]
  refine ⟨fun scope _ => nodup_namesIn history scope,
    (nodup_scopes_ofList history).imp fun hne => ?_⟩
  intro name hname hother
  exact hne (scope_unique (mem_namesIn.1 hname) (mem_namesIn.1 hother))

theorem mem_listings :
    name ∈ (ofList history).listings.values.flatten ↔ name ∈ history.map Template.name := by
  rw [Entries.flatten_values (nodup_scopes_ofList history), List.mem_flatMap]
  constructor
  · rintro ⟨scope, -, hname⟩
    exact mem_of_standsIn (mem_namesIn.1 hname)
  · intro h
    obtain ⟨scope, hscope⟩ := exists_standsIn h
    have hname : name ∈ (ofList history).namesIn scope := mem_namesIn.2 hscope
    rw [namesIn] at hname
    cases hlist : (ofList history).listings.get? scope with
    | none => simp [hlist] at hname
    | some names => exact ⟨scope, Entries.mem_keys_of_get? hlist, hname⟩

/-! ### Views -/

/-- Every listed name has its template. -/
theorem map_name_inScope (history : List Template) (scope : Option String) :
    ((ofList history).inScope scope).map Template.name = (ofList history).namesIn scope := by
  have hfound : ∀ name ∈ (ofList history).namesIn scope,
      ((ofList history).templates.get? name).map Template.name = some name := by
    intro name hname
    have hregistered := isSome_latest?_iff.2 (mem_of_standsIn (mem_namesIn.1 hname))
    obtain ⟨template, htemplate⟩ := Option.isSome_iff_exists.1 hregistered
    rw [get?_ofList, htemplate, Option.map_some,
      name_of_latest (toOption_eq_some_iff.1 htemplate)]
  rw [inScope, List.map_filterMap]
  exact (List.filterMap_congr hfound).trans List.filterMap_some

theorem inScope_ofList (history : List Template) (scope : Option String) :
    (ofList history).inScope scope =
      ((history.map Template.name).dedup.filterMap (latest? history)).filter
        fun template => template.scope = scope := by
  have hget : (ofList history).templates.get? = latest? history := funext (get?_ofList history)
  rw [inScope, hget, namesIn_ofList, List.filterMap_filter, List.filter_filterMap]
  refine List.filterMap_congr fun name _ => ?_
  rw [standsIn]
  cases latest? history name with
  | none => rfl
  | some template => simp [Option.filter]

theorem toList_ofList (history : List Template) :
    (ofList history).toList =
      (history.map Template.name).eraseDups.filterMap (latest? history) := by
  have hget : (ofList history).templates.get? = latest? history := funext (get?_ofList history)
  rw [toList, Entries.values_eq_filterMap (nodup_keys_ofList history), keys_ofList, hget]

theorem mem_names {library : Library} : name ∈ library.names ↔ name ∈ library.templates.keys :=
  List.mem_mergeSort

theorem names_pairwise {library : Library} (h : library.templates.keys.Nodup) :
    library.names.Pairwise (· < ·) := by
  have htrans : ∀ a b c : String, decide (a ≤ b) = true → decide (b ≤ c) = true →
      decide (a ≤ c) = true := by
    simp only [decide_eq_true_eq]
    exact fun _ _ _ => le_trans
  have htotal : ∀ a b : String, (decide (a ≤ b) || decide (b ≤ a)) = true := by
    simpa using le_total
  have hsorted := List.pairwise_mergeSort htrans htotal library.templates.keys
  have hnodup : library.names.Nodup := (List.mergeSort_perm _ _).nodup_iff.2 h
  exact (hsorted.and hnodup).imp fun hboth =>
    lt_of_le_of_ne (of_decide_eq_true hboth.1) hboth.2

theorem size_ofList (history : List Template) :
    (ofList history).size = (history.map Template.name).toFinset.card := by
  have hkeys : (ofList history).templates.keys.toFinset = (history.map Template.name).toFinset := by
    ext name
    rw [List.mem_toFinset, List.mem_toFinset, keys_ofList, List.mem_eraseDups]
  rw [← hkeys, List.toFinset_card_of_nodup (nodup_keys_ofList history), Entries.keys,
    List.length_map, size]

/-- All views of a library follow what was registered. Each registered name is listed once over all
scopes, and there for the scope of its latest template. The templates of a scope are those of its list:
the latest of the names that stand for one of the scope, in the order of their latest registrations. All
templates together are the latest of every name, in the order of their first registrations. The names
are in strict order, are counted once each, and each stands for its latest template; any other is
unknown. -/
theorem views_follow_history (history : List Template) :
    let library := Library.ofList history
    let registered := history.map Template.name
    let latest := Template.latest? history
    (history.foldlM Library.register {}).outcome = .ok library ∧
      (∀ name, library.listings.values.flatten.count name = if name ∈ registered then 1 else 0) ∧
      (∀ name scope, (library.namesIn scope).count name =
        if (latest name).map Template.scope = some scope then 1 else 0) ∧
      (∀ scope, (library.inScope scope).map Template.name = library.namesIn scope ∧
        library.inScope scope =
          (registered.dedup.filterMap latest).filter fun template => template.scope = scope) ∧
      library.toList = registered.eraseDups.filterMap latest ∧
      (library.names.Pairwise (· < ·) ∧ ∀ name, name ∈ library.names ↔ name ∈ registered) ∧
      library.size = registered.toFinset.card ∧
      ∀ name, library.get name = Template.latest history name := by
  intro library registered latest
  refine ⟨foldlM_register history {}, fun name => ?_, fun name scope => ?_,
    fun scope => ⟨map_name_inScope history scope, inScope_ofList history scope⟩,
    toList_ofList history, ⟨names_pairwise (nodup_keys_ofList history), fun name => ?_⟩,
    size_ofList history, get_ofList history⟩
  · rw [(nodup_listings history).count]
    simp only [mem_listings, registered]
  · rw [(nodup_namesIn history scope).count]
    have hstands : standsIn history scope name = true ↔ (latest name).map Template.scope = some scope := by
      rw [standsIn]
      cases hlatest : latest? history name <;> simp [latest, hlatest]
    simp only [mem_namesIn, hstands]
  · rw [mem_names, keys_ofList, List.mem_eraseDups]

end Library

end ScopedSearch
