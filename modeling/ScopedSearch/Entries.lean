/-!
# Entries in insertion order

A table whose keys keep the order in which they were first put: putting a key again replaces its
value and keeps its place. The view is the list of pairs itself, so order is part of equality.
-/

namespace ScopedSearch

/-- Key and value pairs in insertion order. -/
abbrev Entries (κ α : Type) := List (κ × α)

namespace Entries

variable {κ α β : Type} [DecidableEq κ]

/-- The value of the first pair with this key. -/
def get? : Entries κ α → κ → Option α
  | [], _ => none
  | (k, v) :: rest, key => if k = key then some v else get? rest key

def keys (entries : Entries κ α) : List κ := entries.map Prod.fst

def values (entries : Entries κ α) : List α := entries.map Prod.snd

/-- Replaces the value of a present key in its place; a new key goes to the end. -/
def put : Entries κ α → κ → α → Entries κ α
  | [], key, value => [(key, value)]
  | (k, v) :: rest, key, value =>
    if k = key then (key, value) :: rest else (k, v) :: put rest key value

/-- All pairs except those with this key. -/
def erase (entries : Entries κ α) (key : κ) : Entries κ α :=
  entries.filter fun entry => entry.1 ≠ key

/-- Puts the pairs one after the other, so that a later value of a key wins. -/
def ofList (pairs : List (κ × α)) : Entries κ α :=
  pairs.foldl (fun entries pair => entries.put pair.1 pair.2) []

/-- Some pair has this key. -/
def contains (entries : Entries κ α) (key : κ) : Bool := (entries.get? key).isSome

@[simp] theorem get?_nil (key : κ) : get? ([] : Entries κ α) key = none := rfl

theorem get?_cons (k : κ) (v : α) (rest : Entries κ α) (key : κ) :
    get? ((k, v) :: rest) key = if k = key then some v else get? rest key := rfl

@[simp] theorem get?_append (entries more : Entries κ α) (key : κ) :
    Entries.get? (entries ++ more) key = (entries.get? key).or (more.get? key) := by
  induction entries with
  | nil => rfl
  | cons first rest ih =>
    obtain ⟨k, v⟩ := first
    rw [List.cons_append, get?_cons, get?_cons, ih]
    split <;> rfl

theorem mem_of_get? {entries : Entries κ α} {key : κ} {value : α}
    (h : entries.get? key = some value) : (key, value) ∈ entries := by
  induction entries with
  | nil => cases h
  | cons first rest ih =>
    obtain ⟨k, v⟩ := first
    rw [get?_cons] at h
    split at h
    · next heq =>
      subst heq
      cases h
      exact List.mem_cons_self
    · exact List.mem_cons_of_mem _ (ih h)

/-- Without a key twice, every pair is found. -/
theorem get?_of_mem {entries : Entries κ α} (hnodup : entries.keys.Nodup) {key : κ} {value : α}
    (h : (key, value) ∈ entries) : entries.get? key = some value := by
  induction entries with
  | nil => cases h
  | cons first rest ih =>
    obtain ⟨k, v⟩ := first
    rw [keys, List.map_cons, List.nodup_cons] at hnodup
    rw [get?_cons]
    rcases List.mem_cons.1 h with heq | h
    · cases heq
      rw [if_pos rfl]
    · have hne : k ≠ key := by
        rintro rfl
        exact hnodup.1 (List.mem_map.2 ⟨_, h, rfl⟩)
      rw [if_neg hne]
      exact ih hnodup.2 h

theorem get?_put (entries : Entries κ α) (key other : κ) (value : α) :
    (entries.put key value).get? other
      = if key = other then some value else entries.get? other := by
  induction entries with
  | nil => simp [put, get?]
  | cons pair rest ih => grind [put, get?]

theorem keys_put (entries : Entries κ α) (key : κ) (value : α) :
    (entries.put key value).keys
      = if key ∈ entries.keys then entries.keys else entries.keys ++ [key] := by
  induction entries with
  | nil => simp [put, keys]
  | cons pair rest ih => grind [put, keys]

theorem mem_of_mem_put {entries : Entries κ α} {key : κ} {value : α} {entry : κ × α}
    (h : entry ∈ entries.put key value) : entry = (key, value) ∨ entry ∈ entries := by
  induction entries with
  | nil => exact .inl (List.mem_singleton.1 h)
  | cons pair rest ih =>
    obtain ⟨k, v⟩ := pair
    rw [put] at h
    split at h
    · exact (List.mem_cons.1 h).imp_right (List.mem_cons_of_mem _)
    · rcases List.mem_cons.1 h with heq | hrest
      · exact .inr (heq ▸ List.mem_cons_self)
      · exact (ih hrest).imp_right (List.mem_cons_of_mem _)

/-- A new key goes to the end. -/
theorem put_of_notMem {entries : Entries κ α} {key : κ} (h : key ∉ entries.keys) (value : α) :
    entries.put key value = entries ++ [(key, value)] := by
  induction entries with
  | nil => rfl
  | cons pair rest ih =>
    obtain ⟨k, v⟩ := pair
    simp only [keys, List.map_cons, List.mem_cons, not_or] at h
    rw [put, if_neg (Ne.symm h.1), ih h.2]
    rfl

/-- New keys go to the end one after the other. -/
theorem foldl_put_of_nodup {entries more : Entries κ α}
    (h : (Entries.keys (entries ++ more)).Nodup) :
    more.foldl (fun entries pair => entries.put pair.1 pair.2) entries = entries ++ more := by
  induction more generalizing entries with
  | nil => rw [List.foldl_nil, List.append_nil]
  | cons first rest ih =>
    have hnew : first.1 ∉ entries.keys := by
      rw [keys, List.map_append, List.nodup_append] at h
      intro hmem
      exact h.2.2 _ hmem first.1 List.mem_cons_self rfl
    rw [List.append_cons] at h
    rw [List.foldl_cons, put_of_notMem hnew, ih h, List.append_assoc]
    rfl

/-- Pairs without a key twice are put as they are. -/
theorem ofList_of_nodup {pairs : List (κ × α)} (h : (keys pairs).Nodup) : ofList pairs = pairs :=
  foldl_put_of_nodup h

end Entries

end ScopedSearch
