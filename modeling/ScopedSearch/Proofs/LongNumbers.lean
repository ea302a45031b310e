import ScopedSearch.Error
import Mathlib.Algebra.Group.Nat.Defs

/-!
# Numbers that are too long to be shown

A message can show a value unless there is a whole number in the value with more digits than may be
written (`Value.display?_eq_none_iff`). So a cause is raised as it is, or the number is what is at fault,
and that is seen from the values that its message shows (`Invalid.shown`).
-/

namespace ScopedSearch

mutual

/-- There is a whole number with too many digits in the value. -/
inductive Value.IsLong : Value → Prop
  | int {n : Int} : 10 ^ Numeral.digitLimit ≤ n.natAbs → Value.IsLong (.int n)
  | list {items : List Value} {item : Value} : item ∈ items → item.IsLong →
    Value.IsLong (.list items)
  | map {entries : List (String × Value)} {entry : String × Value} : entry ∈ entries →
    entry.2.IsLong → Value.IsLong (.map entries)
  | query {tree : Query} : tree.IsLong → Value.IsLong (.query tree)

/-- There is a whole number with too many digits in the tree. -/
inductive Query.IsLong : Query → Prop
  | leaf {term : String} {value : Value} {scope field : Option String} {fullText : Bool}
    {comparator : Option Comparator} : value.IsLong →
      Query.IsLong (.leaf term value scope field fullText comparator)
  | hop {term : String} {target : Query} {scope field targetScope : Option String} :
    target.IsLong → Query.IsLong (.hop term target scope field targetScope)
  | group {connective : Connective} {children : List Query} {child : Query}
    {scope : Option String} : child ∈ children → child.IsLong →
      Query.IsLong (.group connective children scope)

end

namespace Numeral

theorem isShort_iff {n : Int} : isShort n = true ↔ n.natAbs < 10 ^ digitLimit := by
  rw [isShort, decide_eq_true_eq]
  exact Nat.length_toDigits_le_iff (by decide) (by decide)

theorem text?_eq_none_iff {n : Int} : text? n = none ↔ 10 ^ digitLimit ≤ n.natAbs := by
  rw [← Nat.not_lt, ← isShort_iff, text?]
  split <;> simp_all

end Numeral

namespace Value

theorem not_isLong_null : ¬ null.IsLong := by
  rintro ⟨⟩

theorem not_isLong_bool (b : Bool) : ¬ (bool b).IsLong := by
  rintro ⟨⟩

theorem not_isLong_float (x : Binary64) : ¬ (float x).IsLong := by
  rintro ⟨⟩

theorem not_isLong_string (text : String) : ¬ (string text).IsLong := by
  rintro ⟨⟩

theorem isLong_int_iff {n : Int} : (Value.int n).IsLong ↔ 10 ^ Numeral.digitLimit ≤ n.natAbs := by
  constructor
  · intro h
    cases h with
    | int h => exact h
  · exact .int

theorem not_isLong_int_iff {n : Int} : ¬ (Value.int n).IsLong ↔ Numeral.isShort n = true := by
  rw [isLong_int_iff, Numeral.isShort_iff, Nat.not_le]

theorem isLong_list_iff {items : List Value} :
    (Value.list items).IsLong ↔ ∃ item ∈ items, item.IsLong := by
  constructor
  · intro h
    cases h with
    | list hitem h => exact ⟨_, hitem, h⟩
  · rintro ⟨item, hitem, h⟩
    exact .list hitem h

theorem isLong_map_iff {entries : List (String × Value)} :
    (Value.map entries).IsLong ↔ ∃ entry ∈ entries, entry.2.IsLong := by
  constructor
  · intro h
    cases h with
    | map hentry h => exact ⟨_, hentry, h⟩
  · rintro ⟨entry, hentry, h⟩
    exact .map hentry h

theorem isLong_query_iff {tree : Query} : (Value.query tree).IsLong ↔ tree.IsLong := by
  constructor
  · intro h
    cases h with
    | query h => exact h
  · exact .query

end Value

namespace Query

theorem isLong_leaf_iff {term : String} {value : Value} {scope field : Option String}
    {fullText : Bool} {comparator : Option Comparator} :
    (leaf term value scope field fullText comparator).IsLong ↔ value.IsLong := by
  constructor
  · intro h
    cases h with
    | leaf h => exact h
  · exact .leaf

theorem isLong_hop_iff {term : String} {target : Query} {scope field targetScope : Option String} :
    (hop term target scope field targetScope).IsLong ↔ target.IsLong := by
  constructor
  · intro h
    cases h with
    | hop h => exact h
  · exact .hop

theorem isLong_group_iff {connective : Connective} {children : List Query}
    {scope : Option String} :
    (group connective children scope).IsLong ↔ ∃ child ∈ children, child.IsLong := by
  constructor
  · intro h
    cases h with
    | group hchild h => exact ⟨_, hchild, h⟩
  · rintro ⟨child, hchild, h⟩
    exact .group hchild h

end Query

/-- The least number with too many digits. -/
def Numeral.leastLong : Int := (10 ^ digitLimit : Nat)

theorem Value.isLong_leastLong : (Value.int Numeral.leastLong).IsLong :=
  .int (Nat.le_of_eq (Int.natAbs_natCast _).symm)

theorem Numeral.lt_leastLong {n : Nat} (h : n < 10) : (n : Int) < leastLong := by
  have hle : 10 ^ 1 ≤ 10 ^ digitLimit := Nat.pow_le_pow_right (by decide) (by decide)
  rw [Nat.pow_one] at hle
  exact Int.ofNat_lt.2 (Nat.lt_of_lt_of_le h hle)

/-! ### Shown values -/

/-- Two texts are there unless one of them is missing. -/
theorem bind_eq_none_iff_or {α β γ : Type} {first : Option α} {second : Option β} {f : α → β → γ} :
    (do let a ← first; let b ← second; return f a b) = none ↔ first = none ∨ second = none := by
  cases first <;> cases second <;> simp

/-- A text with others around it is there unless it is missing. -/
theorem bind_eq_none_iff_of_pure {α β : Type} {first : Option α} {f : α → β} :
    (do let a ← first; return f a) = none ↔ first = none := by
  cases first <;> simp

mutual

/-- A value can be shown unless a number in it is too long. -/
theorem Value.display?_eq_none_iff : ∀ {value : Value}, value.display? = none ↔ value.IsLong
  | .null => iff_of_false nofun Value.not_isLong_null
  | .bool b => iff_of_false nofun (Value.not_isLong_bool b)
  | .float x => iff_of_false nofun (Value.not_isLong_float x)
  | .string text => iff_of_false nofun (Value.not_isLong_string text)
  | .int n => by
    rw [Value.display?, Numeral.text?_eq_none_iff, Value.isLong_int_iff]
  | .list items => by
    rw [Value.display?, Option.map_eq_none_iff, displayItems?_eq_none_iff,
      Value.isLong_list_iff]
  | .map entries => by
    rw [Value.display?, Option.map_eq_none_iff, displayEntries?_eq_none_iff,
      Value.isLong_map_iff]
  | .query tree => by
    rw [Value.display?, Query.display?_eq_none_iff, Value.isLong_query_iff]

theorem displayItems?_eq_none_iff : ∀ {items : List Value},
    displayItems? items = none ↔ ∃ item ∈ items, item.IsLong
  | [] => ⟨nofun, nofun⟩
  | value :: rest => by
    rw [displayItems?, bind_eq_none_iff_or, Value.display?_eq_none_iff, displayItems?_eq_none_iff]
    simp only [List.mem_cons, exists_eq_or_imp]

theorem displayEntries?_eq_none_iff : ∀ {entries : List (String × Value)},
    displayEntries? entries = none ↔ ∃ entry ∈ entries, entry.2.IsLong
  | [] => ⟨nofun, nofun⟩
  | (key, value) :: rest => by
    rw [displayEntries?, bind_eq_none_iff_or, Value.display?_eq_none_iff,
      displayEntries?_eq_none_iff]
    simp only [List.mem_cons, exists_eq_or_imp]

/-- A tree can be shown unless a number in it is too long. -/
theorem Query.display?_eq_none_iff : ∀ {tree : Query}, tree.display? = none ↔ tree.IsLong
  | .record _ => ⟨nofun, nofun⟩
  | .leaf term value scope field fullText comparator => by
    rw [Query.display?, Option.map_eq_none_iff, Value.display?_eq_none_iff, Query.isLong_leaf_iff]
  | .hop term target scope field targetScope => by
    rw [Query.display?, Option.map_eq_none_iff, Query.display?_eq_none_iff, Query.isLong_hop_iff]
  | .group connective children scope => by
    rw [Query.display?, Option.map_eq_none_iff, displayTrees?_eq_none_iff,
      Query.isLong_group_iff]

theorem displayTrees?_eq_none_iff : ∀ {trees : List Query},
    displayTrees? trees = none ↔ ∃ tree ∈ trees, tree.IsLong
  | [] => ⟨nofun, nofun⟩
  | tree :: rest => by
    rw [displayTrees?, bind_eq_none_iff_or, Query.display?_eq_none_iff, displayTrees?_eq_none_iff]
    simp only [List.mem_cons, exists_eq_or_imp]

end

/-- What can be shown has a bare text. -/
theorem Value.exists_text {value : Value} (h : ¬ value.IsLong) : ∃ text, value.text = .ok text := by
  have hsome : value.plain?.isSome = true := by
    cases value with
    | string text => rfl
    | _ => exact Option.isSome_iff_ne_none.2 (mt display?_eq_none_iff.1 h)
  obtain ⟨text, htext⟩ := Option.isSome_iff_exists.1 hsome
  exact ⟨text, by rw [Value.text, htext]⟩

/-! ### Raised errors -/

/-- The value that the message of a cause shows. -/
def Invalid.shown? : Invalid → Option Value
  | emptyRecordId given | comparatorOnText _ given | unknownComparator _ given | notNumber _ given
  | notText _ given | notRecordId _ given | notTarget _ _ given | badLevel _ given
  | foreignCriteria given _ | notCondition given | foreignCondition given _ | templateId _ given
  | noDocumentId given => some given
  | _ => none

theorem Invalid.message?_eq_none_iff {cause : Invalid} :
    cause.message? = none ↔ ∃ given ∈ cause.shown?, given.IsLong := by
  simp only [← Value.display?_eq_none_iff]
  cases cause <;>
    simp only [message?, shown?, Option.mem_def, Option.some.injEq, exists_eq_left', reduceCtorEq,
      false_and, exists_false, bind_eq_none_iff_of_pure]

namespace Error

/-- An error with a text is raised as it is. -/
theorem raised_eq_self {error : Error} (h : error.message? ≠ none) : error.raised = error := by
  refine if_pos ?_
  cases error with
  | fields _ | misuse _ => rfl
  | _ => exact Option.isSome_iff_ne_none.2 h

/-- An error that should have a text but has none gives way to the number that is too long for it. -/
theorem raised_eq_numeralTooLong {error : Error} (htold : error.isTold = error.message?.isSome)
    (h : error.message? = none) : error.raised = .misuse .numeralTooLong := by
  rw [raised, htold, h]
  rfl

/-- A cause whose message shows nothing that is too long is raised as it is. -/
theorem raised_invalid {cause : Invalid} (h : ∀ given ∈ cause.shown?, ¬ given.IsLong) :
    (Error.invalid cause).raised = .invalid cause := by
  refine raised_eq_self ?_
  rw [message?, ne_eq, Invalid.message?_eq_none_iff]
  rintro ⟨given, hgiven, hlong⟩
  exact h given hgiven hlong

theorem raised_invalid_of_shown {cause : Invalid} {given : Value}
    (hgiven : cause.shown? = some given) (h : ¬ given.IsLong) :
    (Error.invalid cause).raised = .invalid cause := by
  refine raised_invalid fun shown hshown => ?_
  rw [hgiven] at hshown
  cases hshown
  exact h

/-- A number that is too long is at fault instead of the cause whose message would show it. -/
theorem raised_invalid_of_isLong {cause : Invalid} {given : Value}
    (hgiven : cause.shown? = some given) (h : given.IsLong) :
    (Error.invalid cause).raised = .misuse .numeralTooLong :=
  raised_eq_numeralTooLong rfl (Invalid.message?_eq_none_iff.2 ⟨given, hgiven, h⟩)

section

variable {given : Value}

theorem message?_unknownScope_eq_none_iff :
    (unknownScope given).message? = none ↔ given.IsLong := by
  rw [message?, bind_eq_none_iff_of_pure, Value.display?_eq_none_iff]

/-- What is no scope is named in the message, unless a number in it is too long. -/
theorem raised_unknownScope (h : ¬ given.IsLong) :
    (unknownScope given).raised = .unknownScope given :=
  raised_eq_self (mt message?_unknownScope_eq_none_iff.1 h)

theorem raised_unknownScope_of_isLong (h : given.IsLong) :
    (unknownScope given).raised = .misuse .numeralTooLong :=
  raised_eq_numeralTooLong rfl (message?_unknownScope_eq_none_iff.2 h)

end

section

variable {term : Term} {requested : Int} {allowed : Nat}

theorem message?_levelExceeded_eq_none_iff (h : (allowed : Int) < requested) :
    (levelExceeded term requested allowed).message? = none ↔ (Value.int requested).IsLong := by
  rw [message?, bind_eq_none_iff_or, Numeral.text?_eq_none_iff, Numeral.text?_eq_none_iff,
    Value.isLong_int_iff]
  -- The bound is lower than what is asked for, so it is too long only if that is.
  exact or_iff_right_of_imp fun hallowed => Nat.le_trans hallowed (by omega)

/-- A level above the bound is named in the message, unless it is too long. -/
theorem raised_levelExceeded (h : (allowed : Int) < requested)
    (hshort : ¬ (Value.int requested).IsLong) :
    (levelExceeded term requested allowed).raised = .levelExceeded term requested allowed :=
  raised_eq_self (mt (message?_levelExceeded_eq_none_iff h).1 hshort)

theorem raised_levelExceeded_of_isLong (h : (allowed : Int) < requested)
    (hlong : (Value.int requested).IsLong) :
    (levelExceeded term requested allowed).raised = .misuse .numeralTooLong :=
  raised_eq_numeralTooLong rfl ((message?_levelExceeded_eq_none_iff h).2 hlong)

end

end Error

end ScopedSearch
