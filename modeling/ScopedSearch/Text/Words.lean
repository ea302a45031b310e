import ScopedSearch.Text.Split

/-!
# Words of an identifier

Identifiers such as `carriedOutBy` and `HTMLParser` are words run together. A word begins at a
capital that follows a small letter or a digit, and at the last capital of several when a small
letter follows it. Only ASCII letters and digits make boundaries.
-/

namespace ScopedSearch.Text

/-- A word begins at `first` between the character before it and the one after it, if any. -/
def beginsWord (before first : Char) (after : Option Char) : Bool :=
  first.isUpper
    && (before.isLower || before.isDigit || (before.isUpper && after.any Char.isLower))

/-- The words that characters consist of, in order and none of them empty. -/
def splitWords : List Char → List (List Char)
  | [] => []
  | [c] => [[c]]
  | c :: first :: rest =>
    let words := splitWords (first :: rest)
    if beginsWord c first rest.head? then [c] :: words else consFirst c words

/-- The words of a text with spaces between them. -/
def spaceWords (s : String) : String :=
  String.ofList ([' '].intercalate (splitWords s.toList))

/-- Splitting loses and changes no character. -/
theorem splitWords_flatten (cs : List Char) : (splitWords cs).flatten = cs := by
  fun_induction splitWords cs with
  | case1 => rfl
  | case2 => rfl
  | case3 c first rest words _ ih => rw [List.flatten_cons, ih]; rfl
  | case4 c first rest words _ ih => rw [consFirst_flatten, ih]

theorem nil_notMem_consFirst {c : Char} {words : List (List Char)} (h : [] ∉ words) :
    [] ∉ consFirst c words := by
  cases words <;> simp_all [consFirst]

theorem nil_notMem_splitWords (cs : List Char) : [] ∉ splitWords cs := by
  fun_induction splitWords cs with
  | case1 => simp
  | case2 => simp
  | case3 c first rest words _ ih => simpa using ih
  | case4 c first rest words _ ih => exact nil_notMem_consFirst ih

end ScopedSearch.Text
