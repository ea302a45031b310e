import ScopedSearch.Text.Split

/-!
# Lines of text

A line ends at a line break and the last one at the end of the text, so a text that ends in a break
has no empty line after it. A carriage return and the line feed after it are one break.
-/

namespace ScopedSearch.Text

/-- The codes of the characters that end a line. -/
def lineBreaks : List Nat := [0x0a, 0x0b, 0x0c, 0x0d, 0x1c, 0x1d, 0x1e, 0x85, 0x2028, 0x2029]

def isLineBreak (c : Char) : Bool := lineBreaks.contains c.toNat

def splitAtBreaks : List Char → List (List Char)
  | [] => [[]]
  | '\r' :: '\n' :: rest => [] :: splitAtBreaks rest
  | c :: rest =>
    if isLineBreak c then [] :: splitAtBreaks rest else consFirst c (splitAtBreaks rest)

/-- The parts without an empty one at the end. -/
def dropEmptyEnd (parts : List (List Char)) : List (List Char) :=
  if parts.getLast? = some [] then parts.dropLast else parts

def lines (s : String) : List String := (dropEmptyEnd (splitAtBreaks s.toList)).map String.ofList

/-- Characters without a line break are one part. -/
theorem splitAtBreaks_of_noBreak {cs : List Char} (h : ∀ c ∈ cs, isLineBreak c = false) :
    splitAtBreaks cs = [cs] := by
  induction cs with
  | nil => rfl
  | cons c rest ih =>
    have hc : isLineBreak c = false := h c (by simp)
    rw [splitAtBreaks, hc, ih fun d hd => h d (by simp [hd])]
    · rfl
    · rintro tail rfl -
      exact absurd hc (by decide)

/-- Characters without a line break, followed by a line feed, are the first part. -/
theorem splitAtBreaks_append {cs : List Char} (h : ∀ c ∈ cs, isLineBreak c = false)
    (rest : List Char) : splitAtBreaks (cs ++ '\n' :: rest) = cs :: splitAtBreaks rest := by
  induction cs with
  | nil =>
    rw [List.nil_append, splitAtBreaks, if_pos (by decide)]
    intro tail hc
    exact absurd hc (by decide)
  | cons c cs ih =>
    have hc : isLineBreak c = false := h c (by simp)
    rw [List.cons_append, splitAtBreaks, hc, ih fun d hd => h d (by simp [hd])]
    · rfl
    · rintro tail rfl -
      exact absurd hc (by decide)

end ScopedSearch.Text
