import ScopedSearch.Text.Range

/-!
# White space

Two sets of white space are told apart: the characters with the Unicode property White_Space, and
those together with the four information separators U+001C to U+001F, which count as blank in text
that people type.
-/

namespace ScopedSearch.Text

def whiteSpaceRanges : List CodeRange :=
  [(0x09, 0x0d), (0x20, 0x20), (0x85, 0x85), (0xa0, 0xa0), (0x1680, 0x1680), (0x2000, 0x200a),
   (0x2028, 0x2029), (0x202f, 0x202f), (0x205f, 0x205f), (0x3000, 0x3000)]

def isWhiteSpace (c : Char) : Bool := inRanges whiteSpaceRanges c

/-- White space and the information separators. -/
def isBlank (c : Char) : Bool := isWhiteSpace c || inRanges [(0x1c, 0x1f)] c

/-- Characters without those at either end that satisfy `p`. -/
def trimChars (p : Char → Bool) (cs : List Char) : List Char :=
  ((cs.dropWhile p).reverse.dropWhile p).reverse

/-- Text without the blanks at its ends. -/
def trim (s : String) : String := String.ofList (trimChars isBlank s.toList)

/-- Text with no character but blanks. -/
def allBlank (s : String) : Bool := s.toList.all isBlank

theorem isBlank_of_isWhitespace {c : Char} (h : c.isWhitespace = true) : isBlank c = true := by
  simp only [Char.isWhitespace, Bool.or_eq_true, decide_eq_true_eq] at h
  rcases h with ((h | h) | h) | h <;> subst h <;> decide

end ScopedSearch.Text
