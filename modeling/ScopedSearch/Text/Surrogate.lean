/-!
# Lone surrogates

JSON writes a character beyond U+FFFF as a pair of surrogates, and nothing keeps a text from writing
one half without the other. Such a half is a code point but no character, so no string holds it.
Text is therefore kept: a lone surrogate as a mark and the private-use character that lies
`0x100000` above it, the character that serves as the mark as two of them, and every other character
as itself. Whatever shows, measures or writes text goes by its code points.
-/

namespace ScopedSearch.Text

/-- The number is a surrogate, half of the code of a character. -/
def isSurrogate (unit : Nat) : Bool := 0xd800 ≤ unit && unit ≤ 0xdfff

/-- What text consists of. -/
inductive CodePoint where
  | char (c : Char)
  | surrogate (unit : Nat)
  deriving DecidableEq, Repr

/-- The mark of a lone surrogate: the last code point there is, which stands for no character. -/
def surrogateMark : Char := Char.ofNat 0x10ffff

/-- The surrogate that this character is kept for after a mark. -/
def markedSurrogate? (c : Char) : Option Nat :=
  if isSurrogate (c.toNat - 0x100000) then some (c.toNat - 0x100000) else none

namespace CodePoint

def ofNat (n : Nat) : CodePoint := if isSurrogate n then .surrogate n else .char (Char.ofNat n)

/-- The character, unless it is a surrogate. -/
def char? : CodePoint → Option Char
  | char c => some c
  | surrogate _ => none

/-- The surrogate, unless it is a character. -/
def surrogate? : CodePoint → Option Nat
  | char _ => none
  | surrogate unit => some unit

/-- The characters that a code point is kept as. -/
def kept : CodePoint → List Char
  | char c => if c = surrogateMark then [surrogateMark, surrogateMark] else [c]
  | surrogate unit => [surrogateMark, Char.ofNat (0x100000 + unit)]

end CodePoint

/-- The code point that two characters are kept for. -/
def pair? (c d : Char) : Option CodePoint :=
  if c ≠ surrogateMark then none
  else if d = surrogateMark then some (.char surrogateMark)
  else (markedSurrogate? d).map .surrogate

/-- The code points of a kept text. A mark in front of anything else stands for itself. -/
def codePoints : List Char → List CodePoint
  | [] => []
  | [c] => [.char c]
  | c :: d :: rest =>
    match pair? c d with
    | some point => point :: codePoints rest
    | none => .char c :: codePoints (d :: rest)

/-- A text without lone surrogates as it is kept. -/
def keep (s : String) : String := String.ofList (s.toList.flatMap fun c => (CodePoint.char c).kept)

/-- The text that is kept, unless some code point of it is a lone surrogate. -/
def release? (s : String) : Option String :=
  ((codePoints s.toList).mapM CodePoint.char?).map String.ofList

/-- Some code point of the text is a lone surrogate. -/
def hasLoneSurrogate (s : String) : Bool := (release? s).isNone

theorem markedSurrogate?_ofNat {unit : Nat} (h : isSurrogate unit = true) :
    markedSurrogate? (Char.ofNat (0x100000 + unit)) = some unit := by
  have bounds : 0xd800 ≤ unit ∧ unit ≤ 0xdfff := by simpa [isSurrogate] using h
  have valid : (0x100000 + unit).isValidChar := .inr ⟨by omega, by omega⟩
  have code : (Char.ofNat (0x100000 + unit)).toNat - 0x100000 = unit := by
    rw [Char.ofNat, dif_pos valid]
    change (0x100000 + unit) - 0x100000 = unit
    omega
  rw [markedSurrogate?, code, if_pos h]

theorem pair?_of_ne {c : Char} (h : c ≠ surrogateMark) (d : Char) : pair? c d = none := if_pos h

theorem pair?_surrogateMark : pair? surrogateMark surrogateMark = some (.char surrogateMark) := by
  rw [pair?, if_neg (not_not_intro rfl), if_pos rfl]

theorem pair?_surrogate {unit : Nat} (h : isSurrogate unit = true) :
    pair? surrogateMark (Char.ofNat (0x100000 + unit)) = some (.surrogate unit) := by
  have marked := markedSurrogate?_ofNat h
  have notMark : Char.ofNat (0x100000 + unit) ≠ surrogateMark := by
    intro equal
    rw [equal] at marked
    exact nomatch marked.symm.trans (if_neg (by decide))
  rw [pair?, if_neg (not_not_intro rfl), if_neg notMark, marked, Option.map_some]

/-- A character is read as it was kept, whatever comes after it. -/
theorem codePoints_kept_char (c : Char) (rest : List Char) :
    codePoints ((CodePoint.char c).kept ++ rest) = .char c :: codePoints rest := by
  by_cases hc : c = surrogateMark
  · rw [CodePoint.kept, if_pos hc, hc]
    simp only [List.cons_append, List.nil_append, codePoints, pair?_surrogateMark]
  · rw [CodePoint.kept, if_neg hc]
    cases rest with
    | nil => rfl
    | cons d rest => simp only [List.cons_append, List.nil_append, codePoints, pair?_of_ne hc]

/-- A lone surrogate is read as it was kept, whatever comes after it. -/
theorem codePoints_kept_surrogate {unit : Nat} (h : isSurrogate unit = true) (rest : List Char) :
    codePoints ((CodePoint.surrogate unit).kept ++ rest) = .surrogate unit :: codePoints rest := by
  simp only [CodePoint.kept, List.cons_append, List.nil_append, codePoints, pair?_surrogate h]

theorem codePoints_flatMap_kept (cs : List Char) :
    codePoints (cs.flatMap fun c => (CodePoint.char c).kept) = cs.map .char := by
  induction cs with
  | nil => rfl
  | cons c cs ih => rw [List.flatMap_cons, codePoints_kept_char, ih, List.map_cons]

/-- Every text without lone surrogates is released as it was kept. -/
theorem release?_keep (s : String) : release? (keep s) = some s := by
  have chars : ∀ cs : List Char, (cs.map CodePoint.char).mapM CodePoint.char? = some cs := by
    intro cs
    induction cs with
    | nil => rfl
    | cons c cs ih => simp [List.mapM_cons, ih, CodePoint.char?]
  rw [release?, keep, String.toList_ofList, codePoints_flatMap_kept, chars]
  simp

end ScopedSearch.Text
