import ScopedSearch.Text.Words

/-!
# Spaces at case boundaries

Where a word of a text ends and another begins is seen from the characters around the place alone
(`Text.BoundaryAfter`). Words with spaces between them are the text with a space at every such place and
nowhere else (`Text.intercalate_splitWords`). A space makes no boundary with the characters around it,
and none arises between characters that stay side by side (`Text.boundaryAfter_of_spaced`), so that none
is left (`Text.not_boundaryAfter_spaced`) and the words of a spaced text are spaced already.
-/

namespace ScopedSearch.Text

/-! ### Boundaries -/

/-- A case boundary lies behind the character at a position: a small letter or a digit with a capital
behind it, or a capital with another one behind it that a small letter follows. Letters and digits are
those of ASCII. -/
def BoundaryAfter (cs : List Char) (i : Nat) : Prop :=
  ∃ left ∈ cs[i]?, ∃ right ∈ cs[i + 1]?,
    ((left.isLower ∨ left.isDigit) ∧ right.isUpper) ∨
      (left.isUpper ∧ right.isUpper ∧ cs[i + 2]?.any Char.isLower)

-- Found by itself, the instance for `∃ left` may be the one that tries every character there is.
instance (cs : List Char) (i : Nat) : Decidable (BoundaryAfter cs i) :=
  @Option.decidableExistsMem Char _
    (fun _ => @Option.decidableExistsMem Char _ (fun _ => inferInstance) cs[i + 1]?) cs[i]?

/-- The characters with a space behind each that a case boundary lies behind. -/
def spaced (cs : List Char) : List Char :=
  (cs.mapIdx fun i c => if BoundaryAfter cs i then [c, ' '] else [c]).flatten

variable {c first : Char} {cs rest : List Char} {words : List (List Char)}

/-- What lies in front of a place does not matter. -/
theorem boundaryAfter_cons_succ {i : Nat} :
    BoundaryAfter (c :: cs) (i + 1) ↔ BoundaryAfter cs i := Iff.rfl

theorem not_boundaryAfter_singleton (c : Char) : ¬ BoundaryAfter [c] 0 := by
  rintro ⟨left, -, right, hright, -⟩
  cases hright

/-- A boundary is where a word begins. -/
theorem boundaryAfter_zero_iff :
    BoundaryAfter (c :: first :: rest) 0 ↔ beginsWord c first rest.head? = true := by
  have hnext : (c :: first :: rest)[0 + 2]? = rest.head? := by cases rest <;> rfl
  unfold BoundaryAfter beginsWord
  rw [hnext]
  constructor
  · rintro ⟨_, ⟨⟩, _, ⟨⟩, h⟩
    grind
  · intro h
    exact ⟨c, rfl, first, rfl, by grind⟩

theorem space_classes : ' '.isLower = false ∧ ' '.isDigit = false ∧ ' '.isUpper = false := by decide

/-- A space is no part of a boundary. -/
theorem not_boundaryAfter_space (cs : List Char) : ¬ BoundaryAfter (' ' :: cs) 0 := by
  cases cs with
  | nil => exact not_boundaryAfter_singleton ' '
  | cons first rest =>
    rw [boundaryAfter_zero_iff]
    simp [beginsWord, space_classes]

theorem not_boundaryAfter_cons_space (c : Char) (cs : List Char) :
    ¬ BoundaryAfter (c :: ' ' :: cs) 0 := by
  rw [boundaryAfter_zero_iff]
  simp [beginsWord, space_classes]

/-! ### Spaces -/

theorem spaced_cons (c : Char) (cs : List Char) :
    spaced (c :: cs) = (if BoundaryAfter (c :: cs) 0 then [c, ' '] else [c]) ++ spaced cs := by
  rw [spaced, List.mapIdx_cons, List.flatten_cons]
  rfl

theorem spaced_of_boundary (h : BoundaryAfter (c :: cs) 0) :
    spaced (c :: cs) = c :: ' ' :: spaced cs := by
  rw [spaced_cons, if_pos h]
  rfl

theorem spaced_of_not_boundary (h : ¬ BoundaryAfter (c :: cs) 0) :
    spaced (c :: cs) = c :: spaced cs := by
  rw [spaced_cons, if_neg h]
  rfl

theorem head?_spaced (cs : List Char) : (spaced cs).head? = cs.head? := by
  cases cs with
  | nil => rfl
  | cons c cs =>
    by_cases h : BoundaryAfter (c :: cs) 0
    · rw [spaced_of_boundary h, List.head?_cons, List.head?_cons]
    · rw [spaced_of_not_boundary h, List.head?_cons, List.head?_cons]

theorem intercalate_singleton_cons (h : words ≠ []) :
    [' '].intercalate ([c] :: words) = c :: ' ' :: [' '].intercalate words := by
  obtain ⟨word, words, rfl⟩ := List.exists_cons_of_ne_nil h
  rw [List.intercalate_cons_cons]
  rfl

theorem intercalate_consFirst (h : words ≠ []) :
    [' '].intercalate (consFirst c words) = c :: [' '].intercalate words := by
  obtain ⟨word, words, rfl⟩ := List.exists_cons_of_ne_nil h
  cases words with
  | nil => rw [consFirst, List.intercalate_singleton, List.intercalate_singleton]
  | cons second words =>
    rw [consFirst, List.intercalate_cons_cons, List.intercalate_cons_cons]
    rfl

theorem splitWords_ne_nil (hcs : cs ≠ []) : splitWords cs ≠ [] := by
  intro h
  have hflatten := splitWords_flatten cs
  rw [h] at hflatten
  exact hcs hflatten.symm

/-- Words with spaces between them are the characters with a space at every boundary. -/
theorem intercalate_splitWords (cs : List Char) :
    [' '].intercalate (splitWords cs) = spaced cs := by
  fun_induction splitWords cs with
  | case1 => rfl
  | case2 c =>
    rw [List.intercalate_singleton, spaced_of_not_boundary (not_boundaryAfter_singleton c)]
    rfl
  | case3 c first rest words hbegins ih =>
    have hboundary : BoundaryAfter (c :: first :: rest) 0 := boundaryAfter_zero_iff.2 hbegins
    rw [intercalate_singleton_cons (splitWords_ne_nil (by simp)), ih, spaced_of_boundary hboundary]
  | case4 c first rest words hbegins ih =>
    have hboundary : ¬ BoundaryAfter (c :: first :: rest) 0 := mt boundaryAfter_zero_iff.1 hbegins
    rw [intercalate_consFirst (splitWords_ne_nil (by simp)), ih, spaced_of_not_boundary hboundary]

theorem toList_spaceWords (s : String) : (spaceWords s).toList = spaced s.toList := by
  rw [spaceWords, String.toList_ofList, intercalate_splitWords]

/-! ### Spaced characters -/

/-- Behind a character there is no boundary before spaced characters if there was none before. -/
theorem boundaryAfter_of_spaced (h : BoundaryAfter (c :: spaced cs) 0) :
    BoundaryAfter (c :: cs) 0 := by
  cases cs with
  | nil => exact h
  | cons first rest =>
    by_cases hfirst : BoundaryAfter (first :: rest) 0
    · -- A space follows `first`, so only what stands before it can have made the boundary.
      rw [spaced_of_boundary hfirst, boundaryAfter_zero_iff] at h
      rw [boundaryAfter_zero_iff]
      simp_all [beginsWord, space_classes]
    · rw [spaced_of_not_boundary hfirst, boundaryAfter_zero_iff, head?_spaced] at h
      exact boundaryAfter_zero_iff.2 h

/-- No boundary is left between characters once spaces are put. -/
theorem not_boundaryAfter_spaced (cs : List Char) (i : Nat) : ¬ BoundaryAfter (spaced cs) i := by
  induction cs generalizing i with
  | nil =>
    rintro ⟨left, hleft, -⟩
    cases hleft
  | cons c cs ih =>
    by_cases h : BoundaryAfter (c :: cs) 0
    · rw [spaced_of_boundary h]
      match i with
      | 0 => exact not_boundaryAfter_cons_space c (spaced cs)
      | 1 => exact mt boundaryAfter_cons_succ.1 (not_boundaryAfter_space (spaced cs))
      | i + 2 => exact mt (boundaryAfter_cons_succ.1 ∘ boundaryAfter_cons_succ.1) (ih i)
    · rw [spaced_of_not_boundary h]
      match i with
      | 0 => exact mt boundaryAfter_of_spaced h
      | i + 1 => exact mt boundaryAfter_cons_succ.1 (ih i)

/-- Without a boundary no space is put. -/
theorem spaced_eq_self (h : ∀ i, ¬ BoundaryAfter cs i) : spaced cs = cs := by
  induction cs with
  | nil => rfl
  | cons c cs ih =>
    rw [spaced_of_not_boundary (h 0), ih fun i => mt boundaryAfter_cons_succ.2 (h (i + 1))]

/-- The words of a text are its characters, cut: together they give it back. With spaces between them they
are the text with a space at every case boundary and nowhere else. So no boundary is left, and words of
the result, with spaces between them, are the result. -/
theorem spaces_exactly_at_boundaries (s : String) :
    ((splitWords s.toList).flatten = s.toList ∧ [] ∉ splitWords s.toList ∧
        (spaceWords s).toList = [' '].intercalate (splitWords s.toList)) ∧
      (spaceWords s).toList = spaced s.toList ∧
      (∀ i, ¬ BoundaryAfter (spaceWords s).toList i) ∧
      spaceWords (spaceWords s) = spaceWords s := by
  have hnone : ∀ i, ¬ BoundaryAfter (spaceWords s).toList i := by
    rw [toList_spaceWords]
    exact not_boundaryAfter_spaced s.toList
  refine ⟨⟨splitWords_flatten s.toList, nil_notMem_splitWords s.toList, ?_⟩,
    toList_spaceWords s, hnone, ?_⟩
  · rw [toList_spaceWords, intercalate_splitWords]
  · apply String.toList_injective
    rw [toList_spaceWords, spaced_eq_self hnone]

/-- An acronym, a digit and a capital that ends the text. -/
example : spaceWords "HTMLParser2GoXY" = "HTML Parser2 Go XY" := by decide

end ScopedSearch.Text
