/-!
# Splitting text at a mark

Text is cut at every occurrence of a mark, which belongs to no part. There is one part more than
there are marks, so parts may be empty.
-/

namespace ScopedSearch.Text

/-- Puts a character in front of the first part. -/
def consFirst (c : Char) : List (List Char) → List (List Char)
  | [] => [[c]]
  | part :: rest => (c :: part) :: rest

def splitAtMark (mark : Char) : List Char → List (List Char)
  | [] => [[]]
  | c :: rest =>
    if c = mark then [] :: splitAtMark mark rest else consFirst c (splitAtMark mark rest)

def splitText (mark : Char) (s : String) : List String :=
  (splitAtMark mark s.toList).map String.ofList

theorem consFirst_flatten (c : Char) (parts : List (List Char)) :
    (consFirst c parts).flatten = c :: parts.flatten := by
  cases parts <;> rfl

theorem splitAtMark_ne_nil (mark : Char) (cs : List Char) : splitAtMark mark cs ≠ [] := by
  induction cs with
  | nil => simp [splitAtMark]
  | cons c rest ih =>
    unfold splitAtMark
    split
    · simp
    · cases h : splitAtMark mark rest <;> simp_all [consFirst]

/-- Characters without a mark are one part. -/
theorem splitAtMark_of_notMem {mark : Char} {cs : List Char} (h : mark ∉ cs) :
    splitAtMark mark cs = [cs] := by
  induction cs with
  | nil => rfl
  | cons c rest ih =>
    rw [List.mem_cons, not_or] at h
    rw [splitAtMark, if_neg (Ne.symm h.1), ih h.2, consFirst]

/-- A part without a mark, followed by a mark, is the first part. -/
theorem splitAtMark_append {mark : Char} {cs : List Char} (h : mark ∉ cs) (rest : List Char) :
    splitAtMark mark (cs ++ mark :: rest) = cs :: splitAtMark mark rest := by
  induction cs with
  | nil => simp [splitAtMark]
  | cons c cs ih =>
    rw [List.mem_cons, not_or] at h
    rw [List.cons_append, splitAtMark, if_neg (Ne.symm h.1), ih h.2, consFirst]

/-- Parts without a mark, joined by marks, are the parts that the text is cut into. -/
theorem splitAtMark_intercalate {mark : Char} {parts : List (List Char)} (hne : parts ≠ [])
    (h : ∀ part ∈ parts, mark ∉ part) : splitAtMark mark ([mark].intercalate parts) = parts := by
  induction parts with
  | nil => exact absurd rfl hne
  | cons first rest ih =>
    rw [List.forall_mem_cons] at h
    cases rest with
    | nil => rw [List.intercalate_singleton, splitAtMark_of_notMem h.1]
    | cons second rest =>
      have hrest := ih (List.cons_ne_nil _ _) h.2
      rw [List.intercalate_cons_cons, List.append_assoc, List.singleton_append,
        splitAtMark_append h.1, hrest]

/-- Texts without a mark, joined by marks, are the parts that the text is cut into. -/
theorem splitText_intercalate {mark : Char} {joint : String} (hjoint : joint.toList = [mark])
    {parts : List String} (hne : parts ≠ []) (h : ∀ part ∈ parts, mark ∉ part.toList) :
    splitText mark (joint.intercalate parts) = parts := by
  have hparts : ∀ part ∈ parts.map String.toList, mark ∉ part := by
    rw [List.forall_mem_map]
    exact h
  have hcut := splitAtMark_intercalate (mt List.map_eq_nil_iff.1 hne) hparts
  rw [splitText, String.toList_intercalate, hjoint, hcut, List.map_map]
  exact List.map_id'' (fun _ => String.ofList_toList) parts

end ScopedSearch.Text
