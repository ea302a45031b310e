import ScopedSearch.Label
import ScopedSearch.Proofs.CaseBoundaries
import ScopedSearch.Proofs.UpperCase
import Mathlib.Data.List.TakeWhile

/-!
# Every key has a label

A key without a label in the table gets one that is made from its names: words that are cut out at case
boundaries, with blanks between them and the first character in upper case (`Label.IsTitle`). The cuts are
determined by the characters alone (`Text.splitWords_eq_iff`), and nothing is lost by them, so that the
title of some characters is never empty. The first name is taken if there is one, else all the names
together, and a key of hyphens has the label that stands for none: in each case there is a label, and
only one (`LabelTable.every_key_labelled`).
-/

namespace ScopedSearch

open ScopedSearch.Text

/-! ### Words at case boundaries -/

namespace Text

/-- A word ends after the characters: they are the words from the first up to one. -/
def EndsAfter (words : List (List Char)) (front : List Char) : Prop :=
  ∃ left right, words = left ++ right ∧ left.flatten = front

/-- The words are what is left of characters that are cut at case boundaries: together they are the
characters, none of them is empty, and one ends between two characters exactly if a case boundary lies
there. -/
structure CutAtCases (cs : List Char) (words : List (List Char)) : Prop where
  flatten : words.flatten = cs
  nonempty : [] ∉ words
  boundary : ∀ front before first rest, cs = front ++ before :: first :: rest →
    (EndsAfter words (front ++ [before]) ↔ BoundaryAfter cs front.length)

variable {c first : Char} {front rest cs : List Char} {words others : List (List Char)}

theorem endsAfter_singleton_cons : EndsAfter ([c] :: words) (c :: front) ↔ EndsAfter words front := by
  constructor
  · rintro ⟨_ | ⟨word, left⟩, right, hwords, hfront⟩
    · cases hfront
    · obtain ⟨rfl, rfl⟩ := List.cons.inj hwords
      exact ⟨left, right, rfl, (List.cons.inj hfront).2⟩
  · rintro ⟨left, right, rfl, rfl⟩
    exact ⟨[c] :: left, right, rfl, rfl⟩

theorem endsAfter_consFirst (hwords : words ≠ []) (hfront : front ≠ []) :
    EndsAfter (consFirst c words) (c :: front) ↔ EndsAfter words front := by
  obtain ⟨word, words, rfl⟩ := List.exists_cons_of_ne_nil hwords
  constructor
  · rintro ⟨_ | ⟨other, left⟩, right, hcut, hflatten⟩
    · cases hflatten
    · obtain ⟨rfl, rfl⟩ := List.cons.inj hcut
      exact ⟨word :: left, right, rfl, (List.cons.inj hflatten).2⟩
  · rintro ⟨_ | ⟨other, left⟩, right, hcut, hflatten⟩
    · exact absurd hflatten.symm hfront
    · obtain ⟨rfl, rfl⟩ := List.cons.inj hcut
      exact ⟨(c :: word) :: left, right, rfl, congrArg (c :: ·) hflatten⟩

/-- Only a word of one character ends after the first character. -/
theorem endsAfter_singleton_iff (h : [] ∉ words) :
    EndsAfter words [c] ↔ ∃ others, words = [c] :: others := by
  constructor
  · rintro ⟨_ | ⟨word, left⟩, right, rfl, hflatten⟩
    · cases hflatten
    · cases word with
      | nil => exact absurd List.mem_cons_self h
      | cons d word =>
        obtain ⟨rfl, hnil⟩ := List.cons.inj hflatten
        obtain ⟨rfl, -⟩ := List.append_eq_nil_iff.1 hnil
        exact ⟨left ++ right, rfl⟩
  · rintro ⟨others, rfl⟩
    exact ⟨[[c]], others, rfl, rfl⟩

theorem consFirst_ne_singleton_cons (hwords : words ≠ []) (h : [] ∉ words) :
    consFirst c words ≠ [c] :: others := by
  obtain ⟨word, words, rfl⟩ := List.exists_cons_of_ne_nil hwords
  intro heq
  obtain ⟨hword, -⟩ := List.cons.inj heq
  obtain rfl : word = [] := (List.cons.inj hword).2
  exact h List.mem_cons_self

theorem CutAtCases.ne_nil (h : CutAtCases cs words) (hcs : cs ≠ []) : words ≠ [] := by
  rintro rfl
  exact hcs h.flatten.symm

/-- A cut after the first character. -/
theorem cutAtCases_singleton_cons_iff (hboundary : BoundaryAfter (c :: first :: rest) 0) :
    CutAtCases (c :: first :: rest) ([c] :: words) ↔ CutAtCases (first :: rest) words := by
  constructor
  · intro h
    refine ⟨(List.cons.inj h.flatten).2, fun hmem => h.nonempty (List.mem_cons_of_mem _ hmem), ?_⟩
    intro front before second others hcs
    rw [← endsAfter_singleton_cons (c := c)]
    exact h.boundary (c :: front) before second others (congrArg (c :: ·) hcs)
  · intro h
    refine ⟨congrArg (c :: ·) h.flatten, by simpa using h.nonempty, ?_⟩
    rintro (_ | ⟨d, front⟩) before second others hcs
    · obtain ⟨rfl, rfl, rfl⟩ : c = before ∧ first = second ∧ rest = others := by simpa using hcs
      exact iff_of_true ⟨[[c]], words, rfl, rfl⟩ hboundary
    · obtain ⟨rfl, hrest⟩ := List.cons.inj hcs
      rw [List.cons_append, endsAfter_singleton_cons]
      exact h.boundary front before second others hrest

/-- No cut after the first character. -/
theorem cutAtCases_consFirst_iff (hwords : words ≠ []) (hnonempty : [] ∉ words)
    (hboundary : ¬ BoundaryAfter (c :: first :: rest) 0) :
    CutAtCases (c :: first :: rest) (consFirst c words) ↔ CutAtCases (first :: rest) words := by
  constructor
  · intro h
    have hflatten := h.flatten
    rw [consFirst_flatten] at hflatten
    refine ⟨(List.cons.inj hflatten).2, hnonempty, ?_⟩
    intro front before second others hcs
    rw [← endsAfter_consFirst (c := c) hwords (by simp)]
    exact h.boundary (c :: front) before second others (congrArg (c :: ·) hcs)
  · intro h
    refine ⟨by rw [consFirst_flatten, h.flatten], nil_notMem_consFirst hnonempty, ?_⟩
    rintro (_ | ⟨d, front⟩) before second others hcs
    · obtain ⟨rfl, rfl, rfl⟩ : c = before ∧ first = second ∧ rest = others := by simpa using hcs
      refine iff_of_false (fun hends => ?_) hboundary
      obtain ⟨others, hothers⟩ :=
        (endsAfter_singleton_iff (nil_notMem_consFirst hnonempty)).1 hends
      exact consFirst_ne_singleton_cons hwords hnonempty hothers
    · obtain ⟨rfl, hrest⟩ := List.cons.inj hcs
      rw [List.cons_append, endsAfter_consFirst hwords (by simp)]
      exact h.boundary front before second others hrest

/-- Words end where others begin. -/
theorem cutAtCases_splitWords (cs : List Char) : CutAtCases cs (splitWords cs) := by
  fun_induction splitWords cs with
  | case1 => exact ⟨rfl, by simp, by simp⟩
  | case2 c =>
    refine ⟨rfl, by simp, fun front before first rest hcs => ?_⟩
    have hlength : 1 = front.length + (rest.length + 1 + 1) := by
      simpa using congrArg List.length hcs
    omega
  | case3 c first rest words hbegins ih =>
    exact (cutAtCases_singleton_cons_iff (boundaryAfter_zero_iff.2 hbegins)).2 ih
  | case4 c first rest words hbegins ih =>
    have hboundary : ¬ BoundaryAfter (c :: first :: rest) 0 := mt boundaryAfter_zero_iff.1 hbegins
    exact (cutAtCases_consFirst_iff (ih.ne_nil (by simp)) ih.nonempty hboundary).2 ih

theorem eq_nil_of_flatten_eq_nil (h : words.flatten = []) (hnonempty : [] ∉ words) :
    words = [] := by
  refine List.eq_nil_iff_forall_not_mem.2 fun word hword => ?_
  have hnil := List.flatten_eq_nil_iff.1 h word hword
  exact hnonempty (hnil ▸ hword)

/-- The first character is a word of its own or begins the first word. -/
theorem exists_of_flatten_eq_cons (h : words.flatten = c :: cs) (hnonempty : [] ∉ words) :
    ∃ others, [] ∉ others ∧ others.flatten = cs ∧
      (words = [c] :: others ∨ words = consFirst c others) := by
  cases words with
  | nil => cases h
  | cons word others =>
    rw [List.mem_cons, not_or] at hnonempty
    obtain ⟨d, word, rfl⟩ := List.exists_cons_of_ne_nil (Ne.symm hnonempty.1)
    obtain ⟨rfl, hcs⟩ := List.cons.inj h
    cases word with
    | nil => exact ⟨others, hnonempty.2, hcs, .inl rfl⟩
    | cons e word => exact ⟨(e :: word) :: others, by simpa using hnonempty.2, hcs, .inr rfl⟩

/-- There is one way to cut characters at their case boundaries. -/
theorem splitWords_eq_iff : splitWords cs = words ↔ CutAtCases cs words := by
  refine ⟨fun h => h ▸ cutAtCases_splitWords cs, fun h => ?_⟩
  induction cs generalizing words with
  | nil => exact (eq_nil_of_flatten_eq_nil h.flatten h.nonempty).symm
  | cons c cs ih =>
    obtain ⟨others, hnonempty, hothers, hwords⟩ := exists_of_flatten_eq_cons h.flatten h.nonempty
    cases cs with
    | nil =>
      obtain rfl := eq_nil_of_flatten_eq_nil hothers hnonempty
      obtain rfl | rfl := hwords <;> rfl
    | cons first rest =>
      have hne : others ≠ [] := by
        rintro rfl
        cases hothers
      -- Whether the first character is a word tells which of the two forms the words have.
      have hends : EndsAfter words [c] ↔ BoundaryAfter (c :: first :: rest) 0 :=
        h.boundary [] c first rest rfl
      rw [endsAfter_singleton_iff h.nonempty] at hends
      rw [splitWords]
      by_cases hboundary : BoundaryAfter (c :: first :: rest) 0
      · obtain ⟨rest', rfl⟩ := hends.2 hboundary
        rw [if_pos (boundaryAfter_zero_iff.1 hboundary),
          ih ((cutAtCases_singleton_cons_iff hboundary).1 h)]
      · obtain rfl | rfl := hwords
        · exact absurd (hends.1 ⟨others, rfl⟩) hboundary
        · have hcut := cutAtCases_consFirst_iff hne hnonempty hboundary
          rw [if_neg (mt boundaryAfter_zero_iff.2 hboundary), ih (hcut.1 h)]

theorem toList_capitalize {s : String} (h : s.toList = c :: cs) :
    (capitalize s).toList = upperChar c ++ cs := by
  rw [capitalize, h, String.toList_ofList]

end Text

/-! ### Labels that are made from keys -/

namespace Label

/-- The label is the title of the characters: their words at case boundaries with blanks in between,
the first character in upper case. -/
def IsTitle (cs : List Char) (label : String) : Prop :=
  ∃ words c rest upper, CutAtCases cs words ∧ [' '].intercalate words = c :: rest ∧
    IsUpperOf c upper ∧ label.toList = upper ++ rest

/-- The label is made from a key: it is the title of the first name or, where a hyphen is in front, of
all other characters together. A key without another character has a label of its own. -/
inductive Derives (key : String) : String → Prop
  | name {name label : String} : name ≠ "" → '-' ∉ name.toList →
    (key = name ∨ ∃ rest, key = name ++ ("-" ++ rest)) → IsTitle name.toList label →
      Derives key label
  | letters {rest label : String} : key = "-" ++ rest → (∃ c ∈ rest.toList, c ≠ '-') →
    IsTitle (key.toList.filter (· ≠ '-')) label → Derives key label
  | fallback : (∀ c ∈ key.toList, c = '-') → Derives key "Related"

variable {key label : String} {cs : List Char}

theorem toList_titled {c : Char} {rest : List Char}
    (h : [' '].intercalate (splitWords cs) = c :: rest) :
    (titled cs).toList = upperChar c ++ rest :=
  toList_capitalize (by rw [spaceWords, String.toList_ofList, String.toList_ofList, h])

/-- Some characters have a title, and only one. -/
theorem isTitle_iff (hcs : cs ≠ []) : IsTitle cs label ↔ titled cs = label := by
  constructor
  · rintro ⟨words, c, rest, upper, hwords, hspaced, hupper, hlabel⟩
    obtain rfl := splitWords_eq_iff.2 hwords
    rw [← isUpperOf_iff.1 hupper, ← toList_titled hspaced] at hlabel
    exact String.toList_injective hlabel.symm
  · rintro rfl
    obtain ⟨c, cs, rfl⟩ := List.exists_cons_of_ne_nil hcs
    have hhead : ([' '].intercalate (splitWords (c :: cs))).head? = some c := by
      rw [intercalate_splitWords, head?_spaced, List.head?_cons]
    obtain ⟨rest, hspaced⟩ := List.head?_eq_some_iff.1 hhead
    exact ⟨splitWords (c :: cs), c, rest, upperChar c, cutAtCases_splitWords _, hspaced,
      isUpperOf_iff.2 rfl, toList_titled hspaced⟩

theorem IsTitle.ne_empty (h : IsTitle cs label) : label ≠ "" := by
  obtain ⟨_, c, rest, upper, -, -, hupper, hlabel⟩ := h
  rintro rfl
  obtain ⟨hnil, -⟩ := List.append_eq_nil_iff.1 hlabel.symm
  exact upperChar_ne_nil c ((isUpperOf_iff.1 hupper).trans hnil)

/-- The text before the first hyphen. -/
theorem takeWhile_name {name : String} (hmark : '-' ∉ name.toList)
    (hkey : key = name ∨ ∃ rest, key = name ++ ("-" ++ rest)) :
    key.toList.takeWhile (· ≠ '-') = name.toList := by
  have hall : ∀ c ∈ name.toList, decide (c ≠ '-') = true := by
    intro c hc
    rw [decide_eq_true_eq]
    rintro rfl
    exact hmark hc
  rcases hkey with rfl | ⟨rest, rfl⟩
  · exact List.takeWhile_eq_self_iff.2 hall
  · rw [String.toList_append, List.takeWhile_append_of_pos hall]
    simp

theorem exists_name (key : String) :
    ∃ name : String, '-' ∉ name.toList ∧ (key = name ∨ ∃ rest, key = name ++ ("-" ++ rest)) := by
  refine ⟨String.ofList (key.toList.takeWhile (· ≠ '-')), fun hmem => ?_, ?_⟩
  · rw [String.toList_ofList] at hmem
    simpa using List.mem_takeWhile_imp hmem
  · have hkey := List.takeWhile_append_dropWhile (p := (· ≠ '-')) (l := key.toList)
    have hhead := List.head?_dropWhile_not (fun c => decide (c ≠ '-')) key.toList
    cases hrest : key.toList.dropWhile (· ≠ '-') with
    | nil =>
      rw [hrest, List.append_nil] at hkey
      exact .inl (by rw [hkey, String.ofList_toList])
    | cons c rest =>
      rw [hrest] at hkey hhead
      obtain rfl : c = '-' := by simpa using hhead
      refine .inr ⟨String.ofList rest, String.toList_injective ?_⟩
      simpa using hkey.symm

theorem derive_of_name {name : String} (hname : name ≠ "") (hmark : '-' ∉ name.toList)
    (hkey : key = name ∨ ∃ rest, key = name ++ ("-" ++ rest)) :
    derive key = titled name.toList := by
  unfold derive
  rw [takeWhile_name hmark hkey]
  split
  · next hnil => exact absurd (String.toList_eq_nil_iff.1 hnil) hname
  · rfl

theorem letters_ne_nil {rest : String} (hkey : key = "-" ++ rest)
    (hletter : ∃ c ∈ rest.toList, c ≠ '-') : key.toList.filter (· ≠ '-') ≠ [] := by
  obtain ⟨c, hc, hne⟩ := hletter
  exact List.ne_nil_of_mem (a := c) (by simp [hkey, hc, hne])

theorem derive_of_letters {rest : String} (hkey : key = "-" ++ rest)
    (hletter : ∃ c ∈ rest.toList, c ≠ '-') :
    derive key = titled (key.toList.filter (· ≠ '-')) := by
  have htake : key.toList.takeWhile (· ≠ '-') = [] := by simp [hkey]
  unfold derive
  simp only [htake]
  split
  · next hnil => exact absurd hnil (letters_ne_nil hkey hletter)
  · rfl

theorem derive_of_hyphens (h : ∀ c ∈ key.toList, c = '-') : derive key = fallback := by
  have htake : key.toList.takeWhile (· ≠ '-') = [] := by
    refine List.eq_nil_iff_forall_not_mem.2 fun c hc => ?_
    have hne := List.mem_takeWhile_imp (p := (· ≠ '-')) hc
    exact of_decide_eq_true hne (h c (List.takeWhile_subset _ hc))
  have hfilter : key.toList.filter (· ≠ '-') = [] := by
    simpa [List.filter_eq_nil_iff] using h
  unfold derive
  rw [htake, hfilter]

theorem derives_derive (key : String) : Derives key (derive key) := by
  obtain ⟨name, hmark, hkey⟩ := exists_name key
  by_cases hname : name = ""
  · subst hname
    rcases hkey with rfl | ⟨rest, hkey⟩
    · exact .fallback (by simp)
    rw [String.empty_append] at hkey
    by_cases hletter : ∃ c ∈ rest.toList, c ≠ '-'
    · exact .letters hkey hletter
        ((isTitle_iff (letters_ne_nil hkey hletter)).2 (derive_of_letters hkey hletter).symm)
    · have hall : ∀ c ∈ key.toList, c = '-' := by simpa [hkey] using hletter
      rw [derive_of_hyphens hall]
      exact .fallback hall
  · exact .name hname hmark hkey
      ((isTitle_iff (mt String.toList_eq_nil_iff.1 hname)).2 (derive_of_name hname hmark hkey).symm)

/-- A key has one label that is made from it. -/
theorem derives_iff : Derives key label ↔ derive key = label := by
  refine ⟨fun h => ?_, fun h => h ▸ derives_derive key⟩
  cases h with
  | name hname hmark hkey htitle =>
    exact (derive_of_name hname hmark hkey).trans
      ((isTitle_iff (mt String.toList_eq_nil_iff.1 hname)).1 htitle)
  | letters hkey hletter htitle =>
    exact (derive_of_letters hkey hletter).trans
      ((isTitle_iff (letters_ne_nil hkey hletter)).1 htitle)
  | fallback hall => exact derive_of_hyphens hall

theorem Derives.ne_empty (h : Derives key label) : label ≠ "" := by
  cases h with
  | name _ _ _ htitle => exact htitle.ne_empty
  | letters _ _ htitle => exact htitle.ne_empty
  | fallback => decide

end Label

namespace LabelTable

/-- The label of a key: the one that the table gives or, where that is none or empty, the one that is
made from the key. -/
inductive Labels (table : LabelTable) (key : String) : String → Prop
  | given {label : String} : table.get? key = some label → label ≠ "" → Labels table key label
  | derived {label : String} : (∀ given, table.get? key = some given → given = "") →
    Label.Derives key label → Labels table key label

variable {table : LabelTable} {key label : String}

theorem resolve_of_given (hgiven : table.get? key = some label) (hlabel : label ≠ "") :
    (table.resolve key).outcome = .ok label := by
  unfold resolve
  rw [hgiven]
  split
  · next hnone => cases hnone
  · next hempty => exact absurd (Option.some.inj hempty) hlabel
  · next heq => rw [Option.some.inj heq]; rfl

theorem resolve_of_not_given (hgiven : ∀ given, table.get? key = some given → given = "") :
    (table.resolve key).outcome = .ok (Label.derive key) := by
  unfold resolve
  split
  · rfl
  · rfl
  · next label hempty hlabel => exact absurd (hgiven label hlabel) hempty

theorem labels_iff_of_given (hgiven : table.get? key = some label) (hlabel : label ≠ "")
    {text : String} : table.Labels key text ↔ text = label := by
  constructor
  · rintro (⟨htext, -⟩ | ⟨hempty, -⟩)
    · exact Option.some.inj (htext.symm.trans hgiven)
    · exact absurd (hempty label hgiven) hlabel
  · rintro rfl
    exact .given hgiven hlabel

theorem labels_iff_of_not_given (hgiven : ∀ given, table.get? key = some given → given = "")
    {text : String} : table.Labels key text ↔ text = Label.derive key := by
  constructor
  · rintro (⟨htext, hne⟩ | ⟨-, hderives⟩)
    · exact absurd (hgiven text htext) hne
    · exact (Label.derives_iff.1 hderives).symm
  · rintro rfl
    exact .derived hgiven (Label.derives_derive key)

/-- Whatever the table and the key, there is a label: it is not empty, and it is the one that the table
gives or, where that is none or empty, the one that is made from the key. -/
theorem every_key_labelled (table : LabelTable) (key : String) :
    ∃ label, (table.resolve key).outcome = .ok label ∧ label ≠ "" ∧
      ∀ text, table.Labels key text ↔ text = label := by
  by_cases hgiven : ∀ given, table.get? key = some given → given = ""
  · exact ⟨Label.derive key, resolve_of_not_given hgiven, (Label.derives_derive key).ne_empty,
      fun text => labels_iff_of_not_given hgiven⟩
  · simp only [not_forall] at hgiven
    obtain ⟨label, hlabel, hne⟩ := hgiven
    exact ⟨label, resolve_of_given hlabel hne, hne, fun text => labels_iff_of_given hlabel hne⟩

/-- Labels of two keys with the same first name, one of them empty. -/
def carryingLabels : LabelTable :=
  [("carriedOutBy-createdBy", ""), ("carriedOutBy-partOf", "Carried Out Within")]

/-- The label in the table, the one that is made in place of an empty label, and labels that are made from
names whose first letter is none of ASCII: its upper case is one letter or, of a ligature, two. -/
theorem carriedOutBy_labelled :
    (carryingLabels.resolve "carriedOutBy-partOf").outcome = .ok "Carried Out Within" ∧
      (carryingLabels.resolve "carriedOutBy-createdBy").outcome = .ok "Carried Out By" ∧
      (carryingLabels.resolve "\u0153uvreDe-partOf").outcome = .ok "\u0152uvre De" ∧
      (carryingLabels.resolve "-\ufb01nd-spot").outcome = .ok "FIndspot" := by
  have hlabelled {key label : String} (h : carryingLabels.Labels key label) :
      (carryingLabels.resolve key).outcome = .ok label := by
    obtain ⟨_, houtcome, -, honly⟩ := every_key_labelled carryingLabels key
    rw [houtcome, (honly label).1 h]
  have hcarried : Label.IsTitle "carriedOutBy".toList "Carried Out By" :=
    ⟨["carried".toList, "Out".toList, "By".toList], 'c', "arried Out By".toList, ['C'],
      splitWords_eq_iff.1 (by decide), by decide, .ascii (by decide), by decide⟩
  have hwork : Label.IsTitle "\u0153uvreDe".toList "\u0152uvre De" :=
    ⟨["\u0153uvre".toList, "De".toList], '\u0153', "uvre De".toList, ['\u0152'],
      splitWords_eq_iff.1 (by decide), by decide, isUpperOf_iff.2 (by decide +kernel), by decide⟩
  have hspot : Label.IsTitle "\ufb01ndspot".toList "FIndspot" :=
    ⟨["\ufb01ndspot".toList], '\ufb01', "ndspot".toList, ['F', 'I'],
      splitWords_eq_iff.1 (by decide), by decide, isUpperOf_iff.2 (by decide +kernel), by decide⟩
  refine ⟨hlabelled (.given (by decide) (by decide)), hlabelled (.derived (by decide) ?_),
    hlabelled (.derived (by decide) ?_), hlabelled (.derived (by decide) ?_)⟩
  · exact .name (by decide) (by decide) (.inr ⟨"createdBy", by decide⟩) hcarried
  · exact .name (by decide) (by decide) (.inr ⟨"partOf", by decide⟩) hwork
  · have hkey : "-\ufb01nd-spot" = "-" ++ "\ufb01nd-spot" := by decide
    have hletters : "-\ufb01nd-spot".toList.filter (· ≠ '-') = "\ufb01ndspot".toList := by decide
    exact .letters hkey ⟨'n', by decide, by decide⟩ (hletters ▸ hspot)

end LabelTable

end ScopedSearch
