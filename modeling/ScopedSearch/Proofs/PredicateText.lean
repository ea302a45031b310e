import ScopedSearch.Predicate
import Mathlib.Data.List.Infix
import Mathlib.Data.List.TakeWhile

/-!
# The grammar of predicate expressions

An expression is a name, an opening bracket, a text between two equal marks and a closing bracket, with
gaps around them (`Predicate.Layout`). The pieces of an expression are found exactly where such a layout
has them (`Predicate.pieces_eq_ok_iff`), so that an expression is read exactly if it is a layout of a
known vocabulary's name and a local name that its marks can hold, and then as these two
(`Predicate.parse_eq_ok_iff`). A predicate is determined by its short name and by its full one, as no
name of a vocabulary and no base begins another (`Predicate.read_exactly_as_written`).
-/

namespace ScopedSearch.Predicate

open ScopedSearch.Text

/-! ### Pieces -/

/-- What a class of characters takes from the front of a text, and what it leaves. -/
theorem takeWhile_dropWhile_iff {p : Char → Bool} {cs front rest : List Char} :
    cs.takeWhile p = front ∧ cs.dropWhile p = rest ↔
      cs = front ++ rest ∧ (∀ c ∈ front, p c = true) ∧ ∀ c ∈ rest.head?, p c = false := by
  constructor
  · rintro ⟨rfl, rfl⟩
    refine ⟨List.takeWhile_append_dropWhile.symm, fun c hc => List.mem_takeWhile_imp hc, ?_⟩
    intro c hc
    have hhead := List.head?_dropWhile_not p cs
    rw [Option.mem_def.1 hc] at hhead
    exact hhead
  · rintro ⟨rfl, hfront, hrest⟩
    have hstop : rest.takeWhile p = [] ∧ rest.dropWhile p = rest := by
      cases rest with
      | nil => exact ⟨rfl, rfl⟩
      | cons c rest => simp [hrest c rfl]
    rw [List.takeWhile_append_of_pos hfront, List.dropWhile_append_of_pos hfront, hstop.1, hstop.2,
      List.append_nil]
    exact ⟨rfl, rfl⟩

/-- Blanks that may stand between pieces, and nothing else. -/
abbrev Gaps := { cs : List Char // ∀ c ∈ cs, isGap c = true }

/-- A letter or an underscore, then letters, digits and underscores. -/
def IsName : List Char → Prop
  | [] => False
  | c :: rest => isNameStart c = true ∧ ∀ d ∈ rest, isNameChar d = true

/-- A mark that a text may stand between. -/
abbrev Mark := { mark : Char // mark = apostrophe ∨ mark = doubleQuote }

/-- A text that may stand between two of these marks: not empty, on one line, and without the mark. -/
structure IsQuotable (mark : Char) (text : List Char) : Prop where
  nonempty : text ≠ []
  noMark : mark ∉ text
  oneLine : '\n' ∉ text

theorem isInside_iff {mark c : Char} : isInside mark c = true ↔ c ≠ mark ∧ c ≠ '\n' := by
  simp [isInside]

theorem isNameChar_of_isGap {c : Char} (h : isGap c = true) : isNameChar c = false := by
  simp only [isGap, Bool.or_eq_true, decide_eq_true_eq] at h
  rcases h with (((rfl | rfl) | rfl) | rfl) | h
  iterate 4 decide
  rw [← Char.ofNat_toNat c, h]
  decide

theorem skipGap_append (gaps : Gaps) {rest : List Char}
    (hrest : ∀ c ∈ rest.head?, isGap c = false) : skipGap (gaps.val ++ rest) = rest :=
  (takeWhile_dropWhile_iff.2 ⟨rfl, gaps.property, hrest⟩).2

/-- The gaps at the front of a text are skipped. -/
theorem exists_gaps (cs : List Char) : ∃ gaps : Gaps, cs = gaps.val ++ skipGap cs := by
  obtain ⟨hcs, hgaps, -⟩ := takeWhile_dropWhile_iff.1
    (⟨rfl, rfl⟩ : cs.takeWhile isGap = cs.takeWhile isGap ∧ cs.dropWhile isGap = skipGap cs)
  exact ⟨⟨_, hgaps⟩, hcs⟩

theorem name?_eq_some_iff {cs name rest : List Char} :
    name? cs = some (name, rest) ↔
      cs = name ++ rest ∧ IsName name ∧ ∀ c ∈ rest.head?, isNameChar c = false := by
  cases cs with
  | nil =>
    constructor
    · intro h
      cases h
    · rintro ⟨hcs, hname, -⟩
      obtain ⟨rfl, -⟩ := List.append_eq_nil_iff.1 hcs.symm
      exact hname.elim
  | cons c more =>
    rw [name?]
    constructor
    · intro h
      split at h
      · next hstart =>
        obtain ⟨rfl, rfl⟩ := Prod.mk.inj (Option.some.inj h)
        obtain ⟨hmore, hchars, hrest⟩ := takeWhile_dropWhile_iff.1
          (⟨rfl, rfl⟩ : more.takeWhile isNameChar = _ ∧ more.dropWhile isNameChar = _)
        exact ⟨congrArg (c :: ·) hmore, ⟨hstart, hchars⟩, hrest⟩
      · cases h
    · rintro ⟨hcs, hname, hrest⟩
      cases name with
      | nil => exact hname.elim
      | cons d name =>
        rw [List.cons_append] at hcs
        obtain ⟨rfl, rfl⟩ := List.cons.inj hcs
        obtain ⟨htake, hdrop⟩ := takeWhile_dropWhile_iff.2 ⟨rfl, hname.2, hrest⟩
        rw [if_pos hname.1, htake, hdrop]

theorem quotedText?_eq_some_iff {cs text rest : List Char} :
    quotedText? cs = some (text, rest) ↔
      ∃ mark : Mark, IsQuotable mark.val text ∧ cs = mark.val :: text ++ mark.val :: rest := by
  cases cs with
  | nil => simp [quotedText?]
  | cons mark more =>
    rw [quotedText?]
    constructor
    · intro h
      split at h
      · next hmark =>
        rw [Bool.or_eq_true, decide_eq_true_eq, decide_eq_true_eq] at hmark
        dsimp only at h
        split at h
        · cases h
        · next c tail hafter =>
          split at h
          · next hclosed =>
            obtain ⟨htext, rfl⟩ := Prod.mk.inj (Option.some.inj h)
            rw [Bool.and_eq_true, decide_eq_true_eq, decide_eq_true_eq, htext] at hclosed
            obtain ⟨rfl, hne⟩ := hclosed
            obtain ⟨hmore, hinside, -⟩ := takeWhile_dropWhile_iff.1 ⟨htext, hafter⟩
            refine ⟨⟨c, hmark⟩, ⟨hne, ?_, ?_⟩, congrArg (c :: ·) hmore⟩
            · intro hmem
              exact (isInside_iff.1 (hinside _ hmem)).1 rfl
            · intro hmem
              exact (isInside_iff.1 (hinside _ hmem)).2 rfl
          · cases h
      · cases h
    · rintro ⟨⟨opening, hmark⟩, hquotable, hcs⟩
      rw [List.cons_append] at hcs
      obtain ⟨rfl, rfl⟩ := List.cons.inj hcs
      have hinside : ∀ c ∈ text, isInside mark c = true := by
        intro c hc
        refine isInside_iff.2 ⟨?_, ?_⟩
        · rintro rfl
          exact hquotable.noMark hc
        · rintro rfl
          exact hquotable.oneLine hc
      have hclosing : ∀ c ∈ (mark :: rest).head?, isInside mark c = false := by
        rintro c hc
        cases hc
        simp [isInside]
      obtain ⟨htake, hdrop⟩ := takeWhile_dropWhile_iff.2 ⟨rfl, hinside, hclosing⟩
      have hmark : (mark = apostrophe || mark = doubleQuote) = true := by simpa using hmark
      rw [if_pos hmark, htake, hdrop]
      simp [hquotable.nonempty]

theorem bracket?_eq_some_iff {bracket : Char} {cs rest : List Char} :
    bracket? bracket cs = some rest ↔ cs = bracket :: rest := by
  cases cs with
  | nil => simp [bracket?]
  | cons c cs =>
    rw [bracket?, List.cons.injEq]
    split
    · next h => simp [h]
    · next h => simp [h]

/-! ### Layouts -/

/-- How an expression is laid out: the gaps around its pieces, and the mark on either side of its
text. -/
structure Layout where
  start : Gaps := ⟨[], nofun⟩
  afterName : Gaps := ⟨[], nofun⟩
  afterOpening : Gaps := ⟨[], nofun⟩
  afterText : Gaps := ⟨[], nofun⟩
  afterClosing : Gaps := ⟨[], nofun⟩
  mark : Mark := ⟨doubleQuote, .inr rfl⟩

namespace Layout

variable (layout : Layout)

/-- The name and the text in this layout. -/
def chars (name text : List Char) : List Char :=
  layout.start.val ++ (name ++ (layout.afterName.val ++ '(' :: (layout.afterOpening.val ++
    (layout.mark.val :: text ++ layout.mark.val ::
      (layout.afterText.val ++ ')' :: layout.afterClosing.val)))))

/-- The expression for a predicate in this layout. -/
def text (predicate : Predicate) : String :=
  String.ofList (layout.chars predicate.vocabulary.name.toList predicate.localName.toList)

/-- The marks can hold the local name of the predicate. -/
def Holds (predicate : Predicate) : Prop :=
  IsQuotable layout.mark.val predicate.localName.toList

end Layout

/-- The pieces are found one after the other, with gaps skipped before each of them. -/
theorem pieces_eq_ok {all name text : List Char} :
    pieces all = .ok (name, text) ↔
      ∃ afterName afterOpening afterText afterClosing,
        name? (skipGap all) = some (name, afterName) ∧
        bracket? '(' (skipGap afterName) = some afterOpening ∧
        quotedText? (skipGap afterOpening) = some (text, afterText) ∧
        bracket? ')' (skipGap afterText) = some afterClosing ∧ skipGap afterClosing = [] := by
  rw [pieces]
  cases hname : name? (skipGap all) with
  | none => simp
  | some named =>
    obtain ⟨vocabulary, afterName⟩ := named
    cases hopening : bracket? '(' (skipGap afterName) with
    | none => simp [hopening]
    | some afterOpening =>
      cases htext : quotedText? (skipGap afterOpening) with
      | none => simp [hopening, htext]
      | some quoted =>
        obtain ⟨localName, afterText⟩ := quoted
        cases hclosing : bracket? ')' (skipGap afterText) with
        | none => simp [hopening, htext, hclosing]
        | some afterClosing =>
          by_cases hend : skipGap afterClosing = []
          · simp [hopening, htext, hclosing, hend, pure, Except.pure]
          · simp [hopening, htext, hclosing, hend]

theorem exists_layout_of_pieces {all name text : List Char} (h : pieces all = .ok (name, text)) :
    ∃ layout : Layout, IsName name ∧ IsQuotable layout.mark.val text ∧
      all = layout.chars name text := by
  obtain ⟨afterName, afterOpening, afterText, afterClosing, hname, hopening, htext, hclosing, hend⟩ :=
    pieces_eq_ok.1 h
  obtain ⟨hall, hname, -⟩ := name?_eq_some_iff.1 hname
  rw [bracket?_eq_some_iff] at hopening hclosing
  obtain ⟨mark, hquotable, htext⟩ := quotedText?_eq_some_iff.1 htext
  obtain ⟨gaps₁, h₁⟩ := exists_gaps all
  obtain ⟨gaps₂, h₂⟩ := exists_gaps afterName
  obtain ⟨gaps₃, h₃⟩ := exists_gaps afterOpening
  obtain ⟨gaps₄, h₄⟩ := exists_gaps afterText
  obtain ⟨gaps₅, h₅⟩ := exists_gaps afterClosing
  rw [hend, List.append_nil] at h₅
  refine ⟨⟨gaps₁, gaps₂, gaps₃, gaps₄, gaps₅, mark⟩, hname, hquotable, ?_⟩
  rw [Layout.chars, h₁, hall, h₂, hopening, h₃, htext, h₄, hclosing, h₅]

/-- Gaps and then a character that is none are skipped up to the character. -/
theorem skipGap_append_cons (gaps : Gaps) {c : Char} (hc : isGap c = false) (rest : List Char) :
    skipGap (gaps.val ++ c :: rest) = c :: rest := by
  apply skipGap_append
  intro d hd
  cases hd
  exact hc

theorem isGap_of_isNameStart {c : Char} (h : isNameStart c = true) : isGap c = false := by
  by_contra hgap
  have hother := isNameChar_of_isGap (Bool.of_not_eq_false hgap)
  have hchar : isNameChar c = true := by
    simp only [isNameStart, isNameChar, Char.isAlphanum, Bool.or_eq_true] at h ⊢
    tauto
  cases hother.symm.trans hchar

theorem isGap_mark (mark : Mark) : isGap mark.val = false := by
  obtain ⟨_, rfl | rfl⟩ := mark <;> rfl

/-- A name after gaps is found, and ends where gaps and then the opening bracket follow. -/
theorem name?_skipGap (start gaps : Gaps) {name : List Char} (hname : IsName name)
    (rest : List Char) :
    name? (skipGap (start.val ++ (name ++ (gaps.val ++ '(' :: rest)))) =
      some (name, gaps.val ++ '(' :: rest) := by
  have hskip : skipGap (start.val ++ (name ++ (gaps.val ++ '(' :: rest))) =
      name ++ (gaps.val ++ '(' :: rest) := by
    cases name with
    | nil => exact hname.elim
    | cons c name => exact skipGap_append_cons start (isGap_of_isNameStart hname.1) _
  rw [hskip]
  refine name?_eq_some_iff.2 ⟨rfl, hname, ?_⟩
  intro c hc
  obtain ⟨gaps, hgaps⟩ := gaps
  cases gaps with
  | nil =>
    cases hc
    rfl
  | cons gap gaps =>
    cases hc
    exact isNameChar_of_isGap (hgaps _ List.mem_cons_self)

theorem bracket?_skipGap (gaps : Gaps) {bracket : Char} (h : isGap bracket = false)
    (rest : List Char) : bracket? bracket (skipGap (gaps.val ++ bracket :: rest)) = some rest := by
  rw [skipGap_append_cons gaps h]
  exact bracket?_eq_some_iff.2 rfl

theorem quotedText?_skipGap (gaps : Gaps) {mark : Mark} {text : List Char}
    (htext : IsQuotable mark.val text) (rest : List Char) :
    quotedText? (skipGap (gaps.val ++ (mark.val :: text ++ mark.val :: rest))) =
      some (text, rest) := by
  rw [List.cons_append, skipGap_append_cons gaps (isGap_mark mark)]
  exact quotedText?_eq_some_iff.2 ⟨mark, htext, rfl⟩

theorem skipGap_gaps (gaps : Gaps) : skipGap gaps.val = [] := by
  have hend : skipGap (gaps.val ++ []) = [] := skipGap_append gaps nofun
  rwa [List.append_nil] at hend

theorem pieces_chars {layout : Layout} {name text : List Char} (hname : IsName name)
    (htext : IsQuotable layout.mark.val text) :
    pieces (layout.chars name text) = .ok (name, text) :=
  pieces_eq_ok.2 ⟨_, _, _, _, name?_skipGap layout.start layout.afterName hname _,
    bracket?_skipGap layout.afterName rfl _, quotedText?_skipGap layout.afterOpening htext _,
    bracket?_skipGap layout.afterText rfl _, skipGap_gaps layout.afterClosing⟩

/-- The pieces of an expression are those of some layout. -/
theorem pieces_eq_ok_iff {all name text : List Char} :
    pieces all = .ok (name, text) ↔
      ∃ layout : Layout, IsName name ∧ IsQuotable layout.mark.val text ∧
        all = layout.chars name text := by
  constructor
  · exact exists_layout_of_pieces
  · rintro ⟨layout, hname, htext, rfl⟩
    exact pieces_chars hname htext

/-! ### Expressions -/

theorem isName_name (vocabulary : Vocabulary) : IsName vocabulary.name.toList := by
  cases vocabulary <;> exact ⟨rfl, List.all_eq_true.1 rfl⟩

/-- Some piece of an expression is no blank. -/
theorem allBlank_eq_false {expression : String} {name text : List Char}
    (h : pieces expression.toList = .ok (name, text)) : allBlank expression = false := by
  obtain ⟨layout, -, -, hall⟩ := pieces_eq_ok_iff.1 h
  have hbracket : '(' ∈ expression.toList := by
    rw [hall, Layout.chars]
    simp
  rw [allBlank, List.all_eq_false]
  exact ⟨'(', hbracket, by decide⟩

/-- An expression names a predicate exactly if it is a layout of it whose marks can hold the local
name. -/
theorem parse_eq_ok_iff {expression : String} {predicate : Predicate} :
    parse expression = .ok predicate ↔
      ∃ layout : Layout, layout.Holds predicate ∧ expression = layout.text predicate := by
  constructor
  · intro h
    rw [parse] at h
    split at h
    · cases h
    split at h
    · cases h
    · next name text hpieces =>
      obtain ⟨layout, -, htext, hall⟩ := pieces_eq_ok_iff.1 hpieces
      split at h
      · next vocabulary hname =>
        obtain rfl := Except.ok.inj h
        have hname := Vocabulary.name_of_ofName? hname
        refine ⟨layout, ?_, ?_⟩
        · rw [Layout.Holds, String.toList_ofList]
          exact htext
        · rw [Layout.text, hname, String.toList_ofList, String.toList_ofList, ← hall,
            String.ofList_toList]
      · cases h
  · rintro ⟨layout, hholds, rfl⟩
    have hpieces : pieces (layout.text predicate).toList =
        .ok (predicate.vocabulary.name.toList, predicate.localName.toList) := by
      rw [Layout.text, String.toList_ofList]
      exact pieces_chars (isName_name predicate.vocabulary) hholds
    rw [parse, allBlank_eq_false hpieces, hpieces]
    simp only [Bool.false_eq_true, if_false, String.ofList_toList, Vocabulary.ofName?_name]

/-! ### Names -/

/-- What is written before a local name tells the vocabulary, if no two vocabularies' headings begin
one another. -/
theorem eq_of_heading_append_eq (heading : Vocabulary → String)
    (hheading : ∀ v w, (heading v).toList <+: (heading w).toList → v = w) {p q : Predicate}
    (h : heading p.vocabulary ++ p.localName = heading q.vocabulary ++ q.localName) : p = q := by
  have hlists := congrArg String.toList h
  rw [String.toList_append, String.toList_append] at hlists
  have hprefix : (heading p.vocabulary).toList <+:
      (heading q.vocabulary).toList ++ q.localName.toList := ⟨_, hlists⟩
  have hvocabulary : p.vocabulary = q.vocabulary := by
    rcases List.prefix_or_prefix_of_prefix hprefix (List.prefix_append _ _) with hpq | hqp
    · exact hheading _ _ hpq
    · exact (hheading _ _ hqp).symm
  obtain ⟨vocabulary, localName⟩ := p
  obtain rfl : vocabulary = q.vocabulary := hvocabulary
  have hlocal := String.toList_injective (List.append_cancel_left hlists)
  exact congrArg (mk q.vocabulary) hlocal

theorem curie_injective {p q : Predicate} (h : p.curie = q.curie) : p = q := by
  have hheading : ∀ v w : Vocabulary,
      (v.name ++ ":").toList <+: (w.name ++ ":").toList → v = w := by
    intro v w
    cases v <;> cases w <;> decide
  exact eq_of_heading_append_eq (fun vocabulary => vocabulary.name ++ ":") hheading h

theorem iri_injective {p q : Predicate} (h : p.iri = q.iri) : p = q := by
  have hheading : ∀ v w : Vocabulary, v.base.toList <+: w.base.toList → v = w := by
    intro v w
    cases v <;> cases w <;> decide
  exact eq_of_heading_append_eq Vocabulary.base hheading h

/-- Expressions are read exactly as they are written: an expression names a predicate if it is the
name of its vocabulary and its local name between marks, in some layout, and is at fault if there is
no such predicate; a predicate that was read is read again from every layout whose mark its local name
does not hold; and two predicates are the same if their short names are, or their full ones. -/
theorem read_exactly_as_written :
    (∀ expression predicate, parse expression = .ok predicate ↔
      ∃ layout : Layout, layout.Holds predicate ∧ expression = layout.text predicate) ∧
    (∀ expression, (∃ fault, parse expression = .error fault) ↔
      ∀ predicate (layout : Layout), layout.Holds predicate →
        expression ≠ layout.text predicate) ∧
    (∀ expression predicate, parse expression = .ok predicate →
      ∀ layout : Layout, layout.mark.val ∉ predicate.localName.toList →
        parse (layout.text predicate) = .ok predicate) ∧
    ∀ p q : Predicate, (p = q ↔ p.curie = q.curie) ∧ (p = q ↔ p.iri = q.iri) := by
  refine ⟨?_, ?_, ?_, ?_⟩
  · intro expression predicate
    exact parse_eq_ok_iff
  · intro expression
    constructor
    · rintro ⟨fault, hfault⟩ predicate layout hholds hlayout
      cases hfault.symm.trans (parse_eq_ok_iff.2 ⟨layout, hholds, hlayout⟩)
    · intro hnone
      cases hparse : parse expression with
      | error fault => exact ⟨fault, rfl⟩
      | ok predicate =>
        obtain ⟨layout, hholds, hlayout⟩ := parse_eq_ok_iff.1 hparse
        exact (hnone predicate layout hholds hlayout).elim
  · intro expression predicate hparse layout hmark
    obtain ⟨_, hquotable, -⟩ := parse_eq_ok_iff.1 hparse
    exact parse_eq_ok_iff.2 ⟨layout, ⟨hquotable.nonempty, hmark, hquotable.oneLine⟩, rfl⟩
  · intro p q
    exact ⟨⟨congrArg curie, curie_injective⟩, ⟨congrArg iri, iri_injective⟩⟩

/-- Single marks, a gap after each piece, and the end of the line after the last. -/
def Layout.spaced : Layout where
  afterName := ⟨['\t'], List.forall_mem_singleton.2 rfl⟩
  afterOpening := ⟨[' '], List.forall_mem_singleton.2 rfl⟩
  afterText := ⟨[' '], List.forall_mem_singleton.2 rfl⟩
  afterClosing := ⟨['\n'], List.forall_mem_singleton.2 rfl⟩
  mark := ⟨apostrophe, .inl rfl⟩

/-- A local name that holds one mark is read between two of the other. -/
theorem marked_place_read :
    parse "lux\t( 'the \"place\"' )\n" = .ok ⟨.lux, "the \"place\""⟩ ∧
      parse "lux('the \"place\"')" = .ok ⟨.lux, "the \"place\""⟩ ∧
      (∀ predicate (layout : Layout), layout.Holds predicate →
        "lux(place)" ≠ layout.text predicate) ∧
      (⟨.la, "the \"place\""⟩ : Predicate) ≠ ⟨.lux, "the \"place\""⟩ := by
  obtain ⟨hread, hfault, hagain, hnames⟩ := read_exactly_as_written
  have hholds : IsQuotable apostrophe "the \"place\"".toList := ⟨by decide, by decide, by decide⟩
  have hspaced : parse "lux\t( 'the \"place\"' )\n" = .ok ⟨.lux, "the \"place\""⟩ :=
    (hread _ _).2 ⟨.spaced, hholds, rfl⟩
  refine ⟨hspaced, hagain _ _ hspaced { mark := Layout.spaced.mark } hholds.noMark, ?_, ?_⟩
  · exact (hfault "lux(place)").1 ⟨.malformed "lux(place)" 5, rfl⟩
  · intro heq
    exact absurd ((hnames _ _).1.1 heq) (by decide)

end ScopedSearch.Predicate
