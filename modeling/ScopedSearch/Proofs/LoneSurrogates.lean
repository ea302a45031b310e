import ScopedSearch.Event
import ScopedSearch.Link.Address
import ScopedSearch.Proofs.JsonText

/-!
# Lone surrogates in what is written

A lone surrogate stays one when a text is escaped (`Text.lone_flatMap_escapeChar`), and none comes up
where texts are put side by side, since JSON has a character between them that neither is nor follows a
mark (`Text.lone_append_cons`). So what is written for data has a lone surrogate exactly if one of its
texts has (`Json.Writes`).
-/

namespace ScopedSearch

namespace Text

/-! ### Characters and code points -/

/-- Some code point of the characters is a lone surrogate. -/
def Lone (cs : List Char) : Prop := ∃ unit, CodePoint.surrogate unit ∈ codePoints cs

/-- The character neither marks a lone surrogate nor is kept for one after a mark. -/
structure Bare (c : Char) : Prop where
  ne_mark : c ≠ surrogateMark
  unmarked : markedSurrogate? c = none

variable {c d : Char} {cs front rest : List Char}

theorem bare_of_ascii (h : c.toNat < 0x80) : Bare c := by
  refine ⟨Json.ne_surrogateMark h, ?_⟩
  have hcode : c.toNat - 0x100000 = 0 := by omega
  rw [markedSurrogate?, hcode]
  rfl

theorem Bare.pair?_eq_none (h : Bare d) (c : Char) : pair? c d = none := by
  rw [pair?]
  split
  · rfl
  · rw [if_neg h.ne_mark, h.unmarked, Option.map_none]

theorem not_lone_nil : ¬ Lone [] := by
  rintro ⟨unit, h⟩
  cases h

theorem mapM_char?_eq_none_iff {points : List CodePoint} :
    points.mapM CodePoint.char? = none ↔ ∃ unit, CodePoint.surrogate unit ∈ points := by
  induction points with
  | nil => simp
  | cons point rest ih =>
    cases point with
    | char c =>
      rw [List.mapM_cons, CodePoint.char?]
      cases hrest : rest.mapM CodePoint.char? <;> simp_all
    | surrogate unit =>
      rw [List.mapM_cons, CodePoint.char?]
      simp

theorem hasLoneSurrogate_iff {text : String} :
    hasLoneSurrogate text = true ↔ Lone text.toList := by
  rw [hasLoneSurrogate, Option.isNone_iff_eq_none, release?, Option.map_eq_none_iff,
    mapM_char?_eq_none_iff, Lone]

theorem not_lone_iff {text : String} : ¬ Lone text.toList ↔ hasLoneSurrogate text = false := by
  rw [← hasLoneSurrogate_iff, Bool.not_eq_true]

/-- A character that does not go with the one after it is read alone. -/
theorem codePoints_cons_cons (h : pair? c d = none) :
    codePoints (c :: d :: rest) = .char c :: codePoints (d :: rest) := by
  rw [codePoints, h]

theorem codePoints_cons (h : c ≠ surrogateMark) (rest : List Char) :
    codePoints (c :: rest) = .char c :: codePoints rest := by
  cases rest with
  | nil => rfl
  | cons d rest => exact codePoints_cons_cons (pair?_of_ne h d)

/-- A bare character stands between code points. -/
theorem codePoints_append_cons (h : Bare c) (front rest : List Char) :
    codePoints (front ++ c :: rest) = codePoints front ++ .char c :: codePoints rest := by
  induction front using codePoints.induct with
  | case1 => exact codePoints_cons h.ne_mark rest
  | case2 d =>
    rw [List.singleton_append, codePoints_cons_cons (h.pair?_eq_none d), codePoints_cons h.ne_mark]
    rfl
  | case3 d e front point hpair ih =>
    simp only [List.cons_append, codePoints, hpair, ih]
  | case4 d e front hpair ih =>
    rw [List.cons_append, List.cons_append, codePoints_cons_cons hpair, codePoints_cons_cons hpair,
      ← List.cons_append, ih]
    rfl

theorem lone_cons (h : c ≠ surrogateMark) : Lone (c :: rest) ↔ Lone rest := by
  simp [Lone, codePoints_cons h]

theorem lone_append_cons (h : Bare c) : Lone (front ++ c :: rest) ↔ Lone front ∨ Lone rest := by
  simp [Lone, codePoints_append_cons h, exists_or]

theorem lone_concat (h : Bare c) : Lone (front ++ [c]) ↔ Lone front := by
  rw [lone_append_cons h, or_iff_left not_lone_nil]

/-- What stands between two ASCII characters is read as it is alone. -/
theorem lone_enclosed (hc : c.toNat < 0x80) (hd : d.toNat < 0x80) :
    Lone (c :: cs ++ [d]) ↔ Lone cs := by
  rw [List.cons_append, lone_cons (bare_of_ascii hc).ne_mark, lone_concat (bare_of_ascii hd)]

theorem lone_append_of_ne (h : ∀ c ∈ front, c ≠ surrogateMark) : Lone (front ++ rest) ↔ Lone rest := by
  induction front with
  | nil => rfl
  | cons c front ih =>
    rw [List.forall_mem_cons] at h
    rw [List.cons_append, lone_cons h.1, ih h.2]

theorem not_lone_of_ne (h : ∀ c ∈ cs, c ≠ surrogateMark) : ¬ Lone cs := by
  rw [← List.append_nil cs, lone_append_of_ne h]
  exact not_lone_nil

/-! ### Escaped texts -/

theorem escapeChar_of_le (h : 0x80 ≤ c.toNat) : Json.escapeChar c = [c] := by
  have hne (d : Char) (hd : d.toNat < 0x80) : c ≠ d := by
    rintro rfl
    omega
  have hcodes : c.toNat ≠ 0x08 ∧ c.toNat ≠ 0x0c ∧ ¬ c.toNat < 0x20 := by omega
  simp [Json.escapeChar, hne doubleQuote (by decide), hne '\\' (by decide), hne '\n' (by decide),
    hne '\r' (by decide), hne '\t' (by decide), hcodes]

theorem le_of_markedSurrogate? (h : markedSurrogate? c ≠ none) : 0x80 ≤ c.toNat := by
  by_contra hlow
  exact h (bare_of_ascii (Nat.lt_of_not_le hlow)).unmarked

theorem exists_escapeChar (c : Char) :
    ∃ d more, Json.escapeChar c = d :: more ∧ (d = c ∨ d.toNat < 0x80) := by
  cases hescaped : Json.escapeChar c with
  | nil =>
    have hlength := Json.length_le_length_flatMap_escapeChar [c]
    simp [hescaped] at hlength
  | cons d more =>
    have hmem : d ∈ Json.escapeChar c := hescaped ▸ List.mem_cons_self
    exact ⟨d, more, rfl, Json.escapeChar_ascii hmem⟩

/-- What is escaped after a mark that stands for itself leaves it so. -/
theorem pair?_escapeChar (h : pair? c d = none) :
    ∃ e more, Json.escapeChar d = e :: more ∧ pair? c e = none := by
  obtain ⟨e, more, hescaped, rfl | hascii⟩ := exists_escapeChar d
  · exact ⟨e, more, hescaped, h⟩
  · exact ⟨e, more, hescaped, (bare_of_ascii hascii).pair?_eq_none c⟩

theorem escapeChar_surrogateMark : Json.escapeChar surrogateMark = [surrogateMark] :=
  escapeChar_of_le (by decide)

theorem forall_escapeChar_ne (h : c ≠ surrogateMark) : ∀ d ∈ Json.escapeChar c, d ≠ surrogateMark := by
  intro d hd
  rcases Json.escapeChar_ascii hd with rfl | hascii
  · exact h
  · exact Json.ne_surrogateMark hascii

/-- What is kept as a pair is not escaped. -/
theorem escapeChar_of_pair? {point : CodePoint} (h : pair? c d = some point) :
    Json.escapeChar c = [c] ∧ Json.escapeChar d = [d] := by
  obtain rfl : c = surrogateMark := by
    by_contra hne
    rw [pair?_of_ne hne] at h
    cases h
  refine ⟨escapeChar_surrogateMark, ?_⟩
  by_cases hd : d = surrogateMark
  · rw [hd, escapeChar_surrogateMark]
  · apply escapeChar_of_le (le_of_markedSurrogate? _)
    intro hnone
    rw [pair?, if_neg (not_not_intro rfl), if_neg hd, hnone] at h
    cases h

/-- Escaping adds no lone surrogate and takes none away. -/
theorem lone_flatMap_escapeChar (cs : List Char) : Lone (cs.flatMap Json.escapeChar) ↔ Lone cs := by
  induction cs using codePoints.induct with
  | case1 => rfl
  | case2 c =>
    rw [List.flatMap_singleton]
    by_cases hc : c = surrogateMark
    · rw [hc, escapeChar_surrogateMark]
    · have hplain : ¬ Lone [c] := not_lone_of_ne (List.forall_mem_singleton.2 hc)
      exact iff_of_false (not_lone_of_ne (forall_escapeChar_ne hc)) hplain
  | case3 c d rest point hpair ih =>
    obtain ⟨hc, hd⟩ := escapeChar_of_pair? hpair
    have hescaped : (c :: d :: rest).flatMap Json.escapeChar =
        c :: d :: rest.flatMap Json.escapeChar := by
      rw [List.flatMap_cons, List.flatMap_cons, hc, hd]
      rfl
    rw [Lone, Lone] at ih
    simp only [Lone, hescaped, codePoints, hpair, List.mem_cons, exists_or, ih]
  | case4 c d rest hpair ih =>
    have hlone : Lone (c :: d :: rest) ↔ Lone (d :: rest) := by
      simp [Lone, codePoints_cons_cons hpair]
    rw [hlone, ← ih, List.flatMap_cons]
    by_cases hc : c = surrogateMark
    · -- The mark stands for itself before `d`, and so it does before what `d` is escaped as.
      subst hc
      obtain ⟨e, more, he, hpair⟩ := pair?_escapeChar hpair
      rw [escapeChar_surrogateMark, List.flatMap_cons, he, List.singleton_append, List.cons_append]
      simp [Lone, codePoints_cons_cons hpair]
    · exact lone_append_of_ne (forall_escapeChar_ne hc)

end Text

open ScopedSearch.Text

/-! ### Written values -/

namespace Json

variable {value : Value} {key : String} {first rest lone : Prop}

/-- The value has a written form, which has a lone surrogate exactly if `lone` holds. -/
def Writes (value : Value) (lone : Prop) : Prop := ∃ cs, chars value = .ok cs ∧ (Lone cs ↔ lone)

/-- The items have a written form, which has a lone surrogate exactly if `lone` holds. -/
def WritesItems (items : List Value) (lone : Prop) : Prop :=
  ∃ cs, itemChars items = .ok cs ∧ (Lone cs ↔ lone)

/-- The entries have a written form, which has a lone surrogate exactly if `lone` holds. -/
def WritesEntries (entries : List (String × Value)) (lone : Prop) : Prop :=
  ∃ cs, entryChars entries = .ok cs ∧ (Lone cs ↔ lone)

theorem Writes.congr (h : Writes value first) (hiff : first ↔ lone) : Writes value lone := by
  rwa [propext hiff] at h

theorem lone_stringChars (text : String) : Lone (stringChars text) ↔ Lone text.toList := by
  rw [stringChars, lone_enclosed (by decide) (by decide), lone_flatMap_escapeChar]

theorem writes_string (text : String) : Writes (.string text) (Lone text.toList) :=
  ⟨_, rfl, lone_stringChars text⟩

theorem not_lone_keep (text : String) : ¬ Lone (keep text).toList := by
  rw [← hasLoneSurrogate_iff, hasLoneSurrogate, release?_keep]
  simp

theorem writes_of_isJson {limit : Nat} (hlimit : limit ≤ Numeral.digitLimit)
    (h : value.IsJson (some limit)) : Writes value False := by
  obtain ⟨text, hwritten, -⟩ := readWithin_write hlimit h
  obtain ⟨cs, hcs, htext⟩ := map_eq_ok_iff.1 hwritten
  refine ⟨cs, hcs, iff_false_intro ?_⟩
  rw [← String.toList_ofList (l := cs), htext]
  exact not_lone_keep text

theorem writes_map {entries : List (String × Value)} (h : WritesEntries entries lone) :
    Writes (.map entries) lone := by
  obtain ⟨cs, hcs, hlone⟩ := h
  refine ⟨'\x7b' :: cs ++ ['\x7d'], by rw [chars, hcs, Except.map], ?_⟩
  rw [lone_enclosed (by decide) (by decide), hlone]

theorem writes_list {items : List Value} (h : WritesItems items lone) :
    Writes (.list items) lone := by
  obtain ⟨cs, hcs, hlone⟩ := h
  refine ⟨'[' :: cs ++ [']'], by rw [chars, hcs, Except.map], ?_⟩
  rw [lone_enclosed (by decide) (by decide), hlone]

theorem writesItems_nil : WritesItems [] False := ⟨[], rfl, iff_false_intro not_lone_nil⟩

theorem WritesItems.cons {items : List Value} (hvalue : Writes value first)
    (hitems : WritesItems items rest) : WritesItems (value :: items) (first ∨ rest) := by
  obtain ⟨head, hhead, hfirst⟩ := hvalue
  obtain ⟨tail, htail, hrest⟩ := hitems
  cases items with
  | nil =>
    cases htail
    refine ⟨head, hhead, ?_⟩
    rw [hfirst, ← hrest, or_iff_left not_lone_nil]
  | cons next items =>
    refine ⟨head ++ ',' :: tail, ?_, ?_⟩
    · rw [itemChars, hhead, htail]
      · rfl
      · exact List.cons_ne_nil _ _
    · rw [lone_append_cons (bare_of_ascii (by decide)), hfirst, hrest]

theorem writesEntries_nil : WritesEntries [] False := ⟨[], rfl, iff_false_intro not_lone_nil⟩

theorem WritesEntries.cons {entries : List (String × Value)} (hkey : ¬ Lone key.toList)
    (hvalue : Writes value first) (hentries : WritesEntries entries rest) :
    WritesEntries ((key, value) :: entries) (first ∨ rest) := by
  obtain ⟨head, hhead, hfirst⟩ := hvalue
  obtain ⟨tail, htail, hrest⟩ := hentries
  have hpair : Lone (stringChars key ++ ':' :: head) ↔ first := by
    rw [lone_append_cons (bare_of_ascii (by decide)), lone_stringChars, or_iff_right hkey, hfirst]
  cases entries with
  | nil =>
    cases htail
    refine ⟨stringChars key ++ ':' :: head, by rw [entryChars, hhead, Except.map], ?_⟩
    rw [hpair, ← hrest, or_iff_left not_lone_nil]
  | cons next entries =>
    refine ⟨stringChars key ++ ':' :: head ++ ',' :: tail, ?_, ?_⟩
    · rw [entryChars, hhead, htail]
      · rfl
      · exact List.cons_ne_nil _ _
    · rw [lone_append_cons (bare_of_ascii (by decide)), hpair, hrest]

end Json

/-! ### Addresses -/

/-- A text is made for an address, unless `lone` holds: then a lone surrogate stands in the way. -/
inductive Encodes (lone : Prop) : Except Error String → Prop
  | made {text : String} : ¬ lone → Encodes lone (.ok text)
  | surrogate : lone → Encodes lone (.error (.misuse .surrogateInAddress))

variable {lone : Prop} {outcome : Except Error String}

theorem encodes_component (text : String) : Encodes (Lone text.toList) (component text) := by
  rw [component, component?]
  cases hreleased : release? text with
  | none =>
    refine .surrogate (hasLoneSurrogate_iff.1 ?_)
    rw [hasLoneSurrogate, hreleased]
    rfl
  | some plain =>
    refine .made fun hlone => ?_
    rw [← hasLoneSurrogate_iff, hasLoneSurrogate, hreleased] at hlone
    cases hlone

theorem Encodes.exists_text (h : Encodes lone outcome) (hnot : ¬ lone) :
    ∃ text, outcome = .ok text := by
  cases h with
  | made _ => exact ⟨_, rfl⟩
  | surrogate hlone => exact absurd hlone hnot

/-- What goes on to make a text for an address does not change whether one is made. -/
theorem Encodes.bind {next : String → Except Error String} (h : Encodes lone outcome)
    (hnext : ∀ text, ∃ more, next text = .ok more) : Encodes lone (outcome >>= next) := by
  cases h with
  | @made text hnot =>
    obtain ⟨more, hmore⟩ := hnext text
    rw [Traced.ok_bind, hmore]
    exact .made hnot
  | surrogate hlone => exact .surrogate hlone

/-- The query of a tree is made unless its written form has a lone surrogate. -/
theorem encodes_addressQuery {tree : Query}
    (h : Json.WritesEntries ((tree.wireEntries none).erase scopeKey) lone) :
    Encodes lone (addressQuery (.query tree)) := by
  obtain ⟨cs, hcs, hlone⟩ := Json.writes_map h
  rw [addressQuery, wireEntriesOf, Traced.ok_bind, Json.write, hcs]
  have hcomponent := encodes_component (String.ofList cs)
  rw [String.toList_ofList, propext hlone] at hcomponent
  exact hcomponent

theorem encodes_searchAddress {tree : Query} {scope : String} (host : String)
    {options : SearchOptions} (hscope : tree.scope = some scope)
    (hfacetName : ∀ name ∈ options.facetName, ¬ Lone name.toList)
    (hquery : Encodes lone (addressQuery (.query tree))) :
    Encodes lone (searchAddress host (.query tree) options) := by
  have hroot : rootScope? (.query tree) = some (.string scope) := by
    rw [rootScope?, hscope]
    rfl
  rw [searchAddress, hroot]
  refine hquery.bind fun query => ?_
  cases hname : options.facetName with
  | none => exact ⟨_, rfl⟩
  | some name =>
    obtain ⟨encoded, hencoded⟩ := (encodes_component name).exists_text (hfacetName name hname)
    rw [Option.mapM_some, hencoded]
    exact ⟨_, rfl⟩

/-- What may have no scope has a text as one in an address. -/
theorem scopeText_ofText? (scope : Option String) :
    scopeText (.ofText? scope) = .ok (scope.getD "None") := by
  cases scope <;> rfl

theorem encodes_relatedListAddress {scope term : Value} {place name : String} (host id : String)
    (hscope : scopeText scope = .ok place) (hterm : term.text = .ok name) :
    Encodes (Lone id.toList) (relatedListAddress host scope term (.string id)) := by
  refine (encodes_component id).bind fun uri => ?_
  rw [hscope, hterm]
  exact ⟨_, rfl⟩

end ScopedSearch
