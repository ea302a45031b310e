import ScopedSearch.Json.Reader
import ScopedSearch.Json.Writer
import ScopedSearch.Proofs.LongNumbers
import Mathlib.Tactic.IntervalCases

/-!
# Written JSON is read back

What is written for data without lone surrogates is read as that data. A string is read step by step as
it was escaped (`Json.stringStep_escapeChar`), a number up to the first character that does not go on
with it, and lists and objects from the readings of their parts (`Json.Reads`), which need no more steps
than twice the length of the text. The text is the kept form of a text of its own, which is what an
address is made of (`Json.Kept`).
-/

namespace ScopedSearch

open ScopedSearch.Text

/-- Data as JSON knows it: no text holds a lone surrogate, no number is longer than the limit, and no
object has a key twice. -/
inductive Value.IsJson (limit : Option Nat) : Value → Prop
  | null : IsJson limit .null
  | bool (b : Bool) : IsJson limit (.bool b)
  | int {n : Int} : Json.isTooLong limit (Nat.toDigits 10 n.natAbs).length = false →
    IsJson limit (.int n)
  | string (text : String) : IsJson limit (.string (keep text))
  | list {items : List Value} : (∀ item ∈ items, IsJson limit item) → IsJson limit (.list items)
  | map {entries : Entries String Value} : entries.keys.Nodup →
    (∀ entry ∈ entries, ∃ key, entry.1 = keep key) → (∀ entry ∈ entries, IsJson limit entry.2) →
      IsJson limit (.map entries)

namespace Json

variable {limit : Option Nat}

/-! ### Kept texts -/

/-- The characters keep a text without lone surrogates. -/
def Kept (cs : List Char) : Prop :=
  ∃ text : List Char, cs = text.flatMap fun c => (CodePoint.char c).kept

theorem Kept.append {cs ds : List Char} (hcs : Kept cs) (hds : Kept ds) : Kept (cs ++ ds) := by
  obtain ⟨text, rfl⟩ := hcs
  obtain ⟨more, rfl⟩ := hds
  exact ⟨text ++ more, List.flatMap_append.symm⟩

/-- A character that is not the mark of lone surrogates is kept as itself. -/
theorem Kept.cons {c : Char} {cs : List Char} (hc : c ≠ surrogateMark) (hcs : Kept cs) :
    Kept (c :: cs) := by
  obtain ⟨text, rfl⟩ := hcs
  refine ⟨c :: text, ?_⟩
  rw [List.flatMap_cons, CodePoint.kept, if_neg hc, List.singleton_append]

theorem kept_nil : Kept [] := ⟨[], rfl⟩

theorem kept_singleton {c : Char} (hc : c ≠ surrogateMark) : Kept [c] := kept_nil.cons hc

theorem kept_of_forall_ne {cs : List Char} (h : ∀ c ∈ cs, c ≠ surrogateMark) : Kept cs := by
  induction cs with
  | nil => exact kept_nil
  | cons c cs ih =>
    rw [List.forall_mem_cons] at h
    exact (ih h.2).cons h.1

theorem kept_keep (text : String) : Kept (keep text).toList :=
  ⟨text.toList, by rw [keep, String.toList_ofList]⟩

theorem kept_of_all {cs : List Char} (h : cs.all (· ≠ surrogateMark) = true) : Kept cs :=
  kept_of_forall_ne fun c hc => of_decide_eq_true (List.all_eq_true.1 h c hc)

theorem ne_surrogateMark {c : Char} (h : c.toNat < 0x80) : c ≠ surrogateMark := by
  rintro rfl
  exact absurd h (by decide)

/-! ### Strings -/

theorem hexUnit?_hexDigits {n : Nat} (h : n < 0x20) (rest : List Char) :
    hexUnit? (hexDigits 4 n ++ rest) = some (n, rest) := by
  interval_cases n <;> rfl

theorem unicodeEscape?_hexDigits {c : Char} (h : c.toNat < 0x20) (rest : List Char) :
    unicodeEscape? (hexDigits 4 c.toNat ++ rest) = some (.char c, rest) := by
  have hlow : ¬ (0xd800 ≤ c.toNat ∧ c.toNat ≤ 0xdbff) := by omega
  have hpoint : CodePoint.ofNat c.toNat = .char c := by
    rw [CodePoint.ofNat, isSurrogate, Char.ofNat_toNat]
    simp
    omega
  simp [unicodeEscape?, hexUnit?_hexDigits h, hpoint]
  omega

/-- A character of a string is read as it was escaped. -/
theorem stringStep_escapeChar (c : Char) (rest : List Char) :
    stringStep (escapeChar c ++ rest) = .ok (some [c], rest) := by
  unfold escapeChar
  split
  · next h =>
    rw [Bool.or_eq_true, decide_eq_true_eq, decide_eq_true_eq] at h
    rcases h with rfl | rfl <;> rfl
  split
  · next h => rw [h]; rfl
  split
  · next h => rw [h]; rfl
  split
  · next h => rw [h]; rfl
  split
  · next h => rw [← Char.ofNat_toNat c, h]; rfl
  split
  · next h => rw [← Char.ofNat_toNat c, h]; rfl
  split
  · next h =>
    have hkept := ne_surrogateMark (Nat.lt_trans h (by decide : 0x20 < 0x80))
    rw [List.cons_append, List.cons_append, stringStep, unicodeEscape?_hexDigits h]
    simp only [CodePoint.kept, if_neg hkept]
  · next hmark _ _ _ _ _ hcontrol =>
    rw [Bool.or_eq_true, decide_eq_true_eq, decide_eq_true_eq, not_or] at hmark
    have hplain : (decide (c.toNat < 0x20) || decide (c = '\\')) = false := by
      simp [hcontrol, hmark.2]
    rw [List.singleton_append, stringStep]
    · simp only [if_neg hmark.1, hplain, Bool.false_eq_true, if_false]
    · exact fun _ hc _ => hmark.2 hc
    · exact fun _ _ hc _ => hmark.2 hc

theorem hexDigits_ascii {n : Nat} (h : n < 0x20) : ∀ d ∈ hexDigits 4 n, d.toNat < 0x80 := by
  have hall : (hexDigits 4 n).all (fun d => d.toNat < 0x80) = true := by
    interval_cases n <;> rfl
  simpa using hall

/-- An escape is written in ASCII but for the character itself. -/
theorem escapeChar_ascii {c d : Char} (h : d ∈ escapeChar c) : d = c ∨ d.toNat < 0x80 := by
  have hpair {first second : Char} (h : d ∈ [first, second]) : d = first ∨ d = second := by
    simpa using h
  unfold escapeChar at h
  split at h
  · rcases hpair h with rfl | rfl
    · exact .inr (by decide)
    · exact .inl rfl
  repeat
    split at h
    · rcases hpair h with rfl | rfl <;> exact .inr (by decide)
  split at h
  · next hcontrol =>
    rw [List.mem_cons, List.mem_cons] at h
    rcases h with rfl | rfl | h
    · exact .inr (by decide)
    · exact .inr (by decide)
    · exact .inr (hexDigits_ascii hcontrol d h)
  · exact .inl (List.mem_singleton.1 h)

theorem kept_escapeChar {c : Char} (h : c ≠ surrogateMark) : Kept (escapeChar c) := by
  refine kept_of_forall_ne fun d hd => ?_
  rcases escapeChar_ascii hd with rfl | hascii
  · exact h
  · exact ne_surrogateMark hascii

theorem kept_flatMap_escapeChar {cs : List Char} (h : Kept cs) : Kept (cs.flatMap escapeChar) := by
  obtain ⟨text, rfl⟩ := h
  induction text with
  | nil => exact kept_nil
  | cons c text ih =>
    rw [List.flatMap_cons, List.flatMap_append]
    refine Kept.append ?_ ih
    by_cases hc : c = surrogateMark
    · subst hc
      exact ⟨[surrogateMark], rfl⟩
    · rw [CodePoint.kept, if_neg hc, List.flatMap_singleton]
      exact kept_escapeChar hc

theorem length_le_length_flatMap_escapeChar (cs : List Char) :
    cs.length ≤ (cs.flatMap escapeChar).length := by
  induction cs with
  | nil => exact Nat.le_refl _
  | cons c cs ih =>
    have hc : 0 < (escapeChar c).length := by
      unfold escapeChar
      split_ifs <;> simp
    rw [List.flatMap_cons, List.length_append, List.length_cons]
    omega

theorem length_stringChars (s : String) : s.toList.length + 2 ≤ (stringChars s).length := by
  have hlength := length_le_length_flatMap_escapeChar s.toList
  rw [stringChars, List.length_append, List.length_cons, List.length_singleton]
  omega

/-- A string is read up to the quotation mark that ends it. -/
theorem stringRest_escapeChar (cs rest : List Char) {fuel : Nat} (h : cs.length < fuel) :
    stringRest fuel (cs.flatMap escapeChar ++ doubleQuote :: rest) = .ok (cs, rest) := by
  induction cs generalizing fuel with
  | nil =>
    obtain ⟨fuel, rfl⟩ := Nat.exists_eq_add_one_of_ne_zero (Nat.ne_of_gt h)
    rfl
  | cons c cs ih =>
    obtain ⟨fuel, rfl⟩ := Nat.exists_eq_add_one_of_ne_zero (by omega : fuel ≠ 0)
    have hrest := ih (Nat.lt_of_succ_lt_succ h)
    rw [List.flatMap_cons, List.append_assoc, stringRest, stringStep_escapeChar]
    dsimp only
    rw [hrest]
    rfl

/-! ### Numbers and words -/

/-- What comes after a value inside another: nothing, a comma or what closes the other. -/
def Ends (rest : List Char) : Prop := ∀ c ∈ rest.head?, c = ',' ∨ c = ']' ∨ c = '\x7d'

theorem ends_nil : Ends [] := fun _ h => nomatch h

theorem ends_cons {c : Char} (h : c = ',' ∨ c = ']' ∨ c = '\x7d') (rest : List Char) :
    Ends (c :: rest) := by
  intro d hd
  cases hd
  exact h

theorem isDigit_of_ends {rest : List Char} (h : Ends rest) : ∀ c ∈ rest.head?, c.isDigit = false := by
  intro c hc
  rcases h c hc with rfl | rfl | rfl <;> rfl

theorem digits_append {cs rest : List Char} (hcs : ∀ c ∈ cs, c.isDigit = true)
    (h : ∀ c ∈ rest.head?, c.isDigit = false) : digits (cs ++ rest) = (cs, rest) := by
  have hrest : rest.takeWhile Char.isDigit = [] ∧ rest.dropWhile Char.isDigit = rest := by
    cases rest with
    | nil => exact ⟨rfl, rfl⟩
    | cons c rest => simp [h c rfl]
  rw [digits, List.takeWhile_append_of_pos hcs, List.dropWhile_append_of_pos hcs, hrest.1, hrest.2,
    List.append_nil]

theorem fractionPart_of_ends {rest : List Char} (h : Ends rest) : fractionPart rest = ([], rest) := by
  unfold fractionPart
  split
  · exact absurd (h '.' rfl) (by decide)
  · rfl

theorem exponentPart_of_ends {rest : List Char} (h : Ends rest) :
    exponentPart rest = (none, rest) := by
  unfold exponentPart
  split
  · next c rest =>
    have hc : ¬ (c = 'e' || c = 'E') = true := by
      rcases h c rfl with rfl | rfl | rfl <;> decide
    rw [if_neg hc]
  · rfl

/-- A zero stands in front of no digit. -/
theorem head_toDigits {m : Nat} (h : 0 < m) : ∃ d ds, Nat.toDigits 10 m = d :: ds ∧ d ≠ '0' := by
  induction m using Nat.strong_induction_on with
  | h m ih =>
    rcases Nat.lt_or_ge m 10 with hlt | hge
    · refine ⟨_, _, Nat.toDigits_of_lt_base hlt, ?_⟩
      rw [ne_eq, Nat.digitChar_eq_zero]
      exact Nat.ne_of_gt h
    · obtain ⟨d, ds, hds, hd⟩ := ih (m / 10) (by omega) (by omega)
      refine ⟨d, ds ++ [(m % 10).digitChar], ?_, hd⟩
      rw [Nat.toDigits_of_base_le (by decide) hge, hds, List.cons_append]

theorem digitsValue_toDigits (m : Nat) :
    Numeral.digitsValue ((Nat.toDigits 10 m).map (·.toNat - 48)) = m := by
  have hm : Nat.ofDigitChars 10 (Nat.toDigits 10 m) 0 = m := Nat.ofDigitChars_ten_toDigits
  rw [Nat.ofDigitChars_eq_foldl] at hm
  rw [Numeral.digitsValue, List.foldl_map]
  exact hm

/-- The digits that a number may begin with: a zero only if it stands alone. -/
def IsWhole (cs : List Char) : Prop :=
  cs = ['0'] ∨ (∃ d ds, cs = d :: ds ∧ d ≠ '0') ∧ ∀ c ∈ cs, c.isDigit = true

theorem isWhole_toDigits (m : Nat) : IsWhole (Nat.toDigits 10 m) := by
  rcases Nat.eq_zero_or_pos m with rfl | hpos
  · exact .inl (Nat.toDigits_zero 10)
  · exact .inr ⟨head_toDigits hpos, fun c hc =>
      Nat.isDigit_of_mem_toDigits (by decide) (by decide) hc⟩

theorem wholePart_append {whole rest : List Char} (hwhole : IsWhole whole)
    (h : ∀ c ∈ rest.head?, c.isDigit = false) : wholePart (whole ++ rest) = (whole, rest) := by
  rcases hwhole with rfl | ⟨⟨d, ds, rfl, hd⟩, hdigits⟩
  · rfl
  · rw [List.cons_append, wholePart]
    · exact digits_append hdigits h
    · exact fun _ heq => hd (List.cons.inj heq).1

/-- The digits of a number are read as the number. -/
theorem number_toDigits (negative : Bool) {m : Nat}
    (hlimit : isTooLong limit (Nat.toDigits 10 m).length = false) {rest : List Char}
    (h : Ends rest) : number limit negative (Nat.toDigits 10 m ++ rest) =
      .ok (.int (Numeral.signed negative m), rest) := by
  rw [number, wholePart_append (isWhole_toDigits m) (isDigit_of_ends h)]
  simp only [fractionPart_of_ends h, exponentPart_of_ends h, if_neg Nat.toDigits_ne_nil, hlimit,
    digitsValue_toDigits]
  rfl

theorem scalar_null (rest : List Char) :
    scalar limit ("null".toList ++ rest) = .ok (.null, rest) := by
  rfl

theorem scalar_bool (b : Bool) (rest : List Char) :
    scalar limit ((if b then "true" else "false").toList ++ rest) = .ok (.bool b, rest) := by
  cases b <;> rfl

theorem ne_of_isDigit {c d : Char} (h : d.isDigit = true) (hc : c.isDigit = false) : c ≠ d := by
  rintro rfl
  cases h.symm.trans hc

/-- A digit begins no word. -/
theorem scalar_of_isDigit {d : Char} (h : d.isDigit = true) (rest : List Char) :
    scalar limit (d :: rest) = number limit false (d :: rest) := by
  have hword : words.find? (fun word => word.1.isPrefixOf (d :: rest)) = none := by
    simp [words, ne_of_isDigit h]
  rw [scalar, hword]
  · exact fun _ heq => absurd (List.cons.inj heq).1.symm (ne_of_isDigit h rfl)

theorem scalar_minus {d : Char} (h : d.isDigit = true) (rest : List Char) :
    scalar limit ('-' :: d :: rest) = number limit true (d :: rest) := by
  have hword : words.find? (fun word => word.1.isPrefixOf ('-' :: d :: rest)) = none := by
    simp [words, ne_of_isDigit h]
  rw [scalar, hword]

theorem toList_toString_ofNat (m : Nat) : (toString (Int.ofNat m)).toList = Nat.toDigits 10 m :=
  Nat.toList_repr

theorem toList_toString_negSucc (m : Nat) :
    (toString (Int.negSucc m)).toList = '-' :: Nat.toDigits 10 (m + 1) := by
  have htext : toString (Int.negSucc m) = "-" ++ Nat.repr (m + 1) := rfl
  rw [htext, String.toList_append, Nat.toList_repr]
  rfl

theorem exists_cons_toDigits (m : Nat) :
    ∃ d ds, Nat.toDigits 10 m = d :: ds ∧ d.isDigit = true := by
  obtain ⟨d, ds, hds⟩ := List.exists_cons_of_ne_nil (Nat.toDigits_ne_nil : Nat.toDigits 10 m ≠ [])
  exact ⟨d, ds, hds, Nat.isDigit_of_mem_toDigits (by decide) (by decide) (hds ▸ List.mem_cons_self)⟩

/-- A whole number is read up to where it ends. -/
theorem scalar_int {n : Int} (hlimit : isTooLong limit (Nat.toDigits 10 n.natAbs).length = false)
    {rest : List Char} (h : Ends rest) :
    scalar limit ((toString n).toList ++ rest) = .ok (.int n, rest) := by
  cases n with
  | ofNat m =>
    have hnumber : number limit false (Nat.toDigits 10 m ++ rest) = .ok (.int (.ofNat m), rest) :=
      number_toDigits false hlimit h
    obtain ⟨d, ds, hds, hd⟩ := exists_cons_toDigits m
    rw [toList_toString_ofNat]
    rw [hds, List.cons_append] at hnumber ⊢
    rw [scalar_of_isDigit hd, hnumber]
  | negSucc m =>
    have hnumber : number limit true (Nat.toDigits 10 (m + 1) ++ rest) =
        .ok (.int (.negSucc m), rest) := number_toDigits true hlimit h
    obtain ⟨d, ds, hds, hd⟩ := exists_cons_toDigits (m + 1)
    rw [toList_toString_negSucc, List.cons_append]
    rw [hds, List.cons_append] at hnumber ⊢
    rw [scalar_minus hd, hnumber]

/-! ### Values -/

/-- No blank comes first, and nothing that closes a list. -/
def Begins (text : List Char) : Prop := ∃ c rest, text = c :: rest ∧ isSpace c = false ∧ c ≠ ']'

/-- The text is what is written for a value and is read as the value, whatever ends it. -/
structure Reads (limit : Option Nat) (value : Value) (text : List Char) : Prop where
  written : chars value = .ok text
  kept : Kept text
  begins : Begins text
  back : ∀ (rest : List Char) (fuel : Nat), Ends rest → 2 * text.length ≤ fuel →
    Json.value limit fuel (text ++ rest) = .ok (value, rest)

/-- The text is what is written for items and is read as them, up to the bracket. -/
structure ReadsItems (limit : Option Nat) (items : List Value) (text : List Char) : Prop where
  written : itemChars items = .ok text
  kept : Kept text
  begins : Begins text
  back : ∀ (rest : List Char) (fuel : Nat), 2 * (text.length + 1) ≤ fuel →
    listRest limit fuel (text ++ ']' :: rest) = .ok (items, rest)

/-- The text is what is written for entries and is read as them, up to the brace. -/
structure ReadsEntries (limit : Option Nat) (entries : List (String × Value)) (text : List Char) :
    Prop where
  written : entryChars entries = .ok text
  kept : Kept text
  begins : ∃ rest, text = doubleQuote :: rest
  back : ∀ (rest : List Char) (fuel : Nat), 2 * (text.length + 1) ≤ fuel →
    mapRest limit fuel (text ++ '\x7d' :: rest) = .ok (entries, rest)

theorem skipSpace_cons {c : Char} (h : isSpace c = false) (cs : List Char) :
    skipSpace (c :: cs) = c :: cs := by
  rw [skipSpace, List.dropWhile_cons, h, if_neg Bool.false_ne_true]

theorem skipSpace_of_begins {text : List Char} (h : Begins text) (rest : List Char) :
    skipSpace (text ++ rest) = text ++ rest := by
  obtain ⟨c, more, rfl, hc, -⟩ := h
  exact skipSpace_cons hc (more ++ rest)

theorem begins_doubleQuote (rest : List Char) : Begins (doubleQuote :: rest) :=
  ⟨doubleQuote, rest, rfl, by decide⟩

theorem Begins.append {text : List Char} (h : Begins text) (more : List Char) :
    Begins (text ++ more) := by
  obtain ⟨c, rest, rfl, hc⟩ := h
  exact ⟨c, rest ++ more, rfl, hc⟩

/-- Whatever reads a text may take a step. -/
theorem exists_add_one_of_le {text : List Char} {fuel : Nat} (h : 2 * text.length ≤ fuel)
    (hne : text ≠ []) : ∃ less, fuel = less + 1 := by
  have hpos := List.length_pos_iff.2 hne
  exact Nat.exists_eq_add_one_of_ne_zero (by omega)

/-- A value that is no text, list or object is a word or a number. -/
theorem value_of_scalar {value : Value} {text : List Char} {fuel : Nat} (rest : List Char)
    (hfuel : 2 * text.length ≤ fuel) (hbegins : ∃ c more, text = c :: more ∧ c ≠ doubleQuote ∧ c ≠ '[' ∧ c ≠ '\x7b')
    (h : scalar limit (text ++ rest) = .ok (value, rest)) :
    Json.value limit fuel (text ++ rest) = .ok (value, rest) := by
  obtain ⟨c, more, rfl, hquote, hbracket, hbrace⟩ := hbegins
  obtain ⟨fuel, rfl⟩ := exists_add_one_of_le hfuel (List.cons_ne_nil _ _)
  rw [List.cons_append, Json.value, if_neg hquote, if_neg hbracket, if_neg hbrace]
  exact h

theorem reads_null : Reads limit .null "null".toList where
  written := rfl
  kept := kept_of_all rfl
  begins := ⟨'n', _, rfl, by decide⟩
  back := fun rest fuel _ hfuel =>
    value_of_scalar rest hfuel ⟨'n', _, rfl, by decide⟩ (scalar_null rest)

theorem reads_bool (b : Bool) : Reads limit (.bool b) (if b then "true" else "false").toList := by
  cases b with
  | false => exact
    { written := rfl
      kept := kept_of_all rfl
      begins := ⟨'f', _, rfl, by decide⟩
      back := fun rest fuel _ hfuel =>
        value_of_scalar rest hfuel ⟨'f', _, rfl, by decide⟩ (scalar_bool false rest) }
  | true => exact
    { written := rfl
      kept := kept_of_all rfl
      begins := ⟨'t', _, rfl, by decide⟩
      back := fun rest fuel _ hfuel =>
        value_of_scalar rest hfuel ⟨'t', _, rfl, by decide⟩ (scalar_bool true rest) }

theorem toList_toString_begins (n : Int) :
    ∃ c more, (toString n).toList = c :: more ∧ (c = '-' ∨ c.isDigit = true) := by
  cases n with
  | ofNat m =>
    obtain ⟨d, ds, hds, hd⟩ := exists_cons_toDigits m
    exact ⟨d, ds, (toList_toString_ofNat m).trans hds, .inr hd⟩
  | negSucc m => exact ⟨_, _, toList_toString_negSucc m, .inl rfl⟩

theorem kept_toString (n : Int) : Kept (toString n).toList := by
  have hdigits (m : Nat) : Kept (Nat.toDigits 10 m) := by
    refine kept_of_forall_ne fun c hc => ?_
    have hc := Nat.isDigit_of_mem_toDigits (by decide) (by decide) hc
    exact (ne_of_isDigit hc rfl).symm
  cases n with
  | ofNat m =>
    rw [toList_toString_ofNat]
    exact hdigits m
  | negSucc m =>
    rw [toList_toString_negSucc]
    exact (hdigits _).cons (by decide)

/-- A number begins with a digit or with its sign, and is no word, text, list or object. -/
theorem reads_number {value : Value} {text : List Char} (hwritten : chars value = .ok text)
    (hkept : Kept text) (hbegins : ∃ c more, text = c :: more ∧ (c = '-' ∨ c.isDigit = true))
    (hback : ∀ rest, Ends rest → scalar limit (text ++ rest) = .ok (value, rest)) :
    Reads limit value text := by
  obtain ⟨c, more, htext, hc⟩ := hbegins
  have hother : isSpace c = false ∧ c ≠ ']' ∧ c ≠ doubleQuote ∧ c ≠ '[' ∧ c ≠ '\x7b' := by
    rcases hc with rfl | hc
    · decide
    · have hne {d : Char} (hd : d.isDigit = false) : c ≠ d := (ne_of_isDigit hc hd).symm
      exact ⟨by simp [isSpace, hne], hne rfl, hne rfl, hne rfl, hne rfl⟩
  exact
    { written := hwritten
      kept := hkept
      begins := ⟨c, more, htext, hother.1, hother.2.1⟩
      back := fun rest fuel hends hfuel =>
        value_of_scalar rest hfuel ⟨c, more, htext, hother.2.2⟩ (hback rest hends) }

theorem reads_int {n : Int} (hshort : Numeral.isShort n = true)
    (h : isTooLong limit (Nat.toDigits 10 n.natAbs).length = false) :
    Reads limit (.int n) (toString n).toList :=
  reads_number (if_pos hshort) (kept_toString n) (toList_toString_begins n) fun _ hends =>
    scalar_int h hends

theorem kept_stringChars (text : String) : Kept (stringChars (keep text)) :=
  ((kept_flatMap_escapeChar (kept_keep text)).append (kept_singleton (by decide))).cons
    (by decide)

theorem reads_string (text : String) :
    Reads limit (.string (keep text)) (stringChars (keep text)) where
  written := rfl
  kept := kept_stringChars text
  begins := begins_doubleQuote _
  back := fun rest fuel _ hfuel => by
    have hlength := length_stringChars (keep text)
    obtain ⟨fuel, rfl⟩ := Nat.exists_eq_add_one_of_ne_zero (by omega : fuel ≠ 0)
    have hstring : stringRest fuel
        ((keep text).toList.flatMap escapeChar ++ doubleQuote :: rest) =
          .ok ((keep text).toList, rest) := stringRest_escapeChar _ _ (by omega)
    rw [stringChars, List.cons_append, List.cons_append, List.append_assoc, List.singleton_append,
      Json.value, if_pos rfl, hstring]
    exact congrArg (fun text => Except.ok (Value.string text, rest)) String.ofList_toList

/-- Items are read one after the other. -/
theorem readsItems_of_forall {items : List Value} (hne : items ≠ [])
    (h : ∀ item ∈ items, ∃ text, Reads limit item text) : ∃ text, ReadsItems limit items text := by
  induction items with
  | nil => exact absurd rfl hne
  | cons item items ih =>
    rw [List.forall_mem_cons] at h
    obtain ⟨⟨text, hitem⟩, h⟩ := h
    cases items with
    | nil =>
      refine ⟨text, hitem.written, hitem.kept, hitem.begins, fun rest fuel hfuel => ?_⟩
      obtain ⟨fuel, rfl⟩ := Nat.exists_eq_add_one_of_ne_zero (by omega : fuel ≠ 0)
      have hback := hitem.back (']' :: rest) fuel (ends_cons (.inr (.inl rfl)) rest) (by omega)
      rw [listRest, hback]
      rfl
    | cons second items =>
      obtain ⟨more, hitems⟩ := ih (List.cons_ne_nil _ _) h
      refine ⟨text ++ ',' :: more, ?_, hitem.kept.append (hitems.kept.cons (by decide)),
        hitem.begins.append _, fun rest fuel hfuel => ?_⟩
      · rw [itemChars, hitem.written, hitems.written]
        · rfl
        · exact List.cons_ne_nil _ _
      · rw [List.length_append, List.length_cons] at hfuel
        obtain ⟨fuel, rfl⟩ := Nat.exists_eq_add_one_of_ne_zero (by omega : fuel ≠ 0)
        have hback := hitem.back (',' :: (more ++ ']' :: rest)) fuel (ends_cons (.inl rfl) _)
          (by omega)
        have hrest := hitems.back rest fuel (by omega)
        rw [List.append_assoc, List.cons_append, listRest, hback]
        have hcomma := skipSpace_cons (rfl : isSpace ',' = false) (more ++ ']' :: rest)
        simp only [bind, Except.bind, hcomma, skipSpace_of_begins hitems.begins, hrest]
        rfl

theorem reads_list {items : List Value} (h : ∀ item ∈ items, ∃ text, Reads limit item text) :
    ∃ text, Reads limit (.list items) text := by
  cases items with
  | nil =>
    refine ⟨"[]".toList, rfl, kept_of_all rfl, ⟨'[', _, rfl, by decide⟩,
      fun rest fuel _ hfuel => ?_⟩
    obtain ⟨fuel, rfl⟩ := exists_add_one_of_le hfuel (List.cons_ne_nil _ _)
    rfl
  | cons item items =>
    obtain ⟨text, hitems⟩ := readsItems_of_forall (List.cons_ne_nil _ _) h
    refine ⟨'[' :: text ++ [']'], ?_, (hitems.kept.append (kept_singleton (by decide))).cons
      (by decide), ⟨'[', _, rfl, by decide⟩, fun rest fuel _ hfuel => ?_⟩
    · rw [chars, hitems.written]
      rfl
    · rw [List.length_append, List.length_cons, List.length_singleton] at hfuel
      obtain ⟨fuel, rfl⟩ := Nat.exists_eq_add_one_of_ne_zero (by omega : fuel ≠ 0)
      have hback := hitems.back rest fuel (by omega)
      rw [List.cons_append, List.cons_append, List.append_assoc, List.singleton_append, Json.value,
        if_neg (by decide), if_pos rfl, skipSpace_of_begins hitems.begins]
      obtain ⟨c, more, rfl, -, hc⟩ := hitems.begins
      split
      · next heq => exact absurd (List.cons.inj heq).1 hc
      · rw [hback]
        rfl

/-- An entry is read before what comes after it is looked at. -/
theorem mapRest_entry {key : String} {item : Value} {text rest : List Char} {fuel : Nat}
    (hitem : Reads limit item text) (hends : Ends rest) (hkey : key.toList.length < fuel)
    (hfuel : 2 * text.length ≤ fuel) :
    mapRest limit (fuel + 1) (stringChars key ++ ':' :: text ++ rest) =
      match skipSpace rest with
      | '\x7d' :: rest => .ok ([(key, item)], rest)
      | ',' :: rest => do
        let (entries, rest) ← mapRest limit fuel (skipSpace rest)
        return ((key, item) :: entries, rest)
      | _ => .error .malformed := by
  have hstring : stringRest fuel
      (key.toList.flatMap escapeChar ++ doubleQuote :: ':' :: (text ++ rest)) =
        .ok (key.toList, ':' :: (text ++ rest)) := stringRest_escapeChar _ _ hkey
  have hcolon := skipSpace_cons (rfl : isSpace ':' = false) (text ++ rest)
  have hback := hitem.back rest fuel hends hfuel
  rw [stringChars, List.append_assoc, List.append_assoc, List.cons_append, List.singleton_append,
    List.cons_append, mapRest, if_pos rfl, hstring]
  simp only [bind, Except.bind, hcolon, skipSpace_of_begins hitem.begins, hback,
    String.ofList_toList]
  rfl

/-- Entries are read one after the other. -/
theorem readsEntries_of_forall {entries : List (String × Value)} (hne : entries ≠ [])
    (hkeys : ∀ entry ∈ entries, ∃ key, entry.1 = keep key)
    (h : ∀ entry ∈ entries, ∃ text, Reads limit entry.2 text) :
    ∃ text, ReadsEntries limit entries text := by
  induction entries with
  | nil => exact absurd rfl hne
  | cons entry entries ih =>
    rw [List.forall_mem_cons] at h hkeys
    obtain ⟨⟨text, hitem⟩, h⟩ := h
    obtain ⟨⟨name, hname⟩, hkeys⟩ := hkeys
    obtain ⟨key, item⟩ := entry
    obtain rfl : key = keep name := hname
    have hkept := kept_stringChars name
    have hlength := length_stringChars (keep name)
    cases entries with
    | nil =>
      refine ⟨stringChars (keep name) ++ ':' :: text, ?_,
        hkept.append (hitem.kept.cons (by decide)), ⟨_, rfl⟩, fun rest fuel hfuel => ?_⟩
      · rw [entryChars, hitem.written]
        rfl
      · rw [List.length_append, List.length_cons] at hfuel
        obtain ⟨fuel, rfl⟩ := Nat.exists_eq_add_one_of_ne_zero (by omega : fuel ≠ 0)
        rw [mapRest_entry hitem (ends_cons (.inr (.inr rfl)) rest) (by omega) (by omega)]
        rfl
    | cons second entries =>
      obtain ⟨more, hentries⟩ := ih (List.cons_ne_nil _ _) hkeys h
      refine ⟨stringChars (keep name) ++ ':' :: text ++ ',' :: more, ?_,
        (hkept.append (hitem.kept.cons (by decide))).append (hentries.kept.cons (by decide)),
        ⟨_, rfl⟩, fun rest fuel hfuel => ?_⟩
      · rw [entryChars, hitem.written, hentries.written]
        · rfl
        · exact List.cons_ne_nil _ _
      · rw [List.length_append, List.length_append, List.length_cons, List.length_cons] at hfuel
        obtain ⟨fuel, rfl⟩ := Nat.exists_eq_add_one_of_ne_zero (by omega : fuel ≠ 0)
        have hback := hentries.back rest fuel (by omega)
        obtain ⟨tail, rfl⟩ := hentries.begins
        have hspace := skipSpace_of_begins (begins_doubleQuote tail) ('\x7d' :: rest)
        rw [List.append_assoc, List.cons_append,
          mapRest_entry hitem (ends_cons (.inl rfl) _) (by omega) (by omega)]
        have hcomma := skipSpace_cons (rfl : isSpace ',' = false)
          (doubleQuote :: tail ++ '\x7d' :: rest)
        simp only [hcomma, hspace, hback, bind, Except.bind]
        rfl

theorem reads_map {entries : Entries String Value} (hnodup : entries.keys.Nodup)
    (hkeys : ∀ entry ∈ entries, ∃ key, entry.1 = keep key)
    (h : ∀ entry ∈ entries, ∃ text, Reads limit entry.2 text) :
    ∃ text, Reads limit (.map entries) text := by
  cases entries with
  | nil =>
    refine ⟨"\x7b\x7d".toList, rfl, kept_of_all rfl, ⟨'\x7b', _, rfl, by decide⟩,
      fun rest fuel _ hfuel => ?_⟩
    obtain ⟨fuel, rfl⟩ := exists_add_one_of_le hfuel (List.cons_ne_nil _ _)
    rfl
  | cons entry entries =>
    obtain ⟨text, hentries⟩ := readsEntries_of_forall (List.cons_ne_nil _ _) hkeys h
    refine ⟨'\x7b' :: text ++ ['\x7d'], ?_,
      (hentries.kept.append (kept_singleton (by decide))).cons (by decide),
      ⟨'\x7b', _, rfl, by decide⟩, fun rest fuel _ hfuel => ?_⟩
    · rw [chars, hentries.written]
      rfl
    · rw [List.length_append, List.length_cons, List.length_singleton] at hfuel
      obtain ⟨fuel, rfl⟩ := Nat.exists_eq_add_one_of_ne_zero (by omega : fuel ≠ 0)
      have hback := hentries.back rest fuel (by omega)
      obtain ⟨more, rfl⟩ := hentries.begins
      rw [List.cons_append, List.cons_append, List.append_assoc, List.singleton_append, Json.value,
        if_neg (by decide), if_neg (by decide), if_pos rfl,
        skipSpace_of_begins (begins_doubleQuote more)]
      split
      · next heq => exact absurd (List.cons.inj heq).1 (by decide)
      · rw [hback]
        exact congrArg (fun entries => Except.ok (Value.map entries, rest))
          (Entries.ofList_of_nodup hnodup)

/-- What is read within a limit is written if the limit is no higher than that of writing. -/
theorem isShort_of_isTooLong {limit : Nat} {n : Int} (hlimit : limit ≤ Numeral.digitLimit)
    (h : isTooLong (some limit) (Nat.toDigits 10 n.natAbs).length = false) :
    Numeral.isShort n = true := by
  rw [isTooLong, Option.any_some, decide_eq_false_iff_not, Nat.not_lt] at h
  exact decide_eq_true (h.trans hlimit)

variable {limit : Nat} {value : Value}

theorem reads_of_isJson (hlimit : limit ≤ Numeral.digitLimit) (h : value.IsJson (some limit)) :
    ∃ text, Reads (some limit) value text := by
  induction h with
  | null => exact ⟨_, reads_null⟩
  | bool b => exact ⟨_, reads_bool b⟩
  | int hread => exact ⟨_, reads_int (isShort_of_isTooLong hlimit hread) hread⟩
  | string text => exact ⟨_, reads_string text⟩
  | list _ ih => exact reads_list ih
  | map hnodup hkeys _ ih => exact reads_map hnodup hkeys ih

/-- What is written is the kept form of a text that is read as the value. -/
theorem readWithin_of_reads {limit : Option Nat} {cs : List Char} (hreads : Reads limit value cs) :
    ∃ text, write value = .ok (keep text) ∧ readWithin limit (keep text) = .ok value := by
  obtain ⟨plain, hkept⟩ := hreads.kept
  have hkeep : keep (String.ofList plain) = String.ofList cs := by
    rw [keep, String.toList_ofList, hkept]
  refine ⟨String.ofList plain, ?_, ?_⟩
  · rw [write, hreads.written, hkeep]
    rfl
  · have hback := hreads.back [] (2 * cs.length + 2) ends_nil (Nat.le_add_right _ _)
    have hspace := skipSpace_of_begins hreads.begins []
    rw [List.append_nil] at hback hspace
    rw [hkeep, readWithin, String.toList_ofList, hspace, hback]
    rfl

theorem readWithin_write (hlimit : limit ≤ Numeral.digitLimit) (h : value.IsJson (some limit)) :
    ∃ text, write value = .ok (keep text) ∧ readWithin (some limit) (keep text) = .ok value := by
  obtain ⟨cs, hreads⟩ := reads_of_isJson hlimit h
  exact readWithin_of_reads hreads

end Json

/-! ### Numbers that are too long -/

/-- No number is too long in data that are read within the limit. -/
theorem Value.IsJson.not_isLong {limit : Nat} (hlimit : limit ≤ Numeral.digitLimit) {value : Value}
    (h : value.IsJson (some limit)) : ¬ value.IsLong := by
  induction h with
  | null => exact not_isLong_null
  | bool b => exact not_isLong_bool b
  | int hread => exact not_isLong_int_iff.2 (Json.isShort_of_isTooLong hlimit hread)
  | string text => exact not_isLong_string (keep text)
  | list _ ih =>
    rw [isLong_list_iff]
    rintro ⟨item, hitem, hlong⟩
    exact ih item hitem hlong
  | map _ _ _ ih =>
    rw [isLong_map_iff]
    rintro ⟨entry, hentry, hlong⟩
    exact ih entry hentry hlong

/-- Data without a number that is too long are data within the limit. -/
theorem Value.IsJson.limited {value : Value} (h : value.IsJson none) (hshort : ¬ value.IsLong) :
    value.IsJson (some Numeral.digitLimit) := by
  induction h with
  | null => exact .null
  | bool b => exact .bool b
  | int _ =>
    rw [not_isLong_int_iff, Numeral.isShort, decide_eq_true_iff] at hshort
    refine .int ?_
    rw [Json.isTooLong, Option.any_some, decide_eq_false_iff_not, Nat.not_lt]
    exact hshort
  | string text => exact .string text
  | list _ ih =>
    rw [isLong_list_iff] at hshort
    exact .list fun item hitem => ih item hitem fun hlong => hshort ⟨item, hitem, hlong⟩
  | map hnodup hkeys _ ih =>
    rw [isLong_map_iff] at hshort
    exact .map hnodup hkeys fun entry hentry =>
      ih entry hentry fun hlong => hshort ⟨entry, hentry, hlong⟩

namespace Json

/-- Two texts after one another are refused for a number in one of them. -/
theorem bind_eq_error_iff_or {first second : Except Unwritable (List Char)} {left right : Prop}
    {join : List Char → List Char → List Char} {cause : Unwritable}
    (hfirst : ∀ cause, first = .error cause ↔ cause = .numeralTooLong ∧ left)
    (hsecond : ∀ cause, second = .error cause ↔ cause = .numeralTooLong ∧ right) :
    (do let head ← first; let tail ← second; return join head tail) = .error cause ↔
      cause = .numeralTooLong ∧ (left ∨ right) := by
  cases first with
  | error reason =>
    obtain ⟨rfl, hleft⟩ := (hfirst reason).1 rfl
    exact ⟨fun h => ⟨(Except.error.inj h).symm, .inl hleft⟩, fun h => congrArg Except.error h.1.symm⟩
  | ok head =>
    have hleft : ¬ left := fun hleft => nomatch (hfirst .numeralTooLong).2 ⟨rfl, hleft⟩
    rw [or_iff_right hleft, ← hsecond]
    cases second with
    | error _ => rfl
    | ok _ => exact iff_of_false (by rintro ⟨⟩) (by rintro ⟨⟩)

theorem itemChars_eq_error_iff {items : List Value}
    (h : ∀ item ∈ items, ∀ cause, chars item = .error cause ↔ cause = .numeralTooLong ∧ item.IsLong)
    (cause : Unwritable) :
    itemChars items = .error cause ↔ cause = .numeralTooLong ∧ ∃ item ∈ items, item.IsLong := by
  induction items generalizing cause with
  | nil => simp [itemChars]
  | cons value rest ih =>
    rw [List.forall_mem_cons] at h
    simp only [List.mem_cons, exists_eq_or_imp]
    cases rest with
    | nil => simpa [itemChars] using h.1 cause
    | cons next rest => exact bind_eq_error_iff_or h.1 (ih h.2)

theorem entryChars_eq_error_iff {entries : List (String × Value)}
    (h : ∀ entry ∈ entries, ∀ cause,
      chars entry.2 = .error cause ↔ cause = .numeralTooLong ∧ entry.2.IsLong)
    (cause : Unwritable) :
    entryChars entries = .error cause ↔
      cause = .numeralTooLong ∧ ∃ entry ∈ entries, entry.2.IsLong := by
  induction entries generalizing cause with
  | nil => simp [entryChars]
  | cons entry rest ih =>
    obtain ⟨key, value⟩ := entry
    rw [List.forall_mem_cons] at h
    simp only [List.mem_cons, exists_eq_or_imp]
    cases rest with
    | nil => simpa [entryChars, map_eq_error_iff] using h.1 cause
    | cons next rest => exact bind_eq_error_iff_or h.1 (ih h.2)

/-- Data are written unless a number in them is too long. -/
theorem chars_eq_error_iff {value : Value} (h : value.IsJson none) (cause : Unwritable) :
    chars value = .error cause ↔ cause = .numeralTooLong ∧ value.IsLong := by
  induction h generalizing cause with
  | null => simp [chars, Value.not_isLong_null]
  | bool b => cases b <;> simp [chars, Value.not_isLong_bool]
  | @int n _ =>
    rw [chars]
    cases hshort : Numeral.isShort n with
    | true => simp [Value.not_isLong_int_iff.2 hshort]
    | false =>
      have hlong : (Value.int n).IsLong := by
        by_contra hlong
        rw [Value.not_isLong_int_iff, hshort] at hlong
        cases hlong
      simp [hlong, eq_comm]
  | string text => simp [chars, Value.not_isLong_string]
  | list _ ih => rw [chars, map_eq_error_iff, itemChars_eq_error_iff ih, Value.isLong_list_iff]
  | map _ _ _ ih => rw [chars, map_eq_error_iff, entryChars_eq_error_iff ih, Value.isLong_map_iff]

end Json

end ScopedSearch
