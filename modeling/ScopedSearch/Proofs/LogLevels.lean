import ScopedSearch.Log
import Mathlib.Data.List.Forall2
import Mathlib.Data.List.Induction
import Mathlib.Data.Nat.Digits.Defs

/-!
# Texts that stand for log levels

Every text stands for a level once the blanks around it are left out: decimal digits for the number that
they make, the name of a level in any case for that level, and anything else for *warning*
(`Log.StandsFor`). The text is the given one, or that of the environment where none is given
(`Log.Chooses`). What is read is the level that the text stands for, and the stream is set to it, unless
the text consists of digits that are not all decimal, or are too many for a number
(`Log.Unreadable`): then no log is opened (`Log.readable_text_sets_level`).
-/

namespace ScopedSearch

open ScopedSearch.Text

/-! ### Numbers of decimal digits -/

namespace Numeral

/-- The text consists of decimal digits with these values. -/
def IsDecimal (text : String) (digits : List Nat) : Prop :=
  List.Forall₂ (fun c digit => decimalValue? c = some digit) text.toList digits

theorem digitsValue_eq_ofDigits (digits : List Nat) :
    digitsValue digits = Nat.ofDigits 10 digits.reverse := by
  induction digits using List.reverseRecOn with
  | nil => rfl
  | append_singleton front last ih =>
    rw [List.reverse_append, List.reverse_singleton, List.singleton_append, Nat.ofDigits_cons, ← ih,
      digitsValue, List.foldl_append]
    exact Nat.add_comm _ _

theorem spanDigits_eq_iff {cs : List Char} {digits : List Nat} :
    spanDigits cs = (digits, []) ↔
      List.Forall₂ (fun c digit => decimalValue? c = some digit) cs digits := by
  induction cs generalizing digits with
  | nil => simp [spanDigits, eq_comm]
  | cons c cs ih =>
    rw [List.forall₂_cons_left_iff, spanDigits]
    cases hc : decimalValue? c with
    | none => simp
    | some digit =>
      simp only [Prod.mk.injEq, Option.some.injEq, exists_and_left, exists_eq_left', ← ih]
      constructor
      · rintro ⟨rfl, hrest⟩
        exact ⟨_, Prod.ext rfl hrest, rfl⟩
      · rintro ⟨rest, hrest, rfl⟩
        simp [hrest]

/-- A plain numeral has decimal digits, one of them at least and no more than the limit. -/
theorem readPlain?_eq_some_iff {text : String} {n : Nat} :
    readPlain? text = some n ↔ ∃ digits, IsDecimal text digits ∧ digits ≠ [] ∧
      digits.length ≤ digitLimit ∧ n = Nat.ofDigits 10 digits.reverse := by
  simp only [IsDecimal, ← spanDigits_eq_iff, ← digitsValue_eq_ofDigits]
  unfold readPlain?
  rcases hspan : spanDigits text.toList with ⟨digits, rest⟩
  cases digits with
  | nil => simp +contextual
  | cons digit digits =>
    cases rest with
    | nil => simp +contextual [eq_comm, and_comm]
    | cons => simp

/-- Text that consists of decimal digits has their values. -/
theorem exists_isDecimal_iff {text : String} :
    (∃ digits, IsDecimal text digits) ↔ ∀ c ∈ text.toList, ∃ digit, decimalValue? c = some digit := by
  unfold IsDecimal
  generalize text.toList = cs
  induction cs with
  | nil => simp
  | cons c cs ih =>
    rw [List.forall_mem_cons, ← ih]
    constructor
    · rintro ⟨_, hdigits⟩
      cases hdigits with
      | cons hdigit hdigits => exact ⟨⟨_, hdigit⟩, _, hdigits⟩
    · rintro ⟨⟨digit, hdigit⟩, digits, hdigits⟩
      exact ⟨digit :: digits, .cons hdigit hdigits⟩

theorem not_isDecimal_of_mem {text : String} {digits : List Nat} {c : Char} (hc : c ∈ text.toList)
    (hnone : decimalValue? c = none) : ¬ IsDecimal text digits := by
  intro hdigits
  obtain ⟨digit, hdigit⟩ := exists_isDecimal_iff.1 ⟨digits, hdigits⟩ c hc
  cases hnone.symm.trans hdigit

end Numeral

/-! ### Levels of texts -/

namespace Log

/-- The level that a word stands for: the number that its decimal digits make, else the level of the
name that it is in upper case, else *warning*. -/
inductive StandsFor (word : String) : Nat → Prop
  | number {digits : List Nat} : word ≠ "" → Numeral.IsDecimal word digits →
    StandsFor word (Nat.ofDigits 10 digits.reverse)
  | name {level : Nat} : (∀ digits, word ≠ "" → ¬ Numeral.IsDecimal word digits) →
    namedLevels.get? (upper word) = some level → StandsFor word level
  | other : (∀ digits, word ≠ "" → ¬ Numeral.IsDecimal word digits) →
    namedLevels.get? (upper word) = none → StandsFor word defaultLevel

/-- The word consists of digits, of which some are not decimal or there are too many for a number. -/
structure Unreadable (word : String) : Prop where
  nonempty : word ≠ ""
  digits : ∀ c ∈ word.toList, isDigit c = true
  noNumber : (∃ c ∈ word.toList, decimalValue? c = none) ∨ Numeral.digitLimit < word.toList.length

/-- The text that decides the level: the one that is given, or that of the environment where none is
given or an empty one. -/
inductive Chooses (surroundings : Surroundings) : Option String → String → Prop
  | given {text : String} : text ≠ "" → Chooses surroundings (some text) text
  | environment {given : Option String} {text : String} : given = none ∨ given = some "" →
    surroundings.environment.get? Setting.logLevel.variableName = some text →
      Chooses surroundings given text
  | unset {given : Option String} : given = none ∨ given = some "" →
    surroundings.environment.get? Setting.logLevel.variableName = none →
      Chooses surroundings given "WARNING"

variable {surroundings : Surroundings} {given : Option String} {text word : String} {n : Nat}

theorem isDigits_iff : isDigits word = true ↔ word ≠ "" ∧ ∀ c ∈ word.toList, isDigit c = true := by
  simp [isDigits]

theorem isDigit_of_decimalValue? {c : Char} {digit : Nat} (h : decimalValue? c = some digit) :
    isDigit c = true := by
  simp [isDigit, h]

theorem isDigits_of_isDecimal {digits : List Nat} (hword : word ≠ "")
    (h : Numeral.IsDecimal word digits) : isDigits word = true := by
  refine isDigits_iff.2 ⟨hword, fun c hc => ?_⟩
  obtain ⟨digit, hdigit⟩ := Numeral.exists_isDecimal_iff.1 ⟨digits, h⟩ c hc
  exact isDigit_of_decimalValue? hdigit

/-- A readable word of digits has decimal digits only. -/
theorem exists_isDecimal_of_readable (hread : ¬ Unreadable word) (hdigits : isDigits word = true) :
    ∃ digits, Numeral.IsDecimal word digits := by
  obtain ⟨hword, hall⟩ := isDigits_iff.1 hdigits
  refine Numeral.exists_isDecimal_iff.2 fun c hc => Option.ne_none_iff_exists'.1 fun hnone => ?_
  exact hread ⟨hword, hall, .inl ⟨c, hc, hnone⟩⟩

theorem length_le_of_readable {digits : List Nat} (hread : ¬ Unreadable word) (hword : word ≠ "")
    (h : Numeral.IsDecimal word digits) : digits.length ≤ Numeral.digitLimit := by
  rw [← h.length_eq, ← not_lt]
  exact fun hlong => hread ⟨hword, (isDigits_iff.1 (isDigits_of_isDecimal hword h)).2, .inr hlong⟩

theorem exists_standsFor (word : String) : ∃ n, StandsFor word n := by
  by_cases hdecimal : ∃ digits, word ≠ "" ∧ Numeral.IsDecimal word digits
  · obtain ⟨digits, hword, hdigits⟩ := hdecimal
    exact ⟨_, .number hword hdigits⟩
  · rw [not_exists] at hdecimal
    have hnot : ∀ digits, word ≠ "" → ¬ Numeral.IsDecimal word digits :=
      fun digits hword hdigits => hdecimal digits ⟨hword, hdigits⟩
    cases hname : namedLevels.get? (upper word) with
    | some level => exact ⟨level, .name hnot hname⟩
    | none => exact ⟨defaultLevel, .other hnot hname⟩

theorem readLevel_of_standsFor (hread : ¬ Unreadable (trim text)) (h : StandsFor (trim text) n) :
    readLevel text = .ok n := by
  have hword (hnot : ∀ digits, trim text ≠ "" → ¬ Numeral.IsDecimal (trim text) digits) :
      ¬ isDigits (trim text) = true := by
    intro hdigits
    obtain ⟨digits, hdecimal⟩ := exists_isDecimal_of_readable hread hdigits
    exact hnot digits (isDigits_iff.1 hdigits).1 hdecimal
  unfold readLevel
  cases h with
  | @number digits hnonempty hdecimal =>
    have hdigits : digits ≠ [] := by
      rintro rfl
      exact hnonempty (String.toList_eq_nil_iff.1 (List.forall₂_nil_right_iff.1 hdecimal))
    have hlength := length_le_of_readable hread hnonempty hdecimal
    have hnumber := Numeral.readPlain?_eq_some_iff.2 ⟨digits, hdecimal, hdigits, hlength, rfl⟩
    rw [if_pos (isDigits_of_isDecimal hnonempty hdecimal), hnumber]
  | name hnot hname => rw [if_neg (hword hnot), hname, Option.getD_some]
  | other hnot hname => rw [if_neg (hword hnot), hname, Option.getD_none]

theorem readLevel_of_unreadable (h : Unreadable (trim text)) :
    readLevel text = .error (.misuse .levelNotNumber) := by
  have hnumber : Numeral.readPlain? (trim text) = none := by
    rw [Option.eq_none_iff_forall_ne_some]
    intro n hn
    obtain ⟨digits, hdecimal, -, hlength, -⟩ := Numeral.readPlain?_eq_some_iff.1 hn
    rcases h.noNumber with ⟨c, hc, hnone⟩ | hlong
    · exact Numeral.not_isDecimal_of_mem hc hnone hdecimal
    · rw [hdecimal.length_eq] at hlong
      omega
  rw [readLevel, if_pos (isDigits_iff.2 ⟨h.nonempty, h.digits⟩), hnumber]

/-- A text is read as the level that it stands for, unless it is unreadable. -/
theorem readLevel_eq_ok_iff :
    readLevel text = .ok n ↔ ¬ Unreadable (trim text) ∧ StandsFor (trim text) n := by
  constructor
  · intro h
    have hread : ¬ Unreadable (trim text) := by
      intro hunreadable
      cases h.symm.trans (readLevel_of_unreadable hunreadable)
    obtain ⟨level, hlevel⟩ := exists_standsFor (trim text)
    cases h.symm.trans (readLevel_of_standsFor hread hlevel)
    exact ⟨hread, hlevel⟩
  · rintro ⟨hread, h⟩
    exact readLevel_of_standsFor hread h

/-! ### The level of a log -/

theorem exists_chooses (surroundings : Surroundings) (given : Option String) :
    ∃ text, Chooses surroundings given text := by
  by_cases hgiven : given = none ∨ given = some ""
  · cases htext : surroundings.environment.get? Setting.logLevel.variableName with
    | some text => exact ⟨text, .environment hgiven htext⟩
    | none => exact ⟨_, .unset hgiven htext⟩
  · rw [not_or] at hgiven
    obtain ⟨text, rfl⟩ := Option.ne_none_iff_exists'.1 hgiven.1
    exact ⟨text, .given fun htext => hgiven.2 (congrArg some htext)⟩

theorem Chooses.unique {other : String} (h : Chooses surroundings given text)
    (hother : Chooses surroundings given other) : other = text := by
  cases h <;> cases hother <;> simp_all

theorem level_eq_readLevel (h : Chooses surroundings given text) :
    level surroundings given = readLevel text := by
  have hset (hgiven : given = none ∨ given = some "") :
      level surroundings given = readLevel
        ((surroundings.environment.get? Setting.logLevel.variableName).getD "WARNING") := by
    rcases hgiven with rfl | rfl <;> rfl
  cases h with
  | given htext =>
    unfold level
    split
    · next heq => cases heq
    · next heq => exact absurd (Option.some.inj heq) htext
    · next heq => rw [Option.some.inj heq]
  | environment hgiven htext => rw [hset hgiven, htext, Option.getD_some]
  | unset hgiven hnone => rw [hset hgiven, hnone, Option.getD_none]

/-- One text decides the level, whatever is given and whatever the environment holds, and it stands for a
level. That is the level which is read and which the stream is set to, after the trace file if there is
one; only a text of digits that are not all decimal, or are too many for a number, is an error. -/
theorem readable_text_sets_level (surroundings : Surroundings) (given : Option String) :
    ∃ text, (∀ other, Chooses surroundings given other ↔ other = text) ∧
      (∃ n, StandsFor (trim text) n) ∧
      (∀ n, level surroundings given = .ok n ↔
        ¬ Unreadable (trim text) ∧ StandsFor (trim text) n) ∧
      (∀ error, level surroundings given = .error error ↔
        Unreadable (trim text) ∧ error = .misuse .levelNotNumber) ∧
      ∀ (directory : Option Path) (files : FileTree) (trace : Option String),
        openFile surroundings directory = .ok (files, trace) →
          ∀ n, ¬ Unreadable (trim text) → StandsFor (trim text) n →
            (start surroundings given directory).handlers =
              .ok ((if trace.isSome then [.file fileLevel] else []) ++ [.stream n]) := by
  obtain ⟨text, htext⟩ := exists_chooses surroundings given
  have hlevel := level_eq_readLevel htext
  refine ⟨text, fun other => ⟨htext.unique, fun h => h ▸ htext⟩, exists_standsFor (trim text),
    fun n => ?_, fun error => ⟨fun herror => ?_, ?_⟩, fun directory files trace hopen n hread hn => ?_⟩
  · rw [hlevel, readLevel_eq_ok_iff]
  · have hunreadable : Unreadable (trim text) := by
      by_contra hread
      obtain ⟨n, hn⟩ := exists_standsFor (trim text)
      cases herror.symm.trans (hlevel.trans (readLevel_of_standsFor hread hn))
    rw [hlevel, readLevel_of_unreadable hunreadable] at herror
    exact ⟨hunreadable, (Except.error.inj herror).symm⟩
  · rintro ⟨hunreadable, rfl⟩
    rw [hlevel, readLevel_of_unreadable hunreadable]
  · rw [start, hopen, hlevel, readLevel_of_standsFor hread hn]
    cases trace <;> rfl

/-- The level of the log in the environment, with blanks around it. -/
def informed : Surroundings where
  files := { base := ["srv"], entries := [] }
  environment := [("LUX_QUERY_LOG_LEVEL", " info ")]

/-- An empty text leaves the level to the environment; digits of another script make a number. -/
theorem informed_levels :
    Chooses informed (some "") " info " ∧ StandsFor (trim " info ") 20 ∧
      ¬ Unreadable (trim " info ") ∧ (start informed (some "") none).handlers = .ok [.stream 20] ∧
      StandsFor (trim "\u0663\u0660") 30 ∧ ¬ Unreadable (trim "\u0663\u0660") ∧
      (start informed (some "\u0663\u0660") (some ⟨.relative, ["logs"]⟩)).handlers =
        .ok [.file 10, .stream 30] := by
  have hinfo : trim " info " = "info" := by decide +kernel
  have hdigits : trim "\u0663\u0660" = "\u0663\u0660" := by decide +kernel
  have hname : StandsFor "info" 20 :=
    .name (fun _ _ => Numeral.not_isDecimal_of_mem (.head _) (by decide)) (by decide +kernel)
  have hvalues : Numeral.IsDecimal "\u0663\u0660" [3, 0] :=
    .cons (by decide) (.cons (by decide) .nil)
  have hnumber : StandsFor "\u0663\u0660" 30 := .number (by decide) hvalues
  have hreadName : ¬ Unreadable "info" := fun h => absurd (h.digits 'i' (.head _)) (by decide)
  have hreadNumber : ¬ Unreadable "\u0663\u0660" := by
    rintro ⟨-, -, ⟨c, hc, hnone⟩ | hlong⟩
    · exact Numeral.not_isDecimal_of_mem hc hnone hvalues
    · exact absurd hlong (by decide)
  obtain ⟨text, hchoose, -, -, -, hstart⟩ := readable_text_sets_level informed (some "")
  have hchosen : Chooses informed (some "") " info " := .environment (.inr rfl) rfl
  obtain rfl : " info " = text := (hchoose _).1 hchosen
  obtain ⟨other, hchoose, -, -, -, hopened⟩ :=
    readable_text_sets_level informed (some "\u0663\u0660")
  obtain rfl : "\u0663\u0660" = other := (hchoose _).1 (.given (by decide))
  rw [hinfo] at hstart ⊢
  rw [hdigits] at hopened ⊢
  exact ⟨hchosen, hname, hreadName, hstart none _ none rfl 20 hreadName hname, hnumber, hreadNumber,
    hopened (some ⟨.relative, ["logs"]⟩) _ (some "") rfl 30 hreadNumber hnumber⟩

/-- A superscript is no decimal digit and no name of a level, so that it stands for *warning*; but it is
an error, with which no log is opened. -/
theorem superscript_unreadable :
    StandsFor (trim "\u00b2") 30 ∧
      level informed (some "\u00b2") = .error (.misuse .levelNotNumber) ∧
      (start informed (some "\u00b2") none).handlers.toOption = none := by
  have hdigit : trim "\u00b2" = "\u00b2" := by decide +kernel
  have hlevel : level informed (some "\u00b2") = .error (.misuse .levelNotNumber) := by rfl
  rw [hdigit]
  refine ⟨.other (fun _ _ => Numeral.not_isDecimal_of_mem (.head _) (by decide)) (by decide +kernel),
    hlevel, ?_⟩
  rw [start, show openFile informed none = .ok (informed.files, none) from rfl, hlevel]
  rfl

end Log

end ScopedSearch
