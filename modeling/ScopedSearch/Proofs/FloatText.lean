import ScopedSearch.Proofs.JsonText
import ScopedSearch.Proofs.ShortestDecimal
import Mathlib.Data.List.TakeWhile

/-!
# Written numbers are read back

However the digits of a number are laid out, what is written is a spelling that the reader of JSON
takes apart into the same digits and the same power of ten (`Json.number_spelling`,
`FloatLayout.spells_positional`, `FloatLayout.spells_scientific`). These make up the shortest decimal,
which is read as the number (`Json.reads_float`), and so all data with finite numbers in it are read as
they were written (`Json.readWithin_of_isData`).
-/

namespace ScopedSearch

open ScopedSearch.Text

/-! ### Spellings -/

namespace Json

variable {limit : Option Nat}

/-- The number that digits spell. -/
def charsValue (cs : List Char) : Nat := Numeral.digitsValue (cs.map (·.toNat - 48))

theorem charsValue_append (cs ds : List Char) :
    charsValue (cs ++ ds) = charsValue cs * 10 ^ ds.length + charsValue ds := by
  have hfold (digits : List Nat) (start : Nat) :
      digits.foldl (fun value digit => 10 * value + digit) start =
        start * 10 ^ digits.length + Numeral.digitsValue digits := by
    induction digits generalizing start with
    | nil => simp [Numeral.digitsValue]
    | cons digit digits ih =>
      rw [Numeral.digitsValue, List.foldl_cons, List.foldl_cons, ih, ih (10 * 0 + digit),
        List.length_cons, Nat.pow_succ]
      ring
  rw [charsValue, List.map_append, Numeral.digitsValue, List.foldl_append, hfold, List.length_map]
  rfl

theorem charsValue_zeros (n : Nat) : charsValue (List.replicate n '0') = 0 := by
  induction n with
  | zero => rfl
  | succ n ih =>
    rw [List.replicate_succ, ← List.singleton_append, charsValue_append, ih]
    simp [charsValue, Numeral.digitsValue]

theorem charsValue_zero : charsValue ['0'] = 0 := charsValue_zeros 1

/-- A number as it is written: digits, those after a point, and an exponent with its sign. -/
structure Spelling where
  whole : List Char
  fraction : List Char
  exponent : Option (Bool × List Char)
  isWhole : IsWhole whole
  fraction_digits : ∀ c ∈ fraction, c.isDigit = true
  exponent_digits : ∀ part ∈ exponent, part.2 ≠ [] ∧ ∀ c ∈ part.2, c.isDigit = true
  marked : fraction ≠ [] ∨ exponent.isSome

namespace Spelling

variable (spelling : Spelling)

/-- The text of the exponent. -/
def exponentChars : List Char :=
  match spelling.exponent with
  | none => []
  | some (negative, digits) => 'e' :: (if negative then '-' else '+') :: digits

/-- The text of the point and the digits after it. -/
def fractionChars : List Char := if spelling.fraction = [] then [] else '.' :: spelling.fraction

def chars : List Char := spelling.whole ++ (spelling.fractionChars ++ spelling.exponentChars)

/-- The digits without the point. -/
def digits : Nat := charsValue (spelling.whole ++ spelling.fraction)

/-- The power of ten that goes with the digits. -/
def power : Int :=
  (spelling.exponent.map fun part => Numeral.signed part.1 (charsValue part.2)).getD 0 -
    spelling.fraction.length

/-- The value of the number. -/
def value : ℚ := spelling.digits * 10 ^ spelling.power

theorem value_eq {spelling : Spelling} {digits : Nat} {power : Int} {value : ℚ}
    (hdigits : charsValue (spelling.whole ++ spelling.fraction) = digits)
    (hpower : spelling.power = power) (hvalue : digits * 10 ^ power = value) :
    spelling.value = value := by
  rw [Spelling.value, Spelling.digits, hdigits, hpower, hvalue]

theorem head_exponentChars {rest : List Char} (h : Ends rest) :
    ∀ c ∈ (spelling.exponentChars ++ rest).head?, c.isDigit = false ∧ c ≠ '.' := by
  intro c hc
  unfold exponentChars at hc
  split at hc
  · rcases h c hc with rfl | rfl | rfl <;> decide
  · cases hc
    decide

theorem head_fractionChars {rest : List Char} (h : Ends rest) :
    ∀ c ∈ (spelling.fractionChars ++ (spelling.exponentChars ++ rest)).head?, c.isDigit = false := by
  intro c hc
  unfold fractionChars at hc
  split at hc
  · exact (spelling.head_exponentChars h c hc).1
  · cases hc
    rfl

/-- The digits after the point are read up to the exponent. -/
theorem fractionPart_append {rest : List Char} (h : Ends rest) :
    fractionPart (spelling.fractionChars ++ (spelling.exponentChars ++ rest)) =
      (spelling.fraction, spelling.exponentChars ++ rest) := by
  have hhead := spelling.head_exponentChars h
  generalize spelling.exponentChars ++ rest = tail at *
  unfold fractionChars
  split
  · next hnone =>
    rw [hnone, List.nil_append]
    unfold fractionPart
    split
    · exact absurd rfl (hhead '.' rfl).2
    · rfl
  · next hsome =>
    have hdigits : Json.digits (spelling.fraction ++ tail) = (spelling.fraction, tail) :=
      digits_append spelling.fraction_digits fun c hc => (hhead c hc).1
    rw [List.cons_append, fractionPart, hdigits]
    split
    · next heq => exact absurd (Prod.mk.inj heq).1 hsome
    · rfl

/-- The exponent is read up to where the number ends. -/
theorem exponentPart_append {rest : List Char} (h : Ends rest) :
    exponentPart (spelling.exponentChars ++ rest) =
      (spelling.exponent.map fun part => Numeral.signed part.1 (charsValue part.2), rest) := by
  have hparts := spelling.exponent_digits
  unfold exponentChars
  split
  · next hnone =>
    rw [hnone]
    exact exponentPart_of_ends h
  · next negative found hsome =>
    obtain ⟨hne, hdigits⟩ := hparts (negative, found) hsome
    have hfound : Json.digits (found ++ rest) = (found, rest) :=
      digits_append hdigits (isDigit_of_ends h)
    have hsign : Numeral.splitSign ((if negative then '-' else '+') :: (found ++ rest)) =
        (negative, found ++ rest) := by
      cases negative <;> rfl
    rw [hsome, List.cons_append, List.cons_append, exponentPart, if_pos (by decide), hsign]
    dsimp only
    rw [hfound]
    split
    · next heq => exact absurd (Prod.mk.inj heq).1 hne
    · next heq =>
      obtain ⟨rfl, rfl⟩ := Prod.mk.inj heq
      rfl

end Spelling

/-- A number is read as it is spelled, up to where it ends. -/
theorem number_spelling (negative : Bool) (spelling : Spelling) {rest : List Char} (h : Ends rest) :
    number limit negative (spelling.chars ++ rest) =
      .ok (.float (Binary64.ofDecimal negative spelling.digits spelling.power), rest) := by
  have hwhole := wholePart_append spelling.isWhole (spelling.head_fractionChars h)
  have hne : spelling.whole ≠ [] := by
    rcases spelling.isWhole with heq | ⟨⟨d, ds, heq, -⟩, -⟩
    · rw [heq]
      exact List.cons_ne_nil _ _
    · rw [heq]
      exact List.cons_ne_nil _ _
  have hmarked : (spelling.fraction = [] &&
      (spelling.exponent.map fun part => Numeral.signed part.1 (charsValue part.2)) = none) = false := by
    rcases spelling.marked with hfraction | hexponent
    · simp [hfraction]
    · simp [Option.isSome_iff_ne_none.1 hexponent]
  rw [Spelling.chars, List.append_assoc, List.append_assoc, number, hwhole]
  simp only [if_neg hne, spelling.fractionPart_append h, spelling.exponentPart_append h, hmarked,
    Bool.false_eq_true, if_false]
  rfl

/-- The text begins with a digit. -/
theorem Spelling.exists_cons (spelling : Spelling) :
    ∃ d ds, spelling.chars = d :: ds ∧ d.isDigit = true := by
  rcases spelling.isWhole with heq | ⟨⟨d, ds, heq, -⟩, hdigits⟩
  · exact ⟨'0', _, by rw [chars, heq]; rfl, rfl⟩
  · refine ⟨d, ds ++ (spelling.fractionChars ++ spelling.exponentChars), by rw [chars, heq]; rfl, ?_⟩
    apply hdigits
    rw [heq]
    exact List.mem_cons_self

theorem kept_of_digits {cs : List Char} (h : ∀ c ∈ cs, c.isDigit = true) : Kept cs := by
  refine kept_of_forall_ne fun c hc => ?_
  exact (ne_of_isDigit (h c hc) rfl).symm

theorem Spelling.kept (spelling : Spelling) : Kept spelling.chars := by
  have hwhole : Kept spelling.whole := by
    rcases spelling.isWhole with heq | ⟨-, hdigits⟩
    · rw [heq]
      exact kept_of_all rfl
    · exact kept_of_digits hdigits
  have hfraction : Kept spelling.fractionChars := by
    unfold fractionChars
    split
    · exact kept_nil
    · exact (kept_of_digits spelling.fraction_digits).cons (by decide)
  have hexponent : Kept spelling.exponentChars := by
    have hparts := spelling.exponent_digits
    unfold exponentChars
    split
    · exact kept_nil
    · next negative found hsome =>
      have hfound := kept_of_digits (hparts (negative, found) hsome).2
      cases negative
      · exact (hfound.cons (by decide)).cons (by decide)
      · exact (hfound.cons (by decide)).cons (by decide)
  exact hwhole.append (hfraction.append hexponent)

end Json

/-! ### Layouts -/

namespace FloatLayout

open Json

/-- Digits as they are laid out: the first is no zero. -/
structure IsSignificant (digits : List Char) : Prop where
  begins : ∃ d ds, digits = d :: ds ∧ d ≠ '0'
  digits : ∀ c ∈ digits, c.isDigit = true

/-- The text spells the digits, with the point after so many of them. -/
def Spells (text : String) (digits : List Char) (point : Int) : Prop :=
  ∃ spelling : Spelling, text.toList = spelling.chars ∧
    spelling.value = charsValue digits * 10 ^ (point - digits.length)

theorem zeros_digits (n : Nat) : ∀ c ∈ List.replicate n '0', c.isDigit = true := by
  intro c hc
  rw [List.eq_of_mem_replicate hc]
  rfl

/-- The digits up to the point begin a number. -/
theorem isWhole_take {digits : List Char} (h : IsSignificant digits) {n : Nat} (hn : 0 < n)
    (zeros : Nat) : IsWhole (digits.take n ++ List.replicate zeros '0') := by
  obtain ⟨⟨d, ds, rfl, hd⟩, hall⟩ := h
  obtain ⟨n, rfl⟩ := Nat.exists_eq_add_one_of_ne_zero (Nat.ne_of_gt hn)
  have hdigits : ∀ c ∈ (d :: ds).take (n + 1) ++ List.replicate zeros '0', c.isDigit = true :=
    List.forall_mem_append.2 ⟨fun c hc => hall c (List.mem_of_mem_take hc), zeros_digits zeros⟩
  exact .inr ⟨⟨d, ds.take n ++ List.replicate zeros '0', rfl, hd⟩, hdigits⟩

/-- The point comes before the digits. -/
theorem spells_below {digits : List Char} (h : IsSignificant digits) {point : Int}
    (hpoint : point ≤ 0) : Spells (positional digits point) digits point := by
  have hne : digits ≠ [] := by
    obtain ⟨d, ds, heq, -⟩ := h.begins
    rw [heq]
    exact List.cons_ne_nil d ds
  refine ⟨{ whole := ['0']
            fraction := List.replicate (-point).toNat '0' ++ digits
            exponent := none
            isWhole := .inl rfl
            fraction_digits := List.forall_mem_append.2 ⟨zeros_digits _, h.digits⟩
            exponent_digits := nofun
            marked := .inl (by simp [hne]) }, ?_, ?_⟩
  · simp [positional, hpoint, Spelling.chars, Spelling.fractionChars, Spelling.exponentChars, hne]
  · have hdigits : charsValue (['0'] ++ (List.replicate (-point).toNat '0' ++ digits)) =
        charsValue digits := by
      rw [charsValue_append, charsValue_append, charsValue_zeros, charsValue_zero]
      omega
    have hpower : (0 : Int) - (List.replicate (-point).toNat '0' ++ digits).length =
        point - digits.length := by
      rw [List.length_append, List.length_replicate]
      omega
    exact Spelling.value_eq hdigits hpower rfl

/-- The point comes after the digits, and zeros in between. -/
theorem spells_above {digits : List Char} (h : IsSignificant digits) {point : Int}
    (hpoint : 0 < point) (hlength : digits.length ≤ point.toNat) :
    Spells (positional digits point) digits point := by
  have htake : digits.take point.toNat = digits := List.take_of_length_le hlength
  have hdrop : digits.drop point.toNat = [] := List.drop_of_length_le hlength
  refine ⟨{ whole := digits.take point.toNat ++ List.replicate (point.toNat - digits.length) '0'
            fraction := ['0']
            exponent := none
            isWhole := isWhole_take h (by omega) _
            fraction_digits := zeros_digits 1
            exponent_digits := nofun
            marked := .inl (List.cons_ne_nil _ _) }, ?_, ?_⟩
  · simp [positional, not_le.2 hpoint, hdrop, Spelling.chars, Spelling.fractionChars,
      Spelling.exponentChars]
  · have hdigits : charsValue (digits.take point.toNat ++
        List.replicate (point.toNat - digits.length) '0' ++ ['0']) =
          charsValue digits * 10 ^ (point.toNat - digits.length) * 10 := by
      rw [htake, charsValue_append, charsValue_append, charsValue_zeros, charsValue_zero,
        List.length_replicate, Nat.add_zero, Nat.add_zero]
      rfl
    have hpower : point - digits.length = ((point.toNat - digits.length : Nat) : Int) := by omega
    have hlast : (0 : Int) - ['0'].length = -1 := rfl
    have hvalue : ((charsValue digits * 10 ^ (point.toNat - digits.length) * 10 : Nat) : ℚ) *
        10 ^ (-1 : Int) = charsValue digits * 10 ^ (point - digits.length) := by
      rw [hpower, zpow_natCast, zpow_neg_one]
      push_cast
      rw [mul_assoc, mul_inv_cancel₀ (by norm_num), mul_one]
    exact Spelling.value_eq hdigits hlast hvalue

/-- The point comes between the digits. -/
theorem spells_between {digits : List Char} (h : IsSignificant digits) {point : Int}
    (hpoint : 0 < point) (hlength : point.toNat < digits.length) :
    Spells (positional digits point) digits point := by
  have hdrop : digits.drop point.toNat ≠ [] := by
    rw [ne_eq, List.drop_eq_nil_iff]
    omega
  have hzeros : point.toNat - digits.length = 0 := by omega
  refine ⟨{ whole := digits.take point.toNat ++ List.replicate 0 '0'
            fraction := digits.drop point.toNat
            exponent := none
            isWhole := isWhole_take h (by omega) _
            fraction_digits := fun c hc => h.digits c (List.mem_of_mem_drop hc)
            exponent_digits := nofun
            marked := .inl hdrop }, ?_, ?_⟩
  · simp [positional, not_le.2 hpoint, hzeros, hdrop, Spelling.chars, Spelling.fractionChars,
      Spelling.exponentChars]
  · have hdigits : digits.take point.toNat ++ List.replicate 0 '0' ++ digits.drop point.toNat =
        digits := by
      rw [List.replicate_zero, List.append_nil, List.take_append_drop]
    have hpower : (0 : Int) - (digits.drop point.toNat).length = point - digits.length := by
      rw [List.length_drop]
      omega
    exact Spelling.value_eq (congrArg charsValue hdigits) hpower rfl

theorem spells_positional {digits : List Char} (h : IsSignificant digits) (point : Int) :
    Spells (positional digits point) digits point := by
  rcases Int.lt_or_le 0 point with hpoint | hpoint
  · rcases Nat.lt_or_ge point.toNat digits.length with hlength | hlength
    · exact spells_between h hpoint hlength
    · exact spells_above h hpoint hlength
  · exact spells_below h hpoint

theorem padded_spells (width n : Nat) :
    (∀ c ∈ (padded width n).toList, c.isDigit = true) ∧ (padded width n).toList ≠ [] ∧
      charsValue (padded width n).toList = n := by
  rw [padded, String.toList_ofList]
  refine ⟨List.forall_mem_append.2 ⟨zeros_digits _, ?_⟩, ?_, ?_⟩
  · intro c hc
    exact Nat.isDigit_of_mem_toDigits (by decide) (by decide) hc
  · exact List.append_ne_nil_of_right_ne_nil _ Nat.toDigits_ne_nil
  · rw [charsValue_append, charsValue_zeros, Nat.zero_mul, Nat.zero_add]
    exact digitsValue_toDigits n

/-- The point comes after the first digit, and an exponent moves it. -/
theorem spells_scientific (layout : FloatLayout) {digits : List Char} (h : IsSignificant digits)
    (leading : Int) : Spells (layout.scientific digits leading) digits (leading + 1) := by
  obtain ⟨⟨d, ds, rfl, hd⟩, hdigits⟩ := h
  obtain ⟨hexponent, hne, hvalue⟩ := padded_spells layout.exponentWidth leading.natAbs
  rw [List.forall_mem_cons] at hdigits
  have hparts : ∀ part ∈ some (decide (leading < 0), (padded layout.exponentWidth leading.natAbs).toList),
      part.2 ≠ [] ∧ ∀ c ∈ part.2, c.isDigit = true := by
    rintro part hpart
    cases hpart
    exact ⟨hne, hexponent⟩
  refine ⟨{ whole := [d]
            fraction := ds
            exponent := some (decide (leading < 0), (padded layout.exponentWidth leading.natAbs).toList)
            isWhole := .inr ⟨⟨d, [], rfl, hd⟩, List.forall_mem_singleton.2 hdigits.1⟩
            fraction_digits := hdigits.2
            exponent_digits := hparts
            marked := .inr rfl }, ?_, ?_⟩
  · cases ds <;> by_cases hnegative : leading < 0 <;>
      simp [scientific, Spelling.chars, Spelling.fractionChars, Spelling.exponentChars, hnegative]
  · have hpower : Numeral.signed (decide (leading < 0))
        (charsValue (padded layout.exponentWidth leading.natAbs).toList) - ds.length =
          leading + 1 - (d :: ds).length := by
      rw [hvalue, Numeral.signed, List.length_cons]
      simp only [decide_eq_true_eq]
      split <;> omega
    exact Spelling.value_eq rfl hpower rfl

/-- Digits without the zeros at their end. -/
def withoutZeros (digits : List Char) : List Char :=
  (digits.reverse.dropWhile (· = '0')).reverse

theorem exists_zeros (digits : List Char) :
    ∃ n, digits = withoutZeros digits ++ List.replicate n '0' := by
  have hsplit := List.takeWhile_append_dropWhile (p := (· = '0')) (l := digits.reverse)
  have hzeros : digits.reverse.takeWhile (· = '0') =
      List.replicate (digits.reverse.takeWhile (· = '0')).length '0' := by
    apply List.eq_replicate_of_mem
    intro c hc
    have hzero := List.mem_takeWhile_imp hc
    exact of_decide_eq_true hzero
  refine ⟨(digits.reverse.takeWhile (· = '0')).length, ?_⟩
  have hdigits := congrArg List.reverse hsplit
  rw [List.reverse_reverse, List.reverse_append, hzeros, List.reverse_replicate] at hdigits
  exact hdigits.symm

/-- The digits of a number that is not zero stay significant without the zeros at their end. -/
theorem isSignificant_withoutZeros {n : Nat} (h : 0 < n) :
    IsSignificant (withoutZeros (Nat.toDigits 10 n)) := by
  obtain ⟨d, ds, hds, hd⟩ := head_toDigits h
  obtain ⟨zeros, hzeros⟩ := exists_zeros (Nat.toDigits 10 n)
  have hall : ∀ c ∈ Nat.toDigits 10 n, c.isDigit = true := fun c hc =>
    Nat.isDigit_of_mem_toDigits (by decide) (by decide) hc
  rw [hds] at hzeros hall ⊢
  generalize withoutZeros (d :: ds) = digits at *
  cases digits with
  | nil =>
    have hzero : d ∈ List.replicate zeros '0' := by
      rw [List.nil_append] at hzeros
      rw [← hzeros]
      exact List.mem_cons_self
    exact absurd (List.eq_of_mem_replicate hzero) hd
  | cons first rest =>
    obtain ⟨rfl, -⟩ := List.cons.inj hzeros
    refine ⟨⟨d, rest, rfl, hd⟩, ?_⟩
    intro c hc
    apply hall
    rw [hzeros]
    exact List.mem_append_left _ hc

/-- The zeros at the end of a decimal go into the power of ten. -/
theorem value_withoutZeros (n : Nat) (power : Int) :
    (charsValue (withoutZeros (Nat.toDigits 10 n)) : ℚ) *
        10 ^ (power + (Nat.toDigits 10 n).length - 1 + 1 -
          (withoutZeros (Nat.toDigits 10 n)).length) = n * 10 ^ power := by
  obtain ⟨zeros, hzeros⟩ := exists_zeros (Nat.toDigits 10 n)
  have hvalue : charsValue (withoutZeros (Nat.toDigits 10 n)) * 10 ^ zeros = n := by
    calc _ = charsValue (withoutZeros (Nat.toDigits 10 n) ++ List.replicate zeros '0') := by
          rw [charsValue_append, charsValue_zeros, List.length_replicate, Nat.add_zero]
      _ = n := by
          rw [← hzeros]
          exact digitsValue_toDigits n
  have hlength := congrArg List.length hzeros
  rw [List.length_append, List.length_replicate] at hlength
  have hpower : power + (Nat.toDigits 10 n).length - 1 + 1 -
      (withoutZeros (Nat.toDigits 10 n)).length = zeros + power := by omega
  rw [hpower, zpow_add₀ (by norm_num), zpow_natCast, ← mul_assoc]
  congr 1
  exact_mod_cast hvalue

/-- The text of a number that is not zero spells its shortest decimal. -/
theorem text_spells (layout : FloatLayout) (negative : Bool) {mantissa : Nat} {exponent : Int}
    (hc : Binary64.IsCanonical mantissa exponent) :
    ∃ spelling : Spelling, (layout.text (.finite negative mantissa exponent)).toList =
        (if negative then ['-'] else []) ++ spelling.chars ∧
      Binary64.ReadsBack mantissa exponent spelling.value := by
  have hreads := Binary64.shortest_readsBack hc
  have hpos : 0 < (Binary64.shortest mantissa exponent).digits := by
    rw [Nat.pos_iff_ne_zero]
    intro hzero
    have hvalue := hreads.pos hc
    rw [hzero] at hvalue
    simp at hvalue
  have hsign : (if negative then "-" else "").toList = if negative then ['-'] else [] := by
    cases negative <;> rfl
  rw [← value_withoutZeros] at hreads
  have hsignificant := isSignificant_withoutZeros hpos
  rw [text]
  dsimp only
  rw [if_neg hc.pos.ne', ← withoutZeros]
  split
  · obtain ⟨spelling, htext, hvalue⟩ := spells_positional hsignificant _
    refine ⟨spelling, ?_, hvalue ▸ hreads⟩
    rw [String.toList_append, hsign, htext]
  · obtain ⟨spelling, htext, hvalue⟩ := spells_scientific layout hsignificant _
    refine ⟨spelling, ?_, hvalue ▸ hreads⟩
    rw [String.toList_append, hsign, htext]

/-- The text of a finite number is a spelling that is read as the number. -/
theorem text_reads (layout : FloatLayout) {x : Binary64} (h : x.IsNumber) :
    ∃ (negative : Bool) (spelling : Spelling),
      (layout.text x).toList = (if negative then ['-'] else []) ++ spelling.chars ∧
        Binary64.ofDecimal negative spelling.digits spelling.power = x := by
  cases h with
  | zero negative =>
    refine ⟨negative, { whole := ['0']
                        fraction := ['0']
                        exponent := none
                        isWhole := .inl rfl
                        fraction_digits := zeros_digits 1
                        exponent_digits := nofun
                        marked := .inl (List.cons_ne_nil _ _) }, ?_, rfl⟩
    have htext : layout.text (.zero negative) = (if negative then "-" else "") ++ "0.0" := by
      rw [Binary64.zero, text]
      exact if_pos rfl
    rw [htext, String.toList_append]
    cases negative <;> rfl
  | nonzero negative hc =>
    obtain ⟨spelling, htext, hreads⟩ := layout.text_spells negative hc
    exact ⟨negative, spelling, htext, Binary64.ofDecimal_of_readsBack hc negative hreads⟩

end FloatLayout

/-! ### Data with numbers -/

/-- Data as JSON knows it, with finite numbers. -/
inductive Value.IsData (limit : Option Nat) : Value → Prop
  | json {value : Value} : value.IsJson limit → IsData limit value
  | float {x : Binary64} : x.IsNumber → IsData limit (.float x)
  | list {items : List Value} : (∀ item ∈ items, IsData limit item) → IsData limit (.list items)
  | map {entries : Entries String Value} : entries.keys.Nodup →
    (∀ entry ∈ entries, ∃ key, entry.1 = keep key) → (∀ entry ∈ entries, IsData limit entry.2) →
      IsData limit (.map entries)

namespace Json

variable {limit : Option Nat}

/-- A finite number is read up to where it ends. -/
theorem reads_float {x : Binary64} (h : x.IsNumber) :
    Reads limit (.float x) (floats.text x).toList := by
  obtain ⟨negative, spelling, htext, hx⟩ := floats.text_reads h
  obtain ⟨d, ds, hchars, hd⟩ := spelling.exists_cons
  have hnumber {rest : List Char} (hends : Ends rest) :
      number limit negative (spelling.chars ++ rest) = .ok (.float x, rest) := by
    rw [number_spelling negative spelling hends, hx]
  apply reads_number
  · rfl
  · rw [htext]
    cases negative with
    | false => exact spelling.kept
    | true => exact spelling.kept.cons (by decide)
  · rw [htext, hchars]
    cases negative with
    | false => exact ⟨d, ds, rfl, .inr hd⟩
    | true => exact ⟨'-', d :: ds, rfl, .inl rfl⟩
  · intro rest hends
    have hback := hnumber hends
    rw [htext]
    rw [hchars, List.cons_append] at hback
    rw [hchars]
    cases negative with
    | false => exact (scalar_of_isDigit hd _).trans hback
    | true => exact (scalar_minus hd _).trans hback

theorem reads_of_isData {limit : Nat} (hlimit : limit ≤ Numeral.digitLimit) {value : Value}
    (h : value.IsData (some limit)) : ∃ text, Reads (some limit) value text := by
  induction h with
  | json h => exact reads_of_isJson hlimit h
  | float h => exact ⟨_, reads_float h⟩
  | list _ ih => exact reads_list ih
  | map hnodup hkeys _ ih => exact reads_map hnodup hkeys ih

/-- Data are read as they were written. -/
theorem readWithin_of_isData {limit : Nat} (hlimit : limit ≤ Numeral.digitLimit) {value : Value}
    (h : value.IsData (some limit)) :
    ∃ text, write value = .ok (keep text) ∧ readWithin (some limit) (keep text) = .ok value := by
  obtain ⟨cs, hreads⟩ := reads_of_isData hlimit h
  exact readWithin_of_reads hreads

end Json

end ScopedSearch
