import ScopedSearch.Number.Binary64
import Mathlib.Algebra.Order.Field.Power
import Mathlib.Data.Int.Log
import Mathlib.Data.Nat.Cast.Order.Field
import Mathlib.Data.Rat.Floor
import Mathlib.Tactic.FieldSimp
import Mathlib.Tactic.Linarith
import Mathlib.Tactic.NormNum
import Mathlib.Tactic.Positivity
import Mathlib.Tactic.Ring

/-!
# Decimals are read as the nearest number

The values that are read as a positive number of the format lie between the middles to its neighbours
(`Binary64.ReadsBack`). A decimal with such a value is read as the number, whatever its digits
(`Binary64.ofDecimal_of_readsBack`), and what is read of any decimal is a number of the format unless it
is infinite (`Binary64.ofDecimal_isNumber`).
-/

namespace ScopedSearch.Binary64

/-! ### Powers -/

theorem cast_pow2 (n : Nat) : ((pow2 n : Nat) : ℚ) = 2 ^ n := Nat.cast_pow 2 n

theorem cast_pow10 (n : Nat) : ((pow10 n : Nat) : ℚ) = 10 ^ n := Nat.cast_pow 10 n

theorem pow2_pos (n : Nat) : 0 < pow2 n := Nat.pow_pos (by decide)

theorem pow10_pos (n : Nat) : 0 < pow10 n := Nat.pow_pos (by decide)

theorem two_zpow_pos (exponent : Int) : (0 : ℚ) < 2 ^ exponent := zpow_pos (by norm_num) exponent

theorem ten_zpow_pos (exponent : Int) : (0 : ℚ) < 10 ^ exponent := zpow_pos (by norm_num) exponent

/-- A power with an exponent of either sign, as a fraction of powers. -/
theorem zpow_eq_div (b : ℚ) (exponent : Int) :
    b ^ exponent = b ^ exponent.toNat / b ^ (-exponent).toNat := by
  obtain ⟨n, rfl | rfl⟩ := exponent.eq_nat_or_neg
  · simp
  · simp

/-- The fraction `num / (den * 2 ^ exponent)` is the fraction scaled. -/
theorem scaled_ratio (num den : Nat) (exponent : Int) :
    ((scaled num den exponent).1 : ℚ) / (scaled num den exponent).2 = num / den / 2 ^ exponent := by
  rw [scaled]
  push_cast
  rw [cast_pow2, cast_pow2, zpow_eq_div]
  field_simp

theorem scaled_den_pos (num : Nat) {den : Nat} (hden : 0 < den) (exponent : Int) :
    0 < (scaled num den exponent).2 := Nat.mul_pos hden (pow2_pos _)

/-! ### Rounding -/

/-- A fraction is rounded to the whole number that is at most a half away, a tie to the even one. -/
theorem roundDiv_eq {num den r : Nat} (hden : 0 < den) (hlow : (r : ℚ) - 1 / 2 ≤ num / den)
    (hhigh : (num / den : ℚ) ≤ r + 1 / 2)
    (htie : r % 2 = 1 → (r : ℚ) - 1 / 2 < num / den ∧ (num / den : ℚ) < r + 1 / 2) :
    roundDiv num den = r := by
  have hden' : (0 : ℚ) < den := Nat.cast_pos.2 hden
  have hlow : 2 * r * den ≤ 2 * num + den := by
    rw [le_div_iff₀ hden'] at hlow
    have : (2 * r * den : ℚ) ≤ 2 * num + den := by linarith
    exact_mod_cast this
  have hhigh : 2 * num ≤ (2 * r + 1) * den := by
    rw [div_le_iff₀ hden'] at hhigh
    have : (2 * num : ℚ) ≤ (2 * r + 1) * den := by linarith
    exact_mod_cast this
  have htie : r % 2 = 1 → 2 * r * den < 2 * num + den ∧ 2 * num < (2 * r + 1) * den := by
    intro hodd
    obtain ⟨hlow, hhigh⟩ := htie hodd
    rw [lt_div_iff₀ hden'] at hlow
    rw [div_lt_iff₀ hden'] at hhigh
    have hlow : (2 * r * den : ℚ) < 2 * num + den := by linarith
    have hhigh : (2 * num : ℚ) < (2 * r + 1) * den := by linarith
    exact ⟨by exact_mod_cast hlow, by exact_mod_cast hhigh⟩
  have hnum := Nat.div_add_mod num den
  have hrest := Nat.mod_lt num hden
  rw [roundDiv]
  generalize num / den = q at *
  generalize num % den = rest at *
  obtain rfl | rfl : r = q ∨ r = q + 1 := by
    have hle : r < q + 2 := by
      by_contra h
      nlinarith
    have hge : q < r + 1 := by
      by_contra h
      nlinarith
    omega
  · have hle : 2 * rest ≤ den := by linarith
    have hlt : r % 2 = 1 → 2 * rest < den := by
      intro hodd
      linarith [(htie hodd).2]
    apply if_pos
    simp only [Bool.or_eq_true, Bool.and_eq_true, decide_eq_true_eq]
    omega
  · have hle : den ≤ 2 * rest := by linarith
    have hlt : (q + 1) % 2 = 1 → den < 2 * rest := by
      intro hodd
      linarith [(htie hodd).1]
    apply if_neg
    simp only [Bool.or_eq_true, Bool.and_eq_true, decide_eq_true_eq]
    omega

/-- The number of the format at this exponent that is nearest to a fraction. -/
def atExponent (negative : Bool) (num den : Nat) (exponent : Int) : Binary64 :=
  let mantissa := roundDiv (scaled num den exponent).1 (scaled num den exponent).2
  if mantissa = pow2 53 then
    if greatestExponent < exponent + 1 then infinite negative
    else finite negative (pow2 52) (exponent + 1)
  else if greatestExponent < exponent then infinite negative
  else finite negative mantissa exponent

/-- The lengths of the terms tell the binade of a fraction, or the next one. -/
theorem log_ratio {num den : Nat} (hnum : 0 < num) (hden : 0 < den) :
    (Nat.log2 num : Int) - Nat.log2 den - 1 ≤ Int.log 2 (num / den : ℚ) ∧
      Int.log 2 (num / den : ℚ) ≤ (Nat.log2 num : Int) - Nat.log2 den := by
  have hnumLow : (2 : ℚ) ^ (Nat.log2 num : Int) ≤ num := by
    exact_mod_cast Nat.log2_self_le hnum.ne'
  have hnumHigh : (num : ℚ) < 2 ^ (Nat.log2 num + 1 : Int) := by
    exact_mod_cast Nat.lt_log2_self
  have hdenLow : (2 : ℚ) ^ (Nat.log2 den : Int) ≤ den := by
    exact_mod_cast Nat.log2_self_le hden.ne'
  have hdenHigh : (den : ℚ) < 2 ^ (Nat.log2 den + 1 : Int) := by
    exact_mod_cast Nat.lt_log2_self
  have hvalue : (0 : ℚ) < num / den := div_pos (Nat.cast_pos.2 hnum) (Nat.cast_pos.2 hden)
  constructor
  · apply (Int.zpow_le_iff_le_log (by decide) hvalue).1
    calc ((2 : ℕ) : ℚ) ^ ((Nat.log2 num : Int) - Nat.log2 den - 1)
        = 2 ^ (Nat.log2 num : Int) / 2 ^ (Nat.log2 den + 1 : Int) := by
          rw [← zpow_sub₀ two_ne_zero, Nat.cast_ofNat, sub_sub]
      _ ≤ num / den := by gcongr
  · apply Int.lt_add_one_iff.1
    apply (Int.lt_zpow_iff_log_lt (by decide) hvalue).1
    calc (num / den : ℚ) < 2 ^ (Nat.log2 num + 1 : Int) / 2 ^ (Nat.log2 den : Int) := by gcongr
      _ = ((2 : ℕ) : ℚ) ^ ((Nat.log2 num : Int) - Nat.log2 den + 1) := by
          rw [← zpow_sub₀ two_ne_zero, Nat.cast_ofNat, add_sub_right_comm]

/-- The binade of a fraction bounds the quotient of the scaled fraction. -/
theorem scaled_div_lt_iff {num den : Nat} (hnum : 0 < num) (hden : 0 < den) (exponent : Int)
    (k : Nat) :
    (scaled num den exponent).1 / (scaled num den exponent).2 < pow2 k ↔
      Int.log 2 (num / den : ℚ) < exponent + k := by
  have hvalue : (0 : ℚ) < num / den := div_pos (Nat.cast_pos.2 hnum) (Nat.cast_pos.2 hden)
  have hscaled : (0 : ℚ) < (scaled num den exponent).2 :=
    Nat.cast_pos.2 (scaled_den_pos num hden exponent)
  have hpower := two_zpow_pos exponent
  rw [Nat.div_lt_iff_lt_mul (scaled_den_pos num hden exponent),
    ← Int.lt_zpow_iff_log_lt (by decide) hvalue, ← Nat.cast_lt (α := ℚ), Nat.cast_mul, cast_pow2,
    ← div_lt_iff₀ hscaled, scaled_ratio, div_lt_iff₀ hpower, Nat.cast_ofNat,
    zpow_add₀ two_ne_zero, zpow_natCast, mul_comm]

/-- The mantissa is given 53 bits, if the format has so small an exponent. -/
theorem ofRatio_eq (negative : Bool) {num den : Nat} (hnum : 0 < num) (hden : 0 < den) :
    ofRatio negative num den =
      atExponent negative num den (max (Int.log 2 (num / den : ℚ) - 52) leastExponent) := by
  have hnormal (guess : Int) (hguess : guess = (Nat.log2 num : Int) - Nat.log2 den - 52) :
      (if (scaled num den guess).1 / (scaled num den guess).2 < pow2 52 then guess - 1 else guess) =
        Int.log 2 (num / den : ℚ) - 52 := by
    obtain ⟨hlow, hhigh⟩ := log_ratio hnum hden
    have hbinade := scaled_div_lt_iff hnum hden guess 52
    split
    · next h =>
      have hlt := hbinade.1 h
      omega
    · next h =>
      have hge := mt hbinade.2 h
      omega
  unfold ofRatio
  dsimp only
  rw [hnormal _ rfl, atExponent]
  split_ifs <;> rfl

/-! ### The values that are read as a number -/

/-- The mantissa and the exponent of a positive number of the format: the mantissa has 53 bits, and fewer
only with the least exponent. -/
structure IsCanonical (mantissa : Nat) (exponent : Int) : Prop where
  pos : 0 < mantissa
  lt : mantissa < pow2 53
  full : leastExponent < exponent → pow2 52 ≤ mantissa
  least : leastExponent ≤ exponent
  greatest : exponent ≤ greatestExponent

/-- A finite number: a zero has the least exponent. -/
inductive IsNumber : Binary64 → Prop
  | zero (negative : Bool) : IsNumber (zero negative)
  | nonzero (negative : Bool) {mantissa : Nat} {exponent : Int} :
    IsCanonical mantissa exponent → IsNumber (finite negative mantissa exponent)

theorem roundDiv_bounds (num den : Nat) :
    num / den ≤ roundDiv num den ∧ roundDiv num den ≤ num / den + 1 := by
  rw [roundDiv]
  split <;> omega

/-- A fraction is read as a number of the format, unless it is too large. -/
theorem ofRatio_isNumber {negative : Bool} {num den : Nat} (hnum : 0 < num) (hden : 0 < den)
    (h : (ofRatio negative num den).isFinite = true) : IsNumber (ofRatio negative num den) := by
  rw [ofRatio_eq negative hnum hden] at h ⊢
  generalize hexponent : max (Int.log 2 (num / den : ℚ) - 52) leastExponent = exponent at *
  have hlog := scaled_div_lt_iff hnum hden exponent
  obtain ⟨hlow, hhigh⟩ := roundDiv_bounds (scaled num den exponent).1 (scaled num den exponent).2
  have h53 : pow2 53 = 2 * pow2 52 := rfl
  have hmantissa := (hlog 53).2 (by omega)
  have hfull : leastExponent < exponent →
      pow2 52 ≤ roundDiv (scaled num den exponent).1 (scaled num den exponent).2 := by
    intro hlt
    have hnormal := mt (hlog 52).1 (by omega)
    omega
  have hleast : leastExponent ≤ exponent := by omega
  rw [atExponent] at h ⊢
  generalize roundDiv (scaled num den exponent).1 (scaled num den exponent).2 = mantissa at *
  have hpos : 0 < pow2 52 := pow2_pos 52
  split at h
  · next hcarry =>
    split at h
    · cases h
    · next hsmall =>
      rw [if_pos hcarry, if_neg hsmall]
      exact .nonzero negative ⟨hpos, by omega, fun _ => Nat.le_refl _, by omega, by omega⟩
  · next hcarry =>
    split at h
    · cases h
    · next hsmall =>
      rw [if_neg hcarry, if_neg hsmall]
      rcases Nat.eq_zero_or_pos mantissa with rfl | hmantissa
      · obtain rfl : exponent = leastExponent := by omega
        exact .zero negative
      · exact .nonzero negative ⟨hmantissa, by omega, hfull, hleast, by omega⟩

/-- How far the middle to the next smaller number is away, in units of the last place: the least number
with 53 bits has a neighbour that is only half as far. -/
def gapBelow (mantissa : Nat) (exponent : Int) : ℚ :=
  if mantissa = pow2 52 ∧ leastExponent < exponent then 1 / 4 else 1 / 2

/-- The value lies between the middles to the neighbours of `mantissa * 2 ^ exponent`, or on one of them
if the mantissa is even. -/
structure ReadsBack (mantissa : Nat) (exponent : Int) (value : ℚ) : Prop where
  low : mantissa - gapBelow mantissa exponent ≤ value / 2 ^ exponent
  high : value / 2 ^ exponent ≤ mantissa + 1 / 2
  tie : mantissa % 2 = 1 →
    mantissa - gapBelow mantissa exponent < value / 2 ^ exponent ∧
      value / 2 ^ exponent < mantissa + 1 / 2

theorem gapBelow_pos (mantissa : Nat) (exponent : Int) : 0 < gapBelow mantissa exponent := by
  unfold gapBelow
  split <;> norm_num

theorem gapBelow_le (mantissa : Nat) (exponent : Int) : gapBelow mantissa exponent ≤ 1 / 2 := by
  unfold gapBelow
  split <;> norm_num

section

variable {mantissa : Nat} {exponent : Int} {value : ℚ}

theorem ReadsBack.half_le (h : ReadsBack mantissa exponent value)
    (hc : IsCanonical mantissa exponent) : 1 / 2 ≤ value / 2 ^ exponent := by
  have hpos : (1 : ℚ) ≤ mantissa := Nat.one_le_cast.2 hc.pos
  linarith [h.low, gapBelow_le mantissa exponent]

theorem ReadsBack.pos (h : ReadsBack mantissa exponent value)
    (hc : IsCanonical mantissa exponent) : 0 < value := by
  have hhalf := h.half_le hc
  rw [le_div_iff₀ (two_zpow_pos exponent)] at hhalf
  linarith [two_zpow_pos exponent]

theorem ReadsBack.lt (h : ReadsBack mantissa exponent value)
    (hc : IsCanonical mantissa exponent) : value / 2 ^ exponent < 2 ^ 53 := by
  have hlt : (mantissa : ℚ) + 1 ≤ 2 ^ 53 := by exact_mod_cast hc.lt
  linarith [h.high]

theorem readsBack_of_lt (hlow : mantissa - gapBelow mantissa exponent < value / 2 ^ exponent)
    (hhigh : value / 2 ^ exponent < mantissa + 1 / 2) : ReadsBack mantissa exponent value :=
  ⟨hlow.le, hhigh.le, fun _ => ⟨hlow, hhigh⟩⟩

/-- The binade of a value above or below that of the last place. -/
theorem log_lt_iff (hvalue : 0 < value) (k : Nat) :
    Int.log 2 value < exponent + k ↔ value / 2 ^ exponent < 2 ^ k := by
  rw [← Int.lt_zpow_iff_log_lt (by decide) hvalue, div_lt_iff₀ (two_zpow_pos exponent),
    Nat.cast_ofNat, zpow_add₀ two_ne_zero, zpow_natCast, mul_comm]

/-- A fraction is given a mantissa if it is at most a half away from it in units of the last place, and
not on the middle to the next one if the mantissa is odd. -/
theorem atExponent_eq (mantissa : Nat) (negative : Bool) {num den : Nat} (hden : 0 < den)
    (hlow : (mantissa : ℚ) - 1 / 2 ≤ num / den / 2 ^ exponent)
    (hhigh : (num / den / 2 ^ exponent : ℚ) ≤ mantissa + 1 / 2)
    (htie : mantissa % 2 = 1 → (mantissa : ℚ) - 1 / 2 < num / den / 2 ^ exponent ∧
      (num / den / 2 ^ exponent : ℚ) < mantissa + 1 / 2) :
    atExponent negative num den exponent =
      if mantissa = pow2 53 then
        if greatestExponent < exponent + 1 then infinite negative
        else finite negative (pow2 52) (exponent + 1)
      else if greatestExponent < exponent then infinite negative
      else finite negative mantissa exponent := by
  rw [← scaled_ratio] at hlow hhigh htie
  have hround := roundDiv_eq (scaled_den_pos num hden exponent) hlow hhigh htie
  rw [atExponent, hround]

/-- A value below the binade of the mantissa is read as its least number. -/
theorem ReadsBack.eq_pow2 (h : ReadsBack mantissa exponent value)
    (hc : IsCanonical mantissa exponent) (hexponent : leastExponent < exponent)
    (hbelow : value / 2 ^ exponent < 2 ^ 52) : mantissa = pow2 52 := by
  apply Nat.le_antisymm ?_ (hc.full hexponent)
  have hlow := h.low
  have hgap := gapBelow_le mantissa exponent
  have hlt : (mantissa : ℚ) < 2 ^ 52 + 1 := by linarith
  exact Nat.lt_succ_iff.1 (by exact_mod_cast hlt)

/-- A fraction with such a value is read as the number. -/
theorem ofRatio_of_readsBack (hc : IsCanonical mantissa exponent) (negative : Bool) {num den : Nat}
    (hden : 0 < den) (h : ReadsBack mantissa exponent (num / den)) :
    ofRatio negative num den = finite negative mantissa exponent := by
  have hvalue := h.pos hc
  have hnum : 0 < num := by
    rw [Nat.pos_iff_ne_zero]
    rintro rfl
    simp at hvalue
  have hgreatest := Int.not_lt.2 hc.greatest
  have hlog (k : Nat) : Int.log 2 (num / den : ℚ) < exponent + k ↔ _ := log_lt_iff hvalue k
  have h53 := (hlog 53).2 (h.lt hc)
  rw [ofRatio_eq negative hnum hden]
  by_cases hbelow : leastExponent < exponent ∧ (num / den / 2 ^ exponent : ℚ) < 2 ^ 52
  · -- the binade below: the value is rounded up to the mantissa, which is the least of its binade
    obtain rfl := h.eq_pow2 hc hbelow.1 hbelow.2
    have hgap : gapBelow (pow2 52) exponent = 1 / 4 := if_pos ⟨rfl, hbelow.1⟩
    have hlow : (2 ^ 52 : ℚ) - 1 / 4 ≤ num / den / 2 ^ exponent := by
      rw [← hgap, ← cast_pow2]
      exact h.low
    have h52 := (hlog 52).2 hbelow.2
    have h51 : ¬ Int.log 2 (num / den : ℚ) < exponent + (51 : Nat) := by
      rw [hlog, not_lt]
      linarith
    have hexponent : max (Int.log 2 (num / den : ℚ) - 52) leastExponent = exponent - 1 := by
      omega
    have hdouble : (num / den / 2 ^ (exponent - 1) : ℚ) = 2 * (num / den / 2 ^ exponent) := by
      rw [zpow_sub_one₀ two_ne_zero]
      field_simp
    have hmantissa : ((pow2 53 : Nat) : ℚ) = 2 ^ 53 := cast_pow2 53
    rw [hexponent, atExponent_eq (pow2 53) negative hden, if_pos rfl,
      Int.sub_add_cancel, if_neg hgreatest]
    · rw [hdouble, hmantissa]
      linarith
    · rw [hdouble, hmantissa]
      linarith
    · intro hodd
      exact absurd hodd (by decide)
  · have hexponent : max (Int.log 2 (num / den : ℚ) - 52) leastExponent = exponent := by
      have hleast := hc.least
      rcases Int.lt_or_eq_of_le hleast with hlt | heq
      · have h52 : ¬ Int.log 2 (num / den : ℚ) < exponent + (52 : Nat) := by
          rw [hlog]
          exact fun hlow => hbelow ⟨hlt, hlow⟩
        omega
      · omega
    have hgap := gapBelow_le mantissa exponent
    rw [hexponent, atExponent_eq mantissa negative hden (by linarith [h.low]) h.high, if_neg hc.lt.ne,
      if_neg hgreatest]
    intro hodd
    obtain ⟨hlow, hhigh⟩ := h.tie hodd
    exact ⟨by linarith, hhigh⟩

/-! ### Decimals -/

theorem length_toDigits_bounds {n : Nat} (h : 0 < n) :
    10 ^ ((Nat.toDigits 10 n).length - 1) ≤ n ∧ n < 10 ^ (Nat.toDigits 10 n).length := by
  have hlength (k : Nat) (hk : 0 < k) := Nat.length_toDigits_le_iff (n := n) (by decide : 1 < 10) hk
  have hpos : 0 < (Nat.toDigits 10 n).length := Nat.length_toDigits_pos
  refine ⟨?_, (hlength _ hpos).1 (Nat.le_refl _)⟩
  rcases Nat.eq_zero_or_pos ((Nat.toDigits 10 n).length - 1) with hzero | hless
  · rw [hzero]
    exact h
  · rw [← Nat.not_lt, ← hlength _ hless]
    omega

/-- The digits and the power of ten bound a decimal. -/
theorem decimal_bounds {digits : Nat} (hdigits : 0 < digits) (power : Int) :
    (10 : ℚ) ^ ((Nat.toDigits 10 digits).length + power - 1) ≤ digits * 10 ^ power ∧
      (digits * 10 ^ power : ℚ) < 10 ^ ((Nat.toDigits 10 digits).length + power) := by
  obtain ⟨hlow, hhigh⟩ := length_toDigits_bounds hdigits
  have hpos : 0 < (Nat.toDigits 10 digits).length := Nat.length_toDigits_pos
  have hpower := ten_zpow_pos power
  generalize (Nat.toDigits 10 digits).length = length at *
  constructor
  · calc (10 : ℚ) ^ (length + power - 1) = 10 ^ (length - 1 : Nat) * 10 ^ power := by
          rw [← zpow_natCast, ← zpow_add₀ (by norm_num)]
          congr 1
          omega
      _ ≤ digits * 10 ^ power := by
          gcongr
          exact_mod_cast hlow
  · calc (digits * 10 ^ power : ℚ) < 10 ^ length * 10 ^ power := by
          gcongr
          exact_mod_cast hhigh
      _ = 10 ^ (length + power) := by rw [← zpow_natCast, ← zpow_add₀ (by norm_num)]

theorem two_pow_1024_le : 2 ^ 1024 ≤ 10 ^ 310 := by decide +kernel

theorem two_pow_1075_lt : 2 ^ 1075 < 10 ^ 331 := by decide +kernel

/-- A decimal with such a value is neither cut off as too large nor as too small. -/
theorem ReadsBack.magnitude (h : ReadsBack mantissa exponent value)
    (hc : IsCanonical mantissa exponent) :
    (10 : ℚ) ^ (-331 : Int) < value ∧ value < 10 ^ (310 : Int) := by
  have hhalf := h.half_le hc
  have hlt := h.lt hc
  have hpower := two_zpow_pos exponent
  rw [le_div_iff₀ hpower] at hhalf
  rw [div_lt_iff₀ hpower] at hlt
  constructor
  · calc (10 : ℚ) ^ (-331 : Int) < 2 ^ (-1075 : Int) := by
          rw [zpow_neg, zpow_neg]
          apply inv_strictAnti₀ (by positivity)
          exact_mod_cast two_pow_1075_lt
      _ = 1 / 2 * 2 ^ leastExponent := by
          rw [leastExponent, show (-1075 : Int) = -1074 - 1 from rfl, zpow_sub_one₀ two_ne_zero]
          ring
      _ ≤ 1 / 2 * 2 ^ exponent := by
          gcongr
          · norm_num
          · exact hc.least
      _ ≤ value := hhalf
  · calc value < 2 ^ 53 * 2 ^ exponent := hlt
      _ ≤ 2 ^ 53 * 2 ^ greatestExponent := by
          gcongr
          · norm_num
          · exact hc.greatest
      _ = 2 ^ (1024 : Int) := by
          rw [greatestExponent, ← zpow_natCast, ← zpow_add₀ two_ne_zero]
          rfl
      _ ≤ 10 ^ (310 : Int) := by exact_mod_cast two_pow_1024_le

/-- A decimal with such a value is read as the number, whatever its digits. -/
theorem ofDecimal_of_readsBack (hc : IsCanonical mantissa exponent) (negative : Bool) {digits : Nat}
    {power : Int} (h : ReadsBack mantissa exponent (digits * 10 ^ power)) :
    ofDecimal negative digits power = finite negative mantissa exponent := by
  have hdigits : 0 < digits := by
    rw [Nat.pos_iff_ne_zero]
    rintro rfl
    have hvalue := h.pos hc
    simp at hvalue
  obtain ⟨hlow, hhigh⟩ := decimal_bounds hdigits power
  obtain ⟨hleast, hgreatest⟩ := h.magnitude hc
  have hmin : ¬ ((Nat.toDigits 10 digits).length : Int) + power < -330 := by
    have hlt := (zpow_lt_zpow_iff_right₀ (by norm_num : (1 : ℚ) < 10)).1 (hleast.trans hhigh)
    omega
  have hmax : ¬ 310 < ((Nat.toDigits 10 digits).length : Int) + power := by
    have hlt := (zpow_lt_zpow_iff_right₀ (by norm_num : (1 : ℚ) < 10)).1
      (hlow.trans_lt hgreatest)
    omega
  have hratio : ((digits * pow10 power.toNat : Nat) : ℚ) / (pow10 (-power).toNat : Nat) =
      digits * 10 ^ power := by
    rw [Nat.cast_mul, cast_pow10, cast_pow10, zpow_eq_div 10 power, mul_div_assoc]
  rw [ofDecimal]
  simp only [hdigits.ne', hmin, decide_false, Bool.or_self, Bool.false_eq_true, if_false, gt_iff_lt,
    hmax]
  exact ofRatio_of_readsBack hc negative (pow10_pos _) (hratio ▸ h)

/-- A decimal is read as a number of the format, unless it is too large. -/
theorem ofDecimal_isNumber {negative : Bool} {digits : Nat} {power : Int}
    (h : (ofDecimal negative digits power).isFinite = true) :
    IsNumber (ofDecimal negative digits power) := by
  rw [ofDecimal] at h ⊢
  split at h
  · next hzero =>
    rw [if_pos hzero]
    exact .zero negative
  · next hzero =>
    split at h
    · cases h
    · next hsmall =>
      rw [if_neg hzero, if_neg hsmall]
      have hdigits : 0 < digits := by
        rw [Nat.pos_iff_ne_zero]
        rintro rfl
        simp at hzero
      exact ofRatio_isNumber (Nat.mul_pos hdigits (pow10_pos _)) (pow10_pos _) h

end

end ScopedSearch.Binary64
