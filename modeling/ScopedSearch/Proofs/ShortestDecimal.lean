import ScopedSearch.Number.Shortest
import ScopedSearch.Proofs.Rounding

/-!
# The shortest decimal is read as the number

The search for the shortest decimal tests on each of its grids whether one of the two decimals next to
the number is read as it (`Binary64.readsOnGrid_iff`). On the grid of seventeen digits a step is less
than a unit in the last place of the number, so that one of the two is (`Binary64.gridBelow_reads`), and
the search ends there if not before (`Binary64.shortest_readsBack`).
-/

namespace ScopedSearch.Binary64

variable {mantissa : Nat} {exponent : Int}

/-! ### The leading digit -/

theorem readsBack_self (mantissa : Nat) (exponent : Int) :
    ReadsBack mantissa exponent (mantissa * 2 ^ exponent) := by
  have hgap := gapBelow_pos mantissa exponent
  have hvalue : (mantissa * 2 ^ exponent / 2 ^ exponent : ℚ) = mantissa :=
    mul_div_cancel_right₀ _ (two_zpow_pos exponent).ne'
  apply readsBack_of_lt
  · rw [hvalue]
    linarith
  · rw [hvalue]
    linarith

/-- The leading digit of a number is not above it. -/
theorem ten_zpow_leadingExponent_le (hc : IsCanonical mantissa exponent) :
    (10 : ℚ) ^ leadingExponent mantissa exponent ≤ mantissa * 2 ^ exponent := by
  have hleast := ((readsBack_self mantissa exponent).magnitude hc).1
  have hvalue : ((scaled mantissa 1 (-exponent)).1 : ℚ) / (scaled mantissa 1 (-exponent)).2 =
      mantissa * 2 ^ exponent := by
    rw [scaled_ratio, Nat.cast_one, div_one, zpow_neg, div_inv_eq_mul]
  have hden : (0 : ℚ) < (scaled mantissa 1 (-exponent)).2 :=
    Nat.cast_pos.2 (scaled_den_pos mantissa Nat.one_pos _)
  rw [leadingExponent]
  dsimp only
  generalize (scaled mantissa 1 (-exponent)).1 = num at *
  generalize (scaled mantissa 1 (-exponent)).2 = den at *
  rw [← hvalue] at hleast ⊢
  have hquotient : ((num * pow10 350 / den : Nat) : ℚ) ≤ num / den * 10 ^ 350 := by
    rw [← cast_pow10, div_mul_eq_mul_div, ← Nat.cast_mul]
    exact Nat.cast_div_le
  have hpos : 0 < num * pow10 350 / den := by
    apply Nat.div_pos ?_ (Nat.cast_pos.1 hden)
    have hbig : (den : ℚ) ≤ num * 10 ^ 350 := by
      rw [lt_div_iff₀ hden] at hleast
      calc (den : ℚ) ≤ 10 ^ (19 : Nat) * den := by linarith
        _ = 10 ^ (-331 : Int) * den * 10 ^ 350 := by
          rw [← zpow_natCast, ← zpow_natCast, mul_right_comm, ← zpow_add₀ (by norm_num)]
          rfl
        _ ≤ num * 10 ^ 350 := by gcongr
    rw [← cast_pow10] at hbig
    exact_mod_cast hbig
  obtain ⟨hdigits, -⟩ := length_toDigits_bounds hpos
  have hlength : 0 < (Nat.toDigits 10 (num * pow10 350 / den)).length := Nat.length_toDigits_pos
  generalize (Nat.toDigits 10 (num * pow10 350 / den)).length = length at *
  have hpower : (10 : ℚ) ^ (length - 1 : Nat) ≤ num / den * 10 ^ 350 := by
    refine le_trans ?_ hquotient
    exact_mod_cast hdigits
  calc (10 : ℚ) ^ ((length : Int) - 1 - 350) = 10 ^ (length - 1 : Nat) / 10 ^ 350 := by
        rw [← zpow_natCast, ← zpow_natCast, ← zpow_sub₀ (by norm_num)]
        congr 1
        omega
    _ ≤ num / den := by
        rw [div_le_iff₀ (by positivity)]
        exact hpower

/-! ### Grids -/

/-- A step of a grid, and a unit of the bounds, as whole numbers. -/
def gridStep (exponent grid : Int) : Nat := pow10 grid.toNat * pow2 (2 - exponent).toNat

def gridUnit (exponent grid : Int) : Nat := pow2 (exponent - 2).toNat * pow10 (-grid).toNat

/-- The test whether a decimal of a grid is read as the number. -/
def readsOnGrid (mantissa : Nat) (exponent grid : Int) (digits : Nat) : Bool :=
  let step := gridStep exponent grid
  let unit := gridUnit exponent grid
  let (low, high) := readBackBounds mantissa exponent
  if mantissa % 2 = 0 then low * unit ≤ digits * step && digits * step ≤ high * unit
  else low * unit < digits * step && digits * step < high * unit

/-- The decimal of a grid that is not above the number. -/
def gridBelow (mantissa : Nat) (exponent grid : Int) : Nat :=
  4 * mantissa * gridUnit exponent grid / gridStep exponent grid

/-- Of the decimals next to the number one is taken that is read as it, and none only if neither is. -/
theorem onGrid?_eq (mantissa : Nat) (exponent leading : Int) (count : Nat) :
    ∃ (grid : Int) (nearer : Bool), grid = leading - count + 1 ∧
      onGrid? mantissa exponent leading count =
        let below := gridBelow mantissa exponent grid
        let reads := readsOnGrid mantissa exponent grid
        if reads below && (nearer || !reads (below + 1)) then some ⟨below, grid⟩
        else if reads (below + 1) then some ⟨below + 1, grid⟩
        else none :=
  ⟨_, _, rfl, rfl⟩

theorem onGrid?_reads {leading : Int} {count : Nat} {decimal : Decimal}
    (h : onGrid? mantissa exponent leading count = some decimal) :
    readsOnGrid mantissa exponent decimal.exponent decimal.digits = true := by
  obtain ⟨grid, nearer, -, hgrid⟩ := onGrid?_eq mantissa exponent leading count
  rw [hgrid] at h
  dsimp only at h
  split at h
  · next htest =>
    cases h
    exact (Bool.and_eq_true_iff.1 htest).1
  · split at h
    · next htest =>
      cases h
      exact htest
    · cases h

theorem onGrid?_isSome (leading : Int) (count : Nat)
    (h : ∀ grid : Int, grid = leading - count + 1 →
      readsOnGrid mantissa exponent grid (gridBelow mantissa exponent grid) = true ∨
        readsOnGrid mantissa exponent grid (gridBelow mantissa exponent grid + 1) = true) :
    (onGrid? mantissa exponent leading count).isSome := by
  obtain ⟨grid, nearer, hgrid, hfound⟩ := onGrid?_eq mantissa exponent leading count
  rw [hfound]
  dsimp only
  cases habove : readsOnGrid mantissa exponent grid (gridBelow mantissa exponent grid + 1) with
  | true => split <;> rfl
  | false =>
    rcases h grid hgrid with hbelow | hother
    · simp [hbelow]
    · cases habove.symm.trans hother

theorem gridUnit_pos (exponent grid : Int) : 0 < gridUnit exponent grid :=
  Nat.mul_pos (pow2_pos _) (pow10_pos _)

theorem gridStep_pos (exponent grid : Int) : 0 < gridStep exponent grid :=
  Nat.mul_pos (pow10_pos _) (pow2_pos _)

/-- A decimal in units of the bounds, of which four make a unit in the last place. -/
theorem digits_mul_gridStep (exponent grid : Int) (digits : Nat) :
    ((digits * gridStep exponent grid : Nat) : ℚ) =
      4 * (digits * 10 ^ grid / 2 ^ exponent) * gridUnit exponent grid := by
  have hfour : (4 / 2 ^ exponent : ℚ) = 2 ^ (2 - exponent).toNat / 2 ^ (exponent - 2).toNat := by
    have hpower := zpow_eq_div 2 (2 - exponent)
    rw [neg_sub, zpow_sub₀ two_ne_zero] at hpower
    rw [← hpower]
    norm_num
  have hunit : ((2 : ℚ) ^ (exponent - 2).toNat) ≠ 0 := by positivity
  have hscale : (digits * 10 ^ grid / 2 ^ exponent * 4 : ℚ) =
      digits * 10 ^ grid * (4 / 2 ^ exponent) := by ring
  rw [gridStep, gridUnit, mul_comm 4, hscale, hfour, zpow_eq_div 10 grid]
  push_cast
  rw [cast_pow2, cast_pow2, cast_pow10, cast_pow10]
  field_simp

theorem readBackBounds_eq (hc : IsCanonical mantissa exponent) :
    ((readBackBounds mantissa exponent).1 : ℚ) = 4 * (mantissa - gapBelow mantissa exponent) ∧
      ((readBackBounds mantissa exponent).2 : ℚ) = 4 * (mantissa + 1 / 2) := by
  have hpos := hc.pos
  have hbinade : (mantissa = pow2 52 && exponent > leastExponent) = true ↔
      mantissa = pow2 52 ∧ leastExponent < exponent := by simp
  rw [readBackBounds, gapBelow]
  constructor
  · dsimp only
    split
    · next h =>
      rw [if_pos (hbinade.1 h), Nat.cast_sub (by omega)]
      push_cast
      ring
    · next h =>
      rw [if_neg (mt hbinade.2 h), Nat.cast_sub (by omega)]
      push_cast
      ring
  · push_cast
    ring

/-- The test tells the decimals that are read as the number. -/
theorem readsOnGrid_iff (hc : IsCanonical mantissa exponent) (grid : Int) (digits : Nat) :
    readsOnGrid mantissa exponent grid digits = true ↔
      ReadsBack mantissa exponent (digits * 10 ^ grid) := by
  obtain ⟨hlow, hhigh⟩ := readBackBounds_eq hc
  have hunit : (0 : ℚ) < gridUnit exponent grid := Nat.cast_pos.2 (gridUnit_pos exponent grid)
  have hscale := digits_mul_gridStep exponent grid digits
  have hle (a b : ℚ) : 4 * a * gridUnit exponent grid ≤ 4 * b * gridUnit exponent grid ↔ a ≤ b := by
    rw [mul_le_mul_iff_of_pos_right hunit, mul_le_mul_iff_of_pos_left four_pos]
  have hlt (a b : ℚ) : 4 * a * gridUnit exponent grid < 4 * b * gridUnit exponent grid ↔ a < b := by
    rw [mul_lt_mul_iff_of_pos_right hunit, mul_lt_mul_iff_of_pos_left four_pos]
  rw [readsOnGrid]
  dsimp only
  split
  · next heven =>
    rw [Bool.and_eq_true, decide_eq_true_eq, decide_eq_true_eq, ← Nat.cast_le (α := ℚ),
      ← Nat.cast_le (α := ℚ), hscale, Nat.cast_mul, Nat.cast_mul, hlow, hhigh, hle, hle]
    constructor
    · rintro ⟨hlow, hhigh⟩
      exact ⟨hlow, hhigh, fun hodd => by omega⟩
    · intro h
      exact ⟨h.low, h.high⟩
  · next hodd =>
    rw [Bool.and_eq_true, decide_eq_true_eq, decide_eq_true_eq, ← Nat.cast_lt (α := ℚ),
      ← Nat.cast_lt (α := ℚ), hscale, Nat.cast_mul, Nat.cast_mul, hlow, hhigh, hlt, hlt]
    constructor
    · rintro ⟨hlow, hhigh⟩
      exact ⟨hlow.le, hhigh.le, fun _ => ⟨hlow, hhigh⟩⟩
    · intro h
      exact h.tie (by omega)

/-- The number lies between the decimal of a grid that is not above it and the next one. -/
theorem gridBelow_bounds (mantissa : Nat) (exponent grid : Int) :
    (gridBelow mantissa exponent grid * 10 ^ grid / 2 ^ exponent : ℚ) ≤ mantissa ∧
      mantissa < ((gridBelow mantissa exponent grid + 1 : Nat) * 10 ^ grid / 2 ^ exponent : ℚ) := by
  have hunit : (0 : ℚ) < gridUnit exponent grid := Nat.cast_pos.2 (gridUnit_pos exponent grid)
  have hstep := gridStep_pos exponent grid
  have hlow := Nat.div_mul_le_self (4 * mantissa * gridUnit exponent grid) (gridStep exponent grid)
  have hhigh := (Nat.div_lt_iff_lt_mul hstep).1
    (Nat.lt_succ_self (4 * mantissa * gridUnit exponent grid / gridStep exponent grid))
  rw [← gridBelow] at hlow hhigh
  rw [← Nat.cast_le (α := ℚ), digits_mul_gridStep] at hlow
  rw [← Nat.cast_lt (α := ℚ), digits_mul_gridStep] at hhigh
  push_cast at hlow hhigh ⊢
  constructor
  · linarith [le_of_mul_le_mul_right hlow hunit]
  · linarith [lt_of_mul_lt_mul_right hhigh hunit.le]

/-! ### The search -/

/-- If a step of the grid is less than a unit in the last place, one of the decimals next to the number
is read as it. -/
theorem gridBelow_reads (hc : IsCanonical mantissa exponent) {grid : Int}
    (hgrid : (10 : ℚ) ^ grid * 10 ^ 16 ≤ mantissa * 2 ^ exponent) :
    readsOnGrid mantissa exponent grid (gridBelow mantissa exponent grid) = true ∨
      readsOnGrid mantissa exponent grid (gridBelow mantissa exponent grid + 1) = true := by
  obtain ⟨hlow, hhigh⟩ := gridBelow_bounds mantissa exponent grid
  have hstep : (10 : ℚ) ^ grid / 2 ^ exponent * 10 ^ 16 ≤ mantissa := by
    rw [div_mul_eq_mul_div, div_le_iff₀ (two_zpow_pos exponent)]
    exact hgrid
  have hnext : ((gridBelow mantissa exponent grid + 1 : Nat) * 10 ^ grid / 2 ^ exponent : ℚ) =
      gridBelow mantissa exponent grid * 10 ^ grid / 2 ^ exponent + 10 ^ grid / 2 ^ exponent := by
    push_cast
    ring
  have hgap := gapBelow_pos mantissa exponent
  rw [readsOnGrid_iff hc, readsOnGrid_iff hc]
  by_cases hleast : mantissa = pow2 52 ∧ leastExponent < exponent
  · -- the least number of a binade: the next decimal is less than half a unit above it
    right
    have hmantissa : (mantissa : ℚ) = 2 ^ 52 := by rw [hleast.1, cast_pow2]
    apply readsBack_of_lt
    · linarith
    · rw [hnext]
      linarith
  · have hhalf : gapBelow mantissa exponent = 1 / 2 := if_neg hleast
    have hmantissa : (mantissa : ℚ) < 2 ^ 53 := by
      rw [← cast_pow2]
      exact_mod_cast hc.lt
    rw [hnext] at hhigh
    rcases le_total
      (2 * (mantissa - gridBelow mantissa exponent grid * 10 ^ grid / 2 ^ exponent) : ℚ)
      (10 ^ grid / 2 ^ exponent) with hnear | hfar
    · left
      apply readsBack_of_lt
      · rw [hhalf]
        linarith
      · linarith
    · right
      apply readsBack_of_lt
      · rw [hnext]
        linarith
      · rw [hnext]
        linarith

/-- The decimal that is found is read as the number. -/
theorem shortest_readsBack (hc : IsCanonical mantissa exponent) :
    ReadsBack mantissa exponent
      ((shortest mantissa exponent).digits * 10 ^ (shortest mantissa exponent).exponent) := by
  have hlast : (onGrid? mantissa exponent (leadingExponent mantissa exponent) 17).isSome := by
    apply onGrid?_isSome
    rintro grid rfl
    apply gridBelow_reads hc
    refine le_trans (le_of_eq ?_) (ten_zpow_leadingExponent_le hc)
    rw [← zpow_natCast, ← zpow_add₀ (by norm_num)]
    congr 1
    omega
  have hfound : ((List.range 17).findSome? fun n =>
      onGrid? mantissa exponent (leadingExponent mantissa exponent) (n + 1)).isSome :=
    List.findSome?_isSome_iff.2 ⟨16, by decide, hlast⟩
  obtain ⟨decimal, hdecimal⟩ := Option.isSome_iff_exists.1 hfound
  obtain ⟨n, -, hn⟩ := List.exists_of_findSome?_eq_some hdecimal
  rw [shortest, hdecimal, Option.getD_some]
  exact (readsOnGrid_iff hc _ _).1 (onGrid?_reads hn)

end ScopedSearch.Binary64
