import ScopedSearch.Number.Binary64

/-!
# The shortest decimal that reads back

A finite number is written with the fewest significant digits that still read back as it; of two
decimals with that many digits the nearer one is taken, an exact tie going to the even digit. The
search runs over the grids of 1, 2, … 17 digits and tests, on each, the two neighbours of the value.
How the digits are laid out is a `FloatLayout`.
-/

namespace ScopedSearch

/-- A positive decimal `digits * 10 ^ exponent`. -/
structure Decimal where
  digits : Nat
  exponent : Int
  deriving DecidableEq, Repr

namespace Binary64

/-- The exponent of the leading decimal digit of the positive value `mantissa * 2 ^ exponent`. The
factor `10 ^ 350` makes every positive number of the format exceed one. -/
def leadingExponent (mantissa : Nat) (exponent : Int) : Int :=
  let (num, den) := scaled mantissa 1 (-exponent)
  (Nat.toDigits 10 (num * pow10 350 / den)).length - 1 - 350

/-- The reals that read back as `mantissa * 2 ^ exponent`, as bounds in units of
`2 ^ (exponent - 2)`: half-way to either neighbour, where the lower neighbour of a power of two is
only half as far. -/
def readBackBounds (mantissa : Nat) (exponent : Int) : Nat × Nat :=
  (if mantissa = pow2 52 && exponent > leastExponent then 4 * mantissa - 1 else 4 * mantissa - 2,
    4 * mantissa + 2)

/-- The decimal on the grid of `count` digits that reads back as `mantissa * 2 ^ exponent` and is
nearest to it, if the grid has one. The bounds themselves read back when the mantissa is even. -/
def onGrid? (mantissa : Nat) (exponent leading : Int) (count : Nat) : Option Decimal :=
  let grid := leading - count + 1
  -- one step of the grid and one unit of the bounds, over a common denominator
  let step := pow10 grid.toNat * pow2 (2 - exponent).toNat
  let unit := pow2 (exponent - 2).toNat * pow10 (-grid).toNat
  let (low, high) := readBackBounds mantissa exponent
  let readsBack (digits : Nat) : Bool :=
    if mantissa % 2 = 0 then low * unit ≤ digits * step && digits * step ≤ high * unit
    else low * unit < digits * step && digits * step < high * unit
  let value := 4 * mantissa * unit
  let below := value / step
  let toBelow := value - below * step
  let toAbove := (below + 1) * step - value
  let belowNearer := toBelow < toAbove || (toBelow = toAbove && below % 2 = 0)
  if readsBack below && (belowNearer || !readsBack (below + 1)) then some ⟨below, grid⟩
  else if readsBack (below + 1) then some ⟨below + 1, grid⟩
  else none

/-- The decimal with the fewest digits that reads back as the positive value
`mantissa * 2 ^ exponent`. Seventeen digits always suffice. -/
def shortest (mantissa : Nat) (exponent : Int) : Decimal :=
  let leading := leadingExponent mantissa exponent
  ((List.range 17).findSome? fun n => onGrid? mantissa exponent leading (n + 1)).getD ⟨0, 0⟩

end Binary64

/-- How the digits of a number are laid out. -/
structure FloatLayout where
  /-- The least leading exponent that is still written without an exponent. -/
  leastPositional : Int
  /-- The greatest leading exponent that is still written without an exponent. -/
  greatestPositional : Int
  /-- The least number of digits of a written exponent, which always has its sign. -/
  exponentWidth : Nat
  nan : String
  infinity : String

namespace FloatLayout

/-- The digits of a whole number, zeros put in front up to `width`. -/
def padded (width n : Nat) : String :=
  let digits := Nat.toDigits 10 n
  String.ofList (List.replicate (width - digits.length) '0' ++ digits)

/-- The digits with the point after the first `point` of them, zeros filled in on either side; a
whole number keeps a zero after its point. -/
def positional (digits : List Char) (point : Int) : String :=
  if point ≤ 0 then
    String.ofList ('0' :: '.' :: List.replicate (-point).toNat '0' ++ digits)
  else
    let whole := digits.take point.toNat ++ List.replicate (point.toNat - digits.length) '0'
    let fraction := digits.drop point.toNat
    String.ofList (whole ++ '.' :: if fraction = [] then ['0'] else fraction)

/-- The digits with the point after the first one, none if there is just one, and the exponent. -/
def scientific (layout : FloatLayout) (digits : List Char) (leading : Int) : String :=
  let mantissa :=
    match digits with
    | [] | [_] => digits
    | first :: rest => first :: '.' :: rest
  let sign := if leading < 0 then "e-" else "e+"
  String.ofList mantissa ++ sign ++ padded layout.exponentWidth leading.natAbs

def text (layout : FloatLayout) : Binary64 → String
  | .nan => layout.nan
  | .infinite negative => (if negative then "-" else "") ++ layout.infinity
  | .finite negative mantissa exponent =>
    let sign := if negative then "-" else ""
    if mantissa = 0 then sign ++ "0.0"
    else
      let decimal := Binary64.shortest mantissa exponent
      let all := Nat.toDigits 10 decimal.digits
      let leading := decimal.exponent + all.length - 1
      let digits := (all.reverse.dropWhile (· = '0')).reverse
      if layout.leastPositional ≤ leading && leading ≤ layout.greatestPositional then
        sign ++ positional digits (leading + 1)
      else sign ++ layout.scientific digits leading

end FloatLayout

end ScopedSearch
