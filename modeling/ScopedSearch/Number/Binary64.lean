/-!
# Binary floating-point numbers of 64 bits

A finite number is held as its sign, an integer mantissa below `2 ^ 53` and a binary exponent, so
that reading and writing are exact integer arithmetic. No arithmetic is done on such numbers: they
are read, compared with whole numbers, and written.
-/

namespace ScopedSearch

/-- A number of the 64-bit binary format: `± mantissa * 2 ^ exponent`, an infinity, or none. -/
inductive Binary64 where
  | nan
  | infinite (negative : Bool)
  | finite (negative : Bool) (mantissa : Nat) (exponent : Int)
  deriving DecidableEq, Repr

namespace Binary64

def pow2 (n : Nat) : Nat := Nat.pow 2 n

def pow10 (n : Nat) : Nat := Nat.pow 10 n

def leastExponent : Int := -1074

/-- The greatest exponent of the format. -/
def greatestExponent : Int := 971

def zero (negative : Bool) : Binary64 := finite negative 0 leastExponent

/-- Neither an infinity nor a non-number. -/
def isFinite : Binary64 → Bool
  | finite .. => true
  | _ => false

/-- The quotient rounded to the nearest whole number, a tie to the even one. -/
def roundDiv (num den : Nat) : Nat :=
  let rest := num % den
  if 2 * rest < den || (2 * rest = den && num / den % 2 = 0) then num / den else num / den + 1

/-- The fraction `num / (den * 2 ^ exponent)` as numerator and denominator. -/
def scaled (num den : Nat) (exponent : Int) : Nat × Nat :=
  (num * pow2 (-exponent).toNat, den * pow2 exponent.toNat)

/-- The number of the format nearest to the positive fraction `num / den`, a tie to the even
mantissa; a fraction too large for the format gives an infinity. -/
def ofRatio (negative : Bool) (num den : Nat) : Binary64 :=
  let guess : Int := (Nat.log2 num : Int) - Nat.log2 den - 52
  let (guessNum, guessDen) := scaled num den guess
  let normal := if guessNum / guessDen < pow2 52 then guess - 1 else guess
  let exponent := max normal leastExponent
  let (num, den) := scaled num den exponent
  let mantissa := roundDiv num den
  let (mantissa, exponent) :=
    if mantissa = pow2 53 then (pow2 52, exponent + 1) else (mantissa, exponent)
  if exponent > greatestExponent then infinite negative else finite negative mantissa exponent

/-- The number of the format nearest to `± digits * 10 ^ exponent`. Decimals beyond `10 ^ 310` or
below `10 ^ (-330)` are infinite or zero whatever their digits. -/
def ofDecimal (negative : Bool) (digits : Nat) (exponent : Int) : Binary64 :=
  let magnitude : Int := (Nat.toDigits 10 digits).length + exponent
  if digits = 0 || magnitude < -330 then zero negative
  else if magnitude > 310 then infinite negative
  else ofRatio negative (digits * pow10 exponent.toNat) (pow10 (-exponent).toNat)

/-- The whole number that a finite number is, if it is one. -/
def whole? : Binary64 → Option Int
  | finite negative mantissa exponent =>
    let den := pow2 (-exponent).toNat
    if mantissa % den = 0 then
      let size : Int := Int.ofNat (mantissa / den * pow2 exponent.toNat)
      some (if negative then -size else size)
    else none
  | _ => none

/-- Equal to zero, of either sign. -/
def isZero : Binary64 → Bool
  | finite _ mantissa _ => mantissa = 0
  | _ => false

end Binary64

end ScopedSearch
