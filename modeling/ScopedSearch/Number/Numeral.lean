import ScopedSearch.Number.Binary64
import ScopedSearch.Text.Blank
import ScopedSearch.Text.Digit

/-!
# Numerals

A whole number is written in decimal unless it has too many digits (`Numeral.text?`). There are three
grammars of numerals that are read. A *typed* numeral is what people type into a search: digits of any
script with single underscores between them, a point and an exponent, and the names of the special
numbers. A *level* numeral is how a registry may write a bound as text: ASCII digits and nothing
after the point but zeros. A *plain* numeral is a run of digits of any script.
-/

namespace ScopedSearch.Numeral

open ScopedSearch.Text

/-- The value of a run of decimal digits, most significant first. -/
def digitsValue (digits : List Nat) : Nat := digits.foldl (fun value digit => 10 * value + digit) 0

/-- The digits of any script in the text, each in front of at most one underscore that another
digit follows; nothing else may occur, and there is at least one digit. -/
def groupedDigits? : List Char → Option (List Nat)
  | [] => none
  | [c] => (decimalValue? c).map ([·])
  | c :: '_' :: rest => do
    let digit ← decimalValue? c
    let digits ← groupedDigits? rest
    return digit :: digits
  | c :: rest => do
    let digit ← decimalValue? c
    let digits ← groupedDigits? rest
    return digit :: digits

/-- The sign in front of a text, if there is one, and what follows it. -/
def splitSign : List Char → Bool × List Char
  | '-' :: rest => (true, rest)
  | '+' :: rest => (false, rest)
  | cs => (false, cs)

def signed (negative : Bool) (size : Nat) : Int := if negative then -size else size

/-- The most digits that a whole number may have, whether it is read or written. -/
def digitLimit : Nat := 4300

/-- Written in decimal, the number has no more digits than it may. Its sign counts for nothing. -/
def isShort (n : Int) : Bool := (Nat.toDigits 10 n.natAbs).length ≤ digitLimit

/-- The decimal text of a whole number, unless it has too many digits. -/
def text? (n : Int) : Option String := if isShort n then some (toString n) else none

/-- A typed whole number without blanks around it. -/
def readWhole? (text : String) : Option Int := do
  let (negative, rest) := splitSign text.toList
  let digits ← groupedDigits? rest
  if digits.length > digitLimit then none else return signed negative (digitsValue digits)

/-- The text with every underscore between two digits left out; an underscore elsewhere has no
reading. -/
def ungroup? : List Char → Option (List Char)
  | [] => some []
  | '_' :: _ => none
  | c :: '_' :: d :: rest =>
    if (decimalValue? c).isSome && (decimalValue? d).isSome then
      (ungroup? (d :: rest)).map (c :: ·)
    else none
  | c :: rest => (ungroup? rest).map (c :: ·)

/-- The leading decimal digits and what follows them. -/
def spanDigits : List Char → List Nat × List Char
  | [] => ([], [])
  | c :: rest =>
    match decimalValue? c with
    | some digit =>
      let (digits, rest) := spanDigits rest
      (digit :: digits, rest)
    | none => ([], c :: rest)

def exponent? : List Char → Option Int
  | [] => some 0
  | c :: rest =>
    if c = 'e' || c = 'E' then
      let (negative, rest) := splitSign rest
      match spanDigits rest with
      | ([], _) => none
      | (digits, []) => some (signed negative (digitsValue digits))
      | _ => none
    else none

/-- A decimal without sign: digits before or after a point, or both, and an exponent. -/
def decimal? (negative : Bool) (cs : List Char) : Option Binary64 :=
  let (whole, rest) := spanDigits cs
  let (fraction, rest) :=
    match rest with
    | '.' :: rest => spanDigits rest
    | rest => ([], rest)
  if whole = [] && fraction = [] then none
  else (exponent? rest).map fun exponent =>
    Binary64.ofDecimal negative (digitsValue (whole ++ fraction)) (exponent - fraction.length)

/-- A typed number without blanks around it: a decimal, or the name of an infinity or of the
non-number in any mixture of cases. -/
def readFloat? (text : String) : Option Binary64 := do
  let cs ← ungroup? text.toList
  let (negative, rest) := splitSign cs
  let word := String.ofList (rest.map Char.toLower)
  if word = "inf" || word = "infinity" then return .infinite negative
  else if word = "nan" then return .nan
  else decimal? negative rest

/-! ## Level numerals -/

/-- Why a level numeral has no value. -/
inductive LevelFault where
  | malformed
  /-- It is longer than `digitLimit`. -/
  | tooLong
  deriving DecidableEq, Repr

/-- Whether a minus sign stands in front, and what follows it. -/
def splitMinus : List Char → Bool × List Char
  | '-' :: rest => (true, rest)
  | cs => (false, cs)

/-- A whole number in its plain form: a minus sign or none, then ASCII digits, of which the first is
zero only if it stands alone. One that is too long, its sign counted, is refused whatever comes
after it. -/
def plainWhole (cs : List Char) : Except LevelFault Int :=
  let (negative, rest) := splitMinus cs
  let digits := rest.takeWhile Char.isDigit
  let length := digits.length + negative.toNat
  if digits = [] then .error .malformed
  else if digits.head? = some '0' then if rest = ['0'] then .ok 0 else .error .malformed
  else if length > digitLimit then .error .tooLong
  else if rest.length > digits.length then .error .malformed
  else .ok (signed negative (digitsValue (digits.map (·.toNat - 48))))

/-- The text without a plus sign in front, which no minus sign may follow. -/
def dropPlus? : List Char → Option (List Char)
  | '+' :: '-' :: _ => none
  | '+' :: rest => some rest
  | cs => some cs

/-- A digit, or a minus sign. -/
def beginsWhole (c : Char) : Bool := c.isDigit || c = '-'

/-- The text without leading zeros and the underscores among them. A text of nothing else keeps its
last character, and a zero stays in front of a point. What is left begins as a plain whole number
does: even a minus sign may stand after the zeros. -/
def dropLeadingZeros? : List Char → Option (List Char)
  | [] => none
  | '0' :: rest =>
    let filler := ('0' :: rest).takeWhile fun c => c = '0' || c = '_'
    match ('0' :: rest).dropWhile fun c => c = '0' || c = '_' with
    | [] => some (filler.drop (filler.length - 1))
    | '.' :: tail => some (filler.drop (filler.length - 1) ++ '.' :: tail)
    | c :: tail => if beginsWhole c then some (c :: tail) else none
  | c :: rest => if beginsWhole c then some (c :: rest) else none

/-- The text without a point and the zeros, at least one, that end it. -/
def dropZeroFraction (cs : List Char) : List Char :=
  let fraction := (cs.dropWhile (· ≠ '.')).drop 1
  if fraction ≠ [] && fraction.all (· = '0') then cs.takeWhile (· ≠ '.') else cs

def hasDoubleUnderscore : List Char → Bool
  | '_' :: '_' :: _ => true
  | _ :: rest => hasDoubleUnderscore rest
  | [] => false

/-- The text without its underscores, if none is at an end or beside another. -/
def dropUnderscores (cs : List Char) : List Char :=
  if cs.head? = some '_' || cs.getLast? = some '_' || hasDoubleUnderscore cs then cs
  else cs.filter (· ≠ '_')

/-- The plain form that a level numeral stands for: white space around it, a plus sign, leading
zeros, a fraction of zeros and single underscores are left out. A minus sign in front is set aside
meanwhile, so that the zeros behind it count as leading ones. -/
def plainForm? (cs : List Char) : Option (List Char) := do
  let cs ← dropPlus? (trimChars isWhiteSpace cs)
  let (negative, size) := splitMinus cs
  let size := dropUnderscores (dropZeroFraction (← dropLeadingZeros? size))
  return if negative then '-' :: size else size

/-- A level numeral: a plain whole number, or what has one as its plain form. Only a text that is
too long as it stands is refused as such. -/
def readLevel (text : String) : Except LevelFault Int :=
  match plainWhole text.toList with
  | .ok n => .ok n
  | .error .tooLong => .error .tooLong
  | .error .malformed =>
    match (plainForm? text.toList).map plainWhole with
    | some (.ok n) => .ok n
    | _ => .error .malformed

/-! ## Plain numerals -/

/-- Decimal digits of any script and nothing else. -/
def readPlain? (text : String) : Option Nat :=
  match spanDigits text.toList with
  | ([], _) => none
  | (digits, []) => if digits.length > digitLimit then none else some (digitsValue digits)
  | _ => none

end ScopedSearch.Numeral
