import ScopedSearch.Query
import ScopedSearch.Number.Numeral
import ScopedSearch.Text.Quoted
import ScopedSearch.Text.Surrogate

/-!
# Reading JSON

One value with blanks around it. Beyond the standard the reader takes `NaN`, `Infinity` and
`-Infinity`; of a key that occurs twice the last value counts, in the place of the first. Whole
numbers may have 4300 digits, or as many as another limit says. A value inside another starts at a
later character and costs two steps, so twice the length of the text bounds the recursion.
-/

namespace ScopedSearch.Json

open ScopedSearch.Text

/-- Why a text has no reading. -/
inductive Fault where
  /-- The text is no JSON. -/
  | malformed
  /-- A whole number has more digits than are read. -/
  | numeralTooLong
  deriving DecidableEq, Repr

/-- A blank between tokens. -/
def isSpace (c : Char) : Bool := c = ' ' || c = '\t' || c = '\n' || c = '\r'

/-- The text from its first character that is no blank. -/
def skipSpace (cs : List Char) : List Char := cs.dropWhile isSpace

def hexValue? (c : Char) : Option Nat :=
  if c.isDigit then some (c.toNat - 48)
  else if 'a' ≤ c && c ≤ 'f' then some (c.toNat - 87)
  else if 'A' ≤ c && c ≤ 'F' then some (c.toNat - 55)
  else none

/-- Four hexadecimal digits. -/
def hexUnit? : List Char → Option (Nat × List Char)
  | a :: b :: c :: d :: rest => do
    let a ← hexValue? a
    let b ← hexValue? b
    let c ← hexValue? c
    let d ← hexValue? d
    return (((a * 16 + b) * 16 + c) * 16 + d, rest)
  | _ => none

def simpleEscape? (c : Char) : Option Char :=
  if c = doubleQuote || c = '\\' || c = '/' then some c
  else if c = 'b' then some (Char.ofNat 0x08)
  else if c = 'f' then some (Char.ofNat 0x0c)
  else if c = 'n' then some '\n'
  else if c = 'r' then some '\r'
  else if c = 't' then some '\t'
  else none

/-- A second unit that completes a surrogate pair, if the text goes on with one. -/
def lowSurrogate? : List Char → Option (Nat × List Char)
  | '\\' :: 'u' :: rest => do
    let (unit, rest) ← hexUnit? rest
    if 0xdc00 ≤ unit && unit ≤ 0xdfff then return (unit, rest) else none
  | _ => none

/-- The code point that an escape stands for, read after its `\u`: a surrogate only if its partner
does not follow. -/
def unicodeEscape? (cs : List Char) : Option (CodePoint × List Char) := do
  let (unit, rest) ← hexUnit? cs
  if 0xd800 ≤ unit && unit ≤ 0xdbff then
    match lowSurrogate? rest with
    | some (low, rest) =>
      return (.ofNat (0x10000 + (unit - 0xd800) * 0x400 + (low - 0xdc00)), rest)
    | none => return (.ofNat unit, rest)
  else return (.ofNat unit, rest)

/-- What one step adds to a string, or nothing at its end. -/
def stringStep : List Char → Except Fault (Option (List Char) × List Char)
  | [] => .error .malformed
  | '\\' :: 'u' :: rest =>
    match unicodeEscape? rest with
    | some (point, rest) => .ok (some point.kept, rest)
    | none => .error .malformed
  | '\\' :: c :: rest =>
    match simpleEscape? c with
    | some c => .ok (some [c], rest)
    | none => .error .malformed
  | c :: rest =>
    if c = doubleQuote then .ok (none, rest)
    else if c.toNat < 0x20 || c = '\\' then .error .malformed
    else .ok (some [c], rest)

/-- The rest of a string after its opening quotation mark. -/
def stringRest : Nat → List Char → Except Fault (List Char × List Char)
  | 0, _ => .error .malformed
  | fuel + 1, cs =>
    match stringStep cs with
    | .error fault => .error fault
    | .ok (none, rest) => .ok ([], rest)
    | .ok (some cs, rest) => do
      let (tail, rest) ← stringRest fuel rest
      return (cs ++ tail, rest)

/-- The ASCII digits at the front, and the rest. -/
def digits (cs : List Char) : List Char × List Char :=
  (cs.takeWhile Char.isDigit, cs.dropWhile Char.isDigit)

/-- The digits in front of the point: a zero at the front is a number of its own. -/
def wholePart : List Char → List Char × List Char
  | '0' :: rest => (['0'], rest)
  | cs => digits cs

/-- A point and at least one digit, or nothing. -/
def fractionPart : List Char → List Char × List Char
  | '.' :: rest =>
    match digits rest with
    | ([], _) => ([], '.' :: rest)
    | found => found
  | cs => ([], cs)

/-- An exponent with at least one digit, or nothing. -/
def exponentPart : List Char → Option Int × List Char
  | c :: rest =>
    if c = 'e' || c = 'E' then
      let (negative, tail) := Numeral.splitSign rest
      match digits tail with
      | ([], _) => (none, c :: rest)
      | (found, tail) =>
        (some (Numeral.signed negative (Numeral.digitsValue (found.map (·.toNat - 48)))), tail)
    else (none, c :: rest)
  | [] => (none, [])

def words : List (List Char × Value) :=
  [("null".toList, .null), ("true".toList, .bool true), ("false".toList, .bool false),
    ("NaN".toList, .float .nan), ("Infinity".toList, .float (.infinite false)),
    ("-Infinity".toList, .float (.infinite true))]

/-- A number of so many digits is longer than what is read, if there is a limit. -/
def isTooLong (limit : Option Nat) (length : Nat) : Bool := limit.any (· < length)

section

variable (limit : Option Nat)

/-- A number, read after its sign. -/
def number (negative : Bool) (cs : List Char) : Except Fault (Value × List Char) :=
  let (whole, rest) := wholePart cs
  if whole = [] then .error .malformed
  else
    let value := Numeral.digitsValue
    let (fraction, rest) := fractionPart rest
    let (exponent, rest) := exponentPart rest
    if fraction = [] && exponent = none then
      if isTooLong limit whole.length then .error .numeralTooLong
      else .ok (.int (Numeral.signed negative (value (whole.map (·.toNat - 48)))), rest)
    else
      .ok (.float (Binary64.ofDecimal negative (value ((whole ++ fraction).map (·.toNat - 48)))
        (exponent.getD 0 - fraction.length)), rest)

/-- A word or a number. -/
def scalar (cs : List Char) : Except Fault (Value × List Char) :=
  match words.find? fun word => word.1.isPrefixOf cs with
  | some (word, value) => .ok (value, cs.drop word.length)
  | none =>
    match cs with
    | '-' :: rest => number limit true rest
    | cs => number limit false cs

mutual

/-- A value that starts at the front of the text. -/
def value : Nat → List Char → Except Fault (Value × List Char)
  | 0, _ => .error .malformed
  | fuel + 1, cs =>
    match cs with
    | [] => .error .malformed
    | c :: rest =>
      if c = doubleQuote then do
        let (text, rest) ← stringRest fuel rest
        return (.string (String.ofList text), rest)
      else if c = '[' then
        match skipSpace rest with
        | ']' :: rest => .ok (.list [], rest)
        | rest => do
          let (items, rest) ← listRest fuel rest
          return (.list items, rest)
      else if c = '\x7b' then
        match skipSpace rest with
        | '\x7d' :: rest => .ok (.map [], rest)
        | rest => do
          let (entries, rest) ← mapRest fuel rest
          return (.map (Entries.ofList entries), rest)
      else scalar limit (c :: rest)

/-- The items of a list from its first one on, and the closing bracket. -/
def listRest : Nat → List Char → Except Fault (List Value × List Char)
  | 0, _ => .error .malformed
  | fuel + 1, cs => do
    let (item, rest) ← value fuel cs
    match skipSpace rest with
    | ']' :: rest => return ([item], rest)
    | ',' :: rest =>
      let (items, rest) ← listRest fuel (skipSpace rest)
      return (item :: items, rest)
    | _ => .error .malformed

/-- The entries of an object from its first key on, and the closing brace. -/
def mapRest : Nat → List Char → Except Fault (List (String × Value) × List Char)
  | 0, _ => .error .malformed
  | fuel + 1, cs =>
    match cs with
    | c :: rest =>
      if c = doubleQuote then do
        let (key, rest) ← stringRest fuel rest
        match skipSpace rest with
        | ':' :: rest =>
          let (item, rest) ← value fuel (skipSpace rest)
          match skipSpace rest with
          | '\x7d' :: rest => return ([(String.ofList key, item)], rest)
          | ',' :: rest =>
            let (entries, rest) ← mapRest fuel (skipSpace rest)
            return ((String.ofList key, item) :: entries, rest)
          | _ => .error .malformed
        | _ => .error .malformed
      else .error .malformed
    | [] => .error .malformed

end

/-- The value that a text holds, with nothing but blanks around it. -/
def readWithin (text : String) : Except Fault Value := do
  let cs := text.toList
  let (result, rest) ← value limit (2 * cs.length + 2) (skipSpace cs)
  if skipSpace rest = [] then return result else .error .malformed

end

/-- The value that a text holds, whole numbers being within the limit. -/
def read (text : String) : Except Fault Value := readWithin (some Numeral.digitLimit) text

end ScopedSearch.Json
