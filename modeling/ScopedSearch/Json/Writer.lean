import ScopedSearch.Query
import ScopedSearch.Number.Numeral
import ScopedSearch.Number.Shortest
import ScopedSearch.Text.Quoted

/-!
# Writing values as JSON

The most compact form: no blanks, every character above U+001F as it is except the quotation mark
and the backslash, and the keys of an object in their order. A value has no JSON form with a query tree
in it, or with a whole number that has more digits than may be read (`Json.Unwritable`); the first of
them is what writing fails at.
-/

namespace ScopedSearch.Json

open ScopedSearch.Text

/-- Numbers in JSON are laid out as in messages but for the special ones. -/
def floats : FloatLayout := ⟨-4, 15, 2, "NaN", "Infinity"⟩

def escapeChar (c : Char) : List Char :=
  if c = doubleQuote || c = '\\' then ['\\', c]
  else if c = '\n' then ['\\', 'n']
  else if c = '\r' then ['\\', 'r']
  else if c = '\t' then ['\\', 't']
  else if c.toNat = 0x08 then ['\\', 'b']
  else if c.toNat = 0x0c then ['\\', 'f']
  else if c.toNat < 0x20 then '\\' :: 'u' :: hexDigits 4 c.toNat
  else [c]

def stringChars (s : String) : List Char :=
  doubleQuote :: s.toList.flatMap escapeChar ++ [doubleQuote]

/-- Why a value has no JSON form. -/
inductive Unwritable where
  /-- There is a query tree in it. -/
  | queryTree
  /-- A whole number in it has too many digits. -/
  | numeralTooLong
  deriving DecidableEq, Repr

mutual

def chars : Value → Except Unwritable (List Char)
  | .null => .ok "null".toList
  | .bool b => .ok (if b then "true" else "false").toList
  | .int n => if Numeral.isShort n then .ok (toString n).toList else .error .numeralTooLong
  | .float x => .ok (floats.text x).toList
  | .string s => .ok (stringChars s)
  | .list items => (itemChars items).map fun inner => '[' :: inner ++ [']']
  | .map entries => (entryChars entries).map fun inner => '\x7b' :: inner ++ ['\x7d']
  | .query _ => .error .queryTree

/-- The items of a list with commas between them. -/
def itemChars : List Value → Except Unwritable (List Char)
  | [] => .ok []
  | [value] => chars value
  | value :: rest => do
    let head ← chars value
    let tail ← itemChars rest
    return head ++ ',' :: tail

/-- The entries of an object with commas between them. -/
def entryChars : List (String × Value) → Except Unwritable (List Char)
  | [] => .ok []
  | [(key, value)] => (chars value).map fun text => stringChars key ++ ':' :: text
  | (key, value) :: rest => do
    let head ← chars value
    let tail ← entryChars rest
    return stringChars key ++ ':' :: head ++ ',' :: tail

end

def write (value : Value) : Except Unwritable String := (chars value).map String.ofList

end ScopedSearch.Json
