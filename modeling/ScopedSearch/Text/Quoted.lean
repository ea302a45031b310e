import ScopedSearch.Text.Printable
import ScopedSearch.Text.Surrogate

/-!
# Quoted text

Text in messages stands between apostrophes, or between double quotes when it holds an apostrophe
and no double quote. The mark and the backslash are escaped, as is every character that is not
printable and every lone surrogate.
-/

namespace ScopedSearch.Text

/-- The mark that text is put between unless it holds this mark and not the other. -/
def apostrophe : Char := Char.ofNat 0x27

def doubleQuote : Char := Char.ofNat 0x22

def quoteMark (cs : List Char) : Char :=
  if apostrophe ∈ cs && !(doubleQuote ∈ cs) then doubleQuote else apostrophe

/-- The hexadecimal digits of a number in lower case, zeros put in front up to `width`. -/
def hexDigits (width n : Nat) : List Char :=
  let digits := Nat.toDigits 16 n
  List.replicate (width - digits.length) '0' ++ digits

/-- The escape of a code, in as few digits as its width allows. -/
def escapeCode (code : Nat) : List Char :=
  if code < 0x100 then '\\' :: 'x' :: hexDigits 2 code
  else if code < 0x10000 then '\\' :: 'u' :: hexDigits 4 code
  else '\\' :: 'U' :: hexDigits 8 code

/-- A character inside a text that stands between `mark`s. -/
def escapeChar (mark c : Char) : List Char :=
  if c = mark || c = '\\' then ['\\', c]
  else if c = '\n' then ['\\', 'n']
  else if c = '\r' then ['\\', 'r']
  else if c = '\t' then ['\\', 't']
  else if isPrintable c then [c]
  else escapeCode c.toNat

/-- A code point of a text that stands between `mark`s. -/
def escapePoint (mark : Char) : CodePoint → List Char
  | .char c => escapeChar mark c
  | .surrogate unit => escapeCode unit

def quoteChars (cs : List Char) : List Char :=
  let mark := quoteMark cs
  mark :: (codePoints cs).flatMap (escapePoint mark) ++ [mark]

def quoted (s : String) : String := String.ofList (quoteChars s.toList)

end ScopedSearch.Text
