import ScopedSearch.Text.Surrogate

/-!
# Percent encoding

Text as a component of a URL: the UTF-8 bytes of every character that is not unreserved are written
as `%` and two hexadecimal digits in upper case.
-/

namespace ScopedSearch.Text

/-- The marks that stand for themselves in a component. -/
def unreservedMarks : List Char :=
  ['-', '_', '.', '!', '~', '*', Char.ofNat 0x27, '(', ')']

/-- The character stands for itself in a component. -/
def isUnreserved (c : Char) : Bool := c.isAlphanum || unreservedMarks.contains c

/-- The hexadecimal digit in upper case of a number below 16. -/
def upperHexDigit (n : Nat) : Char := Char.ofNat (if n < 10 then 48 + n else 55 + n)

/-- A byte as `%` and two digits. -/
def percentByte (byte : UInt8) : List Char :=
  ['%', upperHexDigit (byte.toNat / 16), upperHexDigit (byte.toNat % 16)]

def percentChar (c : Char) : List Char :=
  if isUnreserved c then [c] else (String.utf8EncodeChar c).flatMap percentByte

/-- The text as a component of a URL. -/
def percentEncode (s : String) : String := String.ofList (s.toList.flatMap percentChar)

/-- A kept text as a component of a URL. A lone surrogate has no bytes. -/
def component? (s : String) : Option String := (release? s).map percentEncode

end ScopedSearch.Text
