import LakeCatalog.Text.Graphic
import LakeCatalog.Text.Numeral

/-!
# Quoted text

A text in a message or a description stands between double quotes.  Quotes and backslashes
inside are escaped, the usual control characters have their letter, and every other character
that is not graphic is written as its code point in braces.
-/

namespace LakeCatalog.Text.Quoted

/-- A character inside quotes. -/
def escape (c : Char) : List Char :=
  if c = '\x00' then ['\\', '0']
  else if c = '\t' then ['\\', 't']
  else if c = '\n' then ['\\', 'n']
  else if c = '\r' then ['\\', 'r']
  else if c = '\x22' ∨ c = '\\' then ['\\', c]
  else if isGraphic c then [c]
  else ['\\', 'u', '\x7b'] ++ Numeral.writeHex c.toNat ++ ['\x7d']

/-- The text between double quotes. -/
def quote (s : String) : String :=
  String.ofList ('\x22' :: (s.toList.flatMap escape ++ ['\x22']))

end LakeCatalog.Text.Quoted
