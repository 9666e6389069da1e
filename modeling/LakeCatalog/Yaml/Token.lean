import LakeCatalog.Text.Numeral

/-!
# Tokens of YAML

A YAML text is first cut into tokens.  This file has the tokens, the classes of characters that
matter when cutting, and the place in a text.

* `Token`, `Style` — the tokens, and the ways to write a scalar;
* `clean?` — the text with one kind of line end, if it has no forbidden control character;
* `Place` — the rest of a text, with the line and column where it begins.
-/

namespace LakeCatalog.Yaml

/-- How a scalar is written. -/
inductive Style where
  | plain
  | quoted
  | literal
  | folded
deriving DecidableEq, Repr

/-- A token. -/
inductive Token where
  | streamEnd
  | version (major minor : Nat)
  | tagAlias (handle head : List Char)
  | documentStart
  | documentEnd
  | blockSequenceStart
  | blockMappingStart
  | blockEnd
  | flowSequenceStart
  | flowSequenceEnd
  | flowMappingStart
  | flowMappingEnd
  | blockEntry
  | flowEntry
  | key
  | value
  | aliasTo (name : List Char)
  | anchor (name : List Char)
  | tag (handle suffix : List Char)
  | scalar (text : List Char) (style : Style)
deriving DecidableEq, Repr

/-! ### Characters -/

/-- A character that ends a line.  Of the line ends only these are left in a clean text. -/
def isBreak (c : Char) : Bool := c = '\n' || c = '\u2028' || c = '\u2029'

/-- A space or tab. -/
def isBlank (c : Char) : Bool := c = ' ' || c = '\t'

/-- A character of a name. -/
def isWordChar (c : Char) : Bool :=
  Text.isDigit c || Text.isLetter c || c = '_' || c = '-'

/-- Whether a place holds a blank, a line end or nothing. -/
def isGap (c : Option Char) : Bool := c.all fun c => isBlank c || isBreak c

/-- Whether a place holds a line end or nothing. -/
def isLineEnd (c : Option Char) : Bool := c.all isBreak

/-- The characters that a text may hold. -/
def isAllowed (c : Char) : Bool :=
  let n := c.toNat
  n == 0x09 || n == 0x0A || n == 0x0D || (0x20 ≤ n && n ≤ 0x7E) || n == 0x85
    || (0xA0 ≤ n && n ≤ 0xFFFD) || 0x10000 ≤ n

/-- The text in which a carriage return, alone or before a line feed, and a next-line character
have become line feeds. -/
def unifyLineEnds : List Char → List Char
  | '\r' :: '\n' :: cs => '\n' :: unifyLineEnds cs
  | c :: cs => (if c = '\r' ∨ c = '\u0085' then '\n' else c) :: unifyLineEnds cs
  | [] => []

/-- The text with one kind of line end, if all its characters are allowed. -/
def clean? (cs : List Char) : Option (List Char) :=
  if cs.all isAllowed then some (unifyLineEnds cs) else none

/-! ### Places -/

/-- The rest of a text, and where it begins: how many bytes of the text, and how many of its
lines, lie before it, and the column in its line. -/
structure Place where
  rest : List Char
  index : Nat := 0
  line : Nat := 0
  column : Nat := 0

namespace Place

/-- The character at a distance. -/
def ahead (p : Place) (n : Nat) : Option Char := p.rest[n]?

/-- The place some characters further in the same line. -/
def skip (p : Place) (n : Nat) : Place :=
  { p with
    rest := p.rest.drop n
    index := p.index + (String.ofList (p.rest.take n)).utf8ByteSize
    column := p.column + n }

/-- The characters in front that all have a property. -/
def span (p : Place) (f : Char → Bool) : List Char := p.rest.takeWhile f

/-- The place behind the characters that all have a property; none of them may end a line. -/
def skipWhile (p : Place) (f : Char → Bool) : Place := p.skip (p.span f).length

/-- The place at the beginning of the next line, if a line ends here. -/
def skipBreak (p : Place) : Place :=
  match p.rest with
  | c :: cs =>
    if isBreak c then
      { rest := cs, index := p.index + c.utf8Size, line := p.line + 1, column := 0 }
    else p
  | [] => p

/-- The line end that stands here, or nothing. -/
def lineBreak (p : Place) : List Char :=
  match p.rest with
  | c :: _ => if isBreak c then [c] else []
  | [] => []

/-- Whether a line begins here with a mark between documents. -/
def atDocumentMark (p : Place) : Bool :=
  p.column = 0 && (p.rest.take 3 = ['-', '-', '-'] || p.rest.take 3 = ['.', '.', '.'])
    && isGap (p.ahead 3)

end Place

end LakeCatalog.Yaml
