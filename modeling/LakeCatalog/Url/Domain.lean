import LakeCatalog.Url.Domain.Label
import LakeCatalog.Url.Domain.Mapping
import LakeCatalog.Url.Domain.Punycode

/-!
# Domain names

The host of a URL of a well-known scheme is a domain name, and its letters may lie outside ASCII.
Equivalent names are the same name, and a label that begins with `xn--` holds letters beyond
ASCII in coded form.  A name is refused when it holds a character that has a meaning in URLs or
that no name may hold, a coded label that does not decode to what it should, or a label that
breaks the rules for labels.

* `normalize?` — the name that stands for all equivalent ones, or none when it is refused.
-/

namespace LakeCatalog.Url.Domain

open Text (splitOn Direction)

/-- Characters with a meaning of their own in a URL, and all controls. -/
def isReserved (c : Char) : Bool :=
  c.toNat ≤ 0x20 || c.toNat == 0x7F ||
    ['%', '#', '/', ':', '<', '>', '?', '@', '[', '\\', ']', '^', '|'].contains c

/-- The mark of a coded label. -/
def codedMark : List Char := ['x', 'n', '-', '-']

/-- Coded labels may have this length after their mark. -/
def maxCodedLength : Nat := 2000

/-- The characters of a coded label, given without its mark.  It has to hold some beyond ASCII,
and be the label that all equivalent ones have in common. -/
def decodeLabel? (cs : List Char) : Option (List Char) :=
  if cs.getLast? = some '-' ∨ maxCodedLength < cs.length ∨ !cs.all isAscii then none
  else (Punycode.decode? cs).filter fun label => !label.all isAscii && isStable label

/-- The characters of a label. -/
def readLabel? (cs : List Char) : Option (List Char) :=
  if cs.take codedMark.length = codedMark then decodeLabel? (cs.drop codedMark.length)
  else some cs

/-- Whether labels can stand in one name. -/
def areValid (labels : List (List Char)) : Bool :=
  labels.all Label.isValid
    && (labels.all (fun label => label.all fun c => !(Direction.of c).isRight)
      || labels.all Label.hasDirection)

/-- The name that stands for all equivalent ones, or none when it is refused. -/
def normalize? (cs : List Char) : Option (List Char) := do
  let name ← prepare? cs
  if name.any isReserved then none
  else
    let labels ← (splitOn '.' name).mapM readLabel?
    if areValid labels then some name else none

end LakeCatalog.Url.Domain
