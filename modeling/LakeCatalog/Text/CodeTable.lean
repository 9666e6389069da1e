import LakeCatalog.Text.Numeral
import LakeCatalog.Text.Segments

/-!
# Tables of code points

Properties of characters are kept in tables.  A table is a list of lines; a line holds records
with a space between them, and a record holds numbers in base sixteen with points between them.

* `records`, `ranges` — the records of a table, and a table of single code points and of ranges
  with both ends;
* `inRanges` — whether a code point is in one of the ranges.
-/

namespace LakeCatalog.Text

/-- The numbers of the records of a table. -/
def records (lines : List String) : List (List Nat) :=
  lines.flatMap fun line => (splitOn ' ' line.toList).map fun record =>
    (splitOn '.' record).filterMap (Numeral.read? 16)

/-- The ranges of a table; a record with one number is a range by itself. -/
def ranges (lines : List String) : List (Nat × Nat) :=
  (records lines).filterMap fun
    | [n] => some (n, n)
    | [m, n] => some (m, n)
    | _ => none

/-- Whether the code point lies in one of the ranges. -/
def inRanges (rs : List (Nat × Nat)) (n : Nat) : Bool :=
  rs.any fun r => r.1 ≤ n && n ≤ r.2

end LakeCatalog.Text
