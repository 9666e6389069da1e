import LakeCatalog.Text.Numeral

/-!
# Universally unique identifiers

A UUID is a number of thirty-two hexadecimal digits.  It is written in five groups, in small
letters; it may be given with or without hyphens, in either case of letters, in braces, or with
its URN mark.

* `Uuid` — thirty-two digits;
* `text`, `ofText?` — the canonical text, and the UUID of any of the accepted forms;
* `unspell?_spell` — digits that are written are read back.
-/

namespace LakeCatalog

/-- Thirty-two hexadecimal digits. -/
structure Uuid where
  digits : List (Fin 16)
  length_eq : digits.length = 32
deriving DecidableEq

namespace Uuid

/-- The UUID of zeros. -/
def nil : Uuid := ⟨List.replicate 32 ⟨0, by decide⟩, List.length_replicate⟩

instance : Inhabited Uuid := ⟨nil⟩

/-- The text of some digits, in small letters. -/
def spell (ds : List (Fin 16)) : List Char := ds.map fun d => Text.lowerDigit d.val

/-- The digits of a text. -/
def unspell? (cs : List Char) : Option (List (Fin 16)) :=
  cs.mapM fun c => (Text.digitValue? c).bind fun d => if h : d < 16 then some ⟨d, h⟩ else none

/-- Five groups with hyphens between them. -/
def grouped (cs : List Char) : List Char :=
  cs.take 8 ++ '-' :: ((cs.drop 8).take 4 ++ '-' :: ((cs.drop 12).take 4 ++
    '-' :: ((cs.drop 16).take 4 ++ '-' :: cs.drop 20)))

/-- The text without the hyphens between the five groups, if it has this form. -/
def ungrouped? (cs : List Char) : Option (List Char) :=
  let flat := cs.filter (· ≠ '-')
  if flat.length = 32 ∧ grouped flat = cs then some flat else none

/-- The canonical text. -/
def text (u : Uuid) : String := String.ofList (grouped (spell u.digits))

/-- The UUID of thirty-two digits without hyphens. -/
def ofDigits? (cs : List Char) : Option Uuid := do
  let ds ← unspell? cs
  if h : ds.length = 32 then some ⟨ds, h⟩ else none

/-- The UUID of five groups. -/
def ofGroups? (cs : List Char) : Option Uuid := (ungrouped? cs).bind ofDigits?

/-- The mark of a UUID that is given as a URN. -/
def urnMark : List Char := "urn:uuid:".toList

/-- The UUID of a text. -/
def ofText? (s : String) : Option Uuid :=
  let cs := s.toList
  if cs.length = 32 then ofDigits? cs
  else if cs.head? = some '\x7b' ∧ cs.getLast? = some '\x7d' then ofGroups? (cs.drop 1).dropLast
  else if cs.take 9 = urnMark then ofGroups? (cs.drop 9)
  else ofGroups? cs

theorem unspell?_spell (ds : List (Fin 16)) : unspell? (spell ds) = some ds := by
  induction ds with
  | nil => rfl
  | cons d ds ih =>
    simp only [unspell?, spell, List.map_cons, List.mapM_cons] at ih ⊢
    simp [Text.digitValue?_lowerDigit d.isLt, ih]

end Uuid

end LakeCatalog
