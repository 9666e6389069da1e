import LakeCatalog.Json.Basic
import LakeCatalog.Json.Spelled

/-!
# Reading and writing JSON files

Files are read strictly: numbers have to follow the grammar of the format and must not be too
great, and every escape has to be good, also in members that nobody asks for.

* `parse?`, `parseBytes?` — the value of a text, with containers nested at most `maxDepth` deep;
* `spelled`, `render` — the spelling and the text of a value, without spaces.
-/

namespace LakeCatalog.Json

/-- Containers may be nested this deep. -/
def maxDepth : Nat := 127

/-! ### Numbers -/

open Decimal (Spelling)

/-- Adds digits to a significand as long as it fits 64 bits: the significand, and how many digits
are left. -/
def gather (n : Nat) : List Char → Nat × Nat
  | [] => (n, 0)
  | c :: cs =>
    let m := n * 10 + (Text.digitValue? c).getD 0
    if m < 0x10000000000000000 then gather m cs else (n, cs.length + 1)

/-- The significand of 64 bits and the exponent that a number is read with.  Digits that do not
fit are dropped; of those before the point the exponent keeps count. -/
def scientific (s : Spelling) : Nat × Int :=
  let whole := gather 0 s.whole
  let all := gather whole.1 s.places
  (all.1, s.power + whole.2 - (s.places.length - all.2 : Nat))

/-- Whether a number is in the range of double precision.  What counts is the product of the
significand and the power of ten, each of them in double precision. -/
def inRange (s : Spelling) : Bool :=
  let (significand, exponent) := scientific s
  if significand = 0 ∨ exponent ≤ 0 then true
  else if 308 < exponent then false
  else
    let a := Double.nearest significand 1
    let b := Double.nearest (Nat.pow 10 exponent.toNat) 1
    Double.isBelow ⟨a.significand * b.significand, a.exponent + b.exponent⟩
      (Double.limit - Nat.pow 2 970)

/-- Whether a number follows the grammar of the format: only zero begins with a zero, and there
are digits on both sides of a point. -/
def isStandard (s : Spelling) : Bool :=
  s.isNumber && (match s.whole with
    | [] => false
    | c :: cs => cs.isEmpty || c ≠ '0') && s.fraction.all fun ds => !ds.isEmpty

/-- The value of a number: whole numbers of at most 64 bits are kept apart from all others. -/
def numberValue? (cs : List Char) : Option Json := do
  let s ← Spelling.ofText? cs
  if isStandard s then
    if s.isPlain ∧ IsWord s.integer ∧ ¬(s.negative ∧ s.integer = 0) then some (.int s.integer)
    else if inRange s then some (.decimal s.value) else none
  else none

/-- The spelling of a decimal. -/
def decimalSpelling (d : Decimal) : List Char :=
  (if d.negative then ['-'] else []) ++ Text.Numeral.write d.mantissa
    ++ 'e' :: (Text.Numeral.intText d.exponent).toList

/-! ### Values -/

/-- The text of a spelling. -/
def textValue? (cs : List Char) : Option String := (unescape? cs).map String.ofList

mutual

/-- The value of a spelling. -/
def Spelled.value? : Spelled → Option Json
  | .null => some .null
  | .bool b => some (.bool b)
  | .number cs => numberValue? cs
  | .text cs => (textValue? cs).map .str
  | .arr vs => (Spelled.valuesOfItems? vs).map .arr
  | .obj ms => (Spelled.valuesOfMembers? ms).map .obj

/-- The values of some items. -/
def Spelled.valuesOfItems? : List Spelled → Option (List Json)
  | [] => some []
  | v :: vs =>
    match v.value?, Spelled.valuesOfItems? vs with
    | some j, some js => some (j :: js)
    | _, _ => none

/-- The values of some members. -/
def Spelled.valuesOfMembers? : List (List Char × Spelled) → Option (List (String × Json))
  | [] => some []
  | (k, v) :: ms =>
    match textValue? k, v.value?, Spelled.valuesOfMembers? ms with
    | some k, some j, some js => some ((k, j) :: js)
    | _, _, _ => none

end

mutual

/-- The spelling of a value. -/
def spelled : Json → Spelled
  | .null => .null
  | .bool b => .bool b
  | .int i => .number (Text.Numeral.intText i).toList
  | .decimal d => .number (decimalSpelling d)
  | .str s => .text (escape s)
  | .arr js => .arr (spelledItems js)
  | .obj ms => .obj (spelledMembers ms)

/-- The spellings of some items. -/
def spelledItems : List Json → List Spelled
  | [] => []
  | j :: js => spelled j :: spelledItems js

/-- The spellings of some members. -/
def spelledMembers : List (String × Json) → List (List Char × Spelled)
  | [] => []
  | (k, j) :: ms => (escape k, spelled j) :: spelledMembers ms

end

/-- The value of a text. -/
def parse? (s : String) : Option Json := do
  let v ← Spelled.parse? s
  if v.depth ≤ maxDepth then v.value? else none

/-- The value of bytes, which have to be UTF-8. -/
def parseBytes? (b : ByteArray) : Option Json := (String.fromUTF8? b).bind parse?

/-- The text of a value, without spaces. -/
def render (j : Json) : String := j.spelled.render

end LakeCatalog.Json
